import PolicyServer.Text.Shapeless

/-! Texts in quotation marks, as messages cite them. -/

namespace PolicyServer.Text

/-- A character written by its code point in small hexadecimal digits. -/
def byCodePoint (c : Char) : List Char :=
  ['\\', 'u', '{'] ++ Nat.toDigits 16 c.toNat ++ ['}']

/-- How one character stands between quotation marks. -/
def quoteChar (c : Char) : List Char :=
  if c = '"' then ['\\', '"']
  else if c = '\\' then ['\\', '\\']
  else if c = '\n' then ['\\', 'n']
  else if c = '\r' then ['\\', 'r']
  else if c = '\t' then ['\\', 't']
  else if c.toNat = 0 then ['\\', '0']
  else if c.toNat < 0x20 ∨ c.toNat = 0x7F then byCodePoint c
  else if c.toNat < 0x7F then [c]
  else if isShapeless c then byCodePoint c
  else [c]

/-- The text in quotation marks, with what could not be read back escaped. -/
def quote (text : String) : String :=
  String.ofList ('"' :: (text.toList.flatMap quoteChar ++ ['"']))

end PolicyServer.Text
