import PolicyServer.Decimal.Shortest
import PolicyServer.Json.Value
import PolicyServer.Text.Utf8

/-! The text of a JSON value: no blanks, members in the order they stand in. -/

namespace PolicyServer.Json

def escapeChar (c : Char) : List Char :=
  if c = '"' then ['\\', '"']
  else if c = '\\' then ['\\', '\\']
  else if c.toNat < 0x20 then
    if c = '\n' then ['\\', 'n']
    else if c = '\r' then ['\\', 'r']
    else if c = '\t' then ['\\', 't']
    else if c.toNat = 0x8 then ['\\', 'b']
    else if c.toNat = 0xC then ['\\', 'f']
    else ['\\', 'u', '0', '0', Nat.digitChar (c.toNat / 16), Nat.digitChar (c.toNat % 16)]
  else [c]

def writeText (text : String) : List Char :=
  '"' :: (text.toList.flatMap escapeChar ++ ['"'])

def writeInt : Int → List Char
  | .ofNat n => Nat.toDigits 10 n
  | .negSucc n => '-' :: Nat.toDigits 10 (n + 1)

/-- A decimal with a point after the given number of its digits, a zero on either side if bare. -/
def writePositional (digits : List Char) (whole : Int) : List Char :=
  if whole ≤ 0 then
    ['0', '.'] ++ List.replicate (-whole).toNat '0' ++ digits
  else if digits.length ≤ whole.toNat then
    digits ++ List.replicate (whole.toNat - digits.length) '0' ++ ['.', '0']
  else digits.take whole.toNat ++ ['.'] ++ digits.drop whole.toNat

/-- A decimal with a point after its first digit and the power of ten after the mark `e`. -/
def writeScientific (digits : List Char) (exponent : Int) : List Char :=
  let coefficient := match digits with
    | first :: second :: rest => first :: '.' :: second :: rest
    | short => short
  let sign := if exponent < 0 then '-' else '+'
  coefficient ++ ['e', sign] ++ Nat.toDigits 10 exponent.natAbs

/-- The text of a finite double: the fewest digits that read back, a point always shown,
positional for powers of ten from -5 through 15. -/
def writeFloat (bits : UInt64) : List Char :=
  let magnitude := bits.toNat % 0x8000000000000000
  let sign := if bits.toNat < 0x8000000000000000 then [] else ['-']
  if magnitude = 0 then sign ++ ['0', '.', '0']
  else
    let decimal := Decimal.shortest magnitude
    let digits := Nat.toDigits 10 decimal.coefficient
    if -5 ≤ decimal.exponent ∧ decimal.exponent ≤ 15 then
      sign ++ writePositional digits (decimal.exponent + 1)
    else sign ++ writeScientific digits decimal.exponent

mutual

def write : Json → List Char
  | .null => ['n', 'u', 'l', 'l']
  | .bool true => ['t', 'r', 'u', 'e']
  | .bool false => ['f', 'a', 'l', 's', 'e']
  | .int value => writeInt value
  | .float bits => writeFloat bits
  | .str text => writeText text
  | .arr [] => ['[', ']']
  | .arr (item :: rest) => '[' :: (write item ++ writeItems rest)
  | .obj [] => ['{', '}']
  | .obj ((key, value) :: rest) =>
    '{' :: (writeText key ++ ':' :: (write value ++ writeMembers rest))

/-- The further items of an array and its end. -/
def writeItems : List Json → List Char
  | [] => [']']
  | item :: rest => ',' :: (write item ++ writeItems rest)

/-- The further members of an object and its end. -/
def writeMembers : List (String × Json) → List Char
  | [] => ['}']
  | (key, value) :: rest =>
    ',' :: (writeText key ++ ':' :: (write value ++ writeMembers rest))

end

def render (value : Json) : String := String.ofList value.write

def toBytes (value : Json) : Bytes := Utf8.encode value.write

end PolicyServer.Json
