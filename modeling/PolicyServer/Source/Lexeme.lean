import PolicyServer.Source.Space

/-! The tokens of a TypeScript source: the bytes that each of them may have. -/

namespace PolicyServer.Source

/-- What a token is. A string tells where its first run of plain characters lies. -/
inductive Kind where
  | word (name : Bytes)
  | mark (text : String)
  | string (run : Option (Nat × Nat))
  | hidden
  | number
  | regex
  | template
  /-- The line that names the interpreter, or what fits nowhere. -/
  | other
  deriving DecidableEq, Repr

/-- A token and the bytes it takes, from `start` up to `stop`. -/
structure Token where
  kind : Kind
  start : Nat
  stop : Nat
  deriving DecidableEq, Repr

def isDigit (b : UInt8) : Bool := 0x30 ≤ b && b ≤ 0x39

def isHexDigit (b : UInt8) : Bool :=
  isDigit b || (0x41 ≤ b && b ≤ 0x46) || (0x61 ≤ b && b ≤ 0x66)

def isOctalDigit (b : UInt8) : Bool := 0x30 ≤ b && b ≤ 0x37

def isBinaryDigit (b : UInt8) : Bool := b == 0x30 || b == 0x31

/-- How many bytes the character has that a text begins with. -/
def charLength : Bytes → Nat
  | [] => 0
  | b :: _ => if b < 0xC0 then 1 else if b < 0xE0 then 2 else if b < 0xF0 then 3 else 4

/-- How many bytes the character of a word takes that a text begins with: a letter, a digit, any
character beyond ASCII that is not blank, or an escape. -/
def wordPieceLength : Bytes → Nat
  | 0x5C :: 0x75 :: 0x7B :: rest =>
    let digits := rest.takeWhile isHexDigit
    if digits ≠ [] ∧ (rest.drop digits.length).head? = some 0x7D then digits.length + 4 else 0
  | 0x5C :: 0x75 :: rest => if ((rest.take 4).takeWhile isHexDigit).length = 4 then 6 else 0
  | b :: rest =>
    if isLetter b ∨ isDigit b ∨ b = 0x5F ∨ b = 0x24 ∨ b = 0x7F then 1
    else if 0x80 ≤ b ∧ blankLength (b :: rest) = 0 then 1
    else 0
  | [] => 0

/-- How many bytes of a word a text begins with; no word begins with a digit. -/
def wordLength (bytes : Bytes) : Nat :=
  if bytes.head?.any isDigit then 0 else spanLength wordPieceLength 0 bytes

/-- How many bytes of digits a text begins with. After the first digit single underscores may stand
between them. -/
def digitsLength (accepts : UInt8 → Bool) : Bool → Bytes → Nat
  | _, [] => 0
  | begun, b :: rest =>
    if accepts b ∨ begun ∧ b = 0x5F ∧ rest.head?.any accepts then
      digitsLength accepts (accepts b) rest + 1
    else 0

/-- How many bytes of an exponent a text begins with. -/
def exponentLength : Bytes → Nat
  | b :: rest =>
    if b = 0x65 ∨ b = 0x45 then
      let sign := if rest.head? = some 0x2B ∨ rest.head? = some 0x2D then 1 else 0
      match digitsLength isDigit false (rest.drop sign) with
      | 0 => 0
      | length => length + sign + 1
    else 0
  | [] => 0

/-- How many bytes of a whole number in another base a text begins with, its mark included. -/
def basedLength : Bytes → Nat
  | 0x30 :: base :: rest =>
    let accepts :=
      if base = 0x78 ∨ base = 0x58 then isHexDigit
      else if base = 0x62 ∨ base = 0x42 then isBinaryDigit
      else if base = 0x6F ∨ base = 0x4F then isOctalDigit
      else fun _ => false
    match digitsLength accepts false rest with
    | 0 => 0
    | length => length + 2
  | _ => 0

/-- How many bytes of a decimal number a text begins with. Only a number without needless zeros has
a fraction or an exponent. -/
def decimalLength (bytes : Bytes) : Nat :=
  let whole := digitsLength isDigit false bytes
  let rest := bytes.drop whole
  let isPlain := whole = 1 ∨ bytes.head? ≠ some 0x30 ∨
    (bytes.drop 1).head?.any fun b => isDigit b && b != 0x30
  if rest.head? = some 0x2E ∧ isPlain ∧ (whole ≠ 0 ∨ (rest.drop 1).head?.any isDigit) then
    let fraction := digitsLength isDigit false (rest.drop 1)
    whole + 1 + fraction + exponentLength (rest.drop (fraction + 1))
  else if whole ≠ 0 ∧ isPlain ∧ exponentLength rest ≠ 0 then whole + exponentLength rest
  else if whole ≠ 0 ∧ rest.head? = some 0x6E then whole + 1
  else whole

def numberLength (bytes : Bytes) : Nat :=
  match basedLength bytes with
  | 0 => decimalLength bytes
  | length => if (bytes.drop length).head? = some 0x6E then length + 1 else length

/-- How many bytes belong to the escape whose backslash stands before the text. -/
def escapeLength : Bytes → Nat
  | 0x78 :: _ => 3
  | 0x75 :: 0x7B :: rest => (rest.takeWhile (· ≠ 0x7D)).length + 3
  | 0x75 :: _ => 5
  | b :: rest =>
    if isOctalDigit b then min 3 ((b :: rest).takeWhile isOctalDigit).length
    else if (b = 0x0D ∨ b = 0x3F) ∧ isLineEnd rest ∧ rest.head? ≠ some 0x0D then
      1 + charLength rest
    else charLength (b :: rest)
  | [] => 0

/-- The length of a string after its quotation mark, that included at the end, and the first run of
plain characters. `place` counts the bytes, `skip` those that an escape still takes. -/
def scanString (quote : UInt8) :
    Nat → Nat → Option Nat → Option (Nat × Nat) → Bytes → Option (Nat × Option (Nat × Nat))
  | _, _, _, _, [] => none
  | place, skip + 1, run, found, _ :: rest => scanString quote (place + 1) skip run found rest
  | place, 0, run, found, b :: rest =>
    if b = quote then some (place + 1, found <|> run.map (·, place))
    else if b = 0x5C then
      scanString quote (place + 1) (escapeLength rest) none (found <|> run.map (·, place)) rest
    else if b = 0x0A ∨ b = 0x0D then none
    else scanString quote (place + 1) 0 (run <|> some place) found rest

/-- The length of a piece of a template, its closing included, and whether it ends the template. -/
def scanTemplate : Nat → Bool → Bytes → Option (Nat × Bool)
  | _, _, [] => none
  | place, true, _ :: rest => scanTemplate (place + 1) false rest
  | place, false, b :: rest =>
    if b = 0x60 then some (place + 1, true)
    else if b = 0x24 ∧ rest.head? = some 0x7B then some (place + 2, false)
    else scanTemplate (place + 1) (b = 0x5C) rest

/-- The length of a regular expression after its first slash, up to and with the last one. Between
square brackets a slash ends nothing. -/
def scanRegex : Nat → Bool → Bool → Bytes → Option Nat
  | _, _, _, [] => none
  | place, escaped, inside, b :: rest =>
    if b = 0x0A then none
    else if escaped then scanRegex (place + 1) false inside rest
    else if b = 0x2F ∧ !inside then some (place + 1)
    else
      scanRegex (place + 1) (b = 0x5C)
        (if b = 0x5B then true else if b = 0x5D then false else inside) rest

/-- The marks between two operands, longer ones before those they begin with. -/
def operatorMarks : List String :=
  [">>>=", "===", "!==", "**=", "<<=", ">>=", ">>>", "&&=", "||=", "??=", "==", "!=", "<=", ">=",
    "&&", "||", "??", "**", "<<", ">>", "+=", "-=", "*=", "/=", "%=", "&=", "|=", "^=", "=", "<",
    ">", "+", "-", "*", "/", "%", "&", "|", "^"]

def beginsWithAny (marks : List String) (bytes : Bytes) : Bool :=
  marks.any fun mark => (Bytes.ofText mark).isPrefixOf bytes

/-- The pieces of a template: all of it, or what stands before, between and after its values. -/
inductive Piece where
  | whole
  | head
  | middle
  | tail
  deriving DecidableEq, Repr

/-- What a grammar may ask for at one place. -/
inductive Lexeme where
  | word (text : String)
  | anyWord
  /-- A name that only its own class sees. -/
  | hidden
  | number
  | string
  | regex
  | template (piece : Piece)
  /-- The mark given, unless one of the others stands there. -/
  | mark (text : String) (others : List String)
  | operator
  /-- The question mark of a choice. -/
  | question
  /-- The dot that gives nothing for a missing value. -/
  | optionalDot
  /-- The line at the head of a source that names its interpreter. -/
  | interpreter
  | any
  deriving DecidableEq, Repr

namespace Lexeme

/-- A token of so many bytes, if there are any. -/
def sized (kind : Kind) : Nat → Option (Kind × Nat)
  | 0 => none
  | length + 1 => some (kind, length + 1)

/-- The string that a text begins with, at its place in the source. -/
def stringAt (place : Nat) : Bytes → Option (Kind × Nat)
  | [] => none
  | b :: rest =>
    if b = 0x22 ∨ b = 0x27 then
      (scanString b 1 0 none none rest).map fun (length, run) =>
        (.string (run.map fun (start, stop) => (place + start, place + stop)), length)
    else none

def templateAt (piece : Piece) : Bytes → Option (Kind × Nat)
  | [] => none
  | b :: rest =>
    let opening : UInt8 := if piece = .whole ∨ piece = .head then 0x60 else 0x7D
    let ended : Bool := piece = .whole || piece = .tail
    if b = opening then
      match scanTemplate 1 false rest with
      | some (length, ends) => if ends = ended then some (.template, length) else none
      | none => none
    else none

/-- The regular expression that a text begins with, its flags included. -/
def regexAt : Bytes → Option (Kind × Nat)
  | 0x2F :: rest =>
    match scanRegex 1 false false rest with
    | some length =>
      let flags := (rest.drop (length - 1)).takeWhile fun b => 0x61 ≤ b && b ≤ 0x7A
      if length ≤ 2 then none else some (.regex, length + flags.length)
    | none => none
  | _ => none

/-- The token that a text begins with, whatever it is. -/
def anyAt (place : Nat) (bytes : Bytes) : Option (Kind × Nat) :=
  let length := wordLength bytes
  sized (.word (bytes.take length)) length <|> sized .number (numberLength bytes) <|>
    stringAt place bytes <|> templateAt .whole bytes <|>
    sized .other (bytes.take (charLength bytes)).length

/-- Whether a question mark and a dot come next, and no fraction begins with the dot. -/
def isOptionalDot (bytes : Bytes) : Bool :=
  beginsWithAny ["?."] bytes && !(bytes.drop 2).head?.any isDigit

/-- The token of the kind asked for that a text begins with, and how many bytes it takes. -/
def read (place : Nat) (bytes : Bytes) : Lexeme → Option (Kind × Nat)
  | .word text =>
    let name := Bytes.ofText text
    if name.isPrefixOf bytes && wordPieceLength (bytes.drop name.length) = 0 then
      sized (.word name) name.length
    else none
  | .anyWord =>
    let length := wordLength bytes
    sized (.word (bytes.take length)) length
  | .hidden =>
    match bytes with
    | 0x23 :: rest => if wordLength rest = 0 then none else some (.hidden, wordLength rest + 1)
    | _ => none
  | .number => sized .number (numberLength bytes)
  | .string => stringAt place bytes
  | .regex => regexAt bytes
  | .template piece => templateAt piece bytes
  | .mark text others =>
    if beginsWithAny [text] bytes && !beginsWithAny others bytes then
      sized (.mark text) (Bytes.ofText text).length
    else none
  | .operator =>
    if beginsWithAny ["=>", "++", "--"] bytes then none
    else
      (operatorMarks.find? fun mark => beginsWithAny [mark] bytes).bind fun mark =>
        sized (.mark mark) (Bytes.ofText mark).length
  | .question =>
    if beginsWithAny ["?"] bytes && !beginsWithAny ["??"] bytes && !isOptionalDot bytes then
      some (.mark "?", 1)
    else none
  | .optionalDot => if isOptionalDot bytes then some (.mark "?.", 2) else none
  | .interpreter =>
    if beginsWithAny ["#!"] bytes then some (.other, (bytes.takeWhile (· ≠ 0x0A)).length) else none
  | .any => anyAt place bytes

end Lexeme

end PolicyServer.Source
