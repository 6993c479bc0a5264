import PolicyServer.Toml.Value

/-! Strings, numbers and other words of the settings format. -/

namespace PolicyServer.Toml

/-- Control characters, which stand nowhere in a document; a tab is none. -/
def isControl (c : Char) : Bool := (c.toNat < 0x20 && c ≠ '\t') || c.toNat = 0x7F

def isSpace (c : Char) : Bool := c = ' ' || c = '\t'

def hexDigit? (c : Char) : Option Nat :=
  if '0' ≤ c ∧ c ≤ '9' then some (c.toNat - 48)
  else if 'a' ≤ c ∧ c ≤ 'f' then some (c.toNat - 87)
  else if 'A' ≤ c ∧ c ≤ 'F' then some (c.toNat - 55)
  else none

/-- A character by the hexadecimal digits of its number. -/
def readCode (count : Nat) (chars : List Char) : Option (Char × List Char) := do
  let digits ← (chars.take count).mapM hexDigit?
  if digits.length ≠ count then none
  else
    let code := digits.foldl (fun value digit => 16 * value + digit) 0
    if code < 0xD800 ∨ 0xDFFF < code ∧ code < 0x110000 then
      some (Char.ofNat code, chars.drop count)
    else none

/-- A character written after a backslash. -/
def readEscaped : Reader Char
  | 'b' :: rest => some (Char.ofNat 8, rest)
  | 't' :: rest => some ('\t', rest)
  | 'n' :: rest => some ('\n', rest)
  | 'f' :: rest => some (Char.ofNat 12, rest)
  | 'r' :: rest => some ('\r', rest)
  | 'e' :: rest => some (Char.ofNat 27, rest)
  | '"' :: rest => some ('"', rest)
  | '\\' :: rest => some ('\\', rest)
  | 'x' :: rest => readCode 2 rest
  | 'u' :: rest => readCode 4 rest
  | 'U' :: rest => readCode 8 rest
  | _ => none

/-- The rest of a string on one line, with escapes; `done` holds its characters, last first. -/
def readBasic : Nat → List Char → Reader String
  | 0, _, _ => none
  | _ + 1, _, [] => none
  | fuel + 1, done, c :: rest =>
    if c = '"' then some (String.ofList done.reverse, rest)
    else if c = '\\' then do
      let (escaped, rest) ← readEscaped rest
      readBasic fuel (escaped :: done) rest
    else if isControl c then none
    else readBasic fuel (c :: done) rest

/-- The rest of a string on one line, as it stands. -/
def readLiteral (done : List Char) : Reader String
  | [] => none
  | c :: rest =>
    if c = '\'' then some (String.ofList done.reverse, rest)
    else if isControl c then none
    else readLiteral (c :: done) rest

def afterNewline? : List Char → Option (List Char)
  | '\n' :: rest => some rest
  | '\r' :: '\n' :: rest => some rest
  | _ => none

/-- The text without the line end it may begin with. -/
def dropNewline (chars : List Char) : List Char := (afterNewline? chars).getD chars

/-- The text from its first character that is no blank or line end. -/
def dropBlankLines : List Char → List Char
  | '\n' :: rest => dropBlankLines rest
  | '\r' :: '\n' :: rest => dropBlankLines rest
  | c :: rest => if isSpace c then dropBlankLines rest else c :: rest
  | [] => []

/-- The quotation marks at the head of a text, and the text after them. -/
def spanMarks (mark : Char) (chars : List Char) : Nat × List Char :=
  let marks := chars.takeWhile (· = mark)
  (marks.length, chars.drop marks.length)

/-- The rest of a string over several lines. `escapes` tells whether a backslash means anything;
before the end of a line it joins the lines. A line end is kept as it is written. -/
def readLines (mark : Char) (escapes : Bool) : Nat → List Char → Reader String
  | 0, _, _ => none
  | _ + 1, _, [] => none
  | fuel + 1, done, c :: rest =>
    if c = mark then
      let (count, rest) := spanMarks mark (c :: rest)
      if count < 3 then readLines mark escapes fuel (List.replicate count mark ++ done) rest
      else if count ≤ 5 then
        some (String.ofList (List.replicate (count - 3) mark ++ done).reverse, rest)
      else none
    else if escapes && c = '\\' then
      match afterNewline? (rest.dropWhile isSpace) with
      | some after => readLines mark escapes fuel done (dropBlankLines after)
      | none => do
        let (escaped, rest) ← readEscaped rest
        readLines mark escapes fuel (escaped :: done) rest
    else
      match afterNewline? (c :: rest) with
      | some after =>
        let lineEnd := if c = '\r' then ['\n', '\r'] else ['\n']
        readLines mark escapes fuel (lineEnd ++ done) after
      | none => if isControl c then none else readLines mark escapes fuel (c :: done) rest

def readLineString : Reader String
  | '"' :: rest => readBasic (rest.length + 1) [] rest
  | '\'' :: rest => readLiteral [] rest
  | _ => none

def readString : Reader String
  | '"' :: '"' :: '"' :: rest => readLines '"' true (rest.length + 1) [] (dropNewline rest)
  | '\'' :: '\'' :: '\'' :: rest => readLines '\'' false (rest.length + 1) [] (dropNewline rest)
  | other => readLineString other

/-- The number of digits in which every underscore stands between two digits. -/
def number? (base : Nat) (chars : List Char) : Option Nat :=
  let wellPlaced := chars.head? ≠ some '_' && chars.getLast? ≠ some '_' && !chars.isEmpty &&
    !(chars.zip (chars.drop 1)).contains ('_', '_')
  if wellPlaced then do
    let digits ← (chars.filter (· ≠ '_')).mapM fun c => (hexDigit? c).filter (· < base)
    some (digits.foldl (fun value digit => base * value + digit) 0)
  else none

/-- The number of decimal digits that do not begin with an idle zero. -/
def decimal? (chars : List Char) : Option Nat :=
  match chars with
  | '0' :: _ :: _ => none
  | _ => number? 10 chars

/-- The sign at the head of a text: whether it is a minus, and the text after it. -/
def splitSign : List Char → Bool × List Char
  | '+' :: rest => (false, rest)
  | '-' :: rest => (true, rest)
  | rest => (false, rest)

/-- A power of ten after its mark. -/
def exponent? (chars : List Char) : Option Int :=
  let (negative, digits) := splitSign chars
  (number? 10 digits).map fun n => if negative then -(n : Int) else n

/-- The digits of a number with a point or an exponent, and the power of ten they are scaled by. -/
def scaled? (chars : List Char) : Option (Nat × Int) := do
  let isMark (c : Char) := c = 'e' || c = 'E'
  let mantissa := chars.takeWhile (!isMark ·)
  let exponent := chars.drop mantissa.length
  let whole := mantissa.takeWhile (· ≠ '.')
  let fraction := mantissa.drop whole.length
  if (decimal? whole).isNone ∨ (fraction.isEmpty ∧ exponent.isEmpty) then none
  else
    let places := (fraction.drop 1).filter (· ≠ '_')
    if !fraction.isEmpty ∧ (number? 10 (fraction.drop 1)).isNone then none
    else
      let power ← if exponent.isEmpty then some 0 else exponent? (exponent.drop 1)
      let digits ← number? 10 (whole ++ places)
      some (digits, power - places.length)

/-- Whether a number is past all doubles: nearer to the power of two after them than to the last of
them, or halfway. -/
def isPastDoubles (digits : Nat) (power : Int) : Bool :=
  let bound := Nat.pow 2 1024 - Nat.pow 2 970
  if digits = 0 then false
  else if 400 < power then true
  else if 0 ≤ power then bound ≤ digits * Nat.pow 10 power.toNat
  else if (toString digits).length ≤ power.natAbs then false
  else bound * Nat.pow 10 power.natAbs ≤ digits

/-- Whether a text is a floating-point number that a double can hold. -/
def isFloat (chars : List Char) : Bool :=
  let chars := (splitSign chars).2
  if chars = "inf".toList ∨ chars = "nan".toList then true
  else
    match scaled? chars with
    | some (digits, power) => !isPastDoubles digits power
    | none => false

def int? (chars : List Char) : Option Int :=
  match chars with
  | '0' :: 'x' :: digits => (number? 16 digits).map Int.ofNat
  | '0' :: 'o' :: digits => (number? 8 digits).map Int.ofNat
  | '0' :: 'b' :: digits => (number? 2 digits).map Int.ofNat
  | _ =>
    let (negative, digits) := splitSign chars
    (decimal? digits).map fun n => if negative then -(n : Int) else n

/-- The value of a word that is no string; whole numbers have at most 128 bits. -/
def scalar? (chars : List Char) : Option Value :=
  if chars = "true".toList then some (.bool true)
  else if chars = "false".toList then some (.bool false)
  else
    match int? chars with
    | some n =>
      if -0x80000000000000000000000000000000 ≤ n ∧ n < 0x100000000000000000000000000000000 then
        some (.int n)
      else none
    | none =>
      if isFloat chars then some (.float (String.ofList chars))
      else (moment? chars).map .date

def isWordChar (c : Char) : Bool :=
  c.isAlphanum || c = '+' || c = '-' || c = '.' || c = ':' || c = '_'

/-- A value that is a word. A day and a time may have a blank between them. -/
def readScalar (chars : List Char) : Option (Value × List Char) := do
  let word := chars.takeWhile isWordChar
  let rest := chars.drop word.length
  let joined := match rest with
    | ' ' :: c :: more =>
      if (readDay word).map Prod.snd = some [] && c.isDigit then
        let time := (c :: more).takeWhile isWordChar
        some (word ++ ' ' :: time, (c :: more).drop time.length)
      else none
    | _ => none
  let (word, rest) := joined.getD (word, rest)
  let value ← scalar? word
  some (value, rest)

end PolicyServer.Toml
