import PolicyServer.Toml.Scalar

/-! Reading documents of the settings format. -/

namespace PolicyServer.Toml

/-- The text from its first character that is no blank. -/
def dropSpaces (chars : List Char) : List Char := chars.dropWhile isSpace

/-- The text after a comment, if there is one. -/
def dropComment (chars : List Char) : List Char :=
  match chars with
  | '#' :: rest => rest.dropWhile (!isControl ·)
  | other => other

/-- The text from what is no blank, comment or line end. -/
def dropFiller : Nat → List Char → List Char
  | 0, chars => chars
  | fuel + 1, chars =>
    let rest := dropComment (dropSpaces chars)
    match afterNewline? rest with
    | some rest => dropFiller fuel rest
    | none => rest

/-- The characters of keys without quotation marks. -/
def isKeyChar (c : Char) : Bool := c.isAlphanum || c = '-' || c = '_'

def readKeyPart (chars : List Char) : Option (String × List Char) :=
  let part := chars.takeWhile isKeyChar
  if part.isEmpty then readLineString chars
  else some (String.ofList part, chars.drop part.length)

/-- How deep arrays and tables may lie inside one another, and how many parts a key may have. -/
def depthLimit : Nat := 80

/-- A key of at most so many parts, with dots between them. -/
def readKeyParts : Nat → Reader (List String)
  | 0, _ => none
  | limit + 1, chars => do
    let (part, rest) ← readKeyPart (dropSpaces chars)
    match dropSpaces rest with
    | '.' :: rest => do
      let (parts, rest) ← readKeyParts limit rest
      some (part :: parts, rest)
    | rest => some ([part], rest)

def readKey (chars : List Char) : Option (List String × List Char) := readKeyParts depthLimit chars

/-- Splits the last part from a key. -/
def splitKey (parts : List String) : List String × String :=
  (parts.dropLast, parts.getLastD "")

/-- The items of an array up to its end; `done` holds them, last first. -/
def readItems (item : Reader Value) : Nat → List Value → Reader Value
  | 0, _, _ => none
  | fuel + 1, done, chars =>
    match dropFiller (chars.length + 1) chars with
    | ']' :: rest => some (.arr done.reverse, rest)
    | chars => do
      let (value, rest) ← item chars
      match dropFiller (rest.length + 1) rest with
      | ',' :: rest => readItems item fuel (value :: done) rest
      | ']' :: rest => some (.arr (value :: done).reverse, rest)
      | _ => none

def readAssignment (item : Reader Value) (chars : List Char) :
    Option ((List String × Value) × List Char) := do
  let (parts, rest) ← readKey chars
  match rest with
  | '=' :: rest => do
    let (value, rest) ← item (dropSpaces rest)
    some ((parts, value), rest)
  | _ => none

def assign (parts : List String) (value : Value) (table : Tabular) : Option Tabular :=
  let (path, key) := splitKey parts
  reach true (addKey path key value) path table

/-- The entries of a table in braces up to its end. -/
def readInline (item : Reader Value) : Nat → Tabular → Reader Value
  | 0, _, _ => none
  | fuel + 1, table, chars =>
    match dropFiller (chars.length + 1) chars with
    | '}' :: rest => some (.table .inline table.2, rest)
    | chars => do
      let ((parts, value), rest) ← readAssignment item chars
      let table ← assign parts value table
      match dropFiller (rest.length + 1) rest with
      | ',' :: rest => readInline item fuel table rest
      | '}' :: rest => some (.table .inline table.2, rest)
      | _ => none

/-- A value with at most `depth` arrays and tables inside one another. -/
def readValue : Nat → Reader Value
  | depth, chars =>
    match chars with
    | '[' :: rest =>
      match depth with
      | 0 => none
      | depth + 1 => readItems (readValue depth) (rest.length + 1) [] rest
    | '{' :: rest =>
      match depth with
      | 0 => none
      | depth + 1 => readInline (readValue depth) (rest.length + 1) (.heading, []) rest
    | c :: _ =>
      if c = '"' ∨ c = '\'' then (readString chars).map fun (text, rest) => (.str text, rest)
      else readScalar chars
    | [] => none

/-- The document so far, and the path of the table that keys belong to. -/
structure Progress where
  document : Tabular := (.heading, [])
  current : List String := []

def readHeading (progress : Progress) (chars : List Char) : Option (Progress × List Char) :=
  let finish (opener : String → Tabular → Option Tabular) (parts : List String) (rest : List Char) :
      Option (Progress × List Char) := do
    let (path, key) := splitKey parts
    let document ← reach false (opener key) path progress.document
    some (⟨document, parts⟩, rest)
  match chars with
  | '[' :: rest => do
    let (parts, rest) ← readKey rest
    match rest with
    | ']' :: ']' :: rest => finish openRow parts rest
    | _ => none
  | _ => do
    let (parts, rest) ← readKey chars
    match rest with
    | ']' :: rest => finish openTable parts rest
    | _ => none

/-- What a line that is not blank says. -/
def readStatement (progress : Progress) (chars : List Char) : Option (Progress × List Char) :=
  match chars with
  | '[' :: rest => readHeading progress rest
  | _ => do
    -- The keys under a heading are added to its table wherever it lies in the document.
    let ((parts, value), rest) ← readAssignment (readValue depthLimit) chars
    let document ← within (assign parts value) progress.current progress.document
    some (⟨document, progress.current⟩, rest)

def readLinesOf : Nat → Progress → List Char → Option Entries
  | 0, _, _ => none
  | fuel + 1, progress, chars =>
    match dropFiller (chars.length + 1) chars with
    | [] => some progress.document.2
    | chars => do
      let (progress, rest) ← readStatement progress chars
      match dropComment (dropSpaces rest) with
      | [] => some progress.document.2
      | rest => do
        let rest ← afterNewline? rest
        readLinesOf fuel progress rest

/-- The table that a document is; a mark of the byte order may come first. -/
def parse? (text : String) : Option Entries :=
  let chars := match text.toList with
    | c :: rest => if c.toNat = 0xFEFF then rest else c :: rest
    | [] => []
  readLinesOf (chars.length + 1) {} chars

end PolicyServer.Toml
