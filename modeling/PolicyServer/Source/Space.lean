import PolicyServer.Text.Utf8

/-! The blanks and comments between the tokens of a TypeScript source, and the line ends that finish
a statement. -/

namespace PolicyServer.Source

/-- How many bytes of white space a text begins with: one character or none. -/
def blankLength : Bytes → Nat
  | 0xC2 :: b :: _ => if b = 0xA0 then 2 else 0
  | 0xE1 :: 0x9A :: 0x80 :: _ => 3
  | 0xE2 :: 0x80 :: b :: _ =>
    if 0x80 ≤ b ∧ b ≤ 0x8B ∨ b = 0xA8 ∨ b = 0xA9 ∨ b = 0xAF then 3 else 0
  | 0xE2 :: 0x81 :: b :: _ => if b = 0x9F ∨ b = 0xA0 then 3 else 0
  | 0xE3 :: 0x80 :: 0x80 :: _ => 3
  | 0xEF :: 0xBB :: 0xBF :: _ => 3
  | b :: _ => if b = 0x20 ∨ 0x09 ≤ b ∧ b ≤ 0x0D then 1 else 0
  | [] => 0

def isPlainBlank (b : UInt8) : Bool := b == 0x20 || (0x09 ≤ b && b ≤ 0x0D)

def isLetter (b : UInt8) : Bool := (0x41 ≤ b && b ≤ 0x5A) || (0x61 ≤ b && b ≤ 0x7A)

def isSeparator : Bytes → Bool
  | 0xE2 :: 0x80 :: b :: _ => b == 0xA8 || b == 0xA9
  | _ => false

def isLineEnd : Bytes → Bool
  | 0x0A :: _ => true
  | 0x0D :: _ => true
  | bytes => isSeparator bytes

/-- How many bytes stand before the first place where a test holds. -/
def lengthUntil (stops : Bytes → Bool) : Bytes → Nat
  | [] => 0
  | b :: rest => if stops (b :: rest) then 0 else lengthUntil stops rest + 1

/-- How many bytes a comment in stars has after its opening, its end included. -/
def starredLength? : Bytes → Option Nat
  | 0x2A :: 0x2F :: _ => some 2
  | _ :: rest => (starredLength? rest).map (· + 1)
  | [] => none

/-- How many bytes of a comment a text begins with. -/
def commentLength : Bytes → Nat
  | 0x2F :: 0x2F :: rest => lengthUntil isLineEnd rest + 2
  | 0x2F :: 0x2A :: rest => ((starredLength? rest).map (· + 2)).getD 0
  | _ => 0

/-- How many bytes of a comment in the manner of markup a text begins with. -/
def markupCommentLength (bytes : Bytes) : Nat :=
  if (Bytes.ofText "<!--").isPrefixOf bytes ∨ (Bytes.ofText "-->").isPrefixOf bytes then
    lengthUntil (fun rest => rest.head? = some 0x0A || isSeparator rest) bytes
  else 0

/-- How many bytes a text begins with that are pieces of the given kind, one after the other;
`pending` bytes belong to a piece already begun. -/
def spanLength (piece : Bytes → Nat) : Nat → Bytes → Nat
  | _, [] => 0
  | pending + 1, _ :: rest => spanLength piece pending rest + 1
  | 0, b :: rest =>
    match piece (b :: rest) with
    | 0 => 0
    | more + 1 => spanLength piece more rest + 1

/-- One blank or one comment. -/
def gapLength (bytes : Bytes) : Nat :=
  match blankLength bytes with
  | 0 => commentLength bytes
  | length => length

/-- The blanks and comments that may stand before any token. -/
def spaceLength : Bytes → Nat := spanLength gapLength 0

/-- The blanks and comments that may stand where an operand or a statement begins. -/
def marginLength : Bytes → Nat :=
  spanLength (fun bytes =>
    match gapLength bytes with
    | 0 => markupCommentLength bytes
    | length => length) 0

/-- The blanks and comments at the head of a line that are passed over to see how it goes on. -/
def indentLength : Bytes → Nat :=
  spanLength (fun
    | 0x2F :: 0x2F :: rest => (rest.takeWhile (· ≠ 0x0A)).length + 2
    | 0x2F :: 0x2A :: rest => (starredLength? rest).getD rest.length + 2
    | b :: _ => if isPlainBlank b then 1 else 0
    | [] => 0) 0

/-- Whether a line with this text goes on with what the line before it began. -/
def continuesLine (inType : Bool) : Bytes → Bool
  | [] => false
  | b :: rest =>
    let next := rest.head?
    if b = 0x28 ∨ b = 0x5B then !inType
    else if b = 0x2B ∨ b = 0x2D then next ≠ some b
    else if b = 0x21 then next = some 0x3D
    else if b = 0x69 then
      -- The words `in` and `instanceof`: any byte but a letter may follow.
      let isWord (text : String) : Bool :=
        (Bytes.ofText text).isPrefixOf rest && !(rest.drop text.length).head?.any isLetter
      isWord "n" || isWord "nstanceof"
    else b ∈ Bytes.ofText "`,.;*%><=?^|&/:"

/-- Whether a statement may end here without a mark of its own: before a closing brace, at the end
of the source, or at the end of a line that the next one does not go on with. `pending` bytes belong
to a comment already begun. -/
def endsAt (inType : Bool) : Nat → Bytes → Bool
  | _, [] => true
  | pending + 1, _ :: rest => endsAt inType pending rest
  | 0, b :: rest =>
    if b = 0x7D then true
    else if b = 0x0A then !continuesLine inType (rest.drop (indentLength rest))
    else if isPlainBlank b then endsAt inType 0 rest
    else
      match commentLength (b :: rest) with
      | 0 => false
      | more + 1 => endsAt inType more rest

end PolicyServer.Source
