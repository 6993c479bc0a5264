import PolicyServer.Text.Percent

/-! Addresses of machines by number: four bytes, or eight groups in brackets. -/

namespace PolicyServer.Host

def splitAt (mark : Char) : List Char → List (List Char)
  | [] => [[]]
  | c :: rest =>
    if c = mark then [] :: splitAt mark rest
    else
      match splitAt mark rest with
      | part :: parts => (c :: part) :: parts
      | [] => [[c]]

def digitIn? (base : Nat) (c : Char) : Option Nat :=
  (Percent.digit? (UInt8.ofNat c.toNat)).filter fun value => c.toNat < 128 && value < base

/-- A number in decimal, in octal after a zero, or in hexadecimal after `0x`. -/
def number? (digits : List Char) : Option Nat :=
  let (base, digits) := match digits with
    | '0' :: 'x' :: rest => (16, rest)
    | '0' :: c :: rest => (8, c :: rest)
    | rest => (10, rest)
  (digits.mapM (digitIn? base)).map (·.foldl (fun value digit => value * base + digit) 0)

/-- The labels of a name without the empty one after a last dot. -/
def proper (labels : List (List Char)) : List (List Char) :=
  match labels.reverse with
  | [] :: label :: rest => (label :: rest).reverse
  | _ => labels

/-- Whether a name ends in a number, so that it must be an address of four bytes. -/
def endsInNumber (labels : List (List Char)) : Bool :=
  match (proper labels).getLast? with
  | some label =>
    label ≠ [] && (label.all Char.isDigit || (label.take 2 = ['0', 'x'] && (number? label).isSome))
  | none => false

/-- Whether a name is an address of four bytes, of which the last part may fill several. -/
def isAddress (labels : List (List Char)) : Bool :=
  let parts := proper labels
  parts.length ≤ 4 && parts.all (· ≠ []) &&
    match parts.mapM number? with
    | some numbers =>
      numbers.dropLast.all (· < 256) && numbers.getLast?.any (· < Nat.pow 256 (5 - numbers.length))
    | none => false

/-- The groups of half an address in brackets, or nothing if one is no group. -/
def groups? (text : List Char) : Option Nat :=
  if text.isEmpty then some 0
  else
    let parts := splitAt ':' text
    let isGroup (part : List Char) :=
      1 ≤ part.length && part.length ≤ 4 && part.all fun c => (digitIn? 16 c).isSome
    let isQuad (part : List Char) :=
      let bytes := splitAt '.' part
      bytes.length = 4 && bytes.all fun byte =>
        byte ≠ [] && byte.all Char.isDigit && (byte.length = 1 || byte.head? ≠ some '0') &&
          (number? byte).any (· < 256)
    if parts.all isGroup then some parts.length
    else if parts.dropLast.all isGroup && parts.getLast?.any isQuad then some (parts.length + 1)
    else none

/-- The two halves of a text around its first double colon. -/
def splitGap : List Char → Option (List Char × List Char)
  | ':' :: ':' :: rest => some ([], rest)
  | c :: rest => (splitGap rest).map fun (left, right) => (c :: left, right)
  | [] => none

/-- Whether a text is an address of eight groups, one run of which may be left out. -/
def isLongAddress (text : List Char) : Bool :=
  match splitGap text with
  | some (left, right) =>
    match groups? left, groups? right with
    | some a, some b => a + b ≤ 7 && ('.' ∉ left)
    | _, _ => false
  | none => groups? text = some 8

end PolicyServer.Host
