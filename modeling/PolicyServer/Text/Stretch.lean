import PolicyServer.Text.Percent

/-! Tables of characters as text: words for stretches of code points, in hexadecimal. -/

namespace PolicyServer.Text

def hexNumber (digits : String) : Nat :=
  digits.toList.foldl (fun n c => 16 * n + (Percent.digit? (UInt8.ofNat c.toNat)).getD 0) 0

/-- Some code points in a row. -/
structure Stretch where
  first : Nat
  last : Nat

/-- The words of a table, which has blanks between them. -/
def wordsOf (table : List String) : List String := table.flatMap (·.splitOn " ")

namespace Stretch

/-- A stretch by its ends, such as `300-6F`, of which the second one has only the digits that differ, or
by the one code point in it. -/
def ofWord (word : String) : Stretch :=
  match word.splitOn "-" with
  | [first, last] =>
    let shared := first.toList.take (first.length - last.length)
    ⟨hexNumber first, hexNumber (String.ofList shared ++ last)⟩
  | _ => ⟨hexNumber word, hexNumber word⟩

def ofTable (table : List String) : List Stretch := (wordsOf table).map ofWord

def holds (stretch : Stretch) (c : Char) : Bool :=
  stretch.first ≤ c.toNat && c.toNat ≤ stretch.last

end Stretch

def isIn (stretches : List Stretch) (c : Char) : Bool := stretches.any (·.holds c)

end PolicyServer.Text
