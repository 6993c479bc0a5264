/-! Labels with characters beyond ASCII, written in letters, digits and hyphens. -/

namespace PolicyServer.Host.Punycode

def digit? (c : Char) : Option Nat :=
  if 'a' ≤ c ∧ c ≤ 'z' then some (c.toNat - 0x61)
  else if '0' ≤ c ∧ c ≤ '9' then some (c.toNat - 0x30 + 26)
  else none

/-- The digit below which a number ends, at the place `k`. -/
def threshold (bias k : Nat) : Nat :=
  if k ≤ bias then 1 else if bias + 26 ≤ k then 26 else k - bias

/-- A distance made small enough for the bias, and the places that this saves. -/
def shrink (delta saved : Nat) : Nat × Nat :=
  if 455 < delta then shrink (delta / 35) (saved + 36) else (delta, saved)
termination_by delta
decreasing_by omega

/-- The bias after a distance, which `count` characters share. -/
def adapt (delta count : Nat) (isFirst : Bool) : Nat :=
  let delta := if isFirst then delta / 700 else delta / 2
  let (delta, saved) := shrink (delta + delta / count) 0
  saved + 36 * delta / (delta + 38)

/-- A label in the making: its characters, the last code point put in, and where the next one goes.
`distance` is the number being read, whose next digit has the place `k` and the weight `weight`. -/
structure Progress where
  label : List Char
  code : Nat := 0x80
  position : Nat := 0
  bias : Nat := 72
  distance : Nat := 0
  k : Nat := 36
  weight : Nat := 1

/-- The label once a number is complete: the distance tells by how much the code point grows and
where the character stands. -/
def Progress.insert? (p : Progress) : Option Progress :=
  let count := p.label.length + 1
  let total := p.position + p.distance
  let code := p.code + total / count
  let place := total % count
  if code.isValidChar then
    some { label := p.label.take place ++ Char.ofNat code :: p.label.drop place
           code
           position := place + 1
           bias := adapt p.distance count (p.position = 0) }
  else none

/-- Takes in one digit after another. Weights have 32 bits. -/
def decodeDigits (p : Progress) : List Char → Option (List Char)
  | [] => if p.k = 36 then some p.label else none
  | c :: rest => do
    let digit ← digit? c
    let limit := threshold p.bias p.k
    let p := { p with distance := p.distance + digit * p.weight }
    if digit < limit then decodeDigits (← p.insert?) rest
    else if p.weight * (36 - limit) < 0x100000000 then
      decodeDigits { p with k := p.k + 36, weight := p.weight * (36 - limit) } rest
    else none

/-- The label of a text: plain characters up to the last hyphen, then the digits of the others. -/
def decode? (text : List Char) : Option (List Char) :=
  let digits := (text.reverse.takeWhile (· ≠ '-')).reverse
  let plain := text.take (text.length - digits.length)
  if plain = ['-'] then none else decodeDigits { label := plain.dropLast } digits

end PolicyServer.Host.Punycode
