/-! The shortest decimal that reads back as a given double-precision number. -/

namespace PolicyServer.Decimal

/-- A positive decimal: the digits of `coefficient` with a point after the first one, times ten to
the power `exponent`. -/
structure Scientific where
  coefficient : Nat
  exponent : Int
  deriving DecidableEq, Repr

/-- A positive number and the interval of the reals that round to it, all over one denominator. -/
structure Interval where
  value : Nat
  low : Nat
  high : Nat
  denominator : Nat
  closed : Bool

/-- The interval of the positive finite double with these 63 low bits. -/
def Interval.ofMagnitude (magnitude : Nat) : Interval :=
  let biased := magnitude / 0x10000000000000
  let fraction := magnitude % 0x10000000000000
  let mantissa := if biased = 0 then fraction else fraction + 0x10000000000000
  -- The number is `4 * mantissa * 2 ^ power`; the factor four keeps the half-way points whole.
  let power : Int := (if biased = 0 then 1 else biased : Nat) - 1077
  let up := Nat.pow 2 power.toNat
  let down := Nat.pow 2 (-power).toNat
  -- Below a power of two the neighbours lie half as far apart.
  let below := if fraction = 0 ∧ 1 < biased then 1 else 2
  { value := 4 * mantissa * up
    low := (4 * mantissa - below) * up
    high := (4 * mantissa + 2) * up
    denominator := down
    closed := mantissa % 2 = 0 }

/-- The power of ten at or below a positive ratio. -/
def floorLog (numerator denominator : Nat) : Int :=
  if denominator ≤ numerator then
    ((Nat.toDigits 10 (numerator / denominator)).length : Int) - 1
  else
    match (List.range 400).find? fun shift => denominator ≤ numerator * Nat.pow 10 shift with
    | some shift => -(shift : Int)
    | none => -400

/-- The nearest multiple of `10 ^ place` that lies in the interval, if one of the value's two
neighbours on that grid does; of two hits the nearer one, on a tie the even one. -/
def Interval.onGrid (i : Interval) (place : Int) : Option Nat :=
  let scale := Nat.pow 10 (-place).toNat
  let unit := i.denominator * Nat.pow 10 place.toNat
  let value := i.value * scale
  let inside (candidate : Nat) : Bool :=
    let point := candidate * unit
    if i.closed then i.low * scale ≤ point && point ≤ i.high * scale
    else i.low * scale < point && point < i.high * scale
  let below := value / unit
  let left := value - below * unit
  let right := (below + 1) * unit - value
  let nearer := if left < right then below
    else if right < left then below + 1
    else if below % 2 = 0 then below else below + 1
  if inside nearer then some nearer
  else if inside below then some below
  else if inside (below + 1) then some (below + 1)
  else none

/-- The decimal with the fewest digits that reads back as the positive finite double with these 63
low bits, and of those the nearest to it. -/
def shortest (magnitude : Nat) : Scientific :=
  let i := Interval.ofMagnitude magnitude
  let top := floorLog i.value i.denominator
  let found := (List.range 17).findSome? fun (extra : Nat) =>
    (i.onGrid (top - (extra : Int))).map fun digits => (digits, extra)
  match found with
  | some (digits, extra) =>
    -- Rounding up to the next power of ten adds a digit, which a zero then makes room for.
    if digits = Nat.pow 10 (extra + 1) then ⟨1, top + 1⟩ else ⟨digits, top⟩
  | none => ⟨0, 0⟩

end PolicyServer.Decimal
