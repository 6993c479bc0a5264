import PolicyServer.Json.Value
import PolicyServer.Text.Utf8

/-! Reading the numbers of JSON texts. A whole number within 64 bits stays whole; any other number
becomes a double, made from at most 64 bits of its digits scaled by one power of ten. -/

namespace PolicyServer.Json

/-- Why a text could not be read: it is not JSON, it ends too early, or its value does not suit. -/
inductive ReadError where
  | malformed
  | truncated
  | unsuitable
  deriving DecidableEq, Repr

/-- Reads a thing from the front of some bytes and leaves the rest. -/
abbrev Reader (α : Type) := Bytes → Except ReadError (α × Bytes)

def digit? (b : UInt8) : Option Nat := if 0x30 ≤ b ∧ b ≤ 0x39 then some (b.toNat - 0x30) else none

/-- The largest number of digits' worth that a significand may hold. -/
def significandLimit : Nat := 0x10000000000000000

/-- The digits of a number taken into its significand, and how many were left out. -/
structure Significand where
  value : Nat
  taken : Nat
  dropped : Nat

/-- Takes digits as long as the significand stays below its limit; once one does not fit, that
digit and all further ones are dropped. -/
def takeDigits (s : Significand) : Bytes → Significand × Bytes
  | [] => (s, [])
  | b :: rest =>
    match digit? b with
    | none => (s, b :: rest)
    | some d =>
      if s.dropped = 0 ∧ s.value * 10 + d < significandLimit then
        takeDigits ⟨s.value * 10 + d, s.taken + 1, 0⟩ rest
      else takeDigits { s with dropped := s.dropped + 1 } rest

def powerOfTen (n : Nat) : Float := Float.ofScientific 1 false n

/-- The double scaled by a power of ten, unless it grows past every finite one. -/
def scale (f : Float) (exponent : Int) : Option Float :=
  if exponent.natAbs ≤ 308 then
    if 0 ≤ exponent then
      let product := f * powerOfTen exponent.toNat
      if product.isInf then none else some product
    else some (f / powerOfTen exponent.natAbs)
  else if f == 0 then some f
  else if 0 < exponent then none
  else scale (f / powerOfTen 308) (exponent + 308)
termination_by exponent.natAbs
decreasing_by omega

def floatOf (negative : Bool) (significand : Nat) (exponent : Int) : Except ReadError Json :=
  match scale significand.toUInt64.toFloat exponent with
  | none => .error .malformed
  | some f => .ok (.float (if negative then -f else f).toBits)

/-- The digits of an exponent, after its sign. -/
def readExponentDigits : Bytes → Except ReadError (Nat × Bytes)
  | [] => .error .truncated
  | b :: rest =>
    match digit? b with
    | none => .error .malformed
    | some d =>
      let rec go (n : Nat) : Bytes → Nat × Bytes
        | [] => (n, [])
        | b :: rest =>
          match digit? b with
          | none => (n, b :: rest)
          | some d => go (n * 10 + d) rest
      .ok (go d rest)

def readExponent : Bytes → Except ReadError (Int × Bytes)
  | 0x2B :: rest => (readExponentDigits rest).map fun (n, rest) => ((n : Int), rest)
  | 0x2D :: rest => (readExponentDigits rest).map fun (n, rest) => (-(n : Int), rest)
  | rest => (readExponentDigits rest).map fun (n, rest) => ((n : Int), rest)

def isExponentMark (b : UInt8) : Bool := b == 0x65 || b == 0x45

/-- A number whose significand has been read: an exponent may follow, and then the double is made. -/
def readScaled (negative : Bool) (significand : Nat) (exponent : Int) : Reader Json
  | b :: rest =>
    if isExponentMark b then do
      let (power, rest) ← readExponent rest
      return (← floatOf negative significand (exponent + power), rest)
    else (floatOf negative significand exponent).map (·, b :: rest)
  | [] => (floatOf negative significand exponent).map (·, [])

def readFraction (negative : Bool) (whole : Significand) : Reader Json
  | [] => .error .truncated
  | b :: rest =>
    if (digit? b).isNone then .error .malformed
    else
      -- Digits past the limit add nothing after the point, and ten each before it.
      let (s, rest) := takeDigits ⟨whole.value, 0, 0⟩ (b :: rest)
      readScaled negative s.value ((whole.dropped : Int) - s.taken) rest

/-- A number after its first whole digits: a point, an exponent or the end may follow. -/
def readAfterWhole (negative : Bool) (s : Significand) : Reader Json
  | b :: rest =>
    if b = 0x2E then readFraction negative s rest
    else if isExponentMark b ∨ s.dropped ≠ 0 then
      readScaled negative s.value s.dropped (b :: rest)
    else finish (b :: rest)
  | [] => if s.dropped ≠ 0 then readScaled negative s.value s.dropped [] else finish []
where
  /-- A whole number, or a double where 64 bits do not hold it; a negative zero is a double. -/
  finish (rest : Bytes) : Except ReadError (Json × Bytes) :=
    if negative then
      if s.value = 0 ∨ 0x8000000000000000 < s.value then (floatOf true s.value 0).map (·, rest)
      else .ok (.int (-(s.value : Int)), rest)
    else .ok (.int s.value, rest)

/-- A number, after its sign. -/
def readNumber (negative : Bool) : Reader Json
  | [] => .error .truncated
  | b :: rest =>
    match digit? b with
    | none => .error .malformed
    | some 0 =>
      match rest with
      | c :: _ => if (digit? c).isSome then .error .malformed
        else readAfterWhole negative ⟨0, 1, 0⟩ rest
      | [] => readAfterWhole negative ⟨0, 1, 0⟩ []
    | some _ =>
      let (s, rest) := takeDigits ⟨0, 0, 0⟩ (b :: rest)
      readAfterWhole negative s rest

end PolicyServer.Json
