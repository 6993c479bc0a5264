import PolicyServer.Text.Utf8

/-! Percent coding: bytes as ASCII text, each byte that may not stand for itself by its number. -/

namespace PolicyServer.Percent

def digit? (b : UInt8) : Option Nat :=
  if 0x30 ≤ b ∧ b ≤ 0x39 then some (b.toNat - 0x30)
  else if 0x41 ≤ b ∧ b ≤ 0x46 then some (b.toNat - 0x37)
  else if 0x61 ≤ b ∧ b ≤ 0x66 then some (b.toNat - 0x57)
  else none

/-- The capital hexadecimal digit of a value below sixteen. -/
def digitChar (n : Nat) : Char := if n < 10 then Char.ofNat (n + 0x30) else Char.ofNat (n + 0x37)

/-- One byte as text; `plain` tells which bytes stand for themselves. -/
def encodeByte (plain : UInt8 → Bool) (b : UInt8) : List Char :=
  if plain b then [Char.ofNat b.toNat]
  else ['%', digitChar (b.toNat / 16), digitChar (b.toNat % 16)]

def encode (plain : UInt8 → Bool) (bytes : Bytes) : List Char := bytes.flatMap (encodeByte plain)

/-- Decodes from the middle of a text; `done` holds the bytes so far, last first. -/
def decodeFrom (done : Bytes) : Bytes → Bytes
  | 0x25 :: a :: b :: rest =>
    match digit? a, digit? b with
    | some high, some low => decodeFrom (UInt8.ofNat (16 * high + low) :: done) rest
    | _, _ => decodeFrom (0x25 :: done) (a :: b :: rest)
  | b :: rest => decodeFrom (b :: done) rest
  | [] => done.reverse

/-- The bytes of a text; a percent sign without two digits after it stands for itself. -/
def decode (bytes : Bytes) : Bytes := decodeFrom [] bytes

end PolicyServer.Percent
