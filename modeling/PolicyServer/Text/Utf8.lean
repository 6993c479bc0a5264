/-! UTF-8 text as bytes: encoding, strict decoding, and decoding that replaces ill-formed parts. -/

namespace PolicyServer

/-- A run of bytes as it travels on a wire or lies in a file. -/
abbrev Bytes := List UInt8

namespace Utf8

/-- A character whose first bytes have been read and whose remaining bytes are still owed. -/
structure Pending where
  owed : Nat
  low : UInt8
  high : UInt8
  code : Nat
  deriving DecidableEq, Repr

/-- What one more byte makes of the text read so far. -/
inductive Reading where
  | char (c : Char)
  | more (pending : Pending)
  | illFormed

/-- The reading of a byte that stands where a character begins. -/
def lead (b : UInt8) : Reading :=
  if b < 0x80 then .char (Char.ofNat b.toNat)
  else if b < 0xC2 then .illFormed
  else if b < 0xE0 then .more ⟨1, 0x80, 0xBF, b.toNat - 0xC0⟩
  else if b < 0xF0 then
    .more ⟨2, if b = 0xE0 then 0xA0 else 0x80, if b = 0xED then 0x9F else 0xBF, b.toNat - 0xE0⟩
  else if b < 0xF5 then
    .more ⟨3, if b = 0xF0 then 0x90 else 0x80, if b = 0xF4 then 0x8F else 0xBF, b.toNat - 0xF0⟩
  else .illFormed

/-- The reading of a byte that continues a character already begun. -/
def Pending.push (p : Pending) (b : UInt8) : Reading :=
  if p.low ≤ b ∧ b ≤ p.high then
    let code := p.code * 64 + (b.toNat - 0x80)
    if p.owed ≤ 1 then .char (Char.ofNat code) else .more ⟨p.owed - 1, 0x80, 0xBF, code⟩
  else .illFormed

/-- Decodes from the middle of a text; `done` holds the characters read so far, last first. -/
def decodeFrom : Option Pending → List Char → Bytes → Option (List Char)
  | none, done, [] => some done.reverse
  | some _, _, [] => none
  | pending, done, b :: rest =>
    match pending.elim (lead b) (·.push b) with
    | .char c => decodeFrom none (c :: done) rest
    | .more p => decodeFrom (some p) done rest
    | .illFormed => none

/-- The characters of well-formed UTF-8, and nothing for any other bytes. -/
def decode? (bytes : Bytes) : Option (List Char) := decodeFrom none [] bytes

/-- Where bytes stop being UTF-8: the place, and how many bytes there begin no character, or that the
bytes end within one. -/
structure Fault where
  index : Nat
  length : Option Nat
  deriving DecidableEq, Repr

def Fault.message : Fault → String
  | ⟨index, none⟩ => s!"incomplete utf-8 byte sequence from index {index}"
  | ⟨index, some length⟩ => s!"invalid utf-8 sequence of {length} bytes from index {index}"

/-- The first fault from the middle of a text; `start` is where the current character begins, of
which `taken` bytes have been read. -/
def faultFrom : Option Pending → Nat → Nat → Bytes → Option Fault
  | none, _, _, [] => none
  | some _, start, _, [] => some ⟨start, none⟩
  | pending, start, taken, b :: rest =>
    match pending.elim (lead b) (·.push b) with
    | .char _ => faultFrom none (start + taken + 1) 0 rest
    | .more p => faultFrom (some p) start (taken + 1) rest
    | .illFormed => some ⟨start, some (max taken 1)⟩

def fault? (bytes : Bytes) : Option Fault := faultFrom none 0 0 bytes

/-- The character that stands for bytes that are not UTF-8. -/
def replacement : Char := '�'

/-- Decodes from the middle of a text, replacing every longest ill-formed start of a character. -/
def decodeLossyFrom : Option Pending → List Char → Bytes → List Char
  | none, done, [] => done.reverse
  | some _, done, [] => (replacement :: done).reverse
  | none, done, b :: rest =>
    match lead b with
    | .char c => decodeLossyFrom none (c :: done) rest
    | .more p => decodeLossyFrom (some p) done rest
    | .illFormed => decodeLossyFrom none (replacement :: done) rest
  | some p, done, b :: rest =>
    match p.push b with
    | .char c => decodeLossyFrom none (c :: done) rest
    | .more q => decodeLossyFrom (some q) done rest
    | .illFormed =>
      -- The byte that broke the character may itself begin the next one.
      match lead b with
      | .char c => decodeLossyFrom none (c :: replacement :: done) rest
      | .more q => decodeLossyFrom (some q) (replacement :: done) rest
      | .illFormed => decodeLossyFrom none (replacement :: replacement :: done) rest

def decodeLossy (bytes : Bytes) : String := String.ofList (decodeLossyFrom none [] bytes)

def encode (chars : List Char) : Bytes := chars.flatMap String.utf8EncodeChar

end Utf8

def Bytes.ofText (text : String) : Bytes := Utf8.encode text.toList

def Bytes.toText? (bytes : Bytes) : Option String := (Utf8.decode? bytes).map String.ofList

end PolicyServer
