import PolicyServer.Json.Reader
import PolicyServer.Json.Writer
import PolicyServer.Proofs.Text.Encoding

/-! Strings as they stand in JSON texts read back as what was written. -/

namespace PolicyServer.Json

variable {c : Char} {rest : Bytes}

def IsEscaped (c : Char) : Prop := c = '"' ∨ c = '\\' ∨ c.toNat < 0x20

theorem hexDigit?_digitChar {d : Nat} (small : d < 16) :
    hexDigit? (UInt8.ofNat (Nat.digitChar d).toNat) = some d := by
  have all : ∀ d : Fin 16, hexDigit? (UInt8.ofNat (Nat.digitChar d).toNat) = some d.val := by decide
  exact all ⟨d, small⟩

theorem digitChar_narrow {d : Nat} (small : d < 16) : (Nat.digitChar d).toNat < 128 := by
  have all : ∀ d : Fin 16, (Nat.digitChar d).toNat < 128 := by decide
  exact all ⟨d, small⟩

theorem readUnit_control (control : c.toNat < 0x20) (rest : Bytes) :
    readUnit (0x30 :: 0x30 :: UInt8.ofNat (Nat.digitChar (c.toNat / 16)).toNat ::
      UInt8.ofNat (Nat.digitChar (c.toNat % 16)).toNat :: rest) = .ok (c, rest) := by
  have zero : hexDigit? 0x30 = some 0 := rfl
  have high := hexDigit?_digitChar (d := c.toNat / 16) (by omega)
  have low := hexDigit?_digitChar (d := c.toNat % 16) (by omega)
  have value : ((0 * 16 + 0) * 16 + c.toNat / 16) * 16 + c.toNat % 16 = c.toNat := by omega
  have hex : readHex (0x30 :: 0x30 :: UInt8.ofNat (Nat.digitChar (c.toNat / 16)).toNat ::
      UInt8.ofNat (Nat.digitChar (c.toNat % 16)).toNat :: rest) = .ok (c.toNat, rest) := by
    simp only [readHex, zero, high, low, value]
  -- The number is far below those that stand for half a character.
  have above : ¬ (0xDC00 ≤ c.toNat ∧ c.toNat ≤ 0xDFFF) := by omega
  have below : ¬ (0xD800 ≤ c.toNat ∧ c.toNat ≤ 0xDBFF) := by omega
  simp only [readUnit, hex, bind, Except.bind, above, below, if_false, Char.ofNat_toNat]

theorem readEscape_escapeChar (escaped : IsEscaped c) :
    ∃ tail, Utf8.encode (escapeChar c) = 0x5C :: tail ∧
      ∀ rest, readEscape (tail ++ rest) = .ok (c, rest) := by
  by_cases quote : c = '"'
  · exact ⟨[0x22], by subst quote; rfl, fun rest => by subst quote; rfl⟩
  by_cases slash : c = '\\'
  · exact ⟨[0x5C], by subst slash; rfl, fun rest => by subst slash; rfl⟩
  have control : c.toNat < 0x20 := by
    rcases escaped with same | same | control
    · exact absurd same quote
    · exact absurd same slash
    · exact control
  -- Five control characters have a letter of their own.
  by_cases line : c = '\n'
  · exact ⟨[0x6E], by subst line; rfl, fun rest => by subst line; rfl⟩
  by_cases carriage : c = '\r'
  · exact ⟨[0x72], by subst carriage; rfl, fun rest => by subst carriage; rfl⟩
  by_cases tab : c = '\t'
  · exact ⟨[0x74], by subst tab; rfl, fun rest => by subst tab; rfl⟩
  by_cases back : c.toNat = 0x8
  · have same : c = Char.ofNat 0x8 := by rw [← back, Char.ofNat_toNat]
    exact ⟨[0x62], by subst same; rfl, fun rest => by subst same; rfl⟩
  by_cases feed : c.toNat = 0xC
  · have same : c = Char.ofNat 0xC := by rw [← feed, Char.ofNat_toNat]
    exact ⟨[0x66], by subst same; rfl, fun rest => by subst same; rfl⟩
  -- The others are given by their numbers.
  refine ⟨[0x75, 0x30, 0x30, UInt8.ofNat (Nat.digitChar (c.toNat / 16)).toNat,
    UInt8.ofNat (Nat.digitChar (c.toNat % 16)).toNat], ?_, readUnit_control control⟩
  have written : escapeChar c =
      ['\\', 'u', '0', '0', Nat.digitChar (c.toNat / 16), Nat.digitChar (c.toNat % 16)] := by
    simp only [escapeChar, quote, slash, control, line, carriage, tab, back, feed, if_true, if_false]
  have high := digitChar_narrow (d := c.toNat / 16) (by omega)
  have low := digitChar_narrow (d := c.toNat % 16) (by omega)
  rw [written]
  repeat rw [Utf8.encode_cons_narrow (by first | decide | assumption)]
  rfl

theorem escapeChar_plain (plain : ¬ IsEscaped c) : escapeChar c = [c] := by
  simp only [IsEscaped, not_or] at plain
  obtain ⟨quote, slash, control⟩ := plain
  simp only [escapeChar, quote, slash, control, if_false]

theorem bytes_of_plain (plain : ¬ IsEscaped c) {b : UInt8} (member : b ∈ String.utf8EncodeChar c) :
    b ≠ 0x22 ∧ b ≠ 0x5C ∧ ¬ b < 0x20 := by
  simp only [IsEscaped, not_or] at plain
  obtain ⟨quote, slash, control⟩ := plain
  rcases Nat.lt_or_ge c.toNat 128 with short | wide
  · rw [Utf8.encodeChar_narrow short, List.mem_singleton] at member
    have value : b.toNat = c.toNat := by rw [member, Utf8.toNat_byte (by omega)]
    have same : c = Char.ofNat b.toNat := by rw [value, Char.ofNat_toNat]
    refine ⟨?_, ?_, ?_⟩
    · rintro rfl
      exact quote same
    · rintro rfl
      exact slash same
    · rw [UInt8.lt_iff_toNat_lt, value]
      exact control
  · have := Utf8.le_of_mem_encodeChar wide member
    refine ⟨?_, ?_, ?_⟩
    · rintro rfl
      exact absurd this (by decide)
    · rintro rfl
      exact absurd this (by decide)
    · rw [UInt8.lt_iff_toNat_lt]
      have small : (0x20 : UInt8).toNat = 32 := rfl
      omega

theorem readTextBytes_plain {bytes : Bytes}
    (plain : ∀ b ∈ bytes, b ≠ 0x22 ∧ b ≠ 0x5C ∧ ¬ b < 0x20) (fuel : Nat) (done rest : Bytes) :
    readTextBytes (fuel + bytes.length) done (bytes ++ rest) =
      readTextBytes fuel (bytes.reverse ++ done) rest := by
  induction bytes generalizing done with
  | nil => rfl
  | cons b bytes ih =>
    obtain ⟨quote, slash, control⟩ := plain b List.mem_cons_self
    have later := ih (fun b member => plain b (List.mem_cons_of_mem _ member)) (b :: done)
    rw [List.length_cons, ← Nat.add_assoc, List.cons_append]
    simp only [readTextBytes, quote, slash, control, if_false]
    simpa using later

theorem readTextBytes_escaped (chars : List Char) (fuel : Nat) (done rest : Bytes)
    (ample : (Utf8.encode (chars.flatMap escapeChar)).length < fuel) :
    readTextBytes fuel done (Utf8.encode (chars.flatMap escapeChar) ++ 0x22 :: rest) =
      .ok (done.reverse ++ Utf8.encode chars, rest) := by
  -- Character by character; each takes no more steps than it has bytes.
  induction chars generalizing fuel done with
  | nil =>
    obtain ⟨fuel, rfl⟩ := Nat.exists_eq_succ_of_ne_zero (Nat.ne_of_gt ample)
    simp [Utf8.encode, readTextBytes]
  | cons c chars ih =>
    rw [List.flatMap_cons, Utf8.encode_append] at ample ⊢
    have whole : Utf8.encode (c :: chars) = String.utf8EncodeChar c ++ Utf8.encode chars :=
      List.flatMap_cons
    rw [List.length_append] at ample
    by_cases escaped : IsEscaped c
    · obtain ⟨tail, written, read⟩ := readEscape_escapeChar escaped
      rw [written] at ample ⊢
      rw [List.length_cons] at ample
      obtain ⟨fuel, rfl⟩ : ∃ less, fuel = less + 1 := ⟨fuel - 1, by omega⟩
      have quote : (0x5C : UInt8) ≠ 0x22 := by decide
      have later := ih fuel ((String.utf8EncodeChar c).reverse ++ done) (by omega)
      simp only [List.cons_append, List.append_assoc, readTextBytes, quote, if_false, if_true, read,
        later, whole]
      simp
    · have written : Utf8.encode (escapeChar c) = String.utf8EncodeChar c := by
        rw [escapeChar_plain escaped]
        exact List.append_nil _
      rw [written] at ample ⊢
      obtain ⟨less, rfl⟩ : ∃ less, fuel = less + (String.utf8EncodeChar c).length :=
        ⟨fuel - (String.utf8EncodeChar c).length, by omega⟩
      have later := ih less ((String.utf8EncodeChar c).reverse ++ done) (by omega)
      rw [List.append_assoc, readTextBytes_plain fun b member => bytes_of_plain escaped member, later,
        whole]
      simp

theorem readText_writeText (text : String) :
    ∃ tail, Utf8.encode (writeText text) = 0x22 :: tail ∧
      ∀ rest, readText (tail ++ rest) = .ok (text, rest) := by
  refine ⟨Utf8.encode (text.toList.flatMap escapeChar) ++ [0x22], ?_, fun rest => ?_⟩
  · rw [writeText, Utf8.encode_cons_narrow (by decide), Utf8.encode_append]
    rfl
  · have whole : Utf8.encode (text.toList.flatMap escapeChar) ++ [0x22] ++ rest =
        Utf8.encode (text.toList.flatMap escapeChar) ++ 0x22 :: rest := by simp
    have ample : (Utf8.encode (text.toList.flatMap escapeChar)).length <
        (Utf8.encode (text.toList.flatMap escapeChar) ++ 0x22 :: rest).length + 1 := by
      rw [List.length_append]
      omega
    rw [whole, readText, readTextBytes_escaped text.toList _ [] rest ample]
    simp [bind, Except.bind, Bytes.toText?, Utf8.decode?_encode]

end PolicyServer.Json
