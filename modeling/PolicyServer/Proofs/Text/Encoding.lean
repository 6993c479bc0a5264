import Mathlib.Data.String.Basic
import PolicyServer.Text.Utf8

/-! Text that is encoded as UTF-8 reads back as the characters it came from. -/

namespace PolicyServer.Utf8

theorem toNat_byte {n : Nat} (small : n < 256) : (UInt8.ofNat n).toNat = n := by
  simp [Nat.mod_eq_of_lt small]

theorem encodeChar_narrow {c : Char} (narrow : c.toNat < 128) :
    String.utf8EncodeChar c = [UInt8.ofNat c.toNat] := by
  have short : c.val.toNat ≤ 127 := Nat.le_of_lt_succ narrow
  simp only [String.utf8EncodeChar, short, if_true]
  rfl

theorem encode_cons_narrow {c : Char} (narrow : c.toNat < 128) (chars : List Char) :
    encode (c :: chars) = UInt8.ofNat c.toNat :: encode chars := by
  rw [encode, List.flatMap_cons, encodeChar_narrow narrow]
  rfl

theorem encode_append (front back : List Char) : encode (front ++ back) = encode front ++ encode back :=
  List.flatMap_append

theorem le_of_mem_encodeChar {c : Char} (wide : 128 ≤ c.toNat) {b : UInt8}
    (member : b ∈ String.utf8EncodeChar c) : 128 ≤ b.toNat := by
  have wide : 128 ≤ c.val.toNat := wide
  revert member
  fun_cases String.utf8EncodeChar c
  case case1 v short => omega
  all_goals
    intro member
    simp only [List.mem_cons, List.not_mem_nil, or_false] at member
    rcases member with rfl | rfl | rfl | rfl
    all_goals
      rw [toNat_byte (by omega)]
      omega

theorem mem_of_mem_encode {b : UInt8} {chars : List Char} (narrow : b.toNat < 128)
    (member : b ∈ encode chars) : Char.ofNat b.toNat ∈ chars := by
  obtain ⟨c, there, member⟩ := List.mem_flatMap.mp member
  rcases Nat.lt_or_ge c.toNat 128 with short | wide
  · rw [encodeChar_narrow short, List.mem_singleton] at member
    rw [member, toNat_byte (by omega), Char.ofNat_toNat]
    exact there
  · have := le_of_mem_encodeChar wide member
    omega

theorem push_byte {p : Pending} {n : Nat} (small : n < 64) (least : p.low.toNat ≤ n + 128)
    (most : n + 128 ≤ p.high.toNat) :
    p.push (UInt8.ofNat (n + 128)) =
      if p.owed ≤ 1 then .char (Char.ofNat (p.code * 64 + n))
      else .more ⟨p.owed - 1, 0x80, 0xBF, p.code * 64 + n⟩ := by
  have value : (UInt8.ofNat (n + 128)).toNat = n + 128 := toNat_byte (by omega)
  have within : p.low ≤ UInt8.ofNat (n + 128) ∧ UInt8.ofNat (n + 128) ≤ p.high := by
    simp only [UInt8.le_iff_toNat_le, value]
    exact ⟨least, most⟩
  simp only [Pending.push, within, and_self, if_true, value, Nat.add_sub_cancel]

theorem push_more (owed code n : Nat) (low high : UInt8) (small : n < 64)
    (least : low.toNat ≤ n + 128) (most : n + 128 ≤ high.toNat) :
    Pending.push ⟨owed + 2, low, high, code⟩ (UInt8.ofNat (n + 128)) =
      .more ⟨owed + 1, 0x80, 0xBF, code * 64 + n⟩ := by
  rw [push_byte small least most, if_neg (by simp)]
  rfl

theorem push_last (code n : Nat) (low high : UInt8) (small : n < 64)
    (least : low.toNat ≤ n + 128) (most : n + 128 ≤ high.toNat) :
    Pending.push ⟨1, low, high, code⟩ (UInt8.ofNat (n + 128)) =
      .char (Char.ofNat (code * 64 + n)) := by
  rw [push_byte small least most, if_pos (Nat.le_refl 1)]

theorem lead_two (n : Nat) (low : 2 ≤ n) (high : n < 32) :
    lead (UInt8.ofNat (n + 192)) = .more ⟨1, 0x80, 0xBF, n⟩ := by
  have value : (UInt8.ofNat (n + 192)).toNat = n + 192 := toNat_byte (by omega)
  simp only [lead, UInt8.lt_iff_toNat_lt, value]
  simp (disch := omega) [if_neg, if_pos]

theorem lead_three (n : Nat) (high : n < 16) :
    lead (UInt8.ofNat (n + 224)) =
      .more ⟨2, if n = 0 then 0xA0 else 0x80, if n = 13 then 0x9F else 0xBF, n⟩ := by
  have value : (UInt8.ofNat (n + 224)).toNat = n + 224 := toNat_byte (by omega)
  simp only [lead, UInt8.lt_iff_toNat_lt, ← UInt8.toNat_inj, value]
  simp (disch := omega) [if_neg, if_pos]

theorem lead_four (n : Nat) (high : n < 5) :
    lead (UInt8.ofNat (n + 240)) =
      .more ⟨3, if n = 0 then 0x90 else 0x80, if n = 4 then 0x8F else 0xBF, n⟩ := by
  have value : (UInt8.ofNat (n + 240)).toNat = n + 240 := toNat_byte (by omega)
  simp only [lead, UInt8.lt_iff_toNat_lt, ← UInt8.toNat_inj, value]
  simp (disch := omega) [if_neg, if_pos]

theorem decodeFrom_char (c : Char) (done : List Char) (rest : Bytes) :
    decodeFrom none done (String.utf8EncodeChar c ++ rest) = decodeFrom none (c :: done) rest := by
  have bound : c.val.toNat < 0x110000 := by
    rcases c.valid with low | high
    · exact Nat.lt_trans low (by decide)
    · exact high.2
  -- Surrogates are no characters, so the bound on the second byte after 0xED is kept.
  have gap : c.val.toNat < 0xD800 ∨ 0xDFFF < c.val.toNat := by
    rcases c.valid with low | high
    · exact .inl low
    · exact .inr high.1
  have same : Char.ofNat c.val.toNat = c := Char.ofNat_toNat c
  fun_cases String.utf8EncodeChar c
  -- The cases are the four lengths that a character may have.
  case case1 v short =>
    have value : (UInt8.ofNat v).toNat = v := toNat_byte (by omega)
    have first : lead (UInt8.ofNat v) = .char c := by
      simp only [lead, UInt8.lt_iff_toNat_lt, value]
      rw [if_pos (by simpa using Nat.lt_succ_of_le short)]
      exact congrArg _ same
    simp [decodeFrom, first]
  case case2 v long short =>
    have first := lead_two (v / 64 % 32) (by omega) (by omega)
    have second := push_last (v / 64 % 32) (v % 64) 0x80 0xBF (by omega) (by simp) (by simp; omega)
    have whole : v / 64 % 32 * 64 + v % 64 = c.val.toNat := by omega
    rw [whole, same] at second
    simp only [List.cons_append, List.nil_append, decodeFrom, Option.elim, first, second]
  case case3 v _ long short =>
    have first := lead_three (v / 4096 % 16) (by omega)
    have second := push_more 0 (v / 4096 % 16) (v / 64 % 64)
      (if v / 4096 % 16 = 0 then 0xA0 else 0x80) (if v / 4096 % 16 = 13 then 0x9F else 0xBF) (by omega)
      (by split <;> simp; omega) (by split <;> simp <;> omega)
    have third := push_last (v / 4096 % 16 * 64 + v / 64 % 64) (v % 64) 0x80 0xBF (by omega) (by simp)
      (by simp; omega)
    have whole : (v / 4096 % 16 * 64 + v / 64 % 64) * 64 + v % 64 = c.val.toNat := by omega
    rw [whole, same] at third
    simp only [List.cons_append, List.nil_append, decodeFrom, Option.elim, first, second, third]
  case case4 v _ _ long =>
    have first := lead_four (v / 262144 % 8) (by omega)
    have second := push_more 1 (v / 262144 % 8) (v / 4096 % 64)
      (if v / 262144 % 8 = 0 then 0x90 else 0x80) (if v / 262144 % 8 = 4 then 0x8F else 0xBF) (by omega)
      (by split <;> simp; omega) (by split <;> simp <;> omega)
    have third := push_more 0 (v / 262144 % 8 * 64 + v / 4096 % 64) (v / 64 % 64) 0x80 0xBF (by omega)
      (by simp) (by simp; omega)
    have last := push_last ((v / 262144 % 8 * 64 + v / 4096 % 64) * 64 + v / 64 % 64) (v % 64) 0x80 0xBF
      (by omega) (by simp) (by simp; omega)
    have whole : ((v / 262144 % 8 * 64 + v / 4096 % 64) * 64 + v / 64 % 64) * 64 + v % 64 =
        c.val.toNat := by omega
    rw [whole, same] at last
    simp only [List.cons_append, List.nil_append, decodeFrom, Option.elim, first, second, third, last]

theorem decodeFrom_encode (chars done : List Char) (rest : Bytes) :
    decodeFrom none done (encode chars ++ rest) = decodeFrom none (chars.reverse ++ done) rest := by
  induction chars generalizing done with
  | nil => rfl
  | cons c chars ih =>
    rw [encode, List.flatMap_cons, List.append_assoc, decodeFrom_char]
    simpa [encode] using ih (c :: done)

theorem decode?_encode (chars : List Char) : decode? (encode chars) = some chars := by
  have read := decodeFrom_encode chars [] []
  simpa [decode?, decodeFrom] using read

end PolicyServer.Utf8
