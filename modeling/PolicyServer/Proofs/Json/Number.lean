import PolicyServer.Json.Number
import PolicyServer.Json.Writer
import PolicyServer.Proofs.Text.Digits
import PolicyServer.Proofs.Text.Encoding

/-! Whole numbers as they stand in JSON texts read back as what was written. -/

namespace PolicyServer.Json

open Text (valueAfter)

variable {rest : Bytes} {n : Nat}

def Delimited (rest : Bytes) : Prop := ∀ b ∈ rest.head?, b = 0x2C ∨ b = 0x5D ∨ b = 0x7D

theorem delimited_nil : Delimited [] := by simp [Delimited]

theorem delimited_cons {b : UInt8} (mark : b = 0x2C ∨ b = 0x5D ∨ b = 0x7D) (rest : Bytes) :
    Delimited (b :: rest) := by
  simpa [Delimited] using mark

theorem Delimited.head {b : UInt8} (delimited : Delimited (b :: rest)) :
    digit? b = none ∧ b ≠ 0x2E ∧ isExponentMark b = false := by
  rcases delimited b rfl with rfl | rfl | rfl <;> exact ⟨rfl, by decide, rfl⟩

theorem digit?_of_isDigit {c : Char} (digit : c.isDigit = true) :
    digit? (UInt8.ofNat c.toNat) = some (c.toNat - 48) ∧ c.toNat < 128 := by
  have bounds := Text.bounds_of_isDigit digit
  have value : (UInt8.ofNat c.toNat).toNat = c.toNat := Utf8.toNat_byte (by omega)
  have within : (0x30 : UInt8) ≤ UInt8.ofNat c.toNat ∧ UInt8.ofNat c.toNat ≤ 0x39 := by
    simp only [UInt8.le_iff_toNat_le, value]
    exact bounds
  refine ⟨?_, by omega⟩
  simp only [digit?, within, and_self, if_true, value]

theorem takeDigits_digits {digits : List Char} (all : ∀ c ∈ digits, c.isDigit = true)
    (delimited : Delimited rest) (value taken : Nat)
    (small : valueAfter value digits < significandLimit) :
    takeDigits ⟨value, taken, 0⟩ (Utf8.encode digits ++ rest) =
      (⟨valueAfter value digits, taken + digits.length, 0⟩, rest) := by
  induction digits generalizing value taken with
  | nil =>
    cases rest with
    | nil => rfl
    | cons b rest =>
      have stop := delimited.head.1
      simp [Utf8.encode, takeDigits, stop, valueAfter]
  | cons c digits ih =>
    obtain ⟨digit, narrow⟩ := digit?_of_isDigit (all c List.mem_cons_self)
    have shape : valueAfter value (c :: digits) = valueAfter (value * 10 + (c.toNat - 48)) digits := by
      rw [Nat.mul_comm]
      rfl
    rw [shape] at small ⊢
    -- What has been read so far is no more than the whole number.
    have below : value * 10 + (c.toNat - 48) < significandLimit :=
      Nat.lt_of_le_of_lt (Text.le_valueAfter _ _) small
    have later := ih (fun c member => all c (List.mem_cons_of_mem _ member))
      (value * 10 + (c.toNat - 48)) (taken + 1) small
    rw [Utf8.encode_cons_narrow narrow, List.cons_append, takeDigits, digit]
    simp only [below, and_self, if_true]
    rw [later, List.length_cons]
    simp only [Nat.add_assoc, Nat.add_comm 1]

theorem readNumber_toDigits (negative : Bool) (small : n < significandLimit)
    (delimited : Delimited rest) :
    ∃ taken, readNumber negative (Utf8.encode (Nat.toDigits 10 n) ++ rest) =
      readAfterWhole negative ⟨n, taken, 0⟩ rest := by
  rcases Nat.eq_zero_or_pos n with rfl | positive
  · -- After a zero no digit may follow, and none does.
    have zero : Utf8.encode (Nat.toDigits 10 0) = [0x30] := rfl
    have first : digit? 0x30 = some 0 := rfl
    refine ⟨1, ?_⟩
    rw [zero]
    cases rest with
    | nil => rfl
    | cons b rest =>
      have stop := delimited.head.1
      simp [readNumber, first, stop]
  · obtain ⟨c, digits, shape, apart⟩ := Text.head_toDigits positive
    have all : ∀ c ∈ Nat.toDigits 10 n, c.isDigit = true := fun c => Text.isDigit_of_mem
    have value := Text.valueAfter_toDigits n
    have taken := takeDigits_digits all delimited 0 0 (value.symm ▸ small)
    rw [value] at taken
    obtain ⟨digit, narrow⟩ := digit?_of_isDigit (all c (by rw [shape]; exact List.mem_cons_self))
    have bounds := Text.bounds_of_isDigit (all c (by rw [shape]; exact List.mem_cons_self))
    -- The first digit is not zero.
    obtain ⟨k, some⟩ : ∃ k, c.toNat - 48 = k + 1 := by
      refine ⟨c.toNat - 49, ?_⟩
      have : c.toNat ≠ 48 := fun same => apart (by rw [← Char.ofNat_toNat c, same])
      omega
    refine ⟨0 + (Nat.toDigits 10 n).length, ?_⟩
    rw [shape, Utf8.encode_cons_narrow narrow, List.cons_append] at taken ⊢
    simp only [readNumber, digit, some, taken]

theorem readAfterWhole_delimited (negative : Bool) (value taken : Nat) (delimited : Delimited rest) :
    readAfterWhole negative ⟨value, taken, 0⟩ rest =
      readAfterWhole.finish negative ⟨value, taken, 0⟩ rest := by
  cases rest with
  | nil => rfl
  | cons b rest =>
    obtain ⟨-, point, mark⟩ := delimited.head
    simp [readAfterWhole, point, mark]

theorem readNumber_ofNat (small : n < significandLimit) (delimited : Delimited rest) :
    readNumber false (Utf8.encode (Nat.toDigits 10 n) ++ rest) = .ok (.int n, rest) := by
  obtain ⟨taken, read⟩ := readNumber_toDigits false small delimited
  rw [read, readAfterWhole_delimited false n taken delimited]
  rfl

theorem readNumber_negSucc (small : n < 0x8000000000000000) (delimited : Delimited rest) :
    readNumber true (Utf8.encode (Nat.toDigits 10 (n + 1)) ++ rest) =
      .ok (.int (Int.negSucc n), rest) := by
  have within : n + 1 < significandLimit := Nat.lt_of_le_of_lt small (by decide)
  obtain ⟨taken, read⟩ := readNumber_toDigits true within delimited
  -- It is neither zero nor too large for 63 bits.
  have whole : ¬ (n + 1 = 0 ∨ 0x8000000000000000 < n + 1) := by omega
  rw [read, readAfterWhole_delimited true (n + 1) taken delimited]
  simp only [readAfterWhole.finish, whole, if_true, if_false]
  rfl

end PolicyServer.Json
