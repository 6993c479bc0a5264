import Mathlib.Data.String.Basic

/-! Decimal digits: the number that they stand for, and the digits that a number is written with. -/

namespace PolicyServer.Text

variable {n : Nat}

theorem bounds_of_isDigit {c : Char} (digit : c.isDigit = true) : 48 ≤ c.toNat ∧ c.toNat ≤ 57 := by
  simp only [Char.isDigit, Bool.and_eq_true, decide_eq_true_eq] at digit
  exact digit

theorem isDigit_of_mem {c : Char} (member : c ∈ Nat.toDigits 10 n) : c.isDigit = true :=
  Nat.isDigit_of_mem_toDigits (by decide) (by decide) member

def valueAfter (value : Nat) (digits : List Char) : Nat :=
  digits.foldl (fun value c => 10 * value + (c.toNat - 48)) value

theorem le_valueAfter (value : Nat) (digits : List Char) : value ≤ valueAfter value digits := by
  induction digits generalizing value with
  | nil => exact Nat.le_refl _
  | cons c digits ih =>
    have later := ih (10 * value + (c.toNat - 48))
    exact Nat.le_trans (by omega) later

theorem valueAfter_toDigits (n : Nat) : valueAfter 0 (Nat.toDigits 10 n) = n := by
  have read : Nat.ofDigitChars 10 (Nat.toDigits 10 n) 0 = n := Nat.ofDigitChars_ten_toDigits
  exact read

theorem head_toDigits (positive : 0 < n) : ∃ c digits, Nat.toDigits 10 n = c :: digits ∧ c ≠ '0' := by
  -- The first digit is that of the number without its last digit, until there is one digit left.
  induction n using Nat.strongRecOn with
  | ind n ih =>
    rw [Nat.toDigits_eq_if (by decide)]
    split
    · rename_i small
      refine ⟨n.digitChar, [], rfl, fun zero => ?_⟩
      have value := Nat.toNat_digitChar_of_lt_ten small
      rw [zero] at value
      have : '0'.toNat = 48 := rfl
      omega
    · obtain ⟨c, digits, shape, apart⟩ := ih (n / 10) (by omega) (by omega)
      exact ⟨c, _, by rw [shape]; rfl, apart⟩

end PolicyServer.Text
