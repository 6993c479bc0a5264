import PolicyServer.Proofs.Text.Encoding
import PolicyServer.Text.Percent

/-! Percent coding: what is coded reads back as the bytes it came from. -/

namespace PolicyServer.Percent

theorem toNat_ofNat_narrow {n : Nat} (small : n < 128) : (Char.ofNat n).toNat = n := by
  have all : ∀ n : Fin 128, (Char.ofNat n).toNat = n.val := by decide
  exact all ⟨n, small⟩

theorem digit?_digitChar {n : Nat} (small : n < 16) :
    (digitChar n).toNat < 128 ∧ digit? (UInt8.ofNat (digitChar n).toNat) = some n := by
  have all : ∀ n : Fin 16,
      (digitChar n).toNat < 128 ∧ digit? (UInt8.ofNat (digitChar n).toNat) = some n.val := by decide
  exact all ⟨n, small⟩

theorem decodeFrom_cons {b : UInt8} (other : b ≠ 0x25) (done rest : Bytes) :
    decodeFrom done (b :: rest) = decodeFrom (b :: done) rest := by
  rw [decodeFrom]
  intro _ _ _ same
  exact absurd same other

theorem decodeFrom_escape {a b : UInt8} {high low : Nat} (first : digit? a = some high)
    (second : digit? b = some low) (done rest : Bytes) :
    decodeFrom done (0x25 :: a :: b :: rest) = decodeFrom (UInt8.ofNat (16 * high + low) :: done) rest := by
  rw [decodeFrom, first, second]

section Coding

/-! The sign that marks numbers never stands for itself, and only ASCII does. -/

variable {plain : UInt8 → Bool} (marked : plain 0x25 = false) (narrow : ∀ b, plain b = true → b.toNat < 128)

include marked narrow

theorem decodeFrom_encodeByte (b : UInt8) (done rest : Bytes) :
    decodeFrom done (Utf8.encode (encodeByte plain b) ++ rest) = decodeFrom (b :: done) rest := by
  have bound := b.toNat_lt
  unfold encodeByte
  split
  · rename_i stands
    have short := narrow b stands
    have other : b ≠ 0x25 := by
      rintro rfl
      rw [marked] at stands
      cases stands
    have value := toNat_ofNat_narrow short
    rw [Utf8.encode_cons_narrow (by omega), value, UInt8.ofNat_toNat]
    exact decodeFrom_cons other done rest
  · obtain ⟨short, high⟩ := digit?_digitChar (n := b.toNat / 16) (by omega)
    obtain ⟨short', low⟩ := digit?_digitChar (n := b.toNat % 16) (by omega)
    have whole : 16 * (b.toNat / 16) + b.toNat % 16 = b.toNat := by omega
    rw [Utf8.encode_cons_narrow (by decide), Utf8.encode_cons_narrow short, Utf8.encode_cons_narrow short']
    have read := decodeFrom_escape high low done rest
    rw [whole, UInt8.ofNat_toNat] at read
    exact read

theorem decodeFrom_encode (bytes done : Bytes) :
    decodeFrom done (Utf8.encode (encode plain bytes)) = done.reverse ++ bytes := by
  induction bytes generalizing done with
  | nil =>
    show decodeFrom done [] = _
    rw [decodeFrom, List.append_nil]
  | cons b bytes ih =>
    rw [encode, List.flatMap_cons, Utf8.encode_append, decodeFrom_encodeByte marked narrow]
    rw [← encode, ih, List.reverse_cons, List.append_assoc, List.singleton_append]

theorem decode_encode (bytes : Bytes) : decode (Utf8.encode (encode plain bytes)) = bytes :=
  decodeFrom_encode marked narrow bytes []

end Coding

end PolicyServer.Percent
