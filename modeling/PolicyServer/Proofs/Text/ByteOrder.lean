import Mathlib.Data.String.Basic
import Mathlib.Tactic.SplitIfs
import PolicyServer.Text.Utf8

/-! Texts are ordered as their bytes are: UTF-8 keeps the order of characters. -/

namespace PolicyServer

theorem Utf8.append_lt_append {c d : Char} (less : c < d) (s t : Bytes) :
    String.utf8EncodeChar c ++ s < String.utf8EncodeChar d ++ t := by
  have below : c.val.toNat < d.val.toNat := less
  have bound : d.val.toNat < 0x110000 := by
    rcases d.valid with low | high
    · exact Nat.lt_trans low (by decide)
    · exact high.2
  -- The lead byte tells the number of bytes, and more bytes have a higher one.
  simp only [String.utf8EncodeChar]
  split_ifs
  all_goals
    simp (disch := omega) only [List.cons_append, List.nil_append, List.cons_lt_cons_iff,
      UInt8.lt_iff_toNat_lt, ← UInt8.toNat_inj, UInt8.toNat_ofNat', Nat.mod_eq_of_lt]
    omega

theorem Utf8.encode_lt {chars chars' : List Char} (less : chars < chars') :
    Utf8.encode chars < Utf8.encode chars' := by
  -- The texts part at some character, and the encodings part within that of it.
  induction chars generalizing chars' with
  | nil =>
    cases chars' with
    | nil => cases less
    | cons d rest =>
      -- No character is encoded as nothing, so the empty text comes first.
      have some : String.utf8EncodeChar d ≠ [] := by
        simp only [String.utf8EncodeChar]
        split_ifs <;> simp
      obtain ⟨b, bytes, shape⟩ := List.exists_cons_of_ne_nil some
      simp [Utf8.encode, shape]
  | cons c rest ih =>
    cases chars' with
    | nil => cases less
    | cons d rest' =>
      rcases List.cons_lt_cons_iff.mp less with lower | ⟨rfl, later⟩
      · exact Utf8.append_lt_append lower _ _
      · exact List.append_left_lt (ih later)

theorem Bytes.ofText_lt {text text' : String} (less : text < text') :
    Bytes.ofText text < Bytes.ofText text' :=
  Utf8.encode_lt (String.lt_iff_toList_lt.mp less)

end PolicyServer
