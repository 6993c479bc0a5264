import Mathlib.Data.List.Induction
import PolicyServer.Proofs.Text.Encoding

/-! Where characters begin among the bytes of a text, and where its lines do. -/

namespace PolicyServer.Utf8

variable {chars : List Char}

theorem encode_cons (c : Char) (chars : List Char) :
    encode (c :: chars) = String.utf8EncodeChar c ++ encode chars :=
  List.flatMap_cons

theorem eq_of_mem_encodeChar {c : Char} {b : UInt8} (narrow : b.toNat < 128)
    (member : b ∈ String.utf8EncodeChar c) :
    c = Char.ofNat b.toNat ∧ String.utf8EncodeChar c = [b] := by
  rcases Nat.lt_or_ge c.toNat 128 with short | wide
  · have single := encodeChar_narrow short
    rw [single, List.mem_singleton] at member
    subst member
    rw [toNat_byte (by omega), Char.ofNat_toNat]
    exact ⟨rfl, single⟩
  · have := le_of_mem_encodeChar wide member
    omega

theorem exists_boundary {offset : Nat} {b : UInt8} {rest : Bytes} (narrow : b.toNat < 128)
    (stands : (encode chars).drop offset = b :: rest) :
    ∃ front back, chars = front ++ Char.ofNat b.toNat :: back ∧ (encode front).length = offset := by
  induction chars generalizing offset with
  | nil => simp [encode] at stands
  | cons c chars ih =>
    rw [encode_cons, List.drop_append] at stands
    rcases Nat.lt_or_ge offset (String.utf8EncodeChar c).length with inside | beyond
    · -- The byte is one of this character, so it is all of it.
      rw [List.drop_eq_getElem_cons inside, List.cons_append] at stands
      have same := (List.cons.inj stands).1
      have member := List.getElem_mem inside
      rw [same] at member
      obtain ⟨rfl, single⟩ := eq_of_mem_encodeChar narrow member
      rw [single, List.length_singleton] at inside
      exact ⟨[], chars, rfl, by simp only [encode, List.flatMap_nil, List.length_nil]; omega⟩
    · -- The byte comes after this character.
      rw [List.drop_eq_nil_of_le beyond, List.nil_append] at stands
      obtain ⟨front, back, rfl, long⟩ := ih stands
      refine ⟨c :: front, back, rfl, ?_⟩
      rw [encode_cons, List.length_append, long]
      omega

theorem prefix_of_encode_prefix {marks : List Char} (narrow : ∀ c ∈ marks, c.toNat < 128)
    (begins : encode marks <+: encode chars) : marks <+: chars := by
  induction marks generalizing chars with
  | nil => exact List.nil_prefix
  | cons mark marks ih =>
    obtain ⟨narrow, others⟩ := List.forall_mem_cons.mp narrow
    obtain ⟨rest, same⟩ := begins
    rw [encode_cons_narrow narrow, List.cons_append] at same
    have value : (UInt8.ofNat mark.toNat).toNat = mark.toNat := toNat_byte (by omega)
    -- The first byte is all of the first character.
    have stands : (encode chars).drop 0 = UInt8.ofNat mark.toNat :: (encode marks ++ rest) := same.symm
    obtain ⟨front, back, rfl, none⟩ := exists_boundary (by omega) stands
    have empty : front = [] := by
      cases front with
      | nil => rfl
      | cons c front =>
        have some := List.length_pos_iff.mpr (String.utf8EncodeChar_ne_nil : String.utf8EncodeChar c ≠ [])
        rw [encode_cons, List.length_append] at none
        omega
    rw [value, Char.ofNat_toNat] at same ⊢
    rw [empty, List.nil_append, encode_cons_narrow narrow] at same
    rw [empty, List.nil_append]
    exact (List.prefix_cons_inj mark).mpr (ih others ⟨rest, (List.cons.inj same).2⟩)

theorem exists_boundary_of_encode {marks : List Char} {offset : Nat} (some : marks ≠ [])
    (narrow : ∀ c ∈ marks, c.toNat < 128) (stands : encode marks <+: (encode chars).drop offset) :
    ∃ front back, chars = front ++ marks ++ back ∧ (encode front).length = offset := by
  obtain ⟨mark, marks, rfl⟩ := List.exists_cons_of_ne_nil some
  have first := narrow mark List.mem_cons_self
  obtain ⟨rest, same⟩ := id stands
  rw [encode_cons_narrow first, List.cons_append] at same
  obtain ⟨front, back, rfl, long⟩ := exists_boundary (by rw [toNat_byte (by omega)]; exact first) same.symm
  -- Behind the first mark the text goes on where the bytes do.
  rw [← long, encode_append, List.drop_left] at stands
  obtain ⟨back, whole⟩ := prefix_of_encode_prefix narrow stands
  exact ⟨front, back, by rw [List.append_assoc, whole], long⟩

theorem prefix_of_length_le {front front' : List Char} (begins : front <+: chars)
    (begins' : front' <+: chars) (less : (encode front).length ≤ (encode front').length) :
    front <+: front' := by
  rcases List.prefix_or_prefix_of_prefix begins begins' with shorter | ⟨more, rfl⟩
  · exact shorter
  · cases more with
    | nil => simp
    | cons c more =>
      have some := List.length_pos_iff.mpr (String.utf8EncodeChar_ne_nil : String.utf8EncodeChar c ≠ [])
      rw [encode_append, encode_cons, List.length_append, List.length_append] at less
      omega

theorem decodeLossyFrom_eq {pending : Option Pending} {done : List Char} {bytes : Bytes}
    (read : decodeFrom pending done bytes = some chars) :
    decodeLossyFrom pending done bytes = chars := by
  induction bytes generalizing pending done with
  | nil =>
    cases pending with
    | none => exact Option.some.inj read
    | some p => cases read
  | cons b rest ih =>
    cases pending with
    | none =>
      simp only [decodeFrom, Option.elim] at read
      simp only [decodeLossyFrom]
      split at read
      · exact ih read
      · exact ih read
      · cases read
    | some p =>
      simp only [decodeFrom, Option.elim] at read
      simp only [decodeLossyFrom]
      split at read
      · exact ih read
      · exact ih read
      · cases read

theorem decodeLossy_encode (chars : List Char) : decodeLossy (encode chars) = String.ofList chars :=
  congrArg String.ofList (decodeLossyFrom_eq (decode?_encode chars))

theorem ne_of_mem_encodeChar {c : Char} (other : c ≠ '\n') {b : UInt8}
    (member : b ∈ String.utf8EncodeChar c) : b ≠ 0x0A := by
  rintro rfl
  exact other (eq_of_mem_encodeChar (by decide) member).1

theorem count_encode (chars : List Char) : (encode chars).count 0x0A = chars.count '\n' := by
  induction chars with
  | nil => rfl
  | cons c chars ih =>
    rw [encode_cons, List.count_append, ih, List.count_cons]
    by_cases feed : c = '\n'
    · subst feed
      have single : (String.utf8EncodeChar '\n').count 0x0A = 1 := by decide
      rw [single, Nat.add_comm]
      rfl
    · have none : (String.utf8EncodeChar c).count 0x0A = 0 :=
        List.count_eq_zero.mpr fun member => ne_of_mem_encodeChar feed member rfl
      simp [none, feed]

def lastLine (chars : List Char) : List Char := (chars.reverse.takeWhile (· ≠ '\n')).reverse

theorem lastLine_feed (chars : List Char) : lastLine (chars ++ ['\n']) = [] := by
  simp [lastLine]

theorem lastLine_concat {c : Char} (other : c ≠ '\n') (chars : List Char) :
    lastLine (chars ++ [c]) = lastLine chars ++ [c] := by
  simp [lastLine, other]

theorem lastLine_encode (chars : List Char) :
    ((encode chars).reverse.takeWhile (· ≠ 0x0A)).length = (encode (lastLine chars)).length := by
  induction chars using List.reverseRecOn with
  | nil => rfl
  | append_singleton chars c ih =>
    rw [encode_append, List.reverse_append]
    by_cases feed : c = '\n'
    · subst feed
      have single : (encode ['\n']).reverse = [0x0A] := by decide
      rw [lastLine_feed, single]
      rfl
    · have all : ∀ b ∈ (encode [c]).reverse, decide (b ≠ 0x0A) = true := by
        intro b member
        rw [List.mem_reverse, encode, List.flatMap_singleton] at member
        exact decide_eq_true (ne_of_mem_encodeChar feed member)
      rw [lastLine_concat feed, encode_append, List.takeWhile_append_of_pos all, List.length_append,
        List.length_append, List.length_reverse, ih, Nat.add_comm]

end PolicyServer.Utf8
