import Mathlib.Data.List.Infix
import PolicyServer.Config.Expand
import PolicyServer.Proofs.Text.Boundary

/-!
Variables in texts: expanding replaces the references of a text from left to right.

The first reference divides a text in one way only. What stands before it is copied, the value of its
variable comes in its place, and what follows is expanded in the same way.
-/

namespace PolicyServer.Environment

variable {environment : Environment} {text before after name rest : List Char}

def opening : List Char := ['$', '{']

/-! ### The first reference -/

theorem not_prefix_append (free : ¬ opening <:+: before) (some : before ≠ []) :
    ¬ opening <+: before ++ '$' :: after := by
  -- The second mark would be the one that follows, or both would be characters of the text before.
  intro begins
  rcases before with _ | ⟨c, _ | ⟨d, more⟩⟩
  · exact some rfl
  · have second := (List.cons_prefix_cons.mp (List.cons_prefix_cons.mp begins).2).1
    exact absurd second (by decide)
  · obtain ⟨first, begins⟩ := List.cons_prefix_cons.mp begins
    have second := (List.cons_prefix_cons.mp begins).1
    exact free ⟨[], more, by rw [← first, ← second]; rfl⟩

theorem prefix_of_free {other later : List Char} (free : ¬ opening <:+: before)
    (same : before ++ opening ++ after = other ++ opening ++ later) : before <+: other := by
  rw [List.append_assoc, List.append_assoc] at same
  rcases List.append_eq_append_iff.mp same with ⟨more, rfl, -⟩ | ⟨more, rfl, back⟩
  · exact List.prefix_append _ _
  · -- The other one would open within the text before.
    by_cases none : more = []
    · rw [none, List.append_nil]
    · have inner : ¬ opening <:+: more := fun inside => free (inside.trans (List.suffix_append _ _).isInfix)
      exact absurd ⟨later, back⟩ (not_prefix_append inner none)

theorem exists_first_opening (opened : opening <:+: text) :
    ∃ before after, text = before ++ opening ++ after ∧ ¬ opening <:+: before := by
  induction text with
  | nil => simp [opening] at opened
  | cons c text ih =>
    by_cases here : opening <+: c :: text
    · obtain ⟨after, whole⟩ := here
      exact ⟨[], after, whole.symm, by simp [opening]⟩
    · -- The first reference comes later, and the character at the head opens none.
      rcases List.infix_cons_iff.mp opened with begins | later
      · exact absurd begins here
      · obtain ⟨before, after, rfl, free⟩ := ih later
        refine ⟨c :: before, after, rfl, fun inside => ?_⟩
        rcases List.infix_cons_iff.mp inside with begins | inside
        · refine here (begins.trans ?_)
          rw [List.append_assoc, ← List.cons_append]
          exact List.prefix_append _ _
        · exact free inside

/-! ### Expanding -/

theorem expandChars_cons {c : Char} (plain : ¬ opening <+: c :: text) :
    environment.expandChars (c :: text) = c :: environment.expandChars text := by
  rw [expandChars]
  rintro rest rfl rfl
  exact plain ⟨rest, rfl⟩

theorem expandChars_of_free (free : ¬ opening <:+: text) : environment.expandChars text = text := by
  induction text with
  | nil => rw [expandChars]
  | cons c text ih =>
    have parts := mt List.infix_cons_iff.mpr free
    rw [not_or] at parts
    rw [expandChars_cons parts.1, ih parts.2]

theorem expandChars_before (free : ¬ opening <:+: before) :
    environment.expandChars (before ++ opening ++ after) =
      before ++ environment.expandChars (opening ++ after) := by
  induction before with
  | nil => rfl
  | cons c before ih =>
    have plain : ¬ opening <+: c :: (before ++ opening ++ after) := by
      rw [List.append_assoc, ← List.cons_append]
      exact not_prefix_append free (List.cons_ne_nil _ _)
    have inner : ¬ opening <:+: before := fun inside => free (inside.trans (List.suffix_cons _ _).isInfix)
    rw [List.cons_append, List.cons_append, expandChars_cons plain, ih inner, List.cons_append]

theorem expandChars_unclosed (unclosed : '}' ∉ after) :
    environment.expandChars (opening ++ after) = opening ++ after := by
  show environment.expandChars ('$' :: '{' :: after) = '$' :: '{' :: after
  rw [expandChars, if_neg unclosed]

theorem expandChars_reference (closed : '}' ∉ name) :
    environment.expandChars (opening ++ (name ++ '}' :: rest)) =
      environment.value name ++ environment.expandChars rest := by
  have plain : ∀ c ∈ name, decide (c ≠ '}') = true := by
    intro c member
    exact decide_eq_true fun same => closed (same ▸ member)
  show environment.expandChars ('$' :: '{' :: (name ++ '}' :: rest)) = _
  rw [expandChars, if_pos (by simp), List.takeWhile_append_of_pos plain,
    List.dropWhile_append_of_pos plain]
  simp

/-- A text refers to a variable: a reference is opened in it, and closed later. -/
def Refers (text : List Char) : Prop := ∃ before after, text = before ++ opening ++ after ∧ '}' ∈ after

/-- The first reference of a text: nothing is opened before it, and its name ends where it is closed. -/
structure Divides (text before name rest : List Char) : Prop where
  whole : text = before ++ opening ++ (name ++ '}' :: rest)
  free : ¬ opening <:+: before
  closed : '}' ∉ name

theorem prefix_of_notMem {other later : List Char} (closed : '}' ∉ name)
    (same : name ++ ['}'] ++ rest = other ++ ['}'] ++ later) : name <+: other := by
  rw [List.append_assoc, List.append_assoc] at same
  rcases List.append_eq_append_iff.mp same with ⟨more, rfl, -⟩ | ⟨more, rfl, back⟩
  · exact List.prefix_append _ _
  · cases more with
    | nil => rw [List.append_nil]
    | cons c more =>
      -- The bracket that closes the other name would be a character of this one.
      obtain ⟨rfl, -⟩ := List.cons.inj back
      exact absurd (by simp) closed

theorem Divides.unique {before' name' rest' : List Char} (divides : Divides text before name rest)
    (divides' : Divides text before' name' rest') : before' = before ∧ name' = name ∧ rest' = rest := by
  have same := divides.whole.symm.trans divides'.whole
  have first : before' = before := (prefix_of_free divides'.free same.symm).eq_of_length_le
    (prefix_of_free divides.free same).length_le
  subst first
  have back : name ++ ['}'] ++ rest = name' ++ ['}'] ++ rest' := by simpa using same
  have second : name' = name := (prefix_of_notMem divides'.closed back.symm).eq_of_length_le
    (prefix_of_notMem divides.closed back).length_le
  subst second
  exact ⟨rfl, rfl, (List.append_cancel_left back).symm⟩

theorem Refers.exists_divides (refers : Refers text) : ∃ before name rest, Divides text before name rest := by
  obtain ⟨other, later, whole, closing⟩ := refers
  obtain ⟨before, after, rfl, free⟩ := exists_first_opening ⟨other, later, whole.symm⟩
  -- What follows the first opening holds all that follows the other one.
  have closed : '}' ∈ after := by
    obtain ⟨more, rfl⟩ := prefix_of_free free whole
    rw [List.append_assoc, List.append_assoc, List.append_assoc] at whole
    have back := List.append_cancel_left whole
    have member : '}' ∈ opening ++ after := back ▸ by simp [closing]
    simpa [opening] using member
  obtain ⟨name, rest, rfl, absent⟩ := List.eq_append_cons_of_mem closed
  exact ⟨before, name, rest, rfl, free, absent⟩

theorem expandChars_of_not_refers (none : ¬ Refers text) : environment.expandChars text = text := by
  by_cases opened : opening <:+: text
  · -- The first reference is opened, but nothing closes it.
    obtain ⟨before, after, rfl, free⟩ := exists_first_opening opened
    have unclosed : '}' ∉ after := fun closing => none ⟨before, after, rfl, closing⟩
    rw [expandChars_before free, expandChars_unclosed unclosed, List.append_assoc]
  · exact expandChars_of_free opened

theorem expandChars_of_divides (divides : Divides text before name rest) :
    environment.expandChars text =
      before ++ environment.value name ++ environment.expandChars rest := by
  rw [divides.whole, expandChars_before divides.free, expandChars_reference divides.closed,
    List.append_assoc]

/-! ### Places in bytes -/

/-- The first place at which some bytes stand among others. -/
def firstPlace? (wanted bytes : Bytes) : Option Nat :=
  (List.range (bytes.length + 1)).find? fun place => wanted.isPrefixOf (bytes.drop place)

/-- The first reference among some bytes, searched for by its marks: how many bytes stand before it, and
how many its name has. -/
def reference? (bytes : Bytes) : Option (Nat × Nat) := do
  let before ← firstPlace? (Utf8.encode opening) bytes
  let width ← firstPlace? (Utf8.encode ['}']) (bytes.drop (before + 2))
  some (before, width)

section Marks

variable {marks : List Char} (some : marks ≠ []) (narrow : ∀ c ∈ marks, c.toNat < 128)

include some narrow

/-- Searching the bytes of a text for marks finds the place where they first stand as characters. -/
theorem firstPlace?_encode
    (first : ∀ other later, before ++ marks ++ after = other ++ marks ++ later → before <+: other) :
    firstPlace? (Utf8.encode marks) (Utf8.encode (before ++ marks ++ after)) =
      Option.some (Utf8.encode before).length := by
  have split : Utf8.encode (before ++ marks ++ after) =
      Utf8.encode before ++ (Utf8.encode marks ++ Utf8.encode after) := by
    rw [List.append_assoc, Utf8.encode_append, Utf8.encode_append]
  refine List.find?_range_eq_some.mpr ⟨?_, ?_, fun place less => ?_⟩
  · rw [List.isPrefixOf_iff_prefix, split, List.drop_left]
    exact List.prefix_append _ _
  · rw [List.mem_range, split, List.length_append]
    omega
  · -- Where the bytes stand the characters do, and these stand nowhere before.
    rw [Bool.not_eq_true', Bool.eq_false_iff, ne_eq, List.isPrefixOf_iff_prefix]
    intro stands
    obtain ⟨other, later, found, long⟩ := Utf8.exists_boundary_of_encode some narrow stands
    obtain ⟨more, rfl⟩ := first other later found
    rw [Utf8.encode_append, List.length_append] at long
    omega

theorem firstPlace?_encode_eq_none (absent : ¬ marks <:+: text) :
    firstPlace? (Utf8.encode marks) (Utf8.encode text) = none := by
  refine List.find?_range_eq_none.mpr fun place _ => ?_
  rw [Bool.not_eq_true', Bool.eq_false_iff, ne_eq, List.isPrefixOf_iff_prefix]
  intro stands
  obtain ⟨other, later, rfl, -⟩ := Utf8.exists_boundary_of_encode some narrow stands
  exact absent ⟨other, later, rfl⟩

end Marks

theorem firstPlace?_opening (free : ¬ opening <:+: before) (after : List Char) :
    firstPlace? (Utf8.encode opening) (Utf8.encode (before ++ opening ++ after)) =
      some (Utf8.encode before).length :=
  firstPlace?_encode (by decide) (by simp [opening]) fun _ _ => prefix_of_free free

theorem drop_encode_opening (before after : List Char) :
    (Utf8.encode (before ++ opening ++ after)).drop ((Utf8.encode before).length + 2) =
      Utf8.encode after := by
  have behind : (Utf8.encode before).length + 2 = (Utf8.encode (before ++ opening)).length := by
    rw [Utf8.encode_append, List.length_append]
    rfl
  rw [behind, Utf8.encode_append (before ++ opening), List.drop_left]

theorem reference?_of_not_refers (none : ¬ Refers text) : reference? (Utf8.encode text) = Option.none := by
  by_cases opened : opening <:+: text
  · -- A bracket that closes is searched for behind the first opening, and there is none.
    obtain ⟨before, after, rfl, free⟩ := exists_first_opening opened
    have unclosed : ¬ ['}'] <:+: after := fun closing =>
      none ⟨before, after, rfl, (List.singleton_infix_iff _ _).mp closing⟩
    have absent := firstPlace?_encode_eq_none (by decide) (by simp) unclosed
    simp only [reference?, firstPlace?_opening free, drop_encode_opening, absent, Option.bind_eq_bind,
      Option.bind_some, Option.bind_none]
  · simp [reference?, firstPlace?_encode_eq_none (by decide) (by simp [opening]) opened]

theorem reference?_of_divides (divides : Divides text before name rest) :
    reference? (Utf8.encode text) = some ((Utf8.encode before).length, (Utf8.encode name).length) := by
  obtain ⟨rfl, free, closed⟩ := divides
  have closing : firstPlace? (Utf8.encode ['}']) (Utf8.encode (name ++ ['}'] ++ rest)) =
      some (Utf8.encode name).length :=
    firstPlace?_encode (by decide) (by simp) fun _ _ => prefix_of_notMem closed
  rw [List.append_assoc, List.singleton_append] at closing
  simp only [reference?, firstPlace?_opening free, drop_encode_opening, closing, Option.bind_eq_bind,
    Option.bind_some]

/-! ### Texts -/

theorem isValid_of_append {text : String} {front back : List Char} (whole : text.toList = front ++ back) :
    String.Pos.Raw.IsValid text ⟨(Utf8.encode front).length⟩ := by
  have size : (Utf8.encode front).length = (String.ofList front).utf8ByteSize := by
    rw [← String.size_toByteArray, String.toByteArray_ofList, List.utf8Encode, List.size_toByteArray]
    rfl
  refine String.Pos.Raw.isValid_iff_exists_append.mpr
    ⟨String.ofList front, String.ofList back, ?_, by rw [size]; rfl⟩
  rw [← String.ofList_append, ← whole, String.ofList_toList]

/-- What stands before the first reference, its name and the rest begin and end with whole characters of
any text that ends so. -/
theorem Divides.isValid {text : String} (divides : Divides text.toList before name rest) (front : String) :
    let opened := (Bytes.ofText front).length + (Utf8.encode before).length
    let closed := opened + 2 + (Utf8.encode name).length
    ∀ place ∈ [opened, opened + 2, closed, closed + 1],
      String.Pos.Raw.IsValid (front ++ text) ⟨place⟩ := by
  intro opened closed
  have cut (middle back : List Char) (whole : text.toList = middle ++ back) :
      String.Pos.Raw.IsValid (front ++ text) ⟨(Bytes.ofText front).length + (Utf8.encode middle).length⟩ := by
    have inside : (front ++ text).toList = front.toList ++ middle ++ back := by
      rw [String.toList_append, whole, List.append_assoc]
    have valid := isValid_of_append inside
    rwa [Utf8.encode_append, List.length_append] at valid
  have two : (Utf8.encode opening).length = 2 := by decide
  have one : (Utf8.encode ['}']).length = 1 := by decide
  have whole := divides.whole
  have first := cut (before ++ opening) _ whole
  have second := cut (before ++ opening ++ name) ('}' :: rest) (by simpa using whole)
  have third := cut (before ++ opening ++ name ++ ['}']) rest (by simpa using whole)
  simp only [Utf8.encode_append, List.length_append, two, one, ← Nat.add_assoc] at first second third
  simp only [List.forall_mem_cons, List.not_mem_nil, false_implies, implies_true, and_true]
  exact ⟨cut before _ (whole.trans (List.append_assoc _ _ _)), first, second, third⟩

theorem ofList_value (name : String) : String.ofList (environment.value name.toList) =
    if name = "" then "" else (environment.lookup name).getD "" := by
  by_cases empty : name = ""
  · rw [if_pos empty, empty]
    rfl
  · have some : name.toList.isEmpty = false := by simpa using empty
    simp [value, some, empty]

theorem expand_of_free {text : String} (free : ¬ opening <:+: text.toList) :
    environment.expand text = text := by
  rw [expand, expandChars_of_free free, String.ofList_toList]

theorem expand_reference {text : String} (name : String)
    (whole : text.toList = opening ++ (name.toList ++ ['}'])) (closed : '}' ∉ name.toList) :
    environment.expand text = if name = "" then "" else (environment.lookup name).getD "" := by
  rw [expand, whole, expandChars_reference closed, expandChars, List.append_nil, ofList_value]

/-- A text is expanded by its first reference, which divides it in one way only: what stands before it is
copied, the value of its variable is put in as it is, and the rest is expanded by itself. A text without
a reference stays as it is. The marks may be searched for among the bytes of the text: they are found
where the reference is, and whatever was gone through before, all that is cut out begins and ends with
whole characters. -/
theorem expansion_by_first_reference (environment : Environment) (text : String) :
    (¬ Refers text.toList →
      environment.expand text = text ∧ reference? (Bytes.ofText text) = none) ∧
    (Refers text.toList → ∃ before name rest : String,
      Divides text.toList before.toList name.toList rest.toList ∧
      (∀ before' name' rest', Divides text.toList before' name' rest' →
        before' = before.toList ∧ name' = name.toList ∧ rest' = rest.toList) ∧
      environment.expand text =
        before ++ (if name = "" then "" else (environment.lookup name).getD "") ++ environment.expand rest ∧
      reference? (Bytes.ofText text) = some ((Bytes.ofText before).length, (Bytes.ofText name).length) ∧
      ∀ front : String,
        let opened := (Bytes.ofText front).length + (Bytes.ofText before).length
        let closed := opened + 2 + (Bytes.ofText name).length
        ∀ place ∈ [opened, opened + 2, closed, closed + 1],
          String.Pos.Raw.IsValid (front ++ text) ⟨place⟩) := by
  have whole : environment.expand text = String.ofList (environment.expandChars text.toList) := rfl
  refine ⟨fun none => ⟨?_, reference?_of_not_refers none⟩, fun refers => ?_⟩
  · rw [whole, expandChars_of_not_refers none, String.ofList_toList]
  · obtain ⟨before, name, rest, divides⟩ := refers.exists_divides
    refine ⟨String.ofList before, String.ofList name, String.ofList rest, ?_, ?_, ?_, ?_, fun front => ?_⟩
    · simpa only [String.toList_ofList] using divides
    · intro before' name' rest' divides'
      simpa only [String.toList_ofList] using divides.unique divides'
    · rw [whole, expandChars_of_divides divides, String.ofList_append, String.ofList_append, ← ofList_value,
        expand, String.toList_ofList, String.toList_ofList]
    · simpa only [Bytes.ofText, String.toList_ofList] using reference?_of_divides divides
    · simpa only [Bytes.ofText, String.toList_ofList] using divides.isValid front

-- A name may hold the marks that open, a value is not read again, and what nothing closes stays.
example : Environment.expand [("A$\x7bB", "$\x7bB\x7d"), ("B", "x")] "é$$\x7bA$\x7bB\x7d\x7d$\x7b" =
    "é$$\x7bB\x7d\x7d$\x7b" := by decide +kernel

end PolicyServer.Environment
