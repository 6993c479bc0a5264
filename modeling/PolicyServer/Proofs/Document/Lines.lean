import Mathlib.Data.List.DropRight
import PolicyServer.Proofs.Text.Boundary

/-!
The lines of a text as an editor counts them.

A line ends with a line feed, with a carriage return, or with both in this order. The characters of a
line are counted in code units of UTF-16, and whoever counts beyond the end of a line is at its end.
-/

namespace PolicyServer.Editor

def unitsOf (c : Char) : Nat := if c.toNat < 0x10000 then 1 else 2

def units : List Char → Nat
  | [] => 0
  | c :: rest => unitsOf c + units rest

def isEnd (c : Char) : Bool := c = '\n' || c = '\r'

/-- Whether the next line begins after a character. It does not between the two that end a line
together. -/
def endsLine (c : Char) (rest : List Char) : Bool :=
  c = '\n' || (c = '\r' && rest.head? ≠ some '\n')

/-- How many characters of a line come before a number of code units, and all if it has fewer. There is
no place within a character. -/
def column? : Nat → List Char → Option Nat
  | 0, _ => some 0
  | _ + 1, [] => some 0
  | count + 1, c :: rest =>
    if isEnd c then some 0
    else if unitsOf c ≤ count + 1 then (column? (count + 1 - unitsOf c) rest).map (· + 1)
    else none

/-- How many characters of a text come before a place; lines and code units are counted from zero. -/
def place? : Nat → Nat → List Char → Option Nat
  | 0, count, text => column? count text
  | _ + 1, _, [] => none
  | line + 1, count, c :: rest =>
    (place? (if endsLine c rest then line else line + 1) count rest).map (· + 1)

def breaks : List Char → List Char → Nat
  | [], _ => 0
  | c :: front, back => (if endsLine c (front ++ back) then 1 else 0) + breaks front back

def openLine (text : List Char) : List Char := text.rtakeWhile fun c => !isEnd c

def AtEnd (back : List Char) : Prop := ∀ c ∈ back.head?, isEnd c = true

instance (back : List Char) : Decidable (AtEnd back) :=
  inferInstanceAs (Decidable (∀ c ∈ back.head?, isEnd c = true))

/-- Whoever counts so many code units is at the end of a line of a given width, before what follows. -/
def Meets (width count : Nat) (back : List Char) : Prop :=
  width = count ∨ (width < count ∧ AtEnd back)

def Paired : List Char → Prop
  | [] => True
  | c :: rest => (c = '\r' → rest.head? = some '\n') ∧ Paired rest

def Seam (front back : List Char) : Prop := front.getLast? = some '\r' → back.head? ≠ some '\n'

variable {front back text : List Char} {c : Char} {line count place : Nat}

theorem Seam.tail (seam : Seam (c :: front) back) : Seam front back := by
  cases front with
  | nil => simp [Seam]
  | cons d front => simpa [Seam] using seam

theorem map_succ_eq_some_iff {found : Option Nat} :
    found.map (· + 1) = some (place + 1) ↔ found = some place := by
  cases found <;> simp

theorem unitsOf_pos (c : Char) : 0 < unitsOf c := by
  unfold unitsOf
  split <;> decide

theorem isEnd_of_endsLine (ends : endsLine c text = true) : isEnd c = true := by
  simp only [endsLine, isEnd, Bool.or_eq_true, Bool.and_eq_true, decide_eq_true_eq] at ends ⊢
  exact ends.imp_right And.left

theorem breaks_of_column? (found : column? count text = some place) :
    place ≤ text.length ∧ breaks (text.take place) (text.drop place) = 0 := by
  induction text generalizing count place with
  | nil => cases count <;> cases found <;> exact ⟨Nat.le_refl _, rfl⟩
  | cons c rest ih =>
    cases count with
    | zero =>
      cases found
      exact ⟨Nat.zero_le _, rfl⟩
    | succ count =>
      rw [column?] at found
      split at found
      · cases found
        exact ⟨Nat.zero_le _, rfl⟩
      · rename_i goesOn
        split at found
        · obtain ⟨further, sooner, rfl⟩ := Option.map_eq_some_iff.mp found
          obtain ⟨within, none⟩ := ih sooner
          have stays : endsLine c rest = false :=
            Bool.eq_false_iff.mpr fun ends => goesOn (isEnd_of_endsLine ends)
          refine ⟨Nat.succ_le_succ within, ?_⟩
          simp only [List.take_succ_cons, List.drop_succ_cons, breaks, List.take_append_drop, stays, none]
          rfl
        · cases found

theorem breaks_of_place? (found : place? line count text = some place) :
    place ≤ text.length ∧ breaks (text.take place) (text.drop place) = line := by
  induction text generalizing line place with
  | nil =>
    cases line with
    | zero => exact breaks_of_column? found
    | succ line => cases found
  | cons c rest ih =>
    cases line with
    | zero => exact breaks_of_column? found
    | succ line =>
      obtain ⟨further, sooner, rfl⟩ := Option.map_eq_some_iff.mp found
      obtain ⟨within, counted⟩ := ih sooner
      refine ⟨Nat.succ_le_succ within, ?_⟩
      simp only [List.take_succ_cons, List.drop_succ_cons, breaks, List.take_append_drop, counted]
      split <;> omega

theorem column?_eq_length_iff (within : ∀ c ∈ text, isEnd c = false) :
    column? count (text ++ back) = some text.length ↔ Meets (units text) count back := by
  induction text generalizing count with
  | nil =>
    cases count with
    | zero => simp [column?, Meets, units]
    | succ count =>
      cases back with
      | nil => simp [column?, Meets, units, AtEnd]
      | cons c rest =>
        -- A line that goes on has a character before that many code units.
        simp only [List.nil_append, column?, Meets, units, AtEnd, List.head?_cons,
          Option.mem_some_iff, forall_eq', List.length_nil]
        by_cases ends : isEnd c = true
        · simp [ends]
        · rw [if_neg ends]
          split <;> simp [ends]
  | cons c text ih =>
    have goesOn : isEnd c = false := within c List.mem_cons_self
    have ih (count : Nat) := @ih count fun d member => within d (List.mem_cons_of_mem _ member)
    have positive := unitsOf_pos c
    rw [units]
    cases count with
    | zero =>
      simp only [List.cons_append, column?, Meets, List.length_cons, Option.some.injEq]
      omega
    | succ count =>
      simp only [List.cons_append, column?, goesOn, Bool.false_eq_true, if_false, List.length_cons]
      split
      · rw [map_succ_eq_some_iff, ih]
        by_cases ends : AtEnd back
        · simp only [Meets, ends, and_true]
          omega
        · simp only [Meets, ends, and_false, or_false]
          omega
      · simp only [Meets, reduceCtorEq, false_iff]
        omega

theorem exists_isEnd_of_breaks (some : breaks front back ≠ 0) : ∃ c ∈ front, isEnd c = true := by
  induction front with
  | nil => exact absurd rfl some
  | cons c front ih =>
    by_cases ends : endsLine c (front ++ back) = true
    · exact ⟨c, List.mem_cons_self, isEnd_of_endsLine ends⟩
    · simp only [breaks, ends] at some
      obtain ⟨d, member, isEnd⟩ := ih (by simpa using some)
      exact ⟨d, List.mem_cons_of_mem _ member, isEnd⟩

theorem rtakeWhile_cons {p : Char → Bool} (stops : p c = false ∨ ∃ d ∈ text, p d = false) :
    (c :: text).rtakeWhile p = text.rtakeWhile p := by
  rw [List.rtakeWhile, List.rtakeWhile, List.reverse_cons]
  by_cases all : ∀ d ∈ text.reverse, p d = true
  · have here : p c = false := by
      rcases stops with here | ⟨d, member, other⟩
      · exact here
      · exact absurd (all d (List.mem_reverse.mpr member)) (Bool.eq_false_iff.mp other)
    rw [List.takeWhile_append_of_pos all, List.takeWhile_eq_self_iff.mpr all]
    simp [here]
  · have short : (text.reverse.takeWhile p).length ≠ text.reverse.length := fun long =>
      all (List.takeWhile_eq_self_iff.mp ((List.takeWhile_prefix p).eq_of_length long))
    rw [List.takeWhile_append, if_neg short]

theorem isEnd_of_breaks (seam : Seam front back)
    (none : breaks front back = 0) : ∀ c ∈ front, isEnd c = false := by
  induction front with
  | nil => simp
  | cons c front ih =>
    obtain ⟨stays, later⟩ := Nat.add_eq_zero_iff.mp none
    have stays : endsLine c (front ++ back) = false := by simpa using stays
    cases front with
    | nil =>
      -- Here the seam tells that no line feed follows.
      simp only [endsLine, List.nil_append, Bool.or_eq_false_iff, Bool.and_eq_false_iff,
        decide_eq_false_iff_not] at stays
      intro d member
      obtain rfl := List.mem_singleton.mp member
      simp only [isEnd, Bool.or_eq_false_iff, decide_eq_false_iff_not]
      refine ⟨stays.1, ?_⟩
      rintro rfl
      exact stays.2.elim (absurd rfl) fun other => other (seam rfl)
    | cons d front =>
      have tail := ih seam.tail later
      -- What would be a carriage return here would have a line feed after it, which ends a line.
      have goesOn : isEnd c = false := by
        have next := tail d List.mem_cons_self
        simp only [isEnd, Bool.or_eq_false_iff, decide_eq_false_iff_not] at next
        simp only [endsLine, List.cons_append, List.head?_cons, Option.some.injEq, next.1, ne_eq,
          not_false_eq_true, decide_true, Bool.and_true] at stays
        exact stays
      exact List.forall_mem_cons.mpr ⟨goesOn, tail⟩

theorem openLine_cons (ends : isEnd c = true ∨ ∃ d ∈ text, isEnd d = true) :
    openLine (c :: text) = openLine text :=
  rtakeWhile_cons (by simpa using ends)

theorem place?_eq_length_iff (seam : Seam front back) :
    place? line count (front ++ back) = some front.length ↔
      breaks front back = line ∧ Meets (units (openLine front)) count back := by
  -- Only the line in which it stands is left open.
  have here : place? (breaks front back) count (front ++ back) = some front.length ↔
      Meets (units (openLine front)) count back := by
    induction front with
    | nil =>
      rw [breaks, place?]
      exact column?_eq_length_iff (List.forall_mem_nil _)
    | cons c front ih =>
      cases counted : breaks (c :: front) back with
      | zero =>
        have within := isEnd_of_breaks seam counted
        have whole : openLine (c :: front) = c :: front :=
          List.rtakeWhile_eq_self_iff.mpr fun d member => by rw [within d member]; rfl
        rw [whole]
        exact column?_eq_length_iff within
      | succ later =>
        have ended : isEnd c = true ∨ ∃ d ∈ front, isEnd d = true := by
          obtain ⟨d, member, ends⟩ := exists_isEnd_of_breaks (by omega : breaks (c :: front) back ≠ 0)
          rcases List.mem_cons.mp member with rfl | member
          · exact .inl ends
          · exact .inr ⟨d, member, ends⟩
        have next : (if endsLine c (front ++ back) then later else later + 1) = breaks front back := by
          rw [breaks] at counted
          split at counted
          · rename_i ends
            rw [if_pos ends]
            omega
          · rename_i stays
            rw [if_neg stays]
            omega
        rw [openLine_cons ended, ← ih seam.tail, List.cons_append, place?, next, List.length_cons,
          map_succ_eq_some_iff]
  constructor
  · intro found
    -- A place tells its line, so none of the others leads there.
    have counted := (breaks_of_place? found).2
    rw [List.take_left, List.drop_left] at counted
    subst counted
    exact ⟨rfl, here.mp found⟩
  · rintro ⟨rfl, meets⟩
    exact here.mpr meets

theorem count_le_breaks (front back : List Char) : front.count '\n' ≤ breaks front back := by
  induction front with
  | nil => exact Nat.le_refl _
  | cons c front ih =>
    rw [List.count_cons, breaks]
    by_cases feed : c = '\n'
    · simp [feed, endsLine]
      omega
    · simp [feed]
      omega

theorem breaks_eq_count_iff (seam : Seam front back) :
    breaks front back = front.count '\n' ↔ Paired front := by
  induction front with
  | nil => exact ⟨fun _ => trivial, fun _ => rfl⟩
  | cons c front ih =>
    have fewer := count_le_breaks front back
    rw [breaks, List.count_cons, Paired, ← ih seam.tail]
    by_cases turn : c = '\r'
    · subst turn
      -- A carriage return ends a line unless a line feed follows, which counts on its own.
      by_cases feed : (front ++ back).head? = some '\n'
      · have next : front.head? = some '\n' := by
          cases front with
          | nil => exact absurd feed (seam rfl)
          | cons d front => exact feed
        simp [endsLine, feed, next]
      · have next : front.head? ≠ some '\n' := by
          cases front with
          | nil => simp
          | cons d front => exact feed
        have ends : endsLine '\r' (front ++ back) = true := by
          simp only [endsLine, ne_eq, feed, not_false_eq_true, decide_true, Bool.and_true, Bool.or_true]
        have plain : ('\r' == '\n') = false := rfl
        rw [if_pos ends, if_neg (Bool.eq_false_iff.mp plain)]
        exact ⟨fun same => by omega, fun both => absurd (both.1 rfl) next⟩
    · by_cases feed : c = '\n'
      · simp [endsLine, feed]
        omega
      · simp [endsLine, feed, turn]

theorem Paired.of_append (paired : Paired (front ++ back)) (other : back.head? ≠ some '\n') :
    Paired front := by
  induction front with
  | nil => trivial
  | cons c front ih =>
    refine ⟨fun turn => ?_, ih paired.2⟩
    have next := paired.1 turn
    cases front with
    | nil => exact absurd next other
    | cons d front => exact next

theorem Paired.mem_feed (paired : Paired text) (member : '\r' ∈ text) : '\n' ∈ text := by
  induction text with
  | nil => cases member
  | cons c text ih =>
    rcases List.mem_cons.mp member with here | later
    · exact List.mem_cons_of_mem _ (List.mem_of_mem_head? (paired.1 here.symm))
    · exact List.mem_cons_of_mem _ (ih paired.2 later)

theorem Paired.openLine_eq (paired : Paired text) : openLine text = Utf8.lastLine text := by
  induction text with
  | nil => rfl
  | cons c text ih =>
    have last (stops : c = '\n' ∨ '\n' ∈ text) : Utf8.lastLine (c :: text) = Utf8.lastLine text :=
      rtakeWhile_cons (by simpa using stops)
    by_cases stops : c = '\n' ∨ '\n' ∈ text
    · have ended : isEnd c = true ∨ ∃ d ∈ text, isEnd d = true := by
        rcases stops with rfl | feed
        · exact .inl rfl
        · exact .inr ⟨'\n', feed, rfl⟩
      rw [last stops, openLine_cons ended, ih paired.2]
    · -- Neither of the two ends any line, so all is one line.
      have feedless : '\n' ∉ c :: text := fun member => stops (by simpa [eq_comm] using member)
      have turnless : '\r' ∉ c :: text := fun member => feedless (paired.mem_feed member)
      have whole : openLine (c :: text) = c :: text :=
        List.rtakeWhile_eq_self_iff.mpr fun d member => by
          have feed : d ≠ '\n' := fun same => feedless (same ▸ member)
          have turn : d ≠ '\r' := fun same => turnless (same ▸ member)
          simp [isEnd, feed, turn]
      have whole' : Utf8.lastLine (c :: text) = c :: text :=
        List.rtakeWhile_eq_self_iff.mpr fun d member =>
          decide_eq_true fun same => feedless (same ▸ member)
      rw [whole, whole']

theorem unitsOf_le (c : Char) :
    unitsOf c ≤ (String.utf8EncodeChar c).length ∧
      (unitsOf c = (String.utf8EncodeChar c).length ↔ c.toNat < 128) := by
  have same : c.toNat = c.val.toNat := rfl
  unfold unitsOf
  fun_cases String.utf8EncodeChar c <;> simp only [List.length_cons, List.length_nil] <;> split <;> omega

theorem units_le (text : List Char) :
    units text ≤ (Utf8.encode text).length ∧
      (units text = (Utf8.encode text).length ↔ ∀ c ∈ text, c.toNat < 128) := by
  induction text with
  | nil => simp [units, Utf8.encode]
  | cons c text ih =>
    obtain ⟨less, same⟩ := unitsOf_le c
    obtain ⟨less', same'⟩ := ih
    rw [units, Utf8.encode_cons, List.length_append, List.forall_mem_cons, ← same, ← same']
    omega

theorem place?_bytes_iff (seam : Seam front back) :
    place? (front.count '\n') (Utf8.encode (Utf8.lastLine front)).length (front ++ back) =
        some front.length ↔
      Paired front ∧ ((∀ c ∈ Utf8.lastLine front, c.toNat < 128) ∨ AtEnd back) := by
  rw [place?_eq_length_iff seam, breaks_eq_count_iff seam]
  -- Once lines are counted alike, both count in the same line, and bytes are never fewer.
  refine and_congr_right fun paired => ?_
  obtain ⟨less, same⟩ := units_le (Utf8.lastLine front)
  rw [paired.openLine_eq, ← same, Meets]
  by_cases ends : AtEnd back
  · simp only [ends, and_true, or_true, iff_true]
    omega
  · simp only [ends, and_false, or_false]

end PolicyServer.Editor
