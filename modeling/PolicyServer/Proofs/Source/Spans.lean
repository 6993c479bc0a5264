import PolicyServer.Proofs.Source.Captures

/-!
Where the declarations of a source stand.

The walk over a tree comes to a call before those inside it, and to those inside it before any that
follows. So declarations come in the order in which they begin, and any two lie inside one another or
apart.
-/

namespace PolicyServer.Source

variable {source : Bytes} {first middle last : Nat} {tokens more : List Token} {parts : List Node}

/-! ### Runs of tokens, cut in two -/

theorem Run.tail {token : Token} (run : Run source first last (token :: tokens)) :
    Run source token.stop last tokens := by
  obtain ⟨apart, ordered⟩ := List.pairwise_cons.mp run.ordered
  refine ⟨ordered, fun other member => ?_, (run.stands token List.mem_cons_self).2.2⟩
  obtain ⟨stands, -, before⟩ := run.stands other (List.mem_cons_of_mem _ member)
  exact ⟨stands, apart other member, before⟩

theorem Run.split (run : Run source first last (tokens ++ more)) :
    ∃ middle, Run source first middle tokens ∧ Run source middle last more := by
  induction tokens generalizing first with
  | nil => exact ⟨first, .nil (Nat.le_refl _), run⟩
  | cons token tokens ih =>
    obtain ⟨stands, after, -⟩ := run.stands token List.mem_cons_self
    obtain ⟨middle, front, back⟩ := ih run.tail
    exact ⟨middle, (Run.single stands after).append front, back⟩

theorem Run.upto {token : Token} (run : Run source first last (tokens ++ [token])) :
    Run source first token.stop (tokens ++ [token]) := by
  obtain ⟨middle, front, back⟩ := run.split
  obtain ⟨stands, after, -⟩ := back.stands token List.mem_cons_self
  exact front.append (Run.single stands after)

/-! ### Where declarations stand -/

/-- A declaration, the place of its first byte, and the place behind its last one. -/
structure Located where
  capture : Capture
  first : Nat
  last : Nat

def locate? (source : Bytes) (parts : List Node) : Option Located := do
  let creation ← Creation.ofParts? parts
  let capture ← declaration? source parts
  some ⟨capture, creation.keyword.start, creation.closing.stop⟩

theorem map_locate? (source : Bytes) (parts : List Node) :
    (locate? source parts).map (·.capture) = declaration? source parts := by
  unfold locate?
  cases whole : Creation.ofParts? parts with
  | none => simp [declaration?, whole]
  | some creation => cases declaration? source parts <;> rfl

namespace Located

/-- One declaration comes before another: it begins first, and the other one lies inside it or behind
it. -/
def Precedes (one other : Located) : Prop :=
  one.first < other.first ∧ (other.last ≤ one.last ∨ one.last ≤ other.first)

/-- A declaration has the bytes between its ends for its text, and tells where both ends are. -/
structure Stands (source : Bytes) (one : Located) : Prop where
  forward : one.first < one.last
  within : one.last ≤ source.length
  text : one.capture.text = textOf source one.first one.last
  start : one.capture.start = pointAt source one.first
  stop : one.capture.stop = pointAt source one.last

end Located

theorem locate?_eq_some {one : Located} (made : locate? source parts = some one) :
    ∃ creation, Creation.ofParts? parts = some creation ∧ declaration? source parts = some one.capture ∧
      one.first = creation.keyword.start ∧ one.last = creation.closing.stop := by
  simp only [locate?, Option.bind_eq_bind, Option.bind_eq_some_iff] at made
  obtain ⟨creation, whole, capture, declared, same⟩ := made
  cases same
  exact ⟨creation, whole, declared, rfl, rfl⟩

theorem locate?_stands {one : Located} {first last : Nat} (made : locate? source parts = some one)
    (run : Run source first last (leavesOf parts)) :
    one.Stands source ∧ first ≤ one.first ∧ one.last ≤ last ∧ ∃ keyword rest, parts = .leaf keyword :: rest ∧
      one.first < keyword.stop ∧ Run source keyword.stop one.last (leavesOf rest) := by
  obtain ⟨creation, whole, declared, begins, ends⟩ := locate?_eq_some made
  obtain ⟨creation', whole', text, start, stop⟩ := declaration?_creation declared
  obtain rfl : creation = creation' := Option.some.inj (whole.symm.trans whole')
  obtain ⟨opens, closes, -⟩ := Creation.ofParts?_eq_some_iff.mp whole
  obtain ⟨rest, inner, rfl, tokens⟩ := Creation.ofParts?_leaves whole
  rw [leavesOf, tokens, Node.leaves, List.singleton_append] at run
  obtain ⟨keyword, after, -⟩ := run.stands creation.keyword List.mem_cons_self
  have behind := run.tail
  have closing := behind.stands creation.closing (by simp)
  -- The keyword has three bytes, and the bracket is one byte of the source.
  have three : creation.keyword.stop - creation.keyword.start = 3 := by
    have fits := keyword.2
    rw [opens] at fits
    exact fits.2
  obtain ⟨single, inside⟩ : creation.closing.stop = creation.closing.start + 1 ∧
      creation.closing.start < source.length := by
    have fits := closing.1.2
    rw [closes] at fits
    have one : (Bytes.ofText ")").length = 1 := by decide
    have width : creation.closing.stop - creation.closing.start = (Bytes.ofText ")").length := fits.2
    have room := fits.1.length_le
    rw [List.length_drop] at room
    omega
  refine ⟨⟨?_, ?_, ?_, ?_, ?_⟩, begins ▸ after, ends ▸ closing.2.2, creation.keyword, rest, rfl, ?_, ?_⟩
  · omega
  · omega
  · rw [begins, ends]
    exact text
  · rw [begins]
    exact start
  · rw [ends]
    exact stop
  · omega
  · rw [ends, tokens]
    exact behind.upto

/-- Declarations that stand between two places of a source, each before those that follow it. -/
structure Spread (source : Bytes) (first last : Nat) (located : List Located) : Prop where
  stands : ∀ one ∈ located, one.Stands source ∧ first ≤ one.first ∧ one.last ≤ last
  ordered : located.Pairwise Located.Precedes

namespace Spread

variable {located later : List Located}

theorem nil : Spread source first last [] := ⟨by simp, .nil⟩

theorem append (front : Spread source first middle located) (back : Spread source middle last later)
    (forward : first ≤ middle) (onward : middle ≤ last) : Spread source first last (located ++ later) := by
  refine ⟨fun one member => ?_, List.pairwise_append.mpr ⟨front.ordered, back.ordered, ?_⟩⟩
  · rcases List.mem_append.mp member with early | late
    · obtain ⟨stands, after, before⟩ := front.stands one early
      exact ⟨stands, after, Nat.le_trans before onward⟩
    · obtain ⟨stands, after, before⟩ := back.stands one late
      exact ⟨stands, Nat.le_trans forward after, before⟩
  · -- All that stands before the middle ends before what stands behind it begins.
    intro one early other late
    obtain ⟨stands, -, before⟩ := front.stands one early
    obtain ⟨-, after, -⟩ := back.stands other late
    have order := stands.forward
    exact ⟨by omega, .inr (by omega)⟩

theorem cons {one : Located} {next : Nat} (stands : one.Stands source) (after : first ≤ one.first)
    (before : one.last ≤ last) (behind : one.first < next) (inner : Spread source next one.last located) :
    Spread source first last (one :: located) := by
  refine ⟨List.forall_mem_cons.mpr ⟨⟨stands, after, before⟩, fun other member => ?_⟩,
    List.pairwise_cons.mpr ⟨fun other member => ?_, inner.ordered⟩⟩
  · obtain ⟨stands', after', before'⟩ := inner.stands other member
    exact ⟨stands', by omega, by omega⟩
  · obtain ⟨-, after', before'⟩ := inner.stands other member
    exact ⟨by omega, .inl before'⟩

end Spread

mutual

theorem spread_gatherIn (node : Node) (first last : Nat) (run : Run source first last node.leaves) :
    Spread source first last (gatherIn (locate? source) node) := by
  cases node with
  | leaf token => exact .nil
  | branch shape parts =>
    rw [gatherIn]
    cases own : (if shape = .creation then (locate? source parts).toList else []) with
    | nil => exact spread_gatherOf parts first last run
    | cons one others =>
      -- The call's own declaration begins with its keyword, and all others in it lie behind that.
      have made : locate? source parts = some one ∧ others = [] := by
        split at own
        · cases found : locate? source parts <;> simp_all
        · cases own
      obtain ⟨made, rfl⟩ := made
      obtain ⟨stands, after, before, keyword, rest, rfl, behind, run⟩ := locate?_stands made run
      exact .cons stands after before behind (spread_gatherOf rest keyword.stop one.last run)

theorem spread_gatherOf (nodes : List Node) (first last : Nat) (run : Run source first last (leavesOf nodes)) :
    Spread source first last (gatherOf (locate? source) nodes) := by
  cases nodes with
  | nil => exact .nil
  | cons node rest =>
    obtain ⟨middle, front, back⟩ := Run.split run
    exact (spread_gatherIn node first middle front).append (spread_gatherOf rest middle last back)
      front.forward back.forward

end

/-! ### Points -/

/-- One point comes before another: in an earlier row, or farther left in the same one. -/
def Earlier (one other : Point) : Prop :=
  one.row < other.row ∨ one.row = other.row ∧ one.column < other.column

def pointBehind (front : Bytes) : Point :=
  ⟨capped (front.count 0x0A), capped (front.reverse.takeWhile (· ≠ 0x0A)).length⟩

theorem pointAt_eq (source : Bytes) (offset : Nat) :
    pointAt source offset = pointBehind (source.take offset) := rfl

theorem earlier_pointBehind {front middle : Bytes} (more : middle ≠ [])
    (small : (front ++ middle).length < 0x100000000) :
    Earlier (pointBehind front) (pointBehind (front ++ middle)) := by
  unfold Earlier pointBehind
  rw [List.length_append] at small
  have rows := List.count_le_length (a := (0x0A : UInt8)) (l := front)
  have others := List.count_le_length (a := (0x0A : UInt8)) (l := middle)
  have column := (List.takeWhile_sublist (l := front.reverse) (· ≠ (0x0A : UInt8))).length_le
  rw [List.length_reverse] at column
  have width := List.length_pos_iff.mpr more
  by_cases ended : 0x0A ∈ middle
  · -- A row ends in between.
    have ends := List.count_pos_iff.mpr ended
    refine .inl ?_
    rw [List.count_append, UInt32.lt_iff_toNat_lt, toNat_capped (by omega), toNat_capped (by omega)]
    omega
  · -- All bytes in between are of the same row.
    have plain : ∀ b ∈ middle.reverse, decide (b ≠ 0x0A) = true := by
      intro b member
      refine decide_eq_true fun same => ended ?_
      exact same ▸ List.mem_reverse.mp member
    refine .inr ⟨?_, ?_⟩
    · rw [List.count_append, List.count_eq_zero.mpr ended, Nat.add_zero]
    · rw [List.reverse_append, List.takeWhile_append_of_pos plain, List.length_append,
        List.length_reverse, UInt32.lt_iff_toNat_lt, toNat_capped (by omega), toNat_capped (by omega)]
      omega

theorem take_append_between (source : Bytes) (forward : first ≤ last) :
    source.take first ++ (source.drop first).take (last - first) = source.take last := by
  rw [← List.take_add, Nat.add_sub_cancel' forward]

theorem earlier_pointAt (forward : first < last) (within : last ≤ source.length)
    (small : last < 0x100000000) : Earlier (pointAt source first) (pointAt source last) := by
  have split := take_append_between source (Nat.le_of_lt forward)
  rw [pointAt_eq, pointAt_eq, ← split]
  refine earlier_pointBehind (List.ne_nil_of_length_pos ?_) ?_
  · rw [List.length_take, List.length_drop]
    omega
  · rw [split, List.length_take]
    omega

/-- A point is the place behind some bytes: whole rows, each with its line feed, and the bytes of the row
that is not over. -/
def Behind (front : Bytes) (point : Point) : Prop :=
  ∃ rows row, front = rows ++ row ∧ (rows = [] ∨ rows.getLast? = some 0x0A) ∧ 0x0A ∉ row ∧
    point = ⟨capped (rows.count 0x0A), capped row.length⟩

theorem behind_pointBehind (front : Bytes) : Behind front (pointBehind front) := by
  unfold pointBehind
  -- Read backwards, the last row comes before the line feed that ends the rows before it.
  have divided := List.takeWhile_append_dropWhile (p := (· ≠ (0x0A : UInt8))) (l := front.reverse)
  have stopped := List.head?_dropWhile_not (· ≠ (0x0A : UInt8)) front.reverse
  have plain := List.all_takeWhile (p := (· ≠ (0x0A : UInt8))) (l := front.reverse)
  generalize front.reverse.takeWhile (· ≠ (0x0A : UInt8)) = row at divided plain
  generalize front.reverse.dropWhile (· ≠ (0x0A : UInt8)) = rows at divided stopped
  obtain rfl : rows.reverse ++ row.reverse = front := by
    rw [← List.reverse_append, divided, List.reverse_reverse]
  have free : 0x0A ∉ row.reverse := by
    intro member
    have plain := List.all_eq_true.mp plain _ (List.mem_reverse.mp member)
    exact of_decide_eq_true plain rfl
  refine ⟨rows.reverse, row.reverse, rfl, ?_, free, ?_⟩
  · cases rows with
    | nil => exact .inl rfl
    | cons b rest =>
      refine .inr ?_
      simpa using stopped
  · rw [List.count_append, List.count_eq_zero.mpr free, Nat.add_zero, List.length_reverse]

/-- A declaration covers the bytes between its ends: they are its text, and its points are the places
before and behind them. -/
def Located.Covers (source : Bytes) (one : Located) : Prop :=
  ∃ front middle back, source = front ++ middle ++ back ∧ middle ≠ [] ∧
    front.length = one.first ∧ (front ++ middle).length = one.last ∧
    one.capture.text = Utf8.decodeLossy middle ∧
    Behind front one.capture.start ∧ Behind (front ++ middle) one.capture.stop

theorem Located.Stands.covers {one : Located} (stands : one.Stands source) : one.Covers source := by
  obtain ⟨forward, within, text, start, stop⟩ := stands
  have front : (source.take one.first).length = one.first := by
    rw [List.length_take]
    omega
  have middle : ((source.drop one.first).take (one.last - one.first)).length = one.last - one.first := by
    rw [List.length_take, List.length_drop]
    omega
  have both := take_append_between source (Nat.le_of_lt forward)
  refine ⟨source.take one.first, (source.drop one.first).take (one.last - one.first),
    source.drop one.last, ?_, ?_, front, ?_, text, ?_, ?_⟩
  · rw [both, List.take_append_drop]
  · refine List.ne_nil_of_length_pos ?_
    omega
  · rw [List.length_append]
    omega
  · rw [start]
    exact behind_pointBehind _
  · rw [stop, both]
    exact behind_pointBehind _

end PolicyServer.Source
