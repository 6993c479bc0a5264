import PolicyServer.Table

/-! Laws of tables: what is found after an entry is put, and that keys stay in ascending order. -/

namespace PolicyServer.Table

variable {α : Type} {key : String} {table : Table α}

def keys (table : Table α) : List String := table.map (·.1)

/-- Holds for tables whose keys ascend, which no key then does twice. -/
def Ordered (table : Table α) : Prop := table.keys.Pairwise (· < ·)

theorem get?_cons (k : String) (v : α) (rest : Table α) (key : String) :
    get? ((k, v) :: rest) key = if key = k then some v else get? rest key := by
  by_cases same : key = k
  · simp [get?, same]
  · have apart : (key == k) = false := by simpa using same
    simp [get?, List.lookup_cons, apart, same]

theorem get?_put (key other : String) (value : α) (table : Table α) :
    (put key value table).get? other = if other = key then some value else table.get? other := by
  -- The walk passes only entries of other keys before it stops.
  induction table with
  | nil => simp only [put, get?_cons]
  | cons entry rest ih =>
    obtain ⟨k, v⟩ := entry
    simp only [put]
    split
    · simp only [get?_cons]
    · split
      · rename_i here
        subst here
        simp only [get?_cons]
        split <;> rfl
      · rename_i apart
        simp only [get?_cons]
        by_cases atHead : other = k
        · simp [atHead, Ne.symm apart]
        · simp only [atHead, if_false, ih]

theorem mem_keys_put (key other : String) (value : α) (table : Table α) :
    other ∈ (put key value table).keys ↔ other = key ∨ other ∈ table.keys := by
  -- The entry goes in front of the first greater key, or takes the place of its own.
  induction table with
  | nil => simp [put, keys]
  | cons entry rest ih =>
    simp only [put]
    split
    · simp [keys]
    · split
      · rename_i here
        simp [keys, here]
      · simp only [keys, List.map_cons, List.mem_cons] at ih ⊢
        rw [ih]
        exact or_left_comm

theorem mem_of_mem_put {value : α} {entry : String × α} (member : entry ∈ put key value table) :
    entry = (key, value) ∨ entry ∈ table := by
  induction table with
  | nil => exact .inl (List.mem_singleton.mp member)
  | cons head rest ih =>
    simp only [put] at member
    split at member
    · exact List.mem_cons.mp member
    · split at member
      · -- The head is replaced by the new entry.
        rcases List.mem_cons.mp member with same | member
        · exact .inl same
        · exact .inr (List.mem_cons_of_mem _ member)
      · rcases List.mem_cons.mp member with same | member
        · exact .inr (same ▸ List.mem_cons_self)
        · rcases ih member with same | there
          · exact .inl same
          · exact .inr (List.mem_cons_of_mem _ there)

theorem Ordered.put (ordered : table.Ordered) (key : String) (value : α) :
    (Table.put key value table).Ordered := by
  induction table with
  | nil => simp [Table.put, Ordered, keys]
  | cons entry rest ih =>
    obtain ⟨k, v⟩ := entry
    have above : ∀ other ∈ keys rest, k < other := (List.pairwise_cons.mp ordered).1
    have tail : Ordered rest := (List.pairwise_cons.mp ordered).2
    simp only [Table.put]
    split
    · -- The new key is below the head, hence below all that follow it.
      rename_i below
      refine List.pairwise_cons.mpr ⟨?_, ordered⟩
      intro other member
      rcases List.mem_cons.mp member with same | member
      · exact same ▸ below
      · exact String.lt_trans below (above other member)
    · split
      · rename_i here
        subst here
        exact List.pairwise_cons.mpr ⟨above, tail⟩
      · rename_i notBelow apart
        refine List.pairwise_cons.mpr ⟨?_, ih tail⟩
        intro other member
        rcases (mem_keys_put key other value rest).mp member with same | member
        · subst same
          -- The head is neither above nor equal to the new key.
          rcases String.le_total k other with least | least
          · exact Classical.byContradiction fun notAbove =>
              apart (String.le_antisymm notAbove least)
          · exact absurd (String.le_antisymm least notBelow) apart
        · exact above other member

theorem put_last (above : ∀ other ∈ table.keys, other < key) (value : α) :
    put key value table = table ++ [(key, value)] := by
  induction table with
  | nil => rfl
  | cons entry rest ih =>
    obtain ⟨k, v⟩ := entry
    have least : k < key := above k List.mem_cons_self
    have notBelow : ¬ key < k := fun below => String.lt_irrefl k (String.lt_trans least below)
    have apart : key ≠ k := fun same => String.lt_irrefl k (same ▸ least)
    simp only [put, notBelow, apart, if_false, List.cons_append]
    rw [ih fun other member => above other (List.mem_cons_of_mem _ member)]

theorem Ordered.get?_of_mem (ordered : table.Ordered) {value : α} (member : (key, value) ∈ table) :
    table.get? key = some value := by
  -- A key occurs once in an ordered table, so the first entry under it is the only one.
  induction table with
  | nil => simp at member
  | cons entry rest ih =>
    obtain ⟨k, v⟩ := entry
    have above : ∀ other ∈ keys rest, k < other := (List.pairwise_cons.mp ordered).1
    rcases List.mem_cons.mp member with same | member
    · cases same
      simp [get?_cons]
    · have later : k < key := above key (List.mem_map.mpr ⟨_, member, rfl⟩)
      have apart : key ≠ k := fun same => String.lt_irrefl k (same ▸ later)
      rw [get?_cons, if_neg apart]
      exact ih (List.pairwise_cons.mp ordered).2 member

theorem mem_keys_iff (table : Table α) (key : String) :
    key ∈ table.keys ↔ (table.get? key).isSome = true := by
  induction table with
  | nil => simp [keys, get?]
  | cons entry rest ih =>
    obtain ⟨k, v⟩ := entry
    rw [get?_cons]
    by_cases same : key = k
    · simp [keys, same]
    · simpa [keys, same] using ih

theorem get?_update (table : Table α) (key other : String) (absent : α) (change : α → α) :
    (table.update key absent change).get? other =
      if other = key then some (change ((table.get? key).getD absent)) else table.get? other :=
  get?_put key other _ table

theorem mem_keys_update (table : Table α) (key other : String) (absent : α) (change : α → α) :
    other ∈ (table.update key absent change).keys ↔ other = key ∨ other ∈ table.keys :=
  mem_keys_put key other _ table

theorem Ordered.update (ordered : table.Ordered) (key : String) (absent : α) (change : α → α) :
    (table.update key absent change).Ordered:=
  ordered.put key _

theorem erase_of_above (above : ∀ other ∈ table.keys, key < other) :
    table.erase key = table := by
  refine List.filter_eq_self.mpr fun entry member => ?_
  have later := above entry.1 (List.mem_map_of_mem member)
  have apart : entry.1 ≠ key := fun same => String.lt_irrefl key (same ▸ later)
  simpa using apart

theorem Ordered.erase (ordered : table.Ordered) (key : String) :
    (table.erase key).Ordered :=
  List.Pairwise.sublist (List.filter_sublist.map _) ordered

theorem perm_of_get? (ordered : table.Ordered) {value : α} (found : table.get? key = some value) :
    table.Perm ((key, value) :: table.erase key) := by
  induction table with
  | nil => cases found
  | cons entry rest ih =>
    obtain ⟨k, v⟩ := entry
    have above : ∀ other ∈ keys rest, k < other := (List.pairwise_cons.mp ordered).1
    rw [get?_cons] at found
    split at found
    · rename_i here
      subst here
      obtain rfl := Option.some.inj found
      simp only [erase, ne_eq, not_true_eq_false, decide_false, Bool.false_eq_true,
        not_false_eq_true, List.filter_cons_of_neg]
      exact .cons _ (.of_eq (erase_of_above above).symm)
    · rename_i apart
      have kept : erase ((k, v) :: rest) key = (k, v) :: erase rest key := by
        simp [erase, Ne.symm apart]
      rw [kept]
      exact ((ih (List.pairwise_cons.mp ordered).2 found).cons _).trans (.swap _ _ _)

theorem erase_put (key : String) (value : α) (table : Table α) :
    (put key value table).erase key = table.erase key := by
  induction table with
  | nil => simp [put, erase]
  | cons entry rest ih =>
    simp only [put]
    split
    · simp [erase]
    · split
      · rename_i here
        simp [erase, here]
      · rename_i apart
        simpa [erase, Ne.symm apart] using ih

theorem perm_put (ordered : table.Ordered) (key : String) (value : α) :
    (put key value table).Perm ((key, value) :: table.erase key) := by
  rw [← erase_put key value table]
  exact perm_of_get? (ordered.put key value) (by simp [get?_put])

theorem erase_of_get?_none (absent : table.get? key = none) :
    table.erase key = table := by
  refine List.filter_eq_self.mpr fun entry member => ?_
  have apart : key ≠ entry.1 := by
    rintro rfl
    have none := List.lookup_eq_none_iff.mp absent entry member
    simp at none
  simpa using Ne.symm apart

end PolicyServer.Table
