import Mathlib.Data.List.Basic

/-! Lists in which one place changes: what is seen and counted in them before and after. -/

namespace PolicyServer

variable {list : List α} {place : Nat} {item : α}

/-- The place that is set divides the list, and both parts stay as they are. -/
theorem split_set (found : list[place]? = some item) : ∃ before after,
    list = before ++ item :: after ∧ ∀ item', list.set place item' = before ++ item' :: after := by
  obtain ⟨within, rfl⟩ := List.getElem?_eq_some_iff.mp found
  refine ⟨list.take place, list.drop (place + 1), ?_, fun item' => ?_⟩
  · rw [← List.drop_eq_getElem_cons within, List.take_append_drop]
  · rw [List.set_eq_take_append_cons_drop, if_pos within]

/-- What is found after a place is set is what was put there, or was found before. -/
theorem of_getElem?_set {other : Nat} {item' later : α}
    (found : (list.set place item')[other]? = some later) :
    (other = place ∧ later = item') ∨ (other ≠ place ∧ list[other]? = some later) := by
  rw [List.getElem?_set] at found
  by_cases same : place = other
  · subst same
    simp only [if_true] at found
    -- A place beyond the list holds nothing, also after it is set.
    split at found
    · exact .inl ⟨rfl, (Option.some.inj found).symm⟩
    · cases found
  · exact .inr ⟨Ne.symm same, by simpa [same] using found⟩

theorem filterMap_set_of_eq {view : α → Option β} {item' : α} (found : list[place]? = some item)
    (same : view item' = view item) :
    (list.set place item').filterMap view = list.filterMap view := by
  obtain ⟨before, after, rfl, set⟩ := split_set found
  simp only [set, List.filterMap_append, List.filterMap_cons, same]

/-- Where only the changed place is seen, the view is afterwards of what was put there. -/
theorem filterMap_set_of_only {view : α → Option β} {sight : β} (found : list[place]? = some item)
    (mine : view item = some sight) (only : list.filterMap view = [sight]) (item' : α) :
    (list.set place item').filterMap view = (view item').toList := by
  obtain ⟨before, after, rfl, set⟩ := split_set found
  -- Nothing is seen before the place or after it.
  have none : before.filterMap view = [] ∧ after.filterMap view = [] := by
    rw [List.filterMap_append, List.filterMap_cons_some mine] at only
    have length := congrArg List.length only
    simp only [List.length_append, List.length_cons, List.length_nil] at length
    exact ⟨List.eq_nil_of_length_eq_zero (by omega), List.eq_nil_of_length_eq_zero (by omega)⟩
  cases seen : view item' <;> simp [set, none, seen]

/-- A count changes only by what is counted at the place itself. -/
theorem countP_set (kind : α → Bool) (found : list[place]? = some item) (item' : α) :
    (list.set place item').countP kind + (kind item).toNat =
      list.countP kind + (kind item').toNat := by
  obtain ⟨before, after, rfl, set⟩ := split_set found
  simp only [set, List.countP_append, List.countP_cons]
  cases kind item <;> cases kind item' <;> simp <;> omega

/-- A view that follows the change of an item follows it in the list. -/
theorem map_modify {view : α → β} {change : α → α} {shown : β → β} (list : List α) (place : Nat)
    (follows : ∀ item, view (change item) = shown (view item)) :
    (list.modify place change).map view = (list.map view).modify place shown := by
  apply List.ext_getElem?
  intro other
  simp only [List.getElem?_map, List.getElem?_modify]
  cases list[other]? with
  | none => rfl
  | some item => by_cases here : place = other <;> simp [here, follows]

/-- A view that does not see the change of an item does not see it in the list. -/
theorem map_modify_of_eq {view : α → β} {change : α → α} (list : List α) (place : Nat)
    (kept : ∀ item, view (change item) = view item) :
    (list.modify place change).map view = list.map view :=
  (map_modify list place kept).trans (List.modify_id place _)

end PolicyServer
