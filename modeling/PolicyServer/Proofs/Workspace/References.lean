import Mathlib.Data.List.Count
import PolicyServer.Proofs.Workspace.Course

/-! Who refers to which snapshot: a snapshot counts as many references as it has holders. -/

namespace PolicyServer

/-- The snapshots that a task holds. A change that waits holds none of its own: the snapshot that it is
made to stays the current one. -/
def Task.holds : Task → List Nat
  | .load preparation | .observe preparation => [preparation.snapshot]
  | .pass job => [job.snapshot]
  | .documents (.reading _ seq _ _) => [seq]
  | .finished (.snapshot seq) => [seq]
  | _ => []

/-- What a change waits for, once it has its turn at the current snapshot. -/
def Task.waits? : Task → Option Preparation
  | .change _ _ (.waiting preparation) => some preparation
  | .documents (.changing _ (.waiting preparation)) => some preparation
  | _ => none

namespace Workspace

variable {c : Collaborators} {eager : Bool} {w w' : Workspace} {who : List Nat} {seq : Nat}
  {task : Task}

/-- All holders of snapshots: the view, whoever holds one by name, and tasks. -/
def holders (w : Workspace) : List Nat :=
  w.current.toList ++ w.held.map (·.2) ++ w.tasks.flatMap Task.holds

def refCounts (w : Workspace) : List Nat := w.snapshots.map (·.refs)

/-- The number of references to a snapshot; one that does not exist has none. -/
def refsOf (w : Workspace) (seq : Nat) : Nat := (w.refCounts[seq]?).getD 0

/-- Each snapshot counts its holders, and the live ones are those that have any. -/
structure Balanced (w : Workspace) (who : List Nat) : Prop where
  refs : ∀ seq, w.refsOf seq = who.count seq
  live : w.live = w.refCounts.countP (0 < ·)

/-! ### Counting -/

theorem getD_modify (counts : List Nat) (seq other : Nat) (change : Nat → Nat)
    (within : seq < counts.length) :
    ((counts.modify seq change)[other]?).getD 0 =
      if seq = other then change ((counts[seq]?).getD 0) else (counts[other]?).getD 0 := by
  by_cases same : seq = other
  · subst same
    simp [List.getElem?_eq_getElem within]
  · simp [same]

theorem countP_modify (counts : List Nat) (seq : Nat) (change : Nat → Nat)
    (within : seq < counts.length) :
    (counts.modify seq change).countP (0 < ·) + (if 0 < (counts[seq]?).getD 0 then 1 else 0) =
      counts.countP (0 < ·) + if 0 < change ((counts[seq]?).getD 0) then 1 else 0 := by
  have found := List.getElem?_eq_getElem within
  have count := countP_set (0 < ·) found (change counts[seq])
  have one (count : Nat) : (decide (0 < count)).toNat = if 0 < count then 1 else 0 :=
    Bool.cond_decide _ 1 0
  rw [one, one] at count
  rwa [List.modify_eq_set, found]

theorem within_of_refsOf (referred : 0 < w.refsOf seq) : seq < w.refCounts.length := by
  by_contra outside
  rw [refsOf, List.getElem?_eq_none (Nat.le_of_not_lt outside)] at referred
  simp at referred

theorem isReferred_iff : w.isReferred seq = true ↔ 0 < w.refsOf seq := by
  simp only [isReferred, refsOf, refCounts, List.getElem?_map]
  cases w.snapshots[seq]? <;> simp

theorem Balanced.referred (balanced : Balanced w who) (held : seq ∈ who) :
    0 < w.refsOf seq := by
  rw [balanced.refs]
  exact List.count_pos_iff.mpr held

/-- Where there are no snapshots none is live. -/
theorem Balanced.idle_of_empty (balanced : Balanced w who) (empty : w.snapshots = []) : w.live = 0 := by
  rw [balanced.live, refCounts, empty]
  rfl

theorem Balanced.congr (balanced : Balanced w who) (counts : w'.refCounts = w.refCounts)
    (live : w'.live = w.live) : Balanced w' who where
  refs seq := by
    rw [refsOf, counts]
    exact balanced.refs seq
  live := by
    rw [live, counts]
    exact balanced.live

theorem Balanced.count_congr (balanced : Balanced w who) {who' : List Nat}
    (same : ∀ seq, who.count seq = who'.count seq) : Balanced w who' where
  refs seq := (balanced.refs seq).trans (same seq)
  live := balanced.live

theorem refCounts_of_bare (same : w'.bare = w.bare) : w'.refCounts = w.refCounts := by
  refine eq_of_bare same refCounts fun w => ?_
  simp only [refCounts, bare, List.map_map]
  rfl

theorem refCounts_modifySnapshot (w : Workspace) (seq : Nat) {change : Snapshot → Snapshot}
    {refs : Nat → Nat} (counted : ∀ snapshot, (change snapshot).refs = refs snapshot.refs) :
    (w.modifySnapshot seq change).refCounts = w.refCounts.modify seq refs :=
  map_modify w.snapshots seq counted

theorem refCounts_release (w : Workspace) (seq : Nat) :
    (w.release seq).refCounts = w.refCounts.modify seq (· - 1) := by
  have fewer : (w.modifySnapshot seq fun snapshot =>
      { snapshot with refs := snapshot.refs - 1 }).refCounts = w.refCounts.modify seq (· - 1) :=
    refCounts_modifySnapshot w seq fun _ => rfl
  rw [← fewer]
  unfold release
  dsimp only
  split <;> rfl

theorem Balanced.acquire (balanced : Balanced w who) (held : seq ∈ who) :
    Balanced (w.acquire seq) (seq :: who) := by
  have referred := balanced.referred held
  have within := within_of_refsOf referred
  have counts : (w.acquire seq).refCounts = w.refCounts.modify seq (· + 1) :=
    refCounts_modifySnapshot w seq fun _ => rfl
  refine ⟨fun other => ?_, ?_⟩
  · rw [refsOf, counts, getD_modify _ _ _ _ within, List.count_cons]
    have before := balanced.refs other
    have here := balanced.refs seq
    simp only [refsOf] at before here
    by_cases same : seq = other
    · subst same
      simp only [if_true, beq_self_eq_true]
      omega
    · simp only [same, if_false, beq_iff_eq]
      omega
  · -- The snapshot was live before, so no more are live now.
    have changed := countP_modify w.refCounts seq (· + 1) within
    have positive : 0 < (w.refCounts[seq]?).getD 0 := referred
    simp only [positive, if_true, Nat.zero_lt_succ] at changed
    rw [counts]
    show w.live = _
    rw [balanced.live]
    omega

theorem Balanced.release (balanced : Balanced w who) (held : seq ∈ who) :
    Balanced (w.release seq) (who.erase seq) := by
  have referred := balanced.referred held
  have within := within_of_refsOf referred
  have counts := refCounts_release w seq
  refine ⟨fun other => ?_, ?_⟩
  · rw [refsOf, counts, getD_modify _ _ _ _ within, List.count_erase]
    have before := balanced.refs other
    have here := balanced.refs seq
    simp only [refsOf] at before here
    by_cases same : seq = other
    · subst same
      simp only [if_true, beq_self_eq_true]
      omega
    · simp only [same, if_false, beq_iff_eq]
      omega
  · -- The count of live snapshots goes down with the last reference.
    have changed := countP_modify w.refCounts seq (· - 1) within
    have positive : 0 < (w.refCounts[seq]?).getD 0 := referred
    simp only [positive, if_true] at changed
    have entry : (w.refCounts[seq]?).getD 0 = ((w.snapshots[seq]?).map (·.refs)).getD 0 := by
      simp [refCounts]
    have before := balanced.live
    rw [counts]
    unfold Workspace.release
    cases found : w.snapshots[seq]? with
    | none => simp [entry, found] at positive
    | some snapshot =>
      simp only [entry, found, Option.map_some, Option.getD_some] at changed positive
      by_cases last : snapshot.refs = 1
      · simp only [last, Option.any_some, decide_true, if_true]
        simp only [last] at changed
        show w.live - 1 = _
        simp at changed
        omega
      · have more : 0 < snapshot.refs - 1 := by omega
        simp only [more, if_true] at changed
        simp only [Option.any_some, last, decide_false]
        show w.live = _
        omega

/-! ### Holders that come and go -/

theorem holders_congr (current : w'.current = w.current) (held : w'.held = w.held)
    (tasks : w'.tasks = w.tasks) : w'.holders = w.holders := by
  rw [holders, holders, current, held, tasks]

theorem holders_release (w : Workspace) (seq : Nat) : (w.release seq).holders = w.holders := by
  obtain ⟨current, held, tasks, -⟩ := release_frame w seq
  exact holders_congr current held tasks

theorem count_holders (w : Workspace) (seq : Nat) :
    w.holders.count seq = w.current.toList.count seq + (w.held.map (·.2)).count seq +
      (w.tasks.flatMap Task.holds).count seq := by
  simp only [holders, List.count_append]

theorem count_flatMap_set {tasks : List Task} {number : Nat} (found : tasks[number]? = some task)
    (task' : Task) (seq : Nat) :
    ((tasks.set number task').flatMap Task.holds).count seq + task.holds.count seq =
      (tasks.flatMap Task.holds).count seq + task'.holds.count seq := by
  obtain ⟨before, after, rfl, set⟩ := split_set found
  simp only [set, List.flatMap_append, List.flatMap_cons, List.count_append]
  omega

theorem Balanced.setTask (balanced : Balanced w who) {number : Nat} {task' : Task}
    (found : w.tasks[number]? = some task) (same : ∀ seq, who.count seq + task.holds.count seq =
      w.holders.count seq + task'.holds.count seq) :
    Balanced { w with tasks := w.tasks.set number task' }
      ({ w with tasks := w.tasks.set number task' } : Workspace).holders := by
  -- What the former task held is taken off, what the new one holds is put on.
  have here : Balanced { w with tasks := w.tasks.set number task' } who := balanced.congr rfl rfl
  refine here.count_congr fun seq => ?_
  have total := same seq
  have changed := count_flatMap_set found task' seq
  rw [count_holders] at total ⊢
  dsimp only
  omega

theorem Balanced.spawn (balanced : Balanced w (task.holds ++ w.holders)) :
    Balanced (w.spawn task) (w.spawn task).holders := by
  have here : Balanced (w.spawn task) (task.holds ++ w.holders) := balanced.congr rfl rfl
  refine here.count_congr fun seq => ?_
  rw [List.count_append, count_holders, count_holders]
  simp only [Workspace.spawn, List.flatMap_append, List.flatMap_singleton, List.count_append]
  omega

theorem Balanced.spawnFree (balanced : Balanced w w.holders) (free : task.holds = []) :
    Balanced (w.spawn task) (w.spawn task).holders := by
  refine Balanced.spawn ?_
  rw [free]
  exact balanced

theorem Balanced.install (balanced : Balanced w w.holders) {previous : Nat}
    (here : w.current = some previous) (change : StateChange) :
    Balanced (w.install previous change)
      (w.snapshots.length :: (w.install previous change).holders) := by
  have held : previous ∈ w.holders := by simp [holders, here]
  have within : previous < w.snapshots.length := by
    have inside := within_of_refsOf (balanced.referred held)
    simpa [refCounts] using inside
  unfold Workspace.install
  rw [List.getElem?_eq_getElem within]
  rw [holders_release]
  -- Before the former snapshot is released, the new one has its two references.
  have added : ∀ next : Snapshot, next.refs = 2 → Balanced
      { w with
        changing := false
        snapshots := w.snapshots ++ [next]
        current := some w.snapshots.length
        live := w.live + 1 }
      (w.snapshots.length :: w.snapshots.length :: w.holders) := by
    intro next two
    have counts : w.snapshots.length = w.refCounts.length := by simp [refCounts]
    have new : w.refsOf w.snapshots.length = 0 := by
      rw [refsOf, counts, List.getElem?_eq_none (Nat.le_refl _)]
      rfl
    refine ⟨fun seq => ?_, ?_⟩
    · have before := balanced.refs seq
      have none := balanced.refs w.snapshots.length
      rw [new] at none
      simp only [refsOf, refCounts, List.map_append, List.map_cons, List.map_nil, two,
        List.count_cons] at before ⊢
      rcases Nat.lt_trichotomy seq w.snapshots.length with less | same | more
      · rw [List.getElem?_append_left (by simpa using less)]
        have apart : (w.snapshots.length == seq) = false := by simp; omega
        simp only [apart]
        exact before
      · subst same
        simp [← none]
      · rw [List.getElem?_eq_none (by simp; omega)] at before ⊢
        have apart : (w.snapshots.length == seq) = false := by simp; omega
        simp only [apart]
        exact before
    · show w.live + 1 = _
      rw [balanced.live]
      simp [refCounts, two]
  refine Balanced.count_congr (Balanced.release (added _ rfl) (by simp [held])) fun seq => ?_
  have total := count_holders w seq
  rw [here] at total
  rw [List.count_erase]
  simp only [List.count_cons, count_holders, Option.toList_some, List.count_nil] at total ⊢
  omega

theorem Balanced.releaseCurrent (balanced : Balanced w w.holders)
    (released : w.releaseCurrent = some w') : Balanced w' w'.holders := by
  obtain ⟨-, ⟨-, rfl⟩ | ⟨seq, here, rfl⟩⟩ := releaseCurrent_cases released
  · exact balanced
  · have held : seq ∈ w.holders := by simp [holders, here]
    have fewer : Balanced { w.release seq with current := none } (w.holders.erase seq) :=
      (balanced.release held).congr rfl rfl
    -- The reference given back is the one that the view had.
    refine fewer.count_congr fun other => ?_
    obtain ⟨-, names, tasks, -⟩ := release_frame w seq
    rw [List.count_erase, count_holders, count_holders, here]
    simp only [names, tasks, Option.toList_some, Option.toList_none, List.count_cons,
      List.count_nil]
    omega

theorem count_filter_name {held : List (String × Nat)} {name : String}
    (names : (held.map (·.1)).Nodup) (found : held.lookup name = some seq) (other : Nat) :
    ((held.filter (·.1 ≠ name)).map (·.2)).count other + (if seq = other then 1 else 0) =
      (held.map (·.2)).count other := by
  induction held with
  | nil => cases found
  | cons entry rest ih =>
    obtain ⟨first, number⟩ := entry
    rw [List.map_cons, List.nodup_cons] at names
    by_cases here : name = first
    · -- No later entry has the name, so that all of them stay.
      subst here
      have same : number = seq := by simpa using found
      subst same
      have others : rest.filter (·.1 ≠ name) = rest := by
        refine List.filter_eq_self.mpr fun entry member => ?_
        have apart : entry.1 ≠ name := fun same =>
          names.1 (List.mem_map.mpr ⟨entry, member, same⟩)
        simpa using apart
      simp only [ne_eq, not_true, decide_false, Bool.false_eq_true, not_false_eq_true,
        List.filter_cons_of_neg, List.map_cons, List.count_cons, beq_iff_eq]
      rw [others]
    · have tail : rest.lookup name = some seq := by
        have apart : (name == first) = false := by simpa using here
        simpa [List.lookup_cons, apart] using found
      have counted := ih names.2 tail
      have apart : first ≠ name := Ne.symm here
      simp only [ne_eq, apart, not_false_eq_true, decide_true, List.filter_cons_of_pos,
        List.map_cons, List.count_cons] at counted ⊢
      omega

theorem Balanced.letGo {spare : List Nat} (balanced : Balanced w (spare ++ w.holders))
    (names : (w.held.map (·.1)).Nodup) (name : String) :
    Balanced (w.letGo name) (spare ++ (w.letGo name).holders) := by
  unfold Workspace.letGo
  split
  · exact balanced
  · rename_i seq found
    -- A name stands for one reference, which goes with it.
    have listed : seq ∈ w.held.map (·.2) := by
      have counted := count_filter_name names found seq
      simp only [if_true] at counted
      exact List.count_pos_iff.mp (by omega)
    have held : seq ∈ w.holders := by
      exact List.mem_append_left _ (List.mem_append_right _ listed)
    have fewer : Balanced { w.release seq with held := w.held.filter (·.1 ≠ name) }
        ((spare ++ w.holders).erase seq) :=
      (balanced.release (List.mem_append_right _ held)).congr rfl rfl
    refine fewer.count_congr fun other => ?_
    obtain ⟨current, -, tasks, -⟩ := release_frame w seq
    have counted := count_filter_name names found other
    rw [List.count_erase, List.count_append, List.count_append, count_holders, count_holders]
    simp only [current, tasks, beq_iff_eq]
    omega

theorem names_letGo (names : (w.held.map (·.1)).Nodup) (name : String) :
    ((w.letGo name).held.map (·.1)).Nodup ∧ name ∉ (w.letGo name).held.map (·.1) := by
  unfold letGo
  split
  · rename_i absent
    refine ⟨names, fun member => ?_⟩
    obtain ⟨entry, listed, same⟩ := List.mem_map.mp member
    have apart := List.lookup_eq_none_iff.mp absent entry listed
    simp [same] at apart
  · -- Fewer names are still distinct, and the one let go is filtered out.
    refine ⟨names.sublist (List.filter_sublist.map _), fun member => ?_⟩
    obtain ⟨entry, listed, same⟩ := List.mem_map.mp member
    have apart := (List.mem_filter.mp listed).2
    simp [same] at apart

theorem Balanced.hold (balanced : Balanced w (seq :: w.holders))
    (names : (w.held.map (·.1)).Nodup) (name : String) :
    Balanced (w.hold name seq) (w.hold name seq).holders ∧
      ((w.hold name seq).held.map (·.1)).Nodup := by
  -- Whatever the name stood for is let go first, so the name is new.
  have balanced' : Balanced w ([seq] ++ w.holders) := balanced
  have free := balanced'.letGo names name
  obtain ⟨unique, absent⟩ := names_letGo names name
  constructor
  · have kept : Balanced (w.hold name seq) ([seq] ++ (w.letGo name).holders) := free.congr rfl rfl
    refine kept.count_congr fun other => ?_
    rw [List.count_append, count_holders, count_holders]
    simp only [Workspace.hold, List.map_append, List.map_cons, List.map_nil, List.count_append]
    omega
  · simp only [Workspace.hold, List.map_append, List.map_cons, List.map_nil, List.nodup_append]
    refine ⟨unique, by simp, ?_⟩
    rintro other member last only rfl
    exact absent (List.mem_singleton.mp only ▸ member)

theorem refCounts_beginPass (w : Workspace) (seq : Nat) :
    (w.beginPass seq).refCounts = w.refCounts := by
  rw [refCounts, snapshots_beginPass, refCounts]

theorem live_beginPass (w : Workspace) (seq : Nat) : (w.beginPass seq).live = w.live := by
  simp only [beginPass]
  split <;> rfl

theorem Balanced.beginPass (balanced : Balanced w who) (seq : Nat) :
    Balanced (w.beginPass seq) who :=
  balanced.congr (refCounts_beginPass w seq) (live_beginPass w seq)

theorem holders_beginPass (w : Workspace) (seq : Nat) : (w.beginPass seq).holders = w.holders := by
  obtain ⟨current, held, tasks, -⟩ := beginPass_frame w seq
  exact holders_congr current held tasks

theorem Balanced.afterChange (balanced : Balanced w (seq :: w.holders)) (change : StateChange) :
    Balanced (w.afterChange change seq) (w.afterChange change seq).holders := by
  -- The spare reference goes to the new pass, or is given back.
  unfold Workspace.afterChange
  split
  · refine Balanced.spawn ?_
    rw [holders_beginPass]
    exact balanced.beginPass seq
  · rw [holders_release]
    have fewer := balanced.release List.mem_cons_self
    rwa [List.erase_cons_head] at fewer

theorem refCounts_beginChange (w : Workspace) (previous : Nat) (save : Bool) :
    (w.beginChange previous save).refCounts = w.refCounts := by
  unfold beginChange
  split
  · have counts : (modifySnapshot { w with changing := true } previous fun snapshot =>
        { snapshot with superseded := true }).refCounts = w.refCounts.modify previous id :=
      refCounts_modifySnapshot _ previous fun _ => rfl
    rw [counts, List.modify_id]
  · rfl

theorem live_beginChange (w : Workspace) (previous : Nat) (save : Bool) :
    (w.beginChange previous save).live = w.live := by
  unfold beginChange
  split <;> rfl

theorem Balanced.beginChange (balanced : Balanced w who) (previous : Nat) (save : Bool) :
    Balanced (w.beginChange previous save) who :=
  balanced.congr (refCounts_beginChange w previous save) (live_beginChange w previous save)

end Workspace

end PolicyServer
