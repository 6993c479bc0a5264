import PolicyServer.Proofs.Workspace.TaskStep

/-! Whatever happens, snapshots keep their files, passes are never forgotten, and nothing that has
ended begins anew. -/

namespace PolicyServer.Workspace

variable {c : Collaborators} {eager : Bool} {w w' w'' : Workspace}

/--
A workspace that goes on from another one.

Snapshots and passes keep their numbers, and neither they nor the view recover once ended.
-/
structure Extends (w w' : Workspace) : Prop where
  stopped : w.stopped = true → w'.stopped = true
  snapshots : ∀ {seq : Nat} {snapshot : Snapshot}, w.snapshots[seq]? = some snapshot →
    ∃ later, w'.snapshots[seq]? = some later ∧ later.files = snapshot.files ∧
      (snapshot.superseded = true → later.superseded = true)
  passes : ∀ {number : Nat} {pass : Pass}, w.passes[number]? = some pass →
    ∃ later, w'.passes[number]? = some later ∧ later.snapshot = pass.snapshot ∧
      (pass.cancelled = true → later.cancelled = true)

theorem Extends.refl (w : Workspace) : Extends w w where
  stopped := id
  snapshots found := ⟨_, found, rfl, id⟩
  passes found := ⟨_, found, rfl, id⟩

theorem Extends.trans (first : Extends w w') (second : Extends w' w'') : Extends w w'' where
  stopped ended := second.stopped (first.stopped ended)
  snapshots found := by
    obtain ⟨mid, found, files, ended⟩ := first.snapshots found
    obtain ⟨later, found, files', ended'⟩ := second.snapshots found
    exact ⟨later, found, files'.trans files, fun before => ended' (ended before)⟩
  passes found := by
    obtain ⟨mid, found, same, ended⟩ := first.passes found
    obtain ⟨later, found, same', ended'⟩ := second.passes found
    exact ⟨later, found, same'.trans same, fun before => ended' (ended before)⟩

theorem Extends.of_eq (stopped : w'.stopped = w.stopped) (snapshots : w'.snapshots = w.snapshots)
    (passes : w'.passes = w.passes) : Extends w w' where
  stopped ended := stopped.trans ended
  snapshots found := ⟨_, by rw [snapshots]; exact found, rfl, id⟩
  passes found := ⟨_, by rw [passes]; exact found, rfl, id⟩

theorem snapshot_of_bare (same : w'.bare = w.bare) {seq : Nat} {snapshot : Snapshot}
    (found : w.snapshots[seq]? = some snapshot) :
    ∃ later, w'.snapshots[seq]? = some later ∧ later.bare = snapshot.bare := by
  -- The stripped lists are equal, so there is a snapshot at the same place.
  have lists : w'.snapshots.map Snapshot.bare = w.snapshots.map Snapshot.bare :=
    congrArg Workspace.snapshots same
  have entry : (w'.snapshots[seq]?).map Snapshot.bare = some snapshot.bare := by
    rw [← List.getElem?_map, lists, List.getElem?_map, found, Option.map_some]
  exact Option.map_eq_some_iff.mp entry

theorem Extends.of_bare (same : w'.bare = w.bare) : Extends w w' where
  stopped ended := (eq_of_bare same (·.stopped) fun _ => rfl).trans ended
  snapshots {_ snapshot} found := by
    obtain ⟨later, found, alike⟩ := snapshot_of_bare same found
    -- All that `bare` forgets of a snapshot is what is known of its runner.
    have files : later.bare.files = snapshot.bare.files := by rw [alike]
    have ended : later.bare.superseded = snapshot.bare.superseded := by rw [alike]
    exact ⟨later, found, files, fun before => ended.trans before⟩
  passes found := by
    have passes := eq_of_bare same (·.passes) fun _ => rfl
    exact ⟨_, by rw [passes]; exact found, rfl, id⟩

theorem Extends.modifySnapshot (w : Workspace) (seq : Nat) {change : Snapshot → Snapshot}
    (files : ∀ snapshot, (change snapshot).files = snapshot.files)
    (ended : ∀ snapshot, snapshot.superseded = true → (change snapshot).superseded = true) :
    Extends w (w.modifySnapshot seq change) where
  stopped := id
  snapshots {place snapshot} found := by
    simp only [Workspace.modifySnapshot, List.getElem?_modify, found]
    by_cases here : seq = place
    · exact ⟨change snapshot, by simp [here], files snapshot, ended snapshot⟩
    · exact ⟨snapshot, by simp [here], rfl, id⟩
  passes found := ⟨_, found, rfl, id⟩

theorem Extends.acquire (w : Workspace) (seq : Nat) : Extends w (w.acquire seq) :=
  .modifySnapshot w seq (fun _ => rfl) (fun _ => id)

theorem Extends.release (w : Workspace) (seq : Nat) : Extends w (w.release seq) := by
  -- Counting down touches neither the files nor whether the snapshot has ended.
  have fewer : Extends w
      (w.modifySnapshot seq fun snapshot => { snapshot with refs := snapshot.refs - 1 }) :=
    .modifySnapshot w seq (fun _ => rfl) (fun _ => id)
  unfold Workspace.release
  dsimp only
  split
  · exact fewer.trans (.of_eq rfl rfl rfl)
  · exact fewer

theorem Extends.letGo (w : Workspace) (name : String) : Extends w (w.letGo name) := by
  unfold Workspace.letGo
  split
  · exact .refl w
  · exact (Extends.release w _).trans (.of_eq rfl rfl rfl)

theorem Extends.hold (w : Workspace) (name : String) (seq : Nat) : Extends w (w.hold name seq) :=
  (Extends.letGo w name).trans (.of_eq rfl rfl rfl)

theorem Extends.beginChange (w : Workspace) (previous : Nat) (save : Bool) :
    Extends w (w.beginChange previous save) := by
  unfold Workspace.beginChange
  have claimed : Extends w { w with changing := true } := .of_eq rfl rfl rfl
  -- A save ends the work over the former snapshot; ended is all that it can become.
  split
  · refine claimed.trans (.modifySnapshot _ previous ?_ ?_)
    · exact fun _ => rfl
    · exact fun _ _ => rfl
  · exact claimed

theorem Extends.install (w : Workspace) (previous : Nat) (change : StateChange) :
    Extends w (w.install previous change) := by
  unfold Workspace.install
  split
  · exact .of_eq rfl rfl rfl
  · refine Extends.trans ?_ (.release _ previous)
    exact {
      stopped := id
      snapshots := fun {seq snapshot} found => ⟨snapshot, by
        -- What is there already stands before the snapshot that is put at the end.
        have within : seq < w.snapshots.length := (List.getElem?_eq_some_iff.mp found).1
        rw [List.getElem?_append_left within]
        exact found, rfl, id⟩
      passes := fun found => ⟨_, found, rfl, id⟩ }

theorem Extends.endScope (w : Workspace) (scope : Scope) : Extends w (w.endScope scope) := by
  cases scope with
  | never => exact .refl w
  | past => exact .refl w
  | view => exact ⟨fun _ => rfl, fun found => ⟨_, found, rfl, id⟩, fun found => ⟨_, found, rfl, id⟩⟩
  | pass number =>
    refine ⟨id, fun found => ⟨_, found, rfl, id⟩, fun {place pass} found => ?_⟩
    -- Only the pass of that number is touched, and it keeps its snapshot.
    simp only [Workspace.endScope, List.getElem?_modify, found]
    by_cases here : number = place
    · exact ⟨{ pass with cancelled := true }, by simp [here], rfl, fun _ => rfl⟩
    · exact ⟨pass, by simp [here], rfl, id⟩

theorem Extends.beginPass (w : Workspace) (seq : Nat) : Extends w (w.beginPass seq) := by
  -- The one before it is cancelled first, if there is one.
  have cancelled : Extends w
      (if w.passes.isEmpty then w else w.endScope (.pass (w.passes.length - 1))) := by
    split
    · exact .refl w
    · exact .endScope w _
  refine cancelled.trans ⟨id, fun found => ⟨_, found, rfl, id⟩, fun {number pass} found => ?_⟩
  have within := (List.getElem?_eq_some_iff.mp found).1
  refine ⟨pass, ?_, rfl, id⟩
  simp only [Workspace.beginPass]
  rw [List.getElem?_append_left within]
  exact found

theorem Extends.spawn (w : Workspace) (task : Task) : Extends w (w.spawn task) := .of_eq rfl rfl rfl

theorem Extends.afterChange (w : Workspace) (change : StateChange) (seq : Nat) :
    Extends w (w.afterChange change seq) := by
  unfold Workspace.afterChange
  split
  · exact (Extends.beginPass w seq).trans (.spawn _ _)
  · exact .release w seq

theorem Extends.releaseCurrent (released : w.releaseCurrent = some w') : Extends w w' := by
  obtain ⟨-, ⟨-, rfl⟩ | ⟨seq, -, rfl⟩⟩ := releaseCurrent_cases released
  · exact .refl w'
  · exact (Extends.release w seq).trans (.of_eq rfl rfl rfl)

theorem ChangeAdvance.extends {change : StateChange} {scope : Scope} {phase : ChangePhase}
    {step : ChangeStep} (advance : ChangeAdvance c w change scope phase w' step) : Extends w w' := by
  cases advance with
  | refuse => exact .refl w
  | start => exact .beginChange w _ _
  | wait same => exact .of_bare same
  | install same => exact (Extends.of_bare same).trans (.install _ _ _)

theorem PassAdvance.extends {job : PassJob} {phase : PassPhase}
    (advance : PassAdvance w job w' phase) : Extends w w' := by
  -- A pass cancels nobody, and touches no snapshot.
  cases advance with
  | unseen _ _ _ _ same => exact .of_bare same
  | _ => exact .of_eq rfl rfl rfl

theorem Advance.extends {task task' : Task} (advance : Advance c w task w' task') : Extends w w' := by
  -- What a task does beyond the core is a reference taken or given back, a change or a pass.
  cases advance with
  | forward same => exact .of_bare same
  | load same => exact .of_bare same
  | loaded same => exact (Extends.of_bare same).trans (.release _ _)
  | observe same => exact .of_bare same
  | observed same => exact (Extends.of_bare same).trans (.release _ _)
  | take => exact .acquire w _
  | mark => exact .of_eq rfl rfl rfl
  | changeWaits step => exact step.extends
  | changeRefused step => exact step.extends
  | changeInstalled step => exact step.extends
  | pass step => exact step.extends
  | passEnds _ same => exact (Extends.of_bare same).trans (.release _ _)
  | nextBatch => exact .of_eq rfl rfl rfl
  | markNext => exact .of_eq rfl rfl rfl
  | takeBefore => exact .acquire w _
  | readAll => exact .release w _
  | workerWaits step => exact step.extends
  | workerRefused step => exact step.extends
  | workerInstalled step => exact step.extends.trans (.afterChange _ _ _)
  | fix same => exact .of_bare same
  | stopTold => exact .endScope w .view
  | stopReleased released => exact .releaseCurrent released
  | shutdownEarly => exact .of_eq rfl rfl rfl
  | shutdownTold => exact (Extends.endScope w .view).trans (.of_eq rfl rfl rfl)
  | shutdownReleased released => exact .releaseCurrent released
  | shutdownIdled _ same => exact .of_bare same
  | _ => exact .refl w

end PolicyServer.Workspace
