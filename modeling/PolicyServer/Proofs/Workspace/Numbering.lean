import PolicyServer.Proofs.Workspace.Sightings

/-! Changes are numbered as they are made: the snapshots that they install follow each other without a
gap, and only a save ends the work of the snapshot before it. -/

namespace PolicyServer

/-- The change that a task has its turn to make, and the snapshot that it is made to. -/
def Task.target? (task : Task) : Option (StateChange × Nat) :=
  task.making?.map fun made => (made.1, made.2.snapshot)

def Task.isLeaving : Task → Bool
  | .stop .releasing | .shutdown .releasing => true
  | _ => false

theorem Task.target_lapse (task : Task) : task.lapse.target? = task.target? := by
  cases task with
  | change made scope phase => cases phase <;> rfl
  | _ => rfl

namespace Workspace

variable {c : Collaborators} {eager : Bool} {w w' w'' : Workspace} {number previous : Nat}
  {task task' : Task} {change : StateChange}

def flags (w : Workspace) : List Bool := w.snapshots.map (·.superseded)

/-- What changes are made to: the snapshots with whether a save came after, the current one, and
whether the view has stopped. -/
structure Standing where
  flags : List Bool
  current : Option Nat
  stopped : Bool

def standing (w : Workspace) : Standing := ⟨w.flags, w.current, w.stopped⟩

def targets (w : Workspace) : List (StateChange × Nat) := w.tasks.filterMap Task.target?

theorem length_flags (w : Workspace) : w.flags.length = w.snapshots.length := List.length_map _

/-! ### What leaves things as they stand -/

theorem standing_of_bare (same : w'.bare = w.bare) : w'.standing = w.standing := by
  refine eq_of_bare same standing fun v => ?_
  simp [standing, flags, bare, Snapshot.bare, List.map_map, Function.comp_def]

@[simp] theorem standing_acquire (w : Workspace) (seq : Nat) :
    (w.acquire seq).standing = w.standing :=
  congrArg (Standing.mk · w.current w.stopped) (map_acquire w seq fun _ _ => rfl)

@[simp] theorem standing_release (w : Workspace) (seq : Nat) :
    (w.release seq).standing = w.standing := by
  have same : (w.release seq).flags = w.flags := map_release w seq fun _ _ => rfl
  have stopped : (w.release seq).stopped = w.stopped := by
    unfold release
    dsimp only
    split <;> rfl
  simp only [standing, same, stopped, (release_frame w seq).1]

@[simp] theorem standing_letGo (w : Workspace) (name : String) :
    (w.letGo name).standing = w.standing := by
  unfold letGo
  split
  · rfl
  · exact standing_release w _

@[simp] theorem standing_hold (w : Workspace) (name : String) (seq : Nat) :
    (w.hold name seq).standing = w.standing := standing_letGo w name

@[simp] theorem standing_beginPass (w : Workspace) (seq : Nat) :
    (w.beginPass seq).standing = w.standing := by
  unfold beginPass
  split <;> rfl

@[simp] theorem standing_afterChange (w : Workspace) (change : StateChange) (seq : Nat) :
    (w.afterChange change seq).standing = w.standing := by
  unfold afterChange
  split
  · exact standing_beginPass w seq
  · exact standing_release w seq

theorem standing_beginChange (w : Workspace) (previous : Nat) (save : Bool) :
    (w.beginChange previous save).standing =
      { w.standing with flags := if save then w.flags.set previous true else w.flags } := by
  unfold beginChange
  split
  · simp only [standing, flags, modifySnapshot]
    congr 1
    rw [List.set_eq_modify]
    exact map_modify w.snapshots previous fun _ => rfl
  · rfl

theorem standing_install (within : previous < w.snapshots.length) (change : StateChange) :
    (w.install previous change).standing =
      { w.standing with flags := w.flags ++ [false], current := some w.snapshots.length } := by
  unfold install
  rw [List.getElem?_eq_getElem within]
  -- The former snapshot loses a reference, but its flag stays.
  rw [standing_release]
  simp [standing, flags, Snapshot.successor]

/-! ### A step of a task -/

/--
What a step of a task does to how things stand.

A change has its turn, with which a save ends the work of the current snapshot, and later makes a
snapshot in its place. The view is told to stop, and then loses its snapshot.
-/
inductive Renewal (w : Workspace) (task : Task) : Workspace → Task → Prop where
  | still {w' : Workspace} {task' : Task} (same : w'.standing = w.standing)
      (target : task'.target? = task.target?)
      (stays : task'.isLeaving = true → task.isLeaving = true) : Renewal w task w' task'
  | begins {w' : Workspace} {task' : Task} {change : StateChange} {previous : Nat}
      (free : w.changing = false) (here : w.current = some previous) (before : task.target? = none)
      (after : task'.target? = some (change, previous)) (stays : task'.isLeaving = false)
      (same : w'.standing =
        { w.standing with flags := if change.save then w.flags.set previous true else w.flags }) :
    Renewal w task w' task'
  | makes {w' : Workspace} {task' : Task} {change : StateChange} {previous : Nat}
      (before : task.target? = some (change, previous)) (after : task'.target? = none)
      (stays : task'.isLeaving = false)
      (same : w'.standing =
        { w.standing with flags := w.flags ++ [false], current := some w.snapshots.length }) :
    Renewal w task w' task'
  | stops {w' : Workspace} {task' : Task} (before : task.target? = none)
      (after : task'.target? = none) (same : w'.standing = { w.standing with stopped := true }) :
    Renewal w task w' task'
  | leaves {w' : Workspace} {task' : Task} (leaving : task.isLeaving = true)
      (after : task'.target? = none) (stays : task'.isLeaving = false)
      (same : w'.standing = { w.standing with current := none }) : Renewal w task w' task'

theorem ChangeAdvance.renewalWaits {scope : Scope} {phase phase' : ChangePhase}
    (advance : ChangeAdvance c w change scope phase w' (.waiting phase'))
    (before : task.target? = phase.search?.map fun p => (change, p.snapshot))
    (after : task'.target? = phase'.search?.map fun p => (change, p.snapshot))
    (stays : task'.isLeaving = false) : Renewal w task w' task' := by
  -- It has its turn from now on, or had it already.
  cases advance with
  | start free here =>
    exact .begins free here before after stays (standing_beginChange w _ change.save)
  | wait same kept =>
    refine .still (standing_of_bare same) ?_ fun leaving => ?_
    · rw [after, before]
      simp only [ChangePhase.search?, Option.map_some, kept]
    · rw [stays] at leaving
      cases leaving

theorem ChangeAdvance.standing_made {scope : Scope} {phase : ChangePhase} {seq : Nat}
    (advance : ChangeAdvance c w change scope phase w' (.installed seq))
    (spoken : ∀ p ∈ phase.search?, p.snapshot < w.snapshots.length) :
    w'.standing =
      { w.standing with flags := w.flags ++ [false], current := some w.snapshots.length } := by
  cases advance with
  | @install p mid same =>
    have length := length_of_bare same
    rw [standing_install (length ▸ spoken p rfl), standing_of_bare same, length,
      show mid.flags = w.flags from congrArg Standing.flags (standing_of_bare same)]

theorem standing_releaseCurrent (released : w.releaseCurrent = some w') :
    w'.standing = { w.standing with current := none } := by
  obtain ⟨-, ⟨gone, rfl⟩ | ⟨seq, -, rfl⟩⟩ := releaseCurrent_cases released
  · simp only [standing, gone]
  · exact congrArg (fun now : Standing => { now with current := none }) (standing_release w seq)

theorem Advance.renewal (advance : Advance c w task w' task')
    (spoken : ∀ seq ∈ task.mentions, seq < w.snapshots.length) : Renewal w task w' task' := by
  have quiet : w'.standing = w.standing → task'.target? = task.target? →
      task'.isLeaving = false → Renewal w task w' task' :=
    fun same target stays => .still same target fun leaving => by rw [stays] at leaving; cases leaving
  cases advance with
  | forward same kind => rcases kind with rfl | rfl <;> exact quiet (standing_of_bare same) rfl rfl
  | load same => exact quiet (standing_of_bare same) rfl rfl
  | loaded same => exact quiet ((standing_release _ _).trans (standing_of_bare same)) rfl rfl
  | observe same => exact quiet (standing_of_bare same) rfl rfl
  | observed same => exact quiet ((standing_release _ _).trans (standing_of_bare same)) rfl rfl
  | take => exact quiet (standing_acquire w _) rfl rfl
  -- A change of a caller goes through the same stages as one of the worker.
  | @changeWaits _ _ _ phase phase' step =>
    exact step.renewalWaits (by cases phase <;> rfl) (by cases phase' <;> rfl) rfl
  | changeRefused step =>
    cases step
    exact quiet rfl rfl rfl
  | @changeInstalled _ _ _ phase seq step =>
    cases phase with
    | turn => cases step
    | waiting p =>
      have made := step.standing_made fun q same => by
        cases same
        exact spoken _ List.mem_cons_self
      exact .makes rfl rfl rfl made
  | pass step =>
    cases step with
    | unseen _ _ _ _ same => exact quiet (standing_of_bare same) rfl rfl
    | _ => exact quiet rfl rfl rfl
  | passEnds _ same => exact quiet ((standing_release _ _).trans (standing_of_bare same)) rfl rfl
  | takeBefore => exact quiet (standing_acquire w _) rfl rfl
  | readAll => exact quiet (standing_release w _) rfl rfl
  | @workerWaits _ _ phase phase' step =>
    exact step.renewalWaits (by cases phase <;> rfl) (by cases phase' <;> rfl) rfl
  | workerRefused step =>
    cases step
    exact quiet rfl rfl rfl
  | @workerInstalled _ _ phase seq step =>
    cases phase with
    | turn => cases step
    | waiting p =>
      have made := step.standing_made fun q same => by
        cases same
        exact spoken _ List.mem_cons_self
      -- The pass after a save takes no further part in it.
      exact .makes rfl rfl rfl ((standing_afterChange _ _ _).trans made)
  | fix same kind =>
    rcases kind with ⟨job, rfl⟩ | ⟨outcome, rfl⟩ <;> exact quiet (standing_of_bare same) rfl rfl
  | stopTold => exact .stops rfl rfl rfl
  | stopReleased released => exact .leaves rfl rfl rfl (standing_releaseCurrent released)
  | shutdownTold => exact .stops rfl rfl rfl
  | shutdownReleased released => exact .leaves rfl rfl rfl (standing_releaseCurrent released)
  | shutdownIdled _ same => exact quiet (standing_of_bare same) rfl rfl
  | _ => exact quiet rfl rfl rfl

/-! ### The changes that were made -/

/-- A change that was made: the snapshot installed, and the one before it. -/
structure Installation where
  seq : Nat
  previous : Nat
  change : StateChange

/-- The change that a step of a task makes, as the view has it. -/
def installations (_ : Workspace) (before : Task) (w' : Workspace) (after : Task) :
    List Installation :=
  match before.target?, after.target? with
  | some (change, previous), none => w'.current.toList.map fun seq => ⟨seq, previous, change⟩
  | _, _ => []

theorem installations_of_idle (idle : task.target? = none) : installations w task w' task' = [] := by
  simp [installations, idle]

theorem installations_of_busy {target : StateChange × Nat} (busy : task'.target? = some target) :
    installations w task w' task' = [] := by
  unfold installations
  rw [busy]
  cases task.target? <;> rfl

theorem installations_of_made {seq : Nat} (before : task.target? = some (change, previous))
    (after : task'.target? = none) (next : w'.current = some seq) :
    installations w task w' task' = [⟨seq, previous, change⟩] := by
  simp [installations, before, after, next]

/--
The changes made so far are numbered, and things stand as they left them.

The current snapshot is the last one, and only a view that has stopped has none. The work of each former
snapshot was ended if a save came after it; that of the current one only while a task has its turn.
-/
structure Numbered (w : Workspace) (made : List Installation) : Prop where
  count : (w.flags = [] ∧ made = []) ∨ w.flags.length = made.length + 1
  current : ∀ seq ∈ w.current, w.flags.length = seq + 1
  present : w.current = none → w.flags = [] ∨ w.stopped = true
  leaving : ∀ task ∈ w.tasks, task.isLeaving = true → w.stopped = true
  seqs : made.map (·.seq) = List.range' 1 made.length
  formers : made.map (·.previous) = List.range made.length
  ended : w.flags.take made.length = made.map (·.change.save)
  fresh : ∀ seq ∈ w.current, w.flags[seq]? = some true → w.targets ≠ []
  waiting : ∀ target ∈ w.targets, w.flags[target.2]? = some target.1.save

def LeavesAsBefore (w w' : Workspace) : Prop :=
  ∀ task ∈ w'.tasks, task.isLeaving = true → ∃ former ∈ w.tasks, former.isLeaving = true

/-- Things stand as they stood, and no task gets or loses a turn at the current snapshot. -/
structure Calm (w w' : Workspace) : Prop where
  standing : w'.standing = w.standing
  targets : w'.targets = w.targets
  leaving : LeavesAsBefore w w'

section

variable {made : List Installation}

theorem Numbered.stillLeaving (numbered : Numbered w made) (leaving : LeavesAsBefore w w')
    (stopped : w'.stopped = w.stopped) : ∀ task ∈ w'.tasks, task.isLeaving = true → w'.stopped = true := by
  intro task member goes
  obtain ⟨former, listed, goes⟩ := leaving task member goes
  exact stopped.trans (numbered.leaving former listed goes)

theorem Numbered.count_of_current (numbered : Numbered w made) (here : w.current = some previous) :
    w.flags.length = made.length + 1 ∧ previous = made.length := by
  have last := numbered.current previous here
  rcases numbered.count with ⟨empty, -⟩ | count
  · rw [empty] at last
    cases last
  · omega

theorem Numbered.calm (numbered : Numbered w made) (calm : Calm w w') : Numbered w' made := by
  obtain ⟨same, targets, leaving⟩ := calm
  have flags : w'.flags = w.flags := congrArg Standing.flags same
  have current : w'.current = w.current := congrArg Standing.current same
  have stopped : w'.stopped = w.stopped := congrArg Standing.stopped same
  have left := numbered.stillLeaving leaving stopped
  obtain ⟨count, last, present, -, seqs, formers, ended, fresh, waiting⟩ := numbered
  -- All other laws speak of how things stand and of changes under way.
  refine ⟨?_, ?_, ?_, left, seqs, formers, ?_, ?_, ?_⟩
  all_goals simpa only [flags, current, stopped, targets]

theorem Numbered.stop (numbered : Numbered w made)
    (same : w'.standing = { w.standing with stopped := true })
    (targets : w'.targets = w.targets) : Numbered w' made := by
  have flags : w'.flags = w.flags := congrArg Standing.flags same
  have current : w'.current = w.current := congrArg Standing.current same
  have stopped : w'.stopped = true := congrArg Standing.stopped same
  obtain ⟨count, last, -, -, seqs, formers, ended, fresh, waiting⟩ := numbered
  refine ⟨?_, ?_, fun _ => .inr stopped, fun _ _ _ => stopped, seqs, formers, ?_, ?_, ?_⟩
  all_goals simpa only [flags, current, targets]

theorem Numbered.open (numbered : Numbered w made) (empty : w.flags = [])
    (same : w'.standing = { w.standing with flags := [false], current := some 0 })
    (targets : w'.targets = w.targets)
    (leaving : LeavesAsBefore w w') : Numbered w' made := by
  have flags : w'.flags = [false] := congrArg Standing.flags same
  have current : w'.current = some 0 := congrArg Standing.current same
  have stopped : w'.stopped = w.stopped := congrArg Standing.stopped same
  -- Without a snapshot no change was made, and none has its turn.
  have none : made = [] := by
    rcases numbered.count with ⟨-, none⟩ | count
    · exact none
    · simp [empty] at count
  have idle : w.targets = [] := by
    apply List.eq_nil_iff_forall_not_mem.mpr
    intro target member
    have listed := numbered.waiting target member
    simp [empty] at listed
  refine ⟨.inr ?_, fun seq here => ?_, fun gone => ?_, numbered.stillLeaving leaving stopped, ?_, ?_,
    ?_, fun seq here ended => ?_, ?_⟩
  · simp [flags, none]
  · rw [current] at here
    cases here
    simp [flags]
  · rw [current] at gone
    cases gone
  · simp [none]
  · simp [none]
  · simp [none]
  · rw [current] at here
    cases here
    simp [flags] at ended
  · simp [targets, idle]

theorem Numbered.begin (numbered : Numbered w made) (idle : w.targets = [])
    (here : w.current = some previous) (same : w'.standing =
      { w.standing with flags := if change.save then w.flags.set previous true else w.flags })
    (some : w'.targets ≠ []) (only : ∀ target ∈ w'.targets, target = (change, previous))
    (leaving : LeavesAsBefore w w') : Numbered w' made := by
  have flags : w'.flags = if change.save then w.flags.set previous true else w.flags :=
    congrArg Standing.flags same
  have current : w'.current = w.current := congrArg Standing.current same
  have stopped : w'.stopped = w.stopped := congrArg Standing.stopped same
  have length : w'.flags.length = w.flags.length := by
    rw [flags]
    split <;> simp
  obtain ⟨count, behind⟩ := numbered.count_of_current here
  refine ⟨.inr (length.trans count), fun seq now => ?_, fun gone => ?_,
    numbered.stillLeaving leaving stopped, numbered.seqs, numbered.formers, ?_, fun _ _ _ => ?_,
    fun other member => ?_⟩
  · rw [length]
    exact numbered.current seq (current ▸ now)
  · rw [current, here] at gone
    cases gone
  · rw [← numbered.ended, flags]
    split
    · rw [List.take_set, List.set_eq_of_length_le]
      simp only [List.length_take]
      omega
    · rfl
  · exact some
  · cases only other member
    have within : previous < w.flags.length := by omega
    rw [flags]
    cases save : change.save with
    | true => simp [within]
    | false =>
      -- A current snapshot whose work was ended would have a task with its turn.
      cases flag : w.flags[previous]? with
      | none =>
        have none := List.getElem?_eq_none_iff.mp flag
        omega
      | some ended =>
        cases ended with
        | false => simpa using flag
        | true => exact absurd idle (numbered.fresh previous here flag)

theorem Numbered.make (numbered : Numbered w made) (waits : (change, previous) ∈ w.targets)
    (here : w.current = some previous) (same : w'.standing =
      { w.standing with flags := w.flags ++ [false], current := some w.snapshots.length })
    (targets : ∀ target ∈ w'.targets, target ∈ w.targets)
    (leaving : LeavesAsBefore w w') :
    Numbered w' (made ++ [⟨w.snapshots.length, previous, change⟩]) := by
  have flags : w'.flags = w.flags ++ [false] := congrArg Standing.flags same
  have current : w'.current = some w.snapshots.length := congrArg Standing.current same
  have stopped : w'.stopped = w.stopped := congrArg Standing.stopped same
  -- The change replaces the last snapshot, and its own comes behind all there are.
  obtain ⟨count, behind⟩ := numbered.count_of_current here
  have room : w.snapshots.length = made.length + 1 := by rw [← length_flags, count]
  refine ⟨.inr ?_, fun seq now => ?_, fun gone => ?_, numbered.stillLeaving leaving stopped, ?_, ?_,
    ?_, fun seq now ended => ?_, fun target member => ?_⟩
  · simp [flags, count]
  · rw [current] at now
    cases now
    simp [flags, length_flags]
  · rw [current] at gone
    cases gone
  · rw [List.map_append, numbered.seqs, List.length_append, List.length_singleton,
      List.range'_concat, room]
    simp [Nat.add_comm]
  · rw [List.map_append, numbered.formers, List.length_append, List.length_singleton,
      List.range_succ, behind]
    rfl
  · -- The flag of the former snapshot was settled when the change had its turn.
    have flagged := numbered.waiting _ waits
    rw [behind] at flagged
    rw [List.length_append, List.length_singleton, List.map_append, ← numbered.ended, flags,
      List.take_append_of_le_length (Nat.le_of_eq count.symm), List.take_add_one, flagged]
    rfl
  · rw [current] at now
    cases now
    simp [flags, length_flags] at ended
  · have listed := numbered.waiting target (targets target member)
    rw [flags, List.getElem?_append_left (List.getElem?_eq_some_iff.mp listed).1]
    exact listed

theorem Numbered.leave (numbered : Numbered w made) (stopped : w.stopped = true)
    (same : w'.standing = { w.standing with current := none })
    (targets : ∀ target ∈ w'.targets, target ∈ w.targets) : Numbered w' made := by
  have flags : w'.flags = w.flags := congrArg Standing.flags same
  have current : w'.current = none := congrArg Standing.current same
  have stopped' : w'.stopped = true := (congrArg Standing.stopped same).trans stopped
  -- Without a current snapshot, what is said of it holds of none.
  refine ⟨?_, ?_, fun _ => .inr stopped', fun _ _ _ => stopped', numbered.seqs, numbered.formers, ?_,
    ?_, fun target member => ?_⟩
  · rw [flags]
    exact numbered.count
  · simp [current]
  · rw [flags]
    exact numbered.ended
  · simp [current]
  · rw [flags]
    exact numbered.waiting target (targets target member)

theorem waits_of_target (target : task.target? = some (change, previous)) :
    ∃ p, task.waits? = some p ∧ p.snapshot = previous := by
  -- Only a change of a caller and one of the worker can have its turn.
  cases task with
  | change _ _ phase =>
    cases phase with
    | turn => cases target
    | waiting p =>
      cases target
      exact ⟨p, rfl, rfl⟩
  | documents phase =>
    cases phase with
    | changing _ phase =>
      cases phase with
      | turn => cases target
      | waiting p =>
        cases target
        exact ⟨p, rfl, rfl⟩
    | _ => cases target
  | _ => cases target

theorem Gated.targets_eq_nil (gated : Gated w) (free : w.changing = false) : w.targets = [] := by
  rw [targets, List.filterMap_eq_nil_iff]
  intro task member
  -- A change that is to be made waits, which none does while the turn is free.
  obtain ⟨number, found⟩ := List.mem_iff_getElem?.mp member
  have idle := gated.idle free found
  cases target : task.target? with
  | none => rfl
  | some made =>
    obtain ⟨p, waits, -⟩ := waits_of_target target
    rw [idle] at waits
    cases waits

theorem Advance.targets (advance : Advance c w task w' task')
    (found : w.tasks[number]? = some task) (after : Workspace)
    (set : after.tasks = w'.tasks.set number task') :
    (task'.target? = task.target? → after.targets = w.targets) ∧
    (∀ target ∈ after.targets, target ∈ w.targets ∨ task'.target? = some target) ∧
    (∀ target, task'.target? = some target → target ∈ after.targets) ∧
    ∀ other ∈ after.tasks, other.isLeaving = true → other = task' ∨ other ∈ w.tasks := by
  obtain ⟨more, appended, new⟩ := advance.tasks_append
  have found' := advance.found_after found
  -- The tasks that were added are passes, which make no change and take nothing away.
  have all : w'.tasks.filterMap Task.target? = w.targets := advance.filterMap_tasks fun _ _ => rfl
  refine ⟨fun same => ?_, fun target member => ?_, fun target same => ?_, fun other member goes => ?_⟩
  · rw [Workspace.targets, set, filterMap_set_of_eq found' same, all]
  · rw [Workspace.targets, set] at member
    obtain ⟨other, listed, makes⟩ := List.mem_filterMap.mp member
    rcases List.mem_or_eq_of_mem_set listed with before | rfl
    · exact .inl (all ▸ List.mem_filterMap.mpr ⟨other, before, makes⟩)
    · exact .inr makes
  · rw [Workspace.targets, set]
    have room : number < w'.tasks.length := (List.getElem?_eq_some_iff.mp found').1
    exact List.mem_filterMap.mpr ⟨task', List.mem_of_getElem? (List.getElem?_set_self room), same⟩
  · rw [set] at member
    rcases List.mem_or_eq_of_mem_set member with before | rfl
    · rw [appended] at before
      rcases List.mem_append.mp before with listed | added
      · exact .inr listed
      · obtain ⟨job, rfl, -⟩ := new other added
        cases goes
    · exact .inl rfl

theorem Numbered.step (numbered : Numbered w made) (kept : Kept w)
    (found : w.tasks[number]? = some task) (advance : Advance c w task w' task') :
    Numbered { w' with tasks := w'.tasks.set number task' }
      (made ++ installations w task w' task') := by
  have member := List.mem_of_getElem? found
  obtain ⟨same', mem, here, goes⟩ := advance.targets found
    { w' with tasks := w'.tasks.set number task' } rfl
  -- Who is about to take the snapshot away was so before, unless it is the task itself.
  have stays : (task'.isLeaving = true → task.isLeaving = true) →
      ∀ other ∈ w'.tasks.set number task', other.isLeaving = true →
        ∃ former ∈ w.tasks, former.isLeaving = true := by
    intro own other listed leaving
    rcases goes other listed leaving with rfl | before
    · exact ⟨task, member, own leaving⟩
    · exact ⟨other, before, leaving⟩
  have never : task'.isLeaving = false → task'.isLeaving = true → task.isLeaving = true :=
    fun no yes => by rw [no] at yes; cases yes
  -- What the step does to how things stand tells which law of numbering applies.
  cases advance.renewal (kept.anchored.tasks task member) with
  | still same target own =>
    have nothing : installations w task w' task' = [] := by
      cases before : task.target? with
      | none => exact installations_of_idle before
      | some change => exact installations_of_busy (target.trans before)
    rw [nothing, List.append_nil]
    exact numbered.calm ⟨same, same' target, stays own⟩
  | @begins change previous free current before after own same =>
    -- Nobody else has the turn, so this change is the only one to be made.
    have idle := kept.custody.gated.targets_eq_nil free
    rw [installations_of_idle before, List.append_nil]
    refine numbered.begin idle current same (List.ne_nil_of_mem (here _ after)) ?_ (stays (never own))
    intro target listed
    rcases mem target listed with old | new
    · rw [idle] at old
      cases old
    · exact Option.some.inj (new.symm.trans after)
  | @makes change previous before after own same =>
    obtain ⟨p, waits, rfl⟩ := waits_of_target before
    have current := (kept.custody.gated.busy found waits).2
    have next : w'.current = some w.snapshots.length := congrArg Standing.current same
    rw [installations_of_made before after next]
    refine numbered.make (List.mem_filterMap.mpr ⟨task, member, before⟩) current same ?_
      (stays (never own))
    intro target listed
    rcases mem target listed with old | new
    · exact old
    · rw [after] at new
      cases new
  | stops before after same =>
    rw [installations_of_idle before, List.append_nil]
    exact numbered.stop same (same' (after.trans before.symm))
  | leaves leaving after own same =>
    have stopped := numbered.leaving task member leaving
    have before : task.target? = none := by
      cases task <;> first | rfl | cases leaving
    rw [installations_of_idle before, List.append_nil]
    refine numbered.leave stopped same fun target listed => ?_
    rcases mem target listed with old | new
    · exact old
    · rw [after] at new
      cases new

end

/-! ### Where no task goes on -/

namespace Calm

theorem of_eq (standing : w'.standing = w.standing) (tasks : w'.tasks = w.tasks) : Calm w w' :=
  ⟨standing, congrArg (List.filterMap Task.target?) tasks, fun task member goes =>
    ⟨task, tasks ▸ member, goes⟩⟩

theorem trans (first : Calm w w') (second : Calm w' w'') : Calm w w'' where
  standing := second.standing.trans first.standing
  targets := second.targets.trans first.targets
  leaving task member goes := by
    obtain ⟨former, listed, goes⟩ := second.leaving task member goes
    exact first.leaving former listed goes

theorem spawn (task : Task) (idle : task.target? = none) (stays : task.isLeaving = false) :
    Calm w (w.spawn task) where
  standing := rfl
  targets := by simp [Workspace.targets, Workspace.spawn, idle]
  leaving other member goes := by
    -- The new task takes nothing away.
    rcases List.mem_append.mp member with before | new
    · exact ⟨other, before, goes⟩
    · rw [List.mem_singleton.mp new, stays] at goes
      cases goes

theorem setTask (task' : Task) (found : w.tasks[number]? = some task)
    (same : task'.target? = task.target?)
    (stays : task'.isLeaving = true → task.isLeaving = true) :
    Calm w { w with tasks := w.tasks.set number task' } where
  standing := rfl
  targets := filterMap_set_of_eq found same
  leaving other member goes := by
    rcases List.mem_or_eq_of_mem_set member with before | rfl
    · exact ⟨other, before, goes⟩
    · exact ⟨task, List.mem_of_getElem? found, stays goes⟩

theorem acquire (w : Workspace) (seq : Nat) : Calm w (w.acquire seq) :=
  .of_eq (standing_acquire w seq) rfl

theorem beginPass (w : Workspace) (seq : Nat) : Calm w (w.beginPass seq) :=
  .of_eq (standing_beginPass w seq) (beginPass_frame w seq).2.2.1

theorem hold (w : Workspace) (name : String) (seq : Nat) : Calm w (w.hold name seq) :=
  .of_eq (standing_hold w name seq) (letGo_frame w name).1

end Calm

section

variable {made : List Installation}

theorem Numbered.openView (numbered : Numbered w made) (empty : w.snapshots = []) :
    Numbered w.openView made := by
  refine numbered.open (by simp [flags, empty]) rfl ?_ fun task member goes => ?_
  · simp [targets, Workspace.openView, spawn, Task.target?, Task.making?]
  · rcases List.mem_append.mp member with before | new
    · exact ⟨task, before, goes⟩
    · rw [List.mem_singleton.mp new] at goes
      cases goes

theorem Numbered.enterSession (numbered : Numbered w made) (anchored : Anchored w) :
    Numbered w.enterSession made := by
  unfold Workspace.enterSession
  split
  · rename_i stage
    have entered : Calm w { w with lifecycle := .initialized } := .of_eq rfl rfl
    have opened := (numbered.calm entered).openView (anchored.early stage)
    -- The first pass, the worker and the pass's task leave the new snapshot alone.
    refine opened.calm ((Calm.beginPass _ 0).trans ?_)
    exact (Calm.spawn (.documents .idle) rfl rfl).trans (.spawn _ rfl rfl)
  · exact numbered

theorem Incident.numbered {move : Move} (incident : Incident w move w') (anchored : Anchored w)
    (numbered : Numbered w made) : Numbered w' made := by
  cases incident with
  | enter => exact numbered.enterSession anchored
  | spawn _ asked => cases asked <;> exact numbered.calm (.spawn _ rfl rfl)
  | endScope _ scope =>
    -- The end of the view's own scope is the stop of the view.
    cases scope with
    | view => exact numbered.stop rfl rfl
    | _ => exact numbered.calm (.of_eq rfl rfl)
  | giveUp found => exact numbered.calm (.setTask _ found rfl id)
  | openView name _ empty => exact (numbered.openView empty).calm (.hold _ name 0)
  | @beginPass seq message referred =>
    have begun := (Calm.acquire w seq).trans (.beginPass _ seq)
    exact numbered.calm (begun.trans (.spawn _ rfl rfl))
  | observe scope referred => exact numbered.calm ((Calm.acquire w _).trans (.spawn _ rfl rfl))
  | keep name found =>
    exact numbered.calm ((Calm.setTask (.finished .nothing) found rfl id).trans (.hold _ name _))
  | clone name => exact numbered.calm ((Calm.acquire w _).trans (.hold _ name _))
  | acquire name => exact numbered.calm ((Calm.acquire w _).trans (.hold _ name _))
  | letGo name => exact numbered.calm (.of_eq (standing_letGo w name) (letGo_frame w name).1)
  | _ => exact numbered.calm (.of_eq rfl rfl)

theorem Approach.numbered {happening : Happening} (approach : Approach w happening w')
    (numbered : Numbered w made) : Numbered w' made := by
  cases approach with
  | refused => exact numbered
  | seek scope first referred => exact numbered.calm ((Calm.acquire w _).trans (.spawn _ rfl rfl))
  | @lapse number task found =>
    exact numbered.calm (.setTask _ found (Task.target_lapse task) (by cases task <;> exact id))

theorem Numbered.undergo (numbered : Numbered w made) (kept : Kept w) (happening : Happening) :
    Numbered (w.undergo c happening) (made ++ watch installations c w happening) := by
  rcases watch_cases installations c w happening with
    ⟨number, eager, task, mid, task', -, found, stepped, after, seen⟩ | ⟨unseen, rest⟩
  · rw [after, seen]
    exact numbered.step kept found (stepTask_advance stepped)
  · rw [unseen, List.append_nil]
    rcases rest with ⟨move, rfl, incident⟩ | approach
    · exact incident.numbered kept.anchored numbered
    · exact approach.numbered numbered

end

theorem fresh_numbered (names : Nat → String) (supported : Bool) (limit : Nat) :
    Numbered (fresh names supported limit) [] := by
  refine ⟨.inl ⟨rfl, rfl⟩, ?_, fun _ => .inl rfl, ?_, rfl, rfl, rfl, ?_, ?_⟩ <;>
    simp [fresh, spawn, targets, Task.isLeaving, Task.target?, Task.making?]

theorem course_numbered (names : Nat → String) (supported : Bool) (limit : Nat)
    (happenings : List Happening) :
    let start := fresh names supported limit
    Numbered (start.course c happenings)
      (trace (undergo c) (watch installations c) start happenings) := by
  intro start
  have run := trace_induction (fun w made => Kept w ∧ Numbered w made) (fun _ => True)
    (fun {w made happening} _ before =>
      ⟨(before.1.undergo happening).1, before.2.undergo (c := c) before.1 happening⟩)
    ⟨fresh_kept names supported limit, fresh_numbered names supported limit⟩
    fun next (_ : next ∈ happenings) => trivial
  exact run.2

end Workspace

end PolicyServer
