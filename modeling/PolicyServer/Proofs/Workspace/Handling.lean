import PolicyServer.Proofs.Workspace.Happenings

/-! What is done with references, and that a count which stops at every miscount never stops. -/

namespace PolicyServer

variable {seq : Nat}

/-- What is done with references: a snapshot is made along with the first reference to it, another one
is taken, or one is given back. -/
inductive Handling where
  | create
  | acquire (seq : Nat)
  | release (seq : Nat)
  deriving DecidableEq, Repr

/-- What stops the count: a reference is taken after the last one was given back, more are given back
than were taken, or a snapshot ends while none is counted as live. -/
inductive Miscount where
  | acquiredLate (seq : Nat)
  | releasedLate (seq : Nat)
  | noneLive (seq : Nat)
  deriving DecidableEq, Repr

/-- What is counted: the references of each snapshot and the live snapshots. `ended` lists the
snapshots whose end was told, in order. -/
structure Counts where
  refs : List Nat := []
  live : Nat := 0
  ended : List Nat := []
  deriving DecidableEq, Repr

namespace Counts

/-- The number of references to a snapshot; one that does not exist has none. -/
def refsOf (counts : Counts) (seq : Nat) : Nat := (counts.refs[seq]?).getD 0

/-- The counts after something is done with a reference, or the miscount that it is. The end of a
snapshot is told when its last reference is given back. -/
def handle (counts : Counts) : Handling → Except Miscount Counts
  | .create => .ok { counts with refs := counts.refs ++ [1], live := counts.live + 1 }
  | .acquire seq =>
    if counts.refsOf seq = 0 then .error (.acquiredLate seq)
    else .ok { counts with refs := counts.refs.modify seq (· + 1) }
  | .release seq =>
    if counts.refsOf seq = 0 then .error (.releasedLate seq)
    else
      let fewer := { counts with refs := counts.refs.modify seq (· - 1) }
      -- Only the last reference takes the snapshot with it.
      if counts.refsOf seq ≠ 1 then .ok fewer
      else if counts.live = 0 then .error (.noneLive seq)
      else .ok { fewer with live := counts.live - 1, ended := counts.ended ++ [seq] }

/-- The counts after all that is done with references, up to the first miscount. -/
def replay (counts : Counts) (handlings : List Handling) : Except Miscount Counts :=
  handlings.foldlM handle counts

variable {counts counts' : Counts}

theorem replay_append (counts : Counts) (before after : List Handling) :
    counts.replay (before ++ after) = (counts.replay before).bind (·.replay after) :=
  List.foldlM_append

/-- Each snapshot whose end was told has no reference left, and each was told of once. -/
structure Told (counts : Counts) : Prop where
  once : counts.ended.Nodup
  exact : ∀ seq, seq ∈ counts.ended ↔ seq < counts.refs.length ∧ counts.refsOf seq = 0

theorem refsOf_modify (refs : List Nat) (live : Nat) (ended : List Nat) (seq other : Nat)
    (change : Nat → Nat) (within : seq < refs.length) :
    (Counts.mk (refs.modify seq change) live ended).refsOf other =
      if seq = other then change ((refs[seq]?).getD 0) else (refs[other]?).getD 0 :=
  Workspace.getD_modify refs seq other change within

theorem within_of_refsOf (some : counts.refsOf seq ≠ 0) : seq < counts.refs.length := by
  by_contra outside
  rw [refsOf, List.getElem?_eq_none (Nat.le_of_not_lt outside)] at some
  exact some rfl

theorem Told.modify (told : Told counts) {change : Nat → Nat} (some : counts.refsOf seq ≠ 0)
    (still : change (counts.refsOf seq) ≠ 0) :
    Told { counts with refs := counts.refs.modify seq change } := by
  have within := within_of_refsOf some
  refine ⟨told.once, fun other => ?_⟩
  rw [refsOf_modify _ _ _ _ _ _ within, List.length_modify, told.exact other]
  by_cases same : seq = other
  · -- It had a reference and has one still, so neither count is zero.
    subst same
    simp only [refsOf] at some still ⊢
    simp only [if_true]
    omega
  · simp only [same, if_false]
    rfl

theorem Told.finish (told : Told counts) (last : counts.refsOf seq = 1) (live : Nat) :
    Told ⟨counts.refs.modify seq (· - 1), live, counts.ended ++ [seq]⟩ := by
  have within : seq < counts.refs.length := within_of_refsOf (by omega)
  -- While there was a reference, the snapshot was not told of.
  have absent : seq ∉ counts.ended := by
    rw [told.exact seq]
    omega
  refine ⟨?_, fun other => ?_⟩
  · rw [List.nodup_append]
    refine ⟨told.once, by simp, fun other member only listed => ?_⟩
    rw [List.mem_singleton.mp listed]
    rintro rfl
    exact absent member
  · rw [refsOf_modify _ _ _ _ _ _ within, List.length_modify, List.mem_append,
      List.mem_singleton, told.exact other]
    by_cases same : seq = other
    · subst same
      simp only [refsOf] at last ⊢
      simp only [last, within, if_true, or_true, and_self]
    · simp only [same, Ne.symm same, if_false, or_false]
      rfl

theorem Told.handle (told : Told counts) {handling : Handling}
    (counted : counts.handle handling = .ok counts') : Told counts' := by
  cases handling with
  | create =>
    cases counted
    refine ⟨told.once, fun seq => ?_⟩
    -- The new snapshot has its first reference; those before it are as they were.
    rw [told.exact seq]
    simp only [refsOf, List.length_append, List.length_singleton]
    rcases Nat.lt_trichotomy seq counts.refs.length with less | same | more
    · simp only [List.getElem?_append_left less, less, Nat.lt_succ_of_lt less]
    · subst same
      simp
    · omega
  | acquire seq =>
    simp only [Counts.handle] at counted
    split at counted
    · cases counted
    · rename_i some
      cases counted
      exact told.modify some (Nat.succ_ne_zero _)
  | release seq =>
    simp only [Counts.handle] at counted
    split at counted
    · cases counted
    · rename_i some
      split at counted
      · cases counted
        exact told.modify some (by omega)
      · rename_i last
        split at counted
        · cases counted
        · cases counted
          exact told.finish (by simpa using last) _

theorem Told.replay (told : Told counts) {handlings : List Handling}
    (counted : counts.replay handlings = .ok counts') : Told counts' := by
  induction handlings generalizing counts with
  | nil =>
    cases counted
    exact told
  | cons handling rest ih =>
    simp only [Counts.replay, List.foldlM_cons] at counted
    -- The count has not stopped at the first one.
    cases first : counts.handle handling with
    | error miscount =>
      rw [first] at counted
      cases counted
    | ok mid =>
      rw [first] at counted
      exact ih (told.handle first) counted

end Counts

namespace Workspace

variable {c : Collaborators} {eager : Bool} {w w' w'' : Workspace}

def counts (w : Workspace) (ended : List Nat) : Counts := ⟨w.refCounts, w.live, ended⟩

theorem refsOf_counts (w : Workspace) (ended : List Nat) (seq : Nat) :
    (w.counts ended).refsOf seq = w.refsOf seq := rfl

/-- From one workspace to another just this was done with references, and none of it miscounted. -/
def Handles (w w' : Workspace) (handlings : List Handling) : Prop :=
  ∀ ended, ∃ more, (w.counts ended).replay handlings = .ok (w'.counts (ended ++ more))

theorem Balanced.lives {who : List Nat} (balanced : Balanced w who) (referred : 0 < w.refsOf seq) :
    0 < w.live := by
  rw [balanced.live, List.countP_pos_iff]
  have within := within_of_refsOf referred
  refine ⟨w.refCounts[seq], List.getElem_mem within, ?_⟩
  simpa [refsOf, List.getElem?_eq_getElem within] using referred

namespace Handles

theorem of_eq (refs : w'.refCounts = w.refCounts) (live : w'.live = w.live) : Handles w w' [] := by
  intro ended
  refine ⟨[], ?_⟩
  simp only [counts, refs, live, List.append_nil]
  rfl

theorem trans {before after : List Handling} (first : Handles w w' before)
    (second : Handles w' w'' after) : Handles w w'' (before ++ after) := by
  intro ended
  obtain ⟨more, counted⟩ := first ended
  obtain ⟨most, counted'⟩ := second (ended ++ more)
  refine ⟨more ++ most, ?_⟩
  rw [Counts.replay_append, counted, ← List.append_assoc]
  exact counted'

theorem congr {handlings : List Handling} (handles : Handles w w' handlings)
    (refs : w''.refCounts = w'.refCounts) (live : w''.live = w'.live) :
    Handles w w'' handlings := by
  intro ended
  obtain ⟨more, counted⟩ := handles ended
  exact ⟨more, by rw [counted, counts, counts, refs, live]⟩

theorem acquire (referred : 0 < w.refsOf seq) :
    Handles w (w.acquire seq) [.acquire seq] := by
  intro ended
  have some : (w.counts ended).refsOf seq ≠ 0 := Nat.ne_of_gt referred
  have refs : (w.acquire seq).refCounts = w.refCounts.modify seq (· + 1) :=
    refCounts_modifySnapshot w seq fun _ => rfl
  -- The count goes on without a halt, and no end is told.
  refine ⟨[], ?_⟩
  simp only [Counts.replay, List.foldlM_cons, Counts.handle, some, if_false, List.append_nil]
  simp only [counts, refs]
  rfl

theorem release (referred : 0 < w.refsOf seq) (lives : 0 < w.live) :
    Handles w (w.release seq) [.release seq] := by
  intro ended
  have some : (w.counts ended).refsOf seq ≠ 0 := Nat.ne_of_gt referred
  have refs := refCounts_release w seq
  have one : (w.snapshots[seq]?).any (·.refs = 1) = decide (w.refsOf seq = 1) := by
    simp only [Workspace.refsOf, refCounts, List.getElem?_map]
    cases w.snapshots[seq]? <;> simp
  by_cases last : w.refsOf seq = 1
  · -- The last reference goes, and with it one of the live snapshots.
    have live : (w.release seq).live = w.live - 1 := by
      simp only [Workspace.release, one, last, decide_true, if_true]
      rfl
    have last' : ¬ (w.counts ended).refsOf seq ≠ 1 := fun more => more last
    have positive : (w.counts ended).live ≠ 0 := Nat.ne_of_gt lives
    refine ⟨[seq], ?_⟩
    simp only [Counts.replay, List.foldlM_cons, Counts.handle, some, last', positive, if_false]
    simp only [counts, refs, live]
    rfl
  · -- Others refer to the snapshot still.
    have live : (w.release seq).live = w.live := by
      simp only [Workspace.release, one, last, decide_false]
      rfl
    have more : (w.counts ended).refsOf seq ≠ 1 := last
    refine ⟨[], ?_⟩
    simp only [Counts.replay, List.foldlM_cons, Counts.handle, some, more, if_false, if_true,
      ne_eq, not_false_eq_true, List.append_nil]
    simp only [counts, refs, live]
    rfl

theorem create (refs : w'.refCounts = w.refCounts ++ [1]) (live : w'.live = w.live + 1) :
    Handles w w' [.create] := by
  intro ended
  refine ⟨[], ?_⟩
  simp only [counts, refs, live, List.append_nil]
  rfl

theorem install (balanced : Balanced w w.holders) {previous : Nat}
    (here : w.current = some previous) (change : StateChange) :
    Handles w (w.install previous change)
      [.create, .acquire w.snapshots.length, .release previous] := by
  have held : previous ∈ w.holders := by simp [holders, here]
  have referred := balanced.referred held
  have within : previous < w.snapshots.length := by
    simpa [refCounts] using Workspace.within_of_refsOf referred
  unfold Workspace.install
  rw [List.getElem?_eq_getElem within]
  -- The new snapshot is made with one reference and gets another; then the former one loses one.
  have made : ∀ next : Snapshot, Handles w
      { w with snapshots := w.snapshots ++ [{ next with refs := 1 }], live := w.live + 1 }
      [.create] := fun next => .create (by simp [refCounts]) rfl
  have added : ∀ next : Snapshot, Handles w
      { w with
        changing := false
        snapshots := w.snapshots ++ [{ next with refs := 2 }]
        current := some w.snapshots.length
        live := w.live + 1 } [.create, .acquire w.snapshots.length] := by
    intro next
    have own : 0 < Workspace.refsOf
        { w with snapshots := w.snapshots ++ [{ next with refs := 1 }], live := w.live + 1 }
        w.snapshots.length := by
      simp [Workspace.refsOf, refCounts]
    refine ((made next).trans (.acquire own)).congr ?_ rfl
    simp [refCounts, Workspace.acquire, modifySnapshot, List.modify_eq_set_getElem?]
  refine (added _).trans (.release ?_ (Nat.succ_pos _))
  simp only [Workspace.refsOf, refCounts, List.map_append] at referred ⊢
  rw [List.getElem?_append_left (by simpa using within)]
  exact referred

theorem openView (empty : w.snapshots = []) (idle : w.live = 0) :
    Handles w w.openView [.create, .acquire 0, .acquire 0] := by
  have made : Handles w { w with snapshots := [{ refs := 1 }], live := 1 } [.create] :=
    .create (by simp [refCounts, empty]) (by simp [idle])
  have added := made.trans (.acquire (show 0 < Workspace.refsOf _ 0 from Nat.one_pos))
  exact (added.trans (.acquire (show 0 < Workspace.refsOf _ 0 from Nat.two_pos))).congr rfl rfl

theorem releaseCurrent (balanced : Balanced w w.holders) (released : w.releaseCurrent = some w') :
    Handles w w' (w.current.toList.map .release) := by
  obtain ⟨-, ⟨gone, rfl⟩ | ⟨seq, here, rfl⟩⟩ := releaseCurrent_cases released
  · rw [gone]
    exact .of_eq rfl rfl
  · have referred := balanced.referred (show seq ∈ w.holders by simp [holders, here])
    rw [here]
    exact (Handles.release referred (balanced.lives referred)).congr rfl rfl

theorem letGo (spare : List Nat) (balanced : Balanced w (spare ++ w.holders)) (name : String) :
    Handles w (w.letGo name) ((w.held.lookup name).toList.map .release) := by
  unfold Workspace.letGo
  cases found : w.held.lookup name with
  | none => exact .of_eq rfl rfl
  | some seq =>
    -- What a name stands for is held, hence referred to.
    obtain ⟨before, after, split, -⟩ := List.lookup_eq_some_iff.mp found
    have listed : seq ∈ w.held.map (·.2) := by simp [split]
    have referred := balanced.referred (show seq ∈ spare ++ w.holders by simp [holders, listed])
    exact (Handles.release referred (balanced.lives referred)).congr rfl rfl

end Handles

/-! ### What is done in a step -/

/-- What a step of a task does with references, as the task before and after it tells. -/
def handlingsOf (w : Workspace) : Task → Task → List Handling
  | .load p, .finished _ => [.release p.snapshot]
  | .observe p, .finished _ => [.release p.snapshot]
  | .take, .finished (.snapshot seq) => [.acquire seq]
  | .change _ _ (.waiting p), .finished (.snapshot seq) =>
    [.create, .acquire seq, .release p.snapshot]
  | .pass job, .finished _ => [.release job.snapshot]
  | .documents (.taking _), .documents (.reading _ seq _ _) => [.acquire seq]
  | .documents (.reading _ seq _ _), .documents (.changing _ _) => [.release seq]
  | .documents (.changing change (.waiting p)), .documents .idle =>
    let seq := w.snapshots.length
    -- The pass after a save keeps the worker's reference.
    [.create, .acquire seq, .release p.snapshot] ++ if change.save then [] else [.release seq]
  | .stop .releasing, .finished _ => w.current.toList.map .release
  | .shutdown .releasing, .shutdown _ => w.current.toList.map .release
  | _, _ => []

variable {number : Nat} {task task' : Task}

theorem Handles.of_bare (same : w'.bare = w.bare) : Handles w w' [] :=
  .of_eq (refCounts_of_bare same) (eq_of_bare same (·.live) fun _ => rfl)

theorem ChangeAdvance.handles {change : StateChange} {scope : Scope} {phase : ChangePhase}
    {step : ChangeStep} (advance : ChangeAdvance c w change scope phase w' step)
    (unmade : ∀ seq, step ≠ .installed seq) : Handles w w' [] := by
  cases advance with
  | refuse => exact .of_eq rfl rfl
  | @start previous => exact .of_eq (refCounts_beginChange w _ _) (live_beginChange w _ _)
  | wait same => exact .of_bare same
  | install => exact absurd rfl (unmade _)

theorem ChangeAdvance.handlesInstall {change : StateChange} {scope : Scope} {phase : ChangePhase}
    (advance : ChangeAdvance c w change scope phase w' (.installed seq)) (custody : Custody w)
    (found : w.tasks[number]? = some task)
    (waited : task.waits? = match phase with | .turn => none | .waiting p => some p) :
    ∃ p, phase = .waiting p ∧ seq = w.snapshots.length ∧
      Handles w w' [.create, .acquire seq, .release p.snapshot] := by
  cases advance with
  | @install p mid same =>
    -- A change that waits does so at the current snapshot.
    have here : mid.current = some p.snapshot :=
      (eq_of_bare same (·.current) fun _ => rfl).trans (custody.gated.busy found waited).2
    have made := Handles.install (custody.of_bare same).balanced here change
    exact ⟨p, rfl, length_of_bare same, (Handles.of_bare same).trans made⟩

theorem Handles.afterChange (balanced : Balanced w (seq :: w.holders)) (change : StateChange) :
    Handles w (w.afterChange change seq) (if change.save then [] else [.release seq]) := by
  unfold Workspace.afterChange
  split
  · exact .of_eq (refCounts_beginPass w seq) (live_beginPass w seq)
  · have referred := balanced.referred List.mem_cons_self
    exact .release referred (balanced.lives referred)

theorem Advance.handles (advance : Advance c w task w' task') (custody : Custody w)
    (found : w.tasks[number]? = some task) : Handles w w' (w.handlingsOf task task') := by
  have balanced := custody.balanced
  -- The view and the tasks hold what they refer to, so that it can be taken again or given back.
  have taken : ∀ {seq : Nat}, w.current = some seq → Handles w (w.acquire seq) [.acquire seq] :=
    fun here => .acquire (balanced.referred (by simp [holders, here]))
  have given : ∀ {mid : Workspace} {seq : Nat}, mid.bare = w.bare → task.holds = [seq] →
      Handles w (mid.release seq) [.release seq] := by
    intro mid seq same mine
    have held : seq ∈ w.holders := by
      refine List.mem_append_right _ (List.mem_flatMap.mpr ⟨task, List.mem_of_getElem? found, ?_⟩)
      simp [mine]
    have balanced' : Balanced mid w.holders :=
      balanced.congr (refCounts_of_bare same) (eq_of_bare same (·.live) fun _ => rfl)
    have referred := balanced'.referred held
    exact (Handles.of_bare same).trans (.release referred (balanced'.lives referred))
  -- Each step that takes a reference or gives one back is told of by the tasks before and after it.
  cases advance with
  | forward same kind => rcases kind with rfl | rfl <;> exact .of_bare same
  | load same => exact .of_bare same
  | loaded same => exact given same rfl
  | observe same => exact .of_bare same
  | observed same => exact given same rfl
  | take _ here => exact taken here
  | @changeWaits _ _ _ phase _ step =>
    have idle := step.handles fun _ same => by cases same
    cases phase <;> exact idle
  | @changeRefused _ _ _ phase step =>
    have idle := step.handles fun _ same => by cases same
    cases phase <;> exact idle
  | @changeInstalled _ _ _ phase seq step =>
    obtain ⟨p, rfl, -, made⟩ := step.handlesInstall custody found (by cases phase <;> rfl)
    exact made
  | pass step =>
    cases step with
    | unseen _ _ _ _ same => exact .of_bare same
    | _ => exact .of_eq rfl rfl
  | passEnds _ same => exact given same rfl
  | takeBefore _ here => exact taken here
  | readAll => exact given rfl rfl
  | @workerWaits _ _ phase phase' step =>
    have idle := step.handles fun _ same => by cases same
    cases phase <;> exact idle
  | @workerRefused _ _ phase step =>
    -- Only a change that has not had its turn is refused.
    cases step
    exact .of_eq rfl rfl
  | @workerInstalled mid change phase seq step =>
    -- The maker's reference to the new snapshot is at hand for what follows.
    obtain ⟨spare, -⟩ := step.installed custody found (by cases phase <;> rfl)
    obtain ⟨p, rfl, rfl, made⟩ := step.handlesInstall custody found (by cases phase <;> rfl)
    exact made.trans (.afterChange spare change)
  | fix same kind => rcases kind with ⟨job, rfl⟩ | ⟨outcome, rfl⟩ <;> exact .of_bare same
  | stopReleased released => exact .releaseCurrent balanced released
  | shutdownReleased released => exact .releaseCurrent balanced released
  | shutdownIdled _ same => exact .of_bare same
  | _ => exact .of_eq rfl rfl

/-! ### What is done whatever happens -/

def lettingGo (w : Workspace) (name : String) : List Handling :=
  (w.held.lookup name).toList.map .release

def opening : List Handling := [.create, .acquire 0, .acquire 0]

/-- What a move does with references. A name that is kept anew gives back what it stood for. -/
def handlings (c : Collaborators) (w : Workspace) : Move → List Handling
  | .step number eager =>
    match w.tasks[number]? with
    | none => []
    | some task =>
      match w.stepTask c eager task with
      | none => []
      | some (_, after) => w.handlingsOf task after
  | .hear .initialized => if w.lifecycle = .initializing then opening else []
  | .openView name =>
    if w.lifecycle = .created ∧ w.snapshots = [] then opening ++ w.lettingGo name else []
  | .beginPass seq _ => if w.isReferred seq then [.acquire seq] else []
  | .observe seq _ => if w.isReferred seq then [.acquire seq] else []
  | .keep name number =>
    match w.tasks[number]? with
    | some (.finished (.snapshot _)) => w.lettingGo name
    | _ => []
  | .clone name seq => if w.isReferred seq then .acquire seq :: w.lettingGo name else []
  | .acquire name =>
    match w.changing, w.current with
    | false, some seq => .acquire seq :: w.lettingGo name
    | _, _ => []
  | .letGo name => w.lettingGo name
  | _ => []

def handlingsIn (c : Collaborators) (w : Workspace) : Happening → List Handling
  | .move move => w.handlings c move
  | .seek seq _ _ => if w.isReferred seq then [.acquire seq] else []
  | .lapse _ => []

theorem Handles.hold (spare : AtHand w seq) (name : String) :
    Handles w (w.hold name seq) (w.lettingGo name) :=
  (Handles.letGo [seq] spare.balanced name).congr rfl rfl

theorem Handles.endScope (scope : Scope) : Handles w (w.endScope scope) [] := by
  cases scope <;> exact .of_eq rfl rfl

theorem Handles.enterSession (kept : Kept w) (stage : w.lifecycle = .initializing) :
    Handles w w.enterSession opening := by
  have empty := kept.anchored.early stage
  have idle := kept.custody.balanced.idle_of_empty empty
  have entered : Handles w { w with lifecycle := .initialized } [] := .of_eq rfl rfl
  have opened : Handles { w with lifecycle := .initialized } _ opening := .openView empty idle
  unfold Workspace.enterSession
  rw [if_pos stage]
  exact (entered.trans opened).congr (refCounts_beginPass _ 0) (live_beginPass _ 0)

theorem Handles.hear (kept : Kept w) (news : News) :
    Handles w (w.hear news) (w.handlings c (.hear news)) := by
  have queued : ∀ modification, Handles w (w.takeModification modification) [] := by
    intro modification
    unfold takeModification
    split <;> exact .of_eq rfl rfl
  cases news with
  | initialized =>
    simp only [Workspace.hear, handlings]
    split
    · rename_i stage
      exact .enterSession kept stage
    · rename_i other
      simp only [Workspace.enterSession, if_neg other]
      exact .of_eq rfl rfl
  | exit => exact .of_eq rfl rfl
  | changed document changes =>
    simp only [Workspace.hear, handlings]
    split
    · exact .of_eq rfl rfl
    · exact queued _
  | cancelWork token =>
    simp only [Workspace.hear, handlings, cancelWork]
    split
    · rename_i scope _
      exact .endScope scope
    · exact .of_eq rfl rfl
  | _ => exact queued _

theorem Handles.keepResult (custody : Custody w) (name : String) (number : Nat) :
    Handles w (w.keepResult name number) (w.handlings c (.keep name number)) := by
  simp only [handlings, Workspace.keepResult]
  cases found : w.tasks[number]? with
  | none => exact .of_eq rfl rfl
  | some task =>
    cases task with
    | finished done =>
      cases done with
      | snapshot seq =>
        have set : Handles w { w with tasks := w.tasks.set number (.finished .nothing) } [] :=
          .of_eq rfl rfl
        exact set.trans (.hold (custody.takeResult found) name)
      | _ => exact .of_eq rfl rfl
    | _ => exact .of_eq rfl rfl

theorem act_handles (kept : Kept w) (move : Move) :
    Handles w (w.act c move) (w.handlings c move) := by
  have custody := kept.custody
  have spare : ∀ {seq : Nat}, w.isReferred seq = true → AtHand (w.acquire seq) seq :=
    fun referred => custody.acquire (custody.holder_of_isReferred referred)
  -- A move is a step, has to do with references, or leaves them alone.
  cases move with
  | step number eager =>
    simp only [act, handlings, step, Option.bind_eq_bind]
    cases found : w.tasks[number]? with
    | none => exact .of_eq rfl rfl
    | some task =>
      cases stepped : w.stepTask c eager task with
      | none =>
        simp only [Option.bind_some, stepped]
        exact .of_eq rfl rfl
      | some after =>
        -- Setting the task to what it has become changes no count.
        have handled := (stepTask_advance stepped).handles custody found
        simp only [Option.bind_some, stepped]
        exact handled.congr rfl rfl
  | hear news => exact .hear kept news
  | openView name =>
    simp only [act, handlings]
    split
    · rename_i new
      have idle := custody.balanced.idle_of_empty new.2
      exact (Handles.openView new.2 idle).trans (.hold (custody.openView new.2) name)
    · exact .of_eq rfl rfl
  | beginPass seq message =>
    simp only [act, handlings]
    split
    · rename_i referred
      -- The pass keeps the reference that is taken for it.
      have taken := Handles.acquire (isReferred_iff.mp referred)
      exact taken.congr (refCounts_beginPass _ seq) (live_beginPass _ seq)
    · exact .of_eq rfl rfl
  | observe seq scope =>
    simp only [act, handlings]
    split
    · rename_i referred
      exact (Handles.acquire (isReferred_iff.mp referred)).congr rfl rfl
    · exact .of_eq rfl rfl
  | keep name number => exact .keepResult custody name number
  | clone name seq =>
    simp only [act, handlings]
    split
    · rename_i referred
      exact (Handles.acquire (isReferred_iff.mp referred)).trans (.hold (spare referred) name)
    · exact .of_eq rfl rfl
  | acquire name =>
    simp only [act, handlings, holdCurrent]
    cases w.changing with
    | true => exact .of_eq rfl rfl
    | false =>
      cases here : w.current with
      | none => exact .of_eq rfl rfl
      | some seq =>
        have held : seq ∈ w.holders := by simp [holders, here]
        have taken := custody.acquire held
        exact (Handles.acquire (custody.balanced.referred held)).trans (.hold taken name)
  | letGo name => exact .letGo [] custody.balanced name
  | cancelPass number => exact .of_eq rfl rfl
  | handshake params =>
    simp only [act, handlings]
    split
    · unfold handshake
      split <;> exact .of_eq rfl rfl
    · exact .of_eq rfl rfl
  | giveUp number => exact .of_eq rfl rfl
  | settle outcome =>
    simp only [act, handlings, settleSettings]
    split <;> exact .of_eq rfl rfl
  | _ => exact .of_eq rfl rfl

theorem undergo_handles (kept : Kept w) (happening : Happening) :
    Handles w (w.undergo c happening) (w.handlingsIn c happening) := by
  cases happening with
  | move move => exact act_handles kept move
  | seek seq scope first =>
    simp only [undergo, handlingsIn]
    split
    · rename_i referred
      exact (Handles.acquire (isReferred_iff.mp referred)).congr rfl rfl
    · exact .of_eq rfl rfl
  | lapse number => exact .of_eq rfl rfl

theorem course_handles (kept : Kept w) (happenings : List Happening) :
    Handles w (w.course c happenings) (trace (undergo c) (handlingsIn c) w happenings) := by
  induction happenings generalizing w with
  | nil => exact .of_eq rfl rfl
  | cons happening rest ih =>
    exact (undergo_handles kept happening).trans (ih (kept.undergo happening).1)

/--
References are counted right, whatever happens to a workspace.

Each snapshot counts those that hold it, the view included, and the live ones are those that anybody
holds. All that is done with references from the start, counted with a halt at every miscount, gives
these counts without a halt; and the end of a snapshot is told once, with its last reference. A
reference can be handed on just where somebody has one.
-/
theorem references_counted_right (c : Collaborators) (names : Nat → String) (supported : Bool)
    (limit : Nat) (happenings : List Happening) :
    let start := fresh names supported limit
    let w := start.course c happenings
    let log := trace (undergo c) (handlingsIn c) start happenings
    (∀ seq, w.refsOf seq = w.holders.count seq) ∧
    w.live = w.snapshots.countP (0 < ·.refs) ∧
    (∃ ended, Counts.replay {} log = .ok ⟨w.snapshots.map (·.refs), w.live, ended⟩ ∧
      ended.Nodup ∧ ∀ seq, seq ∈ ended ↔ seq < w.snapshots.length ∧ w.refsOf seq = 0) ∧
    ∀ seq, w.isReferred seq = true ↔ seq ∈ w.holders := by
  intro start w log
  have initial : Kept start := fresh_kept names supported limit
  have custody : Custody w := (initial.course happenings).custody
  refine ⟨custody.balanced.refs, ?_, ?_, fun seq => ⟨custody.holder_of_isReferred, fun held => ?_⟩⟩
  · rw [custody.balanced.live, refCounts, List.countP_map]
    rfl
  · -- The count of the whole course starts from nothing told.
    obtain ⟨ended, counted⟩ := course_handles (c := c) initial happenings []
    have told : Counts.Told (start.counts []) := ⟨List.nodup_nil, fun seq => by
      simp [counts, refCounts, start, fresh, spawn]⟩
    have told' := told.replay counted
    refine ⟨ended, counted, told'.once, fun seq => ?_⟩
    have listed := told'.exact seq
    rw [refsOf_counts] at listed
    simpa [counts, refCounts] using listed
  · exact isReferred_iff.mpr (custody.balanced.referred held)

end Workspace

end PolicyServer
