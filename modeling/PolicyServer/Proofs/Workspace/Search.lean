import PolicyServer.Proofs.Workspace.Happenings

/-! The search for runners: what a step of a task does to what is known of them, told once for every
kind of task. -/

namespace PolicyServer

def ChangePhase.search? : ChangePhase → Option Preparation
  | .turn => none
  | .waiting preparation => some preparation

def Task.search? : Task → Option Preparation
  | .load preparation | .observe preparation => some preparation
  | .pass { phase := .preparing _ preparation, .. } => some preparation
  | task => task.waits?

/-- The snapshot that the resolver is asked about on behalf of a task. -/
def Task.asks? (task : Task) : Option Nat := task.search?.bind Preparation.asks?

/-- The change that a task is to make, once it has its turn, and the search that it waits for. -/
def Task.making? : Task → Option (StateChange × Preparation)
  | .change made _ (.waiting preparation) => some (made, preparation)
  | .documents (.changing made (.waiting preparation)) => some (made, preparation)
  | _ => none

theorem Readiness.isKnown_ofAnswer (request : Nat) (answer : Option ResolveError) :
    (Readiness.ofAnswer request answer).isKnown = true := by
  cases answer <;> rfl

theorem Readiness.isKnown_eq (readiness : Readiness) :
    readiness.isKnown = (readiness.runner?.isSome ^^ readiness.error?.isSome) ∧
    (readiness.isKnown = false → readiness.runner? = none ∧ readiness.error? = none) := by
  cases readiness with
  | unresolved => exact ⟨rfl, fun _ => ⟨rfl, rfl⟩⟩
  | _ => exact ⟨rfl, fun unknown => by cases unknown⟩

def PassPhase.isIdle : PassPhase → Bool
  | .preparing _ _ | .prepared _ => false
  | _ => true

theorem Task.search_of_isIdle {job : PassJob} (idle : job.phase.isIdle = true) :
    (Task.pass job).search? = none := by
  obtain ⟨pass, snapshot, message, phase⟩ := job
  cases phase <;> first | rfl | cases idle

theorem Task.asks_of_isIdle {job : PassJob} (idle : job.phase.isIdle = true) :
    (Task.pass job).asks? = none := by
  rw [Task.asks?, Task.search_of_isIdle idle]
  rfl

namespace Workspace

variable {c : Collaborators} {eager : Bool} {w w' : Workspace} {task : Task} {seq : Nat}

def readings (w : Workspace) : List Readiness := w.snapshots.map (·.readiness)

/-- What is known of the runners, and whether the resolver is at work. -/
structure Outlook where
  readings : List Readiness
  resolving : Bool

def outlook (w : Workspace) : Outlook := ⟨w.readings, w.resolving⟩

theorem readinessOf_eq (w : Workspace) (seq : Nat) :
    w.readinessOf seq = (w.readings[seq]?).getD .unresolved := by
  simp only [readinessOf, readings, List.getElem?_map]
  cases w.snapshots[seq]? <;> rfl

theorem readings_of_within (within : seq < w.snapshots.length) :
    w.readings[seq]? = some (w.readinessOf seq) := by
  have listed : seq < w.readings.length := by simpa [readings] using within
  rw [readinessOf_eq, List.getElem?_eq_getElem listed]
  rfl

theorem readinessOf_of_readings {readiness : Readiness} (listed : w.readings[seq]? = some readiness) :
    w.readinessOf seq = readiness := by
  rw [readinessOf_eq, listed]
  rfl

theorem readings_of_isKnown (known : (w.readinessOf seq).isKnown = true) :
    w.readings[seq]? = some (w.readinessOf seq) := by
  rw [readinessOf_eq] at known ⊢
  cases listed : w.readings[seq]? with
  | none => simp [listed, Readiness.isKnown] at known
  | some readiness => rfl

/-! ### What leaves the outlook alone -/

theorem map_acquire {view : Snapshot → α} (w : Workspace) (seq : Nat)
    (kept : ∀ snapshot refs, view { snapshot with refs } = view snapshot) :
    (w.acquire seq).snapshots.map view = w.snapshots.map view :=
  map_modifySnapshot w seq _ fun snapshot => kept snapshot _

theorem map_release {view : Snapshot → α} (w : Workspace) (seq : Nat)
    (kept : ∀ snapshot refs, view { snapshot with refs } = view snapshot) :
    (w.release seq).snapshots.map view = w.snapshots.map view := by
  have same := map_modifySnapshot w seq
    (fun snapshot => { snapshot with refs := snapshot.refs - 1 }) fun snapshot => kept snapshot _
  unfold release
  dsimp only
  -- The count of live snapshots may go down as well, which no view of them sees.
  split <;> exact same

theorem outlook_of_rim (same : w'.rim = w.rim) : w'.outlook = w.outlook :=
  eq_of_rim same outlook fun v => by simp [outlook, readings, rim, rimOf, Function.comp_def]

theorem current_afterChange (w : Workspace) (change : StateChange) (seq : Nat) :
    (w.afterChange change seq).current = w.current := by
  unfold afterChange
  split
  · exact (beginPass_frame w seq).1
  · exact (release_frame w seq).1

theorem outlook_install {previous : Nat} (within : previous < w.snapshots.length)
    (change : StateChange) :
    (w.install previous change).outlook =
      ⟨w.readings ++ [(w.readinessOf previous).inherited change.save], w.resolving⟩ := by
  have found := List.getElem?_eq_getElem within
  unfold install
  rw [found]
  rw [outlook_of_rim (rim_release _ previous)]
  simp [outlook, readings, readinessOf, found, Snapshot.successor]

theorem StatusStep.outlook_eq {work : Work} {verdict : Verdict} {stage : StatusPhase}
    {phase : PassPhase} (step : StatusStep w work verdict stage w' phase) :
    w'.outlook = w.outlook ∧ phase.isIdle = true := by
  have ended : w.endStatus.outlook = w.outlook := by
    unfold endStatus
    split <;> rfl
  cases step with
  | clears => exact ⟨ended, rfl⟩
  | begins => exact ⟨ended, rfl⟩
  | raises announced => exact ⟨(congrArg (outlook ·.2) announced).symm, rfl⟩
  | asks announced => exact ⟨(congrArg (outlook ·.2) announced).symm, rfl⟩
  | _ => exact ⟨rfl, rfl⟩

theorem FixAdvance.outlook_eq {job : FixJob} (step : FixAdvance c w job w' task) :
    w'.outlook = w.outlook := by
  cases step with
  | cancelled work => cases work <;> rfl
  | shown _ _ announced => exact (congrArg (outlook ·.2) announced).symm
  | asks _ _ announced => exact (congrArg (outlook ·.2) announced).symm
  | ends work outcome => cases outcome <;> rfl
  | _ => rfl

/-! ### A step of a task -/

/--
What a step of a pass does about the runner of its snapshot.

A pass that has looked for the runner is cancelled, reports that there is none, or invokes it.
-/
inductive PassPursuit (c : Collaborators) (w : Workspace) (job : PassJob) :
    Workspace → PassPhase → Prop where
  | aside {w' : Workspace} {phase : PassPhase} (before : job.phase.isIdle = true)
      (after : phase.isIdle = true) (same : w'.outlook = w.outlook) : PassPursuit c w job w' phase
  | begins {w' : Workspace} (work : Work) (before : job.phase.isIdle = true)
      (same : w'.outlook = w.outlook) :
    PassPursuit c w job w' (.preparing work { snapshot := job.snapshot, scope := .pass job.pass })
  | goesOn {w' : Workspace} {work : Work} {p q : Preparation}
      (looks : job.phase = .preparing work p) (inquiry : Inquiry c w p w' (some q)) :
    PassPursuit c w job w' (.preparing work q)
  | returns {w' : Workspace} {work : Work} {p : Preparation}
      (looks : job.phase = .preparing work p) (inquiry : Inquiry c w p w' none) :
    PassPursuit c w job w' (.prepared work)
  | cancelled {work : Work} (looked : job.phase = .prepared work)
      (ended : w.isEnded (.pass job.pass) = true) :
    PassPursuit c w job w.freeSlot (.ending work .cancelled)
  | lacks {work : Work} {message : String} (looked : job.phase = .prepared work)
      (awake : w.isEnded (.pass job.pass) = false)
      (unready : w.unreadiness job.snapshot = some message) :
    PassPursuit c w job w (.status work (.error message) .turn)
  | runs {work : Work} (due : Nat) (looked : job.phase = .prepared work)
      (awake : w.isEnded (.pass job.pass) = false) (ready : w.unreadiness job.snapshot = none) :
    PassPursuit c w job { w with runs := w.runs + 1 } (.running work w.runs due)

theorem PhaseStep.pursuit {job : PassJob} {phase : PassPhase}
    (step : PhaseStep c w job job.phase w' phase) : PassPursuit c w job w' phase := by
  obtain ⟨pass, snapshot, message, before⟩ := job
  -- From `queued` to `prepared` a pass has to do with its runner; all else is aside from that.
  cases step with
  | takesSettings => exact .aside rfl rfl (outlook_of_rim (rim_takeSettings w _))
  | shown announced => exact .aside rfl rfl (congrArg (outlook ·.2) announced).symm
  | asks announced => exact .aside rfl rfl (congrArg (outlook ·.2) announced).symm
  | admitted => exact .begins _ rfl rfl
  | looks inquiry => exact .goesOn rfl inquiry
  | looked inquiry => exact .returns rfl inquiry
  | cancelled ended => exact .cancelled rfl ended
  | lacks awake unready => exact .lacks rfl awake unready
  | runs awake ready => exact .runs _ rfl awake ready
  | tells step => exact .aside rfl step.outlook_eq.2 step.outlook_eq.1
  | _ => exact .aside rfl rfl rfl

/--
What a step of a task does about runners: the workspace after it, and what has become of the task.

A task may begin a search, go on with one or end it; a change that ends its search makes a snapshot,
which takes over what is known of the one before. All other steps leave the outlook alone.
-/
inductive Pursuit (c : Collaborators) (w : Workspace) (task : Task) : Workspace → Task → Prop where
  | aside {w' : Workspace} {task' : Task} (before : task.search? = none)
      (after : task'.search? = none) (same : w'.outlook = w.outlook) : Pursuit c w task w' task'
  | begins {w' : Workspace} {task' : Task} {p : Preparation} (before : task.search? = none)
      (after : task'.search? = some p) (idle : p.asks? = none) (same : w'.outlook = w.outlook) :
    Pursuit c w task w' task'
  | goesOn {w' : Workspace} {task' : Task} {p q : Preparation} (before : task.search? = some p)
      (after : task'.search? = some q) (inquiry : Inquiry c w p w' (some q)) :
    Pursuit c w task w' task'
  | returns {mid w' : Workspace} {task' : Task} {p : Preparation} (before : task.search? = some p)
      (after : task'.search? = none) (unmade : task.making? = none)
      (inquiry : Inquiry c w p mid none) (same : w'.outlook = mid.outlook) :
    Pursuit c w task w' task'
  | installs {mid w' : Workspace} {task' : Task} {p : Preparation} {change : StateChange}
      (before : task.making? = some (change, p)) (after : task'.search? = none)
      (inquiry : Inquiry c w p mid none) (current : w'.current = some w.snapshots.length)
      (same : w'.outlook =
        ⟨mid.readings ++ [(mid.readinessOf p.snapshot).inherited change.save], mid.resolving⟩) :
    Pursuit c w task w' task'

theorem ChangeAdvance.waits {change : StateChange} {scope : Scope} {phase phase' : ChangePhase}
    {task' : Task} (step : ChangeAdvance c w change scope phase w' (.waiting phase'))
    (before : task.search? = phase.search?) (after : task'.search? = phase'.search?) :
    Pursuit c w task w' task' := by
  cases step with
  | @start previous =>
    have same := outlook_of_rim (rim_beginChange w previous change.save)
    exact .begins before after rfl same
  | wait _ _ inquiry => exact .goesOn before after inquiry

theorem ChangeAdvance.installs {change : StateChange} {scope : Scope} {phase : ChangePhase}
    (step : ChangeAdvance c w change scope phase w' (.installed seq))
    (within : ∀ p ∈ phase.search?, p.snapshot < w.snapshots.length) :
    ∃ p mid, phase = .waiting p ∧ Inquiry c w p mid none ∧
      w'.current = some w.snapshots.length ∧ w'.outlook =
        ⟨mid.readings ++ [(mid.readinessOf p.snapshot).inherited change.save], mid.resolving⟩ := by
  cases step with
  | @install p mid _ inquiry =>
    have room : p.snapshot < mid.snapshots.length := by
      rw [inquiry.length_eq]
      exact within p rfl
    refine ⟨p, mid, rfl, inquiry, ?_, outlook_install room change⟩
    -- The view moves to the new snapshot, before the former one is released.
    unfold Workspace.install
    rw [List.getElem?_eq_getElem room, ← inquiry.length_eq]
    exact (release_frame _ _).1

theorem PassPursuit.pursuit {job : PassJob} {phase : PassPhase}
    (step : PassPursuit c w job w' phase) : Pursuit c w (.pass job) w' (.pass { job with phase }) := by
  obtain ⟨pass, snapshot, message, before⟩ := job
  cases step with
  | aside before after same =>
    exact .aside (Task.search_of_isIdle before) (Task.search_of_isIdle after) same
  | begins work before same => exact .begins (Task.search_of_isIdle before) rfl rfl same
  | goesOn looks inquiry =>
    cases looks
    exact .goesOn rfl rfl inquiry
  | returns looks inquiry =>
    cases looks
    exact .returns rfl rfl rfl inquiry rfl
  | cancelled looked =>
    cases looked
    exact .aside rfl rfl rfl
  | lacks looked =>
    cases looked
    exact .aside rfl rfl rfl
  | runs due looked =>
    cases looked
    exact .aside rfl rfl rfl

theorem stepTask_pursuit {task' : Task} (stepped : w.stepTask c eager task = some (w', task'))
    (spoken : ∀ seq ∈ task.mentions, seq < w.snapshots.length) : Pursuit c w task w' task' := by
  cases stepTask_advance stepped with
  | forward _ kind _ after =>
    subst after
    rcases kind with rfl | rfl <;> exact .aside rfl rfl rfl
  | load _ _ inquiry => exact .goesOn rfl rfl inquiry
  | loaded _ inquiry => exact .returns rfl rfl rfl inquiry (outlook_of_rim (rim_release _ _))
  | observe _ _ inquiry => exact .goesOn rfl rfl inquiry
  | observed _ inquiry => exact .returns rfl rfl rfl inquiry (outlook_of_rim (rim_release _ _))
  | take => exact .aside rfl rfl (outlook_of_rim (rim_acquire w _))
  | @changeWaits _ _ _ phase phase' step =>
    exact step.waits (by cases phase <;> rfl) (by cases phase' <;> rfl)
  | changeRefused step =>
    cases step
    exact .aside rfl rfl rfl
  | @changeInstalled _ _ _ phase _ step =>
    obtain ⟨p, mid, rfl, inquiry, current, same⟩ := step.installs fun p waits => by
      cases phase <;> cases waits
      exact spoken _ List.mem_cons_self
    exact .installs rfl rfl inquiry current same
  | pass _ step => exact step.pursuit.pursuit
  | passEnds complete _ told =>
    subst told
    exact .aside (Task.search_of_isIdle (by rw [complete]; rfl)) rfl
      ((outlook_of_rim (rim_release _ _)).trans rfl)
  | takeBefore => exact .aside rfl rfl (outlook_of_rim (rim_acquire w _))
  | readAll => exact .aside rfl rfl (outlook_of_rim (rim_release w _))
  | @workerWaits _ _ phase phase' step =>
    exact step.waits (by cases phase <;> rfl) (by cases phase' <;> rfl)
  | workerRefused step =>
    cases step
    exact .aside rfl rfl rfl
  | @workerInstalled _ _ phase _ step =>
    obtain ⟨p, mid, rfl, inquiry, current, same⟩ := step.installs fun p waits => by
      cases phase <;> cases waits
      exact spoken _ List.mem_cons_self
    -- What follows the change moves neither the view nor what is known of any runner.
    refine .installs rfl rfl inquiry ?_ ((outlook_of_rim (rim_afterChange _ _ _)).trans same)
    rw [current_afterChange]
    exact current
  | fix _ kind step =>
    rcases kind with ⟨job, rfl⟩ | ⟨outcome, rfl⟩ <;> exact .aside rfl rfl step.outlook_eq
  | stopReleased released => exact .aside rfl rfl (outlook_of_rim (rim_releaseCurrent released))
  | shutdownReleased released => exact .aside rfl rfl (outlook_of_rim (rim_releaseCurrent released))
  | shutdownIdled _ _ after =>
    subst after
    exact .aside rfl rfl rfl
  | _ => exact .aside rfl rfl rfl

end Workspace

end PolicyServer
