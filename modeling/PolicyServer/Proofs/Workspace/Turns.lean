import PolicyServer.Proofs.Workspace.Sightings
import PolicyServer.Proofs.Workspace.Surface

/-! Turns: what tasks take turns at is had by one of them while it is taken, and by none otherwise. -/

namespace PolicyServer

variable {turn : Turn}

namespace PassPhase

theorem idle_of_isEarly {phase : PassPhase} (early : phase.isEarly = true) :
    phase.isSending = false ∧ phase.isFlagging = false := by
  cases phase <;> first | exact ⟨rfl, rfl⟩ | cases early

theorem idle_of_isCleared {phase : PassPhase} (cleared : phase.isCleared = true) :
    phase.isFlagging = false := by
  cases phase <;> first | rfl | cases cleared

theorem isFlagging_of_stage {work : Work} {verdict : Verdict} {stage : StatusPhase}
    (turn : stage ≠ .turn) : (PassPhase.status work verdict stage).isFlagging = true := by
  cases stage with
  | turn => exact absurd rfl turn
  | _ => rfl

end PassPhase

namespace Task

/-- Holds for a task that has its turn. Slots are handed out several at a time, so that no task has
the turn at them. -/
def hasTurn : Turn → Task → Bool
  | .snapshot, task => task.waits?.isSome
  | .resolver, task => task.asks?.isSome
  | .publications, .pass job => job.phase.isSending
  | .status, .pass job => job.phase.isFlagging
  | _, _ => false

def isNew : Task → Bool
  | .load preparation => preparation.phase = .turn
  | .observe preparation => preparation.phase = .load
  | .pass job =>
    match job.phase with
    | .configuring | .announcing => true
    | _ => false
  | .take | .mark _ | .change _ _ .turn | .documents .idle | .fix _ | .stop .telling
  | .shutdown .telling | .awaitIdle => true
  | _ => false

def isAside : Task → Bool
  | .fix _ | .finished _ => true
  | _ => false

theorem hasTurn_of_isNew {task : Task} (new : task.isNew = true) (turn : Turn) :
    task.hasTurn turn = false := by
  cases task with
  | load preparation =>
    have phase : preparation.phase = .turn := by simpa [isNew] using new
    cases turn <;> simp [hasTurn, waits?, asks?, search?, Preparation.asks?, phase]
  | observe preparation =>
    have phase : preparation.phase = .load := by simpa [isNew] using new
    cases turn <;> simp [hasTurn, waits?, asks?, search?, Preparation.asks?, phase]
  | pass job =>
    obtain ⟨pass, snapshot, message, phase⟩ := job
    cases phase with
    | configuring => cases turn <;> rfl
    | announcing => cases turn <;> rfl
    | _ => cases new
  | change made scope phase =>
    cases phase with
    | turn => cases turn <;> rfl
    | waiting => cases new
  | documents phase =>
    cases phase with
    | idle => cases turn <;> rfl
    | _ => cases new
  | _ => first | cases new; done | cases turn <;> rfl

theorem hasTurn_of_isAside {task : Task} (aside : task.isAside = true) (turn : Turn) :
    task.hasTurn turn = false := by
  cases task <;> first | cases aside; done | cases turn <;> rfl

theorem hasTurn_of_other {task : Task} (kind : turn = .publications ∨ turn = .status)
    (apart : task.job? = none) : task.hasTurn turn = false := by
  rcases kind with rfl | rfl <;> cases task <;> first | rfl | cases apart

end Task

namespace Workspace

variable {c : Collaborators} {eager : Bool} {w w' : Workspace} {number : Nat} {task task' : Task}
  {tasks : List Task}

def isTaken (w : Workspace) : Turn → Bool
  | .snapshot => w.changing
  | .resolver => w.resolving
  | .publications => w.publishing
  | .status => w.flagging
  | .slot => false

/-! ### Where no task goes on -/

/-- Tasks may be started, and one that takes no turns may become another such, as a fix does that is given
up and a snapshot that is taken; the outcome of a pass stays as it is. -/
inductive Shift (tasks : List Task) : List Task → Prop where
  | starts (new : List Task) (fresh : ∀ task ∈ new, task.isNew = true) :
    Shift tasks (tasks ++ new)
  | sets {number : Nat} {task : Task} (task' : Task) (found : tasks[number]? = some task)
      (aside : task.isAside = true) (aside' : task'.isAside = true)
      (other : ∀ outcome, task ≠ .finished (.outcome outcome))
      (other' : ∀ outcome, task' ≠ .finished (.outcome outcome))
      (kind : task' = task.giveUp ∨ ∃ seq, task = .finished (.snapshot seq)) :
    Shift tasks (tasks.set number task')

theorem Shift.refl (tasks : List Task) : Shift tasks tasks := by
  have none := @Shift.starts tasks [] (by simp)
  rwa [List.append_nil] at none

theorem Shift.spawn (w : Workspace) (new : task.isNew = true) :
    Shift w.tasks (w.spawn task).tasks :=
  .starts [task] (by simpa using new)

theorem Shift.mem {tasks' : List Task} (shift : Shift tasks tasks') (member : task ∈ tasks)
    (other : task.isAside = false) : task ∈ tasks' := by
  cases shift with
  | starts new => exact List.mem_append_left _ member
  | @sets place former task' found aside aside' =>
    obtain ⟨number, here⟩ := List.mem_iff_getElem?.mp member
    have apart : place ≠ number := by
      rintro rfl
      rw [Option.some.inj (found.symm.trans here), other] at aside
      cases aside
    exact List.mem_of_getElem? ((List.getElem?_set_ne apart).trans here)

theorem Incident.shift {move : Move} (incident : Incident w move w') : Shift w.tasks w'.tasks := by
  cases incident with
  | enter =>
    unfold enterSession
    split
    · -- The first attempt at a runner, the worker and the first pass are started.
      simp only [Workspace.spawn, (beginPass_frame _ _).2.2.1, Workspace.openView, List.append_assoc]
      refine .starts _ fun task member => ?_
      simp only [List.mem_append, List.mem_singleton] at member
      rcases member with rfl | rfl | rfl <;> rfl
    · exact .refl _
  | spawn _ asked => cases asked <;> exact .spawn w rfl
  | endScope _ scope => cases scope <;> exact .refl _
  | giveUp found => exact .sets _ found rfl rfl (by simp) (by simp) (.inl rfl)
  | openView name =>
    rw [hold_tasks]
    exact .spawn _ rfl
  | beginPass message =>
    simp only [startPass, Workspace.spawn, (beginPass_frame _ _).2.2.1]
    exact .starts _ (by simp [Task.isNew])
  | observe scope => exact .spawn (w.acquire _) rfl
  | @keep name number seq found =>
    rw [hold_tasks]
    exact .sets _ found rfl rfl (by simp) (by simp) (.inr ⟨seq, rfl⟩)
  | clone name =>
    rw [hold_tasks]
    exact .refl _
  | acquire name =>
    rw [hold_tasks]
    exact .refl _
  | letGo name =>
    rw [(letGo_frame w name).1]
    exact .refl _
  | _ => exact .refl _

theorem Incident.isTaken {move : Move} (incident : Incident w move w') (turn : Turn) :
    w'.isTaken turn = w.isTaken turn :=
  congrFun (congrArg Workspace.isTaken incident.steady.rim) turn

/-! ### What a step does to a turn -/

/-- What a step of a task does to a turn: nothing, or the task takes it while it is free, or gives it
back. -/
inductive Handover (turn : Turn) (w : Workspace) (task : Task) (w' : Workspace) (task' : Task) :
    Prop where
  | same (taken : w'.isTaken turn = w.isTaken turn) (has : task'.hasTurn turn = task.hasTurn turn)
  | takes (free : w.isTaken turn = false) (taken : w'.isTaken turn = true)
      (before : task.hasTurn turn = false) (after : task'.hasTurn turn = true)
  | gives (free : w'.isTaken turn = false) (before : task.hasTurn turn = true)
      (after : task'.hasTurn turn = false)

def ChangeStep.hasTurn : ChangeStep → Bool
  | .waiting (.waiting _) => true
  | _ => false

theorem ChangeAdvance.handover {change : StateChange} {scope : Scope} {phase : ChangePhase}
    {step : ChangeStep} (advance : ChangeAdvance c w change scope phase w' step)
    (before : task.hasTurn .snapshot = phase.search?.isSome)
    (after : task'.hasTurn .snapshot = step.hasTurn) : Handover .snapshot w task w' task' := by
  cases advance with
  | refuse => exact .same rfl (after.trans before.symm)
  | start free => exact .takes free (beginChange_frame w _ change.save).2.2.2.1 before after
  | wait same => exact .same (eq_of_bare same (·.changing) fun _ => rfl) (after.trans before.symm)
  | @install p mid =>
    refine .gives ?_ before after
    unfold Workspace.install
    split
    · rfl
    · exact (release_frame _ p.snapshot).2.2.2.1

theorem Advance.handoverSnapshot (advance : Advance c w task w' task') :
    Handover .snapshot w task w' task' := by
  have quiet : ∀ {v : Workspace} {after : Task}, v.changing = w.changing →
      task.hasTurn .snapshot = false → after.hasTurn .snapshot = false →
      Handover .snapshot w task v after :=
    fun changing before after => .same changing (after.trans before.symm)
  have bare : ∀ {v : Workspace}, v.bare = w.bare → v.changing = w.changing :=
    fun same => eq_of_bare same (·.changing) fun _ => rfl
  have released : ∀ (v : Workspace) seq, v.bare = w.bare → (v.release seq).changing = w.changing :=
    fun v seq same => (release_frame v seq).2.2.2.1.trans (bare same)
  cases advance with
  | forward same kind => rcases kind with rfl | rfl <;> exact quiet (bare same) rfl rfl
  | load same => exact quiet (bare same) rfl rfl
  | loaded same => exact quiet (released _ _ same) rfl rfl
  | observe same => exact quiet (bare same) rfl rfl
  | observed same => exact quiet (released _ _ same) rfl rfl
  -- A change of a caller goes through the same stages as one of the worker.
  | @changeWaits _ _ _ phase phase' step =>
    exact step.handover (by cases phase <;> rfl) (by cases phase' <;> rfl)
  | @changeRefused _ _ _ phase step => exact step.handover (by cases phase <;> rfl) rfl
  | @changeInstalled _ _ _ phase _ step => exact step.handover (by cases phase <;> rfl) rfl
  | pass step =>
    cases step with
    | unseen _ _ _ _ same => exact quiet (bare same) rfl rfl
    | _ => exact quiet rfl rfl rfl
  | passEnds _ same => exact quiet (released _ _ same) rfl rfl
  | readAll => exact quiet (released w _ rfl) rfl rfl
  | @workerWaits _ _ phase phase' step =>
    exact step.handover (by cases phase <;> rfl) (by cases phase' <;> rfl)
  | @workerRefused _ _ phase step => exact step.handover (by cases phase <;> rfl) rfl
  | @workerInstalled mid change phase seq step =>
    -- What follows the change has nothing to do with the turn.
    have made : Handover .snapshot w (.documents (.changing change phase)) mid (.documents .idle) :=
      step.handover (by cases phase <;> rfl) rfl
    have same : (mid.afterChange change seq).changing = mid.changing :=
      eq_of_rim (rim_afterChange mid change seq) changing fun _ => rfl
    cases made with
    | same taken has => exact .same (same.trans taken) has
    | takes free taken before after => exact .takes free (same.trans taken) before after
    | gives free before after => exact .gives (same.trans free) before after
  | fix same kind =>
    rcases kind with ⟨job, rfl⟩ | ⟨outcome, rfl⟩ <;> exact quiet (bare same) rfl rfl
  | stopReleased let_go =>
    obtain ⟨-, ⟨-, rfl⟩ | ⟨seq, -, rfl⟩⟩ := releaseCurrent_cases let_go
    · exact quiet rfl rfl rfl
    · exact quiet (released w seq rfl) rfl rfl
  | shutdownReleased let_go =>
    obtain ⟨-, ⟨-, rfl⟩ | ⟨seq, -, rfl⟩⟩ := releaseCurrent_cases let_go
    · exact quiet rfl rfl rfl
    · exact quiet (released w seq rfl) rfl rfl
  | shutdownIdled _ same => exact quiet (bare same) rfl rfl
  | _ => exact quiet rfl rfl rfl

theorem PassShow.handoverPublications {job : PassJob} {surface : Surface} {phase : PassPhase}
    (shown : PassShow c w job surface phase) (after : w'.surface = surface) :
    Handover .publications w (.pass job) w' (.pass { job with phase }) := by
  have taken : w'.isTaken .publications = surface.publishing := congrArg Surface.publishing after
  have same : surface.publishing = w.publishing → phase.isSending = job.phase.isSending →
      Handover .publications w (.pass job) w' (.pass { job with phase }) :=
    fun publishing steady => .same (taken.trans publishing) steady
  cases shown with
  | early before after =>
    exact same rfl ((PassPhase.idle_of_isEarly after).1.trans
      (PassPhase.idle_of_isEarly before).1.symm)
  | judged before => exact same rfl (PassPhase.idle_of_isEarly before).1.symm
  | calls before => exact same rfl (by rw [before]; rfl)
  | clears before => exact same rfl (by rw [before]; rfl)
  | begins before => exact same rfl (by rw [before]; rfl)
  | asks before => exact same rfl (by rw [before]; rfl)
  | raises before => exact same rfl (by rw [before]; rfl)
  | void before => exact same rfl (by rw [before]; rfl)
  | cleared _ _ steady => exact same rfl steady
  | enters before free =>
    exact .takes free taken (by simp [Task.hasTurn, before, PassPhase.isSending]) rfl
  | leaves before => exact .gives taken (by simp [Task.hasTurn, before, PassPhase.isSending]) rfl

theorem PassShow.handoverStatus {job : PassJob} {surface : Surface} {phase : PassPhase}
    (shown : PassShow c w job surface phase) (after : w'.surface = surface) :
    Handover .status w (.pass job) w' (.pass { job with phase }) := by
  have taken : w'.isTaken .status = surface.flagging := congrArg Surface.flagging after
  have same : surface.flagging = w.flagging → phase.isFlagging = job.phase.isFlagging →
      Handover .status w (.pass job) w' (.pass { job with phase }) :=
    fun flagging steady => .same (taken.trans flagging) steady
  cases shown with
  | early before after =>
    exact same rfl ((PassPhase.idle_of_isEarly after).2.trans
      (PassPhase.idle_of_isEarly before).2.symm)
  | judged before => exact same rfl (PassPhase.idle_of_isEarly before).2.symm
  | calls before => exact same rfl (by rw [before]; rfl)
  | clears before free => exact same free.symm (by rw [before]; rfl)
  | begins before free =>
    exact .takes free taken (by simp [Task.hasTurn, before, PassPhase.isFlagging]) rfl
  | asks before => exact same rfl (by rw [before]; rfl)
  | raises before turn =>
    exact .gives taken (by rw [Task.hasTurn, before]; exact PassPhase.isFlagging_of_stage turn) rfl
  | void before turn =>
    exact .gives taken (by rw [Task.hasTurn, before]; exact PassPhase.isFlagging_of_stage turn) rfl
  | cleared before after =>
    exact same rfl ((PassPhase.idle_of_isCleared after).trans
      (PassPhase.idle_of_isCleared before).symm)
  | enters before => exact same rfl (by rw [before]; rfl)
  | leaves before => exact same rfl (by rw [before]; rfl)

theorem stepTask_handover (stepped : w.stepTask c eager task = some (w', task'))
    (other : turn ≠ .resolver) : Handover turn w task w' task' := by
  -- The turn at the snapshot is seen on the bare workspace, the others on the surface.
  have telling : turn = .publications ∨ turn = .status → Handover turn w task w' task' := by
    intro kind
    have shown := stepTask_show stepped
    generalize after : w'.surface = surface at shown
    -- Where the turn stays as it is, it is enough that the task has it neither before nor after.
    have same : surface.publishing = w.publishing → surface.flagging = w.flagging →
        task.hasTurn turn = false → task'.hasTurn turn = false → Handover turn w task w' task' := by
      intro publishing flagging before later
      refine .same ?_ (later.trans before.symm)
      rcases kind with rfl | rfl
      · exact (congrArg Surface.publishing after).trans publishing
      · exact (congrArg Surface.flagging after).trans flagging
    cases shown with
    | pass step =>
      rcases kind with rfl | rfl
      · exact step.handoverPublications after
      · exact step.handoverStatus after
    | ends complete =>
      refine same rfl rfl ?_ (Task.hasTurn_of_other kind rfl)
      rcases kind with rfl | rfl <;> rw [Task.hasTurn, complete] <;> rfl
    | other apart apart' =>
      exact same rfl rfl (Task.hasTurn_of_other kind apart) (Task.hasTurn_of_other kind apart')
  cases turn with
  | snapshot => exact (stepTask_advance stepped).handoverSnapshot
  | resolver => exact absurd rfl other
  | slot => exact .same rfl (by cases task <;> cases task' <;> rfl)
  | publications => exact telling (.inl rfl)
  | status => exact telling (.inr rfl)

/-! ### Every turn is somebody's -/

def InTurn (w : Workspace) (turn : Turn) : Prop :=
  w.tasks.countP (Task.hasTurn turn) = (w.isTaken turn).toNat

theorem InTurn.nobody (inTurn : InTurn w turn) (free : w.isTaken turn = false) (member : task ∈ w.tasks) :
    task.hasTurn turn = false := by
  rw [InTurn, free, Bool.toNat_false, List.countP_eq_zero] at inTurn
  simpa using inTurn task member

theorem Shift.countP {tasks' : List Task} (shift : Shift tasks tasks') (turn : Turn) :
    tasks'.countP (Task.hasTurn turn) = tasks.countP (Task.hasTurn turn) := by
  cases shift with
  | starts new fresh =>
    have none : new.countP (Task.hasTurn turn) = 0 := by
      rw [List.countP_eq_zero]
      intro task member
      simp [Task.hasTurn_of_isNew (fresh task member)]
    rw [List.countP_append, none, Nat.add_zero]
  | sets task' found aside aside' =>
    have count := countP_set (Task.hasTurn turn) found task'
    rw [Task.hasTurn_of_isAside aside, Task.hasTurn_of_isAside aside'] at count
    simpa using count

theorem InTurn.step (inTurn : InTurn w turn) (other : turn ≠ .resolver)
    (found : w.tasks[number]? = some task) (stepped : w.stepTask c eager task = some (w', task')) :
    InTurn { w' with tasks := w'.tasks.set number task' } turn := by
  have advance := stepTask_advance stepped
  obtain ⟨more, appended, new⟩ := advance.tasks_append
  -- The passes that are begun have just been started.
  have shift : Shift w.tasks w'.tasks := by
    rw [appended]
    refine .starts more fun task member => ?_
    obtain ⟨job, rfl, phase, -⟩ := new task member
    simp [Task.isNew, phase]
  have count := countP_set (Task.hasTurn turn) (advance.found_after found) task'
  rw [shift.countP turn, inTurn] at count
  show (w'.tasks.set number task').countP (Task.hasTurn turn) = (w'.isTaken turn).toNat
  cases stepTask_handover stepped other with
  | same taken has =>
    rw [has] at count
    rw [taken]
    omega
  | takes free taken before after =>
    rw [free, before, after] at count
    rw [taken]
    simpa using count
  | gives free before after =>
    rw [before, after] at count
    rw [free]
    -- Whoever gives a turn back had it, so that it was taken.
    cases busy : w.isTaken turn with
    | true => simpa [busy] using count
    | false =>
      have none : w.tasks.countP (Task.hasTurn turn) = 0 := by rw [inTurn, busy]; rfl
      have mine := List.countP_eq_zero.mp none task (List.mem_of_getElem? found)
      exact absurd before mine

theorem InTurn.act (inTurn : InTurn w turn) (other : turn ≠ .resolver) (move : Move) :
    InTurn (w.act c move) turn := by
  rcases act_cases c w move with ⟨number, eager, rfl, stepped⟩ | ⟨-, incident⟩
  · obtain ⟨task, mid, task', found, -, taken, same⟩ := step_advance stepped
    rw [same]
    exact inTurn.step other found taken
  · rw [InTurn, incident.shift.countP, incident.isTaken]
    exact inTurn

theorem play_inTurn (names : Nat → String) (supported : Bool) (limit : Nat) (moves : List Move)
    (turn : Turn) : InTurn ((fresh names supported limit).play c moves) turn := by
  by_cases resolver : turn = .resolver
  · -- Whoever has the turn at the resolver asks it.
    subst resolver
    have searching := (course_told (c := c) names supported limit (moves.map .move)).1
    rw [← play_eq_course] at searching
    have turn := searching.turn
    rw [asked, List.length_filterMap_eq_countP] at turn
    refine Eq.trans turn ?_
    rw [isTaken]
    split <;> simp [*]
  · have start : InTurn (fresh names supported limit) turn := by cases turn <;> rfl
    exact List.foldlRecOn (motive := fun w => InTurn w turn) moves _ start
      fun w before move _ => before.act resolver move

end Workspace

end PolicyServer
