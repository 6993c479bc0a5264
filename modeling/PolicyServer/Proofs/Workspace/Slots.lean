import PolicyServer.Proofs.Workspace.Onward
import PolicyServer.Proofs.Workspace.Turns

/-! Slots: how many passes are at their analysis at a time, and that each gives back what it took. -/

namespace PolicyServer

variable {events : List SlotEvent}

/-- What is seen of a task as to slots: how many more are free after a step of it, and how a pass
ends. -/
inductive SlotEvent where
  | change (difference : Int)
  | over (outcome : PassOutcome)
  deriving DecidableEq

namespace PassPhase

def isOutside : PassPhase → Bool
  | .configuring | .configuration _ | .announcing | .asked _ | .queued _ => true
  | _ => false

/-- Holds for a pass that has been admitted and whose analysis is not over. -/
def hasSlot : PassPhase → Bool
  | .preparing _ _ | .prepared _ | .running _ _ _ | .status _ _ _ | .correlating _ _ => true
  | _ => false

def isTelling : PassPhase → Bool
  | .publishing _ _ | .sending _ _ _ => true
  | _ => false

def isThrough : PassPhase → Bool
  | .publishing _ _ | .sending _ _ _ | .ending _ _ => true
  | _ => false

/-- What is seen of a pass up to its phase: nothing before it is admitted, then that it takes a slot,
then that it gives one back. One that is given up before it is admitted does neither. -/
inductive Dues : PassPhase → List SlotEvent → Prop where
  | outside {phase : PassPhase} (before : phase.isOutside = true) : Dues phase []
  | inside {phase : PassPhase} (admitted : phase.hasSlot = true) : Dues phase [.change (-1)]
  | through {phase : PassPhase} (after : phase.isThrough = true) :
      Dues phase [.change (-1), .change 1]
  | abandoned (work : Work) : Dues (.ending work .cancelled) []

theorem hasSlot_of_isOutside {phase : PassPhase} (before : phase.isOutside = true) :
    phase.hasSlot = false := by
  cases phase <;> first | rfl | cases before

theorem hasSlot_of_isThrough {phase : PassPhase} (after : phase.isThrough = true) :
    phase.hasSlot = false := by
  cases phase <;> first | rfl | cases after

theorem Dues.of_isOutside {phase : PassPhase} (dues : phase.Dues events)
    (before : phase.isOutside = true) : events = [] := by
  cases dues with
  | outside => rfl
  | inside admitted => cases (hasSlot_of_isOutside before).symm.trans admitted
  | through after => cases phase <;> first | cases before; done | cases after
  | abandoned => cases before

theorem Dues.of_hasSlot {phase : PassPhase} (dues : phase.Dues events) (admitted : phase.hasSlot = true) :
    events = [.change (-1)] := by
  cases dues with
  | outside before => cases (hasSlot_of_isOutside before).symm.trans admitted
  | inside => rfl
  | through after => cases (hasSlot_of_isThrough after).symm.trans admitted
  | abandoned => cases admitted

theorem Dues.of_isTelling {phase : PassPhase} (dues : phase.Dues events)
    (telling : phase.isTelling = true) : events = [.change (-1), .change 1] := by
  cases dues with
  | outside before => cases phase <;> first | cases before; done | cases telling
  | inside admitted => cases phase <;> first | cases admitted; done | cases telling
  | through => rfl
  | abandoned => cases telling

theorem hasSlot_of_isTelling {phase : PassPhase} (telling : phase.isTelling = true) :
    phase.hasSlot = false := by
  cases phase <;> first | rfl | cases telling

end PassPhase

namespace Task

def hasSlot : Task → Bool
  | .pass job => job.phase.hasSlot
  | _ => false

/-- What is seen of a pass that is over: it took a slot, gave it back and ended, or it was given up
before it was admitted. -/
inductive Served : PassOutcome → List SlotEvent → Prop where
  | admitted (outcome : PassOutcome) : Served outcome [.change (-1), .change 1, .over outcome]
  | abandoned : Served .cancelled [.over .cancelled]

/-- What is seen of a task as to slots: of a pass, what its phase or its outcome says; of all others,
nothing. -/
def Story : Task → List SlotEvent → Prop
  | .pass job, events => job.phase.Dues events
  | .finished (.outcome outcome), events => Served outcome events
  | _, events => events = []

theorem story_of_other {task : Task} (other : task.isPass = false) :
    task.hasSlot = false ∧ ∀ events, task.Story events ↔ events = [] := by
  cases task with
  | pass job => cases other
  | finished done =>
    cases done with
    | outcome outcome => cases other
    | _ => exact ⟨rfl, fun _ => .rfl⟩
  | _ => exact ⟨rfl, fun _ => .rfl⟩

theorem story_of_isNew {task : Task} (new : task.isNew = true) :
    task.hasSlot = false ∧ task.Story [] := by
  cases task with
  | pass job =>
    obtain ⟨pass, snapshot, message, phase⟩ := job
    cases phase <;> first | exact ⟨rfl, .outside rfl⟩ | cases new
  | finished done => cases new
  | _ => exact ⟨rfl, rfl⟩

theorem isPass_of_isAside {task : Task} (aside : task.isAside = true)
    (other : ∀ outcome, task ≠ .finished (.outcome outcome)) : task.isPass = false := by
  cases task with
  | fix job => rfl
  | finished done =>
    cases done with
    | outcome outcome => exact absurd rfl (other outcome)
    | _ => rfl
  | _ => cases aside

theorem story_lapse (task : Task) :
    task.lapse.hasSlot = task.hasSlot ∧ task.lapse.Story = task.Story := by
  cases task <;> exact ⟨rfl, rfl⟩

end Task

namespace Workspace

variable {c : Collaborators} {eager : Bool} {w w' : Workspace} {number : Nat} {task task' : Task}

/-- How many passes have been admitted whose analysis is not over. -/
def admitted (w : Workspace) : Nat := w.tasks.countP Task.hasSlot

/-! ### What leaves the slots alone -/

theorem slots_of_rim (same : w'.rim = w.rim) : w'.slots = w.slots := eq_of_rim same slots fun _ => rfl

theorem Inquiry.slots_eq {p : Preparation} {rest : Option Preparation}
    (inquiry : Inquiry c w p w' rest) : w'.slots = w.slots := by
  cases inquiry <;> rfl

theorem ChangeAdvance.slots_eq {change : StateChange} {scope : Scope} {phase : ChangePhase}
    {step : ChangeStep} (advance : ChangeAdvance c w change scope phase w' step) :
    w'.slots = w.slots := by
  cases advance with
  | refuse => rfl
  | start => exact (slots_of_rim (rim_beginChange w _ change.save)).trans rfl
  | wait _ _ inquiry => exact inquiry.slots_eq
  | install _ inquiry => exact (slots_of_rim (rim_install _ _ change)).trans inquiry.slots_eq

theorem FixAdvance.slots_eq {job : FixJob} (step : FixAdvance c w job w' task') :
    w'.slots = w.slots := by
  cases step with
  | cancelled work => cases work <;> rfl
  | shown _ _ announced => exact (congrArg (slots ·.2) announced).symm
  | asks _ _ announced => exact (congrArg (slots ·.2) announced).symm
  | ends work outcome => cases outcome <;> rfl
  | _ => rfl

/-! ### A step of a pass -/

/-- What a step of a pass does about slots: it takes one as it is admitted, and gives one back as its
analysis is over. -/
inductive SlotStep (w : Workspace) (phase : PassPhase) (w' : Workspace) (phase' : PassPhase) :
    Prop where
  | waits (before : phase.isOutside = true) (after : phase'.isOutside = true)
      (same : w'.slots = w.slots)
  | abandons {work : Work} (before : phase.isOutside = true) (after : phase' = .ending work .cancelled)
      (same : w'.slots = w.slots)
  | admits (before : phase.isOutside = true) (after : phase'.hasSlot = true)
      (taken : w.slots = w'.slots + 1)
  | works (before : phase.hasSlot = true) (after : phase'.hasSlot = true) (same : w'.slots = w.slots)
  | frees (before : phase.hasSlot = true) (after : phase'.isThrough = true)
      (given : w'.slots = w.slots + 1)
  | tells (before : phase.isTelling = true) (after : phase'.isThrough = true)
      (same : w'.slots = w.slots)

theorem StatusStep.slots {work : Work} {verdict : Verdict} {stage : StatusPhase} {phase : PassPhase}
    (step : StatusStep w work verdict stage w' phase) :
    SlotStep w (.status work verdict stage) w' phase := by
  have ended : w.endStatus.slots = w.slots := by
    unfold endStatus
    split <;> rfl
  cases step with
  | raises announced =>
    have same := congrArg (fun found => Workspace.slots found.2 + 1) announced
    exact .frees rfl rfl same.symm
  | asks announced => exact .works rfl rfl (congrArg (Workspace.slots ·.2) announced).symm
  | begun => exact .frees rfl rfl rfl
  | skips => exact .works rfl rfl rfl
  | void => exact .works rfl rfl rfl
  | _ => exact .works rfl rfl ended

theorem PhaseStep.slots {job : PassJob} {phase : PassPhase}
    (step : PhaseStep c w job job.phase w' phase) : SlotStep w job.phase w' phase := by
  obtain ⟨pass, snapshot, message, before⟩ := job
  cases step with
  | takesSettings => exact .waits rfl rfl (slots_of_rim (rim_takeSettings w _))
  | shown announced => exact .waits rfl rfl (congrArg (Workspace.slots ·.2) announced).symm
  | asks announced => exact .waits rfl rfl (congrArg (Workspace.slots ·.2) announced).symm
  -- A slot is taken only where one is free.
  | admitted free => exact .admits rfl rfl (Nat.sub_add_cancel free).symm
  | abandoned => exact .abandons rfl rfl rfl
  | looks inquiry => exact .works rfl rfl inquiry.slots_eq
  | looked inquiry => exact .works rfl rfl inquiry.slots_eq
  | cancelled => exact .frees rfl rfl rfl
  | drops => exact .frees rfl rfl rfl
  | cuts => exact .frees rfl rfl rfl
  | tells step => exact step.slots
  | correlates => exact .frees rfl rfl rfl
  | _ =>
    first
    | exact .waits rfl rfl rfl
    | exact .works rfl rfl rfl
    | exact .tells rfl rfl rfl

/-! ### A step of a task -/

/-- What a step of a task does about slots; only passes have to do with them. -/
inductive TaskSlots (w : Workspace) : Task → Workspace → Task → Prop where
  | goesOn {w' : Workspace} {job : PassJob} {phase : PassPhase}
      (step : SlotStep w job.phase w' phase) : TaskSlots w (.pass job) w' (.pass { job with phase })
  | ends {w' : Workspace} {job : PassJob} {work : Work} {outcome : PassOutcome}
      (complete : job.phase = .ending work outcome) (same : w'.slots = w.slots) :
      TaskSlots w (.pass job) w' (.finished (.outcome outcome))
  | aside {task task' : Task} {w' : Workspace} (other : task.isPass = false)
      (other' : task'.isPass = false) (same : w'.slots = w.slots) : TaskSlots w task w' task'

theorem stepTask_slots (stepped : w.stepTask c eager task = some (w', task')) :
    TaskSlots w task w' task' := by
  cases stepTask_advance stepped with
  | forward _ kind _ after =>
    subst after
    rcases kind with rfl | rfl <;> exact .aside rfl rfl rfl
  | load _ _ inquiry => exact .aside rfl rfl inquiry.slots_eq
  | loaded _ inquiry =>
    exact .aside rfl rfl ((slots_of_rim (rim_release _ _)).trans inquiry.slots_eq)
  | observe _ _ inquiry => exact .aside rfl rfl inquiry.slots_eq
  | observed _ inquiry =>
    exact .aside rfl rfl ((slots_of_rim (rim_release _ _)).trans inquiry.slots_eq)
  | changeWaits step => exact .aside rfl rfl step.slots_eq
  | changeRefused step => exact .aside rfl rfl step.slots_eq
  | changeInstalled step => exact .aside rfl rfl step.slots_eq
  | pass _ step => exact .goesOn step.slots
  | passEnds complete _ told =>
    subst told
    exact .ends complete ((slots_of_rim (rim_release _ _)).trans rfl)
  | readAll => exact .aside rfl rfl (slots_of_rim (rim_release w _))
  | workerWaits step => exact .aside rfl rfl step.slots_eq
  | workerRefused step => exact .aside rfl rfl step.slots_eq
  | workerInstalled step =>
    exact .aside rfl rfl ((slots_of_rim (rim_afterChange _ _ _)).trans step.slots_eq)
  | fix _ kind step =>
    rcases kind with ⟨job, rfl⟩ | ⟨outcome, rfl⟩ <;> exact .aside rfl rfl step.slots_eq
  | stopReleased released => exact .aside rfl rfl (slots_of_rim (rim_releaseCurrent released))
  | shutdownReleased released => exact .aside rfl rfl (slots_of_rim (rim_releaseCurrent released))
  | shutdownIdled _ _ after =>
    subst after
    exact .aside rfl rfl rfl
  | _ => exact .aside rfl rfl rfl

/-! ### What is seen -/

def endOf (before after : Task) : List SlotEvent :=
  if before.job?.isSome then (after.outcome?.map .over).toList else []

def noteSlots (w : Workspace) (before : Task) (w' : Workspace) (after : Task) : List SlotEvent :=
  (if w'.slots = w.slots then [] else [.change ((w'.slots : Int) - w.slots)]) ++ endOf before after

/-- What is seen of a happening as to slots, with the number of the task that takes a step. -/
def slotEvents (c : Collaborators) (w : Workspace) (happening : Happening) : List (Nat × SlotEvent) :=
  match happening with
  | .move (.step number _) => (watch noteSlots c w happening).map (number, ·)
  | _ => []

/-- All that is seen in the course of some happenings as to slots. -/
def slotLog (c : Collaborators) (w : Workspace) (happenings : List Happening) :
    List (Nat × SlotEvent) :=
  trace (undergo c) (slotEvents c) w happenings

def storyOf (number : Nat) (log : List (Nat × SlotEvent)) : List SlotEvent :=
  (log.filter (·.1 = number)).map (·.2)

@[simp] theorem storyOf_append (number : Nat) (before after : List (Nat × SlotEvent)) :
    storyOf number (before ++ after) = storyOf number before ++ storyOf number after := by
  simp [storyOf]

theorem storyOf_map (other number : Nat) (events : List SlotEvent) :
    storyOf other (events.map (number, ·)) = if number = other then events else [] := by
  by_cases same : number = other <;> simp [storyOf, List.filter_map, Function.comp_def, same]

theorem noteSlots_of_same (same : w'.slots = w.slots) : noteSlots w task w' task' = endOf task task' := by
  simp [noteSlots, same]

theorem noteSlots_pass {job : PassJob} {phase : PassPhase} :
    noteSlots w (.pass job) w' (.pass { job with phase }) =
      if w'.slots = w.slots then [] else [.change ((w'.slots : Int) - w.slots)] := by
  simp [noteSlots, endOf, Task.outcome?]

theorem SlotStep.account {job : PassJob} {phase : PassPhase} (step : SlotStep w job.phase w' phase)
    (dues : job.phase.Dues events) :
    w'.slots + phase.hasSlot.toNat = w.slots + job.phase.hasSlot.toNat ∧
      phase.Dues (events ++ noteSlots w (.pass job) w' (.pass { job with phase })) := by
  rw [noteSlots_pass]
  cases step with
  | waits before after same =>
    rw [dues.of_isOutside before, if_pos same, same, PassPhase.hasSlot_of_isOutside before,
      PassPhase.hasSlot_of_isOutside after]
    exact ⟨rfl, .outside after⟩
  | @abandons work before after same =>
    rw [dues.of_isOutside before, if_pos same, same, PassPhase.hasSlot_of_isOutside before, after]
    exact ⟨rfl, .abandoned work⟩
  | admits before after taken =>
    have changed : w'.slots ≠ w.slots := by omega
    have fewer : (w'.slots : Int) - w.slots = -1 := by omega
    rw [dues.of_isOutside before, if_neg changed, fewer, PassPhase.hasSlot_of_isOutside before, after]
    exact ⟨taken.symm, .inside after⟩
  | works before after same =>
    rw [dues.of_hasSlot before, if_pos same, same, before, after]
    exact ⟨rfl, .inside after⟩
  | frees before after given =>
    have changed : w'.slots ≠ w.slots := by omega
    have more : (w'.slots : Int) - w.slots = 1 := by omega
    rw [dues.of_hasSlot before, if_neg changed, more, before, PassPhase.hasSlot_of_isThrough after]
    exact ⟨given, .through after⟩
  | tells before after same =>
    rw [dues.of_isTelling before, if_pos same, same, PassPhase.hasSlot_of_isTelling before,
      PassPhase.hasSlot_of_isThrough after]
    exact ⟨rfl, .through after⟩

theorem TaskSlots.account (step : TaskSlots w task w' task') (story : task.Story events) :
    w'.slots + task'.hasSlot.toNat = w.slots + task.hasSlot.toNat ∧
      task'.Story (events ++ noteSlots w task w' task') := by
  cases step with
  | goesOn step => exact step.account story
  | @ends _ job work outcome complete same =>
    have dues : (PassPhase.ending work outcome).Dues events := complete ▸ story
    have idle : job.phase.hasSlot = false := by rw [complete]; rfl
    refine ⟨?_, ?_⟩
    · simp [Task.hasSlot, same, idle]
    · rw [noteSlots_of_same same]
      -- A pass that ends has given its slot back, or was given up before it had one.
      cases dues with
      | outside before => cases before
      | inside admitted => cases admitted
      | through => exact .admitted outcome
      | abandoned => exact .abandoned
  | aside other other' same =>
    obtain ⟨idle, silent⟩ := Task.story_of_other other
    obtain ⟨idle', silent'⟩ := Task.story_of_other other'
    refine ⟨by rw [same, idle, idle'], ?_⟩
    have apart : task.job?.isSome = false := (Bool.or_eq_false_iff.mp other).1
    rw [noteSlots_of_same same, silent', (silent events).mp story]
    simp [endOf, apart]

theorem slotEvents_cases (c : Collaborators) (w : Workspace) (happening : Happening) :
    (∃ number eager task mid task', w.tasks[number]? = some task ∧
      w.stepTask c eager task = some (mid, task') ∧
      w.undergo c happening = { mid with tasks := mid.tasks.set number task' } ∧
      slotEvents c w happening = (noteSlots w task mid task').map (number, ·)) ∨
    (slotEvents c w happening = [] ∧
      ((∃ move, happening = .move move ∧ Incident w move (w.undergo c happening)) ∨
        Approach w happening (w.undergo c happening))) := by
  rcases watch_cases noteSlots c w happening with
    ⟨number, eager, task, mid, task', rfl, found, stepped, after, seen⟩ | ⟨unseen, aside⟩
  · exact .inl ⟨number, eager, task, mid, task', found, stepped, after,
      congrArg (List.map (number, ·)) seen⟩
  · refine .inr ⟨?_, aside⟩
    unfold slotEvents
    split
    · rw [unseen]
      rfl
    · rfl

/-! ### Runs -/

/--
Slots are lent to passes, and to nobody else.

Those that are free and those that passes have are as many as there ever were, and what was seen of
each task is what its state says.
-/
structure Lent (limit : Nat) (w : Workspace) (log : List (Nat × SlotEvent)) : Prop where
  balance : w.slots + w.admitted = max limit 1
  stories : ∀ {number : Nat} {task : Task}, w.tasks[number]? = some task →
    task.Story (storyOf number log)
  unborn : ∀ {number : Nat}, w.tasks.length ≤ number → storyOf number log = []

variable {limit : Nat} {log : List (Nat × SlotEvent)}

theorem Lent.starts (lent : Lent limit w log) (slots : w'.slots = w.slots) {new : List Task}
    (tasks : w'.tasks = w.tasks ++ new) (fresh : ∀ task ∈ new, task.isNew = true) :
    Lent limit w' log where
  balance := by
    have none : new.countP Task.hasSlot = 0 := by
      rw [List.countP_eq_zero]
      intro task member
      simp [(Task.story_of_isNew (fresh task member)).1]
    rw [slots, admitted, tasks, List.countP_append, none]
    exact lent.balance
  stories {number task} found := by
    rw [tasks] at found
    by_cases before : number < w.tasks.length
    · rw [List.getElem?_append_left before] at found
      exact lent.stories found
    · have unborn := Nat.le_of_not_lt before
      rw [List.getElem?_append_right unborn] at found
      rw [lent.unborn unborn]
      exact (Task.story_of_isNew (fresh task (List.mem_of_getElem? found))).2
  unborn later := by
    rw [tasks, List.length_append] at later
    exact lent.unborn (Nat.le_trans (Nat.le_add_right _ _) later)

theorem Lent.sets (lent : Lent limit w log) (found : w.tasks[number]? = some task)
    (slots : w'.slots + task'.hasSlot.toNat = w.slots + task.hasSlot.toNat)
    (tasks : w'.tasks = w.tasks.set number task') (story : task'.Story (storyOf number log ++ events)) :
    Lent limit w' (log ++ events.map (number, ·)) where
  balance := by
    have count := countP_set Task.hasSlot found task'
    have balance := lent.balance
    simp only [admitted, tasks] at balance ⊢
    omega
  stories {other later} there := by
    rw [tasks] at there
    rw [storyOf_append, storyOf_map]
    by_cases same : number = other
    · subst same
      rw [List.getElem?_set_self (List.getElem?_eq_some_iff.mp found).1] at there
      cases there
      rwa [if_pos rfl]
    · rw [List.getElem?_set_ne same] at there
      rw [if_neg same, List.append_nil]
      exact lent.stories there
  unborn {other} later := by
    rw [tasks, List.length_set] at later
    have within := (List.getElem?_eq_some_iff.mp found).1
    rw [storyOf_append, storyOf_map, if_neg (by omega), lent.unborn later]
    rfl

theorem Lent.replace (lent : Lent limit w log) (found : w.tasks[number]? = some task)
    (slots : w'.slots = w.slots) (tasks : w'.tasks = w.tasks.set number task')
    (idle : task'.hasSlot = task.hasSlot) (same : ∀ events, task.Story events → task'.Story events) :
    Lent limit w' log := by
  have story : task'.Story (storyOf number log ++ []) := by
    rw [List.append_nil]
    exact same _ (lent.stories found)
  have next := lent.sets found (by rw [slots, idle]) tasks story
  rwa [List.map_nil, List.append_nil] at next

theorem Lent.step (lent : Lent limit w log) (found : w.tasks[number]? = some task)
    (stepped : w.stepTask c eager task = some (w', task')) :
    Lent limit { w' with tasks := w'.tasks.set number task' }
      (log ++ (noteSlots w task w' task').map (number, ·)) := by
  have advance := stepTask_advance stepped
  obtain ⟨more, appended, new⟩ := advance.tasks_append
  -- The pass after a save is started first, and then the task is set.
  have started : Lent limit { w with tasks := w'.tasks } log := by
    refine lent.starts rfl appended fun other member => ?_
    obtain ⟨job, rfl, phase, -⟩ := new other member
    simp [Task.isNew, phase]
  obtain ⟨slots, story⟩ := (stepTask_slots stepped).account (lent.stories found)
  refine started.sets (advance.found_after found) ?_ rfl story
  exact slots

theorem Lent.incident (lent : Lent limit w log) {move : Move} (incident : Incident w move w') :
    Lent limit w' log := by
  have same : w'.slots = w.slots := by
    have kept := congrArg (fun v : Workspace => v.slots) incident.steady.rim
    exact kept
  -- The tasks are known up to an equation, which a case split would have to solve.
  generalize after : w'.tasks = tasks
  have shift := incident.shift
  rw [after] at shift
  cases shift with
  | starts new fresh => exact lent.starts same after fresh
  | @sets _ task task' found aside aside' other other' =>
    obtain ⟨idle, silent⟩ := Task.story_of_other (Task.isPass_of_isAside aside other)
    obtain ⟨idle', silent'⟩ := Task.story_of_other (Task.isPass_of_isAside aside' other')
    exact lent.replace found same after (idle'.trans idle.symm)
      fun events story => (silent' events).mpr ((silent events).mp story)

theorem Lent.approach (lent : Lent limit w log) {happening : Happening}
    (approach : Approach w happening w') : Lent limit w' log := by
  cases approach with
  | refused => exact lent
  | seek scope first =>
    exact lent.starts rfl rfl fun task member => by rw [List.mem_singleton.mp member]; rfl
  | @lapse number task found =>
    obtain ⟨idle, same⟩ := Task.story_lapse task
    exact lent.replace found rfl rfl idle fun events story => by rwa [same]

theorem Lent.undergo (lent : Lent limit w log) (happening : Happening) :
    Lent limit (w.undergo c happening) (log ++ slotEvents c w happening) := by
  rcases slotEvents_cases c w happening with
    ⟨number, eager, task, mid, task', found, stepped, after, seen⟩ | ⟨unseen, ⟨_, -, incident⟩ | approach⟩
  · rw [after, seen]
    exact lent.step found stepped
  · rw [unseen, List.append_nil]
    exact lent.incident incident
  · rw [unseen, List.append_nil]
    exact lent.approach approach

theorem fresh_lent (names : Nat → String) (supported : Bool) (limit : Nat) :
    Lent limit (fresh names supported limit) [] where
  balance := rfl
  stories {number task} found := by
    obtain rfl : .forward = task := List.mem_singleton.mp (List.mem_of_getElem? found) |>.symm
    rfl
  unborn _ := rfl

theorem course_lent (c : Collaborators) (names : Nat → String) (supported : Bool) (limit : Nat)
    (happenings : List Happening) :
    Lent limit ((fresh names supported limit).course c happenings)
      (slotLog c (fresh names supported limit) happenings) := by
  have run := trace_induction (Lent limit) (fun _ => True)
    (fun {w log happening} _ lent => lent.undergo (c := c) happening)
    (fresh_lent names supported limit) fun next (_ : next ∈ happenings) => trivial
  rwa [List.nil_append] at run

theorem dues_tell {phase : PassPhase} (dues : phase.Dues events) :
    (phase.hasSlot = true ↔ events = [.change (-1)]) ∧ events <+: [.change (-1), .change 1] := by
  cases dues with
  | outside before => simp [PassPhase.hasSlot_of_isOutside before]
  | inside admitted => simp [admitted]
  | through after => simp [PassPhase.hasSlot_of_isThrough after]
  | abandoned work => simp [PassPhase.hasSlot]

theorem story_tells (story : task.Story events) :
    (task.hasSlot = true ↔ events = [.change (-1)]) ∧
      (∀ outcome, task.outcome? = some outcome ↔ .over outcome ∈ events) ∧
      (events <+: [.change (-1), .change 1] ∨
        (∃ outcome, events = [.change (-1), .change 1, .over outcome]) ∨
        events = [.over .cancelled]) := by
  cases kind : task.isPass with
  | false =>
    obtain ⟨idle, silent⟩ := Task.story_of_other kind
    have ongoing : task.outcome? = none := by
      simpa using (Bool.or_eq_false_iff.mp kind).2
    rw [(silent events).mp story]
    simp [idle, ongoing]
  | true =>
    cases task with
    | pass job =>
      obtain ⟨idle, come⟩ := dues_tell story
      refine ⟨idle, fun outcome => ?_, .inl come⟩
      have ongoing : .over outcome ∉ events := fun seen => by simpa using come.subset seen
      simp [Task.outcome?, ongoing]
    | finished done =>
      cases done with
      | outcome outcome =>
        have served : Task.Served outcome events := story
        cases served with
        | admitted =>
          exact ⟨by simp [Task.hasSlot], fun other => by simpa [Task.outcome?] using eq_comm,
            .inr (.inl ⟨outcome, rfl⟩)⟩
        | abandoned =>
          exact ⟨by simp [Task.hasSlot], fun other => by simpa [Task.outcome?] using eq_comm,
            .inr (.inr rfl)⟩
      | _ => cases kind
    | _ => cases kind

/--
Slots are lent to passes, and each of them gives back exactly what it was lent.

At any time of any course, the slots that are free and the passes that have one are as many as there
are slots: `limit`, but at least one. What is seen of a task tells where its pass is: it has a slot
from the step that takes one to the step that gives it back, and a pass that is over has done either
both, or neither, in which case it was given up while it waited.
-/
theorem slots_lent_and_given_back (c : Collaborators) (names : Nat → String) (supported : Bool)
    (limit : Nat) (happenings : List Happening) :
    let w := (fresh names supported limit).course c happenings
    let story := fun number => storyOf number (slotLog c (fresh names supported limit) happenings)
    w.slots + w.admitted = max limit 1 ∧ w.admitted ≤ max limit 1 ∧
      ∀ number,
        ((w.tasks[number]?).any Task.hasSlot = true ↔ story number = [.change (-1)]) ∧
        (∀ outcome,
          (w.tasks[number]?).bind Task.outcome? = some outcome ↔ .over outcome ∈ story number) ∧
        (story number <+: [.change (-1), .change 1] ∨
          (∃ outcome, story number = [.change (-1), .change 1, .over outcome]) ∨
          story number = [.over .cancelled]) := by
  intro w story
  have lent : Lent limit w _ := course_lent c names supported limit happenings
  refine ⟨lent.balance, lent.balance ▸ Nat.le_add_left _ _, fun number => ?_⟩
  cases found : w.tasks[number]? with
  | none =>
    have unborn : story number = [] := lent.unborn (List.getElem?_eq_none_iff.mp found)
    simp [unborn]
  | some task => exact story_tells (lent.stories found)

end Workspace

end PolicyServer
