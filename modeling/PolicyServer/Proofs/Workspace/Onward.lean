import PolicyServer.Proofs.Workspace.Custody

/-! Every move goes on: passes have tasks of their own, stages come in order, and requests wait. -/

namespace PolicyServer

def Task.outcome? : Task → Option PassOutcome
  | .finished (.outcome outcome) => some outcome
  | _ => none

def Task.isPass (task : Task) : Bool := task.job?.isSome || task.outcome?.isSome

def Task.isRequest : Task → Bool
  | .shutdown _ => true
  | .finished (.reply _) => true
  | _ => false

def Lifecycle.rank : Lifecycle → Nat
  | .created => 0
  | .initializing => 1
  | .initialized => 2
  | .shutDown => 3

namespace Workspace

variable {c : Collaborators} {eager : Bool} {w w' w'' : Workspace} {number : Nat} {task task' : Task}
  {moved : Nat → Prop}

def outcomes (w : Workspace) : List PassOutcome := w.tasks.filterMap Task.outcome?

/-! ### What goes on -/

/-- Tasks, passes and stage are as before, though other things may not be. -/
structure Keeps (w w' : Workspace) : Prop where
  tasks : w'.tasks = w.tasks
  passes : w'.passes.length = w.passes.length
  lifecycle : w'.lifecycle = w.lifecycle

theorem Keeps.of_bare (same : w'.bare = w.bare) : Keeps w w' :=
  ⟨eq_of_bare same (·.tasks) fun _ => rfl, eq_of_bare same (·.passes.length) fun _ => rfl,
    eq_of_bare same (·.lifecycle) fun _ => rfl⟩

theorem Keeps.release (keeps : Keeps w w') (seq : Nat) : Keeps w (w'.release seq) := by
  obtain ⟨-, -, tasks, -, lifecycle⟩ := release_frame w' seq
  have passes := passes_of_stake (stake_release w' seq)
  exact ⟨tasks.trans keeps.tasks, (congrArg _ passes).trans keeps.passes,
    lifecycle.trans keeps.lifecycle⟩

theorem Keeps.releaseCurrent (released : w.releaseCurrent = some w') : Keeps w w' := by
  obtain ⟨-, -, tasks, lifecycle⟩ := releaseCurrent_frame released
  exact ⟨tasks, congrArg _ (passes_of_stake (stake_releaseCurrent released)), lifecycle⟩

theorem Keeps.letGo (w : Workspace) (name : String) : Keeps w (w.letGo name) := by
  unfold Workspace.letGo
  split
  · exact ⟨rfl, rfl, rfl⟩
  · rename_i seq _
    have kept : Keeps w (w.release seq) := Keeps.release ⟨rfl, rfl, rfl⟩ seq
    exact ⟨kept.tasks, kept.passes, kept.lifecycle⟩

theorem Keeps.hold (w : Workspace) (name : String) (seq : Nat) : Keeps w (w.hold name seq) :=
  ⟨(letGo w name).tasks, (letGo w name).passes, (letGo w name).lifecycle⟩

theorem Keeps.endScope (w : Workspace) (scope : Scope) : Keeps w (w.endScope scope) := by
  cases scope with
  | pass number => exact ⟨rfl, List.length_modify .., rfl⟩
  | _ => exact ⟨rfl, rfl, rfl⟩

theorem ChangeAdvance.keeps {change : StateChange} {scope : Scope} {phase : ChangePhase}
    {step : ChangeStep} (advance : ChangeAdvance c w change scope phase w' step) : Keeps w w' := by
  obtain ⟨-, tasks, lifecycle⟩ := advance.frame
  exact ⟨tasks, congrArg _ (passes_of_stake advance.stake_eq), lifecycle⟩

/--
What every move keeps, from one state of a workspace to a later one.

Each new pass has a task of its own, stages come in their order, and a request to shut down, or one
that is answered, stays as it is unless its task is among those that moved.
-/
structure Onward (moved : Nat → Prop) (w w' : Workspace) : Prop where
  tally : w'.tasks.countP Task.isPass + w.passes.length =
    w.tasks.countP Task.isPass + w'.passes.length
  stage : w.lifecycle.rank ≤ w'.lifecycle.rank
  waits : ∀ {number : Nat} {task : Task}, ¬ moved number → task.isRequest = true →
    w.tasks[number]? = some task → w'.tasks[number]? = some task

theorem Onward.of_eq (tasks : w'.tasks = w.tasks) (passes : w'.passes.length = w.passes.length)
    (lifecycle : w'.lifecycle = w.lifecycle) :
    Onward moved w w' where
  tally := by rw [tasks, passes]
  stage := Nat.le_of_eq (congrArg _ lifecycle.symm)
  waits _ _ found := by
    rw [tasks]
    exact found

theorem Keeps.onward (keeps : Keeps w w') (moved : Nat → Prop) : Onward moved w w' :=
  .of_eq keeps.tasks keeps.passes keeps.lifecycle

theorem Onward.trans (first : Onward moved w w') (second : Onward moved w' w'') :
    Onward moved w w'' where
  -- Tasks and passes grow by the same number each time.
  tally := by
    have before := first.tally
    have after := second.tally
    omega
  stage := Nat.le_trans first.stage second.stage
  waits still kind found := second.waits still kind (first.waits still kind found)

theorem task_of_append {tasks : List Task} (found : tasks[number]? = some task) (more : List Task) :
    (tasks ++ more)[number]? = some task := by
  rw [List.getElem?_append_left (List.getElem?_eq_some_iff.mp found).1]
  exact found

theorem Onward.spawn (moved : Nat → Prop) (w : Workspace) (other : task.isPass = false) :
    Onward moved w (w.spawn task) where
  tally := by simp [Workspace.spawn, List.countP_append, other]
  stage := Nat.le_refl _
  waits _ _ found := task_of_append found _

theorem Onward.startPass (moved : Nat → Prop) (w : Workspace) (seq : Nat) (job : PassJob) :
    Onward moved w ((w.beginPass seq).spawn (.pass job)) := by
  -- One pass and one task that runs it are added, so the tally holds.
  have begun := length_beginPass w seq
  obtain ⟨-, -, tasks, -, lifecycle⟩ := beginPass_frame w seq
  refine ⟨?_, ?_, fun _ _ found => ?_⟩
  · simp only [Workspace.spawn, tasks, List.countP_append, begun]
    simp [Task.isPass, Task.job?]
    omega
  · exact Nat.le_of_eq (congrArg _ lifecycle.symm)
  · simp only [Workspace.spawn, tasks]
    exact task_of_append found _

theorem Onward.setTask (found : w.tasks[number]? = some task) (same : task'.isPass = task.isPass)
    (free : moved number ∨ (task.isRequest = true → task' = task)) :
    Onward moved w { w with tasks := w.tasks.set number task' } where
  tally := by
    have count := countP_set Task.isPass found task'
    rw [same] at count
    rw [Nat.add_right_cancel count]
  stage := Nat.le_refl _
  waits {other request} still kind there := by
    rw [List.getElem?_set]
    -- At the place that is set stands the task that moved, or no request.
    split
    · rename_i here
      subst here
      obtain rfl : task = request := Option.some.inj (found.symm.trans there)
      have within := (List.getElem?_eq_some_iff.mp found).1
      rcases free with moves | kept
      · exact absurd moves still
      · rw [kept kind]
        simp [within]
    · exact there

theorem Advance.onward (advance : Advance c w task w' task') (found : w.tasks[number]? = some task) :
    task'.isPass = task.isPass ∧ Onward (fun _ => False) w w' ∧ w'.tasks[number]? = some task := by
  have kept : ∀ {v : Workspace}, Keeps w v →
      Onward (fun _ => False) w v ∧ v.tasks[number]? = some task :=
    fun keeps => ⟨keeps.onward _, keeps.tasks ▸ found⟩
  have same : Keeps w w := ⟨rfl, rfl, rfl⟩
  cases advance with
  | forward bare kind => exact ⟨by rcases kind with rfl | rfl <;> rfl, kept (.of_bare bare)⟩
  | load bare => exact ⟨rfl, kept (.of_bare bare)⟩
  | loaded bare => exact ⟨rfl, kept ((Keeps.of_bare bare).release _)⟩
  | observe bare => exact ⟨rfl, kept (.of_bare bare)⟩
  | observed bare => exact ⟨rfl, kept ((Keeps.of_bare bare).release _)⟩
  | takeRefused => exact ⟨rfl, kept same⟩
  | changeWaits step => exact ⟨rfl, kept step.keeps⟩
  | changeRefused step => exact ⟨rfl, kept step.keeps⟩
  | changeInstalled step => exact ⟨rfl, kept step.keeps⟩
  | pass step =>
    refine ⟨rfl, kept ?_⟩
    cases step with
    | unseen _ _ _ _ bare => exact .of_bare bare
    | _ => exact ⟨rfl, rfl, rfl⟩
  | passEnds _ bare => exact ⟨rfl, kept ((Keeps.of_bare bare).release _)⟩
  | workerEnds => exact ⟨rfl, kept same⟩
  | markedAll => exact ⟨rfl, kept same⟩
  | dropBatch => exact ⟨rfl, kept same⟩
  | readNext => exact ⟨rfl, kept same⟩
  | readAll => exact ⟨rfl, kept (same.release _)⟩
  | workerWaits step => exact ⟨rfl, kept step.keeps⟩
  | workerRefused step => exact ⟨rfl, kept step.keeps⟩
  | @workerInstalled mid change phase seq step =>
    refine ⟨rfl, ?_⟩
    unfold afterChange
    split
    · -- The save begins a pass, and nothing else moves.
      refine ⟨(step.keeps.onward _).trans (.startPass _ mid seq _), ?_⟩
      have tasks : (mid.beginPass seq).tasks = w.tasks :=
        (beginPass_frame mid seq).2.2.1.trans step.keeps.tasks
      simp only [Workspace.spawn, tasks]
      exact task_of_append found _
    · exact kept (step.keeps.release seq)
  | fix bare kind =>
    exact ⟨by rcases kind with ⟨job, rfl⟩ | ⟨outcome, rfl⟩ <;> rfl, kept (.of_bare bare)⟩
  | stopReleased released => exact ⟨rfl, kept (.releaseCurrent released)⟩
  | stopIdled => exact ⟨rfl, kept same⟩
  | shutdownRefused => exact ⟨rfl, kept same⟩
  | shutdownRepeated => exact ⟨rfl, kept same⟩
  | shutdownEarly stage =>
    exact ⟨rfl, ⟨rfl, by simp [stage, Lifecycle.rank], fun _ _ there => there⟩, found⟩
  | shutdownTold stage =>
    exact ⟨rfl, ⟨rfl, by simp [stage, Lifecycle.rank], fun _ _ there => there⟩, found⟩
  | shutdownReleased released => exact ⟨rfl, kept (.releaseCurrent released)⟩
  | shutdownIdled _ bare => exact ⟨rfl, kept (.of_bare bare)⟩
  | idle => exact ⟨rfl, kept same⟩
  | _ => exact ⟨rfl, kept ⟨rfl, rfl, rfl⟩⟩

theorem Onward.mono {less more : Nat → Prop} (onward : Onward less w w')
    (wider : ∀ number, less number → more number) : Onward more w w' :=
  ⟨onward.tally, onward.stage, fun still => onward.waits fun moved => still (wider _ moved)⟩

theorem Onward.openView (moved : Nat → Prop) (w : Workspace) : Onward moved w w.openView := by
  have opened : Keeps w { w with snapshots := [{ refs := 3 }], current := some 0, live := 1 } :=
    ⟨rfl, rfl, rfl⟩
  exact (opened.onward _).trans (.spawn _ _ rfl)

theorem Onward.enterSession (moved : Nat → Prop) (w : Workspace) :
    Onward moved w w.enterSession := by
  unfold Workspace.enterSession
  split
  · rename_i stage
    have entered : Onward moved w { w with lifecycle := .initialized } :=
      ⟨rfl, by simp [stage, Lifecycle.rank], fun _ _ found => found⟩
    dsimp only
    -- The worker is started between pass and task; it may as well come first.
    rw [spawn_beginPass]
    exact ((entered.trans (.openView _ _)).trans (.spawn _ _ rfl)).trans (.startPass _ _ 0 _)
  · exact .of_eq rfl rfl rfl

def Move.stepped? : Move → Option Nat
  | .step number _ => some number
  | _ => none

theorem Incident.onward {move : Move} (incident : Incident w move w') (moved : Nat → Prop) :
    Onward moved w w' := by
  have taken : ∀ seq, Onward moved w (w.acquire seq) := fun seq => .of_eq rfl rfl rfl
  cases incident with
  | handshake _ stage => exact ⟨rfl, by simp [stage, Lifecycle.rank], fun _ _ found => found⟩
  | enter => exact .enterSession moved w
  | spawn _ asked => exact .spawn moved w (by cases asked <;> rfl)
  | endScope _ scope => exact (Keeps.endScope w scope).onward moved
  | giveUp found => exact .setTask found rfl (.inr fun request => by cases request)
  | openView name => exact (Onward.openView moved w).trans ((Keeps.hold _ name 0).onward moved)
  | @beginPass seq => exact (taken seq).trans (.startPass moved _ seq _)
  | @observe seq => exact (taken seq).trans (.spawn moved _ rfl)
  -- The task that left the snapshot was over, hence no request.
  | @keep name number seq found =>
    have cleared : Onward moved w { w with tasks := w.tasks.set number (.finished .nothing) } :=
      .setTask found rfl (.inr fun request => by cases request)
    exact cleared.trans ((Keeps.hold _ name seq).onward moved)
  | @clone name seq => exact (taken seq).trans ((Keeps.hold _ name seq).onward moved)
  | @acquire name seq => exact (taken seq).trans ((Keeps.hold _ name seq).onward moved)
  | letGo name => exact (Keeps.letGo w name).onward moved
  | _ => exact .of_eq rfl rfl rfl

theorem act_onward (w : Workspace) (move : Move) :
    Onward (move.stepped? = some ·) w (w.act c move) := by
  rcases act_cases c w move with ⟨number, eager, rfl, stepped⟩ | ⟨-, incident⟩
  · obtain ⟨task, mid, task', found, advance, -, same⟩ := step_advance stepped
    -- Around the task that moves everything goes on, and then it is put in its place.
    obtain ⟨kind, onward, there⟩ := advance.onward found
    rw [same]
    exact (onward.mono fun _ => False.elim).trans (.setTask there kind (.inl rfl))
  · exact incident.onward _

theorem length_outcomes (tally : w.tasks.countP Task.isPass = w.passes.length)
    (resting : ∀ task ∈ w.tasks, task.job? = none) : w.outcomes.length = w.passes.length := by
  rw [← tally, outcomes, List.length_filterMap_eq_countP]
  refine List.countP_congr fun task member => ?_
  simp [Task.isPass, resting task member]

end Workspace

end PolicyServer
