import PolicyServer.Proofs.Workspace.Rest

/-!
The stages that a workspace goes through, and the view that is opened on the way.

Stages come in a fixed order. A step leads to another one only by accepting a shutdown, and the rest is
up to the handshake and to the news that the editor is ready, which open the view.
-/

namespace PolicyServer

/-- The stage that may come next. -/
inductive Lifecycle.Next : Lifecycle → Lifecycle → Prop where
  | greet : Next .created .initializing
  | enter : Next .initializing .initialized
  | leaveEarly : Next .initializing .shutDown
  | leave : Next .initialized .shutDown

/-- The stage of a session, and all stages that it has come to, in order. -/
inductive Lifecycle.Staged : Lifecycle → List Lifecycle → Prop where
  | created : Staged .created []
  | initializing : Staged .initializing [.initializing]
  | initialized : Staged .initialized [.initializing, .initialized]
  | leftEarly : Staged .shutDown [.initializing, .shutDown]
  | left : Staged .shutDown [.initializing, .initialized, .shutDown]

namespace Lifecycle

variable {stage stage' : Lifecycle} {log : List Lifecycle}

theorem Staged.next (staged : Staged stage log) (next : Next stage stage') :
    Staged stage' (log ++ [stage']) := by
  cases next <;> cases staged <;> constructor

theorem Next.ne (next : Next stage stage') : stage' ≠ stage := by
  cases next <;> simp

theorem Staged.created_iff (staged : Staged stage log) : stage = .created ↔ .initializing ∉ log := by
  cases staged <;> simp

theorem Staged.shutDown_iff (staged : Staged stage log) : stage = .shutDown ↔ .shutDown ∈ log := by
  cases staged <;> simp

theorem Staged.initialized_iff (staged : Staged stage log) :
    stage = .initialized ↔ .initialized ∈ log ∧ .shutDown ∉ log := by
  cases staged <;> simp

theorem Staged.initializing_iff (staged : Staged stage log) :
    stage = .initializing ↔ log = [.initializing] := by
  cases staged <;> simp

end Lifecycle

def News.isOfDocument : News → Bool
  | .opened _ | .changed _ _ | .closed _ | .saved _ _ => true
  | .initialized | .exit | .cancelWork _ => false

/-- Holds for the first attempt at a runner, which is started as the view is opened. -/
def Task.opensView : Task → Bool
  | .load preparation => preparation.first
  | _ => false

namespace Workspace

open Lifecycle (Next)

variable {c : Collaborators} {eager : Bool} {w w' : Workspace} {number : Nat} {task task' : Task}

theorem Advance.stage (advance : Advance c w task w' task') :
    w'.lifecycle = w.lifecycle ∨
      task = .shutdown .telling ∧ Next w.lifecycle .shutDown ∧ w'.lifecycle = .shutDown := by
  have bare : ∀ {v : Workspace}, v.bare = w.bare → v.lifecycle = w.lifecycle :=
    fun same => eq_of_bare same (·.lifecycle) fun _ => rfl
  have released : ∀ (v : Workspace) (seq : Nat), (v.release seq).lifecycle = v.lifecycle :=
    fun v seq => (release_frame v seq).2.2.2.2
  cases advance with
  | shutdownEarly stage => exact .inr ⟨rfl, stage ▸ .leaveEarly, rfl⟩
  | shutdownTold stage => exact .inr ⟨rfl, stage ▸ .leave, rfl⟩
  | forward same => exact .inl (bare same)
  | load same => exact .inl (bare same)
  | loaded same => exact .inl ((released _ _).trans (bare same))
  | observe same => exact .inl (bare same)
  | observed same => exact .inl ((released _ _).trans (bare same))
  | changeWaits step => exact .inl step.frame.2.2
  | changeRefused step => exact .inl step.frame.2.2
  | changeInstalled step => exact .inl step.frame.2.2
  | pass step =>
    cases step with
    | unseen _ _ _ _ same => exact .inl (bare same)
    | _ => exact .inl rfl
  | passEnds _ same => exact .inl ((released _ _).trans (bare same))
  | readAll => exact .inl (released _ _)
  | workerWaits step => exact .inl step.frame.2.2
  | workerRefused step => exact .inl step.frame.2.2
  | @workerInstalled mid change phase seq step =>
    refine .inl (Eq.trans ?_ step.frame.2.2)
    unfold afterChange
    split
    · exact (beginPass_frame mid seq).2.2.2.2
    · exact released mid seq
  | fix same => exact .inl (bare same)
  | stopReleased step => exact .inl (releaseCurrent_frame step).2.2.2
  | shutdownReleased step => exact .inl (releaseCurrent_frame step).2.2.2
  | shutdownIdled _ same => exact .inl (bare same)
  | _ => exact .inl rfl

theorem Incident.stage {move : Move} (incident : Incident w move w') :
    w'.lifecycle = w.lifecycle ∨ (∃ params, move = .handshake params) ∨ move = .hear .initialized := by
  cases incident with
  | handshake params => exact .inr (.inl ⟨params, rfl⟩)
  | enter => exact .inr (.inr rfl)
  | endScope _ scope => exact .inl (Keeps.endScope w scope).lifecycle
  | openView name => exact .inl (Keeps.hold w.openView name 0).lifecycle
  | @beginPass seq => exact .inl (beginPass_frame (w.acquire seq) seq).2.2.2.2
  | @keep name number seq => exact .inl (Keeps.hold _ name seq).lifecycle
  | @clone name seq => exact .inl (Keeps.hold (w.acquire seq) name seq).lifecycle
  | @acquire name seq => exact .inl (Keeps.hold (w.acquire seq) name seq).lifecycle
  | letGo name => exact .inl (Keeps.letGo w name).lifecycle
  | _ => exact .inl rfl

/-- The views that were opened between two moments, by their first attempts at a runner. -/
def viewsOpened (w w' : Workspace) : List Task :=
  (w'.tasks.drop w.tasks.length).filter Task.opensView

/-- No view was opened between two moments. -/
structure OpensNone (w w' : Workspace) : Prop where
  empty : w.snapshots = [] → w'.snapshots = []
  views : w.viewsOpened w' = []

theorem viewsOpened_of_length (same : w'.tasks.length = w.tasks.length) : w.viewsOpened w' = [] := by
  simp [viewsOpened, ← same]

theorem viewsOpened_of_append {tasks more : List Task} (started : w'.tasks = tasks ++ more)
    (same : tasks.length = w.tasks.length) (other : ∀ task ∈ more, task.opensView = false) :
    w.viewsOpened w' = [] := by
  rw [viewsOpened, started, ← same, List.drop_left]
  exact List.filter_eq_nil_iff.mpr fun task member => by simp [other task member]

theorem OpensNone.of_eq (snapshots : w'.snapshots = w.snapshots)
    (same : w'.tasks.length = w.tasks.length) : OpensNone w w' :=
  ⟨fun none => snapshots.trans none, viewsOpened_of_length same⟩

theorem step_viewsOpened (stepped : w.step c eager number = some w') : w.viewsOpened w' = [] := by
  obtain ⟨task, mid, task', found, advance, -, rfl⟩ := step_advance stepped
  obtain ⟨more, started, passes⟩ := advance.tasks_append
  have within : number < w.tasks.length := (List.getElem?_eq_some_iff.mp found).1
  -- The task that goes on was there before; all tasks behind the former ones are passes.
  have behind : mid.tasks.set number task' = w.tasks.set number task' ++ more := by
    rw [started, List.set_append_left _ _ within]
  refine viewsOpened_of_append behind (List.length_set ..) fun new member => ?_
  obtain ⟨job, rfl, -⟩ := passes new member
  rfl

theorem Incident.viewsOpened {move : Move} (incident : Incident w move w')
    (unready : move ≠ .hear .initialized) (unasked : ∀ name, move ≠ .openView name) :
    w.viewsOpened w' = [] := by
  cases incident with
  | enter => exact absurd rfl unready
  | openView name => exact absurd rfl (unasked name)
  | spawn _ asked =>
    refine viewsOpened_of_append rfl rfl fun task member => ?_
    rw [List.mem_singleton.mp member]
    cases asked <;> rfl
  | endScope _ scope => cases scope <;> exact viewsOpened_of_length rfl
  | giveUp => exact viewsOpened_of_length (List.length_set ..)
  | @beginPass seq message =>
    have before : ((w.acquire seq).beginPass seq).tasks = w.tasks := (beginPass_frame _ seq).2.2.1
    refine viewsOpened_of_append rfl (congrArg _ before) fun task member => ?_
    rw [List.mem_singleton.mp member]
    rfl
  | @observe seq =>
    refine viewsOpened_of_append (w := w) rfl rfl fun task member => ?_
    rw [List.mem_singleton.mp member]
    rfl
  | @keep name number seq =>
    refine viewsOpened_of_length ?_
    rw [hold_tasks]
    exact List.length_set ..
  | clone => exact viewsOpened_of_length (congrArg _ (hold_tasks ..))
  | acquire => exact viewsOpened_of_length (congrArg _ (hold_tasks ..))
  | letGo name => exact viewsOpened_of_length (congrArg _ (letGo_frame w name).1)
  | _ => exact viewsOpened_of_length rfl

theorem act_opensNone (custody : Custody w) (move : Move) (unready : move ≠ .hear .initialized)
    (unasked : ∀ name, move ≠ .openView name) : OpensNone w (w.act c move) := by
  refine ⟨fun none => ?_, ?_⟩
  · exact act_snapshots_nil custody none move (fun ready => absurd ready unready)
      fun name asked => absurd asked (unasked name)
  · rcases act_cases c w move with ⟨number, eager, -, stepped⟩ | ⟨-, incident⟩
    · exact step_viewsOpened stepped
    · exact incident.viewsOpened unready unasked

theorem enterSession_cases (w : Workspace) :
    w.lifecycle = .initializing ∧ w.enterSession.lifecycle = .initialized ∧
        (w.viewsOpened w.enterSession).length = 1 ∨
      w.lifecycle ≠ .initializing ∧ w.enterSession = w := by
  by_cases stage : w.lifecycle = .initializing
  · refine .inl ⟨stage, ?_, ?_⟩
    · rw [enterSession, if_pos stage]
      exact (beginPass_frame _ 0).2.2.2.2
    · rw [enterSession, if_pos stage]
      -- The first attempt is followed by the worker and the first pass.
      simp only [viewsOpened, Workspace.spawn, (beginPass_frame _ _).2.2.1, openView,
        List.append_assoc, List.drop_left]
      rfl
  · refine .inr ⟨stage, ?_⟩
    rw [enterSession, if_neg stage]

theorem handshake_cases (w : Workspace) (params : InitializeParams) :
    (∃ root workspace, w.lifecycle = .created ∧ rootOf params = .ok root ∧ workspace.root = root ∧
      workspace.lifecycle = .initializing ∧ workspace.snapshots = w.snapshots ∧
      workspace.tasks = w.tasks ∧ w.handshake params = (.ok capabilities, workspace)) ∨
    ∃ error, (w.lifecycle ≠ .created ∨ rootOf params = .error error) ∧
      w.handshake params = (.error error, w) := by
  unfold handshake handshakeRefusal?
  cases stage : w.lifecycle with
  | created =>
    cases named : rootOf params with
    | ok root =>
      refine .inl ⟨root, _, rfl, rfl, ?_, ?_, ?_, ?_, rfl⟩
      all_goals rfl
    | error error => exact .inr ⟨error, .inr rfl, rfl⟩
  | _ => exact .inr ⟨_, .inl (by simp), rfl⟩

theorem takeModification_of_stage (stage : w.lifecycle ≠ .initialized) (modification : Modification) :
    w.takeModification modification = w := by
  rw [takeModification, if_neg stage]

end Workspace

end PolicyServer
