import PolicyServer.Proofs.Workspace.Growth

/-! Every snapshot that is spoken of exists, in whatever order things happen. -/

namespace PolicyServer

def Task.mentions : Task → List Nat
  | .load preparation | .observe preparation => [preparation.snapshot]
  | .change _ _ (.waiting preparation) => [preparation.snapshot]
  | .pass job => [job.snapshot]
  | .documents (.reading _ seq _ _) => [seq]
  | .documents (.changing _ (.waiting preparation)) => [preparation.snapshot]
  | .finished (.snapshot seq) => [seq]
  | _ => []

namespace Workspace

variable {c : Collaborators} {eager : Bool} {w w' : Workspace} {seq : Nat}

/-- Every snapshot that is spoken of exists, and there is none before the editor is ready. -/
structure Anchored (w : Workspace) : Prop where
  early : w.lifecycle = .initializing → w.snapshots = []
  current : ∀ seq ∈ w.current, seq < w.snapshots.length
  held : ∀ entry ∈ w.held, entry.2 < w.snapshots.length
  passes : ∀ pass ∈ w.passes, pass.snapshot < w.snapshots.length
  tasks : ∀ task ∈ w.tasks, ∀ seq ∈ task.mentions, seq < w.snapshots.length

theorem Extends.within (longer : Extends w w') (within : seq < w.snapshots.length) :
    seq < w'.snapshots.length := by
  obtain ⟨later, found, -⟩ := longer.snapshots (List.getElem?_eq_getElem within)
  exact (List.getElem?_eq_some_iff.mp found).1

theorem length_release (w : Workspace) (seq : Nat) :
    (w.release seq).snapshots.length = w.snapshots.length := by
  unfold release
  dsimp only
  split <;> simp [modifySnapshot]

theorem length_letGo (w : Workspace) (name : String) :
    (w.letGo name).snapshots.length = w.snapshots.length := by
  unfold letGo
  split
  · rfl
  · exact length_release w _

theorem length_of_bare (same : w'.bare = w.bare) : w'.snapshots.length = w.snapshots.length := by
  have length : w'.bare.snapshots.length = w.bare.snapshots.length := by rw [same]
  simpa [bare] using length

theorem length_beginChange (w : Workspace) (previous : Nat) (save : Bool) :
    (w.beginChange previous save).snapshots.length = w.snapshots.length := by
  unfold beginChange
  split <;> simp [modifySnapshot]

theorem length_install (w : Workspace) {previous : Nat} (within : previous < w.snapshots.length)
    (change : StateChange) :
    (w.install previous change).snapshots.length = w.snapshots.length + 1 := by
  -- The former snapshot is released, not removed.
  unfold install
  rw [List.getElem?_eq_getElem within]
  rw [length_release]
  simp

theorem snapshots_beginPass (w : Workspace) (seq : Nat) :
    (w.beginPass seq).snapshots = w.snapshots := by
  simp only [beginPass]
  split <;> rfl

namespace Anchored

theorem congr (anchored : Anchored w) (lifecycle : w'.lifecycle = w.lifecycle)
    (snapshots : w'.snapshots.length = w.snapshots.length) (current : w'.current = w.current)
    (held : w'.held = w.held)
    (passes : w'.passes.map Pass.snapshot = w.passes.map Pass.snapshot)
    (tasks : w'.tasks = w.tasks) : Anchored w' where
  early stage := by
    have none := anchored.early (lifecycle.symm.trans stage)
    rw [none] at snapshots
    exact List.length_eq_zero_iff.mp snapshots
  current := by
    rw [snapshots, current]
    exact anchored.current
  held := by
    rw [snapshots, held]
    exact anchored.held
  passes pass member := by
    rw [snapshots]
    -- The pass has a counterpart over the same snapshot among those before.
    have spoken : pass.snapshot ∈ w.passes.map Pass.snapshot := by
      rw [← passes]
      exact List.mem_map_of_mem member
    obtain ⟨before, member, same⟩ := List.mem_map.mp spoken
    rw [← same]
    exact anchored.passes before member
  tasks := by
    rw [snapshots, tasks]
    exact anchored.tasks

theorem of_bare (anchored : Anchored w) (same : w'.bare = w.bare) : Anchored w' := by
  refine anchored.congr (eq_of_bare same (·.lifecycle) fun _ => rfl) (length_of_bare same)
    (eq_of_bare same (·.current) fun _ => rfl) (eq_of_bare same (·.held) fun _ => rfl) ?_
    (eq_of_bare same (·.tasks) fun _ => rfl)
  rw [eq_of_bare same (·.passes) fun _ => rfl]

theorem modifySnapshot (anchored : Anchored w) (seq : Nat) (change : Snapshot → Snapshot) :
    Anchored (w.modifySnapshot seq change) :=
  anchored.congr rfl (by simp [Workspace.modifySnapshot]) rfl rfl rfl rfl

theorem acquire (anchored : Anchored w) (seq : Nat) : Anchored (w.acquire seq) :=
  anchored.modifySnapshot seq _

theorem release (anchored : Anchored w) (seq : Nat) : Anchored (w.release seq) := by
  have fewer := anchored.modifySnapshot seq
    fun snapshot => { snapshot with refs := snapshot.refs - 1 }
  unfold Workspace.release
  dsimp only
  split
  · exact fewer.congr rfl rfl rfl rfl rfl rfl
  · exact fewer

theorem letGo (anchored : Anchored w) (name : String) : Anchored (w.letGo name) := by
  unfold Workspace.letGo
  split
  · exact anchored
  · rename_i seq _
    have released := anchored.release seq
    -- Only names that were held before are left.
    refine ⟨released.early, released.current, fun entry member => ?_, released.passes,
      released.tasks⟩
    have kept : entry ∈ w.held := (List.mem_filter.mp member).1
    exact (length_release w seq).symm ▸ anchored.held entry kept

theorem hold (anchored : Anchored w) (name : String) (within : seq < w.snapshots.length) :
    Anchored (w.hold name seq) := by
  -- Letting go of what the name stood for removes no snapshot.
  have free := anchored.letGo name
  refine ⟨free.early, free.current, fun entry member => ?_, free.passes, free.tasks⟩
  rcases List.mem_append.mp member with before | new
  · exact free.held entry before
  · obtain rfl := List.mem_singleton.mp new
    exact (length_letGo w name).symm ▸ within

theorem spawn (anchored : Anchored w) {task : Task}
    (within : ∀ seq ∈ task.mentions, seq < w.snapshots.length) : Anchored (w.spawn task) := by
  refine ⟨anchored.early, anchored.current, anchored.held, anchored.passes, fun other member => ?_⟩
  rcases List.mem_append.mp member with before | new
  · exact anchored.tasks other before
  · obtain rfl := List.mem_singleton.mp new
    exact within

theorem setTask (anchored : Anchored w) (number : Nat) {task : Task}
    (within : ∀ seq ∈ task.mentions, seq < w.snapshots.length) :
    Anchored { w with tasks := w.tasks.set number task } := by
  refine ⟨anchored.early, anchored.current, anchored.held, anchored.passes, fun other member => ?_⟩
  rcases List.mem_or_eq_of_mem_set member with before | new
  · exact anchored.tasks other before
  · subst new
    exact within

theorem endScope (anchored : Anchored w) (scope : Scope) : Anchored (w.endScope scope) := by
  cases scope with
  | never => exact anchored
  | past => exact anchored
  | view => exact anchored.congr rfl rfl rfl rfl rfl rfl
  | pass number =>
    refine anchored.congr rfl rfl rfl rfl ?_ rfl
    -- A cancelled pass is still over the snapshot it was begun over.
    exact map_modify_of_eq w.passes number fun _ => rfl

theorem beginPass (anchored : Anchored w) (within : seq < w.snapshots.length) :
    Anchored (w.beginPass seq) := by
  -- The former pass is cancelled first, then the new one is listed behind it.
  have cancelled : Anchored
      (if w.passes.isEmpty then w else w.endScope (.pass (w.passes.length - 1))) := by
    split
    · exact anchored
    · exact anchored.endScope _
  refine ⟨cancelled.early, cancelled.current, cancelled.held, fun pass member => ?_,
    cancelled.tasks⟩
  rcases List.mem_append.mp member with before | new
  · exact cancelled.passes pass before
  · obtain rfl := List.mem_singleton.mp new
    rw [snapshots_beginPass]
    exact within

theorem beginChange (anchored : Anchored w) (previous : Nat) (save : Bool) :
    Anchored (w.beginChange previous save) := by
  have claimed : Anchored { w with changing := true } := anchored.congr rfl rfl rfl rfl rfl rfl
  unfold Workspace.beginChange
  split
  · exact claimed.modifySnapshot previous _
  · exact claimed

theorem install (anchored : Anchored w) {previous : Nat} (within : previous < w.snapshots.length)
    (change : StateChange) : Anchored (w.install previous change) := by
  unfold Workspace.install
  rw [List.getElem?_eq_getElem within]
  apply Anchored.release
  -- All that was spoken of comes before the new snapshot, which is now the current one.
  have room : ∀ seq, seq < w.snapshots.length → ∀ next : Snapshot,
      seq < (w.snapshots ++ [next]).length := by
    intro seq before next
    simp only [List.length_append, List.length_singleton]
    omega
  refine ⟨fun stage => ?_, fun seq here => ?_,
    fun entry member => room _ (anchored.held entry member) _,
    fun pass member => room _ (anchored.passes pass member) _,
    fun task member seq spoken => room _ (anchored.tasks task member seq spoken) _⟩
  · have none := anchored.early stage
    simp [none] at within
  · cases here
    simp

theorem releaseCurrent (anchored : Anchored w) (released : w.releaseCurrent = some w') :
    Anchored w' := by
  obtain ⟨-, ⟨-, rfl⟩ | ⟨seq, -, rfl⟩⟩ := releaseCurrent_cases released
  · exact anchored
  · -- The view speaks of no snapshot any more; all the others speak of what they did.
    have fewer := anchored.release seq
    exact ⟨fewer.early, fun _ none => by simp at none, fewer.held, fewer.passes, fewer.tasks⟩

theorem afterChange (anchored : Anchored w) (change : StateChange) (within : seq < w.snapshots.length) :
    Anchored (w.afterChange change seq) := by
  -- The new snapshot is handed to a pass, or let go.
  unfold Workspace.afterChange
  split
  · have begun := anchored.beginPass within
    refine begun.spawn fun other spoken => ?_
    obtain rfl := List.mem_singleton.mp spoken
    rw [snapshots_beginPass]
    exact within
  · exact anchored.release seq

end Anchored

theorem ChangeAdvance.anchored {change : StateChange} {scope : Scope} {phase : ChangePhase}
    {step : ChangeStep} (advance : ChangeAdvance c w change scope phase w' step)
    (anchored : Anchored w)
    (spoken : ∀ p, phase = .waiting p → p.snapshot < w.snapshots.length) :
    Anchored w' ∧ match step with
      | .waiting (.waiting p) => p.snapshot < w'.snapshots.length
      | .installed seq => seq < w'.snapshots.length
      | _ => True := by
  cases advance with
  | refuse => exact ⟨anchored, trivial⟩
  | start _ here =>
    refine ⟨anchored.beginChange _ _, ?_⟩
    rw [length_beginChange]
    exact anchored.current _ here
  | wait same kept =>
    refine ⟨anchored.of_bare same, ?_⟩
    dsimp only
    rw [length_of_bare same, kept]
    exact spoken _ rfl
  | @install p mid same =>
    -- The snapshot before it exists in the workspace that the installation starts from.
    have within : p.snapshot < mid.snapshots.length := by
      rw [length_of_bare same]
      exact spoken _ rfl
    refine ⟨(anchored.of_bare same).install within _, ?_⟩
    rw [length_install mid within]
    omega

theorem Advance.anchored {task task' : Task} (advance : Advance c w task w' task')
    (anchored : Anchored w) (spoken : ∀ seq ∈ task.mentions, seq < w.snapshots.length) :
    Anchored w' ∧ ∀ seq ∈ task'.mentions, seq < w'.snapshots.length := by
  have longer := advance.extends
  -- A task that speaks of the same snapshot as before speaks of one that goes on to exist.
  have kept : ∀ {p q : Preparation}, q.snapshot = p.snapshot →
      (∀ seq ∈ [p.snapshot], seq < w.snapshots.length) →
      ∀ seq ∈ [q.snapshot], seq < w'.snapshots.length := by
    intro p q same before seq member
    rw [same] at member
    exact longer.within (before seq member)
  have waits : ∀ {p : Preparation}, (∀ seq ∈ [p.snapshot], seq < w.snapshots.length) →
      p.snapshot < w.snapshots.length := fun before => before _ (List.mem_singleton.mpr rfl)
  cases advance with
  | forward same kind =>
    refine ⟨anchored.of_bare same, ?_⟩
    rcases kind with rfl | rfl <;> simp [Task.mentions]
  | load same alike => exact ⟨anchored.of_bare same, kept alike spoken⟩
  | loaded same => exact ⟨(anchored.of_bare same).release _, by simp [Task.mentions]⟩
  | observe same alike => exact ⟨anchored.of_bare same, kept alike spoken⟩
  | observed same => exact ⟨(anchored.of_bare same).release _, by simp [Task.mentions]⟩
  | take _ here =>
    refine ⟨anchored.acquire _, fun seq member => longer.within ?_⟩
    obtain rfl := List.mem_singleton.mp member
    exact anchored.current _ here
  | mark => exact ⟨anchored.congr rfl rfl rfl rfl rfl rfl, by simp [Task.mentions]⟩
  | @changeWaits _ _ _ phase phase' step =>
    obtain ⟨after, waiting⟩ := step.anchored anchored (fun p same => by
      subst same
      exact waits spoken)
    refine ⟨after, ?_⟩
    cases phase' with
    | turn => simp [Task.mentions]
    | waiting q => simpa [Task.mentions] using waiting
  | changeRefused step =>
    obtain ⟨after, -⟩ := step.anchored anchored (fun p same => by
      subst same
      exact waits spoken)
    exact ⟨after, by simp [Task.mentions]⟩
  | changeInstalled step =>
    obtain ⟨after, installed⟩ := step.anchored anchored (fun p same => by
      subst same
      exact waits spoken)
    exact ⟨after, by simpa [Task.mentions] using installed⟩
  | pass step =>
    refine ⟨?_, fun seq member => longer.within (spoken seq member)⟩
    cases step with
    | unseen _ _ _ _ same => exact anchored.of_bare same
    | _ => exact anchored.congr rfl rfl rfl rfl rfl rfl
  | passEnds _ same => exact ⟨(anchored.of_bare same).release _, by simp [Task.mentions]⟩
  | nextBatch => exact ⟨anchored.congr rfl rfl rfl rfl rfl rfl, by simp [Task.mentions]⟩
  | markNext => exact ⟨anchored.congr rfl rfl rfl rfl rfl rfl, by simp [Task.mentions]⟩
  | takeBefore _ here =>
    refine ⟨anchored.acquire _, fun seq member => longer.within ?_⟩
    obtain rfl := List.mem_singleton.mp member
    exact anchored.current _ here
  | readNext => exact ⟨anchored, spoken⟩
  | readAll => exact ⟨anchored.release _, by simp [Task.mentions]⟩
  | @workerWaits _ _ phase phase' step =>
    obtain ⟨after, waiting⟩ := step.anchored anchored (fun p same => by
      subst same
      exact waits spoken)
    refine ⟨after, ?_⟩
    cases phase' with
    | turn => simp [Task.mentions]
    | waiting q => simpa [Task.mentions] using waiting
  | workerRefused step =>
    obtain ⟨after, -⟩ := step.anchored anchored (fun p same => by
      subst same
      exact waits spoken)
    exact ⟨after, by simp [Task.mentions]⟩
  | workerInstalled step =>
    obtain ⟨after, installed⟩ := step.anchored anchored (fun p same => by
      subst same
      exact waits spoken)
    exact ⟨after.afterChange _ installed, by simp [Task.mentions]⟩
  | fix same kind =>
    refine ⟨anchored.of_bare same, ?_⟩
    rcases kind with ⟨job, rfl⟩ | ⟨outcome, rfl⟩ <;> simp [Task.mentions]
  | stopTold => exact ⟨anchored.endScope .view, by simp [Task.mentions]⟩
  | stopReleased released => exact ⟨anchored.releaseCurrent released, by simp [Task.mentions]⟩
  | shutdownEarly =>
    refine ⟨⟨fun stage => by simp at stage, anchored.current, anchored.held, anchored.passes,
      anchored.tasks⟩, by simp [Task.mentions]⟩
  | shutdownTold =>
    have told := anchored.endScope .view
    exact ⟨⟨fun stage => by simp at stage, told.current, told.held, told.passes, told.tasks⟩,
      by simp [Task.mentions]⟩
  | shutdownReleased released => exact ⟨anchored.releaseCurrent released, by simp [Task.mentions]⟩
  | shutdownIdled _ same => exact ⟨anchored.of_bare same, by simp [Task.mentions]⟩
  | _ => exact ⟨anchored, by simp [Task.mentions]⟩

end Workspace

end PolicyServer
