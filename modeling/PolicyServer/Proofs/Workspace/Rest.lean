import PolicyServer.Proofs.Workspace.Onward

/-! A workspace whose snapshots nobody refers to is at rest: nothing is made, run or published. -/

namespace PolicyServer.Workspace

variable {c : Collaborators} {eager : Bool} {w w' w'' : Workspace} {number : Nat} {task task' : Task}
  {moves : List Move}

/-! ### Nobody holds anything -/

theorem Custody.nobody (custody : Custody w) (idle : w.live = 0) : w.holders = [] := by
  -- A holder would be counted by its snapshot, which would then be live.
  apply List.eq_nil_iff_forall_not_mem.mpr
  intro seq member
  have referred := custody.balanced.referred member
  have within := within_of_refsOf referred
  have counted : 0 < w.refCounts.countP (0 < ·) := by
    refine List.countP_pos_iff.mpr ⟨w.refCounts[seq], List.getElem_mem within, ?_⟩
    simpa [refsOf, List.getElem?_eq_getElem within] using referred
  rw [← custody.balanced.live, idle] at counted
  exact absurd counted (Nat.lt_irrefl 0)

theorem Custody.unreferred (custody : Custody w) (idle : w.live = 0) :
    ∀ snapshot ∈ w.snapshots, snapshot.refs = 0 := by
  -- The live snapshots are counted by their references, so none has any.
  intro snapshot member
  have counts := custody.balanced.live
  rw [idle] at counts
  have zero := List.countP_eq_zero.mp counts.symm snapshot.refs (List.mem_map_of_mem member)
  simpa using zero

theorem Custody.gone (custody : Custody w) (idle : w.live = 0) : w.current = none := by
  have nobody := custody.nobody idle
  cases here : w.current with
  | none => rfl
  | some seq => simp [holders, here] at nobody

theorem Custody.unnamed (custody : Custody w) (idle : w.live = 0) : w.held = [] := by
  have nobody := custody.nobody idle
  simp only [holders, List.append_eq_nil_iff, List.map_eq_nil_iff] at nobody
  exact nobody.1.2

theorem Custody.holds_nothing (custody : Custody w) (idle : w.live = 0)
    (found : w.tasks[number]? = some task) : task.holds = [] := by
  have nobody := custody.nobody idle
  simp only [holders, List.append_eq_nil_iff, List.flatMap_eq_nil_iff] at nobody
  exact nobody.2 task (List.mem_of_getElem? found)

theorem Custody.waits_not (custody : Custody w) (idle : w.live = 0)
    (found : w.tasks[number]? = some task) : task.waits? = none := by
  -- Whoever waits for a change waits over the current snapshot, and there is none.
  cases waits : task.waits? with
  | none => rfl
  | some p =>
    have busy := (custody.gated.busy found waits).2
    rw [custody.gone idle] at busy
    cases busy

theorem Custody.not_isReferred (custody : Custody w) (idle : w.live = 0) (seq : Nat) :
    w.isReferred seq = false := by
  -- A snapshot that is referred to has a holder.
  cases referred : w.isReferred seq with
  | false => rfl
  | true =>
    have held := custody.holder_of_isReferred referred
    rw [custody.nobody idle] at held
    cases held

theorem Custody.no_pass (custody : Custody w) (idle : w.live = 0) :
    ∀ task ∈ w.tasks, task.job? = none := by
  -- A pass holds its snapshot to its end.
  intro task member
  obtain ⟨number, found⟩ := List.mem_iff_getElem?.mp member
  have empty := custody.holds_nothing idle found
  cases task with
  | pass job => cases empty
  | _ => rfl

/-! ### Nothing happens -/

/-- No snapshot is made or let go of, no pass begun, no runner invoked and nothing published. -/
structure Still (w w' : Workspace) : Prop where
  snapshots : w'.snapshots.length = w.snapshots.length
  live : w'.live = w.live
  passes : w'.passes.length = w.passes.length
  runs : w'.runs = w.runs
  told : w.told = [] → w'.told = []

theorem Still.refl (w : Workspace) : Still w w := ⟨rfl, rfl, rfl, rfl, id⟩

theorem Still.trans (first : Still w w') (second : Still w' w'') : Still w w'' :=
  ⟨second.snapshots.trans first.snapshots, second.live.trans first.live,
    second.passes.trans first.passes, second.runs.trans first.runs,
    fun silent => second.told (first.told silent)⟩

theorem Still.of_eq (snapshots : w'.snapshots.length = w.snapshots.length) (live : w'.live = w.live)
    (stake : w'.stake = w.stake) : Still w w' where
  snapshots := snapshots
  live := live
  passes := congrArg _ (passes_of_stake stake)
  runs := congrArg Stake.runs stake
  told silent := (congrArg Stake.told stake).trans silent

theorem Still.of_bare (same : w'.bare = w.bare) : Still w w' :=
  .of_eq (length_of_bare same) (eq_of_bare same (·.live) fun _ => rfl) (stake_of_bare same)

theorem Still.setTask (still : Still w w') (number : Nat) (task' : Task) :
    Still w { w' with tasks := w'.tasks.set number task' } :=
  ⟨still.snapshots, still.live, still.passes, still.runs, still.told⟩

theorem releaseCurrent_of_gone (gone : w.current = none) (released : w.releaseCurrent = some w') :
    w' = w := by
  obtain ⟨-, ⟨-, same⟩ | ⟨seq, here, -⟩⟩ := releaseCurrent_cases released
  · exact same
  · rw [gone] at here
    cases here

theorem ChangeAdvance.refused_of_gone {change : StateChange} {scope : Scope} {phase : ChangePhase}
    {step : ChangeStep} (advance : ChangeAdvance c w change scope phase w' step)
    (gone : w.current = none) (free : ∀ p, phase ≠ .waiting p) : w' = w ∧ step = .refused := by
  -- A change needs a current snapshot to begin from, or must have begun.
  cases advance with
  | refuse => exact ⟨rfl, rfl⟩
  | start _ here =>
    rw [gone] at here
    cases here
  | _ => exact absurd rfl (free _)

theorem Advance.still (advance : Advance c w task w' task') (custody : Custody w)
    (idle : w.live = 0) (found : w.tasks[number]? = some task) : Still w w' := by
  -- A step that needs a reference, a current snapshot or a begun change is not possible.
  have empty := custody.holds_nothing idle found
  have free := custody.waits_not idle found
  have gone := custody.gone idle
  cases advance with
  | forward same => exact .of_bare same
  | load => cases empty
  | loaded => cases empty
  | observe => cases empty
  | observed => cases empty
  | take _ here =>
    rw [gone] at here
    cases here
  | mark => exact ⟨rfl, rfl, rfl, rfl, id⟩
  | changeWaits step =>
    obtain ⟨-, refused⟩ := step.refused_of_gone gone (by rintro p rfl; cases free)
    cases refused
  | changeRefused step =>
    obtain ⟨rfl, -⟩ := step.refused_of_gone gone (by rintro p rfl; cases free)
    exact .refl w'
  | changeInstalled step =>
    obtain ⟨-, refused⟩ := step.refused_of_gone gone (by rintro p rfl; cases free)
    cases refused
  | pass => cases empty
  | passEnds => cases empty
  | nextBatch => exact .of_eq rfl rfl rfl
  | markNext => exact ⟨rfl, rfl, rfl, rfl, id⟩
  | takeBefore _ here =>
    rw [gone] at here
    cases here
  | readNext => cases empty
  | readAll => cases empty
  | workerWaits step =>
    obtain ⟨-, refused⟩ := step.refused_of_gone gone (by rintro p rfl; cases free)
    cases refused
  | workerRefused step =>
    obtain ⟨rfl, -⟩ := step.refused_of_gone gone (by rintro p rfl; cases free)
    exact .refl w'
  | workerInstalled step =>
    obtain ⟨-, refused⟩ := step.refused_of_gone gone (by rintro p rfl; cases free)
    cases refused
  | fix same => exact .of_bare same
  | stopTold => exact .of_eq rfl rfl rfl
  | stopReleased released =>
    rw [releaseCurrent_of_gone gone released]
    exact .refl w
  | shutdownEarly => exact .of_eq rfl rfl rfl
  | shutdownTold => exact .of_eq rfl rfl rfl
  | shutdownReleased released =>
    rw [releaseCurrent_of_gone gone released]
    exact .refl w
  | shutdownIdled _ same => exact .of_bare same
  | _ => exact .refl w

theorem Still.endScope (w : Workspace) (scope : Scope) : Still w (w.endScope scope) := by
  cases scope with
  | pass number => exact ⟨rfl, rfl, List.length_modify .., rfl, id⟩
  | _ => exact .of_eq rfl rfl rfl

theorem Incident.still {move : Move} (incident : Incident w move w') (custody : Custody w)
    (idle : w.live = 0) (stage : move = .hear .initialized → w.lifecycle ≠ .initializing)
    (shut : ∀ name, move = .openView name → w.lifecycle ≠ .created) : Still w w' := by
  -- Nobody refers to a snapshot, so no move that needs a referred one is possible.
  have unreferred : ∀ {seq}, w.isReferred seq ≠ true := by
    intro seq
    simp [custody.not_isReferred idle seq]
  cases incident with
  | around => exact .of_eq rfl rfl rfl
  | flush => exact ⟨rfl, rfl, rfl, rfl, fun _ => rfl⟩
  | handshake => exact .of_eq rfl rfl rfl
  | enter =>
    simp only [enterSession, if_neg (stage rfl)]
    exact .refl w
  | spawn _ asked => exact .of_eq rfl rfl (stake_spawn (by cases asked <;> rfl))
  | endScope _ scope => exact .endScope w scope
  | openView name created => exact absurd created (shut name rfl)
  | beginPass _ referred => exact absurd referred unreferred
  | observe _ referred => exact absurd referred unreferred
  | keep _ found => cases custody.holds_nothing idle found
  | clone _ referred => exact absurd referred unreferred
  | acquire _ here =>
    rw [custody.gone idle] at here
    cases here
  | letGo name =>
    simp only [Workspace.letGo, custody.unnamed idle]
    exact .refl w
  | _ => exact ⟨rfl, rfl, rfl, rfl, id⟩

theorem act_still (custody : Custody w) (idle : w.live = 0) (move : Move)
    (stage : move = .hear .initialized → w.lifecycle ≠ .initializing)
    (shut : ∀ name, move = .openView name → w.lifecycle ≠ .created) :
    Still w (w.act c move) := by
  rcases act_cases c w move with ⟨number, eager, rfl, stepped⟩ | ⟨-, incident⟩
  · obtain ⟨task, mid, task', found, advance, -, same⟩ := step_advance stepped
    rw [same]
    exact (advance.still custody idle found).setTask number task'
  · exact incident.still custody idle stage shut

theorem act_snapshots_nil (custody : Custody w) (none : w.snapshots = []) (move : Move)
    (stage : move = .hear .initialized → w.lifecycle ≠ .initializing)
    (shut : ∀ name, move = .openView name → w.lifecycle ≠ .created) :
    (w.act c move).snapshots = [] := by
  have idle := custody.balanced.idle_of_empty none
  have length := (act_still (c := c) custody idle move stage shut).snapshots
  rw [none] at length
  exact List.eq_nil_of_length_eq_zero length

/-! ### Courses -/

/-- What holds of a workspace throughout a session. -/
structure Sound (w : Workspace) : Prop where
  anchored : Anchored w
  custody : Custody w
  tally : w.tasks.countP Task.isPass = w.passes.length
  early : w.lifecycle = .created → w.snapshots = []

/-- Holds for all moves but the one that opens the view by itself, which a session never makes. -/
def Move.isOfSession : Move → Bool
  | .openView _ => false
  | _ => true

theorem eq_created_of_rank {stage : Lifecycle} (before : stage.rank ≤ Lifecycle.created.rank) :
    stage = .created := by
  cases stage with
  | created => rfl
  | _ => simp [Lifecycle.rank] at before

theorem eq_shutDown_of_rank {stage : Lifecycle} (after : Lifecycle.shutDown.rank ≤ stage.rank) :
    stage = .shutDown := by
  cases stage with
  | shutDown => rfl
  | _ => simp [Lifecycle.rank] at after

theorem Sound.act (sound : Sound w) {move : Move} (ours : move.isOfSession = true) :
    Sound (w.act c move) := by
  have onward := act_onward (c := c) w move
  refine ⟨(act_spec sound.anchored move).1, sound.custody.act sound.anchored move, ?_, ?_⟩
  · have tally := onward.tally
    have before := sound.tally
    omega
  · -- Before the handshake there is no snapshot, and where there is none, none comes to be.
    intro created
    have stage : w.lifecycle = .created := eq_created_of_rank (created ▸ onward.stage)
    exact act_snapshots_nil sound.custody (sound.early stage) move (by simp [stage])
      (by rintro name rfl; cases ours)

theorem fresh_sound (names : Nat → String) (supported : Bool) (limit : Nat) :
    Sound (fresh names supported limit) :=
  ⟨fresh_anchored names supported limit, fresh_custody names supported limit, rfl, fun _ => rfl⟩

theorem Sound.play (sound : Sound w) (ours : ∀ move ∈ moves, move.isOfSession = true) :
    Sound (w.play c moves) := by
  -- What a session does keeps a workspace sound, move by move.
  induction moves generalizing w with
  | nil => exact sound
  | cons move rest ih =>
    exact ih (sound.act (ours move List.mem_cons_self))
      fun other member => ours other (List.mem_cons_of_mem _ member)

/-- The workspace is shut down, and nobody refers to any of its snapshots. -/
structure Settled (w : Workspace) : Prop where
  stage : w.lifecycle = .shutDown
  idle : w.live = 0

theorem Settled.act (settled : Settled w) (sound : Sound w) (move : Move) :
    Settled (w.act c move) ∧ Still w (w.act c move) := by
  -- No stage follows the last one, and no move makes a snapshot live.
  have still := act_still (c := c) sound.custody settled.idle move (by simp [settled.stage])
    (by simp [settled.stage])
  have stage := (act_onward (c := c) w move).stage
  rw [settled.stage] at stage
  exact ⟨⟨eq_shutDown_of_rank stage, still.live.trans settled.idle⟩, still⟩

theorem Settled.play (settled : Settled w) (sound : Sound w)
    (ours : ∀ move ∈ moves, move.isOfSession = true) :
    Settled (w.play c moves) ∧ Still w (w.play c moves) := by
  -- Rest is kept by each move, and so is what makes it last.
  induction moves generalizing w with
  | nil => exact ⟨settled, .refl w⟩
  | cons move rest ih =>
    obtain ⟨settled', still⟩ := settled.act (c := c) sound move
    obtain ⟨last, after⟩ := ih settled' (sound.act (ours move List.mem_cons_self))
      fun other member => ours other (List.mem_cons_of_mem _ member)
    exact ⟨last, still.trans after⟩

/-! ### Shutting down -/

/--
The task of a number is shutting the workspace down, or has done so.

The request is answered only when nobody refers to a snapshot any more.
-/
structure Closing (w : Workspace) (number : Nat) : Prop where
  stage : w.lifecycle = .shutDown
  task : w.tasks[number]? = some (.shutdown .releasing) ∨
    w.tasks[number]? = some (.shutdown .idling) ∨
    (∃ outcome, w.tasks[number]? = some (.finished (.reply outcome))) ∧ w.live = 0

theorem closing_of_accept (found : w.tasks[number]? = some (.shutdown .telling))
    (stage : w.lifecycle = .initializing ∨ w.lifecycle = .initialized) (eager : Bool) :
    Closing (w.act c (.step number eager)) number := by
  -- Before the session is entered there is no view to release, so that phase is left out.
  have within := (List.getElem?_eq_some_iff.mp found).1
  rcases stage with stage | stage
  · simp only [act, step, found, stepTask, stepShutdown, stage, Option.bind_eq_bind,
      Option.bind_some, Option.getD_some]
    exact ⟨rfl, .inr (.inl (by simp [within]))⟩
  · simp only [act, step, found, stepTask, stepShutdown, stage, Option.bind_eq_bind,
      Option.bind_some, Option.getD_some]
    exact ⟨rfl, .inl (by simp [within, endScope])⟩

theorem Closing.step (closing : Closing w number) (stepped : w.step c eager number = some w') :
    Closing w' number := by
  -- The phases follow one another: released, then idle, then over once nothing is live.
  obtain ⟨task, mid, task', found, advance, -, rfl⟩ := step_advance stepped
  obtain ⟨-, onward, there⟩ := advance.onward found
  have within := (List.getElem?_eq_some_iff.mp there).1
  have stage := onward.stage
  rw [closing.stage] at stage
  refine ⟨eq_shutDown_of_rank stage, ?_⟩
  rcases closing.task with releasing | idling | ⟨⟨outcome, complete⟩, -⟩
  · obtain rfl := Option.some.inj (found.symm.trans releasing)
    -- The view lets go of its snapshot.
    cases advance with
    | shutdownReleased => exact .inr (.inl (by simp [within]))
  · obtain rfl := Option.some.inj (found.symm.trans idling)
    cases advance with
    | shutdownIdled idle same =>
      have live := eq_of_bare same (·.live) fun _ => rfl
      exact .inr (.inr ⟨⟨_, by simp [within]; rfl⟩, live.trans idle⟩)
  · obtain rfl := Option.some.inj (found.symm.trans complete)
    cases advance

theorem Closing.act (closing : Closing w number) (sound : Sound w) (move : Move) :
    Closing (w.act c move) number := by
  by_cases mine : move.stepped? = some number
  · cases move with
    | step other eager =>
      cases mine
      simp only [Workspace.act]
      cases stepped : w.step c eager number with
      | none => exact closing
      | some after => exact closing.step stepped
    | _ => cases mine
  · -- The request stays as it is; once it is answered, the workspace has settled.
    have onward := act_onward (c := c) w move
    have stage := onward.stage
    rw [closing.stage] at stage
    refine ⟨eq_shutDown_of_rank stage, ?_⟩
    rcases closing.task with releasing | idling | ⟨⟨outcome, complete⟩, idle⟩
    · exact .inl (onward.waits mine rfl releasing)
    · exact .inr (.inl (onward.waits mine rfl idling))
    · have settled : Settled w := ⟨closing.stage, idle⟩
      have after := (settled.act (c := c) sound move).1
      exact .inr (.inr ⟨⟨outcome, onward.waits mine rfl complete⟩, after.idle⟩)

theorem Closing.play (closing : Closing w number) (sound : Sound w)
    (ours : ∀ move ∈ moves, move.isOfSession = true) : Closing (w.play c moves) number := by
  induction moves generalizing w with
  | nil => exact closing
  | cons move rest ih =>
    exact ih (closing.act sound move) (sound.act (ours move List.mem_cons_self))
      fun other member => ours other (List.mem_cons_of_mem _ member)

theorem Closing.settled (closing : Closing w number) {outcome : Except Rpc.Error Json}
    (complete : w.tasks[number]? = some (.finished (.reply outcome))) : Settled w := by
  -- The task answers only from its last phase, which it reaches when nothing is live.
  refine ⟨closing.stage, ?_⟩
  rcases closing.task with releasing | idling | ⟨-, idle⟩
  · cases complete.symm.trans releasing
  · cases complete.symm.trans idling
  · exact idle

end PolicyServer.Workspace
