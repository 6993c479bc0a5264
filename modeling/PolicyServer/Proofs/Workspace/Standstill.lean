import PolicyServer.Proofs.Workspace.Awaited
import PolicyServer.Proofs.Workspace.Rest

/-! A workspace at a standstill: when no task can go on, whoever still holds a snapshot waits for the
editor to answer, or is not a task of the workspace at all. -/

namespace PolicyServer

variable {p : Preparation}

def Task.leaves : Task → List Nat
  | .finished (.snapshot seq) => [seq]
  | _ => []

theorem Task.mentions_of_search {task : Task} (search : task.search? = some p) :
    ∃ seq, seq ∈ task.mentions := by
  cases task with
  | load q => exact ⟨_, List.mem_cons_self⟩
  | observe q => exact ⟨_, List.mem_cons_self⟩
  | pass job => exact ⟨_, List.mem_cons_self⟩
  | change made scope phase =>
    cases phase with
    | turn => cases search
    | waiting q => exact ⟨_, List.mem_cons_self⟩
  | documents phase =>
    cases phase with
    | changing made phase =>
      cases phase with
      | turn => cases search
      | waiting q => exact ⟨_, List.mem_cons_self⟩
    | _ => cases search
  | _ => cases search

namespace Workspace

variable {c : Collaborators} {eager : Bool} {w w' : Workspace} {number : Nat} {task task' : Task}

/-- The snapshots held from outside: by name, or as the result of a task that nobody has taken. -/
def heldOutside (w : Workspace) : List Nat := w.held.map (·.2) ++ w.tasks.flatMap Task.leaves

/-- No task can go on, and none waits for a time that is still to come. -/
structure Standstill (c : Collaborators) (w : Workspace) : Prop where
  stuck : ∀ number, w.step c false number = none
  past : ∀ task ∈ w.tasks, ∀ due ∈ task.due, due ≤ w.clock

theorem standstill_iff : Standstill c w ↔
    (∀ number < w.tasks.length, (w.step c false number).isNone = true) ∧
      ∀ task ∈ w.tasks, ∀ due ∈ task.due, due ≤ w.clock := by
  refine ⟨fun still => ⟨fun number _ => by simp [still.stuck number], still.past⟩, ?_⟩
  rintro ⟨stuck, past⟩
  refine ⟨fun number => ?_, past⟩
  by_cases within : number < w.tasks.length
  · exact Option.isNone_iff_eq_none.mp (stuck number within)
  · have missing : w.tasks[number]? = none := List.getElem?_eq_none_iff.mpr (Nat.le_of_not_lt within)
    simp [step, missing]

instance : Decidable (Standstill c w) := decidable_of_iff _ standstill_iff.symm

theorem Standstill.stepTask_eq_none (still : Standstill c w) (member : task ∈ w.tasks) :
    w.stepTask c false task = none := by
  obtain ⟨number, found⟩ := List.mem_iff_getElem?.mp member
  have stuck := still.stuck number
  simp only [step, found, Option.bind_eq_bind, Option.bind_some, Option.bind_eq_none_iff] at stuck
  -- A step of the task would be one of the workspace.
  cases stepped : w.stepTask c false task with
  | none => rfl
  | some after => exact absurd (stuck after stepped) (by simp)

/-! ### The first attempt of all -/

def Attempted (w : Workspace) : Prop :=
  w.snapshots = [] ∨ w.loaded = true ∨
    ∃ p : Preparation, .load p ∈ w.tasks ∧ p.first = true ∧ p.phase ≠ .load

theorem Attempted.step (attempted : Attempted w) (custody : Custody w)
    (found : w.tasks[number]? = some task) (stepped : w.stepTask c eager task = some (w', task')) :
    Attempted { w' with tasks := w'.tasks.set number task' } := by
  have advance := stepTask_advance stepped
  have there := advance.found_after found
  have within : number < w'.tasks.length := (List.getElem?_eq_some_iff.mp there).1
  rcases attempted with empty | loaded | ⟨p, listed, first, phase⟩
  · -- Where there is no snapshot, none is made.
    have idle := custody.balanced.idle_of_empty empty
    have length := (advance.still custody idle found).snapshots
    rw [empty] at length
    exact .inl (List.eq_nil_of_length_eq_zero length)
  · exact .inr (.inl ((stepTask_show stepped).grows.loaded loaded))
  · by_cases mine : task = .load p
    · -- The attempt goes on, or it is known to be over.
      subst mine
      cases advance with
      | load _ _ inquiry =>
        obtain ⟨same, later⟩ := inquiry.first_eq
        exact .inr (.inr ⟨_, List.mem_of_getElem? (List.getElem?_set_self within),
          same.trans first, later⟩)
      | @loaded mid _ _ inquiry =>
        have kept : (mid.release p.snapshot).loaded = mid.loaded :=
          eq_of_rim (rim_release mid p.snapshot) loaded fun _ => rfl
        exact .inr (.inl (kept.trans (inquiry.loads first)))
    · -- The attempt is where it was.
      obtain ⟨place, here⟩ := List.mem_iff_getElem?.mp listed
      have apart : number ≠ place := by
        rintro rfl
        exact mine (Option.some.inj (found.symm.trans here))
      refine .inr (.inr ⟨p, List.mem_of_getElem? (i := place) ?_, first, phase⟩)
      rw [List.getElem?_set_ne apart]
      obtain ⟨more, appended, -⟩ := advance.tasks_append
      rw [appended]
      exact task_of_append here more

theorem Incident.attempted {move : Move} (incident : Incident w move w') (anchored : Anchored w)
    (attempted : Attempted w) : Attempted w' := by
  rcases attempted with empty | before | ⟨p, listed, first, phase⟩
  · -- Only the view that is opened gets a snapshot where there is none, and an attempt with it.
    have none : ∀ {seq}, w.isReferred seq ≠ true := by simp [isReferred, empty]
    have hold : ∀ (v : Workspace) name seq, v.snapshots = [] → (v.hold name seq).snapshots = [] := by
      intro v name seq nothing
      have length : (v.hold name seq).snapshots.length = v.snapshots.length := length_letGo v name
      rw [nothing] at length
      exact List.eq_nil_of_length_eq_zero length
    cases incident with
    | enter =>
      unfold enterSession
      split
      · refine .inr (.inr ⟨{ snapshot := 0, scope := .view, first := true, phase := .turn }, ?_, rfl,
          by simp⟩)
        simp [Workspace.spawn, (beginPass_frame _ _).2.2.1, Workspace.openView]
      · exact .inl empty
    | endScope _ scope => cases scope <;> exact .inl empty
    | openView name =>
      refine .inr (.inr ⟨{ snapshot := 0, scope := .view, first := true, phase := .turn }, ?_, rfl,
        by simp⟩)
      rw [hold_tasks]
      simp [Workspace.openView, Workspace.spawn]
    | beginPass _ referred => exact absurd referred none
    | observe _ referred => exact absurd referred none
    | keep name => exact .inl (hold _ name _ empty)
    | clone _ referred => exact absurd referred none
    | acquire name here =>
      have within := anchored.current _ here
      simp [empty] at within
    | letGo name =>
      have length := length_letGo w name
      rw [empty] at length
      exact .inl (List.eq_nil_of_length_eq_zero length)
    | _ => exact .inl empty
  · have kept : w'.loaded = w.loaded := congrArg Surface.loaded incident.surface
    exact .inr (.inl (kept.trans before))
  · exact .inr (.inr ⟨p, incident.shift.mem listed rfl, first, phase⟩)

theorem play_attempted (names : Nat → String) (supported : Bool) (limit : Nat)
    (moves : List Move) : Attempted ((fresh names supported limit).play c moves) := by
  -- Custody is what keeps a snapshot from being made where there is none.
  have run : ∀ w : Workspace, Kept w → Attempted w → Attempted (w.play c moves) := by
    induction moves with
    | nil => exact fun w _ attempted => attempted
    | cons move rest ih =>
      intro w kept attempted
      have next := (kept.undergo (c := c) (.move move)).1
      refine ih _ next ?_
      rcases act_cases c w move with ⟨number, eager, rfl, stepped⟩ | ⟨-, incident⟩
      · obtain ⟨task, mid, task', found, -, taken, same⟩ := step_advance stepped
        rw [same]
        exact attempted.step kept.custody found taken
      · exact incident.attempted kept.anchored attempted
  exact run _ (fresh_kept names supported limit) (.inl rfl)

/-! ### Who is stuck -/

theorem prepare_eq_none (stuck : w.prepare c false p = none) :
    (p.phase = .load ∧ w.loaded = false) ∨ (p.phase = .turn ∧ w.resolving = true) ∨
      ∃ request due, p.phase = .resolving request due ∧ w.clock < due := by
  unfold prepare at stuck
  dsimp only at stuck
  split at stuck
  · rename_i phase
    split at stuck
    · cases stuck
    · rename_i waits
      split at stuck
      · cases stuck
      · rename_i awake
        exact .inl ⟨phase, by simpa [awake] using waits⟩
  · rename_i phase
    split at stuck
    · split at stuck <;> cases stuck
    · rename_i waits
      split at stuck
      · cases stuck
      · rename_i awake
        exact .inr (.inl ⟨phase, by simpa [awake] using waits⟩)
  · rename_i request due phase
    split at stuck
    · split at stuck <;> cases stuck
    · rename_i waits
      simp only [Bool.or_eq_true, decide_eq_true_eq, not_or, Nat.not_le] at waits
      exact .inr (.inr ⟨request, due, phase, waits.1⟩)

theorem stuck_of_search (search : task.search? = some p) (stuck : w.stepTask c false task = none) :
    w.prepare c false p = none ∧ ∀ due ∈ Task.dueOfPreparation p, due ∈ task.due := by
  -- A search that goes on lets its task go on.
  have goes : ∀ {α : Type} {next : Workspace × Option Preparation → Option α},
      (w.prepare c false p).bind next = none → (∀ after, next after ≠ none) →
      w.prepare c false p = none := by
    intro α next none some
    cases prepared : w.prepare c false p with
    | none => rfl
    | some after =>
      rw [prepared] at none
      exact absurd none (some after)
  -- A change in a search goes on as the search does.
  have changes : ∀ {α : Type} {change scope} {next : Workspace × ChangeStep → Option α},
      (w.stepChange c false change scope (.waiting p)).bind next = none →
      (∀ after, next after ≠ none) → w.prepare c false p = none := by
    intro α change scope next none some
    simp only [stepChange, Option.bind_eq_bind, Option.bind_assoc] at none
    refine goes none fun after => ?_
    obtain ⟨mid, rest⟩ := after
    cases rest <;> exact some _
  cases task with
  | load q =>
    cases search
    refine ⟨goes stuck fun after => ?_, fun _ => id⟩
    obtain ⟨mid, rest⟩ := after
    cases rest <;> simp
  | observe q =>
    cases search
    refine ⟨goes stuck fun after => ?_, fun _ => id⟩
    obtain ⟨mid, rest⟩ := after
    cases rest <;> simp
  | pass job =>
    obtain ⟨pass, snapshot, message, phase⟩ := job
    cases phase with
    | preparing work q =>
      cases search
      simp only [stepTask, stepPass, stepPhase, Option.map_eq_none_iff] at stuck
      refine ⟨goes stuck fun after => ?_, fun _ => id⟩
      obtain ⟨mid, rest⟩ := after
      cases rest <;> simp
    | _ => cases search
  | change made scope phase =>
    cases phase with
    | turn => cases search
    | waiting q =>
      cases search
      refine ⟨changes stuck fun after => ?_, fun _ => id⟩
      obtain ⟨mid, step⟩ := after
      cases step <;> simp
  | documents phase =>
    cases phase with
    | changing made phase =>
      cases phase with
      | turn => cases search
      | waiting q =>
        cases search
        refine ⟨changes stuck fun after => ?_, fun _ => id⟩
        obtain ⟨mid, step⟩ := after
        cases step <;> simp
    | _ => cases search
  | _ => cases search

theorem InTurn.free {turn : Turn} (inTurn : InTurn w turn)
    (nobody : ∀ task ∈ w.tasks, task.hasTurn turn = false) : w.isTaken turn = false := by
  have none : w.tasks.countP (Task.hasTurn turn) = 0 := by
    rw [List.countP_eq_zero]
    intro task member
    simp [nobody task member]
  rw [inTurn] at none
  cases taken : w.isTaken turn with
  | false => rfl
  | true =>
    rw [taken] at none
    cases none

theorem Standstill.no_search (still : Standstill c w) (anchored : Anchored w)
    (attempted : Attempted w) (turn : InTurn w .resolver) (member : task ∈ w.tasks) :
    task.search? = none := by
  have stuck : ∀ {other : Task} {p : Preparation}, other ∈ w.tasks → other.search? = some p →
      (p.phase = .load ∧ w.loaded = false) ∨ (p.phase = .turn ∧ w.resolving = true) := by
    intro other p listed search
    obtain ⟨waits, times⟩ := stuck_of_search search (still.stepTask_eq_none listed)
    rcases prepare_eq_none waits with first | queued | ⟨request, due, phase, later⟩
    · exact .inl first
    · exact .inr queued
    · -- An answer that is due has come.
      have come := still.past other listed due (times due (by simp [Task.dueOfPreparation, phase]))
      omega
  -- So nobody asks the resolver, and the turn at it is free.
  have free : w.resolving = false := by
    refine turn.free fun other listed => ?_
    cases search : other.search? with
    | none => simp [Task.hasTurn, Task.asks?, search]
    | some p =>
      rcases stuck listed search with ⟨phase, -⟩ | ⟨phase, -⟩ <;>
        simp [Task.hasTurn, Task.asks?, search, Preparation.asks?, phase]
  -- Then the first attempt of all is over.
  have loaded : w.snapshots ≠ [] → w.loaded = true := by
    intro some
    rcases attempted with none | loaded | ⟨p, listed, -, phase⟩
    · exact absurd none some
    · exact loaded
    · rcases stuck listed rfl with ⟨first, -⟩ | ⟨-, busy⟩
      · exact absurd first phase
      · rw [free] at busy
        cases busy
  cases search : task.search? with
  | none => rfl
  | some p =>
    rcases stuck member search with ⟨-, waits⟩ | ⟨-, busy⟩
    · obtain ⟨seq, spoken⟩ := Task.mentions_of_search search
      have within := anchored.tasks task member seq spoken
      rw [loaded (by rintro none; simp [none] at within)] at waits
      cases waits
    · rw [free] at busy
      cases busy

theorem stepPass_eq_none {job : PassJob} (stuck : w.stepPass c false job = none)
    (ended : w.isEnded (.pass job.pass) = true)
    (past : ∀ due ∈ (Task.pass job).due, due ≤ w.clock) :
    (∃ token, job.phase.awaits? = some token) ∨ (∃ p, (Task.pass job).search? = some p) ∨
      (w.flagging = true ∨ w.publishing = true) ∧
        job.phase.isFlagging = false ∧ job.phase.isSending = false := by
  obtain ⟨pass, snapshot, message, phase⟩ := job
  -- Every other phase is left by itself, at its time, or because the pass is to end.
  cases phase with
  | configuring =>
    simp only [stepPass, stepPhase, Option.map_eq_none_iff] at stuck
    split at stuck <;> cases stuck
  | configuration due =>
    have come : due ≤ w.clock := past due (by simp [Task.due])
    simp only [stepPass, stepPhase, Option.map_eq_none_iff, come, if_true] at stuck
    split at stuck
    · cases stuck
    · cases stuck
    · split at stuck <;> cases stuck
  | announcing =>
    simp only [stepPass, stepPhase, Option.map_eq_none_iff] at stuck
    split at stuck <;> cases stuck
  | asked token => exact .inl ⟨token, rfl⟩
  | queued work =>
    simp only [stepPass, stepPhase, Option.map_eq_none_iff, ended, if_true] at stuck
    split at stuck <;> cases stuck
  | preparing work p => exact .inr (.inl ⟨p, rfl⟩)
  | prepared work =>
    simp only [stepPass, stepPhase, Option.map_eq_none_iff, ended, if_true] at stuck
    cases stuck
  | running work run due =>
    have come : due ≤ w.clock := past due (by simp [Task.due])
    simp only [stepPass, stepPhase, Option.map_eq_none_iff, come, ended, if_true,
      Bool.true_or] at stuck
    split at stuck <;> cases stuck
  | status work verdict stage =>
    cases stage with
    | turn =>
      simp only [stepPass, stepPhase, stepStatus, Option.map_eq_none_iff] at stuck
      split at stuck
      · rename_i busy
        exact .inr (.inr ⟨.inl busy, rfl, rfl⟩)
      · split at stuck <;> cases stuck
    | announcing =>
      simp only [stepPass, stepPhase, stepStatus, Option.map_eq_none_iff] at stuck
      split at stuck
      · cases stuck
      · split at stuck <;> cases stuck
    | asked token => exact .inl ⟨token, rfl⟩
  | publishing work findings =>
    simp only [stepPass, stepPhase, Option.map_eq_none_iff, ended, if_true] at stuck
    split at stuck
    · rename_i busy
      exact .inr (.inr ⟨.inr busy, rfl, rfl⟩)
    · cases stuck
  | sending work rest files => cases rest <;> cases stuck
  | _ => cases stuck

theorem Standstill.unheard (still : Standstill c w) {token : ProgressToken}
    (waits : token ∈ w.awaited) : w.answer? token = none := by
  obtain ⟨task, member, mine⟩ := mem_awaited.mp waits
  have stuck := still.stepTask_eq_none member
  cases heard : w.answer? token with
  | none => rfl
  | some accepted =>
    -- An answer would let the pass go on.
    cases task with
    | pass job =>
      obtain ⟨pass, snapshot, message, phase⟩ := job
      cases phase with
      | asked other =>
        cases mine
        simp [stepTask, stepPass, stepPhase, heard] at stuck
      | status work verdict stage =>
        cases stage with
        | asked other =>
          cases mine
          simp [stepTask, stepPass, stepPhase, stepStatus, heard] at stuck
        | _ => cases mine
      | _ => cases mine
    | _ => cases mine

theorem Standstill.no_pass (still : Standstill c w) (stopped : w.stopped = true)
    (idle : ∀ task ∈ w.tasks, task.search? = none) (turns : ∀ turn, InTurn w turn)
    (heard : w.awaited = []) : ∀ task ∈ w.tasks, task.job? = none := by
  -- The view has stopped, and with it every pass is to end.
  have ended : ∀ pass, w.isEnded (.pass pass) = true := by
    intro pass
    simp only [isEnded]
    split
    · rfl
    · simp [isSuperseded, stopped]
  have waits : ∀ {job : PassJob}, .pass job ∈ w.tasks → (w.flagging = true ∨ w.publishing = true) ∧
      job.phase.isFlagging = false ∧ job.phase.isSending = false := by
    intro job listed
    rcases stepPass_eq_none (still.stepTask_eq_none listed) (ended _) (still.past _ listed) with
      ⟨token, asked⟩ | ⟨p, search⟩ | rest
    · have member : token ∈ w.awaited := List.mem_filterMap.mpr ⟨_, listed, asked⟩
      rw [heard] at member
      cases member
    · rw [idle _ listed] at search
      cases search
    · exact rest
  -- Nobody has a turn to tell of anything, so nobody waits for one.
  have quiet : ∀ turn, turn = .publications ∨ turn = .status → w.isTaken turn = false := by
    intro turn kind
    refine (turns turn).free fun task member => ?_
    cases task with
    | pass job =>
      obtain ⟨-, flags, sends⟩ := waits member
      rcases kind with rfl | rfl
      · exact sends
      · exact flags
    | _ => exact Task.hasTurn_of_other kind rfl
  have published : w.publishing = false := quiet .publications (.inl rfl)
  have flagged : w.flagging = false := quiet .status (.inr rfl)
  intro task member
  cases task with
  | pass job =>
    obtain ⟨busy, -⟩ := waits member
    simp [flagged, published] at busy
  | _ => rfl

theorem Standstill.holders_eq (still : Standstill c w) (stopped : w.stopped = true)
    (gone : w.current = none) (idle : ∀ task ∈ w.tasks, task.search? = none)
    (turns : ∀ turn, InTurn w turn) (heard : w.awaited = []) : w.holders = w.heldOutside := by
  have passes := still.no_pass stopped idle turns heard
  have same : ∀ task ∈ w.tasks, task.holds = task.leaves := by
    intro task member
    cases task with
    | load p => cases idle _ member
    | observe p => cases idle _ member
    | pass job => cases passes _ member
    | documents phase =>
      cases phase with
      | reading batch seq read rest =>
        -- Reading goes on until all is read.
        have stuck := still.stepTask_eq_none member
        cases rest <;> cases stuck
      | _ => rfl
    | finished done => cases done <;> rfl
    | _ => rfl
  simp only [holders, heldOutside, gone, Option.toList_none, List.nil_append]
  congr 1
  exact List.flatMap_congr fun task member => same task member

end Workspace

end PolicyServer
