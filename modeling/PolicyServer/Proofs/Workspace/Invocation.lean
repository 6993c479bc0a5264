import PolicyServer.Proofs.Workspace.Sightings
import PolicyServer.Proofs.Workspace.Supersession

/-! Each pass invokes the runner at most once, whatever happens. -/

namespace PolicyServer

def PassPhase.isPast : PassPhase → Bool
  | .running _ _ _ | .status _ _ _ | .correlating _ _ | .publishing _ _ | .sending _ _ _
  | .ending _ _ => true
  | _ => false

namespace Workspace

variable {c : Collaborators} {eager : Bool} {w w' : Workspace} {number : Nat} {task task' : Task}
  {job : PassJob} {log : List Nat}

theorem PhaseStep.past {phase : PassPhase} (step : PhaseStep c w job job.phase w' phase)
    (past : job.phase.isPast = true) :
    phase.isPast = true := by
  obtain ⟨pass, snapshot, message, before⟩ := job
  cases step with
  | tells step => cases step <;> rfl
  | _ => first | rfl | cases past

theorem stepPass_past {job' : PassJob}
    (stepped : w.stepTask c eager (.pass job) = some (w', .pass job')) (past : job.phase.isPast = true) :
    job'.phase.isPast = true := by
  cases stepTask_advance stepped with
  | pass _ step => exact step.past past

def invocations (w : Workspace) (before : Task) (_ : Workspace) (after : Task) : List Nat :=
  match before.job? with
  | some job => invokers (w.deedOf? job after).toList
  | none => []

theorem of_mem_invocations {pass : Nat} {mid : Workspace}
    (invoked : pass ∈ invocations w task mid task') :
    invocations w task mid task' = [pass] ∧
      ∃ job job', task = .pass job ∧ task' = .pass job' ∧ job.pass = pass ∧
        job.phase.isPast = false ∧ job'.phase.isPast = true := by
  cases task with
  | pass job =>
    simp only [invocations, Task.job?] at invoked ⊢
    unfold deedOf? at invoked ⊢
    split at invoked
    · rename_i looked
      cases List.mem_singleton.mp invoked
      exact ⟨rfl, job, _, rfl, rfl, rfl, by rw [looked]; rfl, rfl⟩
    all_goals cases invoked
  | _ => cases invoked

theorem nodup_invocations (w : Workspace) (task : Task) (mid : Workspace) (task' : Task) :
    (invocations w task mid task').Nodup := by
  cases events : invocations w task mid task' with
  | nil => exact List.nodup_nil
  | cons pass rest =>
    obtain ⟨single, -⟩ := of_mem_invocations (events ▸ List.mem_cons_self)
    rw [← events, single]
    exact List.nodup_cons.mpr ⟨List.not_mem_nil, List.nodup_nil⟩

/-! ### The roster in every course -/

theorem Roster.begun_of_task (roster : Roster w.stake) (there : w.tasks[number]? = some (.pass job)) :
    job.pass < w.passes.length := by
  have runs : w.jobAt number = some job := by simp [jobAt, there, Task.job?]
  exact roster.begun runs

theorem Roster.alone_of_tasks {former : PassJob} {other : Nat} (roster : Roster w.stake)
    (there : w.tasks[number]? = some (.pass job)) (here : w.tasks[other]? = some (.pass former))
    (same : job.pass = former.pass) : number = other := by
  have runs : w.jobAt number = some job := by simp [jobAt, there, Task.job?]
  have others : w.jobAt other = some former := by simp [jobAt, here, Task.job?]
  exact roster.alone runs others same

theorem Roster.undergo (roster : Roster w.stake) (anchored : Anchored w) (happening : Happening) :
    Roster (w.undergo c happening).stake := by
  rcases undergo_cases c w happening with ⟨move, rfl, same⟩ | ⟨-, approach⟩
  · rw [same]
    by_cases clearing : move = .flush
    · -- What was sent does not concern the roster.
      subst clearing
      exact ⟨roster.superseded, roster.begun, roster.alone, roster.held, roster.turn⟩
    · exact (act_effect anchored clearing).roster roster
  · generalize w.undergo c happening = after at approach
    cases approach with
    | refused => exact roster
    | @seek seq scope first referred =>
      have same : ((w.acquire seq).spawn (.load ⟨seq, scope, first, .turn⟩)).stake = w.stake :=
        stake_spawn rfl
      exact same ▸ roster
    | @lapse number task found =>
      have same : ({ w with tasks := w.tasks.set number task.lapse } : Workspace).stake = w.stake := by
        cases task with
        | pass job =>
          -- A pass has nothing of its own to give up, and is put back as it was.
          obtain ⟨within, here⟩ := List.getElem?_eq_some_iff.mp found
          simp only [Task.lapse, ← here, List.set_getElem_self]
        | _ => exact stake_setTask (by simp [jobAt, found, Task.job?]) rfl
      exact same ▸ roster

/-! ### Who has invoked the runner -/

/-- The runner was invoked as often as is counted, by passes that are all past their look, and by none
twice. -/
structure Invoked (w : Workspace) (log : List Nat) : Prop where
  counted : w.runs = log.length
  known : ∀ pass ∈ log, pass < w.passes.length
  past : ∀ {job : PassJob}, .pass job ∈ w.tasks → job.pass ∈ log → job.phase.isPast = true
  once : log.Nodup

theorem invokers_deeds {mid : Workspace} (found : w.tasks[number]? = some task)
    (stepped : w.stepTask c eager task = some (mid, task')) :
    invokers (w.deeds c (.step number eager)) = invocations w task mid task' := by
  simp only [deeds, found]
  cases task with
  | pass job =>
    have taken : w.stepPass c eager job = some (mid, task') := stepped
    simp only [taken, invocations, Task.job?]
  | _ => rfl

theorem Invoked.quiet (invoked : Invoked w log) (quiet : Quiet w w') (runs : w'.runs = w.runs) :
    Invoked w' log where
  counted := runs.trans invoked.counted
  known pass listed := Nat.lt_of_lt_of_le (invoked.known pass listed) quiet.longer
  past member listed := by
    rcases quiet.passes member with before | ⟨-, later, -⟩
    · exact invoked.past before listed
    · -- A pass that is new has not invoked the runner yet.
      have known := invoked.known _ listed
      omega
  once := invoked.once

theorem Invoked.step (invoked : Invoked w log) (roster : Roster w.stake)
    (found : w.tasks[number]? = some task) (stepped : w.stepTask c eager task = some (w', task')) :
    Invoked { w' with tasks := w'.tasks.set number task' }
      (log ++ invocations w task w' task') := by
  have member := List.mem_of_getElem? found
  have advance := stepTask_advance stepped
  have longer := advance.extends
  obtain ⟨more, appended, new⟩ := advance.tasks_append
  have taken : w.step c eager number = some { w' with tasks := w'.tasks.set number task' } := by
    simp [Workspace.step, found, stepped]
  -- Whoever invokes the runner now is the task itself, which had not done so.
  have own : ∀ pass ∈ invocations w task w' task', ∃ job, task = .pass job ∧ job.pass = pass ∧
      job.phase.isPast = false := by
    intro pass listed
    obtain ⟨-, job, -, same, -, number, early, -⟩ := of_mem_invocations listed
    exact ⟨job, same, number, early⟩
  refine ⟨?_, fun pass listed => ?_, fun {job} listed invoker => ?_, ?_⟩
  · have counted := (step_effect taken).reported.1
    rw [invokers_deeds found stepped, invoked.counted] at counted
    rw [List.length_append]
    exact counted
  · rcases List.mem_append.mp listed with before | now
    · exact longer.begun (invoked.known pass before)
    · obtain ⟨job, rfl, rfl, -⟩ := own pass now
      exact longer.begun (roster.begun_of_task found)
  · obtain ⟨place, there⟩ := List.mem_iff_getElem?.mp listed
    rcases of_getElem?_set there with ⟨-, rfl⟩ | ⟨apart, there⟩
    · -- The task itself has invoked the runner now, or had before and is past its look still.
      obtain ⟨former, rfl, phase, moved, rfl⟩ := stepTask_pass stepped
      rcases List.mem_append.mp invoker with earlier | now
      · exact (stepPass_past stepped) (invoked.past member earlier)
      · obtain ⟨-, -, job', -, same, -, -, past⟩ := of_mem_invocations now
        cases same
        exact past
    · rw [appended] at there
      by_cases within : place < w.tasks.length
      · rw [List.getElem?_append_left within] at there
        rcases List.mem_append.mp invoker with earlier | now
        · exact invoked.past (List.mem_of_getElem? there) earlier
        · -- Another task does not run the same pass.
          obtain ⟨former, rfl, same, -⟩ := own _ now
          exact absurd (roster.alone_of_tasks there found same.symm) apart
      · -- A pass that the step begins is numbered behind all that are in the log.
        rw [List.getElem?_append_right (Nat.le_of_not_lt within)] at there
        obtain ⟨job', same, -, later, -⟩ := new _ (List.mem_of_getElem? there)
        cases same
        rcases List.mem_append.mp invoker with earlier | now
        · have known := invoked.known _ earlier
          omega
        · obtain ⟨former, rfl, same, -⟩ := own _ now
          have known := roster.begun_of_task found
          omega
  · rw [List.nodup_append]
    refine ⟨invoked.once, nodup_invocations w task w' task', fun pass earlier other now => ?_⟩
    -- Who had invoked the runner is past its look, and who does so now is not.
    rintro rfl
    obtain ⟨job, rfl, rfl, early⟩ := own pass now
    rw [invoked.past member earlier] at early
    cases early

theorem Invoked.undergo (invoked : Invoked w log) (kept : Kept w) (roster : Roster w.stake)
    (happening : Happening) :
    Invoked (w.undergo c happening) (log ++ watch invocations c w happening) := by
  rcases watch_cases invocations c w happening with
    ⟨number, eager, task, mid, task', -, found, stepped, after, seen⟩ | ⟨unseen, rest⟩
  · rw [after, seen]
    exact invoked.step roster found stepped
  · rw [unseen, List.append_nil]
    rcases rest with ⟨move, rfl, incident⟩ | approach
    · refine invoked.quiet (incident.quiet kept.anchored) ?_
      by_cases clearing : move = .flush
      · subst clearing
        rfl
      · exact (incident.effect kept.anchored clearing).reported.1
    · refine invoked.quiet approach.quiet ?_
      generalize w.undergo c happening = after at approach
      cases approach <;> rfl

theorem course_invoked (names : Nat → String) (supported : Bool) (limit : Nat)
    (happenings : List Happening) :
    let start := fresh names supported limit
    Invoked (start.course c happenings)
      (trace (undergo c) (watch invocations c) start happenings) := by
  intro start
  have initial : Invoked start [] := ⟨rfl, by simp, by simp, List.nodup_nil⟩
  have run := trace_induction (fun w log => Kept w ∧ Roster w.stake ∧ Invoked w log) (fun _ => True)
    (fun {w log happening} _ before => by
      obtain ⟨kept, roster, invoked⟩ := before
      exact ⟨(kept.undergo happening).1, roster.undergo kept.anchored happening,
        invoked.undergo (c := c) kept roster happening⟩)
    ⟨fresh_kept names supported limit, fresh_roster names supported limit, initial⟩
    fun next (_ : next ∈ happenings) => trivial
  exact run.2.2

end Workspace

end PolicyServer
