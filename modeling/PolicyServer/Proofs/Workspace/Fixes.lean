import PolicyServer.Proofs.Workspace.Turns

/-!
What becomes of a fix that was chosen, whatever else happens: the service is asked for what the action is
to mend and for nothing else, and the answer has the edit that the service gave, or none.
-/

namespace PolicyServer.Workspace

variable {c : Collaborators} {eager : Bool} {w w' : Workspace} {number : Nat} {task task' : Task}
  {action : CodeAction} {aim : QuickFix.Task}

/--
What may become of a fix: it goes on and waits for nothing but an answer to its aim, or the request is
answered.

The answer is an error, or the action with the text that the service gave for the aim.
-/
inductive Mends (c : Collaborators) (action : CodeAction) (aim : QuickFix.Task) : Task → Prop where
  | goesOn {job : FixJob} (mine : job.action = action)
      (aimed : ∀ work task request due limit,
        job.phase = .waiting work task request due limit → task = aim) :
      Mends c action aim (.fix job)
  | mended {script : String → String → Nat → Script (Except FixError (Option String))}
      {request : Nat} {text : String} (service : c.fix = some script)
      (given : (script aim.capture.text aim.failure request).result = .ok (some text)) :
      Mends c action aim (.finished (.reply (.ok (Wire.toJson (QuickFix.complete action aim text)))))
  | failed (error : Rpc.Error) : Mends c action aim (.finished (.reply (.error error)))

theorem Mends.asked (c : Collaborators) (action : CodeAction) (aim : QuickFix.Task) :
    Mends c action aim (.fix { action }) :=
  .goesOn rfl fun _ _ _ _ _ same => by cases same

theorem endFix_fixCalls (w : Workspace) (work : Work) (outcome : Except QuickFixError CodeAction) :
    (w.endFix work outcome).1.fixCalls = w.fixCalls := by
  cases outcome <;> rfl

theorem Mends.endFix_error (w : Workspace) (work : Work) (error : QuickFixError) :
    Mends c action aim (w.endFix work (.error error)).2 :=
  .failed error.toRpc

theorem Mends.endFix_conclude {script : String → String → Nat → Script (Except FixError (Option String))}
    (service : c.fix = some script) (w : Workspace) (work : Work) (request : Nat) :
    Mends c action aim (w.endFix work (QuickFix.conclude action aim
      (script aim.capture.text aim.failure request).result)).2 := by
  unfold QuickFix.conclude
  split
  · exact .endFix_error w work _
  · exact .endFix_error w work _
  · rename_i text given
    exact .mended service given

theorem FixAdvance.mends {job : FixJob} (advance : FixAdvance c w job w' task')
    (purpose : QuickFix.task job.action = .ok aim)
    (aimed : ∀ work task request due limit,
      job.phase = .waiting work task request due limit → task = aim) :
    Mends c job.action aim task' ∧ (w'.fixCalls = w.fixCalls ∨
      w'.fixCalls = w.fixCalls ++ [(aim.capture.text, aim.failure)]) := by
  have early {phase : FixPhase} (waits : ∀ work task request due limit,
      phase ≠ .waiting work task request due limit) :
      Mends c job.action aim (.fix { job with phase }) :=
    .goesOn rfl fun work task request due limit same => absurd same (waits work task request due limit)
  cases advance with
  | cancelled work => exact ⟨.failed _, .inl (by cases work <;> rfl)⟩
  | shown _ _ announced => exact ⟨early (by simp), .inl (congrArg (fixCalls ·.2) announced).symm⟩
  | asks _ _ announced => exact ⟨early (by simp), .inl (congrArg (fixCalls ·.2) announced).symm⟩
  | answered => exact ⟨early (by simp), .inl rfl⟩
  | calls _ found =>
    cases purpose.symm.trans found
    refine ⟨.goesOn rfl fun work task request due limit same => ?_, .inr rfl⟩
    cases same
    rfl
  | ends work outcome began cause =>
    refine ⟨?_, .inl (endFix_fixCalls w work outcome)⟩
    cases cause with
    | fails error => exact .endFix_error w work error
    | answers waits service =>
      cases aimed _ _ _ _ _ waits
      exact .endFix_conclude service w work _
  | _ => exact ⟨.failed _, .inl rfl⟩

theorem Shift.found_after {tasks tasks' : List Task} (shift : Shift tasks tasks')
    (found : tasks[number]? = some task) :
    tasks'[number]? = some task ∨ tasks'[number]? = some task.giveUp ∨
      ∃ seq, task = .finished (.snapshot seq) := by
  have within := (List.getElem?_eq_some_iff.mp found).1
  cases shift with
  | starts new => exact .inl ((List.getElem?_append_left within).trans found)
  | @sets place former task' there _ _ _ _ kind =>
    by_cases here : place = number
    · subst here
      cases found.symm.trans there
      rw [List.getElem?_set_self within]
      exact .inr (kind.imp_left (congrArg some))
    · exact .inl ((List.getElem?_set_ne here).trans found)

theorem Mends.giveUp (mends : Mends c action aim task) : Mends c action aim task.giveUp := by
  cases mends with
  | goesOn mine aimed => exact .goesOn mine aimed
  | mended service given => exact .mended service given
  | failed error => exact .failed error

theorem act_mends (purpose : QuickFix.task action = .ok aim) (found : w.tasks[number]? = some task)
    (mends : Mends c action aim task) (move : Move) :
    ∃ task', (w.act c move).tasks[number]? = some task' ∧ Mends c action aim task' := by
  rcases act_cases c w move with ⟨place, eager, rfl, stepped⟩ | ⟨-, incident⟩
  · obtain ⟨former, mid, later, there, advance, taken, same⟩ := step_advance stepped
    rw [same]
    by_cases here : place = number
    · subst here
      cases found.symm.trans there
      have within := (List.getElem?_eq_some_iff.mp (advance.found_after there)).1
      refine ⟨later, List.getElem?_set_self within, ?_⟩
      -- Only a fix that goes on takes a step.
      cases mends with
      | goesOn mine aimed =>
        subst mine
        exact ((stepFix_advance taken).mends purpose aimed).1
      | mended => cases taken
      | failed => cases taken
    · obtain ⟨more, appended, -⟩ := advance.tasks_append
      have within := (List.getElem?_eq_some_iff.mp found).1
      refine ⟨task, ?_, mends⟩
      rw [List.getElem?_set_ne here, appended, List.getElem?_append_left within, found]
  · rcases incident.shift.found_after found with stays | givenUp | ⟨seq, rfl⟩
    · exact ⟨task, stays, mends⟩
    · exact ⟨task.giveUp, givenUp, mends.giveUp⟩
    · cases mends

theorem play_mends (purpose : QuickFix.task action = .ok aim)
    (found : w.tasks[number]? = some task) (mends : Mends c action aim task) (moves : List Move) :
    ∃ task', (w.play c moves).tasks[number]? = some task' ∧ Mends c action aim task' := by
  induction moves generalizing w task with
  | nil => exact ⟨task, found, mends⟩
  | cons move rest ih =>
    obtain ⟨next, there, mends⟩ := act_mends purpose found mends move
    exact ih there mends

theorem step_fixCalls (purpose : QuickFix.task action = .ok aim)
    (found : w.tasks[number]? = some task) (mends : Mends c action aim task)
    (stepped : w.step c eager number = some w') :
    w'.fixCalls = w.fixCalls ∨ w'.fixCalls = w.fixCalls ++ [(aim.capture.text, aim.failure)] := by
  obtain ⟨former, mid, later, there, -, taken, same⟩ := step_advance stepped
  cases found.symm.trans there
  rw [same]
  cases mends with
  | goesOn mine aimed =>
    subst mine
    exact ((stepFix_advance taken).mends purpose aimed).2
  | mended => cases taken
  | failed => cases taken

/-! ### A fix that is left alone -/

section Alone

variable {work : Work} {text : String} {request due limit : Nat}
  {script : String → String → Nat → Script (Except FixError (Option String))}

theorem stepFix_calls (job : FixJob) (service : c.fix = some script)
    (purpose : QuickFix.task job.action = .ok aim) (begun : job.phase = .begun work)
    (wanted : job.cancelled = false) (eager : Bool) (w : Workspace) :
    w.stepFix c eager job =
      some ({ w with fixCalls := w.fixCalls ++ [(aim.capture.text, aim.failure)] },
        .fix { job with
          phase := .waiting work aim w.fixCalls.length
            (w.clock + (script aim.capture.text aim.failure w.fixCalls.length).delay)
            (w.clock + c.fixTimeout) }) := by
  simp [stepFix, begun, purpose, service, wanted]

theorem stepFix_answers (job : FixJob) (service : c.fix = some script)
    (waits : job.phase = .waiting work aim request due limit) (wanted : job.cancelled = false)
    (arrived : due ≤ w.clock)
    (given : (script aim.capture.text aim.failure request).result = .ok (some text)) (eager : Bool) :
    w.stepFix c eager job = some (w.conclude work "Done.",
      .finished (.reply (.ok (Wire.toJson (QuickFix.complete job.action aim text))))) := by
  simp [stepFix, waits, wanted, arrived, service, given, QuickFix.conclude, endFix]

theorem act_step_fix {job : FixJob} {mid : Workspace} (found : w.tasks[number]? = some (.fix job))
    (taken : w.stepFix c eager job = some (mid, task')) :
    (w.act c (.step number eager)).tasks[number]? = some task' ∧
      (w.act c (.step number eager)).fixCalls = mid.fixCalls ∧
      (w.act c (.step number eager)).clock = mid.clock := by
  have stepped : w.act c (.step number eager) = { mid with tasks := mid.tasks.set number task' } := by
    simp [act, step, found, stepTask, taken]
  have tasks : mid.tasks = w.tasks := eq_of_bare (stepFix_spec taken).1 (·.tasks) fun _ => rfl
  rw [stepped, tasks]
  exact ⟨List.getElem?_set_self (List.getElem?_eq_some_iff.mp found).1, rfl, rfl⟩

theorem exists_play_answered (c : Collaborators) {token : ProgressToken}
    (found : w.tasks[number]? = some (.fix { action, phase := .asked token })) :
    ∃ work,
      (w.play c [.answer token true, .step number true]).tasks[number]? =
        some (.fix { action, phase := .begun work }) ∧
      (w.play c [.answer token true, .step number true]).fixCalls = w.fixCalls ∧
      (w.play c [.answer token true, .step number true]).clock = w.clock := by
  let v := { w with answers := w.answers ++ [(token, true)] }
  -- An answer to the same token that came before counts more.
  have listed : ∃ accepted, v.answers.lookup token = some accepted := by
    simp only [v, List.lookup_append, List.lookup_cons, beq_self_eq_true]
    cases w.answers.lookup token <;> exact ⟨_, rfl⟩
  obtain ⟨accepted, listed⟩ := listed
  have taken : v.stepFix c true { action, phase := .asked token } =
      some ((v.begin token ⟨workTitle, fixMessage, none⟩ accepted).2, .fix ⟨action, false,
        .begun (v.begin token ⟨workTitle, fixMessage, none⟩ accepted).1⟩) := by
    simp [stepFix, answer?, listed]
  have there : v.tasks[number]? = some (.fix { action, phase := .asked token }) := found
  obtain ⟨begun, calls, clock⟩ := act_step_fix there taken
  exact ⟨_, begun, calls, clock⟩

theorem exists_play_begun (service : c.fix = some script) (active : w.inactive? = none)
    (found : w.tasks[number]? = some (.fix { action })) :
    ∃ moves work, (w.play c moves).tasks[number]? = some (.fix { action, phase := .begun work }) ∧
      (w.play c moves).fixCalls = w.fixCalls ∧ (w.play c moves).clock = w.clock := by
  cases shown : w.announce ⟨workTitle, fixMessage, none⟩ with
  | mk announced mid =>
    have calls : mid.fixCalls = w.fixCalls := (congrArg (fixCalls ·.2) shown).symm
    have clock : mid.clock = w.clock := (congrArg (Workspace.clock ·.2) shown).symm
    cases announced with
    | work work =>
      have taken : w.stepFix c true { action } =
          some (mid, .fix { action, phase := .begun work }) := by
        simp [stepFix, active, service, shown]
      obtain ⟨begun, calls', clock'⟩ := act_step_fix found taken
      exact ⟨[.step number true], work, begun, calls'.trans calls, clock'.trans clock⟩
    | asked token =>
      have taken : w.stepFix c true { action } =
          some (mid, .fix { action, phase := .asked token }) := by
        simp [stepFix, active, service, shown]
      obtain ⟨asked, calls', clock'⟩ := act_step_fix found taken
      obtain ⟨work, begun, calls'', clock''⟩ := exists_play_answered c asked
      exact ⟨[.step number true, .answer token true, .step number true], work, begun,
        calls''.trans (calls'.trans calls), clock''.trans (clock'.trans clock)⟩

theorem exists_play_mended (service : c.fix = some script)
    (purpose : QuickFix.task action = .ok aim) (active : w.inactive? = none)
    (found : w.tasks[number]? = some (.fix { action }))
    (given : (script aim.capture.text aim.failure w.fixCalls.length).result = .ok (some text)) :
    ∃ moves, (w.play c moves).fixCalls = w.fixCalls ++ [(aim.capture.text, aim.failure)] ∧
      (w.play c moves).clock =
        w.clock + (script aim.capture.text aim.failure w.fixCalls.length).delay ∧
      (w.play c moves).tasks[number]? = some (.finished (.reply (.ok
        (Wire.toJson (QuickFix.complete action aim text))))) := by
  obtain ⟨moves, work, begun, calls, clock⟩ := exists_play_begun service active found
  generalize same : w.play c moves = v at begun calls clock
  rw [← calls] at given ⊢
  rw [← clock]
  -- The service is asked, its delay passes, and the request is answered.
  obtain ⟨waits, calls', clock'⟩ := act_step_fix begun
    (stepFix_calls { action, phase := .begun work } service purpose rfl rfl true v)
  let delay := (script aim.capture.text aim.failure v.fixCalls.length).delay
  let later := (v.act c (.step number true)).act c (.wait delay)
  have waits : later.tasks[number]? = _ := waits
  have arrived : later.clock = v.clock + delay := congrArg (· + delay) clock'
  obtain ⟨mended, calls'', clock''⟩ := act_step_fix waits
    (stepFix_answers _ service rfl rfl (Nat.le_of_eq arrived.symm) given true)
  refine ⟨moves ++ [.step number true, .wait delay, .step number true], ?_⟩
  rw [play_append, same]
  exact ⟨calls''.trans calls', clock''.trans arrived, mended⟩

end Alone

/--
What comes of choosing an action, with an aim of its own.

Whatever happens, its fix keeps to the aim. It asks the service for that and nothing else, and once the
text is there, in time and still wanted, the request is answered with the action and its edit. Left alone,
it comes that far.
-/
structure Resolves (action : CodeAction) (aim : QuickFix.Task) : Prop where
  keeps (c : Collaborators) (w : Workspace) (number : Nat) (moves : List Move) :
    w.tasks[number]? = some (.fix { action }) →
      ∃ task, (w.play c moves).tasks[number]? = some task ∧ Mends c action aim task
  asks (c : Collaborators) (w w' : Workspace) (number : Nat) (moves : List Move) (eager : Bool) :
    w.tasks[number]? = some (.fix { action }) → (w.play c moves).step c eager number = some w' →
      w'.fixCalls = (w.play c moves).fixCalls ∨
        w'.fixCalls = (w.play c moves).fixCalls ++ [(aim.capture.text, aim.failure)]
  answers (c : Collaborators) (w : Workspace) (eager : Bool) (job : FixJob) (work : Work)
      (request due limit : Nat) (text : String)
      (script : String → String → Nat → Script (Except FixError (Option String))) :
    c.fix = some script → job.action = action → job.cancelled = false →
      job.phase = .waiting work aim request due limit → due ≤ w.clock →
      (script aim.capture.text aim.failure request).result = .ok (some text) →
      w.stepFix c eager job = some (w.conclude work "Done.",
        .finished (.reply (.ok (Wire.toJson (QuickFix.complete action aim text)))))
  reaches (c : Collaborators) (w : Workspace) (number : Nat) (text : String)
      (script : String → String → Nat → Script (Except FixError (Option String))) :
    c.fix = some script → w.inactive? = none → w.tasks[number]? = some (.fix { action }) →
      (script aim.capture.text aim.failure w.fixCalls.length).result = .ok (some text) →
      ∃ moves, (w.play c moves).fixCalls = w.fixCalls ++ [(aim.capture.text, aim.failure)] ∧
        (w.play c moves).clock =
          w.clock + (script aim.capture.text aim.failure w.fixCalls.length).delay ∧
        (w.play c moves).tasks[number]? = some (.finished (.reply (.ok
          (Wire.toJson (QuickFix.complete action aim text)))))

theorem resolves_of_task (purpose : QuickFix.task action = .ok aim) : Resolves action aim where
  keeps c w number moves found := play_mends purpose found (.asked c action aim) moves
  asks c w w' number moves eager found stepped := by
    obtain ⟨task, there, mends⟩ := play_mends purpose found (.asked c action aim) moves
    exact step_fixCalls purpose there mends stepped
  answers c w eager job work request due limit text script service mine wanted waits arrived given :=
    mine ▸ stepFix_answers job service waits wanted arrived given eager
  reaches c w number text script service active found given :=
    exists_play_mended service purpose active found given

end PolicyServer.Workspace
