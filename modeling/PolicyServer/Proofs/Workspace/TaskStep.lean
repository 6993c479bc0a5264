import PolicyServer.Proofs.Workspace.PassStep

/-! What a step of a task comes to, told once for every kind of task. -/

namespace PolicyServer.Workspace

variable {c : Collaborators} {eager : Bool} {w w' : Workspace} {task : Task}

def beginChange (w : Workspace) (previous : Nat) (save : Bool) : Workspace :=
  let w := { w with changing := true }
  if save then w.modifySnapshot previous fun snapshot => { snapshot with superseded := true } else w

/-- What a step of a change leads to. -/
inductive ChangeAdvance (c : Collaborators) (w : Workspace) (change : StateChange) (scope : Scope) :
    ChangePhase → Workspace → ChangeStep → Prop where
  | refuse (free : w.changing = false) (gone : w.current = none) :
      ChangeAdvance c w change scope .turn w .refused
  | start {previous : Nat} (free : w.changing = false) (here : w.current = some previous) :
      ChangeAdvance c w change scope .turn (w.beginChange previous change.save)
        (.waiting (.waiting { snapshot := previous, scope }))
  | wait {p q : Preparation} {w' : Workspace} (same : w'.bare = w.bare)
      (kept : q.snapshot = p.snapshot) (inquiry : Inquiry c w p w' (some q)) :
      ChangeAdvance c w change scope (.waiting p) w' (.waiting (.waiting q))
  | install {p : Preparation} {mid : Workspace} (same : mid.bare = w.bare)
      (inquiry : Inquiry c w p mid none) :
      ChangeAdvance c w change scope (.waiting p) (mid.install p.snapshot change)
        (.installed mid.snapshots.length)

/-- Why a fix ends: something went wrong, or the service answered what it was asked. -/
inductive FixEnd (c : Collaborators) (job : FixJob) : Except QuickFixError CodeAction → Prop where
  | fails (error : QuickFixError) : FixEnd c job (.error error)
  | answers {work : Work} {task : QuickFix.Task} {request due limit : Nat}
      {script : String → String → Nat → Script (Except FixError (Option String))}
      (waits : job.phase = .waiting work task request due limit) (service : c.fix = some script) :
      FixEnd c job (QuickFix.conclude job.action task
        (script task.capture.text task.failure request).result)

/--
What a step of a fix leads to: the workspace after it, and the fix that goes on or the answer.

The stage of the session is looked at only as the fix begins. A request that was given up may be
answered so at any step.
-/
inductive FixAdvance (c : Collaborators) (w : Workspace) (job : FixJob) :
    Workspace → Task → Prop where
  | cancelled (work : Option Work) (gone : job.cancelled = true) :
      FixAdvance c w job (w.cancelFix work).1 (.finished (.reply (.error .requestCancelled)))
  | refused {error : Rpc.Error} (begins : job.phase = .asking) (reason : w.inactive? = some error) :
      FixAdvance c w job w (.finished (.reply (.error error)))
  | disabled (begins : job.phase = .asking) (active : w.inactive? = none) :
      FixAdvance c w job w (.finished (.reply (.error (.internal FixError.disabled.message))))
  | shown {work : Work} {w' : Workspace} (begins : job.phase = .asking) (active : w.inactive? = none)
      (announced : w.announce ⟨workTitle, fixMessage, none⟩ = (.work work, w')) :
      FixAdvance c w job w' (.fix { job with phase := .begun work })
  | asks {token : ProgressToken} {w' : Workspace} (begins : job.phase = .asking)
      (active : w.inactive? = none)
      (announced : w.announce ⟨workTitle, fixMessage, none⟩ = (.asked token, w')) :
      FixAdvance c w job w' (.fix { job with phase := .asked token })
  | answered {token : ProgressToken} {accepted : Bool} (asked : job.phase = .asked token)
      (answer : w.answer? token = some accepted) :
      FixAdvance c w job (w.begin token ⟨workTitle, fixMessage, none⟩ accepted).2
        (.fix { job with
          phase := .begun (w.begin token ⟨workTitle, fixMessage, none⟩ accepted).1 })
  | calls {work : Work} {task : QuickFix.Task} {due limit : Nat}
      (begun : job.phase = .begun work) (aim : QuickFix.task job.action = .ok task) :
      FixAdvance c w job { w with fixCalls := w.fixCalls ++ [(task.capture.text, task.failure)] }
        (.fix { job with phase := .waiting work task w.fixCalls.length due limit })
  | ends (work : Work) (outcome : Except QuickFixError CodeAction) (began : job.phase ≠ .asking)
      (cause : FixEnd c job outcome) :
      FixAdvance c w job (w.endFix work outcome).1 (w.endFix work outcome).2

/--
What a step of a task leads to: the workspace after it, and what has become of the task.

Where a workspace `mid` stands between, it differs from the one before only in what is not bare.
-/
inductive Advance (c : Collaborators) (w : Workspace) : Task → Workspace → Task → Prop where
  | forward {w' : Workspace} {task : Task} (same : w'.bare = w.bare)
      (kind : task = .forward ∨ task = .finished .nothing) {clientLog : ClientLog} {outbox : Outbox}
      (forwarded : w.clientLog.step? w.outbox = some (clientLog, outbox))
      (after : w' = { w with clientLog, outbox }) : Advance c w .forward w' task
  | load {w' : Workspace} {p q : Preparation} (same : w'.bare = w.bare)
      (kept : q.snapshot = p.snapshot) (inquiry : Inquiry c w p w' (some q)) :
      Advance c w (.load p) w' (.load q)
  | loaded {mid : Workspace} {p : Preparation} (same : mid.bare = w.bare)
      (inquiry : Inquiry c w p mid none) :
      Advance c w (.load p) (mid.release p.snapshot) (.finished .nothing)
  | observe {w' : Workspace} {p q : Preparation} (same : w'.bare = w.bare)
      (kept : q.snapshot = p.snapshot) (inquiry : Inquiry c w p w' (some q)) :
      Advance c w (.observe p) w' (.observe q)
  | observed {mid : Workspace} {p : Preparation} (same : mid.bare = w.bare)
      (inquiry : Inquiry c w p mid none) :
      Advance c w (.observe p) (mid.release p.snapshot) (.finished .prepared)
  | take {seq : Nat} (free : w.changing = false) (here : w.current = some seq) :
      Advance c w .take (w.acquire seq) (.finished (.snapshot seq))
  | takeRefused (gone : w.current = none) : Advance c w .take w (.finished .refused)
  | mark {uri : DocumentUri} (free : w.publishing = false) :
      Advance c w (.mark uri) (w.markDocument uri) (.finished .nothing)
  | changeWaits {w' : Workspace} {change : StateChange} {scope : Scope} {phase phase' : ChangePhase}
      (step : ChangeAdvance c w change scope phase w' (.waiting phase')) :
      Advance c w (.change change scope phase) w' (.change change scope phase')
  | changeRefused {w' : Workspace} {change : StateChange} {scope : Scope} {phase : ChangePhase}
      (step : ChangeAdvance c w change scope phase w' .refused) :
      Advance c w (.change change scope phase) w' (.finished .refused)
  | changeInstalled {w' : Workspace} {change : StateChange} {scope : Scope} {phase : ChangePhase}
      {seq : Nat} (step : ChangeAdvance c w change scope phase w' (.installed seq)) :
      Advance c w (.change change scope phase) w' (.finished (.snapshot seq))
  | pass {w' : Workspace} {job : PassJob} {phase : PassPhase} (step : PassAdvance w job w' phase)
      (exact : PhaseStep c w job job.phase w' phase) :
      Advance c w (.pass job) w' (.pass { job with phase })
  | passEnds {mid : Workspace} {job : PassJob} {work : Work} {outcome : PassOutcome}
      (complete : job.phase = .ending work outcome) (same : mid.bare = w.bare)
      (told : mid = w.conclude work outcome.summary) :
      Advance c w (.pass job) (mid.release job.snapshot) (.finished (.outcome outcome))
  | nextBatch {batch : List Modification} {rest : List (List Modification)}
      (queued : w.documents = batch :: rest) :
      Advance c w (.documents .idle) { w with documents := rest } (.documents (.marking batch batch))
  | workerEnds (empty : w.documents = []) (closed : w.documentsOpen = false) :
      Advance c w (.documents .idle) w (.finished .nothing)
  | markedAll {batch : List Modification} :
      Advance c w (.documents (.marking batch [])) w (.documents (.taking batch))
  | markNext {batch rest : List Modification} {modification : Modification}
      (free : w.publishing = false) :
      Advance c w (.documents (.marking batch (modification :: rest)))
        (w.markDocument modification.uri) (.documents (.marking batch rest))
  | takeBefore {batch : List Modification} {seq : Nat} (free : w.changing = false)
      (here : w.current = some seq) :
      Advance c w (.documents (.taking batch)) (w.acquire seq)
        (.documents (.reading batch seq [] batch))
  | dropBatch {batch : List Modification} (gone : w.current = none) :
      Advance c w (.documents (.taking batch)) w (.documents .idle)
  | readNext {batch rest : List Modification} {seq : Nat} {read read' : List FileHandle}
      {modification : Modification} :
      Advance c w (.documents (.reading batch seq read (modification :: rest))) w
        (.documents (.reading batch seq read' rest))
  | readAll {batch : List Modification} {seq : Nat} {read : List FileHandle} :
      Advance c w (.documents (.reading batch seq read [])) (w.release seq)
        (.documents (.changing ⟨read, isSave batch⟩ .turn))
  | workerWaits {w' : Workspace} {change : StateChange} {phase phase' : ChangePhase}
      (step : ChangeAdvance c w change .view phase w' (.waiting phase')) :
      Advance c w (.documents (.changing change phase)) w' (.documents (.changing change phase'))
  | workerRefused {w' : Workspace} {change : StateChange} {phase : ChangePhase}
      (step : ChangeAdvance c w change .view phase w' .refused) :
      Advance c w (.documents (.changing change phase)) w' (.documents .idle)
  | workerInstalled {w' : Workspace} {change : StateChange} {phase : ChangePhase} {seq : Nat}
      (step : ChangeAdvance c w change .view phase w' (.installed seq)) :
      Advance c w (.documents (.changing change phase)) (w'.afterChange change seq) (.documents .idle)
  | fix {w' : Workspace} {job : FixJob} {task : Task} (same : w'.bare = w.bare)
      (kind : (∃ job', task = .fix job') ∨ ∃ outcome, task = .finished (.reply outcome))
      (step : FixAdvance c w job w' task) : Advance c w (.fix job) w' task
  | stopTold : Advance c w (.stop .telling) (w.endScope .view) (.stop .releasing)
  | stopReleased {w' : Workspace} (released : w.releaseCurrent = some w') :
      Advance c w (.stop .releasing) w' (.finished .stopped)
  | stopIdled : Advance c w (.stop .idling) w (.finished .stopped)
  | shutdownRefused (stage : w.lifecycle = .created) :
      Advance c w (.shutdown .telling) w (.finished (.reply (.error .serverNotInitialized)))
  | shutdownRepeated (stage : w.lifecycle = .shutDown) :
      Advance c w (.shutdown .telling) w (.finished (.reply (.ok .null)))
  | shutdownEarly (stage : w.lifecycle = .initializing) :
      Advance c w (.shutdown .telling) { w with lifecycle := .shutDown } (.shutdown .idling)
  | shutdownTold (stage : w.lifecycle = .initialized) :
      Advance c w (.shutdown .telling)
        { w.endScope .view with lifecycle := .shutDown, documentsOpen := false }
        (.shutdown .releasing)
  | shutdownReleased {w' : Workspace} (released : w.releaseCurrent = some w') :
      Advance c w (.shutdown .releasing) w' (.shutdown .idling)
  | shutdownIdled {w' : Workspace} (idle : w.live = 0) (same : w'.bare = w.bare)
      (after : w' = { w with clientLog := w.clientLog.close }) :
      Advance c w (.shutdown .idling) w' (.finished (.reply (.ok .null)))
  | idle (idle : w.live = 0) : Advance c w .awaitIdle w (.finished .idle)

theorem stepChange_advance {change : StateChange} {scope : Scope} {phase : ChangePhase}
    {step : ChangeStep} (stepped : w.stepChange c eager change scope phase = some (w', step)) :
    ChangeAdvance c w change scope phase w' step := by
  cases phase with
  -- A change has its turn once no other one is under way.
  | turn =>
    simp only [stepChange] at stepped
    split at stepped
    · cases stepped
    · rename_i free
      have free : w.changing = false := by simpa using free
      split at stepped
      · rename_i gone
        cases stepped
        exact .refuse free gone
      · rename_i previous here
        cases stepped
        exact .start free here
  | waiting preparation =>
    obtain ⟨⟨mid, rest⟩, prepared, stepped⟩ := Option.bind_eq_some_iff.mp stepped
    have inquiry := prepare_inquiry prepared
    cases rest <;> cases stepped
    · exact .install inquiry.bare_eq inquiry
    · exact .wait inquiry.bare_eq inquiry.snapshot_eq inquiry

theorem cancelFix_bare (w : Workspace) (work : Option Work) :
    (w.cancelFix work).1.bare = w.bare := by
  cases work with
  | none => rfl
  | some work => exact conclude_bare w work _

theorem endFix_spec (w : Workspace) (work : Work) (outcome : Except QuickFixError CodeAction) :
    (w.endFix work outcome).1.bare = w.bare ∧
      ∃ reply, (w.endFix work outcome).2 = .finished (.reply reply) := by
  cases outcome with
  | ok action => exact ⟨conclude_bare w work _, _, rfl⟩
  | error error => exact ⟨conclude_bare w work _, _, rfl⟩

theorem stepFix_advance {job : FixJob} (stepped : w.stepFix c eager job = some (w', task)) :
    FixAdvance c w job w' task := by
  obtain ⟨action, cancelled, phase⟩ := job
  have ended : ∀ work outcome, phase ≠ .asking → FixEnd c ⟨action, cancelled, phase⟩ outcome →
      some (w.endFix work outcome) = some (w', task) →
      FixAdvance c w ⟨action, cancelled, phase⟩ w' task := by
    intro work outcome began cause same
    have step : FixAdvance c w ⟨action, cancelled, phase⟩ _ _ := .ends work outcome began cause
    rw [Option.some.inj same] at step
    exact step
  have givenUp : ∀ work, cancelled = true → some (w.cancelFix work) = some (w', task) →
      FixAdvance c w ⟨action, cancelled, phase⟩ w' task := by
    intro work gone same
    cases same
    exact .cancelled work gone
  -- In every phase a fix may be given up, and once it has begun it may end.
  cases phase with
  | asking =>
    simp only [stepFix] at stepped
    split at stepped
    · rename_i gone
      exact givenUp _ (Bool.and_eq_true_iff.mp gone).1 stepped
    · split at stepped
      · rename_i reason
        cases stepped
        exact .refused rfl reason
      · rename_i active _
        cases stepped
        exact .disabled rfl active
      · rename_i active _
        split at stepped
        · rename_i announced
          cases stepped
          exact .shown rfl active announced
        · rename_i announced
          cases stepped
          exact .asks rfl active announced
  | asked token =>
    simp only [stepFix] at stepped
    split at stepped
    · rename_i gone
      exact givenUp _ (Bool.and_eq_true_iff.mp gone).1 stepped
    · split at stepped
      · rename_i answer
        cases stepped
        exact .answered rfl answer
      · split at stepped
        · rename_i gone
          exact givenUp _ gone stepped
        · cases stepped
  | begun work =>
    simp only [stepFix] at stepped
    split at stepped
    · rename_i gone
      exact givenUp _ (Bool.and_eq_true_iff.mp gone).1 stepped
    · split at stepped
      · exact ended _ _ (by simp) (.fails _) stepped
      · exact ended _ _ (by simp) (.fails _) stepped
      · rename_i aim _
        cases stepped
        exact .calls rfl aim
  | waiting work task request due limit =>
    simp only [stepFix] at stepped
    split at stepped
    · rename_i gone
      exact givenUp _ (Bool.and_eq_true_iff.mp gone).1 stepped
    · split at stepped
      · split at stepped
        · exact ended _ _ (by simp) (.fails _) stepped
        · rename_i service
          exact ended _ _ (by simp) (.answers rfl service) stepped
      · split at stepped
        · exact ended _ _ (by simp) (.fails _) stepped
        · split at stepped
          · rename_i gone
            exact givenUp _ gone stepped
          · cases stepped

theorem stepFix_spec {job : FixJob} (stepped : w.stepFix c eager job = some (w', task)) :
    w'.bare = w.bare ∧
      ((∃ job', task = .fix job') ∨ ∃ outcome, task = .finished (.reply outcome)) := by
  have shown := announce_bare w ⟨workTitle, fixMessage, none⟩
  cases stepFix_advance stepped with
  | cancelled work => exact ⟨cancelFix_bare w work, .inr ⟨_, rfl⟩⟩
  | shown _ _ announced =>
    rw [announced] at shown
    exact ⟨shown, .inl ⟨_, rfl⟩⟩
  | asks _ _ announced =>
    rw [announced] at shown
    exact ⟨shown, .inl ⟨_, rfl⟩⟩
  | answered => exact ⟨begin_bare w _ _ _, .inl ⟨_, rfl⟩⟩
  | calls => exact ⟨rfl, .inl ⟨_, rfl⟩⟩
  | ends work outcome =>
    obtain ⟨bare, reply⟩ := endFix_spec w work outcome
    exact ⟨bare, .inr reply⟩
  | _ => exact ⟨rfl, .inr ⟨_, rfl⟩⟩

theorem stepWorker_advance {phase : WorkerPhase}
    (stepped : w.stepWorker c eager phase = some (w', task)) :
    Advance c w (.documents phase) w' task := by
  -- One case per phase; each way of not going on contradicts the step.
  cases phase with
  | idle =>
    simp only [stepWorker] at stepped
    split at stepped
    · rename_i queued
      cases stepped
      exact .nextBatch queued
    · rename_i empty
      split at stepped
      · cases stepped
      · rename_i closed
        cases stepped
        exact .workerEnds empty (by simpa using closed)
  | marking batch rest =>
    cases rest with
    | nil =>
      cases stepped
      exact .markedAll
    | cons modification rest =>
      simp only [stepWorker] at stepped
      split at stepped
      · cases stepped
      · rename_i free
        cases stepped
        exact .markNext (by simpa using free)
  | taking batch =>
    simp only [stepWorker] at stepped
    split at stepped
    · cases stepped
    · rename_i free
      split at stepped
      · rename_i gone
        cases stepped
        exact .dropBatch gone
      · rename_i seq here
        cases stepped
        exact .takeBefore (by simpa using free) here
  | reading batch seq read rest =>
    cases rest with
    | nil =>
      cases stepped
      exact .readAll
    | cons modification rest =>
      cases stepped
      exact .readNext
  | changing change phase =>
    obtain ⟨⟨mid, step⟩, changed, stepped⟩ := Option.bind_eq_some_iff.mp stepped
    have advance := stepChange_advance changed
    cases step with
    | waiting phase =>
      cases stepped
      exact .workerWaits advance
    | refused =>
      cases stepped
      exact .workerRefused advance
    | installed seq =>
      cases stepped
      exact .workerInstalled advance

theorem stepShutdown_advance {phase : StopPhase} (stepped : w.stepShutdown phase = some (w', task)) :
    Advance c w (.shutdown phase) w' task := by
  cases phase with
  | telling =>
    simp only [stepShutdown] at stepped
    -- The answer depends on the stage of the session.
    split at stepped
    · rename_i stage
      cases stepped
      exact .shutdownRefused stage
    · rename_i stage
      cases stepped
      exact .shutdownRepeated stage
    · rename_i stage
      cases stepped
      exact .shutdownEarly stage
    · rename_i stage
      cases stepped
      exact .shutdownTold stage
  | releasing =>
    obtain ⟨mid, released, same⟩ := Option.map_eq_some_iff.mp stepped
    cases same
    exact .shutdownReleased released
  | idling =>
    simp only [stepShutdown] at stepped
    split at stepped
    · rename_i idle
      cases stepped
      exact .shutdownIdled idle rfl rfl
    · cases stepped

theorem stepPass_advance {job : PassJob} (stepped : w.stepPass c eager job = some (w', task)) :
    Advance c w (.pass job) w' task := by
  -- A pass whose work is done leaves its outcome; any other one goes on by its phase.
  unfold stepPass at stepped
  split at stepped
  · rename_i work outcome complete
    cases stepped
    exact .passEnds complete (conclude_bare w work _) rfl
  · obtain ⟨⟨mid, phase⟩, moved, same⟩ := Option.map_eq_some_iff.mp stepped
    cases same
    have exact := stepPhase_cases moved
    exact .pass exact.advance exact

theorem stepTask_advance {task' : Task} (stepped : w.stepTask c eager task = some (w', task')) :
    Advance c w task w' task' := by
  -- Passes, fixes, the worker and the shutdown have lemmas of their own; the rest is short.
  cases task with
  | forward =>
    obtain ⟨⟨clientLog, outbox⟩, forwarded, same⟩ := Option.map_eq_some_iff.mp stepped
    cases same
    refine .forward ?_ ?_ forwarded rfl
    · simp only [bare, ClientLog.step?_bare forwarded]
    · split
      · exact .inr rfl
      · exact .inl rfl
  | load preparation =>
    obtain ⟨⟨mid, rest⟩, prepared, stepped⟩ := Option.bind_eq_some_iff.mp stepped
    have inquiry := prepare_inquiry prepared
    cases rest <;> cases stepped
    · exact .loaded inquiry.bare_eq inquiry
    · exact .load inquiry.bare_eq inquiry.snapshot_eq inquiry
  | observe preparation =>
    obtain ⟨⟨mid, rest⟩, prepared, stepped⟩ := Option.bind_eq_some_iff.mp stepped
    have inquiry := prepare_inquiry prepared
    cases rest <;> cases stepped
    · exact .observed inquiry.bare_eq inquiry
    · exact .observe inquiry.bare_eq inquiry.snapshot_eq inquiry
  | take =>
    simp only [stepTask] at stepped
    split at stepped
    · cases stepped
    · rename_i free
      split at stepped
      · rename_i gone
        cases stepped
        exact .takeRefused gone
      · rename_i seq here
        cases stepped
        exact .take (by simpa using free) here
  | mark uri =>
    simp only [stepTask] at stepped
    split at stepped
    · cases stepped
    · rename_i free
      cases stepped
      exact .mark (by simpa using free)
  | change change scope phase =>
    obtain ⟨⟨mid, step⟩, changed, stepped⟩ := Option.bind_eq_some_iff.mp stepped
    have advance := stepChange_advance changed
    cases step with
    | waiting phase =>
      cases stepped
      exact .changeWaits advance
    | refused =>
      cases stepped
      exact .changeRefused advance
    | installed seq =>
      cases stepped
      exact .changeInstalled advance
  | pass job => exact stepPass_advance stepped
  | documents phase => exact stepWorker_advance stepped
  | fix job =>
    obtain ⟨same, kind⟩ := stepFix_spec stepped
    exact .fix same kind (stepFix_advance stepped)
  | stop phase =>
    cases phase with
    | telling =>
      cases stepped
      exact .stopTold
    | releasing =>
      obtain ⟨mid, released, same⟩ := Option.map_eq_some_iff.mp stepped
      cases same
      exact .stopReleased released
    | idling =>
      cases stepped
      exact .stopIdled
  | shutdown phase => exact stepShutdown_advance stepped
  | awaitIdle =>
    simp only [stepTask] at stepped
    split at stepped
    · rename_i idle
      cases stepped
      exact .idle idle
    · cases stepped
  | finished done => cases stepped

theorem step_advance {number : Nat} (stepped : w.step c eager number = some w') :
    ∃ task mid task', w.tasks[number]? = some task ∧ Advance c w task mid task' ∧
      w.stepTask c eager task = some (mid, task') ∧
      w' = { mid with tasks := mid.tasks.set number task' } := by
  obtain ⟨task, found, stepped⟩ := Option.bind_eq_some_iff.mp stepped
  obtain ⟨⟨mid, task'⟩, advanced, same⟩ := Option.bind_eq_some_iff.mp stepped
  exact ⟨task, mid, task', found, stepTask_advance advanced, advanced, (Option.some.inj same).symm⟩

/-! ### What is left alone -/

theorem release_frame (w : Workspace) (seq : Nat) :
    (w.release seq).current = w.current ∧ (w.release seq).held = w.held ∧
      (w.release seq).tasks = w.tasks ∧ (w.release seq).changing = w.changing ∧
      (w.release seq).lifecycle = w.lifecycle := by
  unfold release
  dsimp only
  split <;> exact ⟨rfl, rfl, rfl, rfl, rfl⟩

theorem beginPass_frame (w : Workspace) (seq : Nat) :
    (w.beginPass seq).current = w.current ∧ (w.beginPass seq).held = w.held ∧
      (w.beginPass seq).tasks = w.tasks ∧ (w.beginPass seq).changing = w.changing ∧
      (w.beginPass seq).lifecycle = w.lifecycle := by
  unfold beginPass
  split <;> exact ⟨rfl, rfl, rfl, rfl, rfl⟩

theorem beginChange_frame (w : Workspace) (previous : Nat) (save : Bool) :
    (w.beginChange previous save).current = w.current ∧
      (w.beginChange previous save).held = w.held ∧
      (w.beginChange previous save).tasks = w.tasks ∧
      (w.beginChange previous save).changing = true ∧
      (w.beginChange previous save).lifecycle = w.lifecycle := by
  unfold beginChange
  split <;> exact ⟨rfl, rfl, rfl, rfl, rfl⟩

theorem install_frame (w : Workspace) (previous : Nat) (change : StateChange) :
    (w.install previous change).held = w.held ∧ (w.install previous change).tasks = w.tasks ∧
      (w.install previous change).lifecycle = w.lifecycle := by
  unfold install
  split
  · exact ⟨rfl, rfl, rfl⟩
  · obtain ⟨-, held, tasks, -, lifecycle⟩ := release_frame _ previous
    exact ⟨held, tasks, lifecycle⟩

theorem releaseCurrent_cases (released : w.releaseCurrent = some w') :
    w.changing = false ∧ (w.current = none ∧ w' = w ∨
      ∃ seq, w.current = some seq ∧ w' = { w.release seq with current := none }) := by
  unfold releaseCurrent at released
  split at released
  · cases released
  · rename_i free
    refine ⟨by simpa using free, ?_⟩
    split at released
    · rename_i gone
      exact .inl ⟨gone, (Option.some.inj released).symm⟩
    · rename_i seq here
      exact .inr ⟨seq, here, (Option.some.inj released).symm⟩

theorem releaseCurrent_frame (released : w.releaseCurrent = some w') :
    w.changing = false ∧ w'.held = w.held ∧ w'.tasks = w.tasks ∧ w'.lifecycle = w.lifecycle := by
  obtain ⟨free, ⟨-, rfl⟩ | ⟨seq, -, rfl⟩⟩ := releaseCurrent_cases released
  · exact ⟨free, rfl, rfl, rfl⟩
  · obtain ⟨-, held, tasks, -, lifecycle⟩ := release_frame w seq
    exact ⟨free, held, tasks, lifecycle⟩

theorem ChangeAdvance.frame {change : StateChange} {scope : Scope} {phase : ChangePhase}
    {step : ChangeStep} (advance : ChangeAdvance c w change scope phase w' step) :
    w'.held = w.held ∧ w'.tasks = w.tasks ∧ w'.lifecycle = w.lifecycle := by
  have kept : ∀ {mid : Workspace}, mid.bare = w.bare →
      mid.held = w.held ∧ mid.tasks = w.tasks ∧ mid.lifecycle = w.lifecycle := by
    intro mid same
    exact ⟨eq_of_bare same (·.held) fun _ => rfl, eq_of_bare same (·.tasks) fun _ => rfl,
      eq_of_bare same (·.lifecycle) fun _ => rfl⟩
  cases advance with
  | refuse => exact ⟨rfl, rfl, rfl⟩
  | @start previous _ _ =>
    obtain ⟨-, held, tasks, -, lifecycle⟩ := beginChange_frame w previous change.save
    exact ⟨held, tasks, lifecycle⟩
  | wait same => exact kept same
  | @install p mid same =>
    -- What comes before the installation leaves all of this alone too.
    obtain ⟨held, tasks, lifecycle⟩ := kept same
    obtain ⟨held', tasks', lifecycle'⟩ := install_frame mid p.snapshot change
    exact ⟨held'.trans held, tasks'.trans tasks, lifecycle'.trans lifecycle⟩

/-! ### What has nothing to do with references and passes -/

theorem map_modifySnapshot {view : Snapshot → α} (w : Workspace) (seq : Nat)
    (change : Snapshot → Snapshot) (kept : ∀ snapshot, view (change snapshot) = view snapshot) :
    (w.modifySnapshot seq change).snapshots.map view = w.snapshots.map view :=
  map_modify_of_eq w.snapshots seq kept

def rimOf (snapshot : Snapshot) : Snapshot := { readiness := snapshot.readiness }

/--
A workspace without its documents, its tasks, its passes, and who refers to which snapshot.

What is left is what passes between it and the editor, what is known of the runners, and whose turn it
is. References are given and taken, and passes begun and ended, without a trace there.
-/
def rim (w : Workspace) : Workspace :=
  { w with
    filter := ""
    snapshots := w.snapshots.map rimOf
    current := none
    live := 0
    held := []
    stopped := false
    passes := []
    tasks := []
    order := [] }

theorem eq_of_rim (same : w'.rim = w.rim) (view : Workspace → α)
    (kept : ∀ w : Workspace, view w.rim = view w) : view w' = view w := by
  rw [← kept w', same, kept w]

theorem rim_modifySnapshot (w : Workspace) (seq : Nat) {change : Snapshot → Snapshot}
    (kept : ∀ snapshot, (change snapshot).readiness = snapshot.readiness) :
    (w.modifySnapshot seq change).rim = w.rim := by
  have same := @map_modifySnapshot _ rimOf w seq change fun snapshot => by simp [rimOf, kept]
  unfold rim
  rw [same]
  rfl

theorem rim_acquire (w : Workspace) (seq : Nat) : (w.acquire seq).rim = w.rim :=
  rim_modifySnapshot w seq fun _ => rfl

theorem rim_release (w : Workspace) (seq : Nat) : (w.release seq).rim = w.rim := by
  unfold release
  dsimp only
  -- The count of live snapshots may go down as well, which is not seen.
  split <;> exact rim_modifySnapshot w seq fun _ => rfl

theorem rim_letGo (w : Workspace) (name : String) : (w.letGo name).rim = w.rim := by
  unfold letGo
  split
  · rfl
  · exact rim_release w _

theorem rim_hold (w : Workspace) (name : String) (seq : Nat) : (w.hold name seq).rim = w.rim :=
  rim_letGo w name

theorem rim_endScope (w : Workspace) (scope : Scope) : (w.endScope scope).rim = w.rim := by
  cases scope <;> rfl

theorem rim_takeSettings (w : Workspace) (values : List Json) :
    (w.takeSettings values).rim = w.rim := by
  unfold takeSettings
  split
  · rfl
  · split <;> simp only [rim]

theorem rim_beginPass (w : Workspace) (seq : Nat) : (w.beginPass seq).rim = w.rim := by
  unfold beginPass
  split <;> rfl

theorem rim_afterChange (w : Workspace) (change : StateChange) (seq : Nat) :
    (w.afterChange change seq).rim = w.rim := by
  unfold afterChange
  split
  · exact rim_beginPass w seq
  · exact rim_release w seq

theorem rim_releaseCurrent (released : w.releaseCurrent = some w') : w'.rim = w.rim := by
  obtain ⟨-, ⟨-, rfl⟩ | ⟨seq, -, rfl⟩⟩ := releaseCurrent_cases released
  · rfl
  · exact rim_release w seq

theorem rim_beginChange (w : Workspace) (previous : Nat) (save : Bool) :
    (w.beginChange previous save).rim = ({ w with changing := true } : Workspace).rim := by
  unfold beginChange
  split
  · exact rim_modifySnapshot _ previous fun _ => rfl
  · rfl

theorem rim_install (w : Workspace) (previous : Nat) (change : StateChange) :
    (w.install previous change).rim = ({ w with
      changing := false
      snapshots := (w.install previous change).snapshots } : Workspace).rim := by
  have released : ∀ v : Workspace, (v.release previous).rim =
      ({ v with snapshots := (v.release previous).snapshots } : Workspace).rim := by
    intro v
    have same := rim_release v previous
    have listed : (v.release previous).snapshots.map rimOf = v.snapshots.map rimOf :=
      congrArg (fun u : Workspace => u.snapshots) same
    rw [same]
    simp only [rim, listed]
  unfold install
  split
  · rfl
  · exact released _

/-- What comes from outside takes no turn, raises no status and ends no search. What was sent stays, but
for a move that takes it away, and so do the answers. -/
structure Steady (move : Move) (w w' : Workspace) : Prop where
  rim : w'.rim = { w'.rim with
    loaded := w.loaded, changing := w.changing, resolving := w.resolving
    publishing := w.publishing, flagging := w.flagging, slots := w.slots, status := w.status }
  sent : move ≠ .flush → w'.outbox.sent = w.outbox.sent
  answers : w.answers <+: w'.answers

theorem Steady.of_rim {move : Move} {u : Workspace} (steady : Steady move w u)
    (same : w'.rim = u.rim) : Steady move w w' where
  rim := by
    rw [same]
    exact steady.rim
  sent keeps := (congrArg (·.outbox.sent) same).trans (steady.sent keeps)
  answers := by
    show w.answers <+: w'.rim.answers
    rw [same]
    exact steady.answers

theorem Incident.steady {move : Move} (incident : Incident w move w') : Steady move w w' := by
  have same : Steady move w w := ⟨rfl, fun _ => rfl, List.prefix_refl _⟩
  cases incident with
  | around _ _ _ _ _ _ _ _ grows => exact ⟨rfl, fun _ => rfl, grows⟩
  | flush => exact ⟨rfl, fun keeps => absurd rfl keeps, List.prefix_refl _⟩
  | enter =>
    unfold enterSession
    split
    · have opened : Steady (.hear .initialized) w
          { w with lifecycle := .initialized : Workspace }.openView :=
        ⟨rfl, fun _ => rfl, List.prefix_refl _⟩
      exact opened.of_rim (rim_beginPass _ 0)
    · exact same
  | endScope _ scope => exact same.of_rim (rim_endScope w scope)
  | openView name =>
    have opened : Steady (.openView name) w w.openView := ⟨rfl, fun _ => rfl, List.prefix_refl _⟩
    exact opened.of_rim (rim_hold w.openView name 0)
  | @beginPass seq => exact same.of_rim ((rim_beginPass _ seq).trans (rim_acquire w seq))
  | keep name => exact same.of_rim (rim_hold _ name _)
  | clone name => exact same.of_rim ((rim_hold _ name _).trans (rim_acquire w _))
  | acquire name => exact same.of_rim ((rim_hold _ name _).trans (rim_acquire w _))
  | letGo name => exact same.of_rim (rim_letGo w name)
  | _ => exact ⟨rfl, fun _ => rfl, List.prefix_refl _⟩

end PolicyServer.Workspace
