import PolicyServer.Proofs.Workspace.Moves

/-! What a step in looking for a runner, in telling of a verdict and of a pass is: the workspace after
it is given outright, and all else about such steps is read off from here. -/

namespace PolicyServer

def Preparation.asks? (preparation : Preparation) : Option Nat :=
  match preparation.phase with
  | .resolving _ _ => some preparation.snapshot
  | _ => none

def Readiness.ofAnswer (request : Nat) : Option ResolveError → Readiness
  | none => .ready request
  | some error => .failed error

namespace Workspace

variable {c : Collaborators} {eager : Bool} {w w' : Workspace} {p q : Preparation}

/-! ### Looking for a runner -/

/--
What a step in looking for a runner leads to: the workspace after it, and what is left to do.

The resolver is asked only while nobody else asks it and nothing is known yet. A search is over once
it is given up, or something is known of the runner.
-/
inductive Inquiry (c : Collaborators) (w : Workspace) (p : Preparation) :
    Workspace → Option Preparation → Prop where
  | admitted (waits : p.phase = .load) : Inquiry c w p w (some { p with phase := .turn })
  | asks (due : Nat) (waits : p.phase = .turn) (free : w.resolving = false)
      (unknown : (w.readinessOf p.snapshot).isKnown = false) :
    Inquiry c w p { w with resolving := true, resolves := w.resolves + 1 }
      (some { p with phase := .resolving w.resolves due })
  | found (loaded : Bool) (waits : p.phase = .turn)
      (known : (w.readinessOf p.snapshot).isKnown = true) (opens : loaded = (w.loaded || p.first)) :
    Inquiry c w p { w with loaded } none
  | abandoned (loaded : Bool) (idle : p.asks? = none) (ended : w.isEnded p.scope = true)
      (opens : loaded = (w.loaded || p.first)) :
    Inquiry c w p { w with loaded } none
  | dropped {request due : Nat} (loaded : Bool) (asking : p.phase = .resolving request due)
      (ended : w.isEnded p.scope = true) (opens : loaded = (w.loaded || p.first)) :
    Inquiry c w p { w with resolving := false, loaded } none
  | settled {request due : Nat} (loaded : Bool) (asking : p.phase = .resolving request due)
      (awake : w.isEnded p.scope = false) (opens : loaded = (w.loaded || p.first)) :
    Inquiry c w p
      { w.modifySnapshot p.snapshot fun snapshot =>
          { snapshot with readiness := .ofAnswer request (c.resolve w.root request).result } with
        resolving := false, loaded } none

theorem prepare_inquiry {rest : Option Preparation} (stepped : w.prepare c eager p = some (w', rest)) :
    Inquiry c w p w' rest := by
  obtain ⟨snapshot, scope, first, phase⟩ := p
  unfold prepare at stepped
  -- Each phase waits for something, and ends early where the scope does.
  cases phase with
  | load =>
    dsimp only at stepped
    split at stepped
    · cases stepped
      exact .admitted rfl
    · split at stepped
      · rename_i ended
        cases stepped
        exact .abandoned _ rfl ended rfl
      · cases stepped
  | turn =>
    dsimp only at stepped
    split at stepped
    · rename_i mine
      simp only [Bool.and_eq_true, Bool.not_eq_true'] at mine
      split at stepped
      · rename_i known
        cases stepped
        exact .found _ rfl known rfl
      · rename_i unknown
        cases stepped
        exact .asks _ rfl mine.1 (by simpa using unknown)
    · split at stepped
      · rename_i ended
        cases stepped
        exact .abandoned _ rfl ended rfl
      · cases stepped
  | resolving request due =>
    dsimp only at stepped
    split at stepped
    · split at stepped
      · rename_i ended
        cases stepped
        exact .dropped _ rfl ended rfl
      · rename_i awake
        cases stepped
        -- The answer is written differently for a runner and for a failure.
        have settled : Inquiry c w ⟨snapshot, scope, first, .resolving request due⟩ _ none :=
          .settled (w.loaded || first) rfl (by simpa using awake) rfl
        cases answer : (c.resolve w.root request).result with
        | none =>
          rw [answer] at settled
          exact settled
        | some error =>
          rw [answer] at settled
          exact settled
    · cases stepped

theorem Inquiry.snapshot_eq (inquiry : Inquiry c w p w' (some q)) :
    q.snapshot = p.snapshot := by
  cases inquiry <;> rfl

theorem Inquiry.scope_eq (inquiry : Inquiry c w p w' (some q)) :
    q.scope = p.scope := by
  cases inquiry <;> rfl

theorem Inquiry.first_eq (inquiry : Inquiry c w p w' (some q)) :
    q.first = p.first ∧ q.phase ≠ .load := by
  cases inquiry <;> exact ⟨rfl, by simp⟩

theorem Inquiry.loads (inquiry : Inquiry c w p w' none) (first : p.first = true) :
    w'.loaded = true := by
  cases inquiry <;> simp_all

theorem Inquiry.length_eq {rest : Option Preparation} (inquiry : Inquiry c w p w' rest) :
    w'.snapshots.length = w.snapshots.length := by
  cases inquiry with
  | settled => simp [modifySnapshot]
  | _ => rfl

/-! ### Telling of a verdict -/

/-- What the editor is told as an error becomes the status; nobody can cancel it. -/
def statusOpening (message : String) : Opening Scope := ⟨statusTitle, message, none⟩

def endStatus (w : Workspace) : Workspace :=
  match w.status with
  | none => w
  | some former => { w.conclude former "Done." with status := none }

def raiseStatus (w : Workspace) (shown : Work) (message : String) : Workspace :=
  { w with
    status := some shown
    flagging := false
    slots := w.slots + 1
    clientLog := w.clientLog.error s!"Policy analysis failed: {message}" }

/-- What a step in telling of a verdict leads to: the workspace after it, and the phase reached. -/
inductive StatusStep (w : Workspace) (work : Work) :
    Verdict → StatusPhase → Workspace → PassPhase → Prop where
  | clears {resources : Resources} (free : w.flagging = false) :
    StatusStep w work (.ok resources) .turn { w.endStatus with flagging := false }
      (.correlating work resources)
  | begins {message : String} (free : w.flagging = false) :
    StatusStep w work (.error message) .turn { w.endStatus with flagging := true }
      (.status work (.error message) .announcing)
  | raises {message : String} {shown : Work} {v : Workspace}
      (announced : w.announce (statusOpening message) = (.work shown, v)) :
    StatusStep w work (.error message) .announcing (v.raiseStatus shown message)
      (.ending work .failed)
  | asks {message : String} {token : ProgressToken} {v : Workspace}
      (announced : w.announce (statusOpening message) = (.asked token, v)) :
    StatusStep w work (.error message) .announcing v (.status work (.error message) (.asked token))
  | begun {message : String} {token : ProgressToken} {accepted : Bool}
      (answer : w.answer? token = some accepted) :
    StatusStep w work (.error message) (.asked token)
      ((w.begin token (statusOpening message) accepted).2.raiseStatus
        (w.begin token (statusOpening message) accepted).1 message) (.ending work .failed)
  -- Results are not announced, so the last two never come about.
  | skips {resources : Resources} :
    StatusStep w work (.ok resources) .announcing { w with flagging := false }
      (.correlating work resources)
  | void {resources : Resources} {token : ProgressToken} {accepted : Bool}
      (answer : w.answer? token = some accepted) :
    StatusStep w work (.ok resources) (.asked token)
      { (w.begin token (statusOpening "") accepted).2 with
        status := some (w.begin token (statusOpening "") accepted).1
        flagging := false }
      (.correlating work resources)

theorem stepStatus_cases {work : Work} {verdict : Verdict} {stage : StatusPhase} {phase : PassPhase}
    (stepped : w.stepStatus work verdict stage = some (w', phase)) :
    StatusStep w work verdict stage w' phase := by
  cases stage with
  | turn =>
    simp only [stepStatus] at stepped
    split at stepped
    · cases stepped
    · rename_i free
      have free : w.flagging = false := by simpa using free
      cases verdict <;> cases stepped
      · exact .begins free
      · exact .clears free
  | announcing =>
    simp only [stepStatus] at stepped
    split at stepped
    · cases stepped
      exact .skips
    · split at stepped
      all_goals
        rename_i announced
        cases stepped
      · exact .raises announced
      · exact .asks announced
  | asked token =>
    obtain ⟨accepted, answer, stepped⟩ := Option.bind_eq_some_iff.mp stepped
    cases verdict <;> cases stepped
    · exact .begun answer
    · exact .void answer

/-! ### A pass -/

def passOpening (job : PassJob) : Opening Scope := ⟨workTitle, job.message, some (.pass job.pass)⟩

/--
What a step of a pass leads to that is not over: the workspace after it, and the phase reached.

Where a pass has ended, it is cancelled while it waits for a slot, as it is about to invoke the runner,
while the runner is at work, and as it is about to publish; nowhere else does it look.
-/
inductive PhaseStep (c : Collaborators) (w : Workspace) (job : PassJob) :
    PassPhase → Workspace → PassPhase → Prop where
  -- The editor's settings.
  | asksSettings :
    PhaseStep c w job .configuring { w.send .settings with settings := .open }
      (.configuration (w.clock + settingsTimeout))
  | skipsSettings : PhaseStep c w job .configuring w .announcing
  | takesSettings {due : Nat} {values : List Json} (answer : w.settings = .answered (some values)) :
    PhaseStep c w job (.configuration due) (w.takeSettings values) .announcing
  | lacksSettings {due : Nat} : PhaseStep c w job (.configuration due) w .announcing
  | dropsSettings {due : Nat} (late : due ≤ w.clock) :
    PhaseStep c w job (.configuration due) { w with settings := .givenUp } .announcing
  -- The announcement.
  | shown {work : Work} {v : Workspace} (announced : w.announce (passOpening job) = (.work work, v)) :
    PhaseStep c w job .announcing v (.queued work)
  | asks {token : ProgressToken} {v : Workspace}
      (announced : w.announce (passOpening job) = (.asked token, v)) :
    PhaseStep c w job .announcing v (.asked token)
  | answered {token : ProgressToken} {accepted : Bool} (answer : w.answer? token = some accepted) :
    PhaseStep c w job (.asked token) (w.begin token (passOpening job) accepted).2
      (.queued (w.begin token (passOpening job) accepted).1)
  -- The slot and the runner.
  | admitted {work : Work} (free : 0 < w.slots) :
    PhaseStep c w job (.queued work) { w with slots := w.slots - 1 }
      (.preparing work { snapshot := job.snapshot, scope := .pass job.pass })
  | abandoned {work : Work} (ended : w.isEnded (.pass job.pass) = true) :
    PhaseStep c w job (.queued work) w (.ending work .cancelled)
  | looks {work : Work} {p q : Preparation} {v : Workspace} (inquiry : Inquiry c w p v (some q)) :
    PhaseStep c w job (.preparing work p) v (.preparing work q)
  | looked {work : Work} {p : Preparation} {v : Workspace} (inquiry : Inquiry c w p v none) :
    PhaseStep c w job (.preparing work p) v (.prepared work)
  | cancelled {work : Work} (ended : w.isEnded (.pass job.pass) = true) :
    PhaseStep c w job (.prepared work) w.freeSlot (.ending work .cancelled)
  | lacks {work : Work} {message : String} (awake : w.isEnded (.pass job.pass) = false)
      (unready : w.unreadiness job.snapshot = some message) :
    PhaseStep c w job (.prepared work) w (.status work (.error message) .turn)
  | runs {work : Work} (awake : w.isEnded (.pass job.pass) = false)
      (ready : w.unreadiness job.snapshot = none) :
    PhaseStep c w job (.prepared work) { w with runs := w.runs + 1 }
      (.running work w.runs (w.clock + (c.run w.runs).delay))
  -- What the runner comes to.
  | drops {work : Work} {run due : Nat} (late : due ≤ w.clock) :
    PhaseStep c w job (.running work run due) w.freeSlot (.ending work .cancelled)
  | judged {work : Work} {run due : Nat} {verdict : Verdict} (late : due ≤ w.clock)
      (awake : w.isEnded (.pass job.pass) = false)
      (reached : (c.run run).result.mapError (·.message) = verdict) :
    PhaseStep c w job (.running work run due) w (.status work verdict .turn)
  | cuts {work : Work} {run due : Nat} (ended : w.isEnded (.pass job.pass) = true) :
    PhaseStep c w job (.running work run due) { w.freeSlot with runsCut := w.runsCut + 1 }
      (.ending work .cancelled)
  | tells {work : Work} {verdict : Verdict} {stage : StatusPhase} {v : Workspace}
      {phase : PassPhase} (step : StatusStep w work verdict stage v phase) :
    PhaseStep c w job (.status work verdict stage) v phase
  -- Its results.
  | correlates {work : Work} {resources : Resources} :
    PhaseStep c w job (.correlating work resources) w.freeSlot
      (.publishing work (Findings.correlate
        (Findings.declarations (w.filesOf job.snapshot) w.disk c.parse) resources))
  | withdraws {work : Work} {findings : Findings} (free : w.publishing = false)
      (ended : w.isEnded (.pass job.pass) = true) :
    PhaseStep c w job (.publishing work findings) w (.ending work .cancelled)
  | enters {work : Work} {findings : Findings} (free : w.publishing = false)
      (awake : w.isEnded (.pass job.pass) = false) :
    PhaseStep c w job (.publishing work findings) { w with publishing := true }
      (.sending work (toPublish w.published findings) (toPublish w.published findings).length)
  | sends {work : Work} {uri : String} {diagnostics : List Diagnostic} {rest : Findings}
      {files : Nat} :
    PhaseStep c w job (.sending work ((uri, diagnostics) :: rest) files)
      (w.publish job.snapshot uri diagnostics) (.sending work rest files)
  | leaves {work : Work} {files : Nat} :
    PhaseStep c w job (.sending work [] files) { w with publishing := false }
      (.ending work (.published files))

theorem stepPhase_cases {job : PassJob} {phase : PassPhase}
    (stepped : w.stepPhase c eager job = some (w', phase)) :
    PhaseStep c w job job.phase w' phase := by
  obtain ⟨pass, snapshot, message, before⟩ := job
  cases before with
  | configuring =>
    simp only [stepPhase] at stepped
    split at stepped <;> cases stepped
    · exact .asksSettings
    · exact .skipsSettings
  | configuration due =>
    simp only [stepPhase] at stepped
    split at stepped
    · rename_i answer
      cases stepped
      exact .takesSettings answer
    · cases stepped
      exact .lacksSettings
    · split at stepped
      · cases stepped
        exact .lacksSettings
      · split at stepped
        · rename_i late
          cases stepped
          exact .dropsSettings late
        · cases stepped
  | announcing =>
    simp only [stepPhase] at stepped
    split at stepped
    all_goals
      rename_i announced
      cases stepped
    · exact .shown announced
    · exact .asks announced
  | asked token =>
    obtain ⟨accepted, answer, stepped⟩ := Option.bind_eq_some_iff.mp stepped
    cases stepped
    exact .answered answer
  | queued work =>
    simp only [stepPhase] at stepped
    split at stepped
    · rename_i free
      simp only [Bool.and_eq_true, decide_eq_true_eq] at free
      cases stepped
      exact .admitted free.1
    · split at stepped
      · rename_i ended
        cases stepped
        exact .abandoned ended
      · cases stepped
  | preparing work p =>
    obtain ⟨⟨mid, rest⟩, prepared, stepped⟩ := Option.bind_eq_some_iff.mp stepped
    have inquiry := prepare_inquiry prepared
    cases rest <;> cases stepped
    · exact .looked inquiry
    · exact .looks inquiry
  | prepared work =>
    simp only [stepPhase] at stepped
    split at stepped
    · rename_i ended
      cases stepped
      exact .cancelled ended
    · rename_i awake
      have awake : w.isEnded (.pass pass) = false := by simpa using awake
      split at stepped
      · rename_i unready
        cases stepped
        exact .lacks awake unready
      · rename_i ready
        cases stepped
        exact .runs awake ready
  | running work run due =>
    simp only [stepPhase] at stepped
    split at stepped
    · rename_i late
      -- Both a result and a failure are dropped by a pass that is at its end.
      split at stepped
      all_goals
        rename_i result
        split at stepped
      · cases stepped
        exact .drops late
      · rename_i awake
        cases stepped
        exact .judged late (by simpa using awake) (by simp [result, Except.mapError])
      · cases stepped
        exact .drops late
      · rename_i awake
        cases stepped
        simp only [Bool.or_eq_true, not_or, Bool.not_eq_true] at awake
        exact .judged late awake.1 (by simp [result, Except.mapError])
    · split at stepped
      · rename_i ended
        cases stepped
        exact .cuts (Bool.and_eq_true_iff.mp ended).1
      · cases stepped
  | status work verdict stage => exact .tells (stepStatus_cases stepped)
  | correlating work resources =>
    cases stepped
    exact .correlates
  | publishing work findings =>
    simp only [stepPhase] at stepped
    split at stepped
    · cases stepped
    · rename_i free
      have free : w.publishing = false := by simpa using free
      split at stepped
      · rename_i ended
        cases stepped
        exact .withdraws free ended
      · rename_i awake
        cases stepped
        exact .enters free (by simpa using awake)
  | sending work rest files =>
    cases rest <;> cases stepped
    · exact .leaves
    · exact .sends
  | ending work outcome => cases stepped

end Workspace

end PolicyServer
