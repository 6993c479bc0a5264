import PolicyServer.Proofs.Progress.Tracker
import PolicyServer.Proofs.Workspace.Supersession

/-! What the editor is shown of a workspace: what a step of a task sends, and what becomes of the
status of the workspace as a whole. -/

namespace PolicyServer

namespace PassPhase

/-- The token that a pass has asked the editor for, for itself or for the status. -/
def awaits? : PassPhase → Option ProgressToken
  | .asked token | .status _ _ (.asked token) => some token
  | _ => none

def isEarly : PassPhase → Bool
  | .configuring | .configuration _ | .announcing | .asked _ | .queued _ | .preparing _ _
  | .prepared _ | .running _ _ _ | .ending _ .cancelled => true
  | _ => false

def isCleared : PassPhase → Bool
  | .correlating _ _ | .publishing _ _ | .sending _ _ _ | .ending _ (.published _)
  | .ending _ .cancelled => true
  | _ => false

def isFlagging : PassPhase → Bool
  | .status _ _ .announcing | .status _ _ (.asked _) => true
  | _ => false

end PassPhase

/-- The token that a pass has asked the editor for; while it waits, it keeps its snapshot. -/
def Task.awaits? : Task → Option ProgressToken
  | .pass job => job.phase.awaits?
  | _ => none

namespace Workspace

variable {c : Collaborators} {eager : Bool} {w w' : Workspace} {number : Nat} {task task' : Task}

/-- What passes between a workspace and the editor: what was sent and answered, the status, and whose
turn it is to tell of either. `loaded` is kept with it, since the rest touches it as little. -/
structure Surface where
  outbox : Outbox
  answers : List (ProgressToken × Bool)
  loaded : Bool
  publishing : Bool
  status : Option Work
  flagging : Bool

def surface (w : Workspace) : Surface :=
  ⟨w.outbox, w.answers, w.loaded, w.publishing, w.status, w.flagging⟩

/-- What the analysis of a pass comes to, as its collaborators have it. -/
def verdictOf? (c : Collaborators) (w : Workspace) (job : PassJob) : Option Verdict :=
  match job.phase with
  | .prepared _ => (w.unreadiness job.snapshot).map .error
  | .running _ run _ => some ((c.run run).result.mapError (·.message))
  | _ => none

def statusEnded (w : Workspace) : Surface :=
  { w.surface with
    outbox := w.outbox.sendAll ((w.status.map (Work.closed "Done.")).getD [])
    status := none }

/-! ### What a pass shows -/

theorem surface_of_rim (same : w'.rim = w.rim) : w'.surface = w.surface :=
  eq_of_rim same surface fun _ => rfl

theorem Inquiry.surface_eq {p : Preparation} {rest : Option Preparation}
    (inquiry : Inquiry c w p w' rest) :
    w'.surface = { w.surface with loaded := w'.loaded } ∧ (w.loaded = true → w'.loaded = true) := by
  cases inquiry with
  | admitted => exact ⟨rfl, id⟩
  | asks => exact ⟨rfl, id⟩
  | _ =>
    rename_i opens
    exact ⟨rfl, fun before => by simp [opens, before]⟩

theorem surface_of_shown {opening : Opening Scope} {work : Work}
    (shown : w.announce opening = (.work work, w')) :
    w'.surface = { w.surface with outbox := w.outbox.sendAll (work.opened opening) } := by
  simp only [announce] at shown
  rcases w.tracker.announce_cases w.outbox opening with ⟨work, -, told⟩ | ⟨-, told⟩
  all_goals
    rw [told] at shown
    cases shown
  rfl

theorem surface_of_asked {opening : Opening Scope} {token : ProgressToken}
    (asked : w.announce opening = (.asked token, w')) :
    w.outbox.takesCalls = true ∧
      w'.surface = { w.surface with outbox := w.outbox.send (.create token) } := by
  simp only [announce] at asked
  rcases w.tracker.announce_cases w.outbox opening with ⟨work, -, told⟩ | ⟨takes, told⟩
  all_goals
    rw [told] at asked
    cases asked
  exact ⟨takes, rfl⟩

theorem begin_surface (w : Workspace) (token : ProgressToken) (opening : Opening Scope)
    (accepted : Bool) :
    (w.begin token opening accepted).2.surface =
      { w.surface with
        outbox := w.outbox.sendAll ((w.begin token opening accepted).1.opened opening) } := by
  simp only [begin, surface, Tracker.answer_eq]

theorem begin_grows (w : Workspace) (token : ProgressToken) (opening : Opening Scope)
    (accepted : Bool) : w.outbox.Grows (w.begin token opening accepted).2.outbox := by
  have told : (w.begin token opening accepted).2.outbox = w.outbox.sendAll _ :=
    congrArg Surface.outbox (begin_surface w token opening accepted)
  rw [told]
  exact Outbox.grows_sendAll _ _

theorem conclude_surface (w : Workspace) (work : Work) (message : String) :
    (w.conclude work message).surface =
      { w.surface with outbox := w.outbox.sendAll (work.closed message) } := by
  simp only [conclude, surface, Tracker.conclude_eq]

/--
What a step of a pass shows: the surface after it, and the phase reached.

A verdict is told of when the pass has its turn at the status. The status before is ended then, and an
error is announced in its place before the turn is given back.
-/
inductive PassShow (c : Collaborators) (w : Workspace) (job : PassJob) :
    Surface → PassPhase → Prop where
  -- The pass is on its way to a verdict.
  | early {phase : PassPhase} {outbox : Outbox} {loaded : Bool}
      (before : job.phase.isEarly = true) (after : phase.isEarly = true)
      (patient : phase.awaits? = none) (grows : w.outbox.Grows outbox)
      (lasts : w.loaded = true → loaded = true) :
    PassShow c w job { w.surface with outbox, loaded } phase
  | calls {token : ProgressToken} (before : job.phase = .announcing)
      (takes : w.outbox.takesCalls = true) :
    PassShow c w job { w.surface with outbox := w.outbox.send (.create token) } (.asked token)
  | judged {work : Work} {verdict : Verdict} (before : job.phase.isEarly = true)
      (reached : w.verdictOf? c job = some verdict)
      (awake : w.isEnded (.pass job.pass) = false) :
    PassShow c w job w.surface (.status work verdict .turn)
  -- It has its turn at the status.
  | clears {work : Work} {resources : Resources}
      (before : job.phase = .status work (.ok resources) .turn) (free : w.flagging = false) :
    PassShow c w job { w.statusEnded with flagging := false } (.correlating work resources)
  | begins {work : Work} {message : String}
      (before : job.phase = .status work (.error message) .turn) (free : w.flagging = false) :
    PassShow c w job { w.statusEnded with flagging := true }
      (.status work (.error message) .announcing)
  | asks {work : Work} {message : String} {token : ProgressToken}
      (before : job.phase = .status work (.error message) .announcing)
      (takes : w.outbox.takesCalls = true) :
    PassShow c w job { w.surface with outbox := w.outbox.send (.create token) }
      (.status work (.error message) (.asked token))
  | raises {work shown : Work} {message : String} {stage : StatusPhase}
      (before : job.phase = .status work (.error message) stage) (turn : stage ≠ .turn) :
    PassShow c w job
      { w.surface with
        outbox := w.outbox.sendAll (shown.opened (statusOpening message))
        status := some shown
        flagging := false }
      (.ending work .failed)
  -- Results are not announced, so this never comes about.
  | void {work : Work} {resources : Resources} {stage : StatusPhase} {outbox : Outbox}
      {status : Option Work} (before : job.phase = .status work (.ok resources) stage)
      (turn : stage ≠ .turn) (grows : w.outbox.Grows outbox) :
    PassShow c w job { w.surface with outbox, status, flagging := false }
      (.correlating work resources)
  -- Its results are on their way to the editor.
  | cleared {phase : PassPhase} {outbox : Outbox} (before : job.phase.isCleared = true)
      (after : phase.isCleared = true) (steady : phase.isSending = job.phase.isSending)
      (grows : w.outbox.Grows outbox) :
    PassShow c w job { w.surface with outbox } phase
  | enters {work : Work} {findings rest : Findings} {files : Nat}
      (before : job.phase = .publishing work findings) (free : w.publishing = false) :
    PassShow c w job { w.surface with publishing := true } (.sending work rest files)
  | leaves {work : Work} {files : Nat} (before : job.phase = .sending work [] files) :
    PassShow c w job { w.surface with publishing := false } (.ending work (.published files))

theorem surface_endStatus (w : Workspace) : w.endStatus.surface = w.statusEnded := by
  unfold endStatus statusEnded
  split
  · rename_i none
    simp [surface, none, Outbox.sendAll]
  · rename_i former shown
    have told := conclude_surface w former "Done."
    simp only [surface, Surface.mk.injEq] at told
    simp [surface, shown, told]

theorem PassShow.ofRaise {job : PassJob} {work shown : Work} {message : String}
    {stage : StatusPhase} {v : Workspace}
    (before : job.phase = .status work (.error message) stage) (turn : stage ≠ .turn)
    (told : v.surface = { w.surface with
      outbox := w.outbox.sendAll (shown.opened (statusOpening message)) }) :
    PassShow c w job (v.raiseStatus shown message).surface (.ending work .failed) := by
  have same : (v.raiseStatus shown message).surface =
      { v.surface with status := some shown, flagging := false } := rfl
  rw [same, told]
  exact .raises before turn

theorem StatusStep.show {job : PassJob} {work : Work} {verdict : Verdict} {stage : StatusPhase}
    {phase : PassPhase} (step : StatusStep w work verdict stage w' phase)
    (before : job.phase = .status work verdict stage) : PassShow c w job w'.surface phase := by
  cases step with
  | clears free =>
    have shown := PassShow.clears (c := c) before free
    rw [← surface_endStatus] at shown
    exact shown
  | begins free =>
    have shown := PassShow.begins (c := c) before free
    rw [← surface_endStatus] at shown
    exact shown
  | raises announced => exact .ofRaise before (by simp) (surface_of_shown announced)
  | asks announced =>
    obtain ⟨takes, told⟩ := surface_of_asked announced
    rw [told]
    exact .asks before takes
  | begun => exact .ofRaise before (by simp) (begin_surface w _ _ _)
  | skips => exact .void before (by simp) (.refl _)
  | void => exact .void before (by simp) (begin_grows w _ _ _)

theorem PhaseStep.show {job : PassJob} {phase : PassPhase}
    (step : PhaseStep c w job job.phase w' phase) : PassShow c w job w'.surface phase := by
  -- Before the verdict little is shown, and after it only the results.
  obtain ⟨pass, snapshot, message, before⟩ := job
  cases step with
  | asksSettings => exact .early rfl rfl rfl (Outbox.grows_send _ _) id
  | takesSettings =>
    rw [surface_of_rim (rim_takeSettings w _)]
    exact .early rfl rfl rfl (.refl _) id
  | shown announced =>
    rw [surface_of_shown announced]
    exact .early rfl rfl rfl (Outbox.grows_sendAll _ _) id
  | asks announced =>
    obtain ⟨takes, told⟩ := surface_of_asked announced
    rw [told]
    exact .calls rfl takes
  | answered =>
    rw [begin_surface]
    exact .early rfl rfl rfl (Outbox.grows_sendAll _ _) id
  | looks inquiry =>
    rw [inquiry.surface_eq.1]
    exact .early rfl rfl rfl (.refl _) inquiry.surface_eq.2
  | looked inquiry =>
    rw [inquiry.surface_eq.1]
    exact .early rfl rfl rfl (.refl _) inquiry.surface_eq.2
  | lacks awake unready => exact .judged rfl (by simp [verdictOf?, unready]) awake
  | judged _ awake reached => exact .judged rfl (by simp [verdictOf?, reached]) awake
  | tells step => exact step.show rfl
  | correlates => exact .cleared rfl rfl rfl (.refl _)
  | withdraws => exact .cleared rfl rfl rfl (.refl _)
  | enters free => exact .enters rfl free
  | sends => exact .cleared rfl rfl rfl (Outbox.grows_send _ _)
  | leaves => exact .leaves rfl
  | _ => exact .early rfl rfl rfl (.refl _) id

/-! ### What any task shows -/

theorem cancelFix_surface (w : Workspace) (work : Option Work) :
    ∃ outbox, w.outbox.Grows outbox ∧ (w.cancelFix work).1.surface = { w.surface with outbox } := by
  cases work with
  | none => exact ⟨w.outbox, .refl _, rfl⟩
  | some work => exact ⟨_, Outbox.grows_sendAll _ _, conclude_surface w work _⟩

theorem endFix_surface (w : Workspace) (work : Work) (outcome : Except QuickFixError CodeAction) :
    ∃ outbox, w.outbox.Grows outbox ∧
      (w.endFix work outcome).1.surface = { w.surface with outbox } := by
  cases outcome <;> exact ⟨_, Outbox.grows_sendAll _ _, conclude_surface w work _⟩

theorem FixAdvance.surface_eq {job : FixJob} (step : FixAdvance c w job w' task') :
    ∃ outbox, w.outbox.Grows outbox ∧ w'.surface = { w.surface with outbox } := by
  cases step with
  | cancelled work => exact cancelFix_surface w work
  | shown _ _ announced => exact ⟨_, Outbox.grows_sendAll _ _, surface_of_shown announced⟩
  | asks _ _ announced => exact ⟨_, Outbox.grows_send _ _, (surface_of_asked announced).2⟩
  | answered => exact ⟨_, Outbox.grows_sendAll _ _, begin_surface w _ _ _⟩
  | ends work outcome => exact endFix_surface w work outcome
  | _ => exact ⟨_, .refl _, rfl⟩

theorem ChangeAdvance.surface_eq {change : StateChange} {scope : Scope} {phase : ChangePhase}
    {step : ChangeStep} (advance : ChangeAdvance c w change scope phase w' step) :
    w'.surface = { w.surface with loaded := w'.loaded } ∧ (w.loaded = true → w'.loaded = true) := by
  have quiet : ∀ {v u : Workspace}, v.surface = u.surface →
      u.surface = { w.surface with loaded := u.loaded } ∧ (w.loaded = true → u.loaded = true) →
      v.surface = { w.surface with loaded := v.loaded } ∧ (w.loaded = true → v.loaded = true) := by
    intro v u same before
    have loaded : v.loaded = u.loaded := congrArg Surface.loaded same
    rw [same, loaded]
    exact before
  cases advance with
  | refuse => exact ⟨rfl, id⟩
  | @start previous =>
    exact quiet (surface_of_rim (rim_beginChange w previous change.save)) ⟨rfl, id⟩
  | wait _ _ inquiry => exact inquiry.surface_eq
  | @install p mid _ inquiry =>
    exact quiet (surface_of_rim (rim_install mid p.snapshot change)) inquiry.surface_eq

/--
What a step of a task shows: the surface after it, and what has become of the task.

Only a pass has to do with the status, and only the search for a runner with the first attempt.
-/
inductive Show (c : Collaborators) (w : Workspace) : Task → Surface → Task → Prop where
  | pass {job : PassJob} {surface : Surface} {phase : PassPhase}
      (step : PassShow c w job surface phase) :
    Show c w (.pass job) surface (.pass { job with phase })
  | ends {job : PassJob} {work : Work} {outcome : PassOutcome}
      (complete : job.phase = .ending work outcome) :
    Show c w (.pass job)
      { w.surface with outbox := w.outbox.sendAll (work.closed outcome.summary) }
      (.finished (.outcome outcome))
  | other {task task' : Task} {outbox : Outbox} {loaded : Bool} (apart : task.job? = none)
      (apart' : task'.job? = none) (grows : w.outbox.Grows outbox)
      (lasts : w.loaded = true → loaded = true) :
    Show c w task { w.surface with outbox, loaded } task'

theorem Show.of_grows {outbox : Outbox} (apart : task.job? = none) (apart' : task'.job? = none)
    (shown : w.outbox.Grows outbox ∧ w'.surface = { w.surface with outbox }) :
    Show c w task w'.surface task' := by
  rw [shown.2]
  exact .other apart apart' shown.1 id

theorem Show.of_loaded (apart : task.job? = none) (apart' : task'.job? = none)
    (quiet : w'.surface = { w.surface with loaded := w'.loaded } ∧
      (w.loaded = true → w'.loaded = true)) : Show c w task w'.surface task' := by
  rw [quiet.1]
  exact .other apart apart' (.refl _) quiet.2

theorem stepTask_show (stepped : w.stepTask c eager task = some (w', task')) :
    Show c w task w'.surface task' := by
  -- Most tasks leave the surface alone.
  have quiet : w'.surface = w.surface → task.job? = none → task'.job? = none →
      Show c w task w'.surface task' :=
    fun same apart apart' => .of_grows apart apart' ⟨.refl _, same⟩
  cases stepTask_advance stepped with
  | forward _ kind forwarded after =>
    subst after
    refine .other rfl (by rcases kind with rfl | rfl <;> rfl) ?_ id
    -- What is forwarded to the editor is sent.
    unfold ClientLog.step? at forwarded
    split at forwarded
    · cases forwarded
      exact .refl _
    · obtain ⟨⟨notice, rest⟩, -, same⟩ := Option.map_eq_some_iff.mp forwarded
      cases same
      exact Outbox.grows_send _ _
  | load _ _ inquiry => exact .of_loaded rfl rfl inquiry.surface_eq
  | loaded _ inquiry =>
    rw [surface_of_rim (rim_release _ _)]
    exact .of_loaded rfl rfl inquiry.surface_eq
  | observe _ _ inquiry => exact .of_loaded rfl rfl inquiry.surface_eq
  | observed _ inquiry =>
    rw [surface_of_rim (rim_release _ _)]
    exact .of_loaded rfl rfl inquiry.surface_eq
  | changeWaits step => exact .of_loaded rfl rfl step.surface_eq
  | changeRefused step => exact .of_loaded rfl rfl step.surface_eq
  | changeInstalled step => exact .of_loaded rfl rfl step.surface_eq
  | pass _ step => exact .pass step.show
  | passEnds complete _ told =>
    subst told
    rw [surface_of_rim (rim_release _ _), conclude_surface]
    exact .ends complete
  | readAll => exact quiet (surface_of_rim (rim_release w _)) rfl rfl
  | workerWaits step => exact .of_loaded rfl rfl step.surface_eq
  | workerRefused step => exact .of_loaded rfl rfl step.surface_eq
  | workerInstalled step =>
    rw [surface_of_rim (rim_afterChange _ _ _)]
    exact .of_loaded rfl rfl step.surface_eq
  | fix _ kind step =>
    obtain ⟨outbox, shown⟩ := step.surface_eq
    refine .of_grows rfl ?_ shown
    rcases kind with ⟨job', rfl⟩ | ⟨outcome, rfl⟩ <;> rfl
  | stopReleased released => exact quiet (surface_of_rim (rim_releaseCurrent released)) rfl rfl
  | shutdownReleased released => exact quiet (surface_of_rim (rim_releaseCurrent released)) rfl rfl
  | shutdownIdled _ _ after =>
    subst after
    exact quiet rfl rfl rfl
  | _ => exact quiet rfl rfl rfl

/-- What no step takes back: what was sent and answered, and that the first attempt is over. -/
structure Surface.Grows (before after : Surface) : Prop where
  outbox : before.outbox.Grows after.outbox
  answers : after.answers = before.answers
  loaded : before.loaded = true → after.loaded = true

theorem PassShow.grows {job : PassJob} {surface : Surface} {phase : PassPhase}
    (shown : PassShow c w job surface phase) : w.surface.Grows surface := by
  cases shown with
  | early _ _ _ grows lasts => exact ⟨grows, rfl, lasts⟩
  | calls => exact ⟨Outbox.grows_send _ _, rfl, id⟩
  | judged => exact ⟨.refl _, rfl, id⟩
  | asks => exact ⟨Outbox.grows_send _ _, rfl, id⟩
  | void _ _ grows => exact ⟨grows, rfl, id⟩
  | cleared _ _ _ grows => exact ⟨grows, rfl, id⟩
  | enters => exact ⟨.refl _, rfl, id⟩
  | leaves => exact ⟨.refl _, rfl, id⟩
  | _ => exact ⟨Outbox.grows_sendAll _ _, rfl, id⟩

theorem Show.grows {surface : Surface} (shown : Show c w task surface task') :
    w.surface.Grows surface := by
  cases shown with
  | pass step => exact step.grows
  | ends => exact ⟨Outbox.grows_sendAll _ _, rfl, id⟩
  | other _ _ grows lasts => exact ⟨grows, rfl, lasts⟩

theorem PassShow.awaits {job : PassJob} {surface : Surface} {phase : PassPhase}
    (shown : PassShow c w job surface phase) {token : ProgressToken}
    (waits : phase.awaits? = some token) : .create token ∈ surface.outbox.sent := by
  cases shown with
  | early _ _ patient =>
    rw [patient] at waits
    cases waits
  | calls _ takes =>
    cases waits
    exact Outbox.mem_send _ _ takes
  | asks _ takes =>
    cases waits
    exact Outbox.mem_send _ _ takes
  | cleared _ after => cases phase <;> first | cases after; done | cases waits
  | _ => cases waits

theorem Incident.surface {move : Move} (incident : Incident w move w') :
    w'.surface = { w.surface with outbox := w'.outbox, answers := w'.answers } :=
  congrArg Workspace.surface incident.steady.rim

end Workspace

end PolicyServer
