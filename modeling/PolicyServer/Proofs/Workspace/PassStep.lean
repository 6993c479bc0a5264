import PolicyServer.Proofs.Analysis.Correlation
import PolicyServer.Proofs.Workspace.Bare

/-! What a step of a pass comes to: it goes on unseen, invokes the runner, or publishes. -/

namespace PolicyServer

def PassPhase.hasEntered : PassPhase → Bool
  | .sending _ _ _ => true
  | .ending _ (.published _) => true
  | _ => false

def PassPhase.Ordered : PassPhase → Prop
  | .publishing _ findings => findings.Ordered
  | _ => True

namespace Workspace

/--
What a step of a pass leads to: the workspace after it, and the phase reached.

Most steps leave the publications alone and are not seen. Those that are seen invoke the runner or
take the turn to publish, both only while the pass is not cancelled, and then publish one by one.
-/
inductive PassAdvance (w : Workspace) (job : PassJob) : Workspace → PassPhase → Prop where
  | unseen {w' : Workspace} {phase : PassPhase} (before : job.phase.hasEntered = false)
      (after : phase.hasEntered = false) (ordered : phase.Ordered)
      (silent : w.deedOf? job (.pass { job with phase }) = none) (same : w'.bare = w.bare) :
      PassAdvance w job w' phase
  | invoke {work : Work} {run due : Nat} (prepared : job.phase = .prepared work)
      (awake : w.isEnded (.pass job.pass) = false) :
      PassAdvance w job { w with runs := w.runs + 1 } (.running work run due)
  | enter {work : Work} {findings : Findings} (waits : job.phase = .publishing work findings)
      (free : w.publishing = false) (awake : w.isEnded (.pass job.pass) = false) :
      PassAdvance w job { w with publishing := true }
        (.sending work (toPublish w.published findings) (toPublish w.published findings).length)
  | publish {work : Work} {uri : String} {diagnostics : List Diagnostic} {rest : Findings}
      {files : Nat} (sends : job.phase = .sending work ((uri, diagnostics) :: rest) files) :
      PassAdvance w job (w.publish job.snapshot uri diagnostics) (.sending work rest files)
  | leave {work : Work} {files : Nat} (sent : job.phase = .sending work [] files) :
      PassAdvance w job { w with publishing := false } (.ending work (.published files))

theorem endStatus_bare (w : Workspace) : w.endStatus.bare = w.bare := by
  unfold endStatus
  split
  · rfl
  · exact conclude_bare w _ "Done."

theorem StatusStep.spec {w w' : Workspace} {work : Work} {verdict : Verdict} {stage : StatusPhase}
    {phase : PassPhase} (step : StatusStep w work verdict stage w' phase) :
    w'.bare = w.bare ∧ phase.hasEntered = false ∧ phase.Ordered := by
  cases step with
  | clears => exact ⟨endStatus_bare w, rfl, trivial⟩
  | begins => exact ⟨endStatus_bare w, rfl, trivial⟩
  | raises announced =>
    have same := bare_of_announce announced
    exact ⟨same, rfl, trivial⟩
  | asks announced => exact ⟨bare_of_announce announced, rfl, trivial⟩
  | skips => exact ⟨rfl, rfl, trivial⟩
  | _ => exact ⟨begin_bare w _ _ _, rfl, trivial⟩

theorem PhaseStep.advance {c : Collaborators} {w w' : Workspace} {job : PassJob}
    {phase : PassPhase} (step : PhaseStep c w job job.phase w' phase) :
    PassAdvance w job w' phase := by
  obtain ⟨pass, snapshot, message, before⟩ := job
  -- Those before the pass has its turn to publish all go unseen, but for the call of the runner.
  cases step with
  | asksSettings => exact .unseen rfl rfl trivial rfl (send_bare w rfl)
  | takesSettings => exact .unseen rfl rfl trivial rfl (takeSettings_bare w _)
  | shown announced => exact .unseen rfl rfl trivial rfl (bare_of_announce announced)
  | asks announced => exact .unseen rfl rfl trivial rfl (bare_of_announce announced)
  | answered => exact .unseen rfl rfl trivial rfl (begin_bare w _ _ _)
  | looks inquiry => exact .unseen rfl rfl trivial rfl inquiry.bare_eq
  | looked inquiry => exact .unseen rfl rfl trivial rfl inquiry.bare_eq
  | runs awake => exact .invoke rfl awake
  | tells step =>
    obtain ⟨same, after, ordered⟩ := step.spec
    exact .unseen rfl after ordered rfl same
  | correlates => exact .unseen rfl rfl (Findings.correlate_ordered _ _) rfl rfl
  | enters free awake => exact .enter rfl free awake
  | sends => exact .publish rfl
  | leaves => exact .leave rfl
  | _ => exact .unseen rfl rfl trivial rfl rfl

end Workspace

end PolicyServer
