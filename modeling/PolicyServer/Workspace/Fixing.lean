import PolicyServer.Workspace.Pass

/-! Fixes that were chosen: the service is asked, and the request answered with the edit. -/

namespace PolicyServer.Workspace

/-- Why requests about documents are refused at this stage, if they are. -/
def inactive? (w : Workspace) : Option Rpc.Error :=
  match w.lifecycle with
  | .created => some .serverNotInitialized
  | .shutDown => some (.invalidRequest "server is shut down")
  | .initializing | .initialized => none

def fixMessage : String := "Generating fix..."

/-- The request was given up; work that is shown is ended. -/
def cancelFix (w : Workspace) (work : Option Work) : Workspace × Task :=
  let w := match work with
    | some work => w.conclude work "Cancelled."
    | none => w
  (w, .finished (.reply (.error .requestCancelled)))

/-- The fix is over: work is ended, and a failure is logged. -/
def endFix (w : Workspace) (work : Work) (outcome : Except QuickFixError CodeAction) :
    Workspace × Task :=
  match outcome with
  | .ok action => (w.conclude work "Done.", .finished (.reply (.ok (Wire.toJson action))))
  | .error error =>
    let w := w.conclude work "Failed."
    let clientLog := if error.isReported then
        w.clientLog.warn s!"Fix generation failed: {error.message}"
      else w.clientLog
    ({ w with clientLog }, .finished (.reply (.error error.toRpc)))

def stepFix (c : Collaborators) (eager : Bool) (w : Workspace) (job : FixJob) :
    Option (Workspace × Task) :=
  let opening : Opening Scope := ⟨workTitle, fixMessage, none⟩
  -- Where the answer has come as well, either may be seen first.
  let givenUp := job.cancelled && !eager
  match job.phase with
  | .asking =>
    if givenUp then some (w.cancelFix none)
    else
      match w.inactive?, c.fix with
      | some error, _ => some (w, .finished (.reply (.error error)))
      | none, none => some (w, .finished (.reply (.error (.internal FixError.disabled.message))))
      | none, some _ =>
        match w.announce opening with
        | (.work work, w) => some (w, .fix { job with phase := .begun work })
        | (.asked token, w) => some (w, .fix { job with phase := .asked token })
  | .asked token =>
    if givenUp then some (w.cancelFix none)
    else
      match w.answer? token with
      | some accepted =>
        let (work, w) := w.begin token opening accepted
        some (w, .fix { job with phase := .begun work })
      | none => if job.cancelled then some (w.cancelFix none) else none
  | .begun work =>
    if givenUp then some (w.cancelFix (some work))
    else
      match QuickFix.task job.action, c.fix with
      | .error error, _ => some (w.endFix work (.error error))
      | .ok _, none => some (w.endFix work (.error (.fix .disabled)))
      | .ok task, some script =>
        let request := w.fixCalls.length
        let due := w.clock + (script task.capture.text task.failure request).delay
        let limit := w.clock + c.fixTimeout
        some ({ w with fixCalls := w.fixCalls ++ [(task.capture.text, task.failure)] },
          .fix { job with phase := .waiting work task request due limit })
  | .waiting work task request due limit =>
    if givenUp then some (w.cancelFix (some work))
    else if due ≤ w.clock then
      match c.fix with
      | none => some (w.endFix work (.error (.fix .disabled)))
      | some script =>
        let answer := (script task.capture.text task.failure request).result
        some (w.endFix work (QuickFix.conclude job.action task answer))
    -- For an eager task an answer counts before the limit, and the limit before giving up.
    else if limit ≤ w.clock then
      some (w.endFix work (.error (.timeout (c.fixTimeout / 1000))))
    else if job.cancelled then some (w.cancelFix (some work))
    else none

end PolicyServer.Workspace
