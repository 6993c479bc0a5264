import PolicyServer.Protocol.Request
import PolicyServer.Workspace.Preparation

/-! Passes: an analysis of a snapshot, whose findings are published unless a later pass has begun. -/

namespace PolicyServer

def PassOutcome.summary : PassOutcome → String
  | .published _ => "Done."
  | .failed => "Failed."
  | .cancelled => "Cancelled."

namespace Workspace

/-- The title under which passes and fixes are shown. -/
def workTitle : String := "Warden"

/-- The title under which an error of the whole workspace is shown. -/
def statusTitle : String := "Error loading workspace"

/-- The text for a snapshot that has neither a runner nor a failure. -/
def noRunner : String := "no analysis runner available"

/-- How long the editor has to answer the question for its settings. -/
def settingsTimeout : Nat := 5000

/-- Takes over the editor's settings, of which the log level counts. -/
def takeSettings (w : Workspace) (values : List Json) : Workspace :=
  match values.head? with
  | none => w
  | some value =>
    match (Wire.decode value : Except Json.DecodeError InitializationOptions) with
    | .ok { logLevel := some level } => { w with filter := LogLevel.change w.filter level }
    | _ => w

def freeSlot (w : Workspace) : Workspace := { w with slots := w.slots + 1 }

/-- The text of an error that a snapshot's readiness amounts to, and nothing for a runner. -/
def unreadiness (w : Workspace) (seq : Nat) : Option String :=
  match w.readinessOf seq with
  | .ready _ => none
  | .failed error => some error.message
  | .unresolved => some noRunner

/-- The documents to publish: those with findings and those published before. -/
def toPublish (published : Table Publication) (findings : Findings) : Findings :=
  -- A document without findings is published as clean, if it was ever published.
  published.foldl (fun all (uri, _) => all.update uri [] id) findings

/-- The version under which a document is published: that of the snapshot, else the last one. -/
def versionOf (w : Workspace) (seq : Nat) (uri : String) : Option Int32 :=
  match (w.snapshots[seq]?).bind fun snapshot => snapshot.files.get? uri with
  | some handle => some handle.version
  | none => (w.published.get? uri).bind (·.version)

/-- Publishes the diagnostics of one document and keeps a record of them. -/
def publish (w : Workspace) (seq : Nat) (uri : String) (diagnostics : List Diagnostic) : Workspace :=
  -- The version is looked up before the record is overwritten.
  let version := w.versionOf seq uri
  let w := w.send (.publish ⟨⟨uri⟩, version, diagnostics⟩)
  { w with published := w.published.put uri ⟨false, seq, version, diagnostics⟩ }

/-- What follows once the status tells of a verdict. -/
def afterStatus (w : Workspace) (work : Work) (verdict : Verdict) : Workspace × PassPhase :=
  let w := { w with flagging := false }
  match verdict with
  | .ok resources => (w, .correlating work resources)
  | .error message =>
    ({ w.freeSlot with clientLog := w.clientLog.error s!"Policy analysis failed: {message}" },
      .ending work .failed)

/-- The next step in telling of a verdict: the status before is ended, and an error is announced in
its place. -/
def stepStatus (w : Workspace) (work : Work) (verdict : Verdict) :
    StatusPhase → Option (Workspace × PassPhase)
  | .turn =>
    if w.flagging then none
    else
      -- At most one status is shown, whatever comes of this one.
      let w := match w.status with
        | none => w
        | some former => { w.conclude former "Done." with status := none }
      match verdict with
      | .ok _ => some (w.afterStatus work verdict)
      | .error _ => some ({ w with flagging := true }, .status work verdict .announcing)
  | .announcing =>
    match verdict with
    | .ok _ => some (w.afterStatus work verdict)
    | .error message =>
      match w.announce ⟨statusTitle, message, none⟩ with
      | (.work shown, w) => some ({ w with status := some shown }.afterStatus work verdict)
      | (.asked token, w) => some (w, .status work verdict (.asked token))
  | .asked token => do
    let accepted ← w.answer? token
    let message := match verdict with
      | .ok _ => ""
      | .error message => message
    let (shown, w) := w.begin token ⟨statusTitle, message, none⟩ accepted
    some ({ w with status := some shown }.afterStatus work verdict)

/-- The next step of a pass: the workspace after it, and the phase it reaches. -/
def stepPhase (c : Collaborators) (eager : Bool) (w : Workspace) (job : PassJob) :
    Option (Workspace × PassPhase) :=
  let scope := Scope.pass job.pass
  let ended := w.isEnded scope
  let opening : Opening Scope := ⟨workTitle, job.message, some scope⟩
  match job.phase with
  | .configuring =>
    if w.asksSettings && w.outbox.takesCalls then
      some ({ w.send .settings with settings := .open }, .configuration (w.clock + settingsTimeout))
    else some (w, .announcing)
  | .configuration due =>
    match w.settings with
    | .answered (some values) => some (w.takeSettings values, .announcing)
    | .answered none => some (w, .announcing)
    | _ =>
      if !w.outbox.takesCalls then some (w, .announcing)
      else if due ≤ w.clock then some ({ w with settings := .givenUp }, .announcing)
      else none
  | .announcing =>
    match w.announce opening with
    | (.work work, w) => some (w, .queued work)
    | (.asked token, w) => some (w, .asked token)
  | .asked token => do
    let accepted ← w.answer? token
    let (work, w) := w.begin token opening accepted
    some (w, .queued work)
  -- Both a free slot and the end may be there; then either may be seen first.
  | .queued work =>
    if 0 < w.slots && (eager || !ended) then
      some ({ w with slots := w.slots - 1 },
        .preparing work { snapshot := job.snapshot, scope })
    else if ended then some (w, .ending work .cancelled)
    else none
  | .preparing work preparation => do
    let (w, rest) ← w.prepare c eager preparation
    match rest with
    | some preparation => some (w, .preparing work preparation)
    | none => some (w, .prepared work)
  -- The last look before the runner is invoked.
  | .prepared work =>
    if ended then some (w.freeSlot, .ending work .cancelled)
    else
      match w.unreadiness job.snapshot with
      | some message => some (w, .status work (.error message) .turn)
      | none =>
        some ({ w with runs := w.runs + 1 },
          .running work w.runs (w.clock + (c.run w.runs).delay))
  -- A runner that obeys is cut short; a stubborn one is waited for, and its result dropped.
  | .running work run due =>
    let script := c.run run
    if due ≤ w.clock then
      match script.result with
      | .ok resources =>
        if ended then some (w.freeSlot, .ending work .cancelled)
        else some (w, .status work (.ok resources) .turn)
      | .error error =>
        if ended || error.isCancelled then some (w.freeSlot, .ending work .cancelled)
        else some (w, .status work (.error error.message) .turn)
    else if ended && !script.stubborn then
      some ({ w.freeSlot with runsCut := w.runsCut + 1 }, .ending work .cancelled)
    else none
  | .status work verdict phase => w.stepStatus work verdict phase
  -- The analysis is over, so the slot is free for the next pass.
  | .correlating work resources =>
    let files := ((w.snapshots[job.snapshot]?).map (·.files)).getD []
    let findings := Findings.correlate (Findings.declarations files w.disk c.parse) resources
    some (w.freeSlot, .publishing work findings)
  | .publishing work findings =>
    if w.publishing then none
    else if ended then some (w, .ending work .cancelled)
    else
      let all := toPublish w.published findings
      some ({ w with publishing := true }, .sending work all all.length)
  | .sending work [] files =>
    some ({ w with publishing := false }, .ending work (.published files))
  | .sending work ((uri, diagnostics) :: rest) files =>
    some (w.publish job.snapshot uri diagnostics, .sending work rest files)
  | .ending _ _ => none

/-- The next step of a pass. At its end the editor is told, and the snapshot is let go. -/
def stepPass (c : Collaborators) (eager : Bool) (w : Workspace) (job : PassJob) :
    Option (Workspace × Task) :=
  match job.phase with
  -- The reference is held to the very end, so nothing outlives a pass unnoticed.
  | .ending work outcome =>
    some ((w.conclude work outcome.summary).release job.snapshot, .finished (.outcome outcome))
  | _ => (w.stepPhase c eager job).map fun (w, phase) => (w, .pass { job with phase })

end Workspace

end PolicyServer
