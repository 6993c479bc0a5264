import PolicyServer.Workspace.State

/-! Looking for the runner of a snapshot: one attempt at a time, and none once the runner is known. -/

namespace PolicyServer.Workspace

/-- The next step in looking for a runner: the workspace after it, and what is left to do. Where a
task may both go on and give up, `eager` lets it go on. -/
def prepare (c : Collaborators) (eager : Bool) (w : Workspace) (p : Preparation) :
    Option (Workspace × Option Preparation) :=
  let ended := w.isEnded p.scope
  -- The first attempt opens the way for the others, however it ends.
  let done (w : Workspace) : Option (Workspace × Option Preparation) :=
    some ({ w with loaded := w.loaded || p.first }, none)
  match p.phase with
  | .load =>
    if w.loaded && (eager || !ended) then some (w, some { p with phase := .turn })
    else if ended then done w
    else none
  | .turn =>
    if !w.resolving && (eager || !ended) then
      -- Somebody else may have found the runner while this one waited.
      if (w.readinessOf p.snapshot).isKnown then done w
      else
        let due := w.clock + (c.resolve w.root w.resolves).delay
        some ({ w with resolving := true, resolves := w.resolves + 1 },
          some { p with phase := .resolving w.resolves due })
    else if ended then done w
    else none
  | .resolving request due =>
    let script := c.resolve w.root request
    if due ≤ w.clock || (ended && !script.stubborn) then
      let w := { w with resolving := false }
      -- A result that comes too late is not kept.
      if ended then done w
      else done (w.modifySnapshot p.snapshot fun snapshot => { snapshot with
        readiness := match script.result with
          | none => .ready request
          | some error => .failed error })
    else none

end PolicyServer.Workspace
