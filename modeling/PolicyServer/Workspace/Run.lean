import PolicyServer.Workspace.Change
import PolicyServer.Workspace.Fixing

/-! Running a workspace: any task may take its next step, and time passes only when none can. -/

namespace PolicyServer.Workspace

/-- The view lets go of its snapshot, when no change is under way. -/
def releaseCurrent (w : Workspace) : Option Workspace :=
  if w.changing then none
  else
    match w.current with
    | none => some w
    | some seq => some { w.release seq with current := none }

def stepStop (w : Workspace) : StopPhase → Option (Workspace × Task)
  | .telling => some (w.endScope .view, .stop .releasing)
  | .releasing => w.releaseCurrent.map fun w => (w, .finished .stopped)
  | .idling => some (w, .finished .stopped)

/-- The next step in shutting the server down: its view is stopped, and the request is answered
when no snapshot is referred to. -/
def stepShutdown (w : Workspace) : StopPhase → Option (Workspace × Task)
  | .telling =>
    match w.lifecycle with
    | .created => some (w, .finished (.reply (.error .serverNotInitialized)))
    | .shutDown => some (w, .finished (.reply (.ok .null)))
    -- There is no view yet, hence nothing to release.
    | .initializing => some ({ w with lifecycle := .shutDown }, .shutdown .idling)
    | .initialized =>
      -- Nothing more is queued from now on, but what waits is still worked off.
      some ({ w.endScope .view with lifecycle := .shutDown, documentsOpen := false },
        .shutdown .releasing)
  | .releasing => w.releaseCurrent.map fun w => (w, .shutdown .idling)
  | .idling =>
    -- The answer waits for the last reference, whoever holds it.
    if w.live = 0 then
      some ({ w with clientLog := w.clientLog.close }, .finished (.reply (.ok .null)))
    else none

/-- The next step of a task, if it has one: the workspace after it, and what has become of the
task. -/
def stepTask (c : Collaborators) (eager : Bool) (w : Workspace) : Task → Option (Workspace × Task)
  | .forward =>
    (w.clientLog.step? w.outbox).map fun (clientLog, outbox) =>
      ({ w with clientLog, outbox }, if clientLog.stopped then .finished .nothing else .forward)
  | .load preparation => do
    let (w, rest) ← w.prepare c eager preparation
    match rest with
    | some preparation => some (w, .load preparation)
    | none => some (w.release preparation.snapshot, .finished .nothing)
  | .observe preparation => do
    let (w, rest) ← w.prepare c eager preparation
    match rest with
    | some preparation => some (w, .observe preparation)
    | none => some (w.release preparation.snapshot, .finished .prepared)
  | .take =>
    if w.changing then none
    else
      match w.current with
      | none => some (w, .finished .refused)
      | some seq => some (w.acquire seq, .finished (.snapshot seq))
  | .mark uri => if w.publishing then none else some (w.markDocument uri, .finished .nothing)
  | .change change scope phase => do
    let (w, step) ← w.stepChange c eager change scope phase
    match step with
    | .waiting phase => some (w, .change change scope phase)
    | .refused => some (w, .finished .refused)
    | .installed seq => some (w, .finished (.snapshot seq))
  | .pass job => w.stepPass c eager job
  | .documents phase => w.stepWorker c eager phase
  | .fix job => w.stepFix c eager job
  | .stop phase => w.stepStop phase
  | .shutdown phase => w.stepShutdown phase
  | .awaitIdle => if w.live = 0 then some (w, .finished .idle) else none
  | .finished _ => none

def step (c : Collaborators) (eager : Bool) (w : Workspace) (number : Nat) : Option Workspace := do
  let task ← w.tasks[number]?
  let (w, task) ← w.stepTask c eager task
  some { w with tasks := w.tasks.set number task }

/-- Holds for a document that is looked up on disk: its name is that of a file. -/
def liesOnDisk (uri : DocumentUri) : Bool := uri.toPath.isOk

/-- Holds if a task's next step reads from disk: a document that changed without a text, or those
that a pass found violations in and the editor has not sent. -/
def readsDisk (w : Workspace) : Task → Bool
  | .documents (.reading _ _ _ (modification :: _)) =>
    modification.text.isNone && modification.action ≠ .closed && liesOnDisk modification.uri
  | .pass { snapshot, phase := .correlating _ resources, .. } =>
    let files : FileMap := ((w.snapshots[snapshot]?).map (·.files)).getD []
    resources.any fun (_, resource) =>
      !resource.violations.isEmpty && resource.position.any fun position =>
        (files.get? position.uri).isNone && liesOnDisk ⟨position.uri⟩
  | _ => false

/-- Holds if the task of that number is about to read from disk, which is slower than all else. -/
def awaitsDisk (w : Workspace) (number : Nat) : Bool := (w.tasks[number]?).any w.readsDisk

/-- Holds if the task of that number is about to take a turn that another one waits for. -/
def mustQueue (w : Workspace) (number : Nat) : Bool :=
  match (w.tasks[number]?).bind (·.wants) with
  | none => false
  | some turn => w.order.any fun other =>
    other ≠ number && (w.tasks[other]?).bind (·.wants) = some turn

/-- Steps one task until it waits, is over, has to queue or reads from disk, at most `limit` times. -/
def runTask (c : Collaborators) (number : Nat) : Nat → Workspace → Workspace
  | 0, w => w
  | limit + 1, w =>
    match w.step c false number with
    | none => w
    | some w =>
      if w.mustQueue number || w.awaitsDisk number then w else runTask c number limit w

/-- Lets the first task that can go on do so until it waits, and puts it last in the order. So turns
are taken in the order in which tasks came to wait for them. What is read from disk has come when
nothing else is left to do. -/
def runNext (c : Collaborators) (limit : Nat) (w : Workspace) : Option Workspace := do
  let canGoOn (number : Nat) := (w.step c false number).isSome
  -- What reads from disk goes last, as slow as that is.
  let number ← w.order.find? (fun number => !w.awaitsDisk number && canGoOn number) <|>
    w.order.find? canGoOn
  let w := w.runTask c number limit
  let order := w.order.filter (· ≠ number)
  let isOver := ((w.tasks[number]?).bind (·.done?)).isSome
  some { w with order := if isOver then order else order ++ [number] }

/-- The next time at which a task can go on by itself, up to a last one. -/
def nextDue? (w : Workspace) (last : Nat) : Option Nat :=
  ((w.order.filterMap (w.tasks[·]?)).flatMap Task.due).filter (fun due => w.clock < due ∧ due ≤ last)
    |>.min?

end PolicyServer.Workspace
