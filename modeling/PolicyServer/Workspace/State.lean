import PolicyServer.Config.LogLevel
import PolicyServer.Progress.ClientLog
import PolicyServer.Workspace.Task

/-! The state of a workspace: its snapshots, passes and published diagnostics, and who holds what. -/

namespace PolicyServer

/-- The stages of a session, in their order. -/
inductive Lifecycle where
  | created
  | initializing
  | initialized
  | shutDown
  deriving DecidableEq, Repr

def Lifecycle.label : Lifecycle → String
  | .created => "Created"
  | .initializing => "Initializing"
  | .initialized => "Initialized"
  | .shutDown => "ShutDown"

/-- A pass over a snapshot; a later one cancels it, and so may the editor. -/
structure Pass where
  snapshot : Nat
  cancelled : Bool := false
  deriving DecidableEq, Repr

/-- What was last published of a document, and whether it is to be published anew. -/
structure Publication where
  mustPublish : Bool := false
  snapshot : Nat := 0
  version : Option Int32 := none
  diagnostics : List Diagnostic := []

/-- The question for the editor's settings: not asked, open, answered, or given up. -/
inductive SettingsCall where
  | unasked
  | open
  | answered (outcome : Option (List Json))
  | givenUp

/-- A workspace. `snapshots` and `passes` hold all there ever were, oldest first, and `tasks` all
tasks; a snapshot is named by its place, a pass by its place, a task by its place. `live` counts the
snapshots that are referred to, `held` names references held from outside. The flags `changing`,
`resolving`, `publishing` and `flagging` say that a task has its turn at the current snapshot, at the
resolver, at the published diagnostics and at the status; `slots` is the number of passes that may
still be admitted. -/
structure Workspace where
  -- The session.
  clock : Nat := 0
  lifecycle : Lifecycle := .created
  root : Bytes := []
  filter : String := LogLevel.initial
  asksSettings : Bool := false
  settings : SettingsCall := .unasked
  exitCode : Option Nat := none
  -- What goes to the editor, and what comes back of it.
  outbox : Outbox := {}
  tracker : Tracker Scope
  answers : List (ProgressToken × Bool) := []
  clientLog : ClientLog := {}
  -- The documents and who refers to their snapshots.
  disk : Disk := {}
  snapshots : List Snapshot := []
  current : Option Nat := none
  live : Nat := 0
  held : List (String × Nat) := []
  -- What has happened once, and whose turn it is.
  stopped : Bool := false
  loaded : Bool := false
  changing : Bool := false
  resolving : Bool := false
  publishing : Bool := false
  flagging : Bool := false
  slots : Nat := 1
  -- Passes and what they have published.
  passes : List Pass := []
  published : Table Publication := []
  status : Option Work := none
  -- How often collaborators were called.
  resolves : Nat := 0
  runs : Nat := 0
  runsCut : Nat := 0
  fixCalls : List (String × String) := []
  -- Work that waits, and all tasks.
  documents : List (List Modification) := []
  documentsOpen : Bool := true
  tasks : List Task := []
  order : List Nat := []

namespace Workspace

/-- Holds once the snapshot's own work is to end. -/
def isSuperseded (w : Workspace) (seq : Nat) : Bool :=
  w.stopped || (w.snapshots[seq]?).any (·.superseded)

def isEnded (w : Workspace) : Scope → Bool
  | .never => false
  | .past => true
  | .view => w.stopped
  | .pass number =>
    match w.passes[number]? with
    -- A pass that was never begun is as good as over.
    | none => true
    -- A pass ends with its snapshot, if nobody cancelled it before.
    | some pass => pass.cancelled || w.isSuperseded pass.snapshot

def endScope (w : Workspace) : Scope → Workspace
  | .pass number =>
    { w with passes := w.passes.modify number fun pass => { pass with cancelled := true } }
  | .view => { w with stopped := true }
  | .never | .past => w

def modifySnapshot (w : Workspace) (seq : Nat) (change : Snapshot → Snapshot) : Workspace :=
  { w with snapshots := w.snapshots.modify seq change }

def readinessOf (w : Workspace) (seq : Nat) : Readiness :=
  match w.snapshots[seq]? with
  | some snapshot => snapshot.readiness
  | none => .unresolved

def acquire (w : Workspace) (seq : Nat) : Workspace :=
  w.modifySnapshot seq fun snapshot => { snapshot with refs := snapshot.refs + 1 }

/-- Gives a reference back; the last one ends the snapshot. -/
def release (w : Workspace) (seq : Nat) : Workspace :=
  -- The count is looked at before it goes down.
  let last := (w.snapshots[seq]?).any (·.refs = 1)
  let w := w.modifySnapshot seq fun snapshot => { snapshot with refs := snapshot.refs - 1 }
  if last then { w with live := w.live - 1 } else w

def letGo (w : Workspace) (name : String) : Workspace :=
  match w.held.lookup name with
  | none => w
  | some seq => { w.release seq with held := w.held.filter (·.1 ≠ name) }

/-- Keeps a reference under a name, in place of the one held there. -/
def hold (w : Workspace) (name : String) (seq : Nat) : Workspace :=
  let w := w.letGo name
  { w with held := w.held ++ [(name, seq)] }

/-- Starts a task, which is last in the order of tasks. -/
def spawn (w : Workspace) (task : Task) : Workspace :=
  { w with tasks := w.tasks ++ [task], order := w.order ++ [w.tasks.length] }

def send (w : Workspace) (message : Outgoing) : Workspace :=
  { w with outbox := w.outbox.send message }

def announce (w : Workspace) (opening : Opening Scope) : Announced × Workspace :=
  let (announced, tracker, outbox) := w.tracker.announce w.outbox opening
  (announced, { w with tracker, outbox })

/-- What the editor said to a token, if it has; no answer can come once the way back is closed. -/
def answer? (w : Workspace) (token : ProgressToken) : Option Bool :=
  match w.answers.lookup token with
  | some accepted => some accepted
  | none => if w.outbox.takesCalls then none else some false

/-- Begins work as the editor's answer says. -/
def begin (w : Workspace) (token : ProgressToken) (opening : Opening Scope) (accepted : Bool) :
    Work × Workspace :=
  let (work, tracker, outbox) := w.tracker.answer w.outbox token opening accepted
  (work, { w with tracker, outbox })

def conclude (w : Workspace) (work : Work) (message : String) : Workspace :=
  let (tracker, outbox) := w.tracker.conclude w.outbox work message
  { w with tracker, outbox }

/-- Begins a pass over a snapshot, and cancels the one before. -/
def beginPass (w : Workspace) (seq : Nat) : Workspace :=
  let w := if w.passes.isEmpty then w else w.endScope (.pass (w.passes.length - 1))
  { w with passes := w.passes ++ [⟨seq, false⟩] }

def markDocument (w : Workspace) (uri : DocumentUri) : Workspace :=
  { w with published := w.published.update uri.text {} fun publication =>
    { publication with mustPublish := true } }

/-- Opens the view of the workspace: its first snapshot is referred to by the view, by the caller
under a name, and by the first attempt to find a runner. -/
def openView (w : Workspace) : Workspace :=
  { w with snapshots := [{ refs := 3 }], current := some 0, live := 1 }.spawn
    (.load { snapshot := 0, scope := .view, first := true, phase := .turn })

def currentSnapshot? (w : Workspace) : Option Snapshot := w.current.bind (w.snapshots[·]?)

end Workspace

end PolicyServer
