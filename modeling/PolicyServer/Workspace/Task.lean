import PolicyServer.Analysis.Correlate
import PolicyServer.Fix.QuickFix
import PolicyServer.Progress.Tracker
import PolicyServer.Workspace.Snapshot

/-! What is at work in a workspace: each task with how far it has come. -/

namespace PolicyServer

/-- What ends work early: nothing, the end of the workspace, or the end of a pass. Work may also be
given up from the start. -/
inductive Scope where
  | never
  | past
  | view
  | pass (number : Nat)
  deriving DecidableEq, Repr

/-- How a collaborator answers: after a delay in milliseconds, which giving up cuts short unless it
is stubborn. -/
structure Script (α : Type) where
  delay : Nat := 0
  stubborn : Bool := false
  result : α

/-- The collaborators of a workspace: each request to one has a number, counted from zero. A runner
is looked for in a directory. -/
structure Collaborators where
  resolve : Bytes → Nat → Script (Option ResolveError)
  run : Nat → Script (Except RunError Resources)
  fix : Option (String → String → Nat → Script (Except FixError (Option String))) := none
  parse : Bytes → Except Source.ExtractError (List Capture) := Source.extract
  fixTimeout : Nat := 30000

/-- How far looking for a runner has come: the first attempt of all is awaited, then the turn, then
the answer due at a time. -/
inductive PreparationPhase where
  | load
  | turn
  | resolving (request : Nat) (due : Nat)
  deriving DecidableEq, Repr

/-- Looking for the runner of a snapshot, within a scope. `first` marks the first attempt of all. -/
structure Preparation where
  snapshot : Nat
  scope : Scope
  first : Bool := false
  phase : PreparationPhase := .load
  deriving DecidableEq, Repr

/-- New versions of documents, and whether a save was among the changes. -/
structure StateChange where
  files : List FileHandle
  save : Bool

/-- How far a change has come: it waits for its turn, or for the snapshot before it. -/
inductive ChangePhase where
  | turn
  | waiting (preparation : Preparation)

inductive PassOutcome where
  | published (files : Nat)
  | failed
  | cancelled
  deriving DecidableEq, Repr

/-- What an analysis came to: results, or the text of an error. -/
abbrev Verdict := Except String Resources

/-- How far the workspace's status has come: it waits for its turn, the error is to be announced, or
the editor was asked for a token. -/
inductive StatusPhase where
  | turn
  | announcing
  | asked (token : ProgressToken)
  deriving DecidableEq, Repr

inductive PassPhase where
  | configuring
  | configuration (due : Nat)
  | announcing
  | asked (token : ProgressToken)
  | queued (work : Work)
  | preparing (work : Work) (preparation : Preparation)
  | prepared (work : Work)
  | running (work : Work) (run : Nat) (due : Nat)
  | status (work : Work) (verdict : Verdict) (phase : StatusPhase)
  | correlating (work : Work) (resources : Resources)
  | publishing (work : Work) (findings : Findings)
  | sending (work : Work) (rest : Findings) (files : Nat)
  | ending (work : Work) (outcome : PassOutcome)

/-- A pass over a snapshot, announced by a message. -/
structure PassJob where
  pass : Nat
  snapshot : Nat
  message : String
  phase : PassPhase := .announcing

/-- How far the worker that takes in changes has come. While documents are read, the worker refers to
the snapshot that they are compared with. -/
inductive WorkerPhase where
  | idle
  | marking (batch : List Modification) (rest : List Modification)
  | taking (batch : List Modification)
  | reading (batch : List Modification) (snapshot : Nat) (read : List FileHandle)
    (rest : List Modification)
  | changing (change : StateChange) (phase : ChangePhase)

inductive FixPhase where
  | asking
  | asked (token : ProgressToken)
  | begun (work : Work)
  | waiting (work : Work) (task : QuickFix.Task) (request : Nat) (due limit : Nat)

/-- A fix that was chosen; `cancelled` says that it is no longer wanted. -/
structure FixJob where
  action : CodeAction
  cancelled : Bool := false
  phase : FixPhase := .asking

/-- How far the end of a workspace has come: it is to be told, its snapshot to be released, and all
references are to be gone. -/
inductive StopPhase where
  | telling
  | releasing
  | idling
  deriving DecidableEq, Repr

/-- What a task that is over leaves: nothing, the word that a runner is known, that no snapshot is
referred to, that the view has stopped, or that it had stopped before; a snapshot, the outcome of a
pass, or the answer to a call. -/
inductive Done where
  | nothing
  | prepared
  | idle
  | stopped
  | refused
  | snapshot (seq : Nat)
  | outcome (outcome : PassOutcome)
  | reply (outcome : Except Rpc.Error Json)

inductive Task where
  | forward
  | load (preparation : Preparation)
  | observe (preparation : Preparation)
  | take
  | mark (uri : DocumentUri)
  | change (change : StateChange) (scope : Scope) (phase : ChangePhase)
  | pass (job : PassJob)
  | documents (phase : WorkerPhase)
  | fix (job : FixJob)
  | stop (phase : StopPhase)
  | shutdown (phase : StopPhase)
  | awaitIdle
  | finished (done : Done)

/-- What tasks take turns at: the current snapshot, the resolver, the slots for passes, the published
diagnostics, and the status. -/
inductive Turn where
  | snapshot
  | resolver
  | slot
  | publications
  | status
  deriving DecidableEq, Repr

namespace Task

def done? : Task → Option Done
  | .finished done => some done
  | _ => none

def wantsOfPreparation (preparation : Preparation) : Option Turn :=
  match preparation.phase with
  | .turn => some .resolver
  | _ => none

def wantsOfChange : ChangePhase → Option Turn
  | .turn => some .snapshot
  | .waiting preparation => wantsOfPreparation preparation

def wants : Task → Option Turn
  | .load preparation | .observe preparation => wantsOfPreparation preparation
  | .take | .documents (.taking _) | .stop .releasing | .shutdown .releasing => some .snapshot
  | .mark _ | .documents (.marking _ (_ :: _)) => some .publications
  | .change _ _ phase | .documents (.changing _ phase) => wantsOfChange phase
  | .pass job =>
    match job.phase with
    | .queued _ => some .slot
    | .preparing _ preparation => wantsOfPreparation preparation
    | .status _ _ .turn => some .status
    | .publishing _ _ => some .publications
    | _ => none
  | _ => none

def dueOfPreparation (preparation : Preparation) : List Nat :=
  match preparation.phase with
  | .resolving _ due => [due]
  | _ => []

def dueOfChange : ChangePhase → List Nat
  | .turn => []
  | .waiting preparation => dueOfPreparation preparation

/-- The times at which a task can go on. -/
def due : Task → List Nat
  | .load preparation | .observe preparation => dueOfPreparation preparation
  | .change _ _ phase | .documents (.changing _ phase) => dueOfChange phase
  | .pass job =>
    match job.phase with
    | .configuration due => [due]
    | .preparing _ preparation => dueOfPreparation preparation
    | .running _ _ due => [due]
    | _ => []
  | .fix job =>
    match job.phase with
    | .waiting _ _ _ due limit => [due, limit]
    | _ => []
  | _ => []

end Task

end PolicyServer
