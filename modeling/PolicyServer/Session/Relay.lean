import PolicyServer.Rpc.Connection
import PolicyServer.Rpc.Intake
import PolicyServer.Workspace.Lifecycle
import PolicyServer.Workspace.Run

/-! A session: a workspace at one end of a connection, and what passes between the two. -/

namespace PolicyServer

/-- What a call to the editor is for. -/
inductive Ask where
  | token (token : ProgressToken)
  | settings

/-- A session. `asks` are the calls to the editor that are open, by their number, and `tickets` the
editor's calls that tasks are to answer, by the number of the task. -/
structure Session where
  workspace : Workspace
  conn : Rpc.Connection := {}
  intake : Rpc.Intake := {}
  asks : List (Nat × Ask) := []
  tickets : List (Nat × Nat) := []

namespace Session

def ask (s : Session) (message : Outgoing) (ask : Ask) : Session :=
  match s.conn.start message.method message.params with
  -- A closed connection takes no call, and nobody waits for one that was not made.
  | none => s
  | some (number, conn) => { s with conn, asks := s.asks ++ [(number, ask)] }

/-- Puts one message of the workspace on the connection. -/
def sendMessage (s : Session) (message : Outgoing) : Session :=
  match message with
  | .create token => s.ask message (.token token)
  | .settings => s.ask message .settings
  | _ => { s with conn := s.conn.writeIfOpen (.notification message.method message.params) }

def sendAll (s : Session) : Session :=
  let sent := s.workspace.outbox.sent
  let outbox := { s.workspace.outbox with sent := [] }
  sent.foldl sendMessage { s with workspace := { s.workspace with outbox } }

/-- Gives up the question for the editor's settings if the workspace has. -/
def giveUpSettings (s : Session) : Session :=
  match s.workspace.settings with
  | .givenUp => s.asks.foldl (fun s (number, ask) =>
      match ask with
      | .settings => { s with conn := s.conn.cancel number }
      | .token _ => s) s
  | _ => s

/-- Hands the outcome of a call to the workspace. -/
def takeAnswer (s : Session) (ask : Ask) (outcome : Except Rpc.CallError Json) : Session :=
  let w := s.workspace
  { s with workspace := match ask with
    | .token token => { w with answers := w.answers ++ [(token, outcome.isOk)] }
    | .settings =>
      match w.settings with
      | .open =>
        { w with settings := .answered (Rpc.decodeResult (List Json) outcome).toOption }
      -- An answer that comes after the question was given up is too late.
      | _ => w }

/-- Hands the outcomes of all calls that are over to the workspace. -/
def takeAnswers (s : Session) : Session :=
  s.asks.foldl (fun s (number, ask) =>
    match (s.conn.calls[number]?).bind (·.outcome?) with
    | some outcome => s.takeAnswer ask outcome
    | none => { s with asks := s.asks ++ [(number, ask)] }) { s with asks := [] }

/-- Answers the editor's calls whose tasks are over. -/
def replyAll (s : Session) : Session :=
  s.tickets.foldl (fun s (number, ticket) =>
    match (s.workspace.tasks[number]?).bind (·.done?) with
    | some (.reply outcome) => { s with conn := s.conn.reply ticket outcome }
    | _ => { s with tickets := s.tickets ++ [(number, ticket)] }) { s with tickets := [] }

/-- Tells the tasks whose calls the editor has given up. -/
def passCancellations (s : Session) : Session :=
  s.tickets.foldl (fun s (number, ticket) =>
    if s.conn.isCancelled ticket then
      { s with workspace := { s.workspace with
        tasks := s.workspace.tasks.modify number fun
          | .fix job => .fix { job with cancelled := true }
          | task => task } }
    else s) s

/-- Tells the workspace whether the way to the editor is open. -/
def noteLink (s : Session) : Session :=
  let outbox := { s.workspace.outbox with closed := s.conn.closed, broken := s.conn.broken }
  { s with workspace := { s.workspace with outbox } }

/-- Lets all pass that is to pass between workspace and connection. -/
def relay (s : Session) : Session :=
  -- Messages go out before answers are taken in, so a call can end at once.
  let s := s.sendAll.giveUpSettings
  let s := { s with conn := s.conn.settle }
  -- Tasks hear of the connection last, when all that was open has been settled.
  s.takeAnswers.replyAll.passCancellations.noteLink

/-- Starts a task that is to answer a call. -/
def spawnFor (s : Session) (ticket : Nat) (task : Task) : Session :=
  { s with
    workspace := s.workspace.spawn task
    -- The task gets the next place.
    tickets := s.tickets ++ [(s.workspace.tasks.length, ticket)] }

def reply (s : Session) (ticket : Nat) (outcome : Except Rpc.Error Json) : Session :=
  { s with conn := s.conn.reply ticket outcome }

/-- Serves a call of the editor. Shutting down and fixing take their time; all else is answered at
once. -/
def serve (c : Collaborators) (s : Session) (ticket : Nat) (method : String) (params : Json) :
    Session :=
  match Request.decode method params with
  | .error .unknownMethod => s.reply ticket (.error (.methodNotFound method))
  | .error (.params error) => s.reply ticket (.error (.invalidParams error.message))
  | .ok (.handshake params) =>
    let (outcome, workspace) := s.workspace.handshake params
    { s with workspace }.reply ticket outcome
  | .ok (.codeAction params) => s.reply ticket (s.workspace.codeActions c params)
  | .ok .shutdown => s.spawnFor ticket (.shutdown .telling)
  | .ok (.resolve action) => s.spawnFor ticket (.fix { action })

/-- Takes in a notification of the editor; one that is not understood is passed over. -/
def hear (s : Session) (method : String) (params : Json) : Session :=
  match News.decode method params with
  | .error _ => s
  | .ok news => { s with workspace := s.workspace.hear news }

def receive (c : Collaborators) (s : Session) : Rpc.Arrival → Session
  | .last _ => { s with conn := s.conn.close }
  | .message message =>
    match s.conn.dispatch message with
    | (none, conn) => { s with conn }
    | (some (.notification method params), conn) => { s with conn }.hear method params
    | (some (.call ticket _ method params), conn) => { s with conn }.serve c ticket method params

def receiveNext (c : Collaborators) (s : Session) : Option Session :=
  s.intake.next?.map fun (arrival, intake) => ({ s with intake }.receive c arrival).relay

def step (c : Collaborators) (eager : Bool) (s : Session) (number : Nat) : Option Session :=
  (s.workspace.step c eager number).map fun workspace => { s with workspace }.relay

/-- Lets the next task that can go on do so until it waits. -/
def runNext (c : Collaborators) (limit : Nat) (s : Session) : Option Session :=
  (s.workspace.runNext c limit).map fun workspace => { s with workspace }.relay

/-- Deals with all that has arrived and all that tasks can do, in at most `limit` rounds. -/
def settle (c : Collaborators) : Nat → Session → Session
  | 0, s => s
  | limit + 1, s =>
    -- What has arrived goes before what tasks can do.
    match s.receiveNext c with
    | some s => settle c limit s
    | none =>
      match s.runNext c (limit + 1) with
      | some s => settle c limit s
      | none => s

end Session

end PolicyServer
