import PolicyServer.Rpc.Frame

/-! A connection: calls made to the peer, calls taken from it, and what is written to it. -/

namespace PolicyServer.Rpc

open Json

inductive CallError where
  | cancelled
  | closed
  | send (error : FrameError)
  | refused (error : Error)
  | result (error : DecodeError)

namespace CallError

def message : CallError → String
  | .cancelled => "call cancelled"
  | .closed => "connection closed before a response arrived"
  | .send error => error.message
  | .refused error => s!"peer returned error: {error.render}"
  | .result error => s!"decoding result failed: {error.message}"

def isCancelled : CallError → Bool
  | .cancelled => true
  | _ => false

end CallError

/-- Where a response is put for the call that waits for it. -/
inductive Slot where
  | empty
  | handed (outcome : Except Error Json)
  | discarded

inductive CallPhase where
  | sending
  | waiting
  | finished (outcome : Except CallError Json)

structure OutgoingCall where
  method : String
  params : Json
  phase : CallPhase := .sending
  slot : Slot := .empty
  cancelled : Bool := false

def OutgoingCall.outcome? (call : OutgoingCall) : Option (Except CallError Json) :=
  match call.phase with
  | .finished outcome => some outcome
  | _ => none

structure InboundCall where
  id : Id
  method : String
  params : Json
  cancelled : Bool := false
  answered : Bool := false

/-- What a message asks the owner of the connection to do. A call is named by its place among those
taken. -/
inductive Delivery where
  | call (ticket : Nat) (id : Id) (method : String) (params : Json)
  | notification (method : String) (params : Json)

/-- One end of a connection. `calls` are all calls ever made and `inbound` all ever taken, oldest
first; `pending` holds the calls whose slot is open, `incoming` the call that a cancellation of an
identifier reaches, and `backlog` what is still to be written on nobody's behalf. -/
structure Connection where
  calls : List OutgoingCall := []
  pending : List Nat := []
  inbound : List InboundCall := []
  incoming : List (Id × Nat) := []
  backlog : List Message := []
  written : List Message := []
  closed : Bool := false
  broken : Bool := false

namespace Connection

/-- The method by which either side gives up a call. -/
def cancelMethod : String := "$/cancelRequest"

/-- The identifier of a call made to the peer; the first is 1. -/
def callId (number : Nat) : Id := .number (Int64.ofNat (number + 1))

/-- Writes a message; a broken connection takes none. -/
def write (conn : Connection) (message : Message) : Except FrameError Connection :=
  if conn.broken then .error .brokenPipe
  else .ok { conn with written := conn.written ++ [message] }

def writeIfOpen (conn : Connection) (message : Message) : Connection :=
  match conn.write message with
  | .ok conn => conn
  | .error _ => conn

def modifyCall (conn : Connection) (number : Nat) (change : OutgoingCall → OutgoingCall) :
    Connection :=
  { conn with calls := conn.calls.modify number change }

/-- Registers a new call and gives its number, unless the connection is closed. -/
def start (conn : Connection) (method : String) (params : Json) : Option (Nat × Connection) :=
  if conn.closed then none
  else
    let number := conn.calls.length
    -- The call is registered before it is written, so no response can come too early.
    some (number, { conn with
      calls := conn.calls ++ [{ method, params }]
      pending := conn.pending ++ [number] })

/-- The call ends with this outcome, and its slot is withdrawn. -/
def finish (conn : Connection) (number : Nat) (outcome : Except CallError Json) : Connection :=
  { conn.modifyCall number fun call => { call with phase := .finished outcome } with
    pending := conn.pending.filter (· ≠ number) }

/-- The next step of a call, if there is one: it is written, or it ends. A response that has come
counts before a cancellation, and giving up a call tells the peer. -/
def stepCall (conn : Connection) (number : Nat) : Option Connection := do
  let call ← conn.calls[number]?
  match call.phase with
  | .finished _ => none
  | .sending =>
    match conn.write (.call (callId number) call.method call.params) with
    | .error error => some (conn.finish number (.error (.send error)))
    | .ok conn => some (conn.modifyCall number fun call => { call with phase := .waiting })
  | .waiting =>
    match call.slot with
    | .handed (.ok result) => some (conn.finish number (.ok result))
    | .handed (.error error) => some (conn.finish number (.error (.refused error)))
    -- The connection was closed while the call waited.
    | .discarded => some (conn.finish number (.error .closed))
    | .empty =>
      -- Nothing has come: only now does giving up count.
      if call.cancelled then
        let conn := conn.finish number (.error .cancelled)
        let params := toJson (CancelParams.mk (callId number))
        -- The peer is told later, by nobody in particular.
        some { conn with backlog := conn.backlog ++ [.notification cancelMethod params] }
      else none

def cancel (conn : Connection) (number : Nat) : Connection :=
  conn.modifyCall number fun call => { call with cancelled := true }

/-- Tells the peer something, and gives the number of bytes written. -/
def notify (conn : Connection) (method : String) (params : Json) :
    Except FrameError (Nat × Connection) := do
  let message := Message.notification method params
  let conn ← conn.write message
  .ok ((Frame.write message.encode).length, conn)

/-- Puts a response into the open slot of its call; one that nobody waits for is dropped. -/
def deliver (conn : Connection) (id : Option Id) (outcome : Except Error Json) : Connection :=
  match conn.pending.find? fun number => id = some (callId number) with
  | none => conn
  | some number =>
    { conn.modifyCall number fun call => { call with slot := .handed outcome } with
      -- A second response with that identifier finds no slot.
      pending := conn.pending.filter (· ≠ number) }

def modifyInbound (conn : Connection) (ticket : Nat) (change : InboundCall → InboundCall) :
    Connection :=
  { conn with inbound := conn.inbound.modify ticket change }

/-- The peer gives up a call it made. -/
def cancelInbound (conn : Connection) (params : Json) : Connection :=
  match (Wire.decode params : Except DecodeError CancelParams) with
  | .error _ => conn
  | .ok { id } =>
    match conn.incoming.lookup id with
    | none => conn
    | some ticket => conn.modifyInbound ticket fun call => { call with cancelled := true }

/-- Takes a call from the peer. A cancellation of its identifier reaches this call from now on. -/
def accept (conn : Connection) (id : Id) (method : String) (params : Json) : Nat × Connection :=
  let ticket := conn.inbound.length
  (ticket, { conn with
    inbound := conn.inbound ++ [{ id, method, params }]
    -- An identifier that is used again stands for the latest call.
    incoming := (id, ticket) :: conn.incoming.filter (·.1 ≠ id) })

/-- Sorts one message: responses and cancellations are dealt with here, all else is handed on. -/
def dispatch (conn : Connection) : Message → Option Delivery × Connection
  | .response id outcome => (none, conn.deliver id outcome)
  | .notification method params =>
    if method = cancelMethod then (none, conn.cancelInbound params)
    else (some (.notification method params), conn)
  | .call id method params =>
    let (ticket, conn) := conn.accept id method params
    (some (.call ticket id method params), conn)

/-- A call is answered: its identifier can no longer be cancelled. -/
def retire (conn : Connection) (ticket : Nat) (id : Id) : Connection :=
  { conn.modifyInbound ticket fun call => { call with answered := true } with
    incoming := conn.incoming.filter (·.1 ≠ id) }

/-- Answers a call taken from the peer; a call is answered once. -/
def reply (conn : Connection) (ticket : Nat) (outcome : Except Error Json) : Connection :=
  match conn.inbound[ticket]? with
  | none => conn
  | some call =>
    if call.answered then conn
    -- The call counts as answered even if the connection takes no bytes.
    else (conn.retire ticket call.id).writeIfOpen (.response (some call.id) outcome)

/-- Leaves a call unanswered: the peer is told so in due course. -/
def abandon (conn : Connection) (ticket : Nat) : Connection :=
  match conn.inbound[ticket]? with
  | none => conn
  | some call =>
    if call.answered then conn
    else
      let refusal := Error.internal "request dropped without a reply"
      let conn := conn.retire ticket call.id
      { conn with backlog := conn.backlog ++ [.response (some call.id) (.error refusal)] }

/-- Writes one message of the backlog, which keep no order among themselves. -/
def stepBacklog (conn : Connection) (place : Nat) : Option Connection :=
  (conn.backlog[place]?).map fun message =>
    { conn with backlog := conn.backlog.eraseIdx place }.writeIfOpen message

/-- Holds for a call whose owner is to stop: the peer gave it up, or the connection is closed. -/
def isCancelled (conn : Connection) (ticket : Nat) : Bool :=
  conn.closed || (conn.inbound[ticket]?).any (·.cancelled)

/-- Reading has ended: no open slot is ever filled, and every unanswered call is cancelled. -/
def close (conn : Connection) : Connection :=
  { conn with
    closed := true
    -- Slots that were filled keep what they hold.
    calls := conn.calls.mapIdx fun number call =>
      if number ∈ conn.pending then { call with slot := .discarded } else call
    pending := []
    inbound := conn.inbound.mapIdx fun ticket call =>
      if conn.incoming.any (·.2 = ticket) then { call with cancelled := true } else call
    incoming := [] }

/-- The peer takes no more bytes. -/
def hangUp (conn : Connection) : Connection := { conn with broken := true }

def stepCalls (conn : Connection) : Option Connection :=
  (List.range conn.calls.length).findSome? conn.stepCall

/-- Takes every step that is left to calls and backlog, at most `limit` of them. -/
def settleWithin : Nat → Connection → Connection
  | 0, conn => conn
  | limit + 1, conn =>
    match conn.stepCalls <|> conn.stepBacklog 0 with
    | none => conn
    | some conn => settleWithin limit conn

/-- Takes every step that is left to calls and backlog: a call takes two and leaves one message. -/
def settle (conn : Connection) : Connection :=
  conn.settleWithin (3 * conn.calls.length + conn.backlog.length)

end Connection

def decodeResult (α : Type) [Wire α] : Except CallError Json → Except CallError α
  | .error error => .error error
  | .ok value =>
    match (Wire.decode value : Except DecodeError α) with
    | .ok result => .ok result
    | .error error => .error (.result error)

end PolicyServer.Rpc
