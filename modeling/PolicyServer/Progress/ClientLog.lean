import PolicyServer.Protocol.Outgoing

/-! The editor's log: messages wait in a short queue and are forwarded one by one. -/

namespace PolicyServer

/-- Messages waiting to be forwarded. Once `closed` forwarding stops, and once `stopped` nothing is
taken in. -/
structure ClientLog where
  queue : List Notice := []
  closed : Bool := false
  stopped : Bool := false

namespace ClientLog

def capacity : Nat := 100

/-- Puts a message in the queue, unless it is full. -/
def log (clientLog : ClientLog) (notice : Notice) : ClientLog :=
  if clientLog.stopped || clientLog.queue.length ≥ capacity then clientLog
  else { clientLog with queue := clientLog.queue ++ [notice] }

def error (clientLog : ClientLog) (message : String) : ClientLog := clientLog.log ⟨.error, message⟩

def warn (clientLog : ClientLog) (message : String) : ClientLog := clientLog.log ⟨.warning, message⟩

/-- Forwarding is to stop. -/
def close (clientLog : ClientLog) : ClientLog := { clientLog with closed := true }

/-- Takes the oldest message for forwarding. -/
def forward? (clientLog : ClientLog) : Option (Notice × ClientLog) :=
  if clientLog.stopped then none
  else
    match clientLog.queue with
    | [] => none
    | notice :: rest => some (notice, { clientLog with queue := rest })

/-- Forwarding stops when the log is closed; what waits is never forwarded. -/
def stop? (clientLog : ClientLog) : Option ClientLog :=
  if clientLog.closed && !clientLog.stopped then some { clientLog with stopped := true, queue := [] }
  else none

/-- The next step of forwarding: it stops, or one message is sent. -/
def step? (clientLog : ClientLog) (outbox : Outbox) : Option (ClientLog × Outbox) :=
  match clientLog.stop? with
  | some clientLog => some (clientLog, outbox)
  | none => clientLog.forward?.map fun (notice, clientLog) => (clientLog, outbox.send (.log notice))

/-- Forwards all that waits, at most `limit` messages. -/
def drainWithin : Nat → ClientLog → Outbox → ClientLog × Outbox
  | 0, clientLog, outbox => (clientLog, outbox)
  | limit + 1, clientLog, outbox =>
    match clientLog.step? outbox with
    | none => (clientLog, outbox)
    | some (clientLog, outbox) => drainWithin limit clientLog outbox

def drain (clientLog : ClientLog) (outbox : Outbox) : ClientLog × Outbox :=
  drainWithin (clientLog.queue.length + 1) clientLog outbox

end ClientLog

end PolicyServer
