import PolicyServer.Session.Relay

/-! A session with a peer that answers calls by a rule, and time that passes. -/

namespace PolicyServer

/-- How a peer answers the calls of a method; some it never answers. -/
abbrev Peer := String → Option (Except Rpc.Error Json)

def Peer.answers (peer : Peer) (messages : List Rpc.Message) : Bytes :=
  messages.flatMap fun
    | .call id method _ =>
      match peer method with
      | some outcome => Rpc.Frame.write (Rpc.Message.response (some id) outcome).encode
      | none => []
    | _ => []

namespace Session

def feed (s : Session) (chunk : Bytes) : Session := { s with intake := s.intake.feed chunk }

def finish (s : Session) : Session := { s with intake := s.intake.finish }

/-- The peer sends and takes no more. -/
def hangUp (s : Session) : Session := { s.finish with conn := s.conn.hangUp }.relay

/-- All ready work is done, and the peer's answers are dealt with, in at most `limit` rounds. -/
def settleWith (c : Collaborators) (peer : Peer) : Nat → Session → Session
  | 0, s => s
  | limit + 1, s =>
    let before := s.conn.written.length
    let s := s.settle c (limit + 1)
    match peer.answers (s.conn.written.drop before) with
    | [] => s
    | answers => settleWith c peer limit (s.feed answers)

/-- Time passes up to `last`, and what is due until then is done in its order. -/
def waitUntil (c : Collaborators) (peer : Peer) (last : Nat) : Nat → Session → Session
  | 0, s => s
  | limit + 1, s =>
    let s := s.settleWith c peer (limit + 1)
    match s.workspace.nextDue? last with
    | some due => waitUntil c peer last limit { s with workspace := { s.workspace with clock := due } }
    | none => { s with workspace := { s.workspace with clock := last } }

def advance (c : Collaborators) (peer : Peer) (limit : Nat) (ms : Nat) (s : Session) : Session :=
  s.waitUntil c peer (s.workspace.clock + ms) limit

end Session

end PolicyServer
