import PolicyServer.Session.Peer

/-! A client that talks with a server step by step, and keeps the messages it waited for. -/

namespace PolicyServer

/-- What a client does: it sends a message or plain bytes, or waits for a message that holds what a
pattern asks for. -/
inductive Utterance where
  | send (message : Json)
  | bytes (chunk : Bytes)
  | await (pattern : Json)

/-- A talk with a server. `seen` counts the messages that the client has read, and `kept` are those
it waited for. -/
structure Dialogue where
  session : Session
  seen : Nat := 0
  kept : List Json := []

namespace Dialogue

def say (c : Collaborators) (limit : Nat) (talk : Dialogue) (chunk : Bytes) : Dialogue :=
  { talk with session := (talk.session.feed chunk).advance c (fun _ => none) limit 1 }

/-- Reads on to the next message that holds what the pattern asks for; those before it are passed
over. -/
def await (talk : Dialogue) (pattern : Json) : Dialogue :=
  let written := talk.session.conn.written
  let unread := (written.drop talk.seen).map fun message => Json.ofMembers message.members
  match unread.findIdx? (·.holds pattern) with
  | some place =>
    { talk with seen := talk.seen + place + 1, kept := talk.kept ++ unread[place]?.toList }
  | none => { talk with seen := written.length }

/-- The next step of a talk. A call is answered before the client goes on. -/
def step (c : Collaborators) (limit : Nat) (talk : Dialogue) : Utterance → Dialogue
  | .bytes chunk => talk.say c limit chunk
  | .await pattern => talk.await pattern
  | .send message =>
    let talk := talk.say c limit (Rpc.Frame.write message.toBytes)
    match message.member? "method", message.member? "id" with
    | some _, some id => talk.await (.ofMembers [("id", id)])
    | _, _ => talk

end Dialogue

end PolicyServer
