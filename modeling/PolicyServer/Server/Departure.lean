import PolicyServer.Session.Dialogue

/-! How a server ends: with the code of an exit, or as its connection ended. -/

namespace PolicyServer

/-- What a server leaves behind: its exit code, and what it complains of. -/
structure Departure where
  code : Nat
  complaint : String := ""
  deriving DecidableEq, Repr

/-- How a session makes its server end, if it does. An exit counts before the end of the connection,
and a connection that ends well ends well after a shutdown only. -/
def Session.departure? (s : Session) : Option Departure :=
  match s.workspace.exitCode, s.intake.ending with
  | some code, _ => some { code }
  | none, none => none
  | none, some (.ok _) => some { code := if s.workspace.lifecycle = .shutDown then 0 else 1 }
  | none, some (.error error) =>
    some ⟨1, s!"Error: connection to the client failed: {error.chain}\n"⟩

/-- A whole talk: it goes on until the server ends, and then the client sends no more. -/
def Dialogue.conclude (c : Collaborators) (limit : Nat) (talk : Dialogue)
    (utterances : List Utterance) : Dialogue × Option Departure :=
  let talk := utterances.foldl (fun talk utterance =>
    if talk.session.departure?.isSome then talk else talk.step c limit utterance) talk
  (talk, (talk.session.finish.advance c (fun _ => none) limit 1).departure?)

end PolicyServer
