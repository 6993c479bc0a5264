import PolicyServer.Progress.Board
import PolicyServer.Proofs.Progress.Tracker
import PolicyServer.Proofs.Table
import PolicyServer.Proofs.Trace

/-! What becomes of a token: it is asked for, taken or refused, and its work is ended or dropped. -/

namespace PolicyServer

def Outgoing.token? : Outgoing → Option ProgressToken
  | .create token | .progress token _ => some token
  | _ => none

def Outbox.about (outbox : Outbox) (token : ProgressToken) : List Outgoing :=
  outbox.sent.filter (·.token? = some token)

theorem Outbox.about_sendAll (outbox : Outbox) (messages : List Outgoing) (token : ProgressToken) :
    (outbox.sendAll messages).about token = outbox.about token ++
      if outbox.broken then [] else messages.filter (·.token? = some token) := by
  rw [sendAll_eq]
  cases outbox.broken <;> simp [about]

namespace Progress

/-- What is seen of a token and of the work that has it. -/
inductive Sight where
  -- The editor is asked for the token, and answers.
  | asked (token : ProgressToken) (opening : Opening Nat)
  | answered (token : ProgressToken) (accepted : Bool)
  -- The work reports, is ended with a message, or is dropped.
  | reported (token : ProgressToken) (message : String) (percentage : Option UInt32)
  | ended (token : ProgressToken) (message : String)
  | dropped (token : ProgressToken)

def Sight.token : Sight → ProgressToken
  | .asked token _ | .answered token _ | .reported token _ _ | .ended token _ | .dropped token => token

/-- How far a token has come, with what its work was announced by and has reported. -/
inductive Stage where
  | unasked
  | asked (opening : Opening Nat)
  | refused (opening : Opening Nat)
  | begun (opening : Opening Nat) (reports : List (String × Option UInt32))
  | ended (opening : Opening Nat) (reports : List (String × Option UInt32)) (message : String)
  | dropped (opening : Opening Nat) (reports : List (String × Option UInt32))

namespace Stage

/-- How far a token has come once more is seen of it. What does not go with its stage changes nothing. -/
def next : Stage → Sight → Stage
  | .unasked, .asked _ opening => .asked opening
  | .asked opening, .answered _ true => .begun opening []
  | .asked opening, .answered _ false => .refused opening
  | .begun opening reports, .reported _ message percentage =>
    .begun opening (reports ++ [(message, percentage)])
  | .begun opening reports, .ended _ message => .ended opening reports message
  | .begun opening reports, .dropped _ => .dropped opening reports
  | stage, _ => stage

def scope? : Stage → Option Nat
  | .unasked => none
  | .asked opening | .refused opening | .begun opening _ | .ended opening _ _ | .dropped opening _ =>
    opening.scope

/-- What the editor is told of work that has begun under a token. -/
def course (token : ProgressToken) (opening : Opening Nat)
    (reports : List (String × Option UInt32)) : List Outgoing :=
  .create token ::
    .progress token (.begin opening.title opening.scope.isSome (some opening.message)) ::
    reports.map fun report => .progress token (.report (some report.1) report.2)

/-- All that the editor is told of a token that has come so far: a call to create it; once it was taken,
that the work begins; then its reports; and at last that it is over, unless it is dropped. -/
def messages (token : ProgressToken) : Stage → List Outgoing
  | .unasked => []
  | .asked _ | .refused _ => [.create token]
  | .begun opening reports | .dropped opening reports => course token opening reports
  | .ended opening reports message =>
    course token opening reports ++ [.progress token (.done (some message))]

theorem messages_next (token : ProgressToken) (stage : Stage) (sight : Sight) :
    stage.messages token <+: (stage.next sight).messages token := by
  unfold next
  split
  · exact List.nil_prefix
  · exact List.prefix_append [_] _
  · exact List.prefix_refl _
  · rw [messages, messages, course, course, List.map_append]
    exact List.prefix_append (_ :: _ :: _) _
  · exact List.prefix_append _ _
  · exact List.prefix_refl _
  · exact List.prefix_refl _

end Stage

def stage (log : List Sight) (token : ProgressToken) : Stage :=
  (log.filter (·.token = token)).foldl Stage.next .unasked

theorem stage_append (log : List Sight) (sight : Sight) (token : ProgressToken) :
    stage (log ++ [sight]) token =
      if sight.token = token then (stage log token).next sight else stage log token := by
  by_cases same : sight.token = token <;> simp [stage, List.filter_append, same]

namespace Board

/-- What can happen to works. An answer may come for any token, and for many none ever comes. -/
inductive Act where
  | support (supported : Bool)
  | start (name title message : String) (cancellable : Bool)
  | answer (token : ProgressToken) (accepted : Bool)
  | report (name message : String) (percentage : Option UInt32)
  | conclude (name message : String)
  | drop (name : String)
  | sweep
  | cancel (token : ProgressToken)
  | hangUp

/-- The board after an act; cancelling what cannot be cancelled changes nothing. -/
def act (board : Board) : Act → Board
  | .support supported => { board with tracker := { board.tracker with supported } }
  | .start name title message cancellable => board.start name title message cancellable
  | .answer token accepted => board.answer token accepted
  | .report name message percentage => board.report name message percentage
  | .conclude name message => board.conclude name message
  | .drop name => board.drop name
  | .sweep => board.sweep
  | .cancel token => (board.cancel token).toOption.getD board
  | .hangUp => board.hangUp

def run (board : Board) (acts : List Act) : Board := acts.foldl act board

def fresh (names : Nat → String) (supported : Bool) : Board := { tracker := ⟨names, supported, 0, []⟩ }

def tokenOf? (board : Board) (name : String) : Option ProgressToken :=
  (board.works.get? name).bind Work.token?

def nextToken (board : Board) : ProgressToken := .text (board.tracker.names board.tracker.issued)

/-- What a work is announced by. Each work that can be cancelled is given a scope of its own. -/
def openingOf (board : Board) (title message : String) (cancellable : Bool) : Opening Nat :=
  ⟨title, message, if cancellable then some board.scopes.length else none⟩

/-- What is seen of an answer: one that was not asked for is not looked at. -/
def answerSights (board : Board) (token : ProgressToken) (accepted : Bool) : List Sight :=
  if board.requests.any (·.token = token) then [.answered token accepted] else []

def lose (board : Board) : Board :=
  { board with outbox := { board.outbox with closed := true, broken := true } }

def sights (board : Board) : Act → List Sight
  | .start _ title message cancellable =>
    if board.tracker.supported && board.outbox.takesCalls then
      [.asked board.nextToken (board.openingOf title message cancellable)]
    else []
  | .answer token accepted => board.answerSights token accepted
  | .report name message percentage =>
    (board.tokenOf? name).toList.map (.reported · message percentage)
  | .conclude name message => (board.tokenOf? name).toList.map (.ended · message)
  | .drop name => (board.tokenOf? name).toList.map .dropped
  | .sweep => (board.aside.filterMap Work.token?).map .dropped
  | .hangUp =>
    -- Whatever waits for the editor is refused, one after the other.
    trace (fun board request => board.answer request.token false)
      (fun board request => board.answerSights request.token false) board.lose board.requests
  | .support _ | .cancel _ => []

def sightings (board : Board) (acts : List Act) : List Sight := trace act sights board acts

end Board

end Progress

end PolicyServer
