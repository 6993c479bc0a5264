import PolicyServer.Protocol.Outgoing

/-! Work the editor is shown: tokens handed out, and a plain message where there are no tokens. -/

namespace PolicyServer

inductive ProgressError where
  | unknownToken (token : ProgressToken)
  | notCancellable (token : ProgressToken)

def ProgressError.message : ProgressError → String
  | .unknownToken token => s!"no work in progress for token {token.render}"
  | .notCancellable token => s!"work for token {token.render} cannot be cancelled"

/-- What the editor is told when work begins, and what it may cancel. -/
structure Opening (σ : Type) where
  title : String
  message : String
  scope : Option σ

/-- How work is shown: not at all, by plain messages, or under a token. -/
inductive Work where
  | silent
  | plain
  | tracked (token : ProgressToken)
  deriving DecidableEq, Repr

def Work.token? : Work → Option ProgressToken
  | .tracked token => some token
  | _ => none

/-- What announcing work leads to: it is shown, or the editor was asked for a token. -/
inductive Announced where
  | work (work : Work)
  | asked (token : ProgressToken)

/-- The tokens handed to the editor. `names` gives the text of each token, `issued` counts them, and
`inProgress` holds the tokens of work begun and not ended, with the scope that each may cancel. -/
structure Tracker (σ : Type) where
  names : Nat → String
  supported : Bool := false
  issued : Nat := 0
  inProgress : List (ProgressToken × Option σ) := []

namespace Tracker

/-- Announces work. An editor that cannot show progress is sent a message instead. -/
def announce (tracker : Tracker σ) (outbox : Outbox) (opening : Opening σ) :
    Announced × Tracker σ × Outbox :=
  if tracker.supported then
    if outbox.takesCalls then
      let token := ProgressToken.text (tracker.names tracker.issued)
      (.asked token, { tracker with issued := tracker.issued + 1 }, outbox.send (.create token))
    else (.work .silent, tracker, outbox)
  else (.work .plain, tracker, outbox.send (.show ⟨.log, opening.message⟩))

/-- The editor took the token: work begins under it. -/
def begin (tracker : Tracker σ) (outbox : Outbox) (token : ProgressToken) (opening : Opening σ) :
    Tracker σ × Outbox :=
  ({ tracker with
      inProgress := tracker.inProgress.filter (·.1 ≠ token) ++ [(token, opening.scope)] },
    outbox.send (.progress token (.begin opening.title opening.scope.isSome (some opening.message))))

/-- The editor answered: work begins under the token, or is not shown. -/
def answer (tracker : Tracker σ) (outbox : Outbox) (token : ProgressToken) (opening : Opening σ)
    (accepted : Bool) : Work × Tracker σ × Outbox :=
  if accepted then (.tracked token, tracker.begin outbox token opening)
  else (.silent, tracker, outbox)

def report (outbox : Outbox) (work : Work) (message : String) (percentage : Option UInt32) :
    Outbox :=
  match work with
  | .tracked token => outbox.send (.progress token (.report (some message) percentage))
  | _ => outbox

/-- Work is over, and the editor hears nothing of it. -/
def forget (tracker : Tracker σ) (work : Work) : Tracker σ :=
  match work with
  | .tracked token => { tracker with inProgress := tracker.inProgress.filter (·.1 ≠ token) }
  | _ => tracker

/-- Work is over, and the editor is told so. -/
def conclude (tracker : Tracker σ) (outbox : Outbox) (work : Work) (message : String) :
    Tracker σ × Outbox :=
  (tracker.forget work, match work with
    | .tracked token => outbox.send (.progress token (.done (some message)))
    | .plain => outbox.send (.show ⟨.info, message⟩)
    | .silent => outbox)

/-- The scope that the editor cancels by this token. -/
def cancel (tracker : Tracker σ) (token : ProgressToken) : Except ProgressError σ :=
  match tracker.inProgress.lookup token with
  | none => .error (.unknownToken token)
  | some none => .error (.notCancellable token)
  | some (some scope) => .ok scope

end Tracker

end PolicyServer
