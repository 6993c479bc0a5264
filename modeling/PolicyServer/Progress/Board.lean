import PolicyServer.Progress.Tracker

/-! Works by name: each is announced, reported on and ended, and the editor may answer or not. -/

namespace PolicyServer.Progress

structure Request where
  token : ProgressToken
  name : String
  opening : Opening Nat

/-- Works that are announced or under way. `scopes` tells of every scope given to a work whether it
was cancelled, and `scopeOf` which one each name was last given; `aside` holds works whose name was
taken over by a later one. -/
structure Board where
  tracker : Tracker Nat
  outbox : Outbox := {}
  requests : List Request := []
  works : Table Work := []
  scopes : List Bool := []
  scopeOf : Table Nat := []
  aside : List Work := []

namespace Board

/-- A work is there under its name; an earlier one of that name is set aside. -/
def keep (board : Board) (name : String) (work : Work) : Board :=
  { board with
    aside := board.aside ++ (board.works.get? name).toList
    works := board.works.put name work }

def sweep (board : Board) : Board :=
  { board with tracker := board.aside.foldl Tracker.forget board.tracker, aside := [] }

def start (board : Board) (name title message : String) (cancellable : Bool) : Board :=
  let scope := board.scopes.length
  let board := if cancellable then { board with
      scopes := board.scopes ++ [false]
      scopeOf := board.scopeOf.put name scope } else board
  let opening : Opening Nat := ⟨title, message, if cancellable then some scope else none⟩
  match board.tracker.announce board.outbox opening with
  | (.work work, tracker, outbox) => { board with tracker, outbox }.keep name work
  | (.asked token, tracker, outbox) =>
    { board with tracker, outbox, requests := board.requests ++ [⟨token, name, opening⟩] }

/-- The editor takes or refuses a token; an answer for no request changes nothing. -/
def answer (board : Board) (token : ProgressToken) (accepted : Bool) : Board :=
  match board.requests.find? (·.token = token) with
  | none => board
  | some request =>
    let (work, tracker, outbox) :=
      board.tracker.answer board.outbox token request.opening accepted
    { board with tracker, outbox, requests := board.requests.filter (·.token ≠ token) }.keep
      request.name work

def report (board : Board) (name message : String) (percentage : Option UInt32) : Board :=
  match board.works.get? name with
  | none => board
  | some work => { board with outbox := Tracker.report board.outbox work message percentage }

def conclude (board : Board) (name message : String) : Board :=
  match board.works.get? name with
  | none => board
  | some work =>
    let (tracker, outbox) := board.tracker.conclude board.outbox work message
    { board with tracker, outbox, works := board.works.erase name }

def drop (board : Board) (name : String) : Board :=
  match board.works.get? name with
  | none => board
  | some work => { board with tracker := board.tracker.forget work, works := board.works.erase name }

def cancel (board : Board) (token : ProgressToken) : Except ProgressError Board := do
  let scope ← board.tracker.cancel token
  .ok { board with scopes := board.scopes.set scope true }

/-- The editor is gone: what waits for it is not shown. -/
def hangUp (board : Board) : Board :=
  let board := { board with outbox := { board.outbox with closed := true, broken := true } }
  board.requests.foldl (fun board request => board.answer request.token false) board

end Board

end PolicyServer.Progress
