import PolicyServer.Proofs.Workspace.Rest
import PolicyServer.Session.Peer

/-! What can happen to a session, in any order, and the course that its workspace takes meanwhile. -/

namespace PolicyServer

/-- Holds for what happens within a workspace and to those who use it. All else reaches it along the
connection, and a session opens the view by itself. -/
def Workspace.Move.isWithin : Workspace.Move → Bool
  | .step _ _ | .lineUp _ | .wait _ | .store _ => true
  | .beginPass _ _ | .cancelPass _ | .mark _ | .change _ _ => true
  | .take | .observe _ _ | .stop | .awaitIdle => true
  | .keep _ _ | .clone _ _ | .acquire _ | .letGo _ => true
  | _ => false

namespace Session

/--
What can happen to a session.

Something happens within the workspace; bytes come from the editor, or no more of them, or the editor
is gone; the next message is dealt with; and what is to pass between workspace and editor passes.
-/
inductive Move where
  | within (move : Workspace.Move)
  | feed (chunk : Bytes)
  | finish
  | hangUp
  | receive
  | relay

/-- The session after a move; one that is not possible changes nothing. -/
def act (c : Collaborators) (s : Session) : Move → Session
  | .within move => if move.isWithin then { s with workspace := s.workspace.act c move } else s
  | .feed chunk => s.feed chunk
  | .finish => s.finish
  | .hangUp => { s with conn := s.conn.hangUp }
  | .receive =>
    match s.intake.next? with
    | some (arrival, intake) => { s with intake }.receive c arrival
    | none => s
  | .relay => s.relay

def play (c : Collaborators) (s : Session) (moves : List Move) : Session := moves.foldl (act c) s

def fresh (names : Nat → String) (supported : Bool) (limit : Nat) : Session where
  workspace := .fresh names supported limit

/-- Collaborators that answer at once: a runner is there, and finds nothing. -/
def promptCollaborators : Collaborators where
  resolve _ _ := ⟨0, false, none⟩
  run _ := ⟨0, false, .ok []⟩

variable {c : Collaborators} {s s' : Session}

theorem play_append (c : Collaborators) (s : Session) (before after : List Move) :
    s.play c (before ++ after) = (s.play c before).play c after := by
  simp only [play, List.foldl_append]

/-! ### Sessions as they are run -/

theorem runTask_eq_play (c : Collaborators) (number limit : Nat) (s : Session) :
    ∃ moves, { s with workspace := s.workspace.runTask c number limit } = s.play c moves := by
  induction limit generalizing s with
  | zero => exact ⟨[], rfl⟩
  | succ limit ih =>
    simp only [Workspace.runTask]
    cases stepped : s.workspace.step c false number with
    | none => exact ⟨[], rfl⟩
    | some after =>
      -- The first step is a move, and the steps after it are those of a shorter run.
      have first : s.act c (.within (.step number false)) = { s with workspace := after } := by
        simp [act, Workspace.Move.isWithin, Workspace.act, stepped]
      dsimp only
      split
      · exact ⟨[.within (.step number false)], first.symm⟩
      · obtain ⟨moves, same⟩ := ih { s with workspace := after }
        refine ⟨.within (.step number false) :: moves, ?_⟩
        simp only [play, List.foldl_cons, first]
        exact same

theorem runNext_eq_play {limit : Nat} (ran : s.runNext c limit = some s') :
    ∃ moves, s' = s.play c moves := by
  obtain ⟨w, chosen, rfl⟩ := Option.map_eq_some_iff.mp ran
  obtain ⟨number, -, same⟩ := Option.bind_eq_some_iff.mp chosen
  obtain ⟨moves, steps⟩ := runTask_eq_play c number limit s
  -- The tasks are lined up anew after the steps, and then all passes that is to pass.
  refine ⟨moves ++ [.within (.lineUp w.order), .relay], ?_⟩
  rw [play_append, ← steps]
  cases same
  rfl

theorem settle_eq_play (c : Collaborators) (limit : Nat) (s : Session) :
    ∃ moves, s.settle c limit = s.play c moves := by
  -- Each round is a few moves, and the rounds after it are a shorter run.
  induction limit generalizing s with
  | zero => exact ⟨[], rfl⟩
  | succ limit ih =>
    simp only [settle]
    cases received : s.receiveNext c with
    | some after =>
      obtain ⟨⟨arrival, intake⟩, next, same⟩ := Option.map_eq_some_iff.mp received
      obtain ⟨moves, rest⟩ := ih after
      refine ⟨[.receive, .relay] ++ moves, ?_⟩
      have first : s.play c [.receive, .relay] = after := by
        simp only [play, List.foldl_cons, List.foldl_nil, act, next]
        exact same
      rw [play_append, first]
      exact rest
    | none =>
      cases ran : s.runNext c (limit + 1) with
      | none => exact ⟨[], rfl⟩
      | some after =>
        obtain ⟨before, first⟩ := runNext_eq_play ran
        obtain ⟨moves, rest⟩ := ih after
        exact ⟨before ++ moves, by rw [play_append, ← first]; exact rest⟩

/-! ### The course of the workspace -/

def Follows (c : Collaborators) (w w' : Workspace) : Prop :=
  ∃ moves, (∀ move ∈ moves, move.isOfSession = true) ∧ w' = w.play c moves

theorem Follows.refl (w : Workspace) : Follows c w w := ⟨[], by simp, rfl⟩

theorem Follows.trans {w w' w'' : Workspace} (first : Follows c w w') (second : Follows c w' w'') :
    Follows c w w'' := by
  -- The moves of the one are played before those of the other.
  obtain ⟨before, ours, rfl⟩ := first
  obtain ⟨after, ours', rfl⟩ := second
  refine ⟨before ++ after, fun move member => ?_, (Workspace.play_append c w before after).symm⟩
  rcases List.mem_append.mp member with member | member
  · exact ours move member
  · exact ours' move member

theorem Follows.act (w : Workspace) (move : Workspace.Move) (ours : move.isOfSession = true) :
    Follows c w (w.act c move) :=
  ⟨[move], by simpa using ours, rfl⟩

/-- What passes between workspace and editor without being sent to it: the workspace goes on, and
what it has sent is left as it is. -/
structure Carried (c : Collaborators) (s s' : Session) : Prop where
  follows : Follows c s.workspace s'.workspace
  sent : s'.workspace.outbox.sent = s.workspace.outbox.sent
  conn : s'.conn = s.conn
  tickets : s'.tickets = s.tickets

theorem Carried.refl (s : Session) : Carried c s s := ⟨.refl _, rfl, rfl, rfl⟩

theorem Carried.trans {s'' : Session} (first : Carried c s s') (second : Carried c s' s'') :
    Carried c s s'' :=
  ⟨first.follows.trans second.follows, second.sent.trans first.sent, second.conn.trans first.conn,
    second.tickets.trans first.tickets⟩

theorem takeAnswer_carried (s : Session) (ask : Ask) (outcome : Except Rpc.CallError Json) :
    Carried c s (s.takeAnswer ask outcome) := by
  cases ask with
  | token token => exact ⟨.act _ (.answer token outcome.isOk) rfl, rfl, rfl, rfl⟩
  | settings =>
    -- Settings that are no longer waited for are passed over, by the session as by the move.
    have follows := Follows.act (c := c) s.workspace
      (.settle (Rpc.decodeResult (List Json) outcome).toOption) rfl
    refine ⟨follows, ?_, rfl, rfl⟩
    simp only [takeAnswer]
    split <;> rfl

theorem takeAnswers_carried (s : Session) : Carried c s s.takeAnswers := by
  -- One ask after the other is answered, or stays listed.
  have start : Carried c s { s with asks := [] } := ⟨.refl _, rfl, rfl, rfl⟩
  refine List.foldlRecOn (motive := Carried c s) s.asks _ start fun mid before entry _ => ?_
  obtain ⟨number, ask⟩ := entry
  dsimp only
  split
  · exact before.trans (takeAnswer_carried mid ask _)
  · exact before.trans ⟨.refl _, rfl, rfl, rfl⟩

theorem passCancellations_carried (s : Session) : Carried c s s.passCancellations := by
  -- One ticket after the other: a cancelled one gives up its task.
  refine List.foldlRecOn (motive := Carried c s) s.tickets _ (.refl s) fun mid before entry _ => ?_
  obtain ⟨number, ticket⟩ := entry
  dsimp only
  split
  · exact before.trans ⟨.act mid.workspace (.giveUp number) rfl, rfl, rfl, rfl⟩
  · exact before

theorem noteLink_carried (s : Session) : Carried c s s.noteLink :=
  ⟨.act s.workspace (.link s.conn.closed s.conn.broken) rfl, rfl, rfl, rfl⟩

end Session

end PolicyServer
