import PolicyServer.Proofs.Session.Asks
import PolicyServer.Proofs.Session.Shutdown
import PolicyServer.Proofs.Workspace.Leaving

/-! A session at a standstill: a request to shut down has been answered, unless the editor has left a
question for a token unanswered or somebody holds a snapshot from outside. -/

namespace PolicyServer.Session

open Rpc (Connection OutgoingCall)
open Workspace (Standstill Petition)

variable {c : Collaborators} {s s' : Session} {number ticket : Nat}

/-! ### What is answered stays so -/

def Answers (conn conn' : Connection) : Prop :=
  ∀ ticket : Nat, conn.answers[ticket]? = some true → conn'.answers[ticket]? = some true

theorem reply_answers_of (conn : Connection) (ticket : Nat) (outcome : Except Rpc.Error Json) :
    Answers conn (conn.reply ticket outcome) := by
  intro other answered
  rw [(conn.reply_answers ticket outcome).1, List.getElem?_set]
  split
  · rename_i same
    subst same
    simp [(List.getElem?_eq_some_iff.mp answered).1]
  · exact answered

theorem serve_answers (c : Collaborators) (s : Session) (ticket : Nat) (method : String)
    (params : Json) : Answers s.conn (s.serve c ticket method params).conn := by
  unfold Session.serve
  split
  · exact reply_answers_of _ _ _
  · exact reply_answers_of _ _ _
  · exact reply_answers_of _ _ _
  · exact reply_answers_of _ _ _
  · exact fun _ => id
  · exact fun _ => id

theorem receive_answers (s : Session) (arrival : Rpc.Arrival) :
    Answers s.conn (s.receive c arrival).conn := by
  have same {conn : Connection} (kept : Connection.Unanswering True s.conn conn) :
      Answers s.conn conn := fun ticket answered => kept.answers ▸ answered
  cases arrival with
  | last ending => exact same (Connection.close_unanswering s.conn)
  | message message =>
    simp only [Session.receive]
    split
    · rename_i conn dispatched
      exact same (Connection.dispatch_unanswering dispatched fun _ _ _ _ call => by cases call)
    · rename_i method params conn dispatched
      have kept := same (Connection.dispatch_unanswering dispatched fun _ _ _ _ call => by cases call)
      unfold hear
      split <;> exact kept
    · rename_i ticket _ method params conn dispatched
      -- The call gets a ticket of its own, and those before it are as they were.
      obtain ⟨-, roll, -⟩ := Connection.dispatch_call dispatched
      intro other answered
      refine serve_answers c { s with conn } ticket method params other ?_
      rw [Connection.answers_eq_roll, roll, List.map_append, ← Connection.answers_eq_roll,
        List.getElem?_append_left (List.getElem?_eq_some_iff.mp answered).1]
      exact answered

/-- What answering the calls of some tickets leaves answered. -/
structure Settles (s : Session) (entries : List (Nat × Nat)) (s' : Session) : Prop where
  workspace : s'.workspace = s.workspace
  length : s'.conn.answers.length = s.conn.answers.length
  answers : Answers s.conn s'.conn
  replied : ∀ entry ∈ entries, isReplied s.workspace entry.1 = true →
    entry.2 < s.conn.answers.length → s'.conn.answers[entry.2]? = some true

theorem Settles.cons {mid : Session} {entry : Nat × Nat} {rest : List (Nat × Nat)}
    (first : Settles s [entry] mid) (later : Settles mid rest s') : Settles s (entry :: rest) s' where
  workspace := later.workspace.trans first.workspace
  length := later.length.trans first.length
  answers ticket answered := later.answers ticket (first.answers ticket answered)
  replied other member replied within := by
    rcases List.mem_cons.mp member with rfl | member
    · exact later.answers _ (first.replied other List.mem_cons_self replied within)
    · exact later.replied other member (first.workspace ▸ replied) (first.length ▸ within)

theorem replyAll_settles (s : Session) : Settles { s with tickets := [] } s.tickets s.replyAll := by
  unfold replyAll
  -- The list of tickets is gone through in order, from a session that has none left.
  generalize { s with tickets := [] } = start
  generalize s.tickets = entries
  induction entries generalizing start with
  | nil => exact ⟨rfl, rfl, fun _ => id, by simp⟩
  | cons entry rest ih =>
    refine Settles.cons ?_ (ih _)
    obtain ⟨number, ticket⟩ := entry
    dsimp only
    split
    · rename_i outcome complete
      have answers := (start.conn.reply_answers ticket outcome).1
      refine ⟨rfl, by rw [answers, List.length_set], reply_answers_of _ _ _, ?_⟩
      intro other member _ within
      rw [List.mem_singleton.mp member] at within ⊢
      simp [answers, within]
    · rename_i unfinished
      refine ⟨rfl, rfl, fun _ => id, fun other member replied _ => ?_⟩
      obtain ⟨outcome, found⟩ := finished_of_isReplied replied
      rw [List.mem_singleton.mp member] at found
      exact absurd (by rw [found]; rfl) (unfinished outcome)

/-! ### Calls that tasks are to answer -/

def Owed (s : Session) (number ticket : Nat) : Prop :=
  (number, ticket) ∈ s.tickets ∨ s.conn.answers[ticket]? = some true

theorem Owed.relay (owed : Owed s number ticket) (tidy : Tidy s) : Owed s.relay number ticket := by
  have sends := settled_sends promptCollaborators s
  have taken := takeAnswers_answered s.settled
  have spec := replyAll_spec s.settled.takeAnswers
  have settles := replyAll_settles s.settled.takeAnswers
  have last := passCancellations_cancels s.settled.takeAnswers.replyAll
  have answers : s.settled.takeAnswers.conn.answers = s.conn.answers := by
    rw [taken.conn]
    exact sends.conn.answers
  have conn : s.relay.conn = s.settled.takeAnswers.replyAll.conn := last.conn
  have tickets : s.relay.tickets = s.settled.takeAnswers.replyAll.tickets := last.tickets
  rcases owed with listed | answered
  · have still : (number, ticket) ∈ s.settled.takeAnswers.tickets := by
      rw [taken.tickets]
      exact sends.tickets ▸ listed
    have within := (List.getElem?_eq_some_iff.mp (tidy.unanswered _ listed)).1
    cases replied : isReplied s.settled.takeAnswers.workspace number with
    | false =>
      refine .inl ?_
      rw [tickets, spec.tickets, List.nil_append]
      exact List.mem_filter.mpr ⟨still, by simp [replied]⟩
    | true =>
      refine .inr ?_
      rw [conn]
      exact settles.replied _ still replied (answers ▸ within)
  · refine .inr ?_
    rw [conn]
    exact settles.answers ticket (answers ▸ answered)

theorem Owed.act (owed : Owed s number ticket) (tidy : Tidy s) (move : Move) :
    Owed (s.act c move) number ticket := by
  cases move with
  | within move =>
    simp only [Session.act]
    split <;> exact owed
  | receive =>
    simp only [Session.act]
    split
    · rename_i arrival intake _
      rcases owed with listed | answered
      · have read : Tidy { s with intake } := tidy.congr tidy.sound tidy.clean rfl rfl
        exact .inl ((read.receive (c := c) arrival).kept _ listed)
      · exact .inr (receive_answers { s with intake } arrival ticket answered)
    · exact owed
  | relay => exact owed.relay tidy
  | _ => exact owed

theorem Owed.play (owed : Owed s number ticket) (tidy : Tidy s) (moves : List Move) :
    Owed (s.play c moves) number ticket := by
  induction moves generalizing s with
  | nil => exact owed
  | cons move rest ih => exact ih (owed.act tidy move) (tidy.act move).tidy

/-! ### The course of the workspace -/

theorem Tidy.follows (tidy : Tidy s) (moves : List Move) :
    Follows c s.workspace (s.play c moves).workspace := by
  induction moves generalizing s with
  | nil => exact .refl _
  | cons move rest ih =>
    have course := tidy.act (c := c) move
    exact course.follows.trans (ih course.tidy)

theorem Follows.petition {w w' : Workspace} (follows : Follows c w w') (sound : w.Sound)
    (petition : Petition w number) : Petition w' number := by
  obtain ⟨moves, ours, rfl⟩ := follows
  exact petition.play sound ours

/--
A shutdown is answered when all has come to rest, unless the editor has left a question unanswered.

From the start of a session on, anything may happen in any order, before and after the request comes
in one of the stages that it is accepted in. Where no task can go on and nobody waits for a time to
come, the request has been answered, unless a pass still waits for a token or a snapshot is held from
outside; and for a request that is dealt with at once, only then. For each token that is waited for, the
editor was sent a call, and has neither accepted nor refused it.
-/
theorem shutdown_answered_unless_held_up (c : Collaborators) (names : Nat → String)
    (supported : Bool) (limit : Nat) (before after : List Move) (number ticket : Nat)
    (accepts : Accepts ((fresh names supported limit).play c before) number ticket)
    (still : Standstill c
      (((fresh names supported limit).play c before).play c after).relay.workspace) :
    let s := (((fresh names supported limit).play c before).play c after).relay
    (s.workspace.awaited = [] → s.workspace.heldOutside = [] →
        s.conn.answers[ticket]? = some true) ∧
      (∀ eager rest, after = .within (.step number eager) :: rest →
        s.conn.answers[ticket]? = some true →
        s.workspace.awaited = [] ∧ s.workspace.heldOutside = []) ∧
      ∀ token ∈ s.workspace.awaited, s.LeftOpen (.create token) := by
  intro s
  let start := (fresh names supported limit).play c before
  have first : Tidy start := (fresh_tidy names supported limit).play before
  have tidy : Tidy s := ((first.play after).act (c := c) .relay).tidy
  have relayed : Relayed s := relay_relayed _
  refine ⟨fun heard outside => ?_, fun eager rest dealt answered => ?_, fun token waits => ?_⟩
  · -- The request has been dealt with, and the answer of its task has passed.
    have course : Follows c start.workspace s.workspace :=
      (first.follows after).trans ((first.play after).act .relay).follows
    have begun : Lifecycle.initializing.rank ≤ start.workspace.lifecycle.rank := by
      rcases accepts.stage with stage | stage <;> simp [start, stage, Lifecycle.rank]
    have petition : Petition s.workspace number :=
      course.petition first.sound (.told accepts.asked begun)
    obtain ⟨moves, -, same⟩ := ((fresh_tidy names supported limit).follows before).trans course
    have attempted : s.workspace.Attempted := same ▸ Workspace.play_attempted names supported limit moves
    have turns : ∀ turn, s.workspace.InTurn turn := fun turn =>
      same ▸ Workspace.play_inTurn names supported limit moves turn
    obtain ⟨outcome, complete⟩ :=
      petition.replied still tidy.sound attempted turns heard outside
    have owed : Owed s number ticket :=
      ((Owed.play (.inl accepts.listed) first after).relay (first.play after))
    rcases owed with listed | answered
    · have unreplied := relayed.owed _ listed
      simp [isReplied, complete, Task.done?] at unreplied
    · exact answered
  · -- Once the request is answered, nothing is referred to.
    subst dealt
    have departing : Departing s number ticket :=
      ((accepts.departing eager).play (first.act _).tidy rest).act (c := c)
        ((first.act _).tidy.play rest) .relay
    exact tidy.sound.custody.unheld (departing.ceased tidy answered).settled.idle
  · have attentive : Attentive s := by
      have all := play_attentive c names supported limit (before ++ after)
      rw [play_append] at all
      exact all.relay
    exact relayed.leftOpen attentive waits (still.unheard waits)

/-- An editor that can show progress, and shuts down as soon as the session has begun. -/
def showingEditor : List Rpc.Message := [
  .call (.number 1) "initialize" (.ofMembers [("rootUri", .str "file:///w"),
    ("capabilities", .ofMembers [("window", .ofMembers [("workDoneProgress", .bool true)])])]),
  .notification "initialized" (.ofMembers []),
  .call (.number 2) "shutdown" .null]

/-- The first pass asks for a token, and then the request to shut down comes. -/
def showingStart : List Move :=
  [.feed (showingEditor.flatMap fun message => Rpc.Frame.write message.encode), .receive, .receive,
    .within (.step 3 false), .within (.step 3 false), .relay, .receive]

/-- The request is accepted and the view let go of; the search for a runner and the worker end. -/
def leavingSteps : List Move := [4, 4, 1, 2].map fun number => .within (.step number false)

/-- The editor refuses the token, and then the pass and the request go on to their ends. -/
def refusingEnd : List Move :=
  [.feed (Rpc.Frame.write (Rpc.Message.response (some (.number 1))
      (.error (.methodNotFound "window/workDoneProgress/create"))).encode), .receive, .relay] ++
    [3, 3, 3, 4, 0].map fun number => .within (.step number false)

set_option maxRecDepth 8000 in
/-- An editor that refuses the token has its request to shut down answered. -/
theorem refusing_editor_is_answered :
    let s := (((fresh (fun _ => "t") false 1).play promptCollaborators showingStart).play
      promptCollaborators (leavingSteps ++ refusingEnd)).relay
    Standstill promptCollaborators s.workspace ∧ s.conn.answers[1]? = some true := by
  intro s
  obtain ⟨still, heard, outside⟩ : Standstill promptCollaborators s.workspace ∧
      s.workspace.awaited.length = 0 ∧ s.workspace.heldOutside.length = 0 := by decide +kernel
  have accepts : Accepts ((fresh (fun _ => "t") false 1).play promptCollaborators showingStart) 4 1 :=
    ⟨rfl, List.mem_singleton.mpr rfl, .inr rfl⟩
  exact ⟨still, (shutdown_answered_unless_held_up promptCollaborators (fun _ => "t") false 1
    showingStart (leavingSteps ++ refusingEnd) 4 1 accepts still).1
      (List.eq_nil_of_length_eq_zero heard) (List.eq_nil_of_length_eq_zero outside)⟩

set_option maxRecDepth 8000 in
/-- An editor that never answers the call for a token never has its request to shut down answered:
no task can go on, no time is waited for, no snapshot is held from outside, and the request is open. -/
theorem reticent_editor_is_not_answered :
    let start := (fresh (fun _ => "t") false 1).play promptCollaborators showingStart
    let s := (start.play promptCollaborators leavingSteps).relay
    Accepts start 4 1 ∧ Standstill promptCollaborators s.workspace ∧
      s.workspace.heldOutside.length = 0 ∧ s.conn.answers[1]? = some false := by
  intro start s
  refine ⟨⟨rfl, List.mem_singleton.mpr rfl, .inr rfl⟩, ?_⟩
  decide +kernel

end PolicyServer.Session
