import PolicyServer.Proofs.Rpc.Account
import PolicyServer.Proofs.Session.Tickets

/-! Every call of the editor is answered once: at once, or by the task that has its ticket. -/

namespace PolicyServer

def Rpc.Message.callId? : Rpc.Message → Option Rpc.Id
  | .call id _ _ => some id
  | _ => none

namespace Session

open Rpc (Connection)
open Rpc.Connection (Unanswering openIds)

variable {c : Collaborators} {s s' : Session} {quiet : Prop} {received : List Rpc.Id}

def messageIn (s : Session) : Move → List Rpc.Message
  | .receive =>
    match s.intake.next? with
    | some (.message message, _) => [message]
    | _ => []
  | _ => []

/-- The messages taken in in the course of some moves, in order. -/
def messagesIn (c : Collaborators) : Session → List Move → List Rpc.Message
  | _, [] => []
  | s, move :: rest => s.messageIn move ++ messagesIn c (s.act c move) rest

def promised (s : Session) : Multiset Rpc.Id :=
  s.tickets.filterMap fun entry => (s.conn.inbound[entry.2]?).map (·.id)

/--
All calls that were received are accounted for, and those that are not answered have tickets.

No call is dropped, so that no refusal waits in the backlog.
-/
structure Accounted (s : Session) (received : List Rpc.Id) : Prop where
  account : s.conn.Accounts received
  unrefused : s.conn.refusals = 0
  listed : ∀ {ticket : Nat}, s.conn.answers[ticket]? = some false → ticket ∈ s.tickets.map (·.2)

theorem Accounted.aside (accounted : Accounted s received)
    (same : Unanswering quiet s.conn s'.conn) (tickets : s'.tickets = s.tickets) :
    Accounted s' received where
  account := same.accounts accounted.account
  unrefused := by
    have fewer := same.refusals
    rw [accounted.unrefused] at fewer
    exact Multiset.le_zero.mp fewer
  listed {ticket} waits := by
    rw [same.answers] at waits
    rw [tickets]
    exact accounted.listed waits

theorem Carried.accounted (carried : Carried c s s') (accounted : Accounted s received) :
    Accounted s' received := by
  have same : Unanswering False s.conn s'.conn := by
    rw [carried.conn]
    exact .refl _
  exact accounted.aside same carried.tickets

theorem Accounted.reply (accounted : Accounted s received) {ticket : Nat}
    {outcome : Except Rpc.Error Json} (conn : s'.conn = s.conn.reply ticket outcome)
    (kept : ∀ other ∈ s.tickets.map (·.2), other ≠ ticket → other ∈ s'.tickets.map (·.2)) :
    Accounted s' received := by
  obtain ⟨answers, backlog, -⟩ := s.conn.reply_answers ticket outcome
  have account : (s.conn.act (.reply ticket outcome)).Accounts (received ++ []) :=
    accounted.account.act (by simp)
  rw [List.append_nil] at account
  refine ⟨conn ▸ account, ?_, fun {other} waits => ?_⟩
  · rw [conn, Connection.refusals, backlog]
    exact accounted.unrefused
  · -- A call that is still open is not the one just answered, so it was open before.
    rw [conn, answers, List.getElem?_set] at waits
    split at waits
    · split at waits <;> cases waits
    · rename_i apart
      exact kept other (accounted.listed waits) (Ne.symm apart)

theorem Accounted.replyAll (accounted : Accounted s received) : Accounted s.replyAll received := by
  -- While the tickets are gone through, those not looked at yet count as listed.
  have before : ∀ start : Session, start = { s with tickets := [] } →
      Accounted { start with tickets := start.tickets ++ s.tickets } received := by
    rintro start rfl
    exact accounted
  unfold Session.replyAll
  generalize { s with tickets := [] } = start at before ⊢
  replace before := before start rfl
  generalize s.tickets = entries at before ⊢
  induction entries generalizing start with
  | nil => simpa using before
  | cons entry rest ih =>
    refine ih _ ?_
    dsimp only
    split
    · -- The call is answered, so the account needs the other tickets only.
      refine before.reply rfl fun other member apart => ?_
      simp only [List.map_append, List.map_cons, List.mem_append, List.mem_cons] at member ⊢
      rcases member with earlier | same | later
      · exact .inl earlier
      · exact absurd same apart
      · exact .inr later
    · simpa using before

theorem Accounted.relay (c : Collaborators) (accounted : Accounted s received) :
    Accounted s.relay received := by
  -- Sending answers nobody; then the tasks that are over do.
  have sends := settled_sends c s
  have flushed : Accounted { s with workspace := s.workspace.act c .flush } received :=
    ⟨accounted.account, accounted.unrefused, accounted.listed⟩
  have settled := flushed.aside sends.conn sends.tickets
  have replied := ((takeAnswers_carried (c := c) _).accounted settled).replyAll
  exact ((passCancellations_carried (c := c) _).trans (noteLink_carried _)).accounted replied

theorem Accounted.accept (accounted : Accounted s received) {conn : Connection} {ticket : Nat}
    {id : Rpc.Id} (last : ticket = s.conn.roll.length)
    (roll : conn.roll = s.conn.roll ++ [(id, false)]) (backlog : conn.backlog = s.conn.backlog)
    (written : conn.written = s.conn.written) (broken : conn.broken = s.conn.broken) (number : Nat) :
    Accounted { s with conn, tickets := s.tickets ++ [(number, ticket)] } (received ++ [id]) := by
  refine ⟨accounted.account.accept roll backlog written broken, ?_, fun {other} waits => ?_⟩
  · show conn.refusals = 0
    rw [Connection.refusals, backlog]
    exact accounted.unrefused
  · have waits : (s.conn.answers ++ [false])[other]? = some false := by
      rw [← waits, Connection.answers_eq_roll, Connection.answers_eq_roll, roll, List.map_append]
      rfl
    have length : s.conn.answers.length = ticket := by
      rw [last, Connection.answers_eq_roll, List.length_map]
    -- The call is one of those before, or the new one.
    simp only [List.map_append, List.mem_append]
    rcases Nat.lt_or_ge other s.conn.answers.length with before | after
    · rw [List.getElem?_append_left before] at waits
      exact .inl (accounted.listed waits)
    · have within := (List.getElem?_eq_some_iff.mp waits).1
      simp only [List.length_append, List.length_cons, List.length_nil] at within
      have same : other = ticket := by omega
      simp [same]

theorem Accounted.serve {ticket : Nat} (c : Collaborators) (method : String) (params : Json)
    (accounted : ∀ number, Accounted { s with tickets := s.tickets ++ [(number, ticket)] } received) :
    Accounted (s.serve c ticket method params) received := by
  have atOnce : ∀ outcome workspace,
      Accounted { s with workspace, conn := s.conn.reply ticket outcome } received := by
    intro outcome workspace
    refine (accounted 0).reply rfl fun other member apart => ?_
    simpa [apart] using member
  unfold Session.serve
  split
  · exact atOnce _ s.workspace
  · exact atOnce _ s.workspace
  · exact atOnce _ _
  · exact atOnce _ s.workspace
  -- A task that is started for a call has its ticket.
  · obtain ⟨account, unrefused, listed⟩ := accounted s.workspace.tasks.length
    exact ⟨account, unrefused, listed⟩
  · obtain ⟨account, unrefused, listed⟩ := accounted s.workspace.tasks.length
    exact ⟨account, unrefused, listed⟩

theorem receive_notification (s : Session) (method : String) (params : Json) :
    (s.receive c (.message (.notification method params))).conn =
        (s.conn.dispatch (.notification method params)).2 ∧
      (s.receive c (.message (.notification method params))).tickets = s.tickets := by
  simp only [Session.receive, Connection.dispatch]
  by_cases own : method = Connection.cancelMethod
  · simp only [own, if_true]
    exact ⟨trivial, trivial⟩
  · -- All else is for the workspace alone.
    simp only [own, if_false, Session.hear]
    split <;> exact ⟨rfl, rfl⟩

def callsOf : Rpc.Arrival → List Rpc.Id
  | .message message => message.callId?.toList
  | .last _ => []

theorem Accounted.receive (accounted : Accounted s received) (arrival : Rpc.Arrival) :
    Accounted (s.receive c arrival) (received ++ callsOf arrival) := by
  cases arrival with
  | last ending =>
    rw [callsOf, List.append_nil]
    have same : Unanswering False s.conn s.conn.close := Connection.close_unanswering s.conn
    exact accounted.aside same rfl
  | message message =>
    cases message with
    | call id method params =>
      -- The call is taken, and then answered or left to a task.
      have taken : s.conn.dispatch (.call id method params) =
        (some (.call s.conn.inbound.length id method params), _) := rfl
      obtain ⟨last, roll, backlog, written, broken⟩ := Connection.dispatch_call taken
      exact Accounted.serve c method params (accounted.accept last roll backlog written broken)
    | notification method params =>
      obtain ⟨conn, tickets⟩ := receive_notification (c := c) s method params
      obtain ⟨roll, backlog, written, broken⟩ := s.conn.dispatch_notification method params
      rw [← conn] at roll backlog written broken
      have same : Unanswering False s.conn _ := .of_eq roll backlog written broken
      exact (List.append_nil received).symm ▸ accounted.aside same tickets
    | response id outcome =>
      have same : Unanswering False s.conn (s.conn.dispatch (.response id outcome)).2 :=
        Connection.dispatch_unanswering (Prod.ext rfl rfl) fun _ _ _ _ => nofun
      exact (List.append_nil received).symm ▸ accounted.aside same rfl

theorem Accounted.act (accounted : Accounted s received) {move : Move} (steady : move ≠ .hangUp) :
    Accounted (s.act c move) (received ++ (s.messageIn move).filterMap Rpc.Message.callId?) := by
  -- Whatever concerns neither connection nor tickets changes nothing.
  have aside : ∀ other : Session, other.conn = s.conn → other.tickets = s.tickets →
      Accounted other (received ++ []) := by
    intro other conn tickets
    rw [List.append_nil]
    exact ⟨conn ▸ accounted.account, conn ▸ accounted.unrefused,
      fun waits => tickets ▸ accounted.listed (conn ▸ waits)⟩
  cases move with
  | within move =>
    refine aside _ ?_ ?_ <;> simp only [Session.act] <;> split <;> rfl
  | feed chunk => exact aside _ rfl rfl
  | finish => exact aside _ rfl rfl
  | hangUp => exact absurd rfl steady
  | receive =>
    simp only [Session.act, messageIn]
    cases arrived : s.intake.next? with
    | none => exact aside _ rfl rfl
    | some pair =>
      obtain ⟨arrival, intake⟩ := pair
      have read : Accounted { s with intake } received :=
        ⟨accounted.account, accounted.unrefused, accounted.listed⟩
      have taken := read.receive (c := c) arrival
      cases arrival with
      | last ending => exact taken
      | message message => cases message <;> exact taken
  | relay => exact (List.append_nil received).symm ▸ accounted.relay c

theorem Accounted.play (accounted : Accounted s received) {moves : List Move}
    (steady : ∀ move ∈ moves, move ≠ .hangUp) :
    Accounted (s.play c moves)
      (received ++ (s.messagesIn c moves).filterMap Rpc.Message.callId?) := by
  induction moves generalizing s received with
  | nil => simpa [messagesIn, Session.play] using accounted
  | cons move rest ih =>
    have first := accounted.act (c := c) (steady move List.mem_cons_self)
    have later := ih first fun other member => steady other (List.mem_cons_of_mem _ member)
    rw [List.append_assoc, ← List.filterMap_append] at later
    exact later

theorem fresh_accounted (names : Nat → String) (supported : Bool) (limit : Nat) :
    Accounted (fresh names supported limit) [] :=
  ⟨Connection.fresh_accounts, rfl, by simp [fresh, Connection.answers]⟩

/-! ### Tickets and open calls -/

theorem openIds_eq_places (roll : List (Rpc.Id × Bool)) :
    openIds roll = (((List.range roll.length).filter fun place =>
      decide ((roll.map (·.2))[place]? = some false)).filterMap fun place =>
        (roll[place]?).map (·.1) : List Rpc.Id) := by
  -- The first call has the place 0, and the others have the places after it.
  unfold openIds
  congr 1
  induction roll with
  | nil => rfl
  | cons entry rest ih =>
    obtain ⟨id, complete⟩ := entry
    cases complete <;>
      simp [List.range_succ_eq_map, List.filter_map, List.filterMap_map,
        Function.comp_def, ih]

theorem Accounted.openIds_eq (accounted : Accounted s received) (tidy : Tidy s) :
    openIds s.conn.roll = s.promised := by
  -- Both lists of places have the same members, and none twice.
  have places : ((List.range s.conn.roll.length).filter fun place =>
      decide ((s.conn.roll.map (·.2))[place]? = some false)).Perm (s.tickets.map (·.2)) := by
    refine (List.perm_ext_iff_of_nodup (List.nodup_range.filter _) tidy.distinct).mpr fun place => ?_
    rw [List.mem_filter, List.mem_range, decide_eq_true_iff, ← Connection.answers_eq_roll]
    constructor
    · rintro ⟨-, waits⟩
      exact accounted.listed waits
    · intro member
      obtain ⟨entry, listed, rfl⟩ := List.mem_map.mp member
      have waits := tidy.unanswered entry listed
      have within := (List.getElem?_eq_some_iff.mp waits).1
      rw [Connection.answers_eq_roll, List.length_map] at within
      exact ⟨within, waits⟩
  rw [openIds_eq_places, promised]
  refine Quot.sound ((places.filterMap _).trans ?_)
  simp [Connection.roll, Function.comp_def]

theorem Accounted.unanswered_eq (accounted : Accounted s received) (tidy : Tidy s) :
    s.conn.unanswered = s.promised.map some := by
  rw [Connection.unanswered, accounted.unrefused, add_zero, accounted.openIds_eq tidy]

theorem receive_of_notification (c : Collaborators) (s : Session) {method : String} {params : Json}
    (told : s.messageIn .receive = [.notification method params]) :
    (s.act c .receive).conn.written = s.conn.written ∧
      (s.act c .receive).conn.unanswered = s.conn.unanswered := by
  simp only [messageIn, Session.act] at told ⊢
  cases arrived : s.intake.next? with
  | none => simp [arrived] at told
  | some pair =>
    obtain ⟨arrival, intake⟩ := pair
    cases arrival with
    | last ending => simp [arrived] at told
    | message message =>
      simp only [arrived, List.cons.injEq, and_true] at told
      subst told
      -- The connection is left as sorting the notification leaves it.
      obtain ⟨conn, -⟩ := receive_notification (c := c) { s with intake } method params
      obtain ⟨roll, backlog, written, -⟩ := s.conn.dispatch_notification method params
      rw [← conn] at roll backlog written
      exact ⟨written, Connection.unanswered_congr roll backlog⟩

/--
Every call of the peer is answered once, or is still to be.

On a connection that can be written to, whatever its owner does with the calls it is handed: counted
with their multiplicity, the identifiers in the responses and those of the calls without a response
are those of the calls received. In a session, where tasks are over in any order, the calls without a
response are those that tasks are to answer. And what the peer merely tells brings about no response.
-/
theorem calls_answered_or_open :
    (∀ moves : List Connection.Move, (∀ move ∈ moves, move ≠ .link true) →
      (Connection.play {} moves).responses + (Connection.play {} moves).unanswered =
        (Connection.callsIn {} moves : Multiset Rpc.Id).map some) ∧
    (∀ (c : Collaborators) (names : Nat → String) (supported : Bool) (limit : Nat)
      (moves : List Move), (∀ move ∈ moves, move ≠ .hangUp) →
      let s := (fresh names supported limit).play c moves
      let received := ((fresh names supported limit).messagesIn c moves).filterMap
        Rpc.Message.callId?
      s.conn.responses + s.conn.unanswered = (received : Multiset Rpc.Id).map some ∧
        s.conn.unanswered = s.promised.map some) ∧
    (∀ (conn : Connection) (method : String) (params : Json),
      (conn.dispatch (.notification method params)).2.written = conn.written ∧
        (conn.dispatch (.notification method params)).2.unanswered = conn.unanswered) ∧
    ∀ (c : Collaborators) (s : Session) (method : String) (params : Json),
      s.messageIn .receive = [.notification method params] →
      (s.act c .receive).conn.written = s.conn.written ∧
        (s.act c .receive).conn.unanswered = s.conn.unanswered := by
  refine ⟨fun moves steady => ?_, fun c names supported limit moves steady => ?_,
    fun conn method params => ?_, fun c s method params told => receive_of_notification c s told⟩
  · exact (Connection.fresh_accounts.play steady).told
  · have accounted := (fresh_accounted names supported limit).play (c := c) steady
    have tidy : Tidy ((fresh names supported limit).play c moves) :=
      (fresh_tidy names supported limit).play moves
    exact ⟨accounted.account.told, accounted.unanswered_eq tidy⟩
  · obtain ⟨roll, backlog, written, -⟩ := conn.dispatch_notification method params
    exact ⟨written, Connection.unanswered_congr roll backlog⟩

/-- A peer that uses one identifier for three calls, of which one is dropped, one cancelled and then
answered, and one left open when the peer stops sending. -/
def repetitivePeer : List Connection.Move := [
  .receive (.call (.number 7) "a" .null), .receive (.call (.number 7) "b" .null), .abandon 0,
  .receive (.notification "$/cancelRequest" (.obj [("id", .int 7)])),
  .receive (.call (.number 7) "c" .null), .reply 1 (.error .requestCancelled), .reply 1 (.ok .null),
  .flush 0, .close]

/-- An editor that asks for something unknown and tells something unknown, and then leaves before a
session is set up; both calls have one identifier. -/
def lostEditor : List Rpc.Message := [.call (.number 7) "a" .null, .notification "b" .null,
  .call (.number 7) "shutdown" .null]

/-- All that the editor says has been dealt with, and no task has gone on yet. -/
def lostStart : List Move := [.feed (lostEditor.flatMap fun message => Rpc.Frame.write message.encode),
  .finish, .receive, .receive, .receive, .receive]

/-- Each response has its call: two of the peer's three calls have one, and one of the editor's two
until the other's task is over. -/
theorem repeated_id_is_answered_for_each_call :
    let conn := Connection.play {} repetitivePeer
    let s := (fresh (fun _ => "") false 1).play promptCollaborators lostStart
    conn.responses = {some (.number 7), some (.number 7)} ∧
      conn.responses + conn.unanswered = Multiset.replicate 3 (some (.number 7)) ∧
      s.conn.responses = {some (.number 7)} ∧
      s.conn.responses + s.promised.map some = Multiset.replicate 2 (some (.number 7)) := by
  intro conn s
  obtain ⟨ofPeer, ofEditor, -⟩ := calls_answered_or_open
  have told := ofPeer repetitivePeer (by simp [repetitivePeer])
  obtain ⟨told', promised⟩ :=
    ofEditor promptCollaborators (fun _ => "") false 1 lostStart (by simp [lostStart])
  refine ⟨by decide +kernel, told.trans (by decide +kernel), by decide +kernel, ?_⟩
  rw [← promised]
  exact told'.trans (by decide +kernel)

end Session

end PolicyServer
