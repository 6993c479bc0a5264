import Mathlib.Algebra.Order.Group.Multiset
import PolicyServer.Proofs.Places
import PolicyServer.Proofs.Rpc.Moves
import PolicyServer.Protocol.Outgoing

/-! Which of the peer's calls are answered, and which diagnostics are published, on a connection. -/

namespace PolicyServer.Rpc

def Message.isPublication : Message → Bool
  | .notification method _ => method = "textDocument/publishDiagnostics"
  | _ => false

/-- The identifier in a response, where null is one too; no other message has any. -/
def Message.responseId? : Message → Option (Option Id)
  | .response id _ => some id
  | _ => none

namespace Connection

variable {conn conn' conn'' : Connection} {quiet : Prop} {message : Message}

def responses (conn : Connection) : Multiset (Option Id) :=
  conn.written.filterMap Message.responseId?

/-- The identifiers in the responses that wait to be written on nobody's behalf. -/
def refusals (conn : Connection) : Multiset (Option Id) :=
  conn.backlog.filterMap Message.responseId?

/-- The calls taken from the peer, oldest first: what each is called, and whether it is answered. -/
def roll (conn : Connection) : List (Id × Bool) :=
  conn.inbound.map fun call => (call.id, call.answered)

/-- Which of the calls taken from the peer are answered, in the order in which they were taken. -/
def answers (conn : Connection) : List Bool := conn.inbound.map (·.answered)

def published (conn : Connection) : List Message := conn.written.filter Message.isPublication

def Clean (conn : Connection) : Prop := ∀ message ∈ conn.backlog, message.isPublication = false

theorem Clean.of_eq (clean : conn.Clean) (backlog : conn'.backlog = conn.backlog) : conn'.Clean := by
  rw [Clean, backlog]
  exact clean

/--
No call is taken or answered, and as long as it is quiet no diagnostics are published.

The backlog stays clean, for what is written from it must publish nothing either. A response that
waits there may be written, but as long as the peer takes bytes none is lost.
-/
structure Unanswering (quiet : Prop) (conn conn' : Connection) : Prop where
  roll : conn'.roll = conn.roll
  clean : conn.Clean → conn'.Clean
  published : quiet → conn.Clean → conn'.published = conn.published
  linked : conn'.broken = conn.broken
  told : conn.broken = false → conn'.responses + conn'.refusals = conn.responses + conn.refusals
  refusals : conn'.refusals ≤ conn.refusals

theorem answers_eq_roll (conn : Connection) : conn.answers = conn.roll.map (·.2) := by
  simp [Connection.answers, Connection.roll]

theorem Unanswering.answers (same : Unanswering quiet conn conn') :
    conn'.answers = conn.answers := by
  rw [answers_eq_roll, answers_eq_roll, same.roll]

theorem Unanswering.refl (conn : Connection) : Unanswering quiet conn conn :=
  ⟨rfl, id, fun _ _ => rfl, rfl, fun _ => rfl, le_refl _⟩

theorem Unanswering.trans (first : Unanswering quiet conn conn')
    (second : Unanswering quiet conn' conn'') : Unanswering quiet conn conn'' where
  roll := second.roll.trans first.roll
  clean tidy := second.clean (first.clean tidy)
  published calm tidy :=
    (second.published calm (first.clean tidy)).trans (first.published calm tidy)
  linked := second.linked.trans first.linked
  told whole := (second.told (first.linked.trans whole)).trans (first.told whole)
  refusals := le_trans second.refusals first.refusals

theorem Unanswering.of_eq (roll : conn'.roll = conn.roll)
    (backlog : conn'.backlog = conn.backlog) (written : conn'.written = conn.written)
    (linked : conn'.broken = conn.broken) : Unanswering quiet conn conn' where
  roll := roll
  clean tidy := tidy.of_eq backlog
  published _ _ := by rw [Connection.published, Connection.published, written]
  linked := linked
  told _ := by
    rw [Connection.responses, Connection.refusals, backlog, written]
    rfl
  refusals := by rw [Connection.refusals, Connection.refusals, backlog]

theorem published_writeIfOpen (other : message.isPublication = false) :
    (conn.writeIfOpen message).published = conn.published := by
  by_cases broken : conn.broken <;>
    simp [writeIfOpen, write, broken, Connection.published, List.filter_append, other]

theorem writeIfOpen_aside (conn : Connection) (message : Message) :
    (conn.writeIfOpen message).roll = conn.roll ∧
      (conn.writeIfOpen message).backlog = conn.backlog ∧
      (conn.writeIfOpen message).broken = conn.broken := by
  by_cases broken : conn.broken <;> simp [writeIfOpen, write, broken, Connection.roll]

theorem responses_writeIfOpen (conn : Connection) (message : Message) (whole : conn.broken = false) :
    (conn.writeIfOpen message).responses =
      conn.responses + (message.responseId?.toList : Multiset (Option Id)) := by
  have shown : List.filterMap Message.responseId? [message] = message.responseId?.toList := by
    cases response : message.responseId? <;> simp [response]
  have taken : (conn.writeIfOpen message).written = conn.written ++ [message] := by
    simp [writeIfOpen, Connection.write, whole]
  rw [Connection.responses, taken, List.filterMap_append, shown]
  rfl

theorem Unanswering.write (conn : Connection) (tells : message.responseId? = none)
    (other : quiet → message.isPublication = false) :
    Unanswering quiet conn (conn.writeIfOpen message) := by
  obtain ⟨roll, backlog, broken⟩ := writeIfOpen_aside conn message
  refine ⟨roll, fun tidy => tidy.of_eq backlog, fun calm _ => published_writeIfOpen (other calm),
    broken, fun whole => ?_, ?_⟩
  · -- What is written is no response, so their number does not grow.
    rw [responses_writeIfOpen conn message whole, tells, Connection.refusals, backlog]
    simp [Connection.refusals]
  · rw [Connection.refusals, backlog]
    exact le_refl _

theorem CallAdvance.unanswering {number : Nat} {call : OutgoingCall}
    (advance : CallAdvance conn number call conn') : Unanswering quiet conn conn' := by
  cases advance with
  | sent =>
    -- What is written is a call, which publishes nothing and is no response.
    refine ⟨rfl, id, fun _ _ => ?_, rfl, fun _ => ?_, le_refl _⟩
    · simp [Connection.published, modifyCall, List.filter_append, Message.isPublication]
    · simp [Connection.responses, Connection.refusals, modifyCall, List.filterMap_append,
        List.filterMap_cons, Message.responseId?]
  | giveUp =>
    -- The notice that joins the backlog goes by a method of its own, and is no response.
    have same : Connection.refusals { conn.finish number (.error .cancelled) with
        backlog := conn.backlog ++ [cancelNotice number] } = conn.refusals := by
      simp [Connection.refusals, cancelNotice, Message.responseId?, List.filterMap_append,
        List.filterMap_cons]
    refine ⟨rfl, fun tidy message member => ?_, fun _ _ => rfl, rfl, fun _ => ?_, le_of_eq same⟩
    · rcases List.mem_append.mp member with before | new
      · exact tidy message before
      · rw [List.mem_singleton.mp new]
        simp [cancelNotice, Message.isPublication, cancelMethod]
    · rw [same]
      rfl
  | _ => exact .of_eq rfl rfl rfl rfl

theorem flush_unanswering {place : Nat} (found : conn.backlog[place]? = some message) :
    Unanswering quiet conn ({ conn with backlog := conn.backlog.eraseIdx place }.writeIfOpen message) := by
  -- The message that is written was in the backlog, and what is left of that was there too.
  obtain ⟨roll, backlog, broken⟩ :=
    writeIfOpen_aside { conn with backlog := conn.backlog.eraseIdx place } message
  -- The backlog is what is left of it and the message that is written.
  have split : conn.refusals =
      (message.responseId?.toList : Multiset (Option Id)) +
        ((conn.backlog.eraseIdx place).filterMap Message.responseId? : Multiset (Option Id)) := by
    obtain ⟨within, here⟩ := List.getElem?_eq_some_iff.mp found
    have perm := (List.getElem_cons_eraseIdx_perm within).symm.filterMap Message.responseId?
    rw [here, List.filterMap_cons] at perm
    cases response : message.responseId? with
    | none => simpa [Connection.refusals, response] using perm
    | some id => simpa [Connection.refusals, response] using perm
  refine ⟨roll, fun tidy other member => ?_, fun _ tidy => ?_, broken, fun whole => ?_, ?_⟩
  · rw [backlog] at member
    exact tidy other (List.mem_of_mem_eraseIdx member)
  · exact published_writeIfOpen (tidy message (List.mem_of_getElem? found))
  · rw [responses_writeIfOpen { conn with backlog := conn.backlog.eraseIdx place } message whole,
      split, Connection.refusals, backlog]
    exact add_assoc conn.responses _ _
  · rw [split, Connection.refusals, backlog]
    exact Multiset.le_add_left _ _

theorem settle_unanswering (conn : Connection) : Unanswering quiet conn conn.settle := by
  -- The steps are taken one by one, as many as there can be.
  have general : ∀ (limit : Nat) (conn : Connection),
      Unanswering quiet conn (conn.settleWithin limit) := by
    intro limit
    induction limit with
    | zero => exact .refl
    | succ limit ih =>
      intro conn
      simp only [settleWithin]
      split
      · exact .refl conn
      · rename_i after stepped
        refine Unanswering.trans ?_ (ih after)
        cases chosen : conn.stepCalls with
        | some next =>
          obtain ⟨number, -, taken⟩ := List.exists_of_findSome?_eq_some chosen
          obtain ⟨call, -, advance⟩ := stepCall_advance taken
          rw [chosen] at stepped
          cases stepped
          exact advance.unanswering
        | none =>
          rw [chosen] at stepped
          obtain ⟨message, found, rfl⟩ := Option.map_eq_some_iff.mp stepped
          exact flush_unanswering found
  exact general _ conn

theorem start_unanswering {method : String} {params : Json} {number : Nat}
    (started : conn.start method params = some (number, conn')) : Unanswering quiet conn conn' := by
  unfold start at started
  split at started
  · cases started
  · cases started
    exact .of_eq rfl rfl rfl rfl

theorem roll_modifyInbound (conn : Connection) (ticket : Nat) :
    (conn.modifyInbound ticket fun call => { call with cancelled := true }).roll = conn.roll :=
  -- The change keeps what the call is called and whether it is answered.
  map_modify_of_eq conn.inbound ticket fun _ => rfl

theorem close_unanswering (conn : Connection) : Unanswering quiet conn conn.close := by
  -- A call that is cancelled stays as unanswered as it was.
  refine .of_eq ?_ rfl rfl rfl
  apply List.ext_getElem?
  intro place
  simp only [Connection.roll, close, List.getElem?_map, List.getElem?_mapIdx]
  cases conn.inbound[place]? with
  | none => rfl
  | some call =>
    by_cases known : conn.incoming.any (·.2 = place) <;> simp [known]

theorem dispatch_call {ticket : Nat} {id : Id} {method : String} {params : Json}
    (dispatched : conn.dispatch message = (some (.call ticket id method params), conn')) :
    ticket = conn.roll.length ∧ conn'.roll = conn.roll ++ [(id, false)] ∧
      conn'.backlog = conn.backlog ∧ conn'.written = conn.written ∧ conn'.broken = conn.broken := by
  cases message with
  | call id method params =>
    cases dispatched
    exact ⟨by simp [Connection.roll], by simp [Connection.roll], rfl, rfl, rfl⟩
  -- Only a call is handed on as one.
  | response id outcome => cases dispatched
  | notification method params =>
    simp only [dispatch] at dispatched
    split at dispatched <;> cases dispatched

theorem dispatch_notification (conn : Connection) (method : String) (params : Json) :
    (conn.dispatch (.notification method params)).2.roll = conn.roll ∧
      (conn.dispatch (.notification method params)).2.backlog = conn.backlog ∧
      (conn.dispatch (.notification method params)).2.written = conn.written ∧
      (conn.dispatch (.notification method params)).2.broken = conn.broken := by
  simp only [dispatch, cancelInbound]
  split
  · -- A cancellation concerns at most one call, which stays unanswered.
    split
    · exact ⟨rfl, rfl, rfl, rfl⟩
    · split
      · exact ⟨rfl, rfl, rfl, rfl⟩
      · exact ⟨roll_modifyInbound conn _, rfl, rfl, rfl⟩
  · exact ⟨rfl, rfl, rfl, rfl⟩

theorem dispatch_unanswering {delivery : Option Delivery}
    (dispatched : conn.dispatch message = (delivery, conn'))
    (other : ∀ ticket id method params, delivery ≠ some (.call ticket id method params)) :
    Unanswering quiet conn conn' := by
  cases message with
  | call id method params =>
    cases dispatched
    exact absurd rfl (other _ _ _ _)
  | response id outcome =>
    cases dispatched
    -- A response concerns the calls made to the peer, not those taken from it.
    unfold deliver
    split
    · exact .refl conn
    · exact .of_eq rfl rfl rfl rfl
  | notification method params =>
    obtain ⟨roll, backlog, written, broken⟩ := conn.dispatch_notification method params
    rw [dispatched] at roll backlog written broken
    exact .of_eq roll backlog written broken

theorem roll_retire {ticket : Nat} {call : InboundCall}
    (found : conn.inbound[ticket]? = some call) :
    (conn.retire ticket call.id).roll = conn.roll.set ticket (call.id, true) := by
  apply List.ext_getElem?
  intro place
  simp only [Connection.roll, retire, modifyInbound, List.getElem?_map, List.getElem?_modify,
    List.getElem?_set, List.length_map]
  by_cases here : ticket = place
  · subst here
    obtain ⟨within, rfl⟩ := List.getElem?_eq_some_iff.mp found
    simp [within]
  · simp [here]

theorem reply_answers (conn : Connection) (ticket : Nat) (outcome : Except Error Json) :
    (conn.reply ticket outcome).answers = conn.answers.set ticket true ∧
      (conn.reply ticket outcome).backlog = conn.backlog ∧
      (conn.reply ticket outcome).published = conn.published := by
  unfold reply
  split
  · -- A call that was never taken cannot be answered.
    rename_i absent
    refine ⟨?_, rfl, rfl⟩
    have outside := List.getElem?_eq_none_iff.mp absent
    rw [List.set_eq_of_length_le (by simpa [Connection.answers] using outside)]
  · rename_i call found
    split
    · -- One that is answered already is not answered again.
      rename_i complete
      refine ⟨?_, rfl, rfl⟩
      have there : conn.answers[ticket]? = some true := by
        simp [Connection.answers, found, complete]
      obtain ⟨within, same⟩ := List.getElem?_eq_some_iff.mp there
      rw [← same, List.set_getElem_self]
    · obtain ⟨roll, backlog, -⟩ :=
        writeIfOpen_aside (conn.retire ticket call.id) (.response (some call.id) outcome)
      refine ⟨?_, backlog, published_writeIfOpen rfl⟩
      -- The call itself is marked, and all others are as before.
      rw [answers_eq_roll, roll, roll_retire found, List.map_set, ← answers_eq_roll]

theorem written_reply {ticket : Nat} {call : InboundCall}
    (found : conn.inbound[ticket]? = some call) (fresh : call.answered = false)
    (whole : conn.broken = false) (outcome : Except Error Json) :
    (conn.reply ticket outcome).written = conn.written ++ [.response (some call.id) outcome] := by
  simp [reply, found, fresh, writeIfOpen, write, retire, modifyInbound, whole]

theorem reply_keeps (conn : Connection) (ticket : Nat) (outcome : Except Error Json) :
    (∀ other, other ≠ ticket → (conn.reply ticket outcome).inbound[other]? = conn.inbound[other]?) ∧
      (conn.reply ticket outcome).broken = conn.broken ∧
      conn.written <+: (conn.reply ticket outcome).written := by
  unfold reply
  split
  · exact ⟨fun _ _ => rfl, rfl, List.prefix_refl _⟩
  · split
    · exact ⟨fun _ _ => rfl, rfl, List.prefix_refl _⟩
    · rename_i call found _
      refine ⟨fun other apart => ?_, (writeIfOpen_aside (conn.retire ticket call.id) _).2.2, ?_⟩
      · by_cases broken : conn.broken <;>
          simp [writeIfOpen, write, retire, modifyInbound, broken, Ne.symm apart]
      · by_cases broken : conn.broken <;>
          simp [writeIfOpen, write, retire, modifyInbound, broken]

end Connection

end PolicyServer.Rpc
