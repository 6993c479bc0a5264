import PolicyServer.Proofs.Rpc.Answers

/-! The calls taken from the peer are those that were answered and those that are still to be. -/

namespace PolicyServer.Rpc.Connection

variable {conn conn' : Connection} {quiet : Prop} {received : List Id}

/-- The identifiers of the calls in a roll that are not answered. -/
def openIds (roll : List (Id × Bool)) : Multiset Id := (roll.filter (!·.2)).map (·.1)

/-- The identifiers of the calls to which the peer has no response: nobody has answered them, or the
refusal of a call that was dropped is not written yet. -/
def unanswered (conn : Connection) : Multiset (Option Id) :=
  (openIds conn.roll).map some + conn.refusals

theorem unanswered_congr (roll : conn'.roll = conn.roll) (backlog : conn'.backlog = conn.backlog) :
    conn'.unanswered = conn.unanswered := by
  rw [unanswered, unanswered, roll, refusals, refusals, backlog]

theorem openIds_append (roll : List (Id × Bool)) (id : Id) :
    openIds (roll ++ [(id, false)]) = openIds roll + {id} := by
  simp only [openIds, List.filter_append, List.map_append]
  rfl

theorem openIds_set {roll : List (Id × Bool)} {ticket : Nat} {id : Id}
    (found : roll[ticket]? = some (id, false)) :
    openIds roll = id ::ₘ openIds (roll.set ticket (id, true)) := by
  obtain ⟨before, after, rfl, set⟩ := split_set found
  simp [openIds, set]

/--
All calls that were received are accounted for.

The peer takes bytes, and each call has its response, or is still to have it.
-/
structure Accounts (conn : Connection) (received : List Id) : Prop where
  whole : conn.broken = false
  told : conn.responses + conn.unanswered = (received : Multiset Id).map some

theorem Unanswering.accounts (same : Unanswering quiet conn conn')
    (account : conn.Accounts received) : conn'.Accounts received := by
  refine ⟨same.linked.trans account.whole, ?_⟩
  have moved := same.told account.whole
  calc conn'.responses + conn'.unanswered
      = (openIds conn.roll).map some + (conn'.responses + conn'.refusals) := by
        rw [unanswered, same.roll, add_left_comm]
    _ = conn.responses + conn.unanswered := by rw [moved, unanswered, add_left_comm]
    _ = _ := account.told

theorem Accounts.accept (account : conn.Accounts received) {id : Id}
    (roll : conn'.roll = conn.roll ++ [(id, false)]) (backlog : conn'.backlog = conn.backlog)
    (written : conn'.written = conn.written) (broken : conn'.broken = conn.broken) :
    conn'.Accounts (received ++ [id]) := by
  refine ⟨broken.trans account.whole, ?_⟩
  have grown : conn'.unanswered = conn.unanswered + {some id} := by
    rw [unanswered, roll, openIds_append, Multiset.map_add, Connection.refusals, backlog,
      Multiset.map_singleton, add_right_comm]
    rfl
  have same : conn'.responses = conn.responses := by rw [responses, responses, written]
  rw [same, grown, ← add_assoc, account.told, ← Multiset.coe_add, Multiset.map_add]
  rfl

theorem roll_getElem? {ticket : Nat} {call : InboundCall}
    (found : conn.inbound[ticket]? = some call) (fresh : call.answered = false) :
    conn.roll[ticket]? = some (call.id, false) := by
  simp [roll, found, fresh]

theorem Accounts.retire (account : conn.Accounts received) {ticket : Nat} {call : InboundCall}
    (found : conn.inbound[ticket]? = some call) (fresh : call.answered = false) :
    conn.responses + {some call.id} +
        ((openIds (conn.retire ticket call.id).roll).map some + conn.refusals) =
      (received : Multiset Id).map some := by
  have marked : openIds conn.roll = call.id ::ₘ openIds (conn.retire ticket call.id).roll := by
    rw [roll_retire found]
    exact openIds_set (roll_getElem? found fresh)
  rw [← account.told, unanswered, marked, Multiset.map_cons, ← Multiset.singleton_add, add_assoc,
    add_assoc]

theorem Accounts.answer (account : conn.Accounts received) {ticket : Nat} {call : InboundCall}
    (found : conn.inbound[ticket]? = some call) (fresh : call.answered = false)
    (outcome : Except Error Json) :
    ((conn.retire ticket call.id).writeIfOpen (.response (some call.id) outcome)).Accounts
      received := by
  obtain ⟨roll, backlog, broken⟩ :=
    writeIfOpen_aside (conn.retire ticket call.id) (.response (some call.id) outcome)
  refine ⟨broken.trans account.whole, ?_⟩
  rw [responses_writeIfOpen (conn.retire ticket call.id) _ account.whole, unanswered, roll,
    Connection.refusals, backlog]
  exact account.retire found fresh

theorem Accounts.abandon (account : conn.Accounts received) {ticket : Nat} {call : InboundCall}
    (found : conn.inbound[ticket]? = some call) (fresh : call.answered = false) {refusal : Error} :
    Accounts { conn.retire ticket call.id with
      backlog := conn.backlog ++ [.response (some call.id) (.error refusal)] } received := by
  refine ⟨account.whole, ?_⟩
  -- What is wanting is not written yet, but it is in the backlog.
  have joined : ((conn.backlog ++ [Message.response (some call.id) (.error refusal)]).filterMap
      Message.responseId? : Multiset (Option Id)) = conn.refusals + {some call.id} := by
    rw [List.filterMap_append, ← Multiset.coe_add]
    rfl
  let left := (openIds (conn.retire ticket call.id).roll).map some
  calc _ = conn.responses + (left + (conn.refusals + {some call.id})) :=
        congrArg (fun waiting => conn.responses + (left + waiting)) joined
    _ = conn.responses + {some call.id} + (left + conn.refusals) := by ac_rfl
    _ = _ := account.retire found fresh

/-! ### Runs -/

/-- The identifier of the call that a move brings, if it brings one. -/
def callIn (conn : Connection) : Move → List Id
  | .receive (.call id _ _) => if conn.closed then [] else [id]
  | _ => []

/-- The identifiers of the calls received in the course of some moves, in order. -/
def callsIn : Connection → List Move → List Id
  | _, [] => []
  | conn, move :: rest => conn.callIn move ++ callsIn (conn.act move) rest

theorem Accounts.act (account : conn.Accounts received) {move : Move} (steady : move ≠ .link true) :
    (conn.act move).Accounts (received ++ conn.callIn move) := by
  have deed := act_deed conn move
  generalize conn.act move = conn' at deed ⊢
  -- All moves but four answer no call, and take none.
  have aside (none : conn.callIn move = []) (same : Unanswering False conn conn') :
      conn'.Accounts (received ++ conn.callIn move) := by
    rw [none, List.append_nil]
    exact same.accounts account
  cases deed with
  | nothing idle =>
    refine aside ?_ (.refl conn)
    cases move with
    | receive message =>
      cases message with
      | call => exact if_pos idle
      | _ => rfl
    | _ => rfl
  | step found advance => exact aside rfl advance.unanswering
  | close => exact aside rfl (close_unanswering conn)
  | accept id method params reading =>
    -- The call is owed a response from now on.
    have taken : conn.dispatch (.call id method params) =
      (some (.call conn.inbound.length id method params), _) := rfl
    obtain ⟨-, roll, backlog, written, broken⟩ := dispatch_call taken
    simp only [callIn, reading, Bool.false_eq_true, if_false]
    exact account.accept roll backlog written broken
  | cancelInbound method params ticket =>
    exact aside rfl (.of_eq (roll_modifyInbound conn ticket) rfl rfl rfl)
  | reply outcome found fresh =>
    exact (List.append_nil received).symm ▸ account.answer found fresh outcome
  | abandon found fresh => exact (List.append_nil received).symm ▸ account.abandon found fresh
  | link broken =>
    cases broken with
    | true => exact absurd rfl steady
    | false => exact (List.append_nil received).symm ▸ ⟨rfl, account.told⟩
  | flush found => exact aside rfl (flush_unanswering found)
  | notify params => exact aside rfl (.write conn rfl (by simp))
  | _ => exact aside rfl (.of_eq rfl rfl rfl rfl)

theorem fresh_accounts : Accounts {} [] := ⟨rfl, rfl⟩

theorem Accounts.play (account : conn.Accounts received) {moves : List Move}
    (steady : ∀ move ∈ moves, move ≠ .link true) :
    (conn.play moves).Accounts (received ++ conn.callsIn moves) := by
  -- Each move adds the call that it brings to those received before.
  induction moves generalizing conn received with
  | nil => simpa [callsIn, Connection.play] using account
  | cons move rest ih =>
    have first := account.act (steady move List.mem_cons_self)
    have later := ih first fun other member => steady other (List.mem_cons_of_mem _ member)
    rw [List.append_assoc] at later
    exact later

end PolicyServer.Rpc.Connection
