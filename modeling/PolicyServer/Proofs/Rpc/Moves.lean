import Mathlib.Algebra.Group.Nat.Defs
import PolicyServer.Rpc.Connection

/-! What can happen to a connection, in any order, and what of its calls stays whatever happens. -/

namespace PolicyServer.Rpc

/-- What decides over the outcome of calls: a call is registered, or a response is received. -/
inductive Event where
  | registered (number : Nat)
  | response (id : Option Id) (outcome : Except Error Json)

def Event.answer? (id : Id) : Event → Option (Except Error Json)
  | .response (some other) outcome => if other = id then some outcome else none
  | _ => none

def OutgoingCall.isWritten (call : OutgoingCall) : Bool :=
  match call.phase with
  | .sending => false
  | .finished (.error (.send _)) => false
  | _ => true

/-- A call may come to this: to what its slot was filled with, or to nothing. -/
structure OutgoingCall.Comes (call : OutgoingCall) (outcome : Except CallError Json) : Prop where
  running : call.outcome? = none
  out : ({ call with phase := .finished outcome } : OutgoingCall).isWritten = true →
    call.isWritten = true
  result : ∀ value, outcome = .ok value → call.slot = .handed (.ok value)
  refused : ∀ error, outcome = .error (.refused error) → call.slot = .handed (.error error)
  whole : ∀ error, outcome ≠ .error (.result error)

namespace Connection

/--
What can happen to a connection.

A call is made, goes on, or is given up; a message is received; reading ends; the peer takes no bytes,
or takes them again; a message of the backlog is written; and the owner tells something or answers.
-/
inductive Move where
  | start (method : String) (params : Json)
  | step (number : Nat)
  | cancel (number : Nat)
  | receive (message : Message)
  | close
  | link (broken : Bool)
  | flush (place : Nat)
  | notify (method : String) (params : Json)
  | reply (ticket : Nat) (outcome : Except Error Json)
  | abandon (ticket : Nat)

/-- The connection after a move; one that is not possible changes nothing. Nothing is received once
reading has ended, and only the connection itself tells of calls that are given up. -/
def act (conn : Connection) : Move → Connection
  | .start method params => ((conn.start method params).map (·.2)).getD conn
  | .step number => (conn.stepCall number).getD conn
  | .cancel number => conn.cancel number
  | .receive message => if conn.closed then conn else (conn.dispatch message).2
  | .close => conn.close
  | .link broken => { conn with broken }
  | .flush place => (conn.stepBacklog place).getD conn
  | .notify method params =>
    if method = cancelMethod then conn
    else
      match conn.notify method params with
      | .ok (_, conn) => conn
      | .error _ => conn
  | .reply ticket outcome => conn.reply ticket outcome
  | .abandon ticket => conn.abandon ticket

def play (conn : Connection) (moves : List Move) : Connection := moves.foldl act conn

def events (conn : Connection) : Move → List Event
  | .start _ _ => if conn.closed then [] else [.registered conn.calls.length]
  | .receive (.response id outcome) => if conn.closed then [] else [.response id outcome]
  | _ => []

/-- What decides over the outcome of calls in the course of some moves, in order. -/
def history : Connection → List Move → List Event
  | _, [] => []
  | conn, move :: rest => conn.events move ++ history (conn.act move) rest

/-- What the first response says that has the identifier of a call and comes after the call was
registered. -/
def answerTo (number : Nat) : List Event → Option (Except Error Json)
  | [] => none
  | .registered other :: rest =>
    if other = number then rest.findSome? (Event.answer? (callId number)) else answerTo number rest
  | .response _ _ :: rest => answerTo number rest

variable {conn conn' : Connection} {log : List Event} {number : Nat} {call : OutgoingCall}

theorem answerTo_append (known : .registered number ∈ log) (more : List Event) :
    answerTo number (log ++ more) =
      (answerTo number log).or (more.findSome? (Event.answer? (callId number))) := by
  -- The events before the call is registered are passed over, and those after it are searched.
  induction log with
  | nil => cases known
  | cons event rest ih =>
    cases event with
    | registered other =>
      simp only [List.cons_append, answerTo]
      split
      · rw [List.findSome?_append]
      · rename_i apart
        refine ih ?_
        rcases List.mem_cons.mp known with same | later
        · cases same
          exact absurd rfl apart
        · exact later
    | response id outcome =>
      refine ih ?_
      rcases List.mem_cons.mp known with same | later
      · cases same
      · exact later

theorem answerTo_append_of_unknown (unknown : .registered number ∉ log) (more : List Event) :
    answerTo number (log ++ more) = answerTo number more := by
  -- None of these events registers the call, so all of them are passed over.
  induction log with
  | nil => rfl
  | cons event rest ih =>
    have tail : .registered number ∉ rest := fun later => unknown (List.mem_cons_of_mem _ later)
    cases event with
    | registered other =>
      have apart : other ≠ number := by
        rintro rfl
        exact unknown List.mem_cons_self
      simp only [List.cons_append, answerTo, if_neg apart]
      exact ih tail
    | response id outcome => exact ih tail

theorem callId_inj {first second : Nat} (few : first < 2 ^ 63 - 1) (few' : second < 2 ^ 63 - 1)
    (same : callId first = callId second) : first = second := by
  -- Below the bound no identifier wraps around, so it gives the number back.
  have numbers : (Int64.ofNat (first + 1)).toInt = (Int64.ofNat (second + 1)).toInt := by
    rw [Id.number.inj same]
  rw [Int64.toInt_ofNat_of_lt (by omega), Int64.toInt_ofNat_of_lt (by omega)] at numbers
  omega

/-! ### What a step does -/

def cancelNotice (number : Nat) : Message :=
  .notification cancelMethod (toJson (CancelParams.mk (callId number)))

/-- What a step of a call leads to: it is written or cannot be, it takes what it was handed, it has
been denied a response, or it is given up. -/
inductive CallAdvance (conn : Connection) (number : Nat) (call : OutgoingCall) :
    Connection → Prop where
  | unsent (sends : call.phase = .sending) :
      CallAdvance conn number call (conn.finish number (.error (.send .brokenPipe)))
  | sent (sends : call.phase = .sending) :
      CallAdvance conn number call
        (Connection.modifyCall
          { conn with written := conn.written ++ [.call (callId number) call.method call.params] }
          number fun call => { call with phase := .waiting })
  | result {value : Json} (waits : call.phase = .waiting) (filled : call.slot = .handed (.ok value)) :
      CallAdvance conn number call (conn.finish number (.ok value))
  | refusal {error : Error} (waits : call.phase = .waiting)
      (filled : call.slot = .handed (.error error)) :
      CallAdvance conn number call (conn.finish number (.error (.refused error)))
  | loss (waits : call.phase = .waiting) (lost : call.slot = .discarded) :
      CallAdvance conn number call (conn.finish number (.error .closed))
  | giveUp (waits : call.phase = .waiting) (empty : call.slot = .empty) :
      CallAdvance conn number call { conn.finish number (.error .cancelled) with
        backlog := conn.backlog ++ [cancelNotice number] }

theorem stepCall_advance (stepped : conn.stepCall number = some conn') :
    ∃ call, conn.calls[number]? = some call ∧ CallAdvance conn number call conn' := by
  obtain ⟨call, found, stepped⟩ := Option.bind_eq_some_iff.mp stepped
  refine ⟨call, found, ?_⟩
  -- The cases are the phases of a call, and in the last one the states of its slot.
  split at stepped
  · cases stepped
  · rename_i sends
    -- A call can be written unless the peer takes no bytes.
    unfold write at stepped
    split at stepped
    · rename_i error refused
      split at refused
      · cases refused
        cases stepped
        exact .unsent sends
      · cases refused
    · rename_i taken
      split at taken
      · cases taken
      · cases taken
        cases stepped
        exact .sent sends
  · rename_i waits
    split at stepped
    · rename_i filled
      cases stepped
      exact .result waits filled
    · rename_i filled
      cases stepped
      exact .refusal waits filled
    · rename_i lost
      cases stepped
      exact .loss waits lost
    · rename_i empty
      split at stepped
      · cases stepped
        exact .giveUp waits empty
      · cases stepped

theorem writeIfOpen_cases (conn : Connection) (message : Message) :
    conn.writeIfOpen message = conn ∨
      conn.writeIfOpen message = { conn with written := conn.written ++ [message] } := by
  by_cases broken : conn.broken
  · exact .inl (by simp [writeIfOpen, write, broken])
  · exact .inr (by simp [writeIfOpen, write, broken])

theorem writeIfOpen_frame (conn : Connection) (message : Message) :
    (conn.writeIfOpen message).calls = conn.calls ∧
      (conn.writeIfOpen message).pending = conn.pending ∧
      (conn.writeIfOpen message).closed = conn.closed := by
  rcases writeIfOpen_cases conn message with same | same <;> rw [same] <;> exact ⟨rfl, rfl, rfl⟩

/-! ### What a move does -/

def Idle (conn : Connection) : Move → Prop
  | .start _ _ | .receive (.response _ _) | .receive (.call _ _ _) => conn.closed = true
  | .reply ticket _ | .abandon ticket =>
    ∀ call, conn.inbound[ticket]? = some call → call.answered = true
  | _ => True

/-- What a move does to a connection. -/
inductive Deed (conn : Connection) : Move → Connection → Prop where
  | nothing {move : Move} (idle : conn.Idle move) : Deed conn move conn
  -- Calls made to the peer.
  | start (method : String) (params : Json) (reading : conn.closed = false) :
      Deed conn (.start method params) { conn with
        calls := conn.calls ++ [{ method, params }]
        pending := conn.pending ++ [conn.calls.length] }
  | step {number : Nat} {call : OutgoingCall} {conn' : Connection}
      (found : conn.calls[number]? = some call) (advance : CallAdvance conn number call conn') :
      Deed conn (.step number) conn'
  | cancel (number : Nat) : Deed conn (.cancel number) (conn.cancel number)
  | deliver {number : Nat} (outcome : Except Error Json) (reading : conn.closed = false)
      (waits : number ∈ conn.pending) :
      Deed conn (.receive (.response (some (callId number)) outcome))
        { conn.modifyCall number fun call => { call with slot := .handed outcome } with
          pending := conn.pending.filter (· ≠ number) }
  | unheard {id : Option Id} (outcome : Except Error Json) (reading : conn.closed = false)
      (nobody : ∀ number ∈ conn.pending, id ≠ some (callId number)) :
      Deed conn (.receive (.response id outcome)) conn
  | close : Deed conn .close conn.close
  -- Calls taken from the peer.
  | accept (id : Id) (method : String) (params : Json) (reading : conn.closed = false) :
      Deed conn (.receive (.call id method params)) (conn.accept id method params).2
  | cancelInbound (method : String) (params : Json) (ticket : Nat) :
      Deed conn (.receive (.notification method params))
        (conn.modifyInbound ticket fun call => { call with cancelled := true })
  | reply {ticket : Nat} {call : InboundCall} (outcome : Except Error Json)
      (found : conn.inbound[ticket]? = some call) (fresh : call.answered = false) :
      Deed conn (.reply ticket outcome)
        ((conn.retire ticket call.id).writeIfOpen (.response (some call.id) outcome))
  | abandon {ticket : Nat} {call : InboundCall} (found : conn.inbound[ticket]? = some call)
      (fresh : call.answered = false) :
      Deed conn (.abandon ticket) { conn.retire ticket call.id with
        backlog := conn.backlog ++
          [.response (some call.id) (.error (.internal "request dropped without a reply"))] }
  -- What is written.
  | link (broken : Bool) : Deed conn (.link broken) { conn with broken }
  | flush {place : Nat} {message : Message} (found : conn.backlog[place]? = some message) :
      Deed conn (.flush place)
        ({ conn with backlog := conn.backlog.eraseIdx place }.writeIfOpen message)
  | notify {method : String} (params : Json) (other : method ≠ cancelMethod) :
      Deed conn (.notify method params) (conn.writeIfOpen (.notification method params))

theorem act_deed (conn : Connection) (move : Move) : Deed conn move (conn.act move) := by
  cases move with
  | start method params =>
    cases reading : conn.closed with
    | true =>
      have idle : Deed conn (.start method params) conn := .nothing reading
      simpa [act, Connection.start, reading] using idle
    | false => simpa [act, Connection.start, reading] using Deed.start method params reading
  | step number =>
    simp only [act]
    cases stepped : conn.stepCall number with
    | none => exact .nothing trivial
    | some after =>
      obtain ⟨call, found, advance⟩ := stepCall_advance stepped
      exact .step found advance
  | cancel number => exact .cancel number
  | receive message =>
    cases reading : conn.closed with
    | true =>
      have idle : Deed conn (.receive message) conn := by
        cases message with
        | notification method params => exact .nothing trivial
        | _ => exact .nothing reading
      simpa [act, reading] using idle
    | false =>
      simp only [act, reading, Bool.false_eq_true, if_false]
      cases message with
      | response id outcome =>
        simp only [dispatch, Connection.deliver]
        split
        · rename_i absent
          refine .unheard outcome reading fun number waits same => ?_
          exact List.find?_eq_none.mp absent number waits (by simpa using same)
        · rename_i number found
          obtain rfl : id = some (callId number) := by simpa using List.find?_some found
          exact .deliver outcome reading (List.mem_of_find?_eq_some found)
      | notification method params =>
        simp only [dispatch, Connection.cancelInbound]
        split
        · split
          · exact .nothing trivial
          · split
            · exact .nothing trivial
            · exact .cancelInbound method params _
        · exact .nothing trivial
      | call id method params => exact .accept id method params reading
  | close => exact .close
  | link broken => exact .link broken
  | flush place =>
    simp only [act, stepBacklog]
    cases found : conn.backlog[place]? with
    | none => exact .nothing trivial
    | some message => exact .flush found
  | notify method params =>
    by_cases own : method = cancelMethod
    · have idle : Deed conn (.notify method params) conn := .nothing trivial
      simpa [act, own] using idle
    · have written : conn.act (.notify method params) =
          conn.writeIfOpen (.notification method params) := by
        by_cases broken : conn.broken <;>
          simp [act, own, Connection.notify, writeIfOpen, write, broken, Bind.bind, Except.bind]
      rw [written]
      exact .notify params own
  | reply ticket outcome =>
    simp only [act, Connection.reply]
    split
    · rename_i absent
      exact .nothing fun call found => by rw [absent] at found; cases found
    · rename_i call found
      split
      · rename_i complete
        exact .nothing fun other found' => by cases found.symm.trans found'; exact complete
      · rename_i fresh
        exact .reply outcome found (by simpa using fresh)
  | abandon ticket =>
    simp only [act, Connection.abandon]
    split
    · rename_i absent
      exact .nothing fun call found => by rw [absent] at found; cases found
    · rename_i call found
      split
      · rename_i complete
        exact .nothing fun other found' => by cases found.symm.trans found'; exact complete
      · rename_i fresh
        exact .abandon found (by simpa using fresh)

/-! ### What stays -/

/--
A connection that goes on from another one.

Calls keep their numbers and their outcomes, and once reading has ended none is handed a response.
-/
structure Later (conn conn' : Connection) : Prop where
  closed : conn.closed = true → conn'.closed = true
  calls : ∀ {number : Nat} {call : OutgoingCall}, conn.calls[number]? = some call →
    ∃ later, conn'.calls[number]? = some later ∧
      (∀ outcome, call.outcome? = some outcome → later.outcome? = some outcome) ∧
      (conn.closed = true → ∀ outcome, later.slot = .handed outcome → call.slot = .handed outcome)

theorem Later.refl (conn : Connection) : Later conn conn where
  closed := id
  calls found := ⟨_, found, fun _ => id, fun _ _ => id⟩

theorem Later.trans {conn'' : Connection} (first : Later conn conn') (second : Later conn' conn'') :
    Later conn conn'' where
  closed ended := second.closed (first.closed ended)
  calls found := by
    obtain ⟨mid, there, complete, slot⟩ := first.calls found
    obtain ⟨last, there', complete', slot'⟩ := second.calls there
    exact ⟨last, there', fun outcome before => complete' outcome (complete outcome before),
      fun ended outcome filled => slot ended outcome (slot' (first.closed ended) outcome filled)⟩

/-- What a move makes of one call. -/
inductive Turned (conn conn' : Connection) (seen : List Event) (number : Nat) (call : OutgoingCall) :
    OutgoingCall → Prop where
  -- It may be written, or marked as given up.
  | same {later : OutgoingCall} (outcome : later.outcome? = call.outcome?)
      (slot : later.slot = call.slot)
      (out : later.isWritten = true → call.isWritten = true ∨
        .call (callId number) call.method call.params ∈ conn'.written)
      (table : number ∈ conn'.pending ↔ number ∈ conn.pending) :
      Turned conn conn' seen number call later
  | ended {outcome : Except CallError Json} (comes : call.Comes outcome)
      (left : number ∉ conn'.pending) :
      Turned conn conn' seen number call { call with phase := .finished outcome }
  | handed {outcome : Except Error Json} (reading : conn.closed = false)
      (heard : seen = [.response (some (callId number)) outcome]) (waits : number ∈ conn.pending)
      (left : number ∉ conn'.pending) :
      Turned conn conn' seen number call { call with slot := .handed outcome }
  | denied (waits : number ∈ conn.pending) (left : number ∉ conn'.pending)
      (closed : conn'.closed = true) :
      Turned conn conn' seen number call { call with slot := .discarded }

theorem Deed.turned {move : Move} (deed : Deed conn move conn')
    (found : conn.calls[number]? = some call) :
    ∃ later, conn'.calls[number]? = some later ∧ later.method = call.method ∧
      later.params = call.params ∧ Turned conn conn' (conn.events move) number call later := by
  have aside (calls : conn'.calls = conn.calls) (pending : conn'.pending = conn.pending) :
      ∃ later, conn'.calls[number]? = some later ∧ later.method = call.method ∧
        later.params = call.params ∧ Turned conn conn' (conn.events move) number call later :=
    ⟨call, calls ▸ found, rfl, rfl, .same rfl rfl .inl (by rw [pending])⟩
  -- Where one call is changed, the others are left alone.
  have one {place : Nat} {change : OutgoingCall → OutgoingCall}
      (calls : conn'.calls = conn.calls.modify place change)
      (table : ∀ other ≠ place, (other ∈ conn'.pending ↔ other ∈ conn.pending))
      (params : (change call).method = call.method ∧ (change call).params = call.params)
      (turned : place = number → Turned conn conn' (conn.events move) number call (change call)) :
      ∃ later, conn'.calls[number]? = some later ∧ later.method = call.method ∧
        later.params = call.params ∧ Turned conn conn' (conn.events move) number call later := by
    by_cases here : place = number
    · exact ⟨change call, by simp [calls, here, found], params.1, params.2, turned here⟩
    · exact ⟨call, by simp [calls, here, found], rfl, rfl,
        .same rfl rfl .inl (table number (Ne.symm here))⟩
  cases deed with
  | start method params =>
    have within := (List.getElem?_eq_some_iff.mp found).1
    refine ⟨call, by simp [List.getElem?_append_left within, found], rfl, rfl, .same rfl rfl .inl ?_⟩
    simp [Nat.ne_of_lt within]
  | @step place _ _ found' advance =>
    have mine : place = number → _ := fun here => Option.some.inj (found.symm.trans (here ▸ found'))
    have others : ∀ other ≠ place,
        (other ∈ conn.pending.filter (· ≠ place) ↔ other ∈ conn.pending) := by
      simp +contextual
    have left : place = number → number ∉ conn.pending.filter (· ≠ place) := by
      rintro rfl
      simp
    cases advance with
    | sent sends =>
      refine one rfl (fun _ _ => Iff.rfl) ⟨rfl, rfl⟩ fun here => ?_
      cases mine here
      subst here
      exact .same (by simp [OutgoingCall.outcome?, sends]) rfl (fun _ => .inr (by simp [modifyCall]))
        Iff.rfl
    | _ =>
      -- The call ends, with what it was handed or with nothing.
      refine one rfl others ⟨rfl, rfl⟩ fun here => .ended (mine here ▸ ?_) (left here)
      constructor <;> simp_all [OutgoingCall.outcome?, OutgoingCall.isWritten]
  | cancel place =>
    exact one rfl (fun _ _ => Iff.rfl) ⟨rfl, rfl⟩ fun _ => .same rfl rfl .inl Iff.rfl
  | deliver outcome reading waits =>
    refine one rfl (by simp +contextual) ⟨rfl, rfl⟩ ?_
    rintro rfl
    exact .handed reading (by simp [events, reading]) waits (by simp)
  | close =>
    by_cases waits : number ∈ conn.pending
    · exact ⟨{ call with slot := .discarded }, by simp [Connection.close, found, waits], rfl, rfl,
        .denied waits (by simp [Connection.close]) rfl⟩
    · exact ⟨call, by simp [Connection.close, found, waits], rfl, rfl,
        .same rfl rfl .inl (by simp [Connection.close, waits])⟩
  | reply => exact aside (writeIfOpen_frame _ _).1 (writeIfOpen_frame _ _).2.1
  | flush => exact aside (writeIfOpen_frame _ _).1 (writeIfOpen_frame _ _).2.1
  | notify => exact aside (writeIfOpen_frame _ _).1 (writeIfOpen_frame _ _).2.1
  | _ => exact aside rfl rfl

/-- No call is registered: the table gets no new entry, and only the end of reading clears it. -/
structure Unregistered (conn conn' : Connection) (seen : List Event) : Prop where
  silent : ∀ number, .registered number ∉ seen
  length : conn'.calls.length = conn.calls.length
  table : conn'.pending.Sublist conn.pending
  closed : conn'.closed = conn.closed ∨ conn'.closed = true ∧ conn'.pending = []

theorem Deed.table {move : Move} (deed : Deed conn move conn') :
    (∃ method params, move = .start method params ∧ conn.closed = false ∧ conn' = { conn with
      calls := conn.calls ++ [{ method, params }]
      pending := conn.pending ++ [conn.calls.length] }) ∨
    Unregistered conn conn' (conn.events move) := by
  have aside (silent : ∀ number, .registered number ∉ conn.events move)
      (same : conn'.calls = conn.calls ∧ conn'.pending = conn.pending ∧ conn'.closed = conn.closed) :
      Unregistered conn conn' (conn.events move) := by
    have table : conn'.pending.Sublist conn.pending := same.2.1 ▸ .refl _
    exact ⟨silent, congrArg List.length same.1, table, .inl same.2.2⟩
  cases deed with
  | start method params reading => exact .inl ⟨method, params, rfl, reading, rfl⟩
  | nothing idle =>
    refine .inr (aside (fun number => ?_) ⟨rfl, rfl, rfl⟩)
    cases move with
    | start method params => simp [events, show conn.closed = true from idle]
    | receive message => cases message <;> simp [events]
    | _ => simp [events]
  | step found advance =>
    refine .inr ⟨by simp [events], ?_, ?_, .inl ?_⟩ <;>
      cases advance <;> simp [Connection.finish, modifyCall]
  | cancel number => exact .inr ⟨by simp [events], List.length_modify .., .refl _, .inl rfl⟩
  | deliver outcome reading waits =>
    exact .inr ⟨by simp [events, reading], List.length_modify .., List.filter_sublist, .inl rfl⟩
  | unheard outcome reading => exact .inr (aside (by simp [events, reading]) ⟨rfl, rfl, rfl⟩)
  | close => exact .inr ⟨by simp [events], List.length_mapIdx .., List.nil_sublist _, .inr ⟨rfl, rfl⟩⟩
  | reply => exact .inr (aside (by simp [events]) (writeIfOpen_frame _ _))
  | flush => exact .inr (aside (by simp [events]) (writeIfOpen_frame _ _))
  | notify => exact .inr (aside (by simp [events]) (writeIfOpen_frame _ _))
  | _ => exact .inr (aside (by simp [events]) ⟨rfl, rfl, rfl⟩)

theorem Deed.later {move : Move} (deed : Deed conn move conn') : Later conn conn' where
  closed ended := by
    rcases deed.table with ⟨_, _, -, reading, -⟩ | same
    · rw [ended] at reading
      cases reading
    · rcases same.closed with same | ⟨closed, -⟩
      · exact same.trans ended
      · exact closed
  calls found := by
    obtain ⟨later, there, -, -, turned⟩ := deed.turned found
    refine ⟨later, there, ?_⟩
    cases turned with
    | same outcome slot => exact ⟨fun _ => outcome.trans, fun _ _ => slot.symm.trans⟩
    | ended comes => exact ⟨fun _ complete => by simp [comes.running] at complete, fun _ _ => id⟩
    | handed reading => exact ⟨fun _ => id, fun ended => by simp [reading] at ended⟩
    | denied => exact ⟨fun _ => id, fun _ _ filled => by cases filled⟩

theorem Later.act (conn : Connection) (move : Move) : Later conn (conn.act move) :=
  (act_deed conn move).later

end Connection

end PolicyServer.Rpc
