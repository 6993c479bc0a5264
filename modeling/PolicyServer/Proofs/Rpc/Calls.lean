import PolicyServer.Proofs.Rpc.Moves

/-! Calls made to the peer: each waits for the first response to its identifier, and ends once. -/

namespace PolicyServer.Rpc.Connection

variable {conn conn' : Connection} {log : List Event} {number : Nat} {call : OutgoingCall}

/-- How a call stands to what has happened. -/
structure Fits (closed : Bool) (log : List Event) (number : Nat) (call : OutgoingCall) : Prop where
  handed : ∀ {outcome : Except Error Json}, call.slot = .handed outcome →
    answerTo number log = some outcome
  discarded : call.slot = .discarded → closed = true
  result : ∀ {value : Json}, call.outcome? = some (.ok value) → call.slot = .handed (.ok value)
  refused : ∀ {error : Error}, call.outcome? = some (.error (.refused error)) →
    call.slot = .handed (.error error)
  whole : ∀ error : Json.DecodeError, call.outcome? ≠ some (.error (.result error))

def Awaits (conn : Connection) (number : Nat) : Prop :=
  ∃ call, conn.calls[number]? = some call ∧ call.outcome? = none ∧ call.slot = .empty

/--
The table of calls is in order.

Until reading ends it holds the calls that wait for a response, each once; none of them has had one,
and each call that was handed a response was handed the first one.
-/
structure Kept (conn : Connection) (log : List Event) : Prop where
  registered : ∀ number, .registered number ∈ log ↔ number < conn.calls.length
  once : conn.pending.Nodup
  pending : ∀ number, number ∈ conn.pending ↔ conn.closed = false ∧ conn.Awaits number
  unanswered : ∀ number ∈ conn.pending, answerTo number log = none
  fits : ∀ {number : Nat} {call : OutgoingCall}, conn.calls[number]? = some call →
    Fits conn.closed log number call

theorem Kept.known (kept : Kept conn log) (found : conn.calls[number]? = some call) :
    .registered number ∈ log:=
  (kept.registered number).mpr (List.getElem?_eq_some_iff.mp found).1

theorem Kept.awaits (kept : Kept conn log) (waits : number ∈ conn.pending) :
    conn.Awaits number :=
  ((kept.pending number).mp waits).2

theorem Fits.of_running {closed : Bool} (running : call.outcome? = none)
    (handed : ∀ {outcome : Except Error Json}, call.slot = .handed outcome →
      answerTo number log = some outcome) (discarded : call.slot = .discarded → closed = true) :
    Fits closed log number call where
  handed := handed
  discarded := discarded
  -- A call that is not over has no outcome to account for.
  result complete := by rw [running] at complete; cases complete
  refused complete := by rw [running] at complete; cases complete
  whole error complete := by rw [running] at complete; cases complete

theorem Fits.append {closed : Bool} (fits : Fits closed log number call)
    (known : .registered number ∈ log) (more : List Event) :
    Fits closed (log ++ more) number call where
  -- The first answer after the registration stays the first, whatever comes later.
  handed filled := by rw [answerTo_append known, fits.handed filled, Option.some_or]
  discarded := fits.discarded
  result := fits.result
  refused := fits.refused
  whole := fits.whole

theorem calls_deliver_of_ne {id : Option Id} (other : id ≠ some (callId number))
    (outcome : Except Error Json) :
    (conn.deliver id outcome).calls[number]? = conn.calls[number]? := by
  unfold deliver
  split
  · rfl
  · rename_i target found
    -- The call that the response is for has another identifier.
    have named := List.find?_some found
    have apart : target ≠ number := by
      rintro rfl
      exact other (by simpa using named)
    simp [modifyCall, apart]

theorem Kept.start (kept : Kept conn log) (open' : conn.closed = false) (method : String)
    (params : Json) :
    Kept { conn with
      calls := conn.calls ++ [{ method, params }]
      pending := conn.pending ++ [conn.calls.length] } (log ++ [.registered conn.calls.length]) := by
  have new : .registered conn.calls.length ∉ log := by
    rw [kept.registered]
    exact Nat.lt_irrefl _
  have unasked : answerTo conn.calls.length (log ++ [.registered conn.calls.length]) = none := by
    rw [answerTo_append_of_unknown new]
    simp [answerTo]
  have fresh : conn.calls.length ∉ conn.pending := by
    intro waits
    obtain ⟨call, found, -⟩ := kept.awaits waits
    simp at found
  -- The new call stands last, and those before it stand as they did.
  have split : ∀ {number : Nat} {call : OutgoingCall},
      (conn.calls ++ [{ method, params : OutgoingCall }])[number]? = some call →
        conn.calls[number]? = some call ∨
          number = conn.calls.length ∧ call = { method, params : OutgoingCall } := by
    intro number call found
    rcases Nat.lt_trichotomy number conn.calls.length with before | here | beyond
    · rw [List.getElem?_append_left before] at found
      exact .inl found
    · subst here
      simp at found
      exact .inr ⟨rfl, found.symm⟩
    · rw [List.getElem?_eq_none (by simp; omega)] at found
      cases found
  refine ⟨fun number => ?_, ?_, fun number => ?_, fun number waits => ?_,
    fun {number call} found => ?_⟩
  · simp only [List.mem_append, List.mem_singleton, Event.registered.injEq, kept.registered,
      List.length_append, List.length_singleton]
    omega
  · rw [List.nodup_append]
    refine ⟨kept.once, by simp, ?_⟩
    rintro number waits other last rfl
    exact fresh (List.mem_singleton.mp last ▸ waits)
  · simp only [List.mem_append, List.mem_singleton, kept.pending]
    constructor
    · rintro (⟨closed, call, found, running, empty⟩ | rfl)
      · refine ⟨closed, call, ?_, running, empty⟩
        rw [List.getElem?_append_left (List.getElem?_eq_some_iff.mp found).1]
        exact found
      · exact ⟨open', { method, params }, by simp, rfl, rfl⟩
    · rintro ⟨closed, call, found, running, empty⟩
      rcases split found with old | ⟨here, -⟩
      · exact .inl ⟨closed, call, old, running, empty⟩
      · exact .inr here
  · rcases List.mem_append.mp waits with before | last
    · obtain ⟨call, found, -⟩ := kept.awaits before
      rw [answerTo_append (kept.known found), kept.unanswered number before]
      rfl
    · rw [List.mem_singleton.mp last]
      exact unasked
  · rcases split found with old | ⟨rfl, rfl⟩
    · exact (kept.fits old).append (kept.known old) _
    · refine Fits.of_running rfl (fun filled => ?_) fun lost => ?_
      · cases filled
      · cases lost

theorem Deed.unheard_of_pending {move : Move} (deed : Deed conn move conn') (kept : Kept conn log)
    (few : conn.closed = false → conn.calls.length < 2 ^ 63) (before : number ∈ conn.pending)
    (waits : number ∈ conn'.pending) :
    (conn.events move).findSome? (Event.answer? (callId number)) = none := by
  -- Whoever is in the table has a number below the limit, hence an identifier of its own.
  have small : ∀ number ∈ conn.pending, number < 2 ^ 63 - 1 := by
    intro number waits
    obtain ⟨reading, call, found, -⟩ := (kept.pending number).mp waits
    have within := (List.getElem?_eq_some_iff.mp found).1
    have limit := few reading
    omega
  cases deed with
  | @deliver target outcome reading waits' =>
    have other : callId target ≠ callId number := by
      intro same
      cases callId_inj (small _ waits') (small number before) same
      simp at waits
    simp [events, reading, Event.answer?, other]
  | @unheard id outcome reading nobody =>
    cases id with
    | none => simp [events, reading, Event.answer?]
    | some id =>
      have other : id ≠ callId number := fun same => nobody number before (by rw [same])
      simp [events, reading, Event.answer?, other]
  | start method params reading => simp [events, reading, Event.answer?]
  | @nothing move idle =>
    cases move with
    | start method params => simp [events, show conn.closed = true from idle]
    | receive message =>
      cases message with
      | response id outcome => simp [events, show conn.closed = true from idle]
      | _ => rfl
    | _ => rfl
  | _ => rfl

theorem Turned.fits {seen : List Event} {later : OutgoingCall}
    (turned : Turned conn conn' seen number call later) (kept : Kept conn log)
    (found : conn.calls[number]? = some call)
    (closed : conn'.closed = conn.closed ∨ conn'.closed = true ∧ conn'.pending = []) :
    (number ∈ conn'.pending ↔
      conn'.closed = false ∧ later.outcome? = none ∧ later.slot = .empty) ∧
      Fits conn'.closed (log ++ seen) number later := by
  have table : number ∈ conn.pending ↔
      conn.closed = false ∧ call.outcome? = none ∧ call.slot = .empty := by
    simp [kept.pending, Awaits, found]
  have fits := (kept.fits found).append (kept.known found) seen
  have discarded : call.slot = .discarded → conn'.closed = true := by
    intro lost
    rcases closed with same | ⟨closed, -⟩
    · exact same.trans (fits.discarded lost)
    · exact closed
  cases turned with
  | same outcome slot out table' =>
    rw [outcome, slot]
    refine ⟨?_, fun filled => fits.handed (slot ▸ filled), fun lost => discarded (slot ▸ lost),
      fun complete => slot ▸ fits.result (outcome ▸ complete),
      fun complete => slot ▸ fits.refused (outcome ▸ complete), fun error => outcome ▸ fits.whole error⟩
    rcases closed with same | ⟨closed, empty⟩
    · rw [table', table, same]
    · simp [closed, empty]
  | ended comes left =>
    exact ⟨by simp [left, OutgoingCall.outcome?], fits.handed, discarded,
      fun complete => comes.result _ (Option.some.inj complete),
      fun complete => comes.refused _ (Option.some.inj complete),
      fun error complete => comes.whole error (Option.some.inj complete)⟩
  | handed reading heard waits left =>
    obtain ⟨-, running, -⟩ := table.mp waits
    refine ⟨by simp [left], .of_running running (fun filled => ?_) fun lost => by cases lost⟩
    -- The response is the first with its identifier, for the call was still in the table.
    cases filled
    rw [answerTo_append (kept.known found), kept.unanswered _ waits, heard]
    simp [Event.answer?]
  | denied waits left closed =>
    obtain ⟨-, running, -⟩ := table.mp waits
    exact ⟨by simp [left], .of_running running (fun filled => by cases filled) fun _ => closed⟩

theorem Kept.act (kept : Kept conn log) (few : conn.closed = false → conn.calls.length < 2 ^ 63)
    (move : Move) :
    Kept (conn.act move) (log ++ conn.events move) := by
  have deed := act_deed conn move
  generalize conn.act move = conn' at deed ⊢
  rcases deed.table with ⟨method, params, rfl, reading, rfl⟩ | same
  · simpa [events, reading] using kept.start reading method params
  -- Every call that is there was there before, and is as the move turned it.
  have former {number : Nat} {later : OutgoingCall} (there : conn'.calls[number]? = some later) :
      ∃ call, conn.calls[number]? = some call ∧
        Turned conn conn' (conn.events move) number call later := by
    have within := (List.getElem?_eq_some_iff.mp there).1
    rw [same.length] at within
    obtain ⟨later', there', -, -, turned⟩ := deed.turned (List.getElem?_eq_getElem within)
    cases there.symm.trans there'
    exact ⟨_, List.getElem?_eq_getElem within, turned⟩
  refine ⟨fun number => ?_, kept.once.sublist same.table, fun number => ⟨fun waits => ?_, ?_⟩,
    fun number waits => ?_, fun there => ?_⟩
  · simp [same.length, same.silent, kept.registered]
  · obtain ⟨call, found, -⟩ := kept.awaits (same.table.subset waits)
    obtain ⟨later, there, -, -, turned⟩ := deed.turned found
    obtain ⟨reading, running, empty⟩ := (turned.fits kept found same.closed).1.mp waits
    exact ⟨reading, later, there, running, empty⟩
  · rintro ⟨reading, later, there, running, empty⟩
    obtain ⟨call, found, turned⟩ := former there
    exact (turned.fits kept found same.closed).1.mpr ⟨reading, running, empty⟩
  · have before := same.table.subset waits
    obtain ⟨call, found, -⟩ := kept.awaits before
    rw [answerTo_append (kept.known found), kept.unanswered number before, Option.none_or]
    exact deed.unheard_of_pending kept few before waits
  · obtain ⟨call, found, turned⟩ := former there
    exact (turned.fits kept found same.closed).2

end PolicyServer.Rpc.Connection
