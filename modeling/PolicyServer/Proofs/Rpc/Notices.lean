import Mathlib.Data.List.Perm.Basic
import PolicyServer.Proofs.Rpc.Calls

/-! The peer is told of each call that is given up once, and after the call itself; and what becomes
of calls in every course of moves. -/

namespace PolicyServer.Rpc

def Message.cancelled? : Message → Option Id
  | .notification method params =>
    if method = Connection.cancelMethod then
      (Wire.decode params : Except Json.DecodeError CancelParams).toOption.map (·.id)
    else none
  | _ => none

namespace Connection

variable {conn conn' : Connection} {log : List Event} {number : Nat} {call : OutgoingCall}

theorem decode_cancelParams (n : Int64) :
    (Wire.decode (toJson (CancelParams.mk (.number n))) : Except Json.DecodeError CancelParams) =
      .ok ⟨.number n⟩ := by
  -- The identifier is written as an integer that fits, and so is read back as itself.
  have read : Id.decode? (.int n.toInt) = some (.number n) := by
    have below : n.toInt < 0x8000000000000000 := Int64.toInt_lt n
    simp only [Id.decode?, if_pos below, Int64.ofInt_toInt]
  show CancelParams.layout.decode (.obj [("id", .int n.toInt)]) = _
  simp [Json.Layout.decode, Json.Layout.takeMembers, Json.Layout.absent?, CancelParams.layout,
    Json.Slot.required, Wire.decode, read, Except.map]

theorem cancelled?_cancelNotice (number : Nat) :
    (cancelNotice number).cancelled? = some (callId number) := by
  simp only [cancelNotice, Message.cancelled?, callId, decode_cancelParams]
  rfl

def givenUp (conn : Connection) : List Id :=
  (conn.written ++ conn.backlog).filterMap Message.cancelled?

/--
What the peer is told of calls that are given up.

Each such call is over as cancelled and is told of once, after the call itself was written.
-/
structure Told (conn : Connection) : Prop where
  frames : ∀ {number : Nat} {call : OutgoingCall}, conn.calls[number]? = some call →
    call.isWritten = true → .call (callId number) call.method call.params ∈ conn.written
  once : conn.givenUp.Nodup
  owners : ∀ id ∈ conn.givenUp, ∃ number call, id = callId number ∧
    conn.calls[number]? = some call ∧ call.outcome? = some (.error .cancelled)
  order : ∀ {place : Nat} {message : Message} {id : Id}, conn.written[place]? = some message →
    message.cancelled? = some id →
    ∃ earlier method params, earlier < place ∧
      conn.written[earlier]? = some (.call id method params)

theorem Told.go (told : Told conn) {move : Move} (deed : Deed conn move conn') {new : List Message}
    (written : conn'.written = conn.written ++ new) (once : conn'.givenUp.Nodup)
    (owners : ∀ id ∈ conn'.givenUp, id ∈ conn.givenUp ∨ ∃ number call, id = callId number ∧
      conn'.calls[number]? = some call ∧ call.outcome? = some (.error .cancelled))
    (listed : ∀ message ∈ new, ∀ id, message.cancelled? = some id → id ∈ conn.givenUp) :
    Told conn' := by
  refine ⟨fun {number later} there out => ?_, once, fun id member => ?_,
    fun {place message id} there gives => ?_⟩
  · -- A call that is written was so before, or is written now.
    rcases Nat.lt_or_ge number conn.calls.length with within | new
    · have found := List.getElem?_eq_getElem within
      obtain ⟨later', there', method, params, turned⟩ := deed.turned found
      cases there.symm.trans there'
      rw [method, params]
      have before (out : conn.calls[number].isWritten = true) :
          .call (callId number) conn.calls[number].method conn.calls[number].params ∈ conn'.written := by
        rw [written]
        exact List.mem_append_left _ (told.frames found out)
      cases turned with
      | same _ _ out' => exact (out' out).elim before id
      | ended comes => exact before (comes.out out)
      | handed => exact before out
      | denied => exact before out
    · rcases deed.table with ⟨method, params, -, -, rfl⟩ | same
      · rw [List.getElem?_append_right new] at there
        rw [List.mem_singleton.mp (List.mem_of_getElem? there)] at out
        cases out
      · rw [List.getElem?_eq_none (by rw [same.length]; exact new)] at there
        cases there
  · rcases owners id member with before | now
    · obtain ⟨number, call, named, there, complete⟩ := told.owners id before
      obtain ⟨call', there', kept, -⟩ := deed.later.calls there
      exact ⟨number, call', named, there', kept _ complete⟩
    · exact now
  · rw [written] at there ⊢
    by_cases before : place < conn.written.length
    · rw [List.getElem?_append_left before] at there
      obtain ⟨earlier, method, params, less, frame⟩ := told.order there gives
      refine ⟨earlier, method, params, less, ?_⟩
      rw [List.getElem?_append_left (Nat.lt_trans less before)]
      exact frame
    · -- The call that is given up is over as cancelled, so that it was written before.
      rw [List.getElem?_append_right (Nat.le_of_not_lt before)] at there
      obtain ⟨owner, call, rfl, owned, complete⟩ :=
        told.owners id (listed message (List.mem_of_getElem? there) id gives)
      have out : call.isWritten = true := by
        obtain ⟨method, params, phase, slot, cancelled⟩ := call
        cases phase with
        | finished outcome =>
          cases complete
          rfl
        | _ => cases complete
      obtain ⟨earlier, less, frame⟩ := List.getElem_of_mem (told.frames owned out)
      refine ⟨earlier, call.method, call.params, by omega, ?_⟩
      rw [List.getElem?_append_left less, List.getElem?_eq_getElem less, frame]

theorem Told.quiet (told : Told conn) {move : Move} (deed : Deed conn move conn')
    {new more : List Message} (written : conn'.written = conn.written ++ new)
    (backlog : conn'.backlog = conn.backlog ++ more)
    (silent : ∀ message ∈ new ++ more, message.cancelled? = none) : Told conn' := by
  have none : (new ++ more).filterMap Message.cancelled? = [] := List.filterMap_eq_nil_iff.mpr silent
  rw [List.filterMap_append, List.append_eq_nil_iff] at none
  have same : conn'.givenUp = conn.givenUp := by
    simp only [givenUp, written, backlog, List.filterMap_append, none, List.append_nil]
  refine told.go deed written (same ▸ told.once) (fun id member => .inl (same ▸ member)) ?_
  intro message member id gives
  rw [silent message (List.mem_append_left _ member)] at gives
  cases gives

theorem Told.giveUp (told : Told conn) (few : conn.calls.length < 2 ^ 63)
    (found : conn.calls[number]? = some call) (waits : call.phase = .waiting)
    (empty : call.slot = .empty) :
    Told { conn.finish number (.error .cancelled) with
      backlog := conn.backlog ++ [cancelNotice number] } := by
  have added : Connection.givenUp { conn.finish number (.error .cancelled) with
      backlog := conn.backlog ++ [cancelNotice number] } = conn.givenUp ++ [callId number] := by
    have notice : [cancelNotice number].filterMap Message.cancelled? = [callId number] := by
      simp [cancelled?_cancelNotice]
    show (conn.written ++ (conn.backlog ++ [cancelNotice number])).filterMap _ = _
    rw [← List.append_assoc, List.filterMap_append, notice]
    rfl
  refine told.go (.step found (.giveUp waits empty)) (List.append_nil _).symm ?_ ?_ (by simp)
  · rw [added, List.nodup_append]
    refine ⟨told.once, by simp, ?_⟩
    rintro id member other last rfl
    -- Whoever was told of before is over, which this call was not.
    obtain ⟨owner, former, named, there, complete⟩ := told.owners id member
    have small := (List.getElem?_eq_some_iff.mp there).1
    have small' := (List.getElem?_eq_some_iff.mp found).1
    obtain rfl : owner = number :=
      callId_inj (by omega) (by omega) (named.symm.trans (List.mem_singleton.mp last))
    cases found.symm.trans there
    simp [OutgoingCall.outcome?, waits] at complete
  · intro id member
    rw [added] at member
    refine (List.mem_append.mp member).imp_right fun last => ?_
    exact ⟨number, { call with phase := .finished (.error .cancelled) }, List.mem_singleton.mp last,
      by simp [Connection.finish, modifyCall, found], rfl⟩

theorem Told.flush (told : Told conn) {place : Nat} {message : Message}
    (found : conn.backlog[place]? = some message) :
    Told ({ conn with backlog := conn.backlog.eraseIdx place }.writeIfOpen message) := by
  have deed := Deed.flush found
  obtain ⟨within, here⟩ := List.getElem?_eq_some_iff.mp found
  rcases writeIfOpen_cases { conn with backlog := conn.backlog.eraseIdx place } message with
    lost | kept
  · -- A message that is lost leaves the rest.
    rw [lost] at deed ⊢
    have fewer : List.Sublist (Connection.givenUp { conn with
        backlog := conn.backlog.eraseIdx place }) conn.givenUp :=
      ((List.eraseIdx_sublist _ place).append_left conn.written).filterMap _
    exact told.go deed (List.append_nil _).symm (told.once.sublist fewer)
      (fun id member => .inl (fewer.mem member)) (by simp)
  · -- The message moves from the one list to the other.
    rw [kept] at deed ⊢
    have moved : List.Perm (Connection.givenUp { conn with
        backlog := conn.backlog.eraseIdx place
        written := conn.written ++ [message] }) conn.givenUp := by
      have taken : List.Perm (message :: conn.backlog.eraseIdx place) conn.backlog :=
        here ▸ List.getElem_cons_eraseIdx_perm within
      refine List.Perm.filterMap _ ?_
      rw [List.append_assoc]
      exact taken.append_left conn.written
    refine told.go deed rfl (moved.nodup_iff.mpr told.once)
      (fun id member => .inl (moved.mem_iff.mp member)) fun other member id gives => ?_
    rw [List.mem_singleton.mp member] at gives
    exact List.mem_filterMap.mpr
      ⟨message, List.mem_append_right _ (List.mem_of_getElem? found), gives⟩

theorem Told.act (told : Told conn) (few : conn.calls.length < 2 ^ 63) (move : Move) :
    Told (conn.act move) := by
  have deed := act_deed conn move
  generalize conn.act move = conn' at deed ⊢
  have still (written : conn'.written = conn.written) (backlog : conn'.backlog = conn.backlog) :
      Told conn' :=
    told.quiet deed (written.trans (List.append_nil _).symm) (backlog.trans (List.append_nil _).symm)
      (by simp)
  -- What is written where the connection takes it gives up no call.
  have wrote {before : Connection} {message : Message} (same : conn' = before.writeIfOpen message)
      (written : before.written = conn.written) (backlog : before.backlog = conn.backlog)
      (silent : message.cancelled? = none) : Told conn' := by
    rcases writeIfOpen_cases before message with lost | kept
    · rw [lost] at same
      exact still (by rw [same, written]) (by rw [same, backlog])
    · rw [kept] at same
      have added : conn'.written = conn.written ++ [message] := by rw [same, written]
      have kept : conn'.backlog = conn.backlog ++ [] := by rw [same, backlog, List.append_nil]
      exact told.quiet deed added kept (by simpa using silent)
  cases deed with
  | step found advance =>
    cases advance with
    | sent sends =>
      exact told.quiet (.step found (.sent sends)) rfl (List.append_nil _).symm
        (by simp [Message.cancelled?])
    | giveUp waits empty => exact told.giveUp few found waits empty
    | _ => exact still rfl rfl
  | reply outcome => exact wrote rfl rfl rfl rfl
  | abandon found fresh =>
    exact told.quiet (.abandon found fresh) (List.append_nil _).symm rfl (by simp [Message.cancelled?])
  | flush found => exact told.flush found
  | notify params other => exact wrote rfl rfl rfl (by simp [Message.cancelled?, other])
  | _ => exact still rfl rfl

/-! ### Whole courses of moves -/

theorem fresh_kept : Kept {} [] := by
  refine ⟨fun number => ?_, List.nodup_nil, fun number => ?_, fun number waits => ?_,
    fun found => ?_⟩
  · simp
  · simp [Awaits]
  · cases waits
  · cases found

theorem fresh_told : Told {} := by
  refine ⟨fun found => ?_, List.nodup_nil, fun id member => ?_, fun found => ?_⟩
  · cases found
  · cases member
  · cases found

theorem Later.length_le (later : Later conn conn') : conn.calls.length ≤ conn'.calls.length := by
  by_contra fewer
  have within : conn'.calls.length < conn.calls.length := Nat.lt_of_not_le fewer
  obtain ⟨call, found, -⟩ := later.calls (List.getElem?_eq_getElem within)
  simp at found

theorem Later.play (conn : Connection) (moves : List Move) : Later conn (conn.play moves) := by
  induction moves generalizing conn with
  | nil => exact .refl conn
  | cons move rest ih => exact (Later.act conn move).trans (ih (conn.act move))

theorem play_kept (kept : Kept conn log) (told : Told conn) (moves : List Move)
    (few : (conn.play moves).calls.length < 2 ^ 63) :
    Kept (conn.play moves) (log ++ conn.history moves) ∧ Told (conn.play moves) := by
  induction moves generalizing conn log with
  | nil =>
    rw [history, List.append_nil]
    exact ⟨kept, told⟩
  | cons move rest ih =>
    -- There are no more calls now than in the end.
    have now : conn.calls.length < 2 ^ 63 :=
      Nat.lt_of_le_of_lt (Later.play conn (move :: rest)).length_le few
    have done := ih (kept.act (fun _ => now) move) (told.act now move) few
    rw [List.append_assoc] at done
    exact done

theorem play_kept_of_closed (kept : Kept conn log) (closed : conn.closed = true)
    (moves : List Move) : ∃ log', Kept (conn.play moves) log' := by
  -- Once reading has ended no call is started, so numbers cannot run out.
  induction moves generalizing conn log with
  | nil => exact ⟨log, kept⟩
  | cons move rest ih =>
    have never : conn.closed = false → conn.calls.length < 2 ^ 63 := by
      intro open'
      rw [closed] at open'
      cases open'
    exact ih (kept.act never move) ((Later.act conn move).closed closed)

def outcomeAt (conn : Connection) (number : Nat) : Option (Except CallError Json) :=
  (conn.calls[number]?).bind (·.outcome?)

theorem outcome_of_closed (kept : Kept conn log) (closed : conn.closed = true)
    {outcome : Except CallError Json} {moves : List Move} (found : conn.calls[number]? = some call)
    (unanswered : ∀ answer, call.slot ≠ .handed answer)
    (ended : (conn.play moves).outcomeAt number = some outcome) :
    outcome = .error .closed ∨ outcome = .error .cancelled ∨
      ∃ error, outcome = .error (.send error) := by
  obtain ⟨later, there, complete⟩ := Option.bind_eq_some_iff.mp ended
  obtain ⟨log', kept'⟩ := play_kept_of_closed kept closed moves
  have fits := kept'.fits there
  -- A slot that was not filled when reading ended is never filled.
  have never : ∀ answer, later.slot ≠ .handed answer := by
    intro answer filled
    obtain ⟨call', there', -, slot⟩ := (Later.play conn moves).calls found
    rw [there] at there'
    cases there'
    exact unanswered answer (slot closed answer filled)
  cases outcome with
  | ok value => exact absurd (fits.result complete) (never _)
  | error error =>
    cases error with
    | cancelled => exact .inr (.inl rfl)
    | closed => exact .inl rfl
    | send error => exact .inr (.inr ⟨error, rfl⟩)
    | refused error => exact absurd (fits.refused complete) (never _)
    | result error => exact absurd complete (fits.whole error)

theorem callId_eq (few : number + 1 < 2 ^ 63) :
    ∃ n : Int64, callId number = .number n ∧ n.toInt = number + 1 := by
  refine ⟨_, rfl, ?_⟩
  rw [Int64.toInt_ofNat_of_lt few]
  rfl

/--
What becomes of the calls of a connection, while there are numbers to give.

Their identifiers are 1, 2, 3 and so on, and a call ends at most once. What the peer says is the outcome
of a call only if it is the first response with the identifier of the call after that was registered,
and a response to another identifier leaves it alone. Until reading ends the table holds just the calls
that are neither over nor handed a response; then it is empty, and whoever was handed none comes to
nothing. The peer is told of a call that is given up at most once, after the call itself, and only if it
ended so.
-/
theorem calls_end_as_answered (moves : List Move)
    (few : (play {} moves).calls.length < 2 ^ 63) :
    let conn := play {} moves
    let log := history {} moves
    (∀ method params, conn.closed = false →
      ((conn.start method params).map (·.1)) = some conn.calls.length) ∧
    (∀ number < conn.calls.length, ∃ n : Int64, callId number = .number n ∧ n.toInt = number + 1) ∧
    (∀ first < conn.calls.length, ∀ second < conn.calls.length,
      callId first = callId second → first = second) ∧
    (∀ number outcome more, conn.outcomeAt number = some outcome →
      (conn.play more).outcomeAt number = some outcome) ∧
    (∀ number value, conn.outcomeAt number = some (.ok value) →
      answerTo number log = some (.ok value)) ∧
    (∀ number error, conn.outcomeAt number = some (.error (.refused error)) →
      answerTo number log = some (.error error)) ∧
    (∀ number id outcome, id ≠ some (callId number) →
      (conn.act (.receive (.response id outcome))).calls[number]? = conn.calls[number]?) ∧
    conn.pending.Nodup ∧
    (conn.closed = false → ∀ number, number ∈ conn.pending ↔
      ∃ call, conn.calls[number]? = some call ∧ call.outcome? = none ∧
        ∀ answer, call.slot ≠ .handed answer) ∧
    (conn.closed = true → conn.pending = [] ∧
      ∀ (number : Nat) call outcome more, conn.calls[number]? = some call →
        (∀ answer, call.slot ≠ .handed answer) → (conn.play more).outcomeAt number = some outcome →
        outcome = .error .closed ∨ outcome = .error .cancelled ∨
          ∃ error, outcome = .error (.send error)) ∧
    (conn.written.filterMap Message.cancelled?).Nodup ∧
    (∀ (place : Nat) message id, conn.written[place]? = some message → message.cancelled? = some id →
      (∃ earlier method params, earlier < place ∧
        conn.written[earlier]? = some (.call id method params)) ∧
      ∃ number, id = callId number ∧ conn.outcomeAt number = some (.error .cancelled)) := by
  intro conn log
  obtain ⟨kept, told⟩ : Kept conn log ∧ Told conn := play_kept fresh_kept fresh_told moves few
  have few' : conn.calls.length < 2 ^ 63 := few
  refine ⟨fun method params open' => ?_, fun number within => callId_eq (by omega),
    fun first within second within' => callId_inj (by omega) (by omega),
    fun number outcome more complete => ?_, fun number value complete => ?_,
    fun number error complete => ?_,
    fun number id outcome other => ?_, kept.once, fun open' number => ?_,
    fun closed => ⟨?_, fun number call outcome more found unanswered complete =>
      outcome_of_closed kept closed found unanswered complete⟩, ?_,
    fun place message id found gives => ⟨told.order found gives, ?_⟩⟩
  · simp [start, open']
  · obtain ⟨call, found, ended⟩ := Option.bind_eq_some_iff.mp complete
    obtain ⟨later, there, same, -⟩ := (Later.play conn more).calls found
    exact Option.bind_eq_some_iff.mpr ⟨later, there, same outcome ended⟩
  · obtain ⟨call, found, ended⟩ := Option.bind_eq_some_iff.mp complete
    exact (kept.fits found).handed ((kept.fits found).result ended)
  · obtain ⟨call, found, ended⟩ := Option.bind_eq_some_iff.mp complete
    exact (kept.fits found).handed ((kept.fits found).refused ended)
  · simp only [act]
    split
    · rfl
    · exact calls_deliver_of_ne other outcome
  · -- Before reading ends no slot has been withdrawn, so one that is not filled is empty.
    rw [kept.pending]
    constructor
    · rintro ⟨-, call, found, running, empty⟩
      refine ⟨call, found, running, fun answer filled => ?_⟩
      rw [empty] at filled
      cases filled
    · rintro ⟨call, found, running, unanswered⟩
      refine ⟨open', call, found, running, ?_⟩
      cases slot : call.slot with
      | empty => rfl
      | handed answer => exact absurd slot (unanswered answer)
      | discarded =>
        have closed := (kept.fits found).discarded slot
        rw [open'] at closed
        cases closed
  · refine List.eq_nil_iff_forall_not_mem.mpr fun number waits => ?_
    have open' := ((kept.pending number).mp waits).1
    rw [closed] at open'
    cases open'
  · have once := told.once
    rw [givenUp, List.filterMap_append] at once
    exact (List.nodup_append.mp once).1
  · have listed : id ∈ conn.givenUp :=
      List.mem_filterMap.mpr ⟨message, List.mem_append_left _ (List.mem_of_getElem? found), gives⟩
    obtain ⟨number, call, named, there, ended⟩ := told.owners id listed
    exact ⟨number, named, Option.bind_eq_some_iff.mpr ⟨call, there, ended⟩⟩

/-- A call that is answered ends with its answer. -/
theorem answered_call_ends :
    let moves := [.start "ping" .null, .step 0, .receive (.response (some (callId 0)) (.ok .null)),
      .receive (.response (some (callId 0)) (.ok (.bool true))), .step 0]
    (play {} moves).outcomeAt 0 = some (.ok .null) ∧
      answerTo 0 (history {} moves) = some (.ok .null) := by
  intro moves
  obtain ⟨-, -, -, -, answered, -⟩ := calls_end_as_answered moves (by decide)
  exact ⟨rfl, answered 0 .null rfl⟩

end Connection

end PolicyServer.Rpc
