import Mathlib.Data.List.TakeWhile
import PolicyServer.Proofs.Rpc.Answers
import PolicyServer.Proofs.Trace

/-! Which of the peer's calls a cancellation reaches, where the peer may use an identifier again. -/

namespace PolicyServer.Rpc.Connection

/-- What becomes of the peer's calls: one is taken, or one is settled, be it answered or dropped. -/
inductive Encounter where
  | taken (ticket : Nat) (id : Id)
  | settled (ticket : Nat) (id : Id)
  deriving DecidableEq

def Encounter.settles (id : Id) : Encounter → Bool
  | .taken _ _ => false
  | .settled _ other => other = id

def settlement (conn : Connection) (ticket : Nat) : List Encounter :=
  match conn.roll[ticket]? with
  | some (id, false) => [.settled ticket id]
  | _ => []

def encounters (conn : Connection) : Move → List Encounter
  | .receive (.call id _ _) => if conn.closed then [] else [.taken conn.roll.length id]
  | .reply ticket _ | .abandon ticket => conn.settlement ticket
  | _ => []

/-- Holds for the ticket of a call with that identifier which is not answered. -/
def awaits (roll : List (Id × Bool)) (id : Id) (ticket : Nat) : Bool := roll[ticket]? = some (id, false)

/-- The ticket of the call received last, of those with an identifier that are not answered. -/
def latest? (roll : List (Id × Bool)) (id : Id) : Option Nat :=
  ((List.range roll.length).filter (awaits roll id)).max?

/-- Holds if a call with that identifier was settled after the call of a ticket was taken. -/
def overtaken (log : List Encounter) (id : Id) (ticket : Nat) : Bool :=
  (log.dropWhile (· != .taken ticket id)).any (Encounter.settles id)

variable {conn conn' : Connection} {log seen : List Encounter} {roll : List (Id × Bool)} {id : Id}
  {ticket : Nat}

/-! ### What a move does -/

/-- What a move does to the roll, and to the table in which a cancellation looks for its call. -/
inductive Dealing (conn : Connection) : Connection → List Encounter → Prop where
  | aside {conn' : Connection} (roll : conn'.roll = conn.roll)
      (incoming : conn'.incoming = conn.incoming) (closed : conn'.closed = conn.closed) :
      Dealing conn conn' []
  | taken {conn' : Connection} (id : Id) (reading : conn.closed = false)
      (roll : conn'.roll = conn.roll ++ [(id, false)])
      (incoming : conn'.incoming = (id, conn.roll.length) :: conn.incoming.filter (·.1 ≠ id))
      (closed : conn'.closed = conn.closed) : Dealing conn conn' [.taken conn.roll.length id]
  | settled {conn' : Connection} {ticket : Nat} {id : Id}
      (unanswered : conn.roll[ticket]? = some (id, false))
      (roll : conn'.roll = conn.roll.set ticket (id, true))
      (incoming : conn'.incoming = conn.incoming.filter (·.1 ≠ id))
      (closed : conn'.closed = conn.closed) : Dealing conn conn' [.settled ticket id]
  | ended {conn' : Connection} (roll : conn'.roll = conn.roll) (incoming : conn'.incoming = [])
      (closed : conn'.closed = true) : Dealing conn conn' []

theorem Dealing.refl (conn : Connection) : Dealing conn conn [] := .aside rfl rfl rfl

theorem incoming_writeIfOpen (conn : Connection) (message : Message) :
    (conn.writeIfOpen message).incoming = conn.incoming := by
  by_cases broken : conn.broken <;> simp [writeIfOpen, write, broken]

theorem CallAdvance.aside {number : Nat} {call : OutgoingCall}
    (advance : CallAdvance conn number call conn') :
    conn'.incoming = conn.incoming ∧ conn'.closed = conn.closed := by
  cases advance <;> exact ⟨rfl, rfl⟩

theorem roll_of_inbound {call : InboundCall} (found : conn.inbound[ticket]? = some call) :
    conn.roll[ticket]? = some (call.id, call.answered) := by
  simp [roll, found]

theorem settlement_of_inbound {call : InboundCall} (found : conn.inbound[ticket]? = some call)
    (fresh : call.answered = false) : conn.settlement ticket = [.settled ticket call.id] := by
  simp [settlement, roll_of_inbound found, fresh]

theorem settlement_of_answered
    (idle : ∀ call, conn.inbound[ticket]? = some call → call.answered = true) :
    conn.settlement ticket = [] := by
  unfold settlement
  cases found : conn.inbound[ticket]? with
  | none => simp [Connection.roll, found]
  | some call => simp [roll_of_inbound found, idle call found]

theorem encounters_of_idle {move : Move} (idle : conn.Idle move) : conn.encounters move = [] := by
  cases move with
  | receive message =>
    cases message with
    | call id method params => exact if_pos idle
    | _ => rfl
  | reply ticket outcome => exact settlement_of_answered idle
  | abandon ticket => exact settlement_of_answered idle
  | _ => rfl

theorem act_dealing (conn : Connection) (move : Move) :
    Dealing conn (conn.act move) (conn.encounters move) := by
  have deed := act_deed conn move
  generalize conn.act move = conn' at deed ⊢
  cases deed with
  | nothing idle =>
    rw [encounters_of_idle idle]
    exact .refl conn
  | step found advance =>
    have same : Unanswering False conn conn' := advance.unanswering
    exact .aside same.roll advance.aside.1 advance.aside.2
  | close =>
    have same : Unanswering False conn conn.close := close_unanswering conn
    exact .ended same.roll rfl rfl
  | accept id method params reading =>
    have taken : conn.dispatch (.call id method params) =
      (some (.call conn.inbound.length id method params), _) := rfl
    obtain ⟨place, roll, -⟩ := dispatch_call taken
    simp only [encounters, reading, Bool.false_eq_true, if_false]
    refine .taken id reading roll ?_ rfl
    rw [← place]
    rfl
  | cancelInbound method params ticket => exact .aside (roll_modifyInbound conn ticket) rfl rfl
  | reply outcome found fresh =>
    simp only [encounters, settlement_of_inbound found fresh]
    exact .settled (fresh ▸ roll_of_inbound found)
      ((writeIfOpen_aside _ _).1.trans (roll_retire found)) (incoming_writeIfOpen _ _)
      (writeIfOpen_frame _ _).2.2
  | abandon found fresh =>
    simp only [encounters, settlement_of_inbound found fresh]
    exact .settled (fresh ▸ roll_of_inbound found) (roll_retire found) rfl rfl
  | flush found =>
    have same : Unanswering False conn _ := flush_unanswering found
    exact .aside same.roll (incoming_writeIfOpen _ _) (writeIfOpen_frame _ _).2.2
  | notify =>
    exact .aside (writeIfOpen_aside _ _).1 (incoming_writeIfOpen _ _) (writeIfOpen_frame _ _).2.2
  | _ => exact .aside rfl rfl rfl

/-! ### The latest call -/

theorem latest?_eq_some_iff : latest? roll id = some ticket ↔
    awaits roll id ticket = true ∧ ∀ other, awaits roll id other = true → other ≤ ticket := by
  -- A call that awaits its answer stands in the roll.
  have listed : ∀ other, other ∈ (List.range roll.length).filter (awaits roll id) ↔
      awaits roll id other = true := by
    intro other
    simp only [List.mem_filter, List.mem_range, and_iff_right_iff_imp]
    intro waits
    exact (List.getElem?_eq_some_iff.mp (by simpa [awaits] using waits)).1
  simp only [latest?, List.max?_eq_some_iff, listed]

theorem awaits_append (roll : List (Id × Bool)) (other id : Id) (ticket : Nat) :
    awaits (roll ++ [(other, false)]) id ticket = true ↔
      awaits roll id ticket = true ∨ other = id ∧ ticket = roll.length := by
  simp only [awaits, decide_eq_true_eq]
  rcases Nat.lt_trichotomy ticket roll.length with within | rfl | outside
  · simp [List.getElem?_append_left within, Nat.ne_of_lt within]
  · simp
  · have before : roll[ticket]? = none := List.getElem?_eq_none (Nat.le_of_lt outside)
    have after : (roll ++ [(other, false)])[ticket]? = none := by
      refine List.getElem?_eq_none ?_
      rw [List.length_append]
      exact outside
    simp [before, after, Nat.ne_of_gt outside]

theorem latest?_append (roll : List (Id × Bool)) (other id : Id) :
    latest? (roll ++ [(other, false)]) id = if other = id then some roll.length else latest? roll id := by
  split
  · rename_i same
    refine latest?_eq_some_iff.mpr ⟨(awaits_append ..).mpr (.inr ⟨same, rfl⟩), fun ticket waits => ?_⟩
    -- All other calls stand before the new one in the roll.
    rcases (awaits_append ..).mp waits with before | ⟨-, rfl⟩
    · exact Nat.le_of_lt (List.getElem?_eq_some_iff.mp (by simpa [awaits] using before)).1
    · exact Nat.le_refl _
  · rename_i apart
    apply Option.ext
    intro ticket
    simp only [latest?_eq_some_iff, awaits_append, apart, false_and, or_false]

theorem awaits_set {other : Id} (unanswered : roll[ticket]? = some (other, false)) (id : Id)
    (place : Nat) : awaits (roll.set ticket (other, true)) id place = true ↔
      awaits roll id place = true ∧ place ≠ ticket := by
  obtain ⟨within, here⟩ := List.getElem?_eq_some_iff.mp unanswered
  simp only [awaits, decide_eq_true_eq]
  by_cases same : ticket = place
  · subst same
    simp [within]
  · simp [List.getElem?_set_ne same, Ne.symm same]

theorem latest?_set {other : Id} (unanswered : roll[ticket]? = some (other, false))
    (apart : id ≠ other) : latest? (roll.set ticket (other, true)) id = latest? roll id := by
  -- The call that is settled has another identifier, so it was not among those looked at.
  have elsewhere : ∀ place, awaits roll id place = true → place ≠ ticket := by
    rintro place waits rfl
    have named : roll[place]? = some (id, false) := by simpa [awaits] using waits
    rw [unanswered] at named
    cases named
    exact apart rfl
  have same : ∀ place, awaits (roll.set ticket (other, true)) id place = true ↔
      awaits roll id place = true := fun place =>
    (awaits_set unanswered id place).trans ⟨And.left, fun waits => ⟨waits, elsewhere place waits⟩⟩
  apply Option.ext
  intro place
  simp only [latest?_eq_some_iff, same]

theorem lookup_filter_ne (entries : List (Id × Nat)) (key id : Id) :
    (entries.filter (·.1 ≠ key)).lookup id = if id = key then none else entries.lookup id := by
  induction entries with
  | nil => simp
  | cons entry rest ih =>
    obtain ⟨other, ticket⟩ := entry
    by_cases left : other = key
    · subst left
      simp only [ne_eq, not_true_eq_false, decide_false, Bool.false_eq_true, not_false_eq_true,
        List.filter_cons_of_neg, ih]
      by_cases same : id = other
      · simp [same]
      · have apart : (id == other) = false := by simpa using same
        simp [same, List.lookup_cons, apart]
    · simp only [ne_eq, left, not_false_eq_true, decide_true, List.filter_cons_of_pos, List.lookup_cons]
      by_cases here : id = other
      · subst here
        simp [left]
      · have apart : (id == other) = false := by simpa using here
        simp only [apart]
        exact ih

/-! ### What is overtaken -/

theorem overtaken_append (known : .taken ticket id ∈ log) (next : Encounter) :
    overtaken (log ++ [next]) id ticket = (overtaken log id ticket || next.settles id) := by
  -- The search for the call ends before the new encounter.
  have found : (log.dropWhile (· != .taken ticket id)).isEmpty = false := by
    rw [List.isEmpty_eq_false_iff]
    intro none
    simpa using List.dropWhile_eq_nil_iff.mp none _ known
  simp only [overtaken, List.dropWhile_append, found, Bool.false_eq_true, if_false, List.any_append,
    List.any_cons, List.any_nil, Bool.or_false]

theorem overtaken_taken (unknown : .taken ticket id ∉ log) :
    overtaken (log ++ [.taken ticket id]) id ticket = false := by
  have passed : log.dropWhile (· != .taken ticket id) = [] :=
    List.dropWhile_eq_nil_iff.mpr fun encounter member => by
      simpa using ne_of_mem_of_not_mem member unknown
  simp [overtaken, List.dropWhile_append, passed, Encounter.settles]

/-! ### Runs -/

/--
What the connection knows of the peer's calls agrees with what has become of them.

While reading goes on, a cancellation finds the latest call of its identifier that awaits an answer,
unless another call with that identifier was settled since; after that it finds none.
-/
structure Tracks (conn : Connection) (log : List Encounter) : Prop where
  known : ∀ {id : Id} {ticket : Nat}, awaits conn.roll id ticket = true → .taken ticket id ∈ log
  past : ∀ {id : Id} {ticket : Nat}, .taken ticket id ∈ log → ticket < conn.roll.length
  table : conn.closed = false → ∀ id ticket, conn.incoming.lookup id = some ticket ↔
    latest? conn.roll id = some ticket ∧ overtaken log id ticket = false
  ended : conn.closed = true → conn.incoming = []

theorem fresh_tracks : Tracks {} [] where
  known := by simp [awaits, roll]
  past := by simp
  table := by simp [latest?, roll]
  ended := by simp

theorem Tracks.table_append (tracks : Tracks conn log) (reading : conn.closed = false)
    {next : Encounter} (other : next.settles id = false) :
    conn.incoming.lookup id = some ticket ↔
      latest? conn.roll id = some ticket ∧ overtaken (log ++ [next]) id ticket = false := by
  rw [tracks.table reading id ticket]
  refine and_congr_right fun latest => ?_
  rw [overtaken_append (tracks.known (latest?_eq_some_iff.mp latest).1), other, Bool.or_false]

theorem Tracks.deal (tracks : Tracks conn log) (dealing : Dealing conn conn' seen) :
    Tracks conn' (log ++ seen) := by
  cases dealing with
  | aside roll incoming closed =>
    rw [List.append_nil]
    refine ⟨?_, ?_, ?_, ?_⟩
    · rw [roll]
      exact tracks.known
    · rw [roll]
      exact tracks.past
    · rw [roll, incoming, closed]
      exact tracks.table
    · rw [incoming, closed]
      exact tracks.ended
  | taken other reading roll incoming closed =>
    refine ⟨fun {id ticket} waits => ?_, fun {id ticket} member => ?_, fun _ id ticket => ?_, ?_⟩
    · rw [roll] at waits
      rcases (awaits_append ..).mp waits with before | ⟨rfl, rfl⟩
      · exact List.mem_append_left _ (tracks.known before)
      · simp
    · rw [roll, List.length_append]
      rcases List.mem_append.mp member with before | new
      · exact Nat.lt_succ_of_lt (tracks.past before)
      · cases List.mem_singleton.mp new
        exact Nat.lt_succ_self _
    · rw [roll, incoming, latest?_append, List.lookup_cons, lookup_filter_ne]
      by_cases same : id = other
      · -- The new call takes the place of an older one with its identifier.
        subst same
        have unknown : .taken conn.roll.length id ∉ log := fun member =>
          Nat.lt_irrefl _ (tracks.past member)
        simp only [beq_self_eq_true, if_true, Option.some.injEq]
        refine ⟨?_, And.left⟩
        rintro rfl
        exact ⟨rfl, overtaken_taken unknown⟩
      · have apart : (id == other) = false := by simpa using same
        simp only [apart, same, Ne.symm same, if_false]
        exact tracks.table_append reading rfl
    · intro ended
      rw [closed, reading] at ended
      cases ended
  | @settled place other unanswered roll incoming closed =>
    refine ⟨fun {id ticket} waits => ?_, fun {id ticket} member => ?_, fun reading id ticket => ?_, ?_⟩
    · rw [roll] at waits
      exact List.mem_append_left _ (tracks.known ((awaits_set unanswered ..).mp waits).1)
    · rw [roll, List.length_set]
      rcases List.mem_append.mp member with before | new
      · exact tracks.past before
      · cases List.mem_singleton.mp new
    · rw [roll, incoming, lookup_filter_ne]
      by_cases same : id = other
      · -- The entry is gone, whichever call it was of: what still waits has been overtaken.
        subst same
        simp only [if_true, reduceCtorEq, false_iff, not_and, Bool.not_eq_false]
        intro latest
        have waits := ((awaits_set unanswered ..).mp (latest?_eq_some_iff.mp latest).1).1
        simp [overtaken_append (tracks.known waits), Encounter.settles]
      · rw [if_neg same, latest?_set unanswered same]
        refine tracks.table_append (closed.symm.trans reading) ?_
        simpa [Encounter.settles] using Ne.symm same
    · intro ended
      rw [incoming, tracks.ended (closed.symm.trans ended)]
      rfl
  | ended roll incoming closed =>
    rw [List.append_nil]
    refine ⟨?_, ?_, ?_, fun _ => incoming⟩
    · rw [roll]
      exact tracks.known
    · rw [roll]
      exact tracks.past
    · intro reading
      rw [closed] at reading
      cases reading

/-- What becomes of the peer's calls in the course of some moves, in order. -/
def callLog (moves : List Move) : List Encounter := trace act encounters {} moves

theorem play_tracks (moves : List Move) : Tracks (play {} moves) (callLog moves) := by
  have run := trace_induction Tracks (fun _ => True)
    (fun {conn log move} _ tracks => tracks.deal (act_dealing conn move)) fresh_tracks
    fun next (_ : next ∈ moves) => trivial
  rwa [List.nil_append] at run

theorem isCancelled_modifyInbound (conn : Connection) (ticket other : Nat) :
    (conn.modifyInbound ticket fun call => { call with cancelled := true }).isCancelled other =
      (conn.isCancelled other || decide (other = ticket) && (conn.inbound[ticket]?).isSome) := by
  simp only [isCancelled, modifyInbound, List.getElem?_modify]
  by_cases same : ticket = other
  · subst same
    cases conn.inbound[ticket]? <;> simp
  · simp [same, Ne.symm same]

theorem isSome_of_awaits (waits : awaits conn.roll id ticket = true) :
    (conn.inbound[ticket]?).isSome = true := by
  have listed : conn.roll[ticket]? = some (id, false) := by simpa [awaits] using waits
  rw [Connection.roll, List.getElem?_map] at listed
  obtain ⟨call, found, -⟩ := Option.map_eq_some_iff.mp listed
  rw [found]
  rfl

theorem Tracks.isCancelled_act (tracks : Tracks conn log) {params : Json}
    (named : Wire.decode params = .ok (CancelParams.mk id)) (ticket : Nat) :
    (conn.act (.receive (.notification cancelMethod params))).isCancelled ticket =
      (conn.isCancelled ticket ||
        decide (latest? conn.roll id = some ticket) && !overtaken log id ticket) := by
  cases reading : conn.closed with
  | true => simp [act, reading, isCancelled]
  | false =>
    have table := tracks.table reading id
    simp only [act, reading, dispatch, Bool.false_eq_true, if_false, if_true, cancelInbound, named]
    cases found : conn.incoming.lookup id with
    | none =>
      -- There is no entry, so the latest call, if there is one, has been overtaken.
      have passed : latest? conn.roll id = some ticket → overtaken log id ticket = true := by
        intro latest
        by_contra ahead
        have entry := (table ticket).mpr ⟨latest, by simpa using ahead⟩
        rw [found] at entry
        cases entry
      by_cases latest : latest? conn.roll id = some ticket
      · simp [passed latest]
      · simp [latest]
    | some reached =>
      obtain ⟨latest, ahead⟩ := (table reached).mp found
      have there := isSome_of_awaits (latest?_eq_some_iff.mp latest).1
      rw [isCancelled_modifyInbound, there, Bool.and_true]
      by_cases same : ticket = reached
      · subst same
        simp [latest, ahead]
      · simp [latest, same, Ne.symm same]

theorem Tracks.act_of_unawaited (tracks : Tracks conn log) {params : Json}
    (named : Wire.decode params = .ok (CancelParams.mk id)) (none : latest? conn.roll id = none) :
    conn.act (.receive (.notification cancelMethod params)) = conn := by
  cases reading : conn.closed with
  | true => simp [act, reading]
  | false =>
    have absent : conn.incoming.lookup id = Option.none := by
      refine Option.eq_none_iff_forall_not_mem.mpr fun ticket found => ?_
      have latest := ((tracks.table reading id ticket).mp found).1
      rw [none] at latest
      cases latest
    simp [act, reading, dispatch, cancelInbound, named, absent]

theorem closed_play (ended : conn.closed = true) (later : List Move) :
    (conn.play later).closed = true :=
  List.foldlRecOn (motive := fun conn : Connection => conn.closed = true) later act ended
    fun conn ended move _ => (Later.act conn move).closed ended

/--
A cancellation reaches the latest call of its identifier, unless another one was settled meanwhile.

Anything may have happened before, and the peer may have used an identifier again while a call with it
was unanswered. Where such a call is the latest one unanswered, the cancellation cancels it exactly if
no call with its identifier was answered or dropped since it was taken; all other calls are left as
they were. Where no call with the identifier is unanswered, nothing changes at all. When reading ends,
every unanswered call is cancelled, and no entry of the table is left, whatever happens after that.
-/
theorem cancellation_reaches_latest_unless_overtaken (moves : List Move) (id : Id) (params : Json)
    (named : Wire.decode params = .ok (CancelParams.mk id)) :
    let conn := play {} moves
    let after := conn.act (.receive (.notification cancelMethod params))
    (∀ ticket, latest? conn.roll id = some ticket →
      (after.isCancelled ticket = true ↔
        conn.isCancelled ticket = true ∨ overtaken (callLog moves) id ticket = false)) ∧
    (∀ ticket, latest? conn.roll id ≠ some ticket →
      after.isCancelled ticket = conn.isCancelled ticket) ∧
    (latest? conn.roll id = none → after = conn) ∧
    ∀ later : List Move,
      let ended := (conn.act .close).play later
      ended.incoming = [] ∧
        ∀ other ticket, awaits ended.roll other ticket = true → ended.isCancelled ticket = true := by
  intro conn after
  have tracks : Tracks conn (callLog moves) := play_tracks moves
  refine ⟨fun ticket latest => ?_, fun ticket apart => ?_, tracks.act_of_unawaited named,
    fun later => ?_⟩
  · rw [tracks.isCancelled_act named]
    simp [latest]
  · rw [tracks.isCancelled_act named]
    simp [apart]
  · intro ended
    have closed : ended.closed = true := closed_play rfl later
    have tracks : Tracks ended (callLog (moves ++ Move.close :: later)) := by
      have whole := play_tracks (moves ++ Move.close :: later)
      rwa [play, List.foldl_append, List.foldl_cons] at whole
    exact ⟨tracks.ended closed, fun _ _ _ => by simp [isCancelled, closed]⟩

def overlappingCalls : List Move :=
  [.receive (.call (.number 1) "hang" .null), .receive (.call (.number 1) "hang" .null)]

/-- Of two calls with one identifier a cancellation reaches the later one, and not the other. -/
theorem later_of_two_is_cancelled :
    let after := (play {} overlappingCalls).act
      (.receive (.notification cancelMethod (toJson (CancelParams.mk (.number 1)))))
    after.isCancelled 1 = true ∧ after.isCancelled 0 = false := by
  obtain ⟨reached, others, -⟩ := cancellation_reaches_latest_unless_overtaken overlappingCalls
    (.number 1) (toJson (CancelParams.mk (.number 1))) rfl
  refine ⟨(reached 1 (by decide +kernel)).mpr (.inr (by decide +kernel)), ?_⟩
  exact (others 0 (by decide +kernel)).trans (by decide +kernel)

/-- A call that is still unanswered escapes its cancellation, since a later call with its identifier
was answered meanwhile. -/
theorem reused_identifier_escapes_cancellation :
    let conn := play {} (overlappingCalls ++ [.reply 1 (.ok .null)])
    latest? conn.roll (.number 1) = some 0 ∧
      (conn.act (.receive (.notification cancelMethod
        (toJson (CancelParams.mk (.number 1)))))).isCancelled 0 = false := by
  decide +kernel

end PolicyServer.Rpc.Connection
