import PolicyServer.Proofs.Rpc.Frames
import PolicyServer.Rpc.Connection
import PolicyServer.Rpc.Intake

/-! What a stream of bytes brings, in whatever pieces it comes and however often it is looked at. -/

namespace PolicyServer.Rpc

variable {ended : Bool} {bytes body rest : Bytes} {used : Nat} {intake later : Intake}
  {arrival : Arrival} {dealt : List Arrival} {message : Message}

def Arrival.ending? : Arrival → Option Ending
  | .message _ => none
  | .last ending => some ending

/-- The arrivals that some bodies make, the first that does not decode being the last. -/
def Arrival.ofReads : List (Except MessageError Message × Nat) → Option Ending → List Arrival
  | [], ending => (ending.map .last).toList
  | (.ok found, _) :: later, ending => .message found :: ofReads later ending
  | (.error error, _) :: _, _ => [.last (.error (.undecodable error))]

/-- All that a stream brings, of which these bytes have come and, if `ended`, no more will. -/
def arrivals (ended : Bool) (bytes : Bytes) : List Arrival :=
  Arrival.ofReads (Frame.readAll Message.decode ended bytes).1
    (Frame.readAll Message.decode ended bytes).2

/-- The place in a stream at which the frame of that number is complete. -/
def frameEnd (ended : Bool) (bytes : Bytes) (number : Nat) : Nat :=
  ((Frame.readAll Message.decode ended bytes).1.take (number + 1)).foldr (fun read after =>
    read.2 + after) 0

theorem arrivals_message (read : Frame.next ended bytes = .frame body used rest)
    (decoded : Message.decode body = .ok message) :
    arrivals ended bytes = .message message :: arrivals ended rest := by
  simp only [arrivals, Frame.readAll_frame _ read, decoded, Arrival.ofReads]

theorem arrivals_undecodable {error : MessageError}
    (read : Frame.next ended bytes = .frame body used rest)
    (decoded : Message.decode body = .error error) :
    arrivals ended bytes = [.last (.error (.undecodable error))] := by
  simp only [arrivals, Frame.readAll_frame _ read, decoded, Arrival.ofReads]

theorem arrivals_waiting (read : Frame.next ended bytes = .waiting) : arrivals ended bytes = [] := by
  rw [arrivals, Frame.readAll]
  split <;> simp_all [Arrival.ofReads]

theorem arrivals_ended (read : Frame.next ended bytes = .ended) :
    arrivals ended bytes = [.last (.ok ())] := by
  rw [arrivals, Frame.readAll]
  split <;> simp_all [Arrival.ofReads]

theorem arrivals_failed {error : FrameError} (read : Frame.next ended bytes = .failed error) :
    arrivals ended bytes = [.last (.error error)] := by
  rw [arrivals, Frame.readAll]
  split <;> simp_all [Arrival.ofReads]

/-! ### The moment at which a message comes -/

theorem frameEnd_frame (read : Frame.next ended bytes = .frame body used rest) (number : Nat) :
    frameEnd ended bytes 0 = used ∧
      frameEnd ended bytes (number + 1) = used + frameEnd ended rest number := by
  simp [frameEnd, Frame.readAll_frame _ read]

theorem early_cases {early late : Bytes}
    (read : Frame.next ended (early ++ late) = .frame body used rest) :
    (early.length < used ∧ arrivals false early = []) ∨
      ∃ after, Frame.next false early = .frame body used after ∧ rest = after ++ late ∧
        early.length = used + after.length := by
  cases first : Frame.next false early with
  | ended => exact absurd first ((Frame.readHeaders_open false none [] 0 early).1 rfl)
  | failed error =>
    -- What fails early fails whatever follows.
    rw [Frame.next_failed first ended late] at read
    cases read
  | frame body' used' after =>
    -- What is a frame early is the first frame of the stream.
    obtain ⟨frame, rfl, rfl, isFrame⟩ := Frame.next_frame first
    rw [List.append_assoc, isFrame.read ended] at read
    cases read
    exact .inr ⟨after, rfl, rfl, List.length_append⟩
  | waiting =>
    refine .inl ⟨?_, arrivals_waiting first⟩
    -- A frame within the early bytes would not be waited for.
    obtain ⟨frame, split, rfl, isFrame⟩ := Frame.next_frame read
    by_contra long
    obtain ⟨after, rfl⟩ : frame <+: early :=
      List.prefix_of_prefix_length_le ⟨rest, split.symm⟩ (List.prefix_append early late)
        (Nat.le_of_not_lt long)
    rw [isFrame.read false after] at first
    cases first

theorem next_of_arrivals {number : Nat}
    (there : (arrivals ended bytes)[number]? = some (.message message)) :
    ∃ body used rest first, Frame.next ended bytes = .frame body used rest ∧
      Message.decode body = .ok first := by
  -- In all other cases there is the end at most.
  cases read : Frame.next ended bytes with
  | waiting => simp [arrivals_waiting read] at there
  | ended => simp [arrivals_ended read, List.getElem?_singleton] at there
  | failed error => simp [arrivals_failed read, List.getElem?_singleton] at there
  | frame body used rest =>
    cases decoded : Message.decode body with
    | error error => simp [arrivals_undecodable read decoded, List.getElem?_singleton] at there
    | ok first => exact ⟨body, used, rest, first, rfl, decoded⟩

theorem arrived_iff {number : Nat} {early late : Bytes}
    (there : (arrivals ended (early ++ late))[number]? = some (.message message)) :
    (arrivals false early)[number]? = some (.message message) ↔
      frameEnd ended (early ++ late) number ≤ early.length := by
  -- Frame by frame, as long as they are complete within the early bytes.
  induction number generalizing early with
  | zero =>
    obtain ⟨body, used, rest, first, read, decoded⟩ := next_of_arrivals there
    rw [(frameEnd_frame read 0).1]
    rcases early_cases read with ⟨short, nothing⟩ | ⟨after, again, rfl, sum⟩
    · simp [nothing, short]
    · rw [arrivals_message read decoded] at there
      rw [arrivals_message again decoded]
      exact ⟨fun _ => by omega, fun _ => there⟩
  | succ number ih =>
    obtain ⟨body, used, rest, first, read, decoded⟩ := next_of_arrivals there
    rw [(frameEnd_frame read number).2]
    rcases early_cases read with ⟨short, nothing⟩ | ⟨after, again, rfl, sum⟩
    · rw [nothing]
      exact ⟨nofun, fun _ => by omega⟩
    · rw [arrivals_message read decoded, List.getElem?_cons_succ] at there
      rw [arrivals_message again decoded, List.getElem?_cons_succ, ih there, sum]
      omega

/-! ### Reading bit by bit -/

/--
An intake that has received some bytes and has dealt with some arrivals.

As long as it goes on reading, the bytes it no longer has are those that brought the arrivals,
whatever follows them. When it has stopped, they are all there will ever be.
-/
inductive Intake.Reads (bytes : Bytes) (dealt : List Arrival) : Intake → Prop where
  | on (front : Bytes) {buffer : Bytes} {ended : Bool} (split : bytes = front ++ buffer)
    (brought : ∀ ended more, arrivals ended (front ++ more) = dealt ++ arrivals ended more)
    (unended : dealt.findSome? Arrival.ending? = none) : Reads bytes dealt ⟨buffer, ended, none⟩
  | stopped {buffer : Bytes} {ended : Bool} {ending : Ending}
    (brought : ∀ ended' more, (ended = true → ended' = true ∧ more = []) →
      arrivals ended' (bytes ++ more) = dealt)
    (last : dealt.findSome? Arrival.ending? = some ending) :
    Reads bytes dealt ⟨buffer, ended, some ending⟩

namespace Intake

theorem Reads.start : Reads [] [] {} := .on [] rfl (fun _ _ => rfl) rfl

theorem Reads.feed (reads : Reads bytes dealt intake) (unfinished : intake.ended = false)
    (chunk : Bytes) : Reads (bytes ++ chunk) dealt (intake.feed chunk) := by
  cases reads with
  | on front split brought unended => exact .on front (by rw [split, List.append_assoc]) brought unended
  | stopped brought last =>
    cases unfinished
    refine .stopped (fun ended more free => ?_) last
    rw [List.append_assoc]
    exact brought ended (chunk ++ more) nofun

theorem Reads.finish (reads : Reads bytes dealt intake) : Reads bytes dealt intake.finish := by
  cases reads with
  | on front split brought unended => exact .on front split brought unended
  | stopped brought last =>
    refine .stopped (fun ended more closed => ?_) last
    obtain ⟨rfl, rfl⟩ := closed rfl
    exact brought true [] fun _ => ⟨rfl, rfl⟩

theorem next?_cases (buffer : Bytes) (ended : Bool) :
    let intake : Intake := ⟨buffer, ended, none⟩
    (intake.next? = none ∧ arrivals ended buffer = []) ∨
    (∃ front message rest, buffer = front ++ rest ∧ 0 < front.length ∧
      intake.next? = some (.message message, ⟨rest, ended, none⟩) ∧
      ∀ ended more, arrivals ended (front ++ more) = .message message :: arrivals ended more) ∨
    ∃ ending, intake.next? = some (.last ending, ⟨buffer, ended, some ending⟩) ∧
      ∀ ended' more, (ended = true → ended' = true ∧ more = []) →
        arrivals ended' (buffer ++ more) = [.last ending] := by
  intro intake
  cases read : Frame.next ended buffer with
  | waiting => exact .inl ⟨by simp [intake, next?, read], arrivals_waiting read⟩
  | ended =>
    -- The end is found only when no more bytes come.
    refine .inr (.inr ⟨.ok (), by simp [intake, next?, read, stop], fun ended' more closed => ?_⟩)
    cases ended with
    | false => exact absurd read ((Frame.readHeaders_open false none [] 0 buffer).1 rfl)
    | true =>
      obtain ⟨rfl, rfl⟩ := closed rfl
      rw [List.append_nil]
      exact arrivals_ended read
  | failed error =>
    refine .inr (.inr ⟨.error error, by simp [intake, next?, read, stop], fun ended' more closed => ?_⟩)
    cases ended with
    | false => exact arrivals_failed (Frame.next_failed read ended' more)
    | true =>
      obtain ⟨rfl, rfl⟩ := closed rfl
      rw [List.append_nil]
      exact arrivals_failed read
  | frame body used rest =>
    obtain ⟨front, rfl, -, isFrame⟩ := Frame.next_frame read
    have some : 0 < front.length := by
      obtain ⟨headers, rfl⟩ := isFrame.headed
      rw [List.length_append]
      exact Nat.add_pos_right _ isFrame.sized.1
    cases decoded : Message.decode body with
    | ok message =>
      exact .inr (.inl ⟨front, message, rest, rfl, some, by simp [intake, next?, read, decoded],
        fun ended more => arrivals_message (isFrame.read ended more) decoded⟩)
    | error error =>
      refine .inr (.inr ⟨.error (.undecodable error), by simp [intake, next?, read, decoded, stop],
        fun ended' more _ => ?_⟩)
      rw [List.append_assoc]
      exact arrivals_undecodable (isFrame.read ended' (rest ++ more)) decoded

theorem Reads.next (reads : Reads bytes dealt intake)
    (next : intake.next? = some (arrival, later)) :
    Reads bytes (dealt ++ [arrival]) later ∧ later.ended = intake.ended := by
  cases reads with
  | stopped brought last => simp [next?] at next
  | @on front buffer ended split brought unended =>
    rcases next?_cases buffer ended with
      ⟨none, -⟩ | ⟨taken, message, rest, rfl, -, some, first⟩ | ⟨ending, some, closed⟩
    · simp [none] at next
    · -- The frame joins the bytes that brought the arrivals before.
      cases some.symm.trans next
      refine ⟨.on (front ++ taken) (by rw [split, List.append_assoc]) (fun ended more => ?_)
        (by simp [List.findSome?_append, unended, Arrival.ending?]), rfl⟩
      rw [List.append_assoc, brought, first, List.append_assoc]
      rfl
    · cases some.symm.trans next
      refine ⟨.stopped (fun ended' more free => ?_)
        (by simp [List.findSome?_append, unended, Arrival.ending?]), rfl⟩
      rw [split, List.append_assoc, brought, closed ended' more free]

theorem Reads.brings (reads : Reads bytes dealt intake) :
    intake.ending = dealt.findSome? Arrival.ending? ∧
      ∃ rest, arrivals intake.ended bytes = dealt ++ rest ∧
        intake.next?.map (·.1) = rest.head? := by
  cases reads with
  | @stopped buffer ended ending brought last =>
    refine ⟨last.symm, [], ?_, rfl⟩
    have all := brought ended [] fun closed => ⟨closed, rfl⟩
    rwa [List.append_nil] at all ⊢
  | @on front buffer ended split brought unended =>
    refine ⟨unended.symm, arrivals ended buffer, by rw [split, brought], ?_⟩
    rcases next?_cases buffer ended with
      ⟨none, nothing⟩ | ⟨taken, message, rest, rfl, -, some, first⟩ | ⟨ending, some, closed⟩
    · rw [none, nothing]
      rfl
    · rw [some, first]
      rfl
    · have last := closed ended [] fun closed => ⟨closed, rfl⟩
      rw [List.append_nil] at last
      rw [some, last]
      rfl

theorem take_eq_arrivals {limit : Nat} {buffer : Bytes} (ample : buffer.length < limit) :
    (take limit ⟨buffer, ended, none⟩).1 = arrivals ended buffer := by
  induction limit generalizing buffer with
  | zero => exact absurd ample (Nat.not_lt_zero _)
  | succ limit ih =>
    rcases next?_cases buffer ended with
      ⟨none, nothing⟩ | ⟨front, message, rest, rfl, some, next, first⟩ | ⟨ending, next, closed⟩
    · simp [take, none, nothing]
    · -- The frame takes a byte at least, so the smaller limit is enough for the others.
      rw [List.length_append] at ample
      have others : (take limit ⟨rest, ended, none⟩).1 = arrivals ended rest := ih (by omega)
      simp [take, next, first, others]
    · have last := closed ended [] fun closed => ⟨closed, rfl⟩
      rw [List.append_nil] at last
      -- After the end nothing is taken, whatever the limit.
      have none : (take limit ⟨buffer, ended, some ending⟩).1 = [] := by
        cases limit <;> simp [take, next?]
      simp [take, next, last, none]

end Intake

/-! ### Reading on behalf of an owner -/

/-- What happens to one who reads a stream: bytes come, or no more of them, or all that came before
is dealt with and the next arrival is looked for. -/
inductive Reception where
  | chunk (bytes : Bytes)
  | finish
  | turn

namespace Reception

def isFinish : Reception → Bool
  | .finish => true
  | _ => false

def bytesOf : List Reception → Bytes
  | [] => []
  | .chunk bytes :: rest => bytes ++ bytesOf rest
  | .finish :: _ => []
  | .turn :: rest => bytesOf rest

end Reception

/-- One who reads a stream, with the connection that arrivals concern and the state of its owner. -/
structure Reader (σ : Type) where
  intake : Intake := {}
  conn : Connection := {}
  owner : σ

namespace Reader

variable {σ : Type} (handle : Delivery → Connection × σ → Connection × σ)

/-- Deals with an arrival: what is for the owner is handed to it, and the end closes the connection. -/
def meet (state : Connection × σ) : Arrival → Connection × σ
  | .last _ => (state.1.close, state.2)
  | .message message =>
    match state.1.dispatch message with
    | (none, conn) => (conn, state.2)
    | (some delivery, conn) => handle delivery (conn, state.2)

/-- The reader after something has happened. After the end of the stream no bytes come. -/
def act (reader : Reader σ) : Reception → Reader σ
  | .chunk bytes =>
    if reader.intake.ended then reader else { reader with intake := reader.intake.feed bytes }
  | .finish => { reader with intake := reader.intake.finish }
  | .turn =>
    match reader.intake.next? with
    | none => reader
    | some (arrival, intake) =>
      let (conn, owner) := meet handle (reader.conn, reader.owner) arrival
      { intake, conn, owner }

variable {handle} {start : Connection × σ} {reader : Reader σ}

/-- A reader that has received some bytes has dealt with some arrivals, one after the other. -/
structure Keeps (handle : Delivery → Connection × σ → Connection × σ) (start : Connection × σ)
    (bytes : Bytes) (dealt : List Arrival) (reader : Reader σ) : Prop where
  reads : Intake.Reads bytes dealt reader.intake
  state : (reader.conn, reader.owner) = dealt.foldl (meet handle) start

theorem Keeps.turn (keeps : Keeps handle start bytes dealt reader) :
    Keeps handle start bytes (dealt ++ (reader.intake.next?.map (·.1)).toList)
        (reader.act handle .turn) ∧
      (reader.act handle .turn).intake.ended = reader.intake.ended := by
  cases next : reader.intake.next? with
  | none =>
    have same : reader.act handle .turn = reader := by simp [act, next]
    rw [same]
    exact ⟨by simpa using keeps, rfl⟩
  | some pair =>
    obtain ⟨reads, ended⟩ := keeps.reads.next next
    simp only [act, next]
    refine ⟨⟨reads, ?_⟩, ended⟩
    rw [List.foldl_append, ← keeps.state]
    rfl

theorem Keeps.turns (keeps : Keeps handle start bytes dealt reader) {rest : List Arrival}
    (brought : arrivals reader.intake.ended bytes = dealt ++ rest) {turns : Nat}
    (enough : rest.length ≤ turns) :
    Keeps handle start bytes (dealt ++ rest)
      ((List.replicate turns .turn).foldl (act handle) reader) := by
  -- Each turn takes the first arrival off the rest.
  induction turns generalizing dealt reader rest with
  | zero =>
    have none : rest = [] := List.length_eq_zero_iff.mp (Nat.le_zero.mp enough)
    simpa [none] using keeps
  | succ turns ih =>
    obtain ⟨keeps', ended⟩ := keeps.turn
    obtain ⟨-, rest', brought', next⟩ := keeps.reads.brings
    have same : rest' = rest := List.append_cancel_left (brought'.symm.trans brought)
    subst same
    rw [next] at keeps'
    rw [← ended] at brought
    cases rest' with
    | nil => exact ih (by simpa using keeps') brought (Nat.zero_le _)
    | cons arrival others =>
      have whole : dealt ++ arrival :: others = (dealt ++ [arrival]) ++ others := by simp
      rw [whole] at brought ⊢
      exact ih keeps' brought (Nat.le_of_succ_le_succ enough)

theorem Keeps.play (keeps : Keeps handle start bytes dealt reader) (events : List Reception) :
    (∃ dealt', Keeps handle start
      (bytes ++ if reader.intake.ended then [] else Reception.bytesOf events) dealt'
        (events.foldl (act handle) reader)) ∧
      (events.foldl (act handle) reader).intake.ended =
        (reader.intake.ended || events.any Reception.isFinish) := by
  induction events generalizing bytes dealt reader with
  | nil => simpa [Reception.bytesOf] using ⟨dealt, keeps⟩
  | cons event events ih =>
    cases event with
    | chunk more =>
      cases ended : reader.intake.ended with
      | true =>
        have same : reader.act handle (.chunk more) = reader := by simp [act, ended]
        have later := ih keeps
        rw [List.foldl_cons, same]
        simpa [ended, Reception.isFinish] using later
      | false =>
        have fed : reader.act handle (.chunk more) =
            { reader with intake := reader.intake.feed more } := by
          simp [act, ended]
        have keeps' : Keeps handle start (bytes ++ more) dealt (reader.act handle (.chunk more)) := by
          rw [fed]
          exact ⟨keeps.reads.feed ended more, keeps.state⟩
        have later := ih keeps'
        have ended' : (reader.act handle (.chunk more)).intake.ended = false := by
          rw [fed]
          exact ended
        simpa [ended', Reception.bytesOf, Reception.isFinish, List.append_assoc] using later
    | finish =>
      have keeps' : Keeps handle start bytes dealt (reader.act handle .finish) :=
        ⟨keeps.reads.finish, keeps.state⟩
      have later := ih keeps'
      have ended' : (reader.act handle .finish).intake.ended = true := rfl
      simpa [ended', Reception.bytesOf, Reception.isFinish] using later
    | turn =>
      obtain ⟨keeps', same⟩ := keeps.turn
      have later := ih keeps'
      rw [same] at later
      simpa [Reception.bytesOf, Reception.isFinish] using later

theorem Keeps.fresh (handle : Delivery → Connection × σ → Connection × σ) (conn : Connection)
    (owner : σ) : Keeps handle (conn, owner) [] [] { conn, owner } :=
  ⟨.start, rfl⟩

end Reader

end PolicyServer.Rpc
