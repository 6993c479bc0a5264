import PolicyServer.Proofs.Rpc.Stream
import PolicyServer.Proofs.Session.Moves

/-! A session deals with what its editor sends in the order in which it is sent. -/

namespace PolicyServer.Session

open Rpc (Arrival Connection Delivery Intake Message Reader Reception arrivals frameEnd)

variable {c : Collaborators} {s : Session}

/-! ### What leaves the intake alone -/

theorem sendMessage_intake (s : Session) (message : Outgoing) :
    (s.sendMessage message).intake = s.intake := by
  have asked : ∀ kind, (s.ask message kind).intake = s.intake := by
    intro kind
    unfold ask
    split <;> rfl
  unfold sendMessage
  split
  · exact asked _
  · exact asked _
  · rfl

theorem foldl_intake {α : Type} {step : Session → α → Session}
    (kept : ∀ s item, (step s item).intake = s.intake) (items : List α) (s : Session) :
    (items.foldl step s).intake = s.intake := by
  refine List.foldlRecOn (motive := fun mid : Session => mid.intake = s.intake) items step rfl ?_
  intro mid same item _
  rw [kept, same]

theorem relay_intake (s : Session) : s.relay.intake = s.intake := by
  -- Each part of it goes through a list, and keeps the intake at every entry.
  have givenUp : ∀ s : Session, s.giveUpSettings.intake = s.intake := by
    intro s
    unfold giveUpSettings
    split
    · exact foldl_intake (fun s entry => by dsimp only; split <;> rfl) _ _
    · rfl
  have answered : ∀ s : Session, s.takeAnswers.intake = s.intake := fun s =>
    foldl_intake (fun s entry => by dsimp only; split <;> rfl) s.asks { s with asks := [] }
  have replied : ∀ s : Session, s.replyAll.intake = s.intake := fun s =>
    foldl_intake (fun s entry => by dsimp only; split <;> rfl) s.tickets { s with tickets := [] }
  have passed : ∀ s : Session, s.passCancellations.intake = s.intake := fun s =>
    foldl_intake (fun s entry => by dsimp only; split <;> rfl) s.tickets s
  unfold relay
  dsimp only [noteLink]
  rw [passed, replied, answered]
  exact (givenUp _).trans (foldl_intake sendMessage_intake _ _)

theorem receive_intake (s : Session) (arrival : Arrival) :
    (s.receive c arrival).intake = s.intake := by
  cases arrival with
  | last ending => rfl
  | message message =>
    simp only [receive]
    split
    · rfl
    · unfold hear
      split <;> rfl
    · unfold serve
      split <;> rfl

/-- What a session does with what its connection hands it: it hears of it, or serves it. -/
def handOver (c : Collaborators) (delivery : Delivery) (state : Connection × Session) :
    Connection × Session :=
  let s := { state.2 with conn := state.1 }
  let later := match delivery with
    | .notification method params => s.hear method params
    | .call ticket _ method params => s.serve c ticket method params
  (later.conn, later)

theorem receive_eq_meet (c : Collaborators) (s : Session) (arrival : Arrival) :
    s.receive c arrival =
      { (Reader.meet (handOver c) (s.conn, s) arrival).2 with
        conn := (Reader.meet (handOver c) (s.conn, s) arrival).1 } := by
  cases arrival with
  | last ending => rfl
  | message message =>
    simp only [receive, Reader.meet]
    -- The connection keeps the message for itself, or hands over one of two things.
    split
    · rename_i dispatched
      rw [dispatched]
    · rename_i dispatched
      rw [dispatched]
      rfl
    · rename_i dispatched
      rw [dispatched]
      rfl

/-! ### What a session deals with -/

def arrivalIn (s : Session) : Move → List Arrival
  | .receive => (s.intake.next?.map (·.1)).toList
  | _ => []

/-- The arrivals that are dealt with in the course of some moves, in order. -/
def arrivalsIn (c : Collaborators) : Session → List Move → List Arrival
  | _, [] => []
  | s, move :: rest => s.arrivalIn move ++ arrivalsIn c (s.act c move) rest

namespace Move

def isFinish : Move → Bool
  | .finish => true
  | _ => false

def bytes : Move → Bytes
  | .feed chunk => chunk
  | _ => []

end Move

def Orderly (moves : List Move) : Prop :=
  moves.Pairwise fun earlier later => earlier.isFinish = true → later.bytes = []

variable {received : Bytes} {dealt : List Arrival}

theorem reads_act (reads : Intake.Reads received dealt s.intake) {move : Move}
    (orderly : s.intake.ended = true → move.bytes = []) :
    Intake.Reads (received ++ move.bytes) (dealt ++ s.arrivalIn move) (s.act c move).intake ∧
      (s.act c move).intake.ended = (s.intake.ended || move.isFinish) := by
  -- Whatever leaves the intake alone deals with nothing.
  have aside : ∀ s' : Session, s'.intake = s.intake →
      Intake.Reads (received ++ []) (dealt ++ []) s'.intake ∧
        s'.intake.ended = (s.intake.ended || false) := by
    intro s' same
    rw [same, List.append_nil, List.append_nil, Bool.or_false]
    exact ⟨reads, rfl⟩
  cases move with
  | within move =>
    refine aside _ ?_
    simp only [act]
    split <;> rfl
  | hangUp => exact aside _ rfl
  | relay => exact aside _ (relay_intake s)
  | finish =>
    refine ⟨?_, (Bool.or_true _).symm⟩
    simp only [arrivalIn, Move.bytes, List.append_nil]
    exact reads.finish
  | feed chunk =>
    simp only [arrivalIn, List.append_nil, Move.isFinish, Bool.or_false]
    refine ⟨?_, rfl⟩
    cases ended : s.intake.ended with
    | false => exact reads.feed ended chunk
    | true =>
      -- After the end nothing comes, which is as good as no bytes.
      have none : chunk = [] := orderly ended
      simpa [none, act, Session.feed, Intake.feed, Move.bytes] using reads
  | receive =>
    simp only [Move.bytes, List.append_nil, Move.isFinish, Bool.or_false]
    cases next : s.intake.next? with
    | none => simpa [act, next, arrivalIn] using reads
    | some pair =>
      simp only [act, next, arrivalIn, receive_intake]
      exact reads.next next

theorem reads_play (reads : Intake.Reads received dealt s.intake) {moves : List Move}
    (orderly : Orderly moves)
    (finished : s.intake.ended = true → ∀ move ∈ moves, move.bytes = []) :
    Intake.Reads (received ++ moves.flatMap Move.bytes) (dealt ++ s.arrivalsIn c moves)
        (s.play c moves).intake ∧
      (s.play c moves).intake.ended = (s.intake.ended || moves.any Move.isFinish) := by
  induction moves generalizing s received dealt with
  | nil => simpa [arrivalsIn, play] using reads
  | cons move rest ih =>
    obtain ⟨after, others⟩ := List.pairwise_cons.mp orderly
    obtain ⟨reads', ended⟩ :=
      reads_act (c := c) reads fun closed => finished closed move List.mem_cons_self
    -- Once the editor has sent all, be it before this move or by it, nothing comes any more.
    have finished' : (s.act c move).intake.ended = true → ∀ later ∈ rest, later.bytes = [] := by
      intro closed later member
      rw [ended, Bool.or_eq_true] at closed
      rcases closed with before | now
      · exact finished before later (List.mem_cons_of_mem _ member)
      · exact after later member now
    obtain ⟨all, ended'⟩ := ih reads' others finished'
    rw [ended, Bool.or_assoc] at ended'
    refine ⟨?_, ended'⟩
    rw [List.append_assoc, List.append_assoc] at all
    exact all

/--
A stream is dealt with in its order, in whatever pieces it comes.

What it brings when it is there as a whole are the messages in its frames, up to the first body that
does not decode, frame that is none, or end. A reader deals with the same arrivals in the same order
whoever owns the connection, and however the pieces, the end of the stream and the reader's turns
follow each other, and after turns enough it has dealt with all. So does a session, whatever else
happens in it, and it deals with each arrival as a reader does. When one arrival is dealt with, the
next is at hand if the bytes that have come bring one; and they bring a message as soon as the last
byte of its frame has come.
-/
theorem stream_dealt_with_in_order :
    (∀ (ended : Bool) (bytes : Bytes),
      (Intake.drain { buffer := bytes, ended := ended }).1 = arrivals ended bytes) ∧
    (∀ (σ : Type) (handle : Delivery → Connection × σ → Connection × σ) (conn : Connection)
      (owner : σ) (events : List Reception),
      let brought := arrivals (events.any Reception.isFinish) (Reception.bytesOf events)
      let reader := events.foldl (Reader.act handle) ⟨{}, conn, owner⟩
      let rested := (List.replicate brought.length .turn).foldl (Reader.act handle) reader
      (∃ dealt rest, brought = dealt ++ rest ∧
        (reader.conn, reader.owner) = dealt.foldl (Reader.meet handle) (conn, owner) ∧
        reader.intake.ending = dealt.findSome? Arrival.ending? ∧
        reader.intake.next?.map (·.1) = rest.head?) ∧
      (rested.conn, rested.owner) = brought.foldl (Reader.meet handle) (conn, owner) ∧
        rested.intake.ending = brought.findSome? Arrival.ending?) ∧
    (∀ (c : Collaborators) (names : Nat → String) (supported : Bool) (limit : Nat)
      (moves : List Move), Orderly moves →
      let s := (fresh names supported limit).play c moves
      let dealt := (fresh names supported limit).arrivalsIn c moves
      ∃ rest,
        arrivals (moves.any Move.isFinish) (moves.flatMap Move.bytes) = dealt ++ rest ∧
        s.intake.ending = dealt.findSome? Arrival.ending? ∧
        s.intake.next?.map (·.1) = rest.head?) ∧
    (∀ (c : Collaborators) (s : Session) (arrival : Arrival),
      let met := Reader.meet (handOver c) (s.conn, s) arrival
      s.receive c arrival = { met.2 with conn := met.1 }) ∧
    ∀ (ended : Bool) (early late : Bytes) (number : Nat) (message : Message),
      (arrivals ended (early ++ late))[number]? = some (.message message) →
      ((arrivals false early)[number]? = some (.message message) ↔
        frameEnd ended (early ++ late) number ≤ early.length) := by
  refine ⟨fun ended bytes => Intake.take_eq_arrivals (Nat.lt_succ_self _), ?_, ?_, receive_eq_meet,
    fun ended early late number message there => Rpc.arrived_iff there⟩
  · intro σ handle conn owner events brought reader rested
    obtain ⟨⟨dealt, keeps⟩, ended⟩ := (Reader.Keeps.fresh handle conn owner).play events
    obtain ⟨ending, rest, whole, next⟩ := keeps.reads.brings
    -- No more turns are needed than there are arrivals in all.
    have few : rest.length ≤ brought.length := by
      have sum := congrArg List.length whole
      rw [ended, List.length_append] at sum
      exact sum ▸ Nat.le_add_left ..
    have keeps' := keeps.turns whole few
    rw [← whole, ended] at keeps'
    rw [ended] at whole
    exact ⟨⟨dealt, rest, whole, keeps.state, ending, next⟩, keeps'.state, keeps'.reads.brings.1⟩
  · intro c names supported limit moves orderly s dealt
    obtain ⟨reads, ended⟩ :=
      reads_play (c := c) (s := fresh names supported limit) .start orderly nofun
    obtain ⟨ending, rest, brought, next⟩ := reads.brings
    rw [ended] at brought
    exact ⟨rest, brought, ending, next⟩

/-- A stream with a message, a line that is no header, and more. -/
def brokenStream : Bytes :=
  Rpc.Frame.write (Message.notification "a" .null).encode ++ [0x78, 0x0A, 0x79]

/-- An editor whose bytes are cut within the digits of a length and before the last byte of a frame. -/
def hesitantEditor : List Move := [.feed (brokenStream.take 17), .receive,
  .feed ((brokenStream.drop 17).take 34), .receive, .feed (brokenStream.drop 51), .relay, .receive,
  .finish, .receive, .receive]

/-- The session deals with all that the stream brings, and before the last byte of its only message
has come there is none. -/
theorem hesitant_editor_is_heard :
    Orderly hesitantEditor ∧
      arrivals true brokenStream =
        (fresh (fun _ => "") false 1).arrivalsIn promptCollaborators hesitantEditor ∧
      (arrivals true brokenStream)[0]? = some (.message (.notification "a" .null)) ∧
      (arrivals false (brokenStream.take 51))[0]? = none ∧
      51 < frameEnd true brokenStream 0 := by
  obtain ⟨whole, -, inSession, -, early⟩ := stream_dealt_with_in_order
  have orderly : Orderly hesitantEditor := by
    simp [Orderly, hesitantEditor, Move.isFinish, Move.bytes]
  obtain ⟨rest, brought, -, next⟩ :=
    inSession promptCollaborators (fun _ => "") false 1 hesitantEditor orderly
  have none : rest = [] := List.head?_eq_none_iff.mp (next.symm.trans rfl)
  rw [none, List.append_nil] at brought
  have first : (arrivals true brokenStream)[0]? = some (.message (.notification "a" .null)) := by
    rw [← whole]
    rfl
  have nothing : (arrivals false (brokenStream.take 51))[0]? = .none := by
    rw [← whole]
    rfl
  have moment := early true (brokenStream.take 51) (brokenStream.drop 51) 0 (.notification "a" .null)
  refine ⟨orderly, brought, first, nothing, Nat.lt_of_not_le fun complete => ?_⟩
  have there := (moment first).mpr complete
  rw [nothing] at there
  cases there

end PolicyServer.Session
