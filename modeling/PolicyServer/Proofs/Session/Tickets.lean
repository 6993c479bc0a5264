import Mathlib.Data.List.Nodup
import PolicyServer.Proofs.Rpc.Answers
import PolicyServer.Proofs.Session.Moves

/-! Every call that a task is to answer stays on the list until the task has left its answer. -/

namespace PolicyServer.Session

open Rpc (Connection)
open Rpc.Connection (Unanswering)

variable {c : Collaborators} {s s' : Session} {quiet : Prop} {ticket : Nat}

/-! ### What is sent -/

theorem isPublication_notification (message : Outgoing) :
    (Rpc.Message.notification message.method message.params).isPublication =
      message.isPublication := by
  cases message <;> simp [Rpc.Message.isPublication, Outgoing.method, Outgoing.isPublication]

/-- Something goes along the connection: no call is answered, and all else is as before. -/
structure Sends (quiet : Prop) (s s' : Session) : Prop where
  workspace : s'.workspace = s.workspace
  tickets : s'.tickets = s.tickets
  conn : Unanswering quiet s.conn s'.conn

theorem Sends.refl (s : Session) : Sends quiet s s := ⟨rfl, rfl, .refl _⟩

theorem Sends.trans {s'' : Session} (first : Sends quiet s s') (second : Sends quiet s' s'') :
    Sends quiet s s'' :=
  ⟨second.workspace.trans first.workspace, second.tickets.trans first.tickets,
    first.conn.trans second.conn⟩

theorem ask_sends (s : Session) (message : Outgoing) (ask : Ask) :
    Sends quiet s (s.ask message ask) := by
  unfold Session.ask
  split
  · exact .refl s
  · rename_i started
    exact ⟨rfl, rfl, Connection.start_unanswering started⟩

theorem sendMessage_sends (s : Session) (message : Outgoing)
    (other : quiet → message.isPublication = false) : Sends quiet s (s.sendMessage message) := by
  -- What is no call is written at once.
  have told : Sends quiet s { s with
      conn := s.conn.writeIfOpen (.notification message.method message.params) } := by
    refine ⟨rfl, rfl, .write _ rfl fun calm => ?_⟩
    rw [isPublication_notification]
    exact other calm
  cases message with
  | create token => exact ask_sends s _ _
  | settings => exact ask_sends s _ _
  | _ => exact told

theorem sendAll_sends (c : Collaborators) (s : Session) :
    Sends (s.workspace.told = []) { s with workspace := s.workspace.act c .flush } s.sendAll := by
  -- If nothing told was a publication, none of the messages is.
  refine List.foldlRecOn (motive := Sends (s.workspace.told = []) _) s.workspace.outbox.sent _
    (.refl _) fun mid before message member => before.trans (sendMessage_sends mid message ?_)
  intro silent
  simpa using List.filter_eq_nil_iff.mp silent message member

theorem giveUpSettings_sends (s : Session) : Sends quiet s s.giveUpSettings := by
  -- Only the call for the settings is given up; the others go on.
  unfold giveUpSettings
  split
  · refine List.foldlRecOn (motive := Sends quiet s) s.asks _ (.refl s) fun mid before entry _ => ?_
    obtain ⟨number, ask⟩ := entry
    cases ask with
    | token token => exact before
    | settings => exact before.trans ⟨rfl, rfl, .of_eq rfl rfl rfl rfl⟩
  · exact .refl s

theorem settled_sends (c : Collaborators) (s : Session) :
    Sends (s.workspace.told = []) { s with workspace := s.workspace.act c .flush }
      { s.sendAll.giveUpSettings with conn := s.sendAll.giveUpSettings.conn.settle } :=
  ((sendAll_sends c s).trans (giveUpSettings_sends _)).trans
    ⟨rfl, rfl, Connection.settle_unanswering _⟩

/-! ### What is answered -/

def isReplied (w : Workspace) (number : Nat) : Bool :=
  match (w.tasks[number]?).bind (·.done?) with
  | some (.reply _) => true
  | _ => false

theorem finished_of_isReplied {w : Workspace} {number : Nat} (replied : isReplied w number = true) :
    ∃ outcome, w.tasks[number]? = some (.finished (.reply outcome)) := by
  -- Only a finished task has an outcome to reply with.
  unfold isReplied at replied
  split at replied
  · rename_i outcome found
    obtain ⟨task, there, done⟩ := Option.bind_eq_some_iff.mp found
    cases task with
    | finished left =>
      cases done
      exact ⟨outcome, there⟩
    | _ => cases done
  · cases replied

/-- What answering the calls of some tickets comes to. -/
structure Replied (s : Session) (entries : List (Nat × Nat)) (s' : Session) : Prop where
  workspace : s'.workspace = s.workspace
  tickets : s'.tickets = s.tickets ++ entries.filter fun entry => !isReplied s.workspace entry.1
  answers : ∀ ticket, (∀ entry ∈ entries, isReplied s.workspace entry.1 = true → entry.2 ≠ ticket) →
    s'.conn.answers[ticket]? = s.conn.answers[ticket]?
  clean : s.conn.Clean → s'.conn.Clean
  published : s'.conn.published = s.conn.published

theorem Replied.cons {mid : Session} {entry : Nat × Nat} {rest : List (Nat × Nat)}
    (first : Replied s [entry] mid) (later : Replied mid rest s') :
    Replied s (entry :: rest) s' where
  workspace := later.workspace.trans first.workspace
  tickets := by
    rw [later.tickets, first.tickets, first.workspace, List.append_assoc, ← List.filter_append]
    rfl
  answers ticket apart := by
    -- A ticket that neither step answers keeps its state through both.
    rw [later.answers ticket, first.answers ticket]
    · intro other member replied
      rw [List.mem_singleton.mp member] at replied ⊢
      exact apart entry List.mem_cons_self replied
    · intro other member replied
      rw [first.workspace] at replied
      exact apart other (List.mem_cons_of_mem _ member) replied
  clean tidy := later.clean (first.clean tidy)
  published := later.published.trans first.published

theorem replyAll_spec (s : Session) : Replied { s with tickets := [] } s.tickets s.replyAll := by
  unfold replyAll
  -- The list of tickets is gone through in order, from a session that has none left.
  generalize { s with tickets := [] } = start
  generalize s.tickets = entries
  induction entries generalizing start with
  | nil => exact ⟨rfl, by simp, fun _ _ => rfl, id, rfl⟩
  | cons entry rest ih =>
    refine Replied.cons ?_ (ih _)
    obtain ⟨number, ticket⟩ := entry
    dsimp only
    split
    · rename_i outcome complete
      have replied : isReplied start.workspace number = true := by simp [isReplied, complete]
      obtain ⟨answers, backlog, published⟩ := start.conn.reply_answers ticket outcome
      refine ⟨rfl, by simp [replied], fun other apart => ?_, fun tidy => tidy.of_eq backlog, published⟩
      have differs : ticket ≠ other := apart _ List.mem_cons_self replied
      rw [answers, List.getElem?_set_ne differs]
    · rename_i unfinished
      have waits : isReplied start.workspace number = false := by
        unfold isReplied
        split
        · rename_i outcome complete
          exact absurd complete (unfinished outcome)
        · rfl
      exact ⟨rfl, by simp [waits], fun _ _ => rfl, id, rfl⟩

/-! ### Moves -/

/-- A session in good order: its workspace is sound, no diagnostics wait in the backlog, and the
tickets are those of different calls, none of which is answered. -/
structure Tidy (s : Session) : Prop where
  sound : s.workspace.Sound
  clean : s.conn.Clean
  unanswered : ∀ entry ∈ s.tickets, s.conn.answers[entry.2]? = some false
  distinct : (s.tickets.map (·.2)).Nodup

theorem Follows.sound {w w' : Workspace} (follows : Follows c w w') (sound : w.Sound) :
    w'.Sound := by
  obtain ⟨moves, ours, rfl⟩ := follows
  exact sound.play ours

theorem Tidy.congr (tidy : Tidy s) (sound : s'.workspace.Sound) (clean : s'.conn.Clean)
    (answers : s'.conn.answers = s.conn.answers) (tickets : s'.tickets = s.tickets) : Tidy s' where
  sound := sound
  clean := clean
  unanswered := by
    rw [tickets, answers]
    exact tidy.unanswered
  distinct := by
    rw [tickets]
    exact tidy.distinct

theorem Sends.tidy (sends : Sends quiet s s') (tidy : Tidy s) : Tidy s' := by
  refine tidy.congr ?_ (sends.conn.clean tidy.clean) sends.conn.answers sends.tickets
  rw [sends.workspace]
  exact tidy.sound

theorem Carried.tidy (carried : Carried c s s') (tidy : Tidy s) : Tidy s' :=
  tidy.congr (carried.follows.sound tidy.sound) (by rw [carried.conn]; exact tidy.clean)
    (by rw [carried.conn]) carried.tickets

theorem Tidy.eq_of_ticket (tidy : Tidy s) {first second : Nat × Nat} (listed : first ∈ s.tickets)
    (listed' : second ∈ s.tickets) (same : first.2 = second.2) : first = second :=
  List.inj_on_of_nodup_map tidy.distinct listed listed' same

theorem Tidy.replyAll (tidy : Tidy s) : Tidy s.replyAll := by
  have spec := replyAll_spec s
  have kept : ∀ entry ∈ s.replyAll.tickets,
      entry ∈ s.tickets ∧ isReplied s.workspace entry.1 = false := by
    intro entry member
    rw [spec.tickets, List.nil_append] at member
    simpa using List.mem_filter.mp member
  refine ⟨?_, spec.clean tidy.clean, fun entry member => ?_, ?_⟩
  · rw [spec.workspace]
    exact tidy.sound
  · obtain ⟨listed, waits⟩ := kept entry member
    rw [spec.answers entry.2 fun other listed' replied same => ?_]
    · exact tidy.unanswered entry listed
    · -- A call that was answered has its ticket to itself.
      rw [tidy.eq_of_ticket listed' listed same] at replied
      rw [waits] at replied
      cases replied
  · rw [spec.tickets, List.nil_append]
    exact tidy.distinct.sublist (List.filter_sublist.map _)

/--
What one move comes to, in a session that is in good order.

A ticket is given up only when its task has left an answer and all that was sent before is on the
connection; and diagnostics are published only if the workspace has sent some.
-/
structure Course (c : Collaborators) (s s' : Session) : Prop where
  tidy : Tidy s'
  follows : Follows c s.workspace s'.workspace
  kept : ∀ {number ticket : Nat}, (number, ticket) ∈ s.tickets → (number, ticket) ∈ s'.tickets ∨
    ∃ mid outcome, Follows c s.workspace mid ∧ Follows c mid s'.workspace ∧ mid.told = [] ∧
      mid.tasks[number]? = some (.finished (.reply outcome))
  published : s.workspace.told = [] → s'.conn.published = s.conn.published

theorem relay_course (tidy : Tidy s) : Course c s s.relay := by
  -- First all is sent and the answers are taken, then calls are answered, then the rest passes.
  let flushed : Session := { s with workspace := s.workspace.act c .flush }
  let settled : Session :=
    { s.sendAll.giveUpSettings with conn := s.sendAll.giveUpSettings.conn.settle }
  have toFlushed : Follows c s.workspace flushed.workspace := .act _ .flush rfl
  have sends : Sends (s.workspace.told = []) flushed settled := settled_sends c s
  have taken : Carried c settled settled.takeAnswers := takeAnswers_carried settled
  have spec := replyAll_spec settled.takeAnswers
  have last : Carried c settled.takeAnswers.replyAll s.relay :=
    (passCancellations_carried _).trans (noteLink_carried _)
  have toTaken : Follows c s.workspace settled.takeAnswers.workspace := by
    have there := taken.follows
    rw [sends.workspace] at there
    exact toFlushed.trans there
  have toLast : Follows c settled.takeAnswers.workspace s.relay.workspace := by
    have there := last.follows
    rw [spec.workspace] at there
    exact there
  have flushedTidy : Tidy flushed :=
    tidy.congr (toFlushed.sound tidy.sound) tidy.clean rfl rfl
  have settledTidy : Tidy settled := sends.tidy flushedTidy
  refine ⟨last.tidy (taken.tidy settledTidy).replyAll, toTaken.trans toLast,
    fun {number ticket} listed => ?_, fun silent => ?_⟩
  · have listed' : (number, ticket) ∈ settled.takeAnswers.tickets := by
      rw [taken.tickets, sends.tickets]
      exact listed
    cases replied : isReplied settled.takeAnswers.workspace number with
    | false =>
      left
      rw [last.tickets, spec.tickets, List.nil_append]
      exact List.mem_filter.mpr ⟨listed', by simp [replied]⟩
    | true =>
      right
      obtain ⟨outcome, complete⟩ := finished_of_isReplied replied
      refine ⟨_, outcome, toTaken, toLast, ?_, complete⟩
      simp only [Workspace.told, taken.sent, sends.workspace]
      rfl
  · rw [last.conn, spec.published, taken.conn]
    exact sends.conn.published silent tidy.clean

/-- Something is taken in: no ticket is given up, and no diagnostics are published. -/
structure TakesIn (c : Collaborators) (s s' : Session) : Prop where
  tidy : Tidy s'
  follows : Follows c s.workspace s'.workspace
  kept : ∀ entry ∈ s.tickets, entry ∈ s'.tickets
  published : s'.conn.published = s.conn.published

theorem TakesIn.refl (tidy : Tidy s) : TakesIn c s s := ⟨tidy, .refl _, fun _ => id, rfl⟩

theorem TakesIn.trans {s'' : Session} (first : TakesIn c s s') (second : TakesIn c s' s'') :
    TakesIn c s s'' :=
  ⟨second.tidy, first.follows.trans second.follows,
    fun entry listed => second.kept entry (first.kept entry listed),
    second.published.trans first.published⟩

theorem TakesIn.course (takes : TakesIn c s s') : Course c s s' :=
  ⟨takes.tidy, takes.follows, fun listed => .inl (takes.kept _ listed), fun _ => takes.published⟩

/-- A session that has taken a call which is yet to be dealt with. -/
structure Taken (s : Session) (ticket : Nat) : Prop where
  tidy : Tidy s
  fresh : s.conn.answers[ticket]? = some false
  unlisted : ticket ∉ s.tickets.map (·.2)

theorem Taken.reply (taken : Taken s ticket) (outcome : Except Rpc.Error Json) :
    TakesIn c s (s.reply ticket outcome) := by
  obtain ⟨answers, backlog, published⟩ := s.conn.reply_answers ticket outcome
  refine ⟨⟨taken.tidy.sound, taken.tidy.clean.of_eq backlog, fun entry listed => ?_,
    taken.tidy.distinct⟩, .refl _, fun _ => id, published⟩
  -- The call that is answered is on no ticket.
  have apart : ticket ≠ entry.2 := by
    rintro rfl
    exact taken.unlisted (List.mem_map_of_mem listed)
  show (s.conn.reply ticket outcome).answers[entry.2]? = some false
  rw [answers, List.getElem?_set_ne apart]
  exact taken.tidy.unanswered entry listed

theorem Taken.spawnFor (taken : Taken s ticket) (move : Workspace.Move) (task : Task)
    (ours : move.isOfSession = true) (started : s.workspace.act c move = s.workspace.spawn task) :
    TakesIn c s (s.spawnFor ticket task) := by
  have follows : Follows c s.workspace (s.spawnFor ticket task).workspace := by
    have there := Follows.act (c := c) s.workspace move ours
    rw [started] at there
    exact there
  refine ⟨⟨follows.sound taken.tidy.sound, taken.tidy.clean, fun entry listed => ?_, ?_⟩,
    follows, fun entry listed => List.mem_append_left _ listed, rfl⟩
  · rcases List.mem_append.mp listed with before | new
    · exact taken.tidy.unanswered entry before
    · rw [List.mem_singleton.mp new]
      exact taken.fresh
  · simp only [Session.spawnFor, List.map_append, List.map_cons, List.map_nil]
    -- The new ticket is that of a call which none before it names.
    rw [List.nodup_append]
    refine ⟨taken.tidy.distinct, by simp, ?_⟩
    rintro other listed last only rfl
    exact taken.unlisted (List.mem_singleton.mp only ▸ listed)

theorem handshake_follows {w : Workspace} (sound : w.Sound) (params : InitializeParams) :
    Follows c w (w.handshake params).2 := by
  by_cases created : w.lifecycle = .created
  · have moved : w.act c (.handshake params) = (w.handshake params).2 := by
      simp [Workspace.act, sound.early created]
    rw [← moved]
    exact .act w _ rfl
  · -- A handshake that comes too late changes nothing.
    obtain ⟨error, refused⟩ : ∃ error, w.handshakeRefusal? = some error := by
      unfold Workspace.handshakeRefusal?
      cases stage : w.lifecycle with
      | created => exact absurd stage created
      | _ => exact ⟨_, rfl⟩
    have same : (w.handshake params).2 = w := by simp [Workspace.handshake, refused]
    rw [same]
    exact .refl w

theorem Taken.serve (taken : Taken s ticket) (method : String) (params : Json) :
    TakesIn c s (s.serve c ticket method params) := by
  unfold Session.serve
  split
  · exact taken.reply _
  · exact taken.reply _
  · rename_i params _
    -- The handshake concerns the workspace alone, and is answered after it.
    have follows := handshake_follows (c := c) taken.tidy.sound params
    have sound := follows.sound taken.tidy.sound
    have mid : Tidy { s with workspace := (s.workspace.handshake params).2 } :=
      taken.tidy.congr sound taken.tidy.clean rfl rfl
    have first : TakesIn c s { s with workspace := (s.workspace.handshake params).2 } :=
      ⟨mid, follows, fun _ => id, rfl⟩
    exact first.trans (Taken.reply ⟨mid, taken.fresh, taken.unlisted⟩ _)
  · exact taken.reply _
  · exact taken.spawnFor .shutDown _ rfl rfl
  · rename_i action _
    exact taken.spawnFor (.fix action) _ rfl rfl

theorem Tidy.hear (tidy : Tidy s) (method : String) (params : Json) :
    TakesIn c s (s.hear method params) := by
  unfold Session.hear
  split
  · -- What makes no sense is passed over.
    exact .refl tidy
  · rename_i news _
    have follows := Follows.act (c := c) s.workspace (.hear news) rfl
    exact ⟨tidy.congr (follows.sound tidy.sound) tidy.clean rfl rfl, follows, fun _ => id, rfl⟩

theorem Tidy.link (tidy : Tidy s) {conn : Connection} (same : Unanswering True s.conn conn) :
    TakesIn c s { s with conn } :=
  ⟨tidy.congr tidy.sound (same.clean tidy.clean) same.answers rfl, .refl _, fun _ => id,
    same.published trivial tidy.clean⟩

theorem Tidy.accept (tidy : Tidy s) {conn : Connection} {id : Rpc.Id}
    (last : ticket = s.conn.roll.length) (roll : conn.roll = s.conn.roll ++ [(id, false)])
    (backlog : conn.backlog = s.conn.backlog) : Taken { s with conn } ticket := by
  -- Calls are numbered in the order in which they are taken.
  have answers : conn.answers = s.conn.answers ++ [false] := by
    rw [Connection.answers_eq_roll, Connection.answers_eq_roll, roll, List.map_append]
    rfl
  have length : s.conn.roll.length = s.conn.answers.length := by
    rw [Connection.answers_eq_roll, List.length_map]
  have within : ∀ entry ∈ s.tickets, entry.2 < s.conn.answers.length := fun entry listed =>
    (List.getElem?_eq_some_iff.mp (tidy.unanswered entry listed)).1
  refine ⟨⟨tidy.sound, ?_, fun entry listed => ?_, tidy.distinct⟩, ?_, fun member => ?_⟩
  · show conn.Clean
    rw [Connection.Clean, backlog]
    exact tidy.clean
  · show conn.answers[entry.2]? = some false
    rw [answers, List.getElem?_append_left (within entry listed)]
    exact tidy.unanswered entry listed
  · show conn.answers[ticket]? = some false
    simp [answers, last, length]
  · obtain ⟨entry, listed, same⟩ := List.mem_map.mp member
    have before := within entry listed
    omega

theorem Tidy.receive (tidy : Tidy s) (arrival : Rpc.Arrival) :
    TakesIn c s (s.receive c arrival) := by
  cases arrival with
  -- The end of reading cancels calls, and answers none.
  | last ending => exact tidy.link (Connection.close_unanswering s.conn)
  | message message =>
    simp only [Session.receive]
    split
    · rename_i conn dispatched
      exact tidy.link (Connection.dispatch_unanswering dispatched nofun)
    · rename_i method params conn dispatched
      have linked := tidy.link (c := c) (Connection.dispatch_unanswering dispatched nofun)
      exact linked.trans (linked.tidy.hear method params)
    · rename_i ticket _ method params conn dispatched
      -- The call gets the next ticket, which nobody has been answered under.
      obtain ⟨last, roll, backlog, written, -⟩ := Connection.dispatch_call dispatched
      have taken := tidy.accept last roll backlog
      have accepted : TakesIn c s { s with conn } :=
        ⟨taken.tidy, .refl _, fun _ => id, congrArg (List.filter _) written⟩
      exact accepted.trans (taken.serve method params)

theorem Tidy.act (tidy : Tidy s) (move : Move) : Course c s (s.act c move) := by
  cases move with
  | within move =>
    simp only [Session.act]
    split
    · rename_i inside
      -- Whatever happens within, the view is not opened by it.
      have ours : move.isOfSession = true := by
        cases move with
        | openView name => cases inside
        | _ => rfl
      have follows := Follows.act (c := c) s.workspace move ours
      exact TakesIn.course
        ⟨tidy.congr (follows.sound tidy.sound) tidy.clean rfl rfl, follows, fun _ => id, rfl⟩
    · exact (TakesIn.refl tidy).course
  | feed chunk =>
    exact TakesIn.course ⟨tidy.congr tidy.sound tidy.clean rfl rfl, .refl _, fun _ => id, rfl⟩
  | finish =>
    exact TakesIn.course ⟨tidy.congr tidy.sound tidy.clean rfl rfl, .refl _, fun _ => id, rfl⟩
  | hangUp =>
    exact TakesIn.course ⟨tidy.congr tidy.sound tidy.clean rfl rfl, .refl _, fun _ => id, rfl⟩
  | receive =>
    simp only [Session.act]
    split
    · rename_i arrival intake _
      have read : TakesIn c s { s with intake } :=
        ⟨tidy.congr tidy.sound tidy.clean rfl rfl, .refl _, fun _ => id, rfl⟩
      exact (read.trans (read.tidy.receive arrival)).course
    · exact (TakesIn.refl tidy).course
  | relay => exact relay_course tidy

theorem fresh_tidy (names : Nat → String) (supported : Bool) (limit : Nat) :
    Tidy (fresh names supported limit) :=
  ⟨Workspace.fresh_sound names supported limit, by simp [fresh, Connection.Clean],
    by simp [fresh], List.nodup_nil⟩

theorem Tidy.play (tidy : Tidy s) (moves : List Move) : Tidy (s.play c moves) := by
  induction moves generalizing s with
  | nil => exact tidy
  | cons move rest ih => exact ih (tidy.act move).tidy

end PolicyServer.Session
