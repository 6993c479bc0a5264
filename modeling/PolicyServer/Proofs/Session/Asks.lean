import PolicyServer.Proofs.Rpc.Settling
import PolicyServer.Proofs.Session.Tickets
import PolicyServer.Proofs.Workspace.Awaited

/-! The calls of a session to the editor: whoever waits for a token has a call open, until the outcome
of that call has reached the workspace. -/

namespace PolicyServer

def Ask.message : Ask → Outgoing
  | .token wanted => .create wanted
  | .settings => .settings

namespace Session

open Rpc (Connection OutgoingCall)

variable {c : Collaborators} {s s' : Session} {token : ProgressToken}

def Registered (s : Session) (entry : Nat × Ask) : Prop :=
  s.conn.requests[entry.1]? = some (entry.2.message.method, entry.2.message.params)

/-- A token that has been answered, is still to be asked for, is asked for, or never will be. -/
def Heeded (s : Session) (token : ProgressToken) : Prop :=
  token ∈ s.workspace.answers.map (·.1) ∨ .create token ∈ s.workspace.outbox.sent ∨
    (∃ number, (number, .token token) ∈ s.asks) ∨ s.conn.closed = true

/-- Every open call is known, and every token that is awaited is cared for. -/
structure Attentive (s : Session) : Prop where
  registered : ∀ entry ∈ s.asks, s.Registered entry
  heeded : ∀ token ∈ s.workspace.awaited, s.Heeded token

theorem Registered.lasts {entry : Nat × Ask} (known : s.Registered entry)
    (lasts : s.conn.Lasts s'.conn) : s'.Registered entry := by
  obtain ⟨more, same⟩ := lasts.requests
  rw [Registered, ← same, List.getElem?_append_left (List.getElem?_eq_some_iff.mp known).1]
  exact known

theorem Attentive.heeds (attentive : Attentive s) (heeds : s.workspace.Heeds s'.workspace)
    (lasts : s.conn.Lasts s'.conn) (asks : s'.asks = s.asks) : Attentive s' where
  registered entry listed := (attentive.registered entry (asks ▸ listed)).lasts lasts
  heeded token waits := by
    rcases heeds.awaited token waits with before | sent
    · rcases attentive.heeded token before with answered | sent | asked | closed
      · exact .inl ((heeds.answers.map _).subset answered)
      · exact .inr (.inl (heeds.sent.subset sent))
      · exact .inr (.inr (.inl (asks ▸ asked)))
      · exact .inr (.inr (.inr (lasts.closed closed)))
    · exact .inr (.inl sent)

/-! ### What arrives -/

theorem Attentive.serve (attentive : Attentive s) (ticket : Nat) (method : String) (params : Json) :
    Attentive (s.serve c ticket method params) := by
  have replied {w : Workspace} (heeds : s.workspace.Heeds w) (outcome : Except Rpc.Error Json) :
      Attentive ({ s with workspace := w }.reply ticket outcome) :=
    attentive.heeds heeds (Connection.reply_lasts s.conn ticket outcome) rfl
  have spawned {task : Task} (heeds : s.workspace.Heeds (s.workspace.spawn task)) :
      Attentive (s.spawnFor ticket task) :=
    attentive.heeds heeds (.refl _) rfl
  unfold Session.serve
  split
  · exact replied (.refl _) _
  · exact replied (.refl _) _
  · exact replied (Workspace.handshake_heeds _ _) _
  · exact replied (.refl _) _
  · exact spawned (.of_shift (.spawn _ rfl) rfl (List.prefix_refl _))
  · exact spawned (.of_shift (.spawn _ rfl) rfl (List.prefix_refl _))

theorem Attentive.receive (attentive : Attentive s) (arrival : Rpc.Arrival) :
    Attentive (s.receive c arrival) := by
  cases arrival with
  | last ending => exact attentive.heeds (.refl _) (Connection.close_lasts s.conn) rfl
  | message message =>
    have dispatched : Attentive { s with conn := (s.conn.dispatch message).2 } :=
      attentive.heeds (.refl _) (Connection.dispatch_lasts s.conn message) rfl
    simp only [Session.receive]
    split
    · rename_i same
      rw [same] at dispatched
      exact dispatched
    · rename_i method params conn same
      rw [same] at dispatched
      unfold hear
      split
      · exact dispatched
      · rename_i news _
        have heeds : s.workspace.Heeds (s.workspace.hear news) :=
          Workspace.act_heeds (c := c) s.workspace (.hear news) (by simp)
        exact dispatched.heeds heeds (.refl _) rfl
    · rename_i same
      rw [same] at dispatched
      exact dispatched.serve _ _ _

/-! ### What is sent -/

/-- Messages are on their way to the editor: calls may be made, and none is forgotten. -/
structure Sending (s s' : Session) : Prop where
  workspace : s'.workspace = s.workspace
  lasts : s.conn.Lasts s'.conn
  asks : ∀ entry ∈ s.asks, entry ∈ s'.asks
  registered : (∀ entry ∈ s.asks, s.Registered entry) → ∀ entry ∈ s'.asks, s'.Registered entry

theorem Sending.refl (s : Session) : Sending s s := ⟨rfl, .refl _, fun _ => id, id⟩

theorem Sending.trans {s'' : Session} (first : Sending s s') (second : Sending s' s'') :
    Sending s s'' :=
  ⟨second.workspace.trans first.workspace, first.lasts.trans second.lasts,
    fun entry listed => second.asks entry (first.asks entry listed),
    fun known => second.registered (first.registered known)⟩

theorem Sending.of_lasts {conn : Connection} (lasts : s.conn.Lasts conn) :
    Sending s { s with conn } :=
  ⟨rfl, lasts, fun _ => id, fun known entry listed => (known entry listed).lasts lasts⟩

theorem ask_sending (s : Session) (wanted : Ask) :
    Sending s (s.ask wanted.message wanted) ∧
      ((∃ number, (number, wanted) ∈ (s.ask wanted.message wanted).asks) ∨
        s.conn.closed = true) := by
  unfold Session.ask
  rcases s.conn.start_cases wanted.message.method wanted.message.params with
    ⟨number, conn, started, lasts, request⟩ | ⟨refused, ended⟩
  · rw [started]
    refine ⟨⟨rfl, lasts, fun entry listed => List.mem_append_left _ listed,
      fun known entry listed => ?_⟩, .inl ⟨number, List.mem_append_right _ (by simp)⟩⟩
    rcases List.mem_append.mp listed with before | new
    · exact (known entry before).lasts lasts
    · rw [List.mem_singleton.mp new]
      exact request
  · rw [refused]
    exact ⟨.refl s, .inr ended⟩

theorem sendMessage_sending (s : Session) (message : Outgoing) :
    Sending s (s.sendMessage message) ∧ ∀ token, message = .create token →
      (∃ number, (number, .token token) ∈ (s.sendMessage message).asks) ∨ s.conn.closed = true := by
  have told : Sending s { s with
      conn := s.conn.writeIfOpen (.notification message.method message.params) } := by
    obtain ⟨calls, -, closed⟩ :=
      Connection.writeIfOpen_frame s.conn (.notification message.method message.params)
    exact .of_lasts (.of_eq (by rw [Connection.requests, calls]; rfl) closed)
  cases message with
  | create wanted =>
    obtain ⟨sending, asked⟩ := ask_sending s (.token wanted)
    exact ⟨sending, fun token same => by cases same; exact asked⟩
  | settings => exact ⟨(ask_sending s .settings).1, fun token same => by cases same⟩
  | _ => exact ⟨told, fun token same => by cases same⟩

theorem sendMessages_sending (messages : List Outgoing) (s : Session) :
    Sending s (messages.foldl sendMessage s) ∧ ∀ token, .create token ∈ messages →
      (∃ number, (number, .token token) ∈ (messages.foldl sendMessage s).asks) ∨
        (messages.foldl sendMessage s).conn.closed = true := by
  induction messages generalizing s with
  | nil => exact ⟨.refl s, by simp⟩
  | cons first rest ih =>
    obtain ⟨sending, asked⟩ := sendMessage_sending s first
    obtain ⟨later, others⟩ := ih (s.sendMessage first)
    refine ⟨sending.trans later, fun token member => ?_⟩
    rcases List.mem_cons.mp member with rfl | member
    · rcases asked token rfl with ⟨number, listed⟩ | closed
      · exact .inl ⟨number, later.asks _ listed⟩
      · exact .inr (later.lasts.closed (sending.lasts.closed closed))
    · exact others token member

theorem giveUpSettings_sending (s : Session) : Sending s s.giveUpSettings := by
  unfold giveUpSettings
  split
  · refine List.foldlRecOn (motive := Sending s) s.asks _ (.refl s) fun mid before entry _ => ?_
    obtain ⟨number, ask⟩ := entry
    cases ask with
    | token token => exact before
    | settings =>
      have lasts : mid.conn.Lasts (mid.conn.cancel number) :=
        .of_eq (Connection.requests_modifyCall _ _ (fun _ => rfl) (fun _ => rfl)) rfl
      exact before.trans (.of_lasts lasts)
  · exact .refl s

/-! ### What is answered -/

/-- What handing over the outcomes of some calls comes to. -/
structure Answered (s : Session) (entries : List (Nat × Ask)) (s' : Session) : Prop where
  conn : s'.conn = s.conn
  tickets : s'.tickets = s.tickets
  asks : s'.asks = s.asks ++ entries.filter fun entry =>
    ((s.conn.calls[entry.1]?).bind (·.outcome?)).isNone
  tasks : s'.workspace.tasks = s.workspace.tasks
  outbox : s'.workspace.outbox = s.workspace.outbox
  answers : s.workspace.answers <+: s'.workspace.answers
  known : ∀ number token, (number, .token token) ∈ entries →
    (number, .token token) ∈ s'.asks ∨ token ∈ s'.workspace.answers.map (·.1)

theorem Answered.cons {mid : Session} {entry : Nat × Ask} {rest : List (Nat × Ask)}
    (first : Answered s [entry] mid) (later : Answered mid rest s') :
    Answered s (entry :: rest) s' where
  conn := later.conn.trans first.conn
  tickets := later.tickets.trans first.tickets
  asks := by
    rw [later.asks, first.asks, first.conn, List.append_assoc, ← List.filter_append]
    rfl
  tasks := later.tasks.trans first.tasks
  outbox := later.outbox.trans first.outbox
  answers := first.answers.trans later.answers
  known number token member := by
    rcases List.mem_cons.mp member with same | member
    · rcases first.known number token (by simp [same]) with listed | answered
      · exact .inl (later.asks ▸ List.mem_append_left _ listed)
      · exact .inr ((later.answers.map _).subset answered)
    · exact later.known number token member

theorem takeAnswers_answered (s : Session) :
    Answered { s with asks := [] } s.asks s.takeAnswers := by
  unfold takeAnswers
  -- The list of asks is gone through in order, from a session that has none left.
  generalize { s with asks := [] } = start
  generalize s.asks = entries
  induction entries generalizing start with
  | nil => exact ⟨rfl, rfl, by simp, rfl, rfl, List.prefix_refl _, by simp⟩
  | cons entry rest ih =>
    refine Answered.cons ?_ (ih _)
    obtain ⟨number, ask⟩ := entry
    dsimp only
    split
    · rename_i outcome complete
      cases ask with
      | token token =>
        refine ⟨rfl, rfl, by simp [takeAnswer, complete], rfl, rfl, List.prefix_append _ _, ?_⟩
        intro number' token' member
        cases List.mem_singleton.mp member
        exact .inr (by simp [takeAnswer])
      | settings =>
        refine ⟨rfl, rfl, by simp [takeAnswer, complete], ?_, ?_, ?_, ?_⟩
        · simp only [takeAnswer]
          split <;> rfl
        · simp only [takeAnswer]
          split <;> rfl
        · simp only [takeAnswer]
          split <;> exact List.prefix_refl _
        · intro number' token' member
          cases List.mem_singleton.mp member
    · rename_i running
      refine ⟨rfl, rfl, by simp [running], rfl, rfl, List.prefix_refl _, ?_⟩
      intro number' token' member
      exact .inl (List.mem_append_right _ member)

theorem replyAll_frame (s : Session) : s.replyAll.workspace = s.workspace ∧
    s.replyAll.asks = s.asks ∧ s.replyAll.conn.calls = s.conn.calls ∧
    s.replyAll.conn.closed = s.conn.closed := by
  refine List.foldlRecOn (motive := fun mid : Session => mid.workspace = s.workspace ∧ mid.asks = s.asks ∧
    mid.conn.calls = s.conn.calls ∧ mid.conn.closed = s.conn.closed) s.tickets _
    ⟨rfl, rfl, rfl, rfl⟩ fun mid before entry _ => ?_
  obtain ⟨number, ticket⟩ := entry
  obtain ⟨workspace, asks, calls, closed⟩ := before
  dsimp only
  split
  · rename_i outcome _
    obtain ⟨calls', closed'⟩ := Connection.reply_frame mid.conn ticket outcome
    exact ⟨workspace, asks, calls'.trans calls, closed'.trans closed⟩
  · exact ⟨workspace, asks, calls, closed⟩

theorem isReplied_giveUpFix (w : Workspace) (given number : Nat) :
    isReplied (w.giveUpFix given) number = isReplied w number := by
  have done (task : Task) : task.giveUp.done? = task.done? := by cases task <;> rfl
  have same : ((w.giveUpFix given).tasks[number]?).bind (·.done?) =
      (w.tasks[number]?).bind (·.done?) := by
    simp only [Workspace.giveUpFix, List.getElem?_modify]
    cases w.tasks[number]? with
    | none => rfl
    | some task =>
      split
      · exact done task
      · rfl
  simp only [isReplied, same]

/-- Some fixes are given up, and nothing else happens. -/
structure Cancels (s s' : Session) : Prop where
  conn : s'.conn = s.conn
  asks : s'.asks = s.asks
  tickets : s'.tickets = s.tickets
  outbox : s'.workspace.outbox = s.workspace.outbox
  answers : s'.workspace.answers = s.workspace.answers
  awaited : ∀ token ∈ s'.workspace.awaited, token ∈ s.workspace.awaited
  replied : ∀ number, isReplied s'.workspace number = isReplied s.workspace number

theorem passCancellations_cancels (s : Session) : Cancels s s.passCancellations := by
  refine List.foldlRecOn (motive := Cancels s) s.tickets _
    ⟨rfl, rfl, rfl, rfl, rfl, fun _ => id, fun _ => rfl⟩ fun mid before entry _ => ?_
  obtain ⟨number, ticket⟩ := entry
  dsimp only
  split
  · -- One more task is told, which is a move of the workspace.
    have shift := (Workspace.Incident.ofGiveUp mid.workspace number).shift
    have waits : ∀ token ∈ (mid.workspace.giveUpFix number).awaited,
        token ∈ mid.workspace.awaited := by
      intro token later
      obtain ⟨task, member, mine⟩ := Workspace.mem_awaited.mp later
      exact Workspace.mem_awaited.mpr ⟨task, shift.awaited member mine, mine⟩
    exact ⟨before.conn, before.asks, before.tickets, before.outbox, before.answers,
      fun token later => before.awaited token (waits token later),
      fun other => (isReplied_giveUpFix mid.workspace number other).trans (before.replied other)⟩
  · exact before

/-! ### All that passes -/

/--
How a session stands when all has passed that is to pass.

Nothing is left to be sent, the workspace knows the state of the connection, the calls that are still
listed are not over, such calls wait for the editor, and no task whose answer is owed has left it.
-/
structure Relayed (s : Session) : Prop where
  sent : s.workspace.outbox.sent = []
  closed : s.workspace.outbox.closed = s.conn.closed
  running : ∀ entry ∈ s.asks, (s.conn.calls[entry.1]?).bind (·.outcome?) = none
  waiting : ∀ {number : Nat} {call : OutgoingCall}, s.conn.calls[number]? = some call →
    call.outcome? = none → call.phase = .waiting ∧ call.slot = .empty
  owed : ∀ entry ∈ s.tickets, isReplied s.workspace entry.1 = false

/-- The messages of the workspace are on the connection, and all steps that follow were taken. -/
def settled (s : Session) : Session :=
  { s.sendAll.giveUpSettings with conn := s.sendAll.giveUpSettings.conn.settle }

theorem relay_eq (s : Session) :
    s.relay = s.settled.takeAnswers.replyAll.passCancellations.noteLink := rfl

theorem settled_sending (s : Session) :
    Sending { s with workspace := s.workspace.act c .flush } s.settled ∧
      ∀ token, .create token ∈ s.workspace.outbox.sent →
        (∃ number, (number, .token token) ∈ s.settled.asks) ∨ s.settled.conn.closed = true := by
  obtain ⟨sending, asked⟩ := sendMessages_sending s.workspace.outbox.sent
    { s with workspace := s.workspace.act c .flush }
  have given := giveUpSettings_sending s.sendAll
  obtain ⟨requests, closed⟩ := s.sendAll.giveUpSettings.conn.settle_frame
  have last : s.sendAll.giveUpSettings.conn.Lasts s.settled.conn := .of_eq requests closed
  refine ⟨(sending.trans given).trans (.of_lasts last), fun token sent => ?_⟩
  rcases asked token sent with ⟨number, listed⟩ | ended
  · exact .inl ⟨number, given.asks _ listed⟩
  · exact .inr (last.closed (given.lasts.closed ended))

theorem waiting_of_settled {number : Nat} {call : OutgoingCall}
    (found : s.settled.conn.calls[number]? = some call) (running : call.outcome? = none) :
    call.phase = .waiting ∧ call.slot = .empty :=
  Connection.waiting_of_settle found running

theorem relay_relayed (s : Session) : Relayed s.relay := by
  have sending := (settled_sending (c := promptCollaborators) s).1
  have taken := takeAnswers_answered s.settled
  have spec := replyAll_spec s.settled.takeAnswers
  obtain ⟨workspace, asks, calls, closed⟩ := replyAll_frame s.settled.takeAnswers
  have last := passCancellations_cancels s.settled.takeAnswers.replyAll
  have same : s.relay.conn.calls = s.settled.conn.calls := by
    rw [relay_eq, noteLink, last.conn, calls, taken.conn]
  refine ⟨?_, rfl, fun entry listed => ?_, fun found running => ?_, fun entry listed => ?_⟩
  · rw [relay_eq]
    simp only [noteLink, last.outbox, workspace, taken.outbox, sending.workspace]
    rfl
  · rw [relay_eq, noteLink] at listed
    simp only [last.asks, asks, taken.asks, List.nil_append, List.mem_filter,
      Option.isNone_iff_eq_none] at listed
    rw [same]
    exact listed.2
  · rw [same] at found
    exact waiting_of_settled found running
  · rw [relay_eq, noteLink] at listed ⊢
    simp only [last.tickets, spec.tickets, List.nil_append, List.mem_filter,
      Bool.not_eq_true'] at listed
    show isReplied s.settled.takeAnswers.replyAll.passCancellations.workspace entry.1 = false
    rw [last.replied, workspace]
    exact listed.2

theorem Attentive.relay (attentive : Attentive s) : Attentive s.relay := by
  obtain ⟨sending, asked⟩ := settled_sending (c := promptCollaborators) s
  have taken := takeAnswers_answered s.settled
  obtain ⟨workspace, asks, calls, closed⟩ := replyAll_frame s.settled.takeAnswers
  have last := passCancellations_cancels s.settled.takeAnswers.replyAll
  have conn : s.settled.conn.Lasts s.relay.conn := by
    rw [relay_eq, noteLink, last.conn]
    exact .of_eq (by simp only [Connection.requests, calls, taken.conn])
      (closed.trans (congrArg Connection.closed taken.conn))
  have listed : s.relay.asks = s.settled.takeAnswers.asks := last.asks.trans asks
  have answers : s.relay.workspace.answers = s.settled.takeAnswers.workspace.answers :=
    last.answers.trans (congrArg Workspace.answers workspace)
  refine ⟨fun entry member => ?_, fun token waits => ?_⟩
  · rw [listed, taken.asks, List.nil_append] at member
    exact (sending.registered attentive.registered entry (List.mem_filter.mp member).1).lasts conn
  · -- The tokens that are awaited are those that were.
    have before : token ∈ s.workspace.awaited := by
      have later := last.awaited token waits
      rw [workspace, Workspace.awaited, taken.tasks, sending.workspace] at later
      exact later
    have outcome (asked : ∃ number, (number, .token token) ∈ s.settled.asks) :
        s.relay.Heeded token := by
      obtain ⟨number, member⟩ := asked
      rcases taken.known number token member with still | answered
      · exact .inr (.inr (.inl ⟨number, listed ▸ still⟩))
      · exact .inl (answers ▸ answered)
    rcases attentive.heeded token before with answered | sent | ⟨number, member⟩ | ended
    · refine .inl (answers ▸ (taken.answers.map _).subset ?_)
      rw [sending.workspace]
      exact answered
    · rcases asked token sent with made | ended
      · exact outcome made
      · exact .inr (.inr (.inr (conn.closed ended)))
    · exact outcome ⟨number, sending.asks _ member⟩
    · exact .inr (.inr (.inr (conn.closed (sending.lasts.closed ended))))

theorem Attentive.act (attentive : Attentive s) (move : Move) : Attentive (s.act c move) := by
  cases move with
  | within move =>
    simp only [Session.act]
    split
    · rename_i inside
      refine attentive.heeds (Workspace.act_heeds s.workspace move ?_) (.refl _) rfl
      rintro rfl
      cases inside
    · exact attentive
  | hangUp => exact attentive.heeds (.refl _) (.of_eq rfl rfl) rfl
  | receive =>
    simp only [Session.act]
    split
    · rename_i arrival intake _
      have read : Attentive { s with intake } := attentive.heeds (.refl _) (.refl _) rfl
      exact read.receive arrival
    · exact attentive
  | relay => exact attentive.relay
  | _ => exact attentive.heeds (.refl _) (.refl _) rfl

theorem play_attentive (c : Collaborators) (names : Nat → String) (supported : Bool) (limit : Nat)
    (moves : List Move) : Attentive ((fresh names supported limit).play c moves) := by
  have start : Attentive (fresh names supported limit) :=
    ⟨by simp [fresh], by simp [fresh, Workspace.fresh, Workspace.awaited, Workspace.spawn, Task.awaits?]⟩
  exact List.foldlRecOn (motive := Attentive) moves _ start fun _ before move _ => before.act move

/-- A call with that message was sent to the editor, and no answer to it has come. -/
def LeftOpen (s : Session) (message : Outgoing) : Prop :=
  ∃ (number : Nat) (call : OutgoingCall), s.conn.calls[number]? = some call ∧
    call.method = message.method ∧ call.params = message.params ∧
    call.phase = .waiting ∧ call.slot = .empty

theorem Relayed.leftOpen (relayed : Relayed s) (attentive : Attentive s)
    (waits : token ∈ s.workspace.awaited) (unheard : s.workspace.answer? token = none) :
    s.LeftOpen (.create token) := by
  -- An answer would have been heard, and a closed connection would be one.
  have none : s.workspace.answers.lookup token = none ∧ s.workspace.outbox.takesCalls = true := by
    unfold Workspace.answer? at unheard
    split at unheard
    · cases unheard
    · rename_i missing
      refine ⟨missing, ?_⟩
      split at unheard
      · assumption
      · cases unheard
  rcases attentive.heeded token waits with answered | sent | ⟨number, listed⟩ | ended
  · obtain ⟨entry, member, rfl⟩ := List.mem_map.mp answered
    exact absurd (List.lookup_eq_none_iff.mp none.1 entry member) (by simp)
  · rw [relayed.sent] at sent
    cases sent
  · have known : (s.conn.calls.map _)[number]? = some _ := attentive.registered _ listed
    rw [List.getElem?_map] at known
    obtain ⟨call, found, request⟩ := Option.map_eq_some_iff.mp known
    have running := relayed.running _ listed
    simp only [found, Option.bind_some] at running
    obtain ⟨sent, empty⟩ := relayed.waiting found running
    exact ⟨number, call, found, congrArg Prod.fst request, congrArg Prod.snd request, sent, empty⟩
  · have open' := none.2
    simp [Outbox.takesCalls, relayed.closed, ended] at open'

end Session

end PolicyServer
