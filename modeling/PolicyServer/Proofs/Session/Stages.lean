import PolicyServer.Proofs.Session.Tickets
import PolicyServer.Proofs.Trace
import PolicyServer.Proofs.Workspace.Stages

/-!
The stages of a session, and what the editor may ask and tell at each of them.

Handshakes, questions for actions and notifications are judged as they arrive. A shutdown and a fix
are judged when their tasks first go on, which may be after messages that came later.
-/

namespace PolicyServer.Session

open Rpc (Connection)
open Lifecycle (Next Staged)
open Workspace (OpensNone)

variable {c : Collaborators} {s s' : Session} {number ticket : Nat} {method : String} {params : Json}
  {call : Rpc.InboundCall}

/-! ### What passes between workspace and editor -/

theorem takeAnswers_frame (s : Session) :
    s.takeAnswers.workspace.lifecycle = s.workspace.lifecycle ∧
      s.takeAnswers.workspace.snapshots = s.workspace.snapshots ∧
      s.takeAnswers.workspace.tasks = s.workspace.tasks := by
  refine List.foldlRecOn (motive := fun mid : Session =>
    mid.workspace.lifecycle = s.workspace.lifecycle ∧
      mid.workspace.snapshots = s.workspace.snapshots ∧
      mid.workspace.tasks = s.workspace.tasks) s.asks _ ⟨rfl, rfl, rfl⟩
    fun mid before entry _ => ?_
  obtain ⟨number, ask⟩ := entry
  dsimp only
  split
  · cases ask with
    | token token => exact before
    | settings =>
      simp only [takeAnswer]
      split <;> exact before
  · exact before

theorem passCancellations_frame (s : Session) :
    s.passCancellations.workspace.lifecycle = s.workspace.lifecycle ∧
      s.passCancellations.workspace.snapshots = s.workspace.snapshots ∧
      s.passCancellations.workspace.tasks.length = s.workspace.tasks.length := by
  refine List.foldlRecOn (motive := fun mid : Session =>
    mid.workspace.lifecycle = s.workspace.lifecycle ∧
      mid.workspace.snapshots = s.workspace.snapshots ∧
      mid.workspace.tasks.length = s.workspace.tasks.length) s.tickets _ ⟨rfl, rfl, rfl⟩
    fun mid before entry _ => ?_
  dsimp only
  split
  · exact ⟨before.1, before.2.1, (List.length_modify ..).trans before.2.2⟩
  · exact before

theorem relay_frame (s : Session) :
    s.relay.workspace.lifecycle = s.workspace.lifecycle ∧
      s.relay.workspace.snapshots = s.workspace.snapshots ∧
      s.relay.workspace.tasks.length = s.workspace.tasks.length := by
  let settled : Session :=
    { s.sendAll.giveUpSettings with conn := s.sendAll.giveUpSettings.conn.settle }
  have sent : settled.workspace = { s.workspace with outbox := { s.workspace.outbox with sent := [] } } :=
    (settled_sends promptCollaborators s).workspace
  obtain ⟨stage, snapshots, tasks⟩ := takeAnswers_frame settled
  have replied := (replyAll_spec settled.takeAnswers).workspace
  obtain ⟨stage', snapshots', tasks'⟩ := passCancellations_frame settled.takeAnswers.replyAll
  -- The parts of a relay follow one another.
  rw [replied] at stage' snapshots' tasks'
  rw [stage, sent] at stage'
  rw [snapshots, sent] at snapshots'
  rw [tasks, sent] at tasks'
  exact ⟨stage', snapshots', tasks'⟩

/-! ### What arrives -/

/-- The session after a call that is answered as soon as it has arrived. -/
def answering (s : Session) (id : Rpc.Id) (method : String) (params : Json)
    (outcome : Except Rpc.Error Json) (workspace : Workspace) : Session :=
  { s with workspace, conn := (s.conn.dispatch (.call id method params)).2 }.reply
    s.conn.inbound.length outcome

theorem receive_call (c : Collaborators) (s : Session) (id : Rpc.Id) (method : String) (params : Json) :
    s.receive c (.message (.call id method params)) =
      { s with conn := (s.conn.dispatch (.call id method params)).2 }.serve c s.conn.inbound.length
        method params := rfl

theorem receive_news {news : News} (told : News.decode method params = .ok news) :
    (s.receive c (.message (.notification method params))).workspace = s.workspace.hear news := by
  have other : method ≠ Connection.cancelMethod := by
    rintro rfl
    cases told
  simp only [receive, Connection.dispatch, other, if_false, hear, told]

theorem receive_unheard {reason : Misunderstanding} (told : News.decode method params = .error reason) :
    (s.receive c (.message (.notification method params))).workspace = s.workspace := by
  by_cases own : method = Connection.cancelMethod
  · simp only [receive, Connection.dispatch, own, if_true]
  · simp only [receive, Connection.dispatch, own, if_false, hear, told]

/-! ### How stages change -/

/--
What a move does to the stage of a session, and what it was.

The stage is left by an accepted handshake, by the news that the editor is ready, or when the task of
a shutdown takes its first step. Only the news open a view.
-/
inductive Turn (c : Collaborators) (s : Session) : Move → Prop where
  | rests {move : Move} (same : (s.act c move).workspace.lifecycle = s.workspace.lifecycle)
      (unopened : OpensNone s.workspace (s.act c move).workspace) : Turn c s move
  | greeted {intake : Rpc.Intake} {id : Rpc.Id} {method : String} {params : Json}
      {handshake : InitializeParams}
      (next : s.intake.next? = some (.message (.call id method params), intake))
      (asked : Request.decode method params = .ok (.handshake handshake))
      (before : s.workspace.lifecycle = .created)
      (after : (s.act c .receive).workspace.lifecycle = .initializing)
      (unopened : OpensNone s.workspace (s.act c .receive).workspace) : Turn c s .receive
  | entered {intake : Rpc.Intake} {method : String} {params : Json}
      (next : s.intake.next? = some (.message (.notification method params), intake))
      (told : News.decode method params = .ok .initialized)
      (before : s.workspace.lifecycle = .initializing)
      (after : (s.act c .receive).workspace.lifecycle = .initialized)
      (opened : (s.workspace.viewsOpened (s.act c .receive).workspace).length = 1) :
      Turn c s .receive
  | accepted {number : Nat} {eager : Bool}
      (asked : s.workspace.tasks[number]? = some (.shutdown .telling))
      (before : Next s.workspace.lifecycle .shutDown)
      (after : (s.act c (.within (.step number eager))).workspace.lifecycle = .shutDown)
      (unopened : OpensNone s.workspace (s.act c (.within (.step number eager))).workspace) :
      Turn c s (.within (.step number eager))

theorem Turn.of_eq {move : Move} (same : (s.act c move).workspace = s.workspace) : Turn c s move :=
  .rests (congrArg _ same) (.of_eq (congrArg _ same) (by rw [same]))

theorem Tidy.turnWithin (tidy : Tidy s) {move : Workspace.Move} (inside : move.isWithin = true) :
    Turn c s (.within move) := by
  have made : (s.act c (.within move)).workspace = s.workspace.act c move := by
    simp [Session.act, inside]
  have unopened : OpensNone s.workspace (s.act c (.within move)).workspace := by
    rw [made]
    refine Workspace.act_opensNone tidy.sound.custody move ?_ ?_
    · rintro rfl
      cases inside
    · rintro name rfl
      cases inside
  rcases Workspace.act_cases c s.workspace move with ⟨number, eager, rfl, stepped⟩ | ⟨-, incident⟩
  · obtain ⟨task, mid, task', found, advance, -, after⟩ := Workspace.step_advance stepped
    have stage : (s.act c (.within (.step number eager))).workspace.lifecycle = mid.lifecycle := by
      rw [made, after]
    rcases advance.stage with same | ⟨rfl, next, shut⟩
    · exact .rests (stage.trans same) unopened
    · exact .accepted found next (stage.trans shut) unopened
  · rcases incident.stage with same | ⟨params, rfl⟩ | rfl
    · exact .rests ((congrArg _ made).trans same) unopened
    · cases inside
    · cases inside

theorem turn_call {intake : Rpc.Intake} {id : Rpc.Id}
    (next : s.intake.next? = some (.message (.call id method params), intake)) :
    Turn c s .receive := by
  have received : s.act c .receive =
      { s with intake }.receive c (.message (.call id method params)) := by
    simp only [Session.act, next]
  cases asked : Request.decode method params with
  | error reason =>
    refine .of_eq ?_
    cases reason <;> simp only [received, receive_call, serve, asked] <;> rfl
  | ok request =>
    -- What takes its time is left to a task, which may not be the one of a view.
    have spawned : ∀ task : Task, task.opensView = false →
        (s.act c .receive).workspace = s.workspace.spawn task → Turn c s .receive := by
      intro task other after
      refine .rests (by rw [after]; rfl) ?_
      rw [after]
      refine ⟨fun none => none, ?_⟩
      refine Workspace.viewsOpened_of_append rfl rfl fun new member => ?_
      rwa [List.mem_singleton.mp member]
    cases request with
    | handshake handshake =>
      have after : (s.act c .receive).workspace = (s.workspace.handshake handshake).2 := by
        simp only [received, receive_call, serve, asked]
        rfl
      rcases s.workspace.handshake_cases handshake with
        ⟨root, workspace, created, -, -, stage, snapshots, tasks, accepted⟩ | ⟨error, -, refused⟩
      · rw [accepted] at after
        refine .greeted next asked created (after ▸ stage) ?_
        rw [after]
        exact .of_eq snapshots (congrArg _ tasks)
      · rw [refused] at after
        exact .of_eq after
    | codeAction question =>
      refine .of_eq ?_
      simp only [received, receive_call, serve, asked]
      rfl
    | shutdown =>
      refine spawned (.shutdown .telling) rfl ?_
      simp only [received, receive_call, serve, asked]
      rfl
    | resolve action =>
      refine spawned (.fix { action }) rfl ?_
      simp only [received, receive_call, serve, asked]
      rfl

theorem Tidy.turnNotification (tidy : Tidy s) {intake : Rpc.Intake}
    (next : s.intake.next? = some (.message (.notification method params), intake)) :
    Turn c s .receive := by
  have received : s.act c .receive =
      { s with intake }.receive c (.message (.notification method params)) := by
    simp only [Session.act, next]
  cases told : News.decode method params with
  | error reason =>
    refine .of_eq ?_
    rw [received, receive_unheard told]
  | ok news =>
    have after : (s.act c .receive).workspace = s.workspace.act c (.hear news) := by
      rw [received, receive_news told]
      rfl
    by_cases ready : news = .initialized
    · subst ready
      rcases s.workspace.enterSession_cases with ⟨before, entered, opened⟩ | ⟨-, same⟩
      · refine .entered next told before ((congrArg _ after).trans entered) ?_
        rw [after]
        exact opened
      · exact .of_eq (after.trans same)
    · have other : Workspace.Move.hear news ≠ .hear .initialized := by simpa using ready
      refine .rests ?_ ?_
      · rcases (Workspace.Incident.ofNews s.workspace news).stage with same | ⟨params, same⟩ | same
        · exact (congrArg _ after).trans same
        · cases same
        · exact absurd same other
      · rw [after]
        exact Workspace.act_opensNone tidy.sound.custody _ other (by simp)

theorem Tidy.turn (tidy : Tidy s) (move : Move) : Turn c s move := by
  cases move with
  | within move =>
    cases inside : move.isWithin with
    | true => exact tidy.turnWithin inside
    | false => exact .of_eq (by simp [Session.act, inside])
  | relay =>
    obtain ⟨stage, snapshots, tasks⟩ := relay_frame s
    exact .rests stage (.of_eq snapshots tasks)
  | receive =>
    cases next : s.intake.next? with
    | none => exact .of_eq (by simp only [Session.act, next])
    | some pair =>
      obtain ⟨arrival, intake⟩ := pair
      cases arrival with
      | last ending => exact .of_eq (by simp only [Session.act, next, Session.receive])
      | message message =>
        cases message with
        | call id method params => exact turn_call next
        | notification method params => exact tidy.turnNotification next
        | response id outcome =>
          exact .of_eq (by simp only [Session.act, next, Session.receive, Connection.dispatch])
  | _ => exact .of_eq rfl

/-! ### What is answered -/

theorem Tidy.replyAll_writes (tidy : Tidy s) (listed : (number, ticket) ∈ s.tickets)
    {outcome : Except Rpc.Error Json}
    (left : s.workspace.tasks[number]? = some (.finished (.reply outcome)))
    (found : s.conn.inbound[ticket]? = some call) (whole : s.conn.broken = false) :
    .response (some call.id) outcome ∈ s.replyAll.conn.written := by
  have fresh : call.answered = false := by
    have unanswered := tidy.unanswered _ listed
    simpa [Connection.answers, found] using unanswered
  have distinct := tidy.distinct
  unfold Session.replyAll
  -- The tickets are gone through in order; until its turn comes, the call stays as it is.
  generalize start : { s with tickets := [] } = mid
  obtain ⟨workspace, conn⟩ : mid.workspace = s.workspace ∧ mid.conn = s.conn := start ▸ ⟨rfl, rfl⟩
  rw [← workspace] at left
  rw [← conn] at found whole
  clear start workspace conn
  generalize s.tickets = entries at listed distinct ⊢
  induction entries generalizing mid with
  | nil => cases listed
  | cons entry rest ih =>
    obtain ⟨apart, distinct⟩ := List.nodup_cons.mp distinct
    rcases List.mem_cons.mp listed with rfl | later
    · -- What is written stays, whatever is answered after it.
      refine List.foldlRecOn (motive := fun after : Session =>
        .response (some call.id) outcome ∈ after.conn.written) rest _ ?_
        fun after written other _ => ?_
      · simp only [left, Option.bind_some, Task.done?]
        rw [Connection.written_reply found fresh whole]
        exact List.mem_append_right _ (List.mem_singleton.mpr rfl)
      · dsimp only
        split
        · exact (Connection.reply_keeps after.conn _ _).2.2.subset written
        · exact written
    · have other : ticket ≠ entry.2 := by
        rintro rfl
        exact apart (List.mem_map.mpr ⟨_, later, rfl⟩)
      refine ih _ ?_ ?_ ?_ later distinct
      all_goals dsimp only
      all_goals split
      · exact (Connection.reply_keeps mid.conn entry.2 _).2.1.trans whole
      · exact whole
      · exact ((Connection.reply_keeps mid.conn entry.2 _).1 ticket other).trans found
      · exact found
      · exact left
      · exact left

theorem inbound_of_roll {conn conn' : Connection} (roll : conn'.roll = conn.roll)
    (found : conn.inbound[ticket]? = some call) :
    ∃ call', conn'.inbound[ticket]? = some call' ∧ call'.id = call.id := by
  have listed : conn'.roll[ticket]? = some (call.id, call.answered) := by
    rw [roll]
    simp [Connection.roll, found]
  obtain ⟨call', found', same⟩ := Option.map_eq_some_iff.mp ((List.getElem?_map ..).symm.trans listed)
  exact ⟨call', found', congrArg Prod.fst same⟩

theorem Tidy.relay_writes (tidy : Tidy s) (listed : (number, ticket) ∈ s.tickets)
    {outcome : Except Rpc.Error Json}
    (left : s.workspace.tasks[number]? = some (.finished (.reply outcome)))
    (found : s.conn.inbound[ticket]? = some call) (whole : s.conn.broken = false) :
    .response (some call.id) outcome ∈ s.relay.conn.written := by
  let c := promptCollaborators
  let flushed : Session := { s with workspace := s.workspace.act c .flush }
  let settled : Session :=
    { s.sendAll.giveUpSettings with conn := s.sendAll.giveUpSettings.conn.settle }
  have sends : Sends (s.workspace.told = []) flushed settled := settled_sends c s
  have taken : Carried c settled settled.takeAnswers := takeAnswers_carried settled
  have last : Carried c settled.takeAnswers.replyAll s.relay :=
    (passCancellations_carried _).trans (noteLink_carried _)
  have toFlushed : Follows c s.workspace flushed.workspace := .act _ .flush rfl
  have flushedTidy : Tidy flushed :=
    tidy.congr (toFlushed.sound tidy.sound) tidy.clean rfl rfl
  have takenTidy : Tidy settled.takeAnswers := taken.tidy (sends.tidy flushedTidy)
  -- Neither the ticket nor the task nor the call changes before the calls are answered.
  have listed' : (number, ticket) ∈ settled.takeAnswers.tickets := by
    rw [taken.tickets, sends.tickets]
    exact listed
  have left' : settled.takeAnswers.workspace.tasks[number]? = some (.finished (.reply outcome)) := by
    rw [(takeAnswers_frame settled).2.2, sends.workspace]
    exact left
  obtain ⟨call', found', same⟩ := inbound_of_roll sends.conn.roll found
  rw [← taken.conn] at found'
  have whole' : settled.takeAnswers.conn.broken = false := by
    rw [taken.conn, sends.conn.linked]
    exact whole
  have written := takenTidy.replyAll_writes listed' left' found' whole'
  rwa [last.conn, ← same]

/-! ### Runs -/

def stageSeen (c : Collaborators) (s : Session) (move : Move) : List Lifecycle :=
  if (s.act c move).workspace.lifecycle = s.workspace.lifecycle then []
  else [(s.act c move).workspace.lifecycle]

/-- All stages that a session comes to in the course of some moves, in order. -/
def stageLog (c : Collaborators) (s : Session) (moves : List Move) : List Lifecycle :=
  trace (act c) (stageSeen c) s moves

/-- All views that are opened in the course of some moves, by their first attempts at a runner. -/
def viewLog (c : Collaborators) (s : Session) (moves : List Move) : List Task :=
  trace (act c) (fun s move => s.workspace.viewsOpened (s.act c move).workspace) s moves

theorem Turn.seen {move : Move} (turn : Turn c s move) :
    (s.act c move).workspace.lifecycle = s.workspace.lifecycle ∧ stageSeen c s move = [] ∧
        OpensNone s.workspace (s.act c move).workspace ∨
      ∃ stage, Next s.workspace.lifecycle stage ∧ (s.act c move).workspace.lifecycle = stage ∧
        stageSeen c s move = [stage] ∧
        (stage = .initialized ∧ (s.workspace.viewsOpened (s.act c move).workspace).length = 1 ∨
          stage ≠ .initialized ∧ OpensNone s.workspace (s.act c move).workspace) := by
  have led : ∀ {stage}, Next s.workspace.lifecycle stage →
      (s.act c move).workspace.lifecycle = stage → stageSeen c s move = [stage] := by
    intro stage next after
    rw [stageSeen, after, if_neg next.ne]
  cases turn with
  | rests same unopened => exact .inl ⟨same, if_pos same, unopened⟩
  | greeted _ _ before after unopened =>
    have next : Next s.workspace.lifecycle .initializing := before ▸ .greet
    exact .inr ⟨_, next, after, led next after, .inr ⟨by simp, unopened⟩⟩
  | entered _ _ before after opened =>
    have next : Next s.workspace.lifecycle .initialized := before ▸ .enter
    exact .inr ⟨_, next, after, led next after, .inl ⟨rfl, opened⟩⟩
  | accepted _ next after unopened =>
    exact .inr ⟨_, next, after, led next after, .inr ⟨by simp, unopened⟩⟩

theorem Turn.length_viewsOpened {move : Move} (turn : Turn c s move) :
    (s.workspace.viewsOpened (s.act c move).workspace).length =
      (stageSeen c s move).count .initialized := by
  rcases turn.seen with ⟨-, seen, unopened⟩ | ⟨stage, -, -, seen, ⟨rfl, opened⟩ | ⟨other, unopened⟩⟩
  · rw [seen, unopened.views]
    rfl
  · rw [seen, opened]
    rfl
  · rw [seen, unopened.views, List.count_singleton, if_neg (by simpa using other)]
    rfl

/-- A session in good order, whose stage follows from those it has come to. There is no snapshot
before the view is opened. -/
structure Progressed (s : Session) (log : List Lifecycle) : Prop where
  tidy : Tidy s
  staged : Staged s.workspace.lifecycle log
  unopened : .initialized ∉ log → s.workspace.snapshots = []

section

variable {log : List Lifecycle}

theorem Progressed.act (progressed : Progressed s log) (move : Move) :
    Progressed (s.act c move) (log ++ stageSeen c s move) := by
  have tidy := progressed.tidy
  have kept : OpensNone s.workspace (s.act c move).workspace →
      .initialized ∉ log ++ stageSeen c s move → (s.act c move).workspace.snapshots = [] :=
    fun unopened unseen => unopened.empty (progressed.unopened fun seen =>
      unseen (List.mem_append_left _ seen))
  rcases (tidy.turn (c := c) move).seen with
    ⟨same, seen, unopened⟩ | ⟨stage, next, after, seen, opened⟩
  · refine ⟨(tidy.act move).tidy, ?_, kept unopened⟩
    rw [seen, List.append_nil, same]
    exact progressed.staged
  · refine ⟨(tidy.act move).tidy, ?_, ?_⟩
    · rw [seen, after]
      exact progressed.staged.next next
    · -- Only the news that the editor is ready bring a snapshot, and they are seen.
      rcases opened with ⟨rfl, -⟩ | ⟨-, unopened⟩
      · simp [seen]
      · exact kept unopened

theorem Tidy.length_viewLog (tidy : Tidy s) (moves : List Move) :
    (viewLog c s moves).length = (stageLog c s moves).count .initialized := by
  -- The session stays in good order, so that each move adds to both logs alike.
  induction moves generalizing s with
  | nil => rfl
  | cons move rest ih =>
    have first := (tidy.turn (c := c) move).length_viewsOpened
    have later := ih (tidy.act (c := c) move).tidy
    calc (viewLog c s (move :: rest)).length
        = (s.workspace.viewsOpened (Session.act c s move).workspace).length +
            (viewLog c (Session.act c s move) rest).length := List.length_append
      _ = (stageSeen c s move).count .initialized +
            (stageLog c (Session.act c s move) rest).count .initialized := by rw [first, later]
      _ = (stageLog c s (move :: rest)).count .initialized := List.count_append.symm

end

theorem fresh_progressed (names : Nat → String) (supported : Bool) (limit : Nat) :
    Progressed (fresh names supported limit) [] :=
  ⟨fresh_tidy names supported limit, .created, fun _ => rfl⟩

theorem play_progressed (c : Collaborators) (names : Nat → String) (supported : Bool) (limit : Nat)
    (moves : List Move) :
    Progressed ((fresh names supported limit).play c moves)
      (stageLog c (fresh names supported limit) moves) := by
  have run := trace_induction Progressed (fun _ => True)
    (fun {s log move} _ before => before.act (c := c) move)
    (fresh_progressed names supported limit) fun next (_ : next ∈ moves) => trivial
  rwa [List.nil_append] at run

/-! ### What may be asked and told -/

/-- Why requests about documents are refused: no handshake was accepted yet, or a shutdown was. -/
inductive Refuses (log : List Lifecycle) : Rpc.Error → Prop where
  | early (ungreeted : .initializing ∉ log) : Refuses log ⟨-32002, "server not initialized", none⟩
  | late (shut : .shutDown ∈ log) : Refuses log ⟨-32600, "server is shut down", none⟩

/--
What a session does at its stage, given the stages that it has come to and the views that it has
opened so far.

The next message may be any. A fix is judged as its task takes its first step, unless the request was
given up by then; what a task leaves is written when things next pass to the editor.
-/
structure KeepsStages (c : Collaborators) (s : Session) (log : List Lifecycle) (views : List Task) :
    Prop where
  -- The stages come in their order, each for its reason, and a view is opened with one of them.
  staged : Staged s.workspace.lifecycle log
  turns : ∀ move, Turn c s move
  opened : views.length = log.count .initialized
  unopened : .initialized ∉ log → s.workspace.snapshots = []
  -- A handshake is accepted if it is the first and names a root, and else changes nothing.
  greets : ∀ {id method params handshake}, Request.decode method params = .ok (.handshake handshake) →
    (∃ root workspace, .initializing ∉ log ∧ Workspace.rootOf handshake = .ok root ∧
      workspace.root = root ∧ workspace.lifecycle = .initializing ∧
      s.receive c (.message (.call id method params)) =
        s.answering id method params (.ok Workspace.capabilities) workspace) ∨
    ∃ error, (.initializing ∈ log ∨ Workspace.rootOf handshake = .error error) ∧
      s.receive c (.message (.call id method params)) =
        s.answering id method params (.error error) s.workspace
  -- Actions are offered, or refused, as they are asked for.
  offers : ∀ {id method params question}, Request.decode method params = .ok (.codeAction question) →
    ∃ outcome, s.receive c (.message (.call id method params)) =
        s.answering id method params outcome s.workspace ∧
      ∀ error, outcome = .error error ↔ Refuses log error
  -- A fix is left to a task, and so is a shutdown; only their first steps look at the stage.
  defers : ∀ {id method params request task}, Request.decode method params = .ok request →
    (∃ action, request = .resolve action ∧ task = .fix { action }) ∨
      request = .shutdown ∧ task = .shutdown .telling →
    s.receive c (.message (.call id method params)) =
      { s with conn := (s.conn.dispatch (.call id method params)).2 }.spawnFor s.conn.inbound.length
        task
  refuses : ∀ {number job eager error}, s.workspace.tasks[number]? = some (.fix job) →
    job.phase = .asking → (job.cancelled = true → eager = true) → Refuses log error →
    s.act c (.within (.step number eager)) = { s with workspace := { s.workspace with
      tasks := s.workspace.tasks.set number (.finished (.reply (.error error))) } }
  shuts : ∀ {number} (eager : Bool), s.workspace.tasks[number]? = some (.shutdown .telling) →
    (s.act c (.within (.step number eager))).workspace.lifecycle =
      if .initializing ∈ log then .shutDown else .created
  -- What is answered is written.
  tells : ∀ (id method params outcome workspace), s.conn.broken = false →
    (s.answering id method params outcome workspace).conn.written =
      s.conn.written ++ [.response (some id) outcome]
  relays : ∀ {number ticket outcome call}, (number, ticket) ∈ s.tickets →
    s.workspace.tasks[number]? = some (.finished (.reply outcome)) →
    s.conn.inbound[ticket]? = some call → s.conn.broken = false →
    .response (some call.id) outcome ∈ s.relay.conn.written
  -- News come to something at their stage only, and the exit code tells of a shutdown.
  passesOver : ∀ {method params news}, News.decode method params = .ok news →
    (news = .initialized ∧ log ≠ [.initializing] ∨
      news.isOfDocument = true ∧ (.initialized ∉ log ∨ .shutDown ∈ log)) →
    (s.receive c (.message (.notification method params))).workspace = s.workspace
  leaves : ∀ {method params}, News.decode method params = .ok .exit →
    (s.receive c (.message (.notification method params))).workspace =
      { s.workspace with exitCode := some (if .shutDown ∈ log then 0 else 1) }

section

variable {log : List Lifecycle}

theorem inactive_iff {w : Workspace} (staged : Staged w.lifecycle log) (error : Rpc.Error) :
    w.inactive? = some error ↔ Refuses log error := by
  constructor
  · intro refused
    unfold Workspace.inactive? at refused
    split at refused
    · rename_i stage
      cases refused
      exact .early (staged.created_iff.mp stage)
    · rename_i stage
      cases refused
      exact .late (staged.shutDown_iff.mp stage)
    · cases refused
    · cases refused
  · rintro (ungreeted | shut)
    · simp only [Workspace.inactive?, staged.created_iff.mpr ungreeted]
      rfl
    · simp only [Workspace.inactive?, staged.shutDown_iff.mpr shut]
      rfl

theorem codeActions_iff {w : Workspace} (staged : Staged w.lifecycle log) (question : CodeActionParams)
    (error : Rpc.Error) : w.codeActions c question = .error error ↔ Refuses log error := by
  rw [← inactive_iff staged]
  unfold Workspace.codeActions
  cases w.inactive? <;> simp

theorem act_fix_of_refused {job : FixJob} {eager : Bool} {error : Rpc.Error}
    (found : s.workspace.tasks[number]? = some (.fix job)) (asking : job.phase = .asking)
    (wanted : job.cancelled = true → eager = true) (refused : s.workspace.inactive? = some error) :
    s.act c (.within (.step number eager)) = { s with workspace := { s.workspace with
      tasks := s.workspace.tasks.set number (.finished (.reply (.error error))) } } := by
  have goesOn : (job.cancelled && !eager) = false := by
    cases gone : job.cancelled with
    | false => rfl
    | true => rw [wanted gone]; rfl
  have stepped : s.workspace.stepFix c eager job =
      some (s.workspace, .finished (.reply (.error error))) := by
    simp [Workspace.stepFix, asking, goesOn, refused]
  simp [Session.act, Workspace.Move.isWithin, Workspace.act, Workspace.step, found,
    Workspace.stepTask, stepped]

theorem act_shutdown_stage (eager : Bool)
    (found : s.workspace.tasks[number]? = some (.shutdown .telling)) :
    (s.act c (.within (.step number eager))).workspace.lifecycle =
      if s.workspace.lifecycle = .created then .created else .shutDown := by
  cases stage : s.workspace.lifecycle <;>
    simp [Session.act, Workspace.Move.isWithin, Workspace.act, Workspace.step, found,
      Workspace.stepTask, Workspace.stepShutdown, stage]

theorem written_answering (s : Session) (id : Rpc.Id) (method : String) (params : Json)
    (outcome : Except Rpc.Error Json) (workspace : Workspace) (whole : s.conn.broken = false) :
    (s.answering id method params outcome workspace).conn.written =
      s.conn.written ++ [.response (some id) outcome] := by
  have taken : (s.conn.dispatch (.call id method params)).2.inbound[s.conn.inbound.length]? =
      some { id, method, params } := by
    simp [Connection.dispatch, Connection.accept]
  exact Connection.written_reply taken rfl whole outcome

theorem hear_of_stage {w : Workspace} {news : News} (kind : news.isOfDocument = true)
    (stage : w.lifecycle ≠ .initialized) : w.hear news = w := by
  cases news with
  | opened document => exact Workspace.takeModification_of_stage stage _
  | changed document changes =>
    simp only [Workspace.hear]
    split
    · rfl
    · exact Workspace.takeModification_of_stage stage _
  | closed uri => exact Workspace.takeModification_of_stage stage _
  | saved uri text => exact Workspace.takeModification_of_stage stage _
  | _ => cases kind

theorem receive_handshake {id : Rpc.Id} {handshake : InitializeParams}
    (asked : Request.decode method params = .ok (.handshake handshake)) :
    s.receive c (.message (.call id method params)) =
      s.answering id method params (s.workspace.handshake handshake).1
        (s.workspace.handshake handshake).2 := by
  simp only [receive_call, serve, asked]
  rfl

theorem Progressed.keepsStages (progressed : Progressed s log) {views : List Task}
    (opened : views.length = log.count .initialized) : KeepsStages c s log views := by
  have staged := progressed.staged
  refine {
    staged
    turns := progressed.tidy.turn
    opened
    unopened := progressed.unopened
    greets := ?_
    offers := ?_
    defers := ?_
    refuses := ?_
    shuts := ?_
    tells := written_answering s
    relays := fun listed left found whole => progressed.tidy.relay_writes listed left found whole
    passesOver := ?_
    leaves := ?_ }
  · intro id method params handshake asked
    rw [receive_handshake asked]
    rcases s.workspace.handshake_cases handshake with
      ⟨root, workspace, created, named, rooted, stage, -, -, accepted⟩ | ⟨error, reason, refused⟩
    · rw [accepted]
      exact .inl ⟨root, workspace, staged.created_iff.mp created, named, rooted, stage, rfl⟩
    · rw [refused]
      refine .inr ⟨error, reason.imp_left fun greeted => ?_, rfl⟩
      simpa [staged.created_iff] using greeted
  · intro id method params question asked
    refine ⟨s.workspace.codeActions c question, ?_, codeActions_iff staged question⟩
    simp only [receive_call, serve, asked]
    rfl
  · rintro id method params request task asked (⟨action, rfl, rfl⟩ | ⟨rfl, rfl⟩)
    · simp only [receive_call, serve, asked]
    · simp only [receive_call, serve, asked]
  · intro number job eager error found asking wanted refused
    exact act_fix_of_refused found asking wanted ((inactive_iff staged error).mpr refused)
  · intro number eager found
    rw [act_shutdown_stage eager found]
    by_cases greeted : .initializing ∈ log <;> simp [staged.created_iff, greeted]
  · rintro method params news told (⟨rfl, other⟩ | ⟨kind, outside⟩)
    · rw [receive_news told]
      refine if_neg ?_
      rwa [staged.initializing_iff]
    · rw [receive_news told]
      refine hear_of_stage kind fun stage => ?_
      obtain ⟨entered, unshut⟩ := staged.initialized_iff.mp stage
      exact outside.elim (· entered) unshut
  · intro method params told
    rw [receive_news told]
    simp only [Workspace.hear, Workspace.leave, staged.shutDown_iff]

end

/-- Whatever a session goes through, its stages come in their order, and at each of them the editor
may ask and tell what belongs there. -/
theorem stages_keep_their_order (c : Collaborators) (names : Nat → String) (supported : Bool)
    (limit : Nat) (moves : List Move) :
    KeepsStages c ((fresh names supported limit).play c moves)
      (stageLog c (fresh names supported limit) moves)
      (viewLog c (fresh names supported limit) moves) :=
  (play_progressed c names supported limit moves).keepsStages
    ((fresh_tidy names supported limit).length_viewLog moves)

def handshakeCall (id : Rpc.Id) : Rpc.Message :=
  .call id "initialize" (.ofMembers [
    ("rootUri", .str "file:///w"), ("capabilities", .ofMembers [])])

/-- An editor that asks to shut down and leaves without waiting. -/
def hastyEditor : List Rpc.Message :=
  [handshakeCall (.number 1), .call (.number 2) "shutdown" .null, .notification "exit" .null]

/-- An editor that asks for a fix before it shakes hands, and waits for neither answer. -/
def rashEditor : List Rpc.Message :=
  [.call (.number 1) "codeAction/resolve" (.ofMembers [("title", .str "t")]), handshakeCall (.number 2)]

/-- All that an editor says has been dealt with before the task of its request goes on. -/
def afterAll (editor : List Rpc.Message) (steps : Nat) : List Move :=
  .feed (editor.flatMap fun message => Rpc.Frame.write message.encode) ::
    List.replicate editor.length .receive ++
    List.replicate steps (.within (.step 1 true)) ++ [.relay]

set_option maxRecDepth 4000 in
/-- A request that is left to a task is not judged in the order of arrival: a session that is left
after a shutdown that it accepts exits as if there were none, and a fix that was asked for before the
handshake is not refused. -/
theorem tasks_are_judged_late :
    let left := (fresh (fun _ => "") false 1).play promptCollaborators (afterAll hastyEditor 2)
    let greeted := (fresh (fun _ => "") false 1).play promptCollaborators (afterAll rashEditor 1)
    left.workspace.lifecycle = .shutDown ∧ left.workspace.exitCode = some 1 ∧
      left.conn.written.getLast? = some (.response (some (.number 2)) (.ok .null)) ∧
      greeted.conn.written.getLast? = some (.response (some (.number 1))
        (.error ⟨-32603, "fix generation is disabled", none⟩)) := by
  refine ⟨?_, ?_, ?_, ?_⟩
  · decide +kernel
  · decide +kernel
  · rfl
  · rfl

end PolicyServer.Session
