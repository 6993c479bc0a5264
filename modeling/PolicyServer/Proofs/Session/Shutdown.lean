import PolicyServer.Proofs.Session.Tickets

/-! A shutdown is answered when all work is over, and after that no work is begun any more. -/

namespace PolicyServer.Session

variable {c : Collaborators} {s s' : Session} {number ticket : Nat}

/-- The next step of a task accepts the editor's request to shut down, which has that ticket. -/
structure Accepts (s : Session) (number ticket : Nat) : Prop where
  asked : s.workspace.tasks[number]? = some (.shutdown .telling)
  listed : (number, ticket) ∈ s.tickets
  stage : s.workspace.lifecycle = .initializing ∨ s.workspace.lifecycle = .initialized

/-- The workspace has settled, and none of its publications is still to be sent. -/
structure Ceased (s : Session) : Prop where
  settled : s.workspace.Settled
  told : s.workspace.told = []

theorem Follows.settled {w w' : Workspace} (follows : Follows c w w') (sound : w.Sound)
    (settled : w.Settled) : w'.Settled ∧ w.Still w' := by
  obtain ⟨moves, ours, rfl⟩ := follows
  exact settled.play sound ours

theorem Follows.closing {w w' : Workspace} (follows : Follows c w w') (sound : w.Sound)
    (closing : w.Closing number) : w'.Closing number := by
  obtain ⟨moves, ours, rfl⟩ := follows
  exact closing.play sound ours

theorem Ceased.act (ceased : Ceased s) (tidy : Tidy s) (move : Move) :
    Ceased (s.act c move) ∧ s.workspace.Still (s.act c move).workspace ∧
      (s.act c move).conn.published = s.conn.published := by
  have course := tidy.act (c := c) move
  obtain ⟨settled, still⟩ := course.follows.settled tidy.sound ceased.settled
  exact ⟨⟨settled, still.told ceased.told⟩, still, course.published ceased.told⟩

theorem Ceased.play (ceased : Ceased s) (tidy : Tidy s) (moves : List Move) :
    s.workspace.Still (s.play c moves).workspace ∧
      (s.play c moves).conn.published = s.conn.published := by
  -- What has ceased is still so after each move, and the silence adds up.
  induction moves generalizing s with
  | nil => exact ⟨.refl _, rfl⟩
  | cons move rest ih =>
    obtain ⟨after, still, silent⟩ := ceased.act (c := c) tidy move
    obtain ⟨still', silent'⟩ := ih after (tidy.act move).tidy
    exact ⟨still.trans still', silent'.trans silent⟩

/-- The workspace is shutting down, and the request for it has its ticket until all has ceased. -/
structure Departing (s : Session) (number ticket : Nat) : Prop where
  closing : s.workspace.Closing number
  promised : (number, ticket) ∈ s.tickets ∨ Ceased s

theorem Departing.act (departing : Departing s number ticket) (tidy : Tidy s) (move : Move) :
    Departing (s.act c move) number ticket := by
  have course := tidy.act (c := c) move
  refine ⟨course.follows.closing tidy.sound departing.closing, ?_⟩
  rcases departing.promised with listed | ceased
  · rcases course.kept listed with kept | ⟨mid, outcome, before, after, told, complete⟩
    · exact .inl kept
    · -- The task has left its answer, which it does only when nobody refers to a snapshot.
      have settled := (before.closing tidy.sound departing.closing).settled complete
      obtain ⟨settled', still⟩ := after.settled (before.sound tidy.sound) settled
      exact .inr ⟨settled', still.told told⟩
  · exact .inr (ceased.act tidy move).1

theorem Departing.play (departing : Departing s number ticket) (tidy : Tidy s)
    (moves : List Move) : Departing (s.play c moves) number ticket := by
  induction moves generalizing s with
  | nil => exact departing
  | cons move rest ih => exact ih (departing.act tidy move) (tidy.act move).tidy

theorem Accepts.departing (accepts : Accepts s number ticket) (eager : Bool) :
    Departing (s.act c (.within (.step number eager))) number ticket :=
  ⟨Workspace.closing_of_accept accepts.asked accepts.stage eager, .inl accepts.listed⟩

theorem Departing.ceased (departing : Departing s number ticket) (tidy : Tidy s)
    (answered : s.conn.answers[ticket]? = some true) : Ceased s := by
  rcases departing.promised with listed | ceased
  · have unanswered := tidy.unanswered _ listed
    cases unanswered.symm.trans answered
  · exact ceased

/--
The reply to an accepted shutdown comes when all work is over, and is the end of all work.

From the start of a session on, anything may happen in any order, before and after a task accepts the
request. Once the request is answered, no snapshot is referred to, no pass is at work, and as many
have left an outcome as were ever begun. Whatever happens later, no snapshot is made, no pass begun, no
runner invoked, and no diagnostics are published.
-/
theorem shutdown_reply_ends_all_work (c : Collaborators) (names : Nat → String) (supported : Bool)
    (limit : Nat) (before after : List Move) (number ticket : Nat) (eager : Bool)
    (accepts : Accepts ((fresh names supported limit).play c before) number ticket)
    (answered : (((fresh names supported limit).play c before).play c
      (.within (.step number eager) :: after)).conn.answers[ticket]? = some true) :
    let s := ((fresh names supported limit).play c before).play c
      (.within (.step number eager) :: after)
    s.workspace.lifecycle = .shutDown ∧ s.workspace.live = 0 ∧
      (∀ snapshot ∈ s.workspace.snapshots, snapshot.refs = 0) ∧
      (∀ task ∈ s.workspace.tasks, task.job? = none) ∧
      s.workspace.outcomes.length = s.workspace.passes.length ∧
      ∀ later : List Move,
        (s.play c later).workspace.snapshots.length = s.workspace.snapshots.length ∧
        (s.play c later).workspace.passes.length = s.workspace.passes.length ∧
        (s.play c later).workspace.runs = s.workspace.runs ∧
        (s.play c later).conn.published = s.conn.published := by
  intro s
  have start : Tidy ((fresh names supported limit).play c before) :=
    (fresh_tidy names supported limit).play before
  have tidy : Tidy s := start.play _
  -- The request keeps its ticket from its acceptance on, and loses it only when all has ceased.
  have departing : Departing s number ticket :=
    (accepts.departing eager).play (start.act _).tidy after
  have ceased : Ceased s := departing.ceased tidy answered
  have idle := ceased.settled.idle
  have custody := tidy.sound.custody
  have resting := custody.no_pass idle
  refine ⟨ceased.settled.stage, idle, custody.unreferred idle, resting,
    Workspace.length_outcomes tidy.sound.tally resting, fun later => ?_⟩
  -- What has ceased stays so.
  obtain ⟨still, silent⟩ := ceased.play (c := c) tidy later
  exact ⟨still.snapshots, still.passes, still.runs, silent⟩

/-- An editor that opens a document and then leaves in a hurry. -/
def hurriedEditor : List Rpc.Message := [
  .call (.number 1) "initialize" (.ofMembers [
    ("rootUri", .str "file:///w"), ("capabilities", .ofMembers [])]),
  .notification "initialized" (.ofMembers []),
  .notification "textDocument/didOpen" (.ofMembers [("textDocument", .ofMembers [
    ("uri", .str "file:///w/a"), ("languageId", .str "yaml"), ("version", .int 1),
    ("text", .str "")])]),
  .call (.number 2) "shutdown" .null]

/-- All that the editor says has been dealt with, and no task has gone on yet. -/
def hurriedStart : List Move :=
  [.feed (hurriedEditor.flatMap fun message => Rpc.Frame.write message.encode),
    .receive, .receive, .receive, .receive, .relay]

/-- The view lets go, then the first pass and the search for a runner end, then the request does. -/
def hurriedEnd : List Move :=
  ([4, 3, 3, 3, 3, 3, 3, 1, 1, 4].map fun number => .within (.step number true)) ++ [.relay]

set_option maxRecDepth 4000 in
/-- The shutdown of a session whose editor leaves in a hurry is answered, though a document is queued;
the first pass has ended by then, and nothing is ever published. -/
theorem hurried_shutdown_ends_all_work :
    let s := ((fresh (fun _ => "") false 1).play promptCollaborators hurriedStart).play
      promptCollaborators (.within (.step 4 true) :: hurriedEnd)
    s.conn.answers[1]? = some true ∧ s.workspace.documents.length = 1 ∧ s.workspace.live = 0 ∧
      s.workspace.outcomes.length = 1 ∧
      ∀ later, (s.play promptCollaborators later).conn.published = [] := by
  intro s
  -- The run is evaluated once, for all that is to be read off it.
  obtain ⟨answered, queued, passes, silent⟩ : s.conn.answers[1]? = some true ∧
      s.workspace.documents.length = 1 ∧ s.workspace.passes.length = 1 ∧
      s.conn.published.length = 0 := by decide +kernel
  have accepts : Accepts ((fresh (fun _ => "") false 1).play promptCollaborators hurriedStart) 4 1 :=
    ⟨rfl, List.mem_singleton.mpr rfl, .inr rfl⟩
  obtain ⟨-, idle, -, -, ended, later⟩ := shutdown_reply_ends_all_work promptCollaborators
    (fun _ => "") false 1 hurriedStart hurriedEnd 4 1 true accepts answered
  refine ⟨answered, queued, idle, ended.trans passes, fun moves => ?_⟩
  exact ((later moves).2.2.2).trans (List.eq_nil_of_length_eq_zero silent)

end PolicyServer.Session
