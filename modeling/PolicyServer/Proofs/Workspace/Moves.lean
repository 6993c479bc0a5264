import PolicyServer.Proofs.Places
import PolicyServer.Workspace.Lifecycle
import PolicyServer.Workspace.Run

/-! What can happen to a workspace, in any order, and what its passes are seen to do meanwhile. -/

namespace PolicyServer

/-- A fix that is no longer wanted; other tasks cannot be given up. -/
def Task.giveUp : Task → Task
  | .fix job => .fix { job with cancelled := true }
  | task => task

namespace Workspace

/--
What can happen to a workspace: a task goes on, or something reaches it from outside.

Of the latter, some come from the editor and its connection, some from whoever uses the view.
-/
inductive Move where
  -- A task takes one step; where it may both go on and give up, `eager` lets it go on.
  | step (number : Nat) (eager : Bool)
  -- Tasks are lined up anew, and time passes.
  | lineUp (order : List Nat)
  | wait (ms : Nat)
  | store (disk : Disk)
  -- The connection: its state, what it took away, and the answers that came back along it.
  | link (closed broken : Bool)
  | flush
  | answer (token : ProgressToken) (accepted : Bool)
  | settle (outcome : Option (List Json))
  -- The editor: its handshake, what it tells, and the calls that take their time.
  | handshake (params : InitializeParams)
  | hear (news : News)
  | shutDown
  | fix (action : CodeAction)
  | giveUp (number : Nat)
  -- The view and the passes over its snapshots.
  | openView (name : String)
  | beginPass (seq : Nat) (message : String)
  | cancelPass (number : Nat)
  | mark (uri : DocumentUri)
  | change (change : StateChange) (scope : Scope)
  | take
  | observe (seq : Nat) (scope : Scope)
  | stop
  | awaitIdle
  -- References held from outside.
  | keep (name : String) (number : Nat)
  | clone (name : String) (seq : Nat)
  | acquire (name : String)
  | letGo (name : String)

/-- Holds for a snapshot that somebody refers to; only such a one can be handed on. -/
def isReferred (w : Workspace) (seq : Nat) : Bool := (w.snapshots[seq]?).any (0 < ·.refs)

/-- The editor's settings have come, or the call for them failed. -/
def settleSettings (w : Workspace) (outcome : Option (List Json)) : Workspace :=
  match w.settings with
  | .open => { w with settings := .answered outcome }
  | _ => w

def giveUpFix (w : Workspace) (number : Nat) : Workspace :=
  { w with tasks := w.tasks.modify number Task.giveUp }

/-- Begins a pass over a snapshot and starts the task that runs it. -/
def startPass (w : Workspace) (seq : Nat) (message : String) : Workspace :=
  ((w.acquire seq).beginPass seq).spawn (.pass { pass := w.passes.length, snapshot := seq, message })

def keepResult (w : Workspace) (name : String) (number : Nat) : Workspace :=
  match w.tasks[number]? with
  | some (.finished (.snapshot seq)) =>
    { w with tasks := w.tasks.set number (.finished .nothing) }.hold name seq
  | _ => w

/-- Takes another reference to the current snapshot, unless a change is under way. -/
def holdCurrent (w : Workspace) (name : String) : Workspace :=
  match w.changing, w.current with
  | false, some seq => (w.acquire seq).hold name seq
  | _, _ => w

/-- The workspace after a move; one that is not possible changes nothing. -/
def act (c : Collaborators) (w : Workspace) : Move → Workspace
  | .step number eager => (w.step c eager number).getD w
  | .lineUp order => { w with order }
  | .wait ms => { w with clock := w.clock + ms }
  | .store disk => { w with disk }
  | .link closed broken => { w with outbox := { w.outbox with closed, broken } }
  | .flush => { w with outbox := { w.outbox with sent := [] } }
  | .answer token accepted => { w with answers := w.answers ++ [(token, accepted)] }
  | .settle outcome => w.settleSettings outcome
  | .handshake params => if w.snapshots.isEmpty then (w.handshake params).2 else w
  | .hear news => w.hear news
  | .shutDown => w.spawn (.shutdown .telling)
  | .fix action => w.spawn (.fix { action })
  | .giveUp number => w.giveUpFix number
  | .openView name =>
    if w.lifecycle = .created ∧ w.snapshots = [] then w.openView.hold name 0 else w
  | .beginPass seq message => if w.isReferred seq then w.startPass seq message else w
  | .cancelPass number => w.endScope (.pass number)
  | .mark uri => w.spawn (.mark uri)
  | .change change scope => w.spawn (.change change scope .turn)
  | .take => w.spawn .take
  | .observe seq scope =>
    if w.isReferred seq then (w.acquire seq).spawn (.observe { snapshot := seq, scope }) else w
  | .stop => w.spawn (.stop .telling)
  | .awaitIdle => w.spawn .awaitIdle
  | .keep name number => w.keepResult name number
  | .clone name seq => if w.isReferred seq then (w.acquire seq).hold name seq else w
  | .acquire name => w.holdCurrent name
  | .letGo name => w.letGo name

def play (c : Collaborators) (w : Workspace) (moves : List Move) : Workspace := moves.foldl (act c) w

/-- A workspace that nothing has happened to. `limit` passes are admitted at a time, but at least one;
`names` are the texts of the tokens, and `supported` says that the editor can show them. -/
def fresh (names : Nat → String) (supported : Bool) (limit : Nat) : Workspace :=
  { tracker := ⟨names, supported, 0, []⟩, slots := max limit 1 : Workspace }.spawn .forward

def filesOf (w : Workspace) (seq : Nat) : FileMap := ((w.snapshots[seq]?).map (·.files)).getD []

/-- What a pass finds when it has its turn to publish: the files of its snapshot, its results, and the
records of what was published before. -/
structure PublishTurn where
  files : FileMap
  findings : Findings
  table : Table Publication

/-- What a pass is seen to do: it invokes the runner, takes its turn to publish, publishes the
diagnostics of one document, or is over. -/
inductive Deed where
  | invoke (pass : Nat)
  | enter (pass : Nat) (turn : PublishTurn)
  | publish (pass : Nat) (params : PublishDiagnostics)
  | finish (pass : Nat) (outcome : PassOutcome)

/-- What a step of a pass amounts to, which its phase and what becomes of it tell. -/
def deedOf? (w : Workspace) (job : PassJob) (after : Task) : Option Deed :=
  match job.phase, after with
  | .prepared _, .pass { phase := .running _ _ _, .. } => some (.invoke job.pass)
  | .publishing _ findings, .pass { phase := .sending _ _ _, .. } =>
    some (.enter job.pass ⟨w.filesOf job.snapshot, findings, w.published⟩)
  | .sending _ ((uri, diagnostics) :: _) _, _ =>
    some (.publish job.pass ⟨⟨uri⟩, w.versionOf job.snapshot uri, diagnostics⟩)
  | .ending _ _, .finished (.outcome outcome) => some (.finish job.pass outcome)
  | _, _ => none

def deeds (c : Collaborators) (w : Workspace) : Move → List Deed
  | .step number eager =>
    match w.tasks[number]? with
    | some (.pass job) =>
      match w.stepPass c eager job with
      | some (_, after) => (w.deedOf? job after).toList
      | none => []
    | _ => []
  | _ => []

def history (c : Collaborators) : Workspace → List Move → List Deed
  | _, [] => []
  | w, move :: rest => w.deeds c move ++ history c (w.act c move) rest

theorem play_append (c : Collaborators) (w : Workspace) (before after : List Move) :
    w.play c (before ++ after) = (w.play c before).play c after := by
  simp only [play, List.foldl_append]

theorem history_append (c : Collaborators) (w : Workspace) (before after : List Move) :
    w.history c (before ++ after) = w.history c before ++ (w.play c before).history c after := by
  -- The workspace changes with every move, so it stays quantified over.
  induction before generalizing w with
  | nil => rfl
  | cons move rest ih =>
    simp only [List.cons_append, history, List.append_assoc]
    rw [ih]
    rfl

theorem history_single (c : Collaborators) (w : Workspace) (move : Move) :
    w.history c [move] = w.deeds c move := by
  simp [history]

theorem exists_of_mem_history {c : Collaborators} {w : Workspace} {moves : List Move} {deed : Deed}
    (seen : deed ∈ w.history c moves) :
    ∃ before move after, moves = before ++ move :: after ∧
      deed ∈ (w.play c before).deeds c move := by
  -- It is seen now, or in what the remaining moves do to the workspace that follows.
  induction moves generalizing w with
  | nil => cases seen
  | cons move rest ih =>
    rcases List.mem_append.mp seen with now | later
    · exact ⟨[], move, rest, rfl, now⟩
    · obtain ⟨before, next, after, split, there⟩ := ih later
      exact ⟨move :: before, next, after, by rw [split]; rfl, there⟩

/-- A task as it was asked for; it has no snapshot yet, and has not had its turn. -/
inductive Asked : Task → Prop where
  | shutDown : Asked (.shutdown .telling)
  | fix (action : CodeAction) : Asked (.fix { action })
  | mark (uri : DocumentUri) : Asked (.mark uri)
  | change (change : StateChange) (scope : Scope) : Asked (.change change scope .turn)
  | take : Asked .take
  | stop : Asked (.stop .telling)
  | awaitIdle : Asked .awaitIdle

/--
What a move does to a workspace when no task goes on.

A reference is handed on only where somebody has one, and a view is opened only where there is none.
-/
inductive Incident (w : Workspace) : Move → Workspace → Prop where
  -- The surroundings of the tasks change, or nothing does.
  | around (move : Move) (clock : Nat) (settings : SettingsCall) (exitCode : Option Nat)
      (answers : List (ProgressToken × Bool)) (disk : Disk) (documents : List (List Modification))
      (order : List Nat) (grows : w.answers <+: answers) :
    Incident w move { w with clock, settings, exitCode, answers, disk, documents, order }
  | link (closed broken : Bool) :
    Incident w (.link closed broken) { w with outbox := { w.outbox with closed, broken } }
  | flush : Incident w .flush { w with outbox := { w.outbox with sent := [] } }
  -- The session begins.
  | handshake (params : InitializeParams) (stage : w.lifecycle = .created)
      (empty : w.snapshots = []) (root : Bytes) (filter : String) (supported asksSettings : Bool) :
    Incident w (.handshake params)
      { w with
        lifecycle := .initializing
        root
        filter
        tracker := { w.tracker with supported }
        asksSettings }
  | enter : Incident w (.hear .initialized) w.enterSession
  -- Work is asked for, or no longer wanted.
  | spawn (move : Move) {task : Task} (asked : Asked task) : Incident w move (w.spawn task)
  | endScope (move : Move) (scope : Scope) : Incident w move (w.endScope scope)
  | giveUp {number : Nat} {job : FixJob} (found : w.tasks[number]? = some (.fix job)) :
    Incident w (.giveUp number)
      { w with tasks := w.tasks.set number (.fix { job with cancelled := true }) }
  -- References are taken and given back.
  | openView (name : String) (stage : w.lifecycle = .created) (empty : w.snapshots = []) :
    Incident w (.openView name) (w.openView.hold name 0)
  | beginPass {seq : Nat} (message : String) (referred : w.isReferred seq = true) :
    Incident w (.beginPass seq message) (w.startPass seq message)
  | observe {seq : Nat} (scope : Scope) (referred : w.isReferred seq = true) :
    Incident w (.observe seq scope) ((w.acquire seq).spawn (.observe { snapshot := seq, scope }))
  | keep (name : String) {number seq : Nat}
      (found : w.tasks[number]? = some (.finished (.snapshot seq))) :
    Incident w (.keep name number)
      ({ w with tasks := w.tasks.set number (.finished .nothing) }.hold name seq)
  | clone (name : String) {seq : Nat} (referred : w.isReferred seq = true) :
    Incident w (.clone name seq) ((w.acquire seq).hold name seq)
  | acquire (name : String) {seq : Nat} (here : w.current = some seq) :
    Incident w (.acquire name) ((w.acquire seq).hold name seq)
  | letGo (name : String) : Incident w (.letGo name) (w.letGo name)

theorem Incident.refused (w : Workspace) (move : Move) : Incident w move w :=
  .around move w.clock w.settings w.exitCode w.answers w.disk w.documents w.order
    (List.prefix_refl _)

theorem Incident.guarded {w w' : Workspace} {move : Move} {allowed : Prop} [Decidable allowed]
    (incident : allowed → Incident w move w') : Incident w move (if allowed then w' else w) := by
  split
  · exact incident ‹_›
  · exact .refused w move

theorem Incident.ofHandshake {w : Workspace} (empty : w.snapshots = [])
    (params : InitializeParams) : Incident w (.handshake params) (w.handshake params).2 := by
  -- A refused handshake changes nothing, and so does one that names no root.
  unfold Workspace.handshake
  split
  · exact .refused w _
  · exact .refused w _
  · rename_i allowed _
    have stage : w.lifecycle = .created := by
      unfold handshakeRefusal? at allowed
      split at allowed
      · assumption
      all_goals cases allowed
    exact .handshake params stage empty _ _ _ _

theorem Incident.ofGiveUp (w : Workspace) (number : Nat) :
    Incident w (.giveUp number) (w.giveUpFix number) := by
  cases found : w.tasks[number]? with
  -- There is no such task.
  | none =>
    have same : w.giveUpFix number = w := by
      simp only [giveUpFix, List.modify_eq_set_getElem?, found]
      rfl
    rw [same]
    exact .refused w _
  | some task =>
    have set : w.giveUpFix number = { w with tasks := w.tasks.set number task.giveUp } := by
      simp only [giveUpFix, List.modify_eq_set_getElem?, found]
      rfl
    obtain ⟨within, here⟩ := List.getElem?_eq_some_iff.mp found
    rw [set]
    cases task with
    | fix job => exact .giveUp found
    | _ =>
      -- Any other task is put back as it was.
      simp only [Task.giveUp, ← here, List.set_getElem_self]
      exact .refused w _

theorem Incident.ofNews (w : Workspace) (news : News) : Incident w (.hear news) (w.hear news) := by
  -- Each kind of change to a document ends up in the same queue.
  have queued : ∀ modification, Incident w (.hear news) (w.takeModification modification) :=
    fun modification => .guarded fun _ => .around _ _ _ _ _ _ _ _ (List.prefix_refl _)
  cases news with
  | initialized => exact .enter
  | exit => exact .around _ _ _ _ _ _ _ _ (List.prefix_refl _)
  | opened document => exact queued _
  | changed document changes =>
    simp only [hear]
    split
    · exact .refused w _
    · exact queued _
  | closed uri => exact queued _
  | saved uri text => exact queued _
  | cancelWork token =>
    simp only [hear, cancelWork]
    split
    · exact .endScope _ _
    · exact .refused w _

theorem deeds_of_stuck {c : Collaborators} {w : Workspace} {number : Nat} {eager : Bool}
    (stuck : w.step c eager number = none) : w.deeds c (.step number eager) = [] := by
  -- A deed is read off the step of a pass, which the task could then take.
  simp only [deeds]
  split
  · rename_i job found
    split
    · rename_i taken
      simp [step, found, stepTask, taken] at stuck
    · rfl
  · rfl

theorem act_cases (c : Collaborators) (w : Workspace) (move : Move) :
    (∃ number eager, move = .step number eager ∧ w.step c eager number = some (w.act c move)) ∨
      (w.deeds c move = [] ∧ Incident w move (w.act c move)) := by
  -- Only a step shows anything of a pass; each other move is one of the incidents, or refused.
  cases move with
  | step number eager =>
    cases stepped : w.step c eager number with
    | some after => exact .inl ⟨number, eager, rfl, by simp [act, stepped]⟩
    | none =>
      refine .inr ⟨deeds_of_stuck stepped, ?_⟩
      simp only [act, stepped]
      exact .refused w _
  | link closed broken => exact .inr ⟨rfl, .link closed broken⟩
  | flush => exact .inr ⟨rfl, .flush⟩
  | answer token accepted => exact .inr ⟨rfl, .around _ _ _ _ _ _ _ _ (List.prefix_append _ _)⟩
  | settle outcome =>
    refine .inr ⟨rfl, ?_⟩
    simp only [act, settleSettings]
    split
    · exact .around _ _ _ _ _ _ _ _ (List.prefix_refl _)
    · exact .refused w _
  | handshake params =>
    exact .inr ⟨rfl, .guarded fun empty => .ofHandshake (List.isEmpty_iff.mp empty) params⟩
  | hear news => exact .inr ⟨rfl, .ofNews w news⟩
  | shutDown => exact .inr ⟨rfl, .spawn _ .shutDown⟩
  | fix action => exact .inr ⟨rfl, .spawn _ (.fix action)⟩
  | giveUp number => exact .inr ⟨rfl, .ofGiveUp w number⟩
  | openView name => exact .inr ⟨rfl, .guarded fun new => .openView name new.1 new.2⟩
  | beginPass seq message => exact .inr ⟨rfl, .guarded (.beginPass message)⟩
  | cancelPass number => exact .inr ⟨rfl, .endScope _ (.pass number)⟩
  | mark uri => exact .inr ⟨rfl, .spawn _ (.mark uri)⟩
  | change change scope => exact .inr ⟨rfl, .spawn _ (.change change scope)⟩
  | take => exact .inr ⟨rfl, .spawn _ .take⟩
  | observe seq scope => exact .inr ⟨rfl, .guarded (.observe scope)⟩
  | stop => exact .inr ⟨rfl, .spawn _ .stop⟩
  | awaitIdle => exact .inr ⟨rfl, .spawn _ .awaitIdle⟩
  | keep name number =>
    refine .inr ⟨rfl, ?_⟩
    simp only [act, keepResult]
    split
    · rename_i found
      exact .keep name found
    · exact .refused w _
  | clone name seq => exact .inr ⟨rfl, .guarded (.clone name)⟩
  | acquire name =>
    refine .inr ⟨rfl, ?_⟩
    simp only [act, holdCurrent]
    split
    · rename_i here
      exact .acquire name here
    · exact .refused w _
  | letGo name => exact .inr ⟨rfl, .letGo name⟩
  | _ => exact .inr ⟨rfl, .around _ _ _ _ _ _ _ _ (List.prefix_refl _)⟩

end Workspace

end PolicyServer
