import PolicyServer.Proofs.Workspace.Invocation
import PolicyServer.Proofs.Workspace.Turns

/-! What is seen of verdicts: when the analysis of a pass comes to one, when the pass has its turn to
tell of it, how the status changes, and how the pass ends. -/

namespace PolicyServer

/-- A change of the status, with what had been sent to the editor before it and after it. -/
structure StatusChange where
  former : Option Work
  next : Option Work
  before : Outbox
  after : Outbox

namespace StatusChange

def Ends (change : StatusChange) (work : Work) : Prop :=
  change.former = some work ∧ change.next = none ∧
    change.after = change.before.sendAll (work.closed "Done.")

/-- An error becomes the status where there is none, and the editor is told so. -/
def Begins (change : StatusChange) (work : Work) (message : String) : Prop :=
  change.former = none ∧ change.next = some work ∧
    change.after = change.before.sendAll (work.opened (Workspace.statusOpening message))

/-- Changes that follow one another from one status to another. -/
def Linked : Option Work → List StatusChange → Option Work → Prop
  | first, [], last => last = first
  | first, change :: rest, last => change.former = first ∧ Linked change.next rest last

theorem Linked.append {first last : Option Work} {changes : List StatusChange}
    (linked : Linked first changes last) {change : StatusChange} (from' : change.former = last) :
    Linked first (changes ++ [change]) change.next := by
  induction changes generalizing first with
  | nil => exact ⟨from'.trans linked, rfl⟩
  | cons earlier rest ih => exact ⟨linked.1, ih linked.2⟩

end StatusChange

/-- What is seen of a pass and of the status. -/
inductive Glimpse where
  -- The analysis of a pass has come to a verdict, which the pass now waits to tell of.
  | judged (pass : Nat) (verdict : Verdict)
  -- The pass has its turn at the status.
  | turned (pass : Nat)
  -- The status changes, by a step of that pass if it is the step of one.
  | changed (pass : Option Nat) (change : StatusChange)
  -- The pass is over.
  | ended (pass : Nat) (outcome : PassOutcome)

namespace Glimpse

def about? : Glimpse → Option Nat
  | .judged pass _ | .turned pass | .ended pass _ => some pass
  | .changed _ _ => none

def arrival? : Glimpse → Option Nat
  | .judged pass _ => some pass
  | _ => none

def turn? : Glimpse → Option Nat
  | .turned pass => some pass
  | _ => none

def change? : Glimpse → Option StatusChange
  | .changed _ change => some change
  | _ => none

def verdict? : Glimpse → Option (Nat × Verdict)
  | .judged pass verdict => some (pass, verdict)
  | _ => none

def ending? : Glimpse → Option (Nat × PassOutcome)
  | .ended pass outcome => some (pass, outcome)
  | _ => none

/-- The passes that came to wait for their turn at the status, in that order. -/
def arrivals (log : List Glimpse) : List Nat := log.filterMap Glimpse.arrival?

/-- The passes that had their turn at the status, in that order. -/
def turns (log : List Glimpse) : List Nat := log.filterMap Glimpse.turn?

def changes (log : List Glimpse) : List StatusChange := log.filterMap Glimpse.change?

def life (log : List Glimpse) (pass : Nat) : List Glimpse :=
  log.filter fun glimpse => glimpse.about? = some pass

theorem mem_life {log : List Glimpse} {glimpse : Glimpse} {pass : Nat} :
    glimpse ∈ life log pass ↔ glimpse ∈ log ∧ glimpse.about? = some pass := by
  simp [life]

theorem life_append_of_apart {log more : List Glimpse} {pass : Nat}
    (apart : ∀ glimpse ∈ more, glimpse.about? ≠ some pass) :
    life (log ++ more) pass = life log pass := by
  have none : more.filter (fun glimpse => glimpse.about? = some pass) = [] := by
    rw [List.filter_eq_nil_iff]
    intro glimpse member
    simpa using apart glimpse member
  rw [life, List.filter_append, none, List.append_nil]
  rfl

end Glimpse

/-- How far a pass has come with its verdict: there is none, it waits to tell of it, or it has had its
turn. -/
inductive Stand where
  | unheard
  | waiting (verdict : Verdict)
  | heard (verdict : Verdict)

def Stand.life (pass : Nat) : Stand → List Glimpse
  | .unheard => []
  | .waiting verdict => [.judged pass verdict]
  | .heard verdict => [.judged pass verdict, .turned pass]

/-- A pass in that phase has come so far. A pass that ends as cancelled may have had its turn, for it
looks whether it is cancelled once more before it publishes. -/
def PassPhase.Allows (stand : Stand) : PassPhase → Prop
  | .status _ verdict .turn => stand = .waiting verdict
  | .status _ verdict .announcing | .status _ verdict (.asked _) =>
    stand = .heard verdict ∧ ∃ message, verdict = .error message
  | .correlating _ _ | .publishing _ _ | .sending _ _ _ | .ending _ (.published _) =>
    ∃ resources, stand = .heard (.ok resources)
  | .ending _ .failed => ∃ message, stand = .heard (.error message)
  | .ending _ .cancelled => stand = .unheard ∨ ∃ resources, stand = .heard (.ok resources)
  | _ => stand = .unheard

def Task.waitsToTell : Task → Bool
  | .pass job =>
    match job.phase with
    | .status _ _ .turn => true
    | _ => false
  | _ => false

namespace Workspace

open Glimpse (arrivals turns changes life)

variable {c : Collaborators} {eager : Bool} {w w' : Workspace} {number : Nat} {task task' : Task}
  {job : PassJob} {phase : PassPhase}

def seenOf (c : Collaborators) (w : Workspace) (job : PassJob) (task' : Task) : List Glimpse :=
  match (Task.pass job).waitsToTell, task'.waitsToTell, task' with
  | false, true, _ => ((w.verdictOf? c job).map (.judged job.pass)).toList
  | true, false, _ => [.turned job.pass]
  | _, _, .finished (.outcome outcome) => [.ended job.pass outcome]
  | _, _, _ => []

def statusSeen (w : Workspace) (pass : Option Nat) (w' : Workspace) : List Glimpse :=
  if w'.status = w.status then []
  else [.changed pass ⟨w.status, w'.status, w.outbox, w'.outbox⟩]

def glimpses (c : Collaborators) (w : Workspace) (task : Task) (w' : Workspace) (task' : Task) :
    List Glimpse :=
  match task with
  | .pass job => seenOf c w job task' ++ statusSeen w (some job.pass) w'
  | _ => statusSeen w none w'

/--
What a step of a pass comes to, for its verdict and the status.

On the way to a verdict and once it is told of, the status is left alone. In its turn the pass ends the
former status, and one that has failed announces its error before it gives the turn back.
-/
inductive Speaks (c : Collaborators) (w : Workspace) (job : PassJob) (w' : Workspace) :
    Task → List Glimpse → Prop where
  | goes {phase : PassPhase} (keeps : ∀ stand, job.phase.Allows stand → phase.Allows stand)
      (flags : phase.isFlagging = job.phase.isFlagging) (status : w'.status = w.status)
      (flagging : w'.flagging = w.flagging) :
    Speaks c w job w' (.pass { job with phase }) []
  | judged {work : Work} {verdict : Verdict} (early : ∀ stand, job.phase.Allows stand → stand = .unheard)
      (awake : w.isEnded (.pass job.pass) = false) (status : w'.status = w.status)
      (flagging : w'.flagging = w.flagging) :
    Speaks c w job w' (.pass { job with phase := .status work verdict .turn })
      [.judged job.pass verdict]
  | clears {work : Work} {resources : Resources}
      (before : job.phase = .status work (.ok resources) .turn) (free : w.flagging = false)
      (outbox : w'.outbox = w.outbox.sendAll ((w.status.map (Work.closed "Done.")).getD []))
      (status : w'.status = none) (flagging : w'.flagging = false) :
    Speaks c w job w' (.pass { job with phase := .correlating work resources })
      (.turned job.pass :: statusSeen w (some job.pass) w')
  | begins {work : Work} {message : String}
      (before : job.phase = .status work (.error message) .turn) (free : w.flagging = false)
      (outbox : w'.outbox = w.outbox.sendAll ((w.status.map (Work.closed "Done.")).getD []))
      (status : w'.status = none) (flagging : w'.flagging = true) :
    Speaks c w job w' (.pass { job with phase := .status work (.error message) .announcing })
      (.turned job.pass :: statusSeen w (some job.pass) w')
  | raises {work shown : Work} {message : String}
      (before : ∀ stand, job.phase.Allows stand → stand = .heard (.error message))
      (flags : job.phase.isFlagging = true)
      (outbox : w'.outbox = w.outbox.sendAll (shown.opened (statusOpening message)))
      (status : w'.status = some shown) (flagging : w'.flagging = false) :
    Speaks c w job w' (.pass { job with phase := .ending work .failed })
      (statusSeen w (some job.pass) w')
  | ends {work : Work} {outcome : PassOutcome} (complete : job.phase = .ending work outcome)
      (status : w'.status = w.status) (flagging : w'.flagging = w.flagging) :
    Speaks c w job w' (.finished (.outcome outcome)) [.ended job.pass outcome]

theorem statusSeen_of_eq {pass : Option Nat} (same : w'.status = w.status) :
    statusSeen w pass w' = [] := if_pos same

theorem PassPhase.unheard_of_isEarly (early : phase.isEarly = true)
    (running : ∀ work outcome, phase ≠ .ending work outcome) {stand : Stand}
    (allowed : phase.Allows stand) : stand = .unheard := by
  cases phase with
  | ending work outcome => exact absurd rfl (running work outcome)
  | _ => first | exact allowed | cases early

theorem PassPhase.allows_of_isEarly (early : phase.isEarly = true) :
    phase.Allows .unheard := by
  cases phase with
  | ending work outcome => cases outcome <;> first | exact .inl rfl | cases early
  | _ => first | rfl | cases early

theorem PassPhase.heard_of_isCleared (cleared : phase.isCleared = true)
    (running : ∀ work outcome, phase ≠ .ending work outcome) {stand : Stand}
    (allowed : phase.Allows stand) : ∃ resources, stand = .heard (.ok resources) := by
  cases phase with
  | ending work outcome => exact absurd rfl (running work outcome)
  | _ => first | exact allowed | cases cleared

theorem PassPhase.allows_of_isCleared (cleared : phase.isCleared = true) (resources : Resources) :
    phase.Allows (.heard (.ok resources)) := by
  cases phase with
  | ending work outcome =>
    cases outcome <;> first | exact .inr ⟨resources, rfl⟩ | exact ⟨resources, rfl⟩ | cases cleared
  | _ => first | exact ⟨resources, rfl⟩ | cases cleared

theorem running_of_pass {job' : PassJob}
    (stepped : w.stepTask c eager (.pass job) = some (w', .pass job')) (work : Work)
    (outcome : PassOutcome) : job.phase ≠ .ending work outcome := by
  intro complete
  simp [stepTask, stepPass, complete] at stepped

theorem waitsToTell_of_isEarly (early : job.phase.isEarly = true) :
    (Task.pass job).waitsToTell = false := by
  obtain ⟨pass, snapshot, message, phase⟩ := job
  cases phase <;> first | rfl | cases early

theorem waitsToTell_of_isCleared (cleared : job.phase.isCleared = true) :
    (Task.pass job).waitsToTell = false := by
  obtain ⟨pass, snapshot, message, phase⟩ := job
  cases phase <;> first | rfl | cases cleared

theorem seenOf_pass {job' : PassJob} (before : (Task.pass job).waitsToTell = false)
    (after : (Task.pass job').waitsToTell = false) : seenOf c w job (.pass job') = [] := by
  simp [seenOf, before, after]

theorem stepTask_speaks (stepped : w.stepTask c eager (.pass job) = some (w', task'))
    (sound : ∃ stand, job.phase.Allows stand) :
    Speaks c w job w' task' (glimpses c w (.pass job) w' task') := by
  have shown := stepTask_show stepped
  generalize told : w'.surface = surface at shown
  have outbox : w'.outbox = surface.outbox := congrArg Surface.outbox told
  have status : w'.status = surface.status := congrArg Surface.status told
  have flagging : w'.flagging = surface.flagging := congrArg Surface.flagging told
  simp only [glimpses]
  cases shown with
  | other apart => cases apart
  | @ends _ work outcome complete =>
    have seen : seenOf c w job (.finished (.outcome outcome)) = [.ended job.pass outcome] := by
      simp [seenOf, Task.waitsToTell, complete]
    rw [seen, statusSeen_of_eq status]
    exact .ends complete status flagging
  | @pass _ _ phase step =>
    have running := running_of_pass stepped
    -- Where the status stays and no turn is waited for, the pass just goes on.
    have goes (before : (Task.pass job).waitsToTell = false)
        (after : (Task.pass { job with phase }).waitsToTell = false)
        (keeps : ∀ stand, job.phase.Allows stand → phase.Allows stand)
        (flags : phase.isFlagging = job.phase.isFlagging) (same : w'.status = w.status)
        (held : w'.flagging = w.flagging) : Speaks c w job w' (.pass { job with phase })
          (seenOf c w job (.pass { job with phase }) ++ statusSeen w (some job.pass) w') := by
      rw [seenOf_pass before after, statusSeen_of_eq same]
      exact .goes keeps flags same held
    cases step with
    | early before after =>
      refine goes (waitsToTell_of_isEarly before) (waitsToTell_of_isEarly after) ?_ ?_ status flagging
      · intro stand allowed
        rw [PassPhase.unheard_of_isEarly before running allowed]
        exact PassPhase.allows_of_isEarly after
      · rw [(PassPhase.idle_of_isEarly before).2, (PassPhase.idle_of_isEarly after).2]
    | calls before =>
      refine goes ?_ rfl ?_ ?_ status flagging <;> simp [Task.waitsToTell, before, PassPhase.Allows,
        PassPhase.isFlagging]
    | @judged work verdict before reached awake =>
      have seen : seenOf c w job (.pass { job with phase := .status work verdict .turn }) =
          [.judged job.pass verdict] := by
        have after : (Task.pass { job with phase := .status work verdict .turn }).waitsToTell = true :=
          rfl
        simp [seenOf, waitsToTell_of_isEarly before, after, reached]
      rw [seen, statusSeen_of_eq status]
      exact .judged (fun stand => PassPhase.unheard_of_isEarly before running) awake status flagging
    | @clears work resources before free =>
      have seen : seenOf c w job (.pass { job with phase := .correlating work resources }) =
          [.turned job.pass] := by simp [seenOf, Task.waitsToTell, before]
      rw [seen]
      exact .clears before free outbox status flagging
    | @begins work message before free =>
      have seen : seenOf c w job
          (.pass { job with phase := .status work (.error message) .announcing }) =
          [.turned job.pass] := by simp [seenOf, Task.waitsToTell, before]
      rw [seen]
      exact .begins before free outbox status flagging
    | asks before =>
      refine goes ?_ rfl ?_ ?_ status flagging <;> simp [Task.waitsToTell, before, PassPhase.Allows,
        PassPhase.isFlagging]
    | @raises work shown message stage before turn =>
      have waits : (Task.pass job).waitsToTell = false := by
        cases stage <;> first | exact absurd rfl turn | simp [Task.waitsToTell, before]
      rw [seenOf_pass waits rfl]
      refine .raises (fun stand allowed => ?_) ?_ outbox status flagging
      · rw [before] at allowed
        cases stage with
        | turn => exact absurd rfl turn
        | _ => exact allowed.1
      · rw [before]
        exact PassPhase.isFlagging_of_stage turn
    | @void work resources stage _ _ before turn =>
      -- Whoever has its turn past the first step of it has an error to announce.
      obtain ⟨stand, allowed⟩ := sound
      rw [before] at allowed
      cases stage with
      | turn => exact absurd rfl turn
      | _ =>
        obtain ⟨-, message, error⟩ := allowed
        cases error
    | cleared before after =>
      refine goes (waitsToTell_of_isCleared before) (waitsToTell_of_isCleared after) ?_ ?_ status
        flagging
      · intro stand allowed
        obtain ⟨resources, rfl⟩ := PassPhase.heard_of_isCleared before running allowed
        exact PassPhase.allows_of_isCleared after resources
      · rw [PassPhase.idle_of_isCleared before, PassPhase.idle_of_isCleared after]
    | enters before =>
      refine goes ?_ rfl ?_ ?_ status flagging <;> simp [Task.waitsToTell, before, PassPhase.Allows,
        PassPhase.isFlagging]
    | leaves before =>
      refine goes ?_ rfl ?_ ?_ status flagging <;> simp [Task.waitsToTell, before, PassPhase.Allows,
        PassPhase.isFlagging]

end Workspace

end PolicyServer
