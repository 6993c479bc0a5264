import Mathlib.Data.List.Dedup
import PolicyServer.Proofs.Workspace.Effect

/-! Of all passes only the newest may go on to publish, and passes publish one after the other. -/

namespace PolicyServer

variable {phase : PassPhase}

def PassPhase.isSending : PassPhase → Bool
  | .sending _ _ _ => true
  | _ => false

theorem PassPhase.isSending_of_not_hasEntered (early : phase.hasEntered = false) :
    phase.isSending = false := by
  cases phase with
  | sending work rest files => cases early
  | _ => rfl

namespace Workspace

open Function (update)

variable {c : Collaborators} {w w' : Workspace} {s : Stake} {log deeds : List Deed} {number : Nat}
  {job : PassJob}

def Deed.pass : Deed → Nat
  | .invoke pass => pass
  | .enter pass _ => pass
  | .publish pass _ => pass
  | .finish pass _ => pass

def invokers (log : List Deed) : List Nat := log.filterMap fun
  | .invoke pass => some pass
  | _ => none

def entrants (log : List Deed) : List Nat := log.filterMap fun
  | .enter pass _ => some pass
  | _ => none

/-- The passes that published, once for every message, in order. -/
def publishers (log : List Deed) : List Nat := log.filterMap fun
  | .publish pass _ => some pass
  | _ => none

/-- The messages by which diagnostics were published, in order. -/
def publications (log : List Deed) : List PublishDiagnostics := log.filterMap fun
  | .publish _ params => some params
  | _ => none

/-! ### The passes and the tasks that run them -/

/--
The passes in their order, each run by one task.

All but the newest are cancelled, and whoever publishes has the turn to itself.
-/
structure Roster (s : Stake) : Prop where
  superseded : ∀ {number : Nat} {pass : Pass}, s.passes[number]? = some pass →
    number + 1 < s.passes.length → pass.cancelled = true
  begun : ∀ {number : Nat} {job : PassJob}, s.jobs number = some job → job.pass < s.passes.length
  alone : ∀ {first second : Nat} {job job' : PassJob}, s.jobs first = some job →
    s.jobs second = some job' → job.pass = job'.pass → first = second
  held : ∀ {number : Nat} {job : PassJob}, s.jobs number = some job →
    job.phase.isSending = true → s.publishing = true
  turn : ∀ {first second : Nat} {job job' : PassJob}, s.jobs first = some job →
    s.jobs second = some job' → job.phase.isSending = true → job'.phase.isSending = true →
    first = second

theorem job_of_update {jobs : Nat → Option PassJob} {other : Nat} {new : Option PassJob}
    (runs : update jobs number new other = some job) :
    (other = number ∧ new = some job) ∨ (other ≠ number ∧ jobs other = some job) := by
  by_cases same : other = number
  · subst same
    exact .inl ⟨rfl, by simpa using runs⟩
  · exact .inr ⟨same, by simpa [same] using runs⟩

theorem Roster.put (roster : Roster s) {s' : Stake} {new : Option PassJob}
    (jobs : s'.jobs = update s.jobs number new) (longer : s.passes.length ≤ s'.passes.length)
    (superseded : ∀ {place : Nat} {pass : Pass}, s'.passes[place]? = some pass →
      place + 1 < s'.passes.length → pass.cancelled = true)
    (own : ∀ job ∈ new, job.pass < s'.passes.length ∧
      (job.phase.isSending = true → s'.publishing = true) ∧
      ∀ other job', other ≠ number → s.jobs other = some job' → job'.pass ≠ job.pass)
    (lock : ∀ other job', other ≠ number → s.jobs other = some job' → job'.phase.isSending = true →
      s'.publishing = true ∧ ∀ job ∈ new, job.phase.isSending = false) : Roster s' where
  superseded := superseded
  begun runs := by
    rcases job_of_update (jobs ▸ runs) with ⟨-, mine⟩ | ⟨-, old⟩
    · exact (own _ mine).1
    · exact Nat.lt_of_lt_of_le (roster.begun old) longer
  alone first second same := by
    rcases job_of_update (jobs ▸ first) with ⟨here, mine⟩ | ⟨apart, old⟩ <;>
      rcases job_of_update (jobs ▸ second) with ⟨here', mine'⟩ | ⟨apart', old'⟩
    · rw [here, here']
    · exact absurd same.symm ((own _ mine).2.2 _ _ apart' old')
    · exact absurd same ((own _ mine').2.2 _ _ apart old)
    · exact roster.alone old old' same
  held runs sending := by
    rcases job_of_update (jobs ▸ runs) with ⟨-, mine⟩ | ⟨apart, old⟩
    · exact (own _ mine).2.1 sending
    · exact (lock _ _ apart old sending).1
  turn first second sending sending' := by
    rcases job_of_update (jobs ▸ first) with ⟨here, mine⟩ | ⟨apart, old⟩ <;>
      rcases job_of_update (jobs ▸ second) with ⟨here', mine'⟩ | ⟨apart', old'⟩
    · rw [here, here']
    · exact absurd sending (by simp [(lock _ _ apart' old' sending').2 _ mine])
    · exact absurd sending' (by simp [(lock _ _ apart old sending).2 _ mine'])
    · exact roster.turn old old' sending sending'

theorem Roster.go (roster : Roster s) {publishing : Bool} {published : Table Publication} {runs : Nat}
    {told : List Outgoing} (running : s.jobs number = some job)
    (lock : ∀ other job', other ≠ number → s.jobs other = some job' →
      job'.phase.isSending = true → phase.isSending = false ∧ publishing = true)
    (own : phase.isSending = true → publishing = true) :
    Roster { s with
      publishing, published, runs, told, jobs := update s.jobs number (some { job with phase }) } := by
  refine roster.put rfl (Nat.le_refl _) roster.superseded ?_ fun other job' apart old sending => ?_
  · rintro _ ⟨⟩
    -- The task that went on runs the pass that it ran before.
    have begun := roster.begun running
    exact ⟨begun, own, fun other job' apart old same =>
      apart (roster.alone old running same)⟩
  · obtain ⟨waits, taken⟩ := lock other job' apart old sending
    exact ⟨taken, by rintro _ ⟨⟩; exact waits⟩

theorem Roster.goUnseen (roster : Roster s) {runs : Nat} (running : s.jobs number = some job)
    (after : phase.hasEntered = false) :
    Roster { s with runs, jobs := update s.jobs number (some { job with phase }) } := by
  -- A pass that has not had its turn does not send, so it need not hold the turn.
  have waits := PassPhase.isSending_of_not_hasEntered after
  refine roster.go running (fun _ _ _ old sending => ⟨waits, roster.held old sending⟩) ?_
  intro sending
  rw [waits] at sending
  cases sending

theorem getElem?_beginPass {seq : Nat} {pass : Pass}
    (found : (w.beginPass seq).passes[number]? = some pass)
    (older : number + 1 < (w.beginPass seq).passes.length) :
    pass.cancelled = true ∨ (number + 1 < w.passes.length ∧ w.passes[number]? = some pass) := by
  rw [length_beginPass] at older
  have within : number < w.passes.length := by omega
  have nonempty : w.passes.isEmpty = false := by
    cases passes : w.passes with
    | nil => simp [passes] at within
    | cons => rfl
  simp only [beginPass, nonempty, endScope] at found
  rw [List.getElem?_append_left (by simpa using within)] at found
  simp only [Bool.false_eq_true, if_false, List.getElem?_modify] at found
  obtain ⟨before, here, same⟩ := Option.map_eq_some_iff.mp found
  by_cases last : w.passes.length - 1 = number
  · -- This was the newest pass until now.
    rw [if_pos last] at same
    exact .inl (same ▸ rfl)
  · rw [if_neg last] at same
    exact .inr ⟨by omega, same ▸ here⟩

theorem Effect.roster (effect : Effect w w' deeds) (roster : Roster w.stake) :
    Roster w'.stake := by
  cases effect with
  | still same => exact same ▸ roster
  | link broken same =>
    rw [same]
    exact ⟨roster.superseded, roster.begun, roster.alone, roster.held, roster.turn⟩
  | mark uri same =>
    rw [same]
    exact ⟨roster.superseded, roster.begun, roster.alone, roster.held, roster.turn⟩
  | cancel number same =>
    rw [same]
    -- Cancelling a pass changes neither their number nor one that is cancelled already.
    have length : (w.endScope (.pass number)).passes.length = w.passes.length := by
      simp [endScope]
    refine ⟨fun {place pass} found older => ?_, fun runs => ?_, roster.alone, roster.held,
      roster.turn⟩
    · simp only [endScope, List.getElem?_modify] at found
      obtain ⟨before, here, same⟩ := Option.map_eq_some_iff.mp found
      have cancelled := roster.superseded here (length ▸ older)
      by_cases this : number = place
      · rw [if_pos this] at same
        exact same ▸ rfl
      · rw [if_neg this] at same
        exact same ▸ cancelled
    · exact length.symm ▸ roster.begun runs
  | start number job vacant next early ordered same =>
    rw [same]
    have length := length_beginPass w job.snapshot
    have waits := PassPhase.isSending_of_not_hasEntered early
    refine roster.put rfl ?_ (fun found older => ?_) ?_ fun other job' apart old sending =>
      ⟨roster.held old sending, by rintro _ ⟨⟩; exact waits⟩
    · show w.passes.length ≤ (w.beginPass job.snapshot).passes.length
      omega
    · rcases getElem?_beginPass found older with cancelled | ⟨older, found⟩
      · exact cancelled
      · exact roster.superseded found older
    · rintro _ ⟨⟩
      refine ⟨?_, by simp [waits], fun other job' apart old same => ?_⟩
      · show job.pass < (w.beginPass job.snapshot).passes.length
        omega
      · -- No task ran a pass of the number that the new one has.
        have older : job'.pass < w.passes.length := roster.begun old
        omega
  | unseen runs before after ordered same =>
    rw [same]
    exact roster.goUnseen runs after
  | invoke runs before after ordered awake same =>
    rw [same]
    exact roster.goUnseen runs after
  | enter runs waits free awake same =>
    rw [same]
    refine roster.go runs (fun other job' apart old sending => ?_) fun _ => rfl
    -- Nobody can have the turn while it is free.
    have taken : w.publishing = true := roster.held old sending
    rw [free] at taken
    cases taken
  | @publish number job _ _ _ _ _ runs sends same =>
    rw [same]
    have sending : job.phase.isSending = true := by
      rw [sends]
      rfl
    refine roster.go runs (fun other job' apart old sending' => ?_) fun _ => roster.held runs sending
    exact absurd (roster.turn old runs sending' sending) apart
  | @leave number job _ _ runs sent same =>
    rw [same]
    have sending : job.phase.isSending = true := by
      rw [sent]
      rfl
    refine roster.go runs (fun other job' apart old sending' => ?_) fun none => by cases none
    exact absurd (roster.turn old runs sending' sending) apart
  | finish runs complete same =>
    rw [same]
    -- One task fewer leaves all that is said of the others.
    exact roster.put rfl (Nat.le_refl _) roster.superseded (by simp)
      fun other job' apart old sending => ⟨roster.held old sending, by simp⟩

theorem Roster.newest_of_awake (roster : Roster w.stake) {pass : Nat} (begun : pass < w.passes.length)
    (awake : w.isEnded (.pass pass) = false) : pass + 1 = w.passes.length := by
  by_contra older
  have found := List.getElem?_eq_getElem begun
  have cancelled := roster.superseded found (by show pass + 1 < w.passes.length; omega)
  simp [isEnded, found, cancelled] at awake

/-! ### The order in which passes publish -/

theorem entrants_append (before after : List Deed) :
    entrants (before ++ after) = entrants before ++ entrants after := List.filterMap_append

theorem publishers_append (before after : List Deed) :
    publishers (before ++ after) = publishers before ++ publishers after := List.filterMap_append

theorem mem_entrants {pass : Nat} : pass ∈ entrants log ↔ ∃ turn, Deed.enter pass turn ∈ log := by
  simp only [entrants, List.mem_filterMap]
  constructor
  · rintro ⟨deed, member, seen⟩
    cases deed with
    | enter number turn => cases seen; exact ⟨turn, member⟩
    | _ => cases seen
  · rintro ⟨turn, member⟩
    exact ⟨_, member, rfl⟩

/--
The order that a history keeps.

Turns are taken in the order of the passes, each pass publishes in its turn only, and while one has
its turn no later pass has had one.
-/
structure Orderly (s : Stake) (log : List Deed) : Prop where
  known : ∀ deed ∈ log, deed.pass < s.passes.length
  early : ∀ {number : Nat} {job : PassJob}, s.jobs number = some job →
    job.phase.hasEntered = false → job.pass ∉ entrants log
  latest : ∀ {number : Nat} {job : PassJob}, s.jobs number = some job →
    job.phase.isSending = true → job.pass ∈ entrants log ∧ ∀ pass ∈ entrants log, pass ≤ job.pass
  inTurn : ∀ pass ∈ publishers log, pass ∈ entrants log
  turns : (entrants log).Pairwise (· < ·)
  messages : (publishers log).Pairwise (· ≤ ·)

theorem Orderly.silent (orderly : Orderly s log) {s' : Stake} {new : Option PassJob}
    (jobs : s'.jobs = update s.jobs number new) (length : s.passes.length ≤ s'.passes.length)
    (known : ∀ deed ∈ deeds, deed.pass < s'.passes.length)
    (noTurn : entrants deeds = []) (noMessage : publishers deeds = [])
    (calm : ∀ job ∈ new, job.phase.isSending = false ∧
      (job.phase.hasEntered = false → job.pass ∉ entrants log)) :
    Orderly s' (log ++ deeds) := by
  -- Neither list grows, so each condition is the former one over the new stake.
  have turns : entrants (log ++ deeds) = entrants log := by
    rw [entrants_append, noTurn, List.append_nil]
  have messages : publishers (log ++ deeds) = publishers log := by
    rw [publishers_append, noMessage, List.append_nil]
  refine ⟨List.forall_mem_append.mpr ⟨fun deed before => ?_, known⟩, fun runs early => ?_,
    fun runs sending => ?_, ?_, turns ▸ orderly.turns, messages ▸ orderly.messages⟩
  · exact Nat.lt_of_lt_of_le (orderly.known deed before) length
  · rw [turns]
    rcases job_of_update (jobs ▸ runs) with ⟨-, mine⟩ | ⟨-, old⟩
    · exact (calm _ mine).2 early
    · exact orderly.early old early
  · rw [turns]
    rcases job_of_update (jobs ▸ runs) with ⟨-, mine⟩ | ⟨-, old⟩
    · rw [(calm _ mine).1] at sending
      cases sending
    · exact orderly.latest old sending
  · rw [turns, messages]
    exact orderly.inTurn

theorem Orderly.goUnseen (orderly : Orderly s log) {runs : Nat} (running : s.jobs number = some job)
    (before : job.phase.hasEntered = false) (after : phase.hasEntered = false)
    (known : ∀ deed ∈ deeds, deed.pass < s.passes.length) (noTurn : entrants deeds = [])
    (noMessage : publishers deeds = []) :
    Orderly { s with runs, jobs := update s.jobs number (some { job with phase }) }
      (log ++ deeds) := by
  refine orderly.silent rfl (Nat.le_refl _) known noTurn noMessage ?_
  rintro _ ⟨⟩
  have absent := orderly.early running before
  exact ⟨PassPhase.isSending_of_not_hasEntered after, fun _ => absent⟩

theorem Effect.orderly (effect : Effect w w' deeds) (roster : Roster w.stake)
    (orderly : Orderly w.stake log) : Orderly w'.stake (log ++ deeds) := by
  cases effect with
  | still same =>
    rw [same, List.append_nil]
    exact orderly
  | link broken same =>
    rw [same, List.append_nil]
    exact ⟨orderly.known, orderly.early, orderly.latest, orderly.inTurn, orderly.turns,
      orderly.messages⟩
  | mark uri same =>
    rw [same, List.append_nil]
    exact ⟨orderly.known, orderly.early, orderly.latest, orderly.inTurn, orderly.turns,
      orderly.messages⟩
  | cancel number same =>
    rw [same, List.append_nil]
    have length : (w.endScope (.pass number)).passes.length = w.passes.length := by
      simp [endScope]
    exact ⟨fun deed member => length.symm ▸ orderly.known deed member, orderly.early,
      orderly.latest, orderly.inTurn, orderly.turns, orderly.messages⟩
  | start number job vacant next early ordered same =>
    rw [same]
    have length := length_beginPass w job.snapshot
    refine orderly.silent rfl ?_ (by simp) rfl rfl ?_
    · show w.passes.length ≤ (w.beginPass job.snapshot).passes.length
      omega
    · rintro _ ⟨⟩
      refine ⟨PassPhase.isSending_of_not_hasEntered early, fun _ seen => ?_⟩
      -- The number of the new pass is above all that were seen.
      obtain ⟨turn, member⟩ := mem_entrants.mp seen
      have older : job.pass < w.passes.length := orderly.known _ member
      omega
  | unseen runs before after ordered same =>
    rw [same]
    exact orderly.goUnseen runs before after (by simp) rfl rfl
  | invoke runs before after ordered awake same =>
    rw [same]
    refine orderly.goUnseen runs before after ?_ rfl rfl
    intro deed member
    obtain rfl := List.mem_singleton.mp member
    exact roster.begun runs
  | @enter number job work findings runs waits free awake same =>
    rw [same]
    have begun : job.pass < w.passes.length := roster.begun runs
    have newest := roster.newest_of_awake begun awake
    have new : job.pass ∉ entrants log := orderly.early runs (by rw [waits]; rfl)
    -- Every pass that had its turn is older than the newest, and is not the newest itself.
    have below : ∀ pass ∈ entrants log, pass < job.pass := by
      intro pass seen
      obtain ⟨turn, member⟩ := mem_entrants.mp seen
      have known : pass < w.passes.length := orderly.known _ member
      have other : pass ≠ job.pass := fun same => new (same ▸ seen)
      omega
    refine ⟨List.forall_mem_append.mpr ⟨orderly.known, List.forall_mem_singleton.mpr begun⟩,
      fun {other job'} runs' early => ?_, fun {other job'} runs' sending => ?_,
      fun pass member => ?_, ?_, ?_⟩
    · rw [entrants_append]
      rcases job_of_update runs' with ⟨-, new⟩ | ⟨apart, old⟩
      · cases new
        cases early
      · intro seen
        rcases List.mem_append.mp seen with before | this
        · exact orderly.early old early before
        · have same : job'.pass = job.pass := List.mem_singleton.mp this
          exact apart (roster.alone old runs same)
    · rw [entrants_append]
      rcases job_of_update runs' with ⟨-, new⟩ | ⟨-, old⟩
      · cases new
        refine ⟨List.mem_append_right _ (List.mem_singleton.mpr rfl), fun pass member => ?_⟩
        rcases List.mem_append.mp member with before | this
        · exact Nat.le_of_lt (below pass before)
        · exact Nat.le_of_eq (List.mem_singleton.mp this)
      · have taken : w.publishing = true := roster.held old sending
        rw [free] at taken
        cases taken
    · rw [publishers_append] at member
      rw [entrants_append]
      rcases List.mem_append.mp member with before | none
      · exact List.mem_append_left _ (orderly.inTurn pass before)
      · cases none
    · rw [entrants_append]
      refine List.pairwise_append.mpr ⟨orderly.turns, List.pairwise_singleton _ _, ?_⟩
      intro pass before this member
      obtain rfl := List.mem_singleton.mp member
      exact below pass before
    · rw [publishers_append]
      exact (List.append_nil (publishers log)).symm ▸ orderly.messages
  | @publish number job work uri diagnostics rest files runs sends same =>
    rw [same]
    have sending : job.phase.isSending = true := by
      rw [sends]
      rfl
    obtain ⟨entered, last⟩ := orderly.latest runs sending
    have begun : job.pass < w.passes.length := roster.begun runs
    refine ⟨List.forall_mem_append.mpr ⟨orderly.known, List.forall_mem_singleton.mpr begun⟩,
      fun {other job'} runs' early => ?_, fun {other job'} runs' sending' => ?_,
      fun pass member => ?_, ?_, ?_⟩
    · rw [entrants_append]
      rcases job_of_update runs' with ⟨-, new⟩ | ⟨-, old⟩
      · cases new
        cases early
      · exact (List.append_nil (entrants log)).symm ▸ orderly.early old early
    · rw [entrants_append]
      refine (List.append_nil (entrants log)).symm ▸ ?_
      rcases job_of_update runs' with ⟨-, new⟩ | ⟨-, old⟩
      · cases new
        exact ⟨entered, last⟩
      · exact orderly.latest old sending'
    · rw [publishers_append] at member
      rw [entrants_append]
      refine List.mem_append_left _ ?_
      rcases List.mem_append.mp member with before | this
      · exact orderly.inTurn pass before
      · obtain rfl := List.mem_singleton.mp this
        exact entered
    · rw [entrants_append]
      exact (List.append_nil (entrants log)).symm ▸ orderly.turns
    · rw [publishers_append]
      refine List.pairwise_append.mpr ⟨orderly.messages, List.pairwise_singleton _ _, ?_⟩
      intro pass before this member
      obtain rfl := List.mem_singleton.mp member
      exact last pass (orderly.inTurn pass before)
  | leave runs sent same =>
    rw [same]
    refine orderly.silent rfl (Nat.le_refl _) (by simp) rfl rfl ?_
    rintro _ ⟨⟩
    exact ⟨rfl, fun early => by cases early⟩
  | @finish number job work outcome runs complete same =>
    rw [same]
    have begun : job.pass < w.passes.length := roster.begun runs
    exact orderly.silent rfl (Nat.le_refl _) (List.forall_mem_singleton.mpr begun) rfl rfl (by simp)

/-! ### Whole courses of moves -/

theorem fresh_roster (names : Nat → String) (supported : Bool) (limit : Nat) :
    Roster (fresh names supported limit).stake := by
  -- The one task at the start forwards the log, and runs no pass.
  have idle : ∀ number, (fresh names supported limit).stake.jobs number = none := by
    intro number
    cases number with
    | zero => rfl
    | succ number => rfl
  refine ⟨fun found => ?_, fun runs => ?_, fun runs => ?_, fun runs => ?_, fun runs => ?_⟩
  · cases found
  all_goals rw [idle] at runs; cases runs

theorem fresh_orderly (names : Nat → String) (supported : Bool) (limit : Nat) :
    Orderly (fresh names supported limit).stake [] where
  known := by simp
  early := by simp [entrants]
  latest runs sending := by
    have taken := (fresh_roster names supported limit).held runs sending
    cases taken
  inTurn := by simp [publishers]
  turns := List.Pairwise.nil
  messages := List.Pairwise.nil

theorem Orderly.cleared (kept : Roster w.stake ∧ Orderly w.stake log) :
    Roster (w.act c .flush).stake ∧ Orderly (w.act c .flush).stake log := by
  obtain ⟨roster, orderly⟩ := kept
  exact ⟨⟨roster.superseded, roster.begun, roster.alone, roster.held, roster.turn⟩,
    ⟨orderly.known, orderly.early, orderly.latest, orderly.inTurn, orderly.turns, orderly.messages⟩⟩

theorem play_orderly (names : Nat → String) (supported : Bool) (limit : Nat) (moves : List Move) :
    Roster ((fresh names supported limit).play c moves).stake ∧
      Orderly ((fresh names supported limit).play c moves).stake
        ((fresh names supported limit).history c moves) := by
  exact play_induction (fun w log => Roster w.stake ∧ Orderly w.stake log) Orderly.cleared
    (fun _ _ effect ⟨roster, orderly⟩ => ⟨effect.roster roster, effect.orderly roster orderly⟩)
    (fresh_anchored names supported limit) []
    ⟨fresh_roster names supported limit, fresh_orderly names supported limit⟩ moves

theorem Effect.awake (effect : Effect w w' deeds) {pass : Nat}
    (seen : pass ∈ invokers deeds ∨ pass ∈ entrants deeds) : w.isEnded (.pass pass) = false := by
  -- The runner is invoked, and a turn taken, only by a pass that looked whether it had ended.
  cases effect with
  | invoke _ _ _ _ awake _ =>
    rcases seen with this | none
    · rw [List.mem_singleton.mp this]
      exact awake
    · cases none
  | enter _ _ _ awake _ =>
    rcases seen with none | this
    · cases none
    · rw [List.mem_singleton.mp this]
      exact awake
  | _ => rcases seen with none | none <;> cases none

theorem not_seen_of_isEnded (anchored : Anchored w) {pass : Nat} (begun : pass < w.passes.length)
    (ended : w.isEnded (.pass pass) = true) (moves : List Move) :
    pass ∉ invokers (w.history c moves) ∧ pass ∉ entrants (w.history c moves) := by
  -- A pass that has ended stays so, whichever move comes next.
  induction moves generalizing w with
  | nil => simp [history, invokers, entrants]
  | cons move rest ih =>
    obtain ⟨after, longer⟩ := act_spec (c := c) anchored move
    have here : ¬(pass ∈ invokers (w.deeds c move) ∨ pass ∈ entrants (w.deeds c move)) := by
      by_cases clearing : move = .flush
      · subst clearing
        simp [deeds, invokers, entrants]
      · intro seen
        have awake := (act_effect anchored clearing).awake seen
        rw [ended] at awake
        cases awake
    have later := ih after (longer.begun begun) (longer.isEnded begun ended)
    simp only [history, invokers, entrants, List.filterMap_append, List.mem_append] at here later ⊢
    tauto

theorem Effect.reported (effect : Effect w w' deeds) :
    w'.runs = w.runs + (invokers deeds).length ∧
      w'.told = w.told ++ if w.outbox.broken then [] else (publications deeds).map .publish := by
  -- Runs are counted by invocations; what is told grows by messages, while the link holds.
  have counted : ∀ {s : Stake}, w'.stake = s → w'.runs = s.runs ∧ w'.told = s.told := by
    rintro s rfl
    exact ⟨rfl, rfl⟩
  cases effect with
  | publish runs sends same =>
    obtain ⟨runs', told'⟩ := counted same
    refine ⟨runs', told'.trans ?_⟩
    simp only [told, Workspace.publish, send, Outbox.send]
    split <;> simp [publications, Outgoing.isPublication]
  | invoke runs before after ordered awake same =>
    obtain ⟨runs', told'⟩ := counted same
    refine ⟨runs', told'.trans ?_⟩
    simp [publications, stake]
  | _ =>
    rename_i same
    obtain ⟨runs', told'⟩ := counted same
    refine ⟨runs', told'.trans ?_⟩
    simp [publications, stake]

theorem play_runs (names : Nat → String) (supported : Bool) (limit : Nat) (moves : List Move) :
    ((fresh names supported limit).play c moves).runs =
      (invokers ((fresh names supported limit).history c moves)).length := by
  -- Each effect counts one run for each invocation that is seen.
  refine play_induction (fun w log => w.runs = (invokers log).length)
    (fun counted => counted) (fun _ _ effect counted => ?_)
    (fresh_anchored names supported limit) [] rfl moves
  rw [effect.reported.1, counted, invokers, invokers, invokers, List.filterMap_append,
    List.length_append]

theorem not_publishes_of_isEnded (names : Nat → String) (supported : Bool) (limit : Nat)
    (moves after : List Move)
    (begun : number < ((fresh names supported limit).play c moves).passes.length)
    (ended : ((fresh names supported limit).play c moves).isEnded (.pass number) = true)
    (early : number ∉ entrants ((fresh names supported limit).history c moves)) :
    number ∉ publishers ((fresh names supported limit).history c (moves ++ after)) := by
  -- Whoever publishes has taken its turn, which it had not then and could not take since.
  intro publishes
  have entered :=
    (play_orderly (c := c) names supported limit (moves ++ after)).2.inTurn number publishes
  rw [history_append, entrants_append] at entered
  have anchored := play_anchored (c := c) (fresh_anchored names supported limit) moves
  rcases List.mem_append.mp entered with before | later
  · exact early before
  · exact (not_seen_of_isEnded anchored begun ended after).2 later

/--
Passes supersede one another, whatever the limit and the course of moves.

All but the newest are cancelled, and a cancelled pass neither invokes the runner nor takes its turn
to publish. So passes publish in their order, no two of them at a time, and one that was cancelled
before its turn publishes nothing. What they are seen to do is what is counted and what is sent.
-/
theorem newest_pass_prevails (c : Collaborators) (names : Nat → String) (supported : Bool)
    (limit : Nat) (moves : List Move) :
    let start := fresh names supported limit
    let w := start.play c moves
    let log := start.history c moves
    (∀ number pass, w.passes[number]? = some pass → number + 1 < w.passes.length →
      pass.cancelled = true ∧ w.isEnded (.pass number) = true) ∧
    (∀ number after, number < w.passes.length → w.isEnded (.pass number) = true →
      number ∉ invokers (w.history c after) ∧ number ∉ entrants (w.history c after)) ∧
    (publishers log).dedup.Pairwise (· < ·) ∧
    (∀ number before between after,
      publishers log = before ++ number :: between ++ number :: after →
      ∀ other ∈ between, other = number) ∧
    (∀ number after, number < w.passes.length → w.isEnded (.pass number) = true →
      number ∉ entrants log → number ∉ publishers (start.history c (moves ++ after))) ∧
    w.runs = (invokers log).length ∧
    ∀ move, move ≠ .flush → (w.act c move).told =
      w.told ++ if w.outbox.broken then [] else (publications (w.deeds c move)).map .publish := by
  intro start w log
  have anchored : Anchored w := play_anchored (fresh_anchored names supported limit) moves
  obtain ⟨roster, orderly⟩ := play_orderly (c := c) names supported limit moves
  refine ⟨fun number pass found older => ?_,
    fun number after begun ended => not_seen_of_isEnded anchored begun ended after, ?_,
    fun number before between after split other member => ?_,
    fun number after => not_publishes_of_isEnded names supported limit moves after,
    play_runs names supported limit moves,
    fun move clearing => (act_effect anchored clearing).reported.2⟩
  · have cancelled : pass.cancelled = true := roster.superseded found older
    exact ⟨cancelled, by simp [isEnded, found, cancelled]⟩
  · -- Without repetitions, the order of the messages is a strict one.
    have once := List.nodup_dedup (publishers log)
    have ascending := orderly.messages.sublist (List.dedup_sublist (publishers log))
    exact (ascending.and once).imp fun both => Nat.lt_of_le_of_ne both.1 both.2
  · -- Between two messages of a pass stand only passes that are no older and no newer.
    have sorted : (before ++ number :: between ++ number :: after).Pairwise (· ≤ ·) :=
      split ▸ orderly.messages
    simp only [List.append_assoc, List.cons_append, List.pairwise_append, List.pairwise_cons,
      List.mem_append, List.mem_cons] at sorted
    obtain ⟨-, ⟨fromFirst, -, -, toSecond⟩, -⟩ := sorted
    exact Nat.le_antisymm (toSecond other member number (.inl rfl)) (fromFirst other (.inl member))

end Workspace

end PolicyServer
