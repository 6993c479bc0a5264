import PolicyServer.Proofs.Workspace.Status

/-! What the status tells of when no pass is at work: the last verdict that passes have come to. -/

namespace PolicyServer.Workspace

open Glimpse (arrivals turns changes life mem_life)

variable {c : Collaborators} {w : Workspace} {log : List Glimpse} {pass : Nat} {verdict : Verdict}
  {outcome : PassOutcome}

/-! ### In every run -/

/-- All that is seen of verdicts and of the status in the course of some moves. -/
def statusLog (c : Collaborators) (w : Workspace) (moves : List Move) : List Glimpse :=
  trace (act c) (fun w move => watch (glimpses c) c w (.move move)) w moves

/-- Passes are seen as far as they have come, and the status tells of the last one that had a turn. -/
structure Observed (w : Workspace) (log : List Glimpse) : Prop where
  kept : Kept w
  roster : Roster w.stake
  inTurn : InTurn w .status
  lives : Lives w log
  reflects : Reflects w log

theorem Observed.act (observed : Observed w log) (move : Move) :
    Observed (w.act c move) (log ++ watch (glimpses c) c w (.move move)) := by
  have kept : Kept (w.act c move) := (observed.kept.undergo (c := c) (.move move)).1
  have roster : Roster (w.act c move).stake :=
    observed.roster.undergo (c := c) observed.kept.anchored (.move move)
  have inTurn : InTurn (w.act c move) .status := observed.inTurn.act (by simp) move
  suffices both : Lives (w.act c move) (log ++ watch (glimpses c) c w (.move move)) ∧
      Reflects (w.act c move) (log ++ watch (glimpses c) c w (.move move)) from
    ⟨kept, roster, inTurn, both.1, both.2⟩
  rcases watch_cases (glimpses c) c w (.move move) with
    ⟨number, eager, task, mid, task', -, found, stepped, after, seen⟩ | ⟨unseen, rest⟩
  · have same : w.act c move = { mid with tasks := mid.tasks.set number task' } := after
    rw [same, seen]
    have advance := stepTask_advance stepped
    cases apart : task.job? with
    | none =>
      -- Another task lets no pass go on, and leaves the status alone.
      have shown := stepTask_show stepped
      generalize told : mid.surface = surface at shown
      have status : mid.status = surface.status := congrArg Surface.status told
      have flagging : mid.flagging = surface.flagging := congrArg Surface.flagging told
      cases shown with
      | other apart apart' =>
        have none : glimpses c w task mid task' = [] := by
          cases task <;> first | exact statusSeen_of_eq status | cases apart
        rw [none, List.append_nil]
        have rests := advance.rests found apart apart'
        exact ⟨observed.lives.rests rests, observed.reflects.rests rests status flagging⟩
      | pass => cases apart
      | ends => cases apart
    | some job =>
      obtain rfl : task = .pass job := by
        cases task <;> first | cases apart; rfl | cases apart
      obtain ⟨stand, allowed, -⟩ := observed.lives.tasks (List.mem_of_getElem? found)
      have spoken := stepTask_speaks stepped ⟨stand, allowed⟩
      exact ⟨observed.lives.step observed.roster found stepped spoken,
        observed.reflects.step observed.lives observed.inTurn found stepped spoken⟩
  · rw [unseen, List.append_nil]
    rcases rest with ⟨other, same, incident⟩ | approach
    · cases same
      have rests := incident.rests observed.kept.anchored
      have shown := incident.surface
      exact ⟨observed.lives.rests rests,
        observed.reflects.rests rests (congrArg Surface.status shown)
          (congrArg Surface.flagging shown)⟩
    · -- A move is no approach of a caller, unless it changes nothing.
      have same : w.act c move = w := by
        change Approach w (.move move) (w.act c move) at approach
        generalize w.act c move = after at approach
        cases approach
        rfl
      rw [same]
      exact ⟨observed.lives, observed.reflects⟩

theorem play_observed (names : Nat → String) (supported : Bool) (limit : Nat) (moves : List Move) :
    Observed ((fresh names supported limit).play c moves)
      (statusLog c (fresh names supported limit) moves) := by
  have idle : ∀ {job : PassJob}, .pass job ∉ (fresh names supported limit).tasks := by
    simp [fresh, spawn]
  have start : Observed (fresh names supported limit) [] :=
    ⟨fresh_kept names supported limit, fresh_roster names supported limit,
      by simp [InTurn, fresh, spawn, Task.hasTurn, isTaken],
      ⟨List.Pairwise.nil, fun seen => absurd rfl seen, fun listed => absurd listed idle,
        fun seen => absurd rfl seen⟩,
      ⟨fun listed => absurd listed idle, fun _ _ => rfl, fun _ => by simp [turns], rfl, by simp⟩⟩
  have run : Observed (moves.foldl (Workspace.act c) (fresh names supported limit))
      ([] ++ statusLog c (fresh names supported limit) moves) :=
    trace_induction Observed (fun _ => True) (fun {w log move} _ before => before.act move) start
      fun next (_ : next ∈ moves) => trivial
  exact run

/-! ### When no pass is at work -/

def verdicts (log : List Glimpse) : List (Nat × Verdict) := log.filterMap Glimpse.verdict?

def endings (log : List Glimpse) : List (Nat × PassOutcome) := log.filterMap Glimpse.ending?

theorem mem_verdicts :
    (pass, verdict) ∈ verdicts log ↔ .judged pass verdict ∈ log := by
  constructor
  · intro member
    obtain ⟨glimpse, listed, mine⟩ := List.mem_filterMap.mp member
    cases glimpse <;> cases mine
    exact listed
  · exact fun listed => List.mem_filterMap.mpr ⟨_, listed, rfl⟩

theorem mem_endings :
    (pass, outcome) ∈ endings log ↔ .ended pass outcome ∈ log := by
  constructor
  · intro member
    obtain ⟨glimpse, listed, mine⟩ := List.mem_filterMap.mp member
    cases glimpse <;> cases mine
    exact listed
  · exact fun listed => List.mem_filterMap.mpr ⟨_, listed, rfl⟩

/-- Of the passes that did not end as cancelled, this one was begun last, and it failed with that text. -/
def FailedLast (log : List Glimpse) (pass : Nat) (message : String) : Prop :=
  (pass, .failed) ∈ endings log ∧ (pass, .error message) ∈ verdicts log ∧
    ∀ later ∈ endings log, pass < later.1 → later.2 = .cancelled

/-- A pass that was begun later had come to results before it ended as cancelled. -/
def ClearedSince (log : List Glimpse) (pass : Nat) : Prop :=
  ∃ later ∈ verdicts log, pass < later.1 ∧ later.2.isOk = true ∧ (later.1, .cancelled) ∈ endings log

def Idle (w : Workspace) : Prop := ∀ task ∈ w.tasks, task.job? = none

instance (log : List Glimpse) (pass : Nat) (message : String) :
    Decidable (FailedLast log pass message) := inferInstanceAs (Decidable (_ ∧ _ ∧ _))

instance (log : List Glimpse) (pass : Nat) : Decidable (ClearedSince log pass) :=
  inferInstanceAs (Decidable (∃ later ∈ verdicts log, _))

instance (w : Workspace) : Decidable (Idle w) := inferInstanceAs (Decidable (∀ task ∈ w.tasks, _))

theorem Lives.ended (lives : Lives w log) (ended : .ended pass outcome ∈ log) :
    ∃ stand work, (PassPhase.ending work outcome).Allows stand ∧
      life log pass = stand.life pass ++ [.ended pass outcome] := by
  have seen : .ended pass outcome ∈ life log pass := mem_life.mpr ⟨ended, rfl⟩
  rcases lives.known (List.ne_nil_of_mem seen) with ⟨job, member, rfl⟩ | ⟨stand, work, last, allowed, all⟩
  · -- A pass that is at work has not been seen to end.
    obtain ⟨stand, -, told⟩ := lives.tasks member
    rw [told] at seen
    cases stand <;> simp [Stand.life] at seen
  · rw [all] at seen
    obtain rfl : outcome = last := by
      cases stand <;> simpa [Stand.life] using seen
    exact ⟨stand, work, allowed, all⟩

theorem heard_of_judged {stand : Stand} {work : Work}
    (allowed : (PassPhase.ending work outcome).Allows stand)
    (all : life log pass = stand.life pass ++ [.ended pass outcome])
    (judged : .judged pass verdict ∈ log) : stand = .heard verdict := by
  have seen : .judged pass verdict ∈ life log pass := mem_life.mpr ⟨judged, rfl⟩
  rw [all] at seen
  cases stand with
  | unheard => simp [Stand.life] at seen
  | waiting told => cases outcome <;> simp [PassPhase.Allows] at allowed
  | heard told =>
    obtain rfl : verdict = told := by simpa [Stand.life] using seen
    rfl

theorem Lives.ok_of_cancelled (lives : Lives w log) (ended : .ended pass .cancelled ∈ log)
    (judged : .judged pass verdict ∈ log) :
    ∃ resources, verdict = .ok resources := by
  obtain ⟨stand, work, allowed, all⟩ := lives.ended ended
  obtain rfl := heard_of_judged allowed all judged
  rcases allowed with none | ⟨resources, same⟩
  · cases none
  · exact ⟨resources, by cases same; rfl⟩

theorem mem_arrivals : pass ∈ arrivals log ↔ ∃ verdict, .judged pass verdict ∈ log := by
  constructor
  · intro member
    obtain ⟨glimpse, listed, mine⟩ := List.mem_filterMap.mp member
    cases glimpse with
    | judged other verdict =>
      cases mine
      exact ⟨verdict, listed⟩
    | _ => cases mine
  · rintro ⟨verdict, listed⟩
    exact List.mem_filterMap.mpr ⟨_, listed, rfl⟩

theorem Lives.last_arrival (lives : Lives w log) {last : Nat} (member : pass ∈ arrivals log)
    (final : (arrivals log).getLast? = some last) : pass ≤ last := by
  obtain ⟨before, split⟩ := List.getLast?_eq_some_iff.mp final
  have ascending := lives.ascending
  rw [split, List.pairwise_append] at ascending
  rw [split] at member
  rcases List.mem_append.mp member with earlier | same
  · exact Nat.le_of_lt (ascending.2.2 pass earlier last List.mem_cons_self)
  · exact Nat.le_of_eq (List.mem_singleton.mp same)

theorem Lives.over (lives : Lives w log) (idle : Idle w) (seen : life log pass ≠ []) :
    Over log pass := by
  rcases lives.known seen with ⟨job, member, -⟩ | over'
  · cases idle _ member
  · exact over'

theorem Lives.turned (lives : Lives w log) (idle : Idle w) (member : pass ∈ arrivals log) :
    pass ∈ turns log := by
  obtain ⟨verdict, judged⟩ := mem_arrivals.mp member
  obtain ⟨stand, work, outcome, allowed, all⟩ := lives.over idle (life_of_arrival member)
  obtain rfl := heard_of_judged allowed all judged
  have seen : .turned pass ∈ life log pass := by simp [all, Stand.life]
  exact List.mem_filterMap.mpr ⟨_, (mem_life.mp seen).1, rfl⟩

theorem Lives.turns_eq (lives : Lives w log) (idle : Idle w) (fair : turns log <+: arrivals log) :
    turns log = arrivals log := by
  obtain ⟨rest, split⟩ := fair
  have once : (arrivals log).Nodup := lives.ascending.imp fun less => Nat.ne_of_lt less
  cases rest with
  | nil => rw [← split, List.append_nil]
  | cons next others =>
    -- Whoever is left over would have had its turn before.
    have waits : next ∈ arrivals log := split ▸ List.mem_append_right _ List.mem_cons_self
    rw [← split, List.nodup_append] at once
    exact absurd rfl (once.2.2 next (lives.turned idle waits) next List.mem_cons_self)

theorem Observed.free (observed : Observed w log) (idle : Idle w) : w.flagging = false := by
  have nobody : w.tasks.countP (Task.hasTurn .status) = 0 := by
    rw [List.countP_eq_zero]
    intro task member
    have apart := idle task member
    cases task <;> first | cases apart; done | simp [Task.hasTurn]
  have count : w.tasks.countP (Task.hasTurn .status) = w.flagging.toNat := observed.inTurn
  cases taken : w.flagging with
  | false => rfl
  | true =>
    rw [nobody, taken] at count
    cases count

theorem Observed.failed_of_status (observed : Observed w log) (idle : Idle w)
    (fair : turns log <+: arrivals log) (present : w.status ≠ none) :
    ∃ pass message, FailedLast log pass message ∧ ¬ ClearedSince log pass := by
  have lives := observed.lives
  have free := observed.free idle
  have same := lives.turns_eq idle fair
  cases last : (arrivals log).getLast? with
  | none =>
    have none := same.trans (List.getLast?_eq_none_iff.mp last)
    exact absurd (observed.reflects.untouched free none) present
  | some pass =>
    have member := List.mem_of_getLast? last
    obtain ⟨verdict, judged⟩ := mem_arrivals.mp member
    have told := observed.reflects.told free (same ▸ last) judged
    -- Nobody who was begun later has come to a verdict.
    have silent {later : Nat} {other : Verdict} (after : pass < later) : .judged later other ∉ log := by
      intro listed
      have := lives.last_arrival (mem_arrivals.mpr ⟨other, listed⟩) last
      omega
    cases verdict with
    | ok resources => exact absurd told present
    | error message =>
      refine ⟨pass, message, ⟨?_, mem_verdicts.mpr judged, fun other ended after => ?_⟩, ?_⟩
      · obtain ⟨stand, work, outcome, allowed, all⟩ := lives.over idle (life_of_arrival member)
        obtain rfl := heard_of_judged allowed all judged
        have ended : .ended pass outcome ∈ life log pass := by simp [all]
        cases outcome <;> simp [PassPhase.Allows] at allowed
        exact mem_endings.mpr (mem_life.mp ended).1
      · obtain ⟨later, outcome⟩ := other
        obtain ⟨stand, work, allowed, all⟩ := lives.ended (mem_endings.mp ended)
        have unheard (other : Verdict) : stand ≠ .heard other := by
          rintro rfl
          have listed : .judged later other ∈ life log later := by simp [all, Stand.life]
          exact silent after (mem_life.mp listed).1
        cases outcome with
        | cancelled => rfl
        | published files =>
          obtain ⟨resources, heard⟩ := allowed
          exact absurd heard (unheard _)
        | failed =>
          obtain ⟨text, heard⟩ := allowed
          exact absurd heard (unheard _)
      · rintro ⟨later, listed, after, -⟩
        exact silent after (mem_verdicts.mp listed)

theorem Observed.shown_of_failed (observed : Observed w log) (idle : Idle w)
    (fair : turns log <+: arrivals log) {message : String} (failed : FailedLast log pass message)
    (lasts : ¬ ClearedSince log pass) :
    Shown w log (.error message) := by
  have lives := observed.lives
  have same := lives.turns_eq idle fair
  obtain ⟨-, listed, after⟩ := failed
  have judged := mem_verdicts.mp listed
  have member : pass ∈ arrivals log := mem_arrivals.mpr ⟨_, judged⟩
  obtain ⟨last, final⟩ : ∃ last, (arrivals log).getLast? = some last := by
    rw [← Option.isSome_iff_exists, List.getLast?_isSome]
    exact List.ne_nil_of_mem member
  -- A later one with a verdict would have ended as cancelled, and so have cleared the status.
  obtain rfl : pass = last := by
    by_contra apart
    have earlier : pass < last := Nat.lt_of_le_of_ne (lives.last_arrival member final) apart
    have member' := List.mem_of_getLast? final
    obtain ⟨verdict, judged'⟩ := mem_arrivals.mp member'
    obtain ⟨stand, work, outcome, allowed, all⟩ := lives.over idle (life_of_arrival member')
    have ended : .ended last outcome ∈ life log last := by simp [all]
    have ended := (mem_life.mp ended).1
    obtain rfl : outcome = .cancelled := after (last, outcome) (mem_endings.mpr ended) earlier
    obtain ⟨resources, rfl⟩ := lives.ok_of_cancelled ended judged'
    exact lasts ⟨_, mem_verdicts.mpr judged', earlier, rfl, mem_endings.mpr ended⟩
  exact observed.reflects.told (observed.free idle) (same ▸ final) judged

/--
The status follows from the verdicts of passes.

There is one status at most. Each change of it is the doing of a pass that has come to a verdict: it ends
the status there was and the editor is told so, or it begins one, with the text of the error, where there
is none. A pass that ends as cancelled leaves the status alone, unless it had come to results: then it has
ended the status before it looked whether it was cancelled.

While no pass is at work, and if passes had their turns in the order in which they came to wait for them,
there is a status just where, of the passes that did not end as cancelled, the one begun last failed, and
no pass that was begun after it had come to results; the status then tells of its error.
-/
theorem status_tells_of_last_verdict (c : Collaborators) (names : Nat → String) (supported : Bool)
    (limit : Nat) (moves : List Move) :
    let start := fresh names supported limit
    let w := start.play c moves
    let log := statusLog c start moves
    StatusChange.Linked none (changes log) w.status ∧
    (∀ pass change, .changed pass change ∈ log → Explained log pass change) ∧
    (∀ pass change, (pass, .cancelled) ∈ endings log → .changed (some pass) change ∈ log →
      (∃ work, change.Ends work) ∧ ∃ resources, (pass, .ok resources) ∈ verdicts log) ∧
    (Idle w → turns log <+: arrivals log →
      (w.status ≠ none ↔ ∃ pass message, FailedLast log pass message ∧ ¬ ClearedSince log pass) ∧
      ∀ pass message, FailedLast log pass message → ¬ ClearedSince log pass →
        Shown w log (.error message)) := by
  intro start w log
  have observed : Observed w log := play_observed names supported limit moves
  refine ⟨observed.reflects.linked, fun _ _ => observed.reflects.explained,
    fun pass change ended changed => ?_, fun idle fair => ⟨⟨observed.failed_of_status idle fair, ?_⟩,
      fun _ _ => observed.shown_of_failed idle fair⟩⟩
  · obtain ⟨doer, verdict, same, judged, rest⟩ := observed.reflects.explained changed
    cases same
    obtain ⟨resources, rfl⟩ := observed.lives.ok_of_cancelled (mem_endings.mp ended) judged
    rcases rest with ends | ⟨work, message, error, -⟩
    · exact ⟨ends, resources, mem_verdicts.mpr judged⟩
    · cases error
  · rintro ⟨pass, message, failed, lasts⟩
    obtain ⟨work, change, here, -⟩ := observed.shown_of_failed idle fair failed lasts
    rw [here]
    exact Option.some_ne_none work

/-- A runner is found at once; its first run fails, and all others succeed. -/
def flakyCollaborators : Collaborators where
  resolve _ _ := { result := none }
  run number := { result := if number = 0 then .error (.log "boom") else .ok [] }

def steps (number count : Nat) : List Move := List.replicate count (.step number false)

/-- A first pass fails, and a second one is begun, whose runner is called. -/
def failingCourse : List Move :=
  [.openView "view"] ++ steps 1 2 ++ [.beginPass 0 "first"] ++ steps 2 9 ++
    [.beginPass 0 "second"] ++ steps 3 5

def keepingCourse : List Move := failingCourse ++ [.cancelPass 1] ++ steps 3 2

/-- The status of a failed pass outlasts a pass that is cancelled while its runner is at work. -/
theorem status_outlasts_cancelled_pass :
    let start := fresh (fun _ => "") false 2
    let w := start.play flakyCollaborators keepingCourse
    let log := statusLog flakyCollaborators start keepingCourse
    Idle w ∧ turns log <+: arrivals log ∧ (1, .cancelled) ∈ endings log ∧
      Shown w log (.error "reading the event log failed: boom") := by
  intro start w log
  obtain ⟨idle, fair, cancelled, failed, lasts⟩ : Idle w ∧ turns log <+: arrivals log ∧
      (1, .cancelled) ∈ endings log ∧
      FailedLast log 0 "reading the event log failed: boom" ∧ ¬ ClearedSince log 0 := by
    decide +kernel
  obtain ⟨-, -, -, tells⟩ :=
    status_tells_of_last_verdict flakyCollaborators (fun _ => "") false 2 keepingCourse
  exact ⟨idle, fair, cancelled, (tells idle fair).2 0 _ failed lasts⟩

/-- The second pass is cancelled once its runner has succeeded, while it waits to tell of that. -/
def clearingCourse : List Move := failingCourse ++ steps 3 1 ++ [.cancelPass 1] ++ steps 3 4

/-- A pass that is cancelled once its runner has succeeded ends the status it found: the pass before it
failed, it ended as cancelled itself, and there is no status. -/
theorem cancelled_pass_clears_status :
    let start := fresh (fun _ => "") false 2
    let w := start.play flakyCollaborators clearingCourse
    let log := statusLog flakyCollaborators start clearingCourse
    Idle w ∧ turns log <+: arrivals log ∧
      FailedLast log 0 "reading the event log failed: boom" ∧ (1, .cancelled) ∈ endings log ∧
      (changes log).map (fun change => (change.former.isSome, change.next.isSome)) =
        [(false, true), (true, false)] ∧
      w.status = none := by
  decide +kernel

end PolicyServer.Workspace
