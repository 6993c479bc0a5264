import PolicyServer.Proofs.Workspace.Verdicts

/-! The status tells of the verdict that was told of last, and of one verdict at a time. -/

namespace PolicyServer.Workspace

open Glimpse (arrivals turns changes life mem_life life_append_of_apart)

variable {c : Collaborators} {eager : Bool} {w w' : Workspace} {number : Nat} {task task' : Task}
  {job : PassJob} {log seen : List Glimpse} {verdict : Verdict}

/-! ### The lives of passes -/

def Over (log : List Glimpse) (pass : Nat) : Prop :=
  ∃ stand work outcome, (PassPhase.ending work outcome).Allows stand ∧
    life log pass = stand.life pass ++ [.ended pass outcome]

/-- Each pass has been seen as far as it has come, and passes come to verdicts in the order in which
they were begun. -/
structure Lives (w : Workspace) (log : List Glimpse) : Prop where
  ascending : (arrivals log).Pairwise (· < ·)
  begun : ∀ {pass : Nat}, life log pass ≠ [] → pass < w.passes.length
  tasks : ∀ {job : PassJob}, .pass job ∈ w.tasks → ∃ stand, job.phase.Allows stand ∧
    life log job.pass = stand.life job.pass
  known : ∀ {pass : Nat}, life log pass ≠ [] →
    (∃ job : PassJob, .pass job ∈ w.tasks ∧ job.pass = pass) ∨ Over log pass

/-- Where no pass goes on: passes may be begun, and all others stay as they are. -/
structure Rests (w w' : Workspace) : Prop where
  longer : ∀ {pass : Nat}, pass < w.passes.length → pass < w'.passes.length
  passes : ∀ {job : PassJob}, .pass job ∈ w'.tasks → .pass job ∈ w.tasks ∨
    (job.phase.isEarly = true ∧ w.passes.length ≤ job.pass)
  kept : ∀ {job : PassJob}, .pass job ∈ w.tasks → .pass job ∈ w'.tasks

theorem Lives.rests (lives : Lives w log) (rests : Rests w w') : Lives w' log where
  ascending := lives.ascending
  begun seen := rests.longer (lives.begun seen)
  tasks member := by
    rcases rests.passes member with before | ⟨early, later⟩
    · exact lives.tasks before
    · -- A pass that is new has a number that nothing was seen of.
      refine ⟨.unheard, PassPhase.allows_of_isEarly early, ?_⟩
      by_contra seen
      have := lives.begun seen
      omega
  known seen := by
    rcases lives.known seen with ⟨job, member, same⟩ | over'
    · exact .inl ⟨job, rests.kept member, same⟩
    · exact .inr over'

theorem Shift.pass_cases {tasks tasks' : List Task} (shift : Shift tasks tasks')
    (member : .pass job ∈ tasks') : .pass job ∈ tasks ∨ job.phase.isEarly = true := by
  cases shift with
  | starts new fresh =>
    rcases List.mem_append.mp member with before | started
    · exact .inl before
    · have new := fresh _ started
      obtain ⟨pass, snapshot, message, phase⟩ := job
      cases phase <;> first | exact .inr rfl | cases new
  | sets task' found aside aside' =>
    rcases List.mem_or_eq_of_mem_set member with before | rfl
    · exact .inl before
    · cases aside'

theorem Incident.rests {move : Move} (incident : Incident w move w') (anchored : Anchored w) :
    Rests w w' where
  longer begun := Nat.lt_of_lt_of_le begun (incident.quiet anchored).longer
  passes {job} member := by
    rcases (incident.quiet anchored).passes member with before | ⟨-, later, -⟩
    · exact .inl before
    · exact (incident.shift.pass_cases member).imp_right fun early => ⟨early, later⟩
  kept member := incident.shift.mem member rfl

theorem Advance.pass_cases (advance : Advance c w task w' task')
    (member : .pass job ∈ w'.tasks.set number task') :
    task' = .pass job ∨ (∃ place, place ≠ number ∧ w.tasks[place]? = some (.pass job)) ∨
      job.phase.isEarly = true ∧ w.passes.length ≤ job.pass := by
  obtain ⟨more, appended, new⟩ := advance.tasks_append
  obtain ⟨place, there⟩ := List.mem_iff_getElem?.mp member
  rcases of_getElem?_set there with ⟨-, same⟩ | ⟨apart, there⟩
  · exact .inl same.symm
  · rw [appended] at there
    by_cases within : place < w.tasks.length
    · rw [List.getElem?_append_left within] at there
      exact .inr (.inl ⟨place, apart, there⟩)
    · rw [List.getElem?_append_right (Nat.le_of_not_lt within)] at there
      obtain ⟨job', same, phase, later, -⟩ := new _ (List.mem_of_getElem? there)
      cases same
      exact .inr (.inr ⟨by rw [phase]; rfl, later⟩)

theorem Advance.mem_set (advance : Advance c w task w' task') {place : Nat} {other : Task}
    (apart : place ≠ number) (there : w.tasks[place]? = some other) :
    other ∈ w'.tasks.set number task' := by
  obtain ⟨more, appended, -⟩ := advance.tasks_append
  refine List.mem_of_getElem? (i := place) ?_
  rw [List.getElem?_set_ne (Ne.symm apart), appended,
    List.getElem?_append_left (List.getElem?_eq_some_iff.mp there).1]
  exact there

theorem Advance.rests (advance : Advance c w task w' task') (found : w.tasks[number]? = some task)
    (apart : task.job? = none) (apart' : task'.job? = none) :
    Rests w { w' with tasks := w'.tasks.set number task' } where
  longer := advance.extends.begun
  passes member := by
    rcases advance.pass_cases member with rfl | ⟨place, -, there⟩ | new
    · cases apart'
    · exact .inl (List.mem_of_getElem? there)
    · exact .inr new
  kept {job} member := by
    obtain ⟨place, there⟩ := List.mem_iff_getElem?.mp member
    refine advance.mem_set ?_ there
    rintro rfl
    rw [Option.some.inj (found.symm.trans there)] at apart
    cases apart

theorem about_statusSeen {pass : Option Nat} {glimpse : Glimpse}
    (member : glimpse ∈ statusSeen w pass w') : glimpse.about? = none := by
  unfold statusSeen at member
  split at member
  · cases member
  · rw [List.mem_singleton.mp member]
    rfl

theorem Speaks.about (spoken : Speaks c w job w' task' seen) {glimpse : Glimpse}
    (member : glimpse ∈ seen) {pass : Nat} (about : glimpse.about? = some pass) : job.pass = pass := by
  have change {glimpse : Glimpse} (member : glimpse ∈ statusSeen w (some job.pass) w')
      (about : glimpse.about? = some pass) : job.pass = pass := by
    rw [about_statusSeen member] at about
    cases about
  cases spoken with
  | goes => cases member
  | judged =>
    rw [List.mem_singleton.mp member] at about
    exact Option.some.inj about
  | clears =>
    rcases List.mem_cons.mp member with rfl | member
    · exact Option.some.inj about
    · exact change member about
  | begins =>
    rcases List.mem_cons.mp member with rfl | member
    · exact Option.some.inj about
    · exact change member about
  | raises => exact change member about
  | ends =>
    rw [List.mem_singleton.mp member] at about
    exact Option.some.inj about

theorem life_statusSeen (other : Option Nat) (pass : Nat) :
    life (statusSeen w other w') pass = [] := by
  rw [life, List.filter_eq_nil_iff]
  intro glimpse member
  simp [about_statusSeen member]

theorem life_turned (pass : Nat) (verdict : Verdict) :
    (Stand.waiting verdict).life pass ++ life (.turned pass :: statusSeen w (some pass) w') pass =
      (Stand.heard verdict).life pass := by
  have rest : life (statusSeen w (some pass) w') pass = [] := life_statusSeen _ _
  have first : life (.turned pass :: statusSeen w (some pass) w') pass =
      .turned pass :: life (statusSeen w (some pass) w') pass :=
    List.filter_cons_of_pos (by simp [Glimpse.about?])
  rw [first, rest]
  rfl

theorem Speaks.stand (spoken : Speaks c w job w' task' seen) {stand : Stand}
    (allowed : job.phase.Allows stand) :
    (∃ phase stand', task' = .pass { job with phase } ∧ phase.Allows stand' ∧
        stand.life job.pass ++ life seen job.pass = stand'.life job.pass) ∨
      ∃ work outcome, task' = .finished (.outcome outcome) ∧
        (PassPhase.ending work outcome).Allows stand ∧
        life seen job.pass = [.ended job.pass outcome] := by
  cases spoken with
  | goes keeps => exact .inl ⟨_, stand, rfl, keeps stand allowed, List.append_nil _⟩
  | @judged work verdict early =>
    rw [early stand allowed]
    exact .inl ⟨_, .waiting verdict, rfl, rfl, by simp [life, Glimpse.about?, Stand.life]⟩
  | @clears work resources before =>
    rw [before] at allowed
    obtain rfl : stand = .waiting (.ok resources) := allowed
    exact .inl ⟨_, .heard (.ok resources), rfl, ⟨resources, rfl⟩, life_turned _ _⟩
  | @begins work message before =>
    rw [before] at allowed
    obtain rfl : stand = .waiting (.error message) := allowed
    exact .inl ⟨_, .heard (.error message), rfl, ⟨rfl, message, rfl⟩, life_turned _ _⟩
  | @raises work shown message before =>
    obtain rfl := before stand allowed
    refine .inl ⟨_, .heard (.error message), rfl, ⟨message, rfl⟩, ?_⟩
    rw [life_statusSeen, List.append_nil]
  | @ends work outcome complete =>
    rw [complete] at allowed
    exact .inr ⟨work, outcome, rfl, allowed, by simp [life, Glimpse.about?]⟩

theorem Speaks.arrival (spoken : Speaks c w job w' task' seen) : arrivals seen = [] ∨
    (arrivals seen = [job.pass] ∧ w.isEnded (.pass job.pass) = false ∧
      ∀ stand, job.phase.Allows stand → stand = .unheard) := by
  have none : arrivals (statusSeen w (some job.pass) w') = [] := by
    unfold statusSeen
    split <;> rfl
  cases spoken with
  | goes => exact .inl rfl
  | judged early awake => exact .inr ⟨rfl, awake, early⟩
  | raises => exact .inl none
  | ends => exact .inl rfl
  | _ => exact .inl ((List.filterMap_cons_none rfl).trans none)

theorem life_of_arrival {pass : Nat} (member : pass ∈ arrivals log) : life log pass ≠ [] := by
  obtain ⟨glimpse, listed, mine⟩ := List.mem_filterMap.mp member
  cases glimpse with
  | judged other verdict =>
    cases mine
    exact List.ne_nil_of_mem (mem_life.mpr ⟨listed, rfl⟩)
  | _ => cases mine

theorem Lives.step (lives : Lives w log) (roster : Roster w.stake)
    (found : w.tasks[number]? = some (.pass job))
    (stepped : w.stepTask c eager (.pass job) = some (w', task'))
    (spoken : Speaks c w job w' task' seen) :
    Lives { w' with tasks := w'.tasks.set number task' } (log ++ seen) := by
  have advance := stepTask_advance stepped
  have longer := advance.extends
  have member := List.mem_of_getElem? found
  have begun := roster.begun_of_task found
  obtain ⟨stand, allowed, told⟩ := lives.tasks member
  -- What is seen now is seen of this pass alone.
  have others {pass : Nat} (apart : job.pass ≠ pass) : life (log ++ seen) pass = life log pass :=
    life_append_of_apart fun glimpse listed about => apart (spoken.about listed about)
  have own : life (log ++ seen) job.pass = stand.life job.pass ++ life seen job.pass := by
    rw [← told]
    simp [life]
  have here : task' ∈ w'.tasks.set number task' := by
    have within := (List.getElem?_eq_some_iff.mp (advance.found_after found)).1
    exact List.mem_of_getElem? (List.getElem?_set_self within)
  refine ⟨?_, fun {pass} some => ?_, fun {other} listed => ?_, fun {pass} some => ?_⟩
  · have split : arrivals (log ++ seen) = arrivals log ++ arrivals seen := List.filterMap_append
    rw [split]
    rcases spoken.arrival with none | ⟨one, awake, early⟩
    · rw [none, List.append_nil]
      exact lives.ascending
    · -- Who is not cancelled is the newest of all, and comes to a verdict once.
      have newest := roster.newest_of_awake begun awake
      rw [one, List.pairwise_append]
      refine ⟨lives.ascending, List.pairwise_singleton _ _, fun pass listed last only => ?_⟩
      have before := life_of_arrival listed
      have known := lives.begun before
      have apart : pass ≠ job.pass := by
        rintro rfl
        rw [told, early stand allowed] at before
        exact before rfl
      rw [List.mem_singleton.mp only]
      omega
  · by_cases same : job.pass = pass
    · exact longer.begun (same ▸ begun)
    · rw [others same] at some
      exact longer.begun (lives.begun some)
  · rcases advance.pass_cases listed with rfl | ⟨place, apart, there⟩ | ⟨early, later⟩
    · rcases spoken.stand allowed with ⟨phase, stand', same, allowed', life'⟩ | ⟨work, outcome, same, -⟩
      · cases same
        exact ⟨stand', allowed', own.trans life'⟩
      · cases same
    · have differs : job.pass ≠ other.pass := fun same =>
        apart (roster.alone_of_tasks there found same.symm)
      rw [others differs]
      exact lives.tasks (List.mem_of_getElem? there)
    · have differs : job.pass ≠ other.pass := by omega
      rw [others differs]
      refine ⟨.unheard, PassPhase.allows_of_isEarly early, ?_⟩
      by_contra known
      have := lives.begun known
      omega
  · by_cases same : job.pass = pass
    · subst same
      rcases spoken.stand allowed with ⟨phase, stand', rfl, -⟩ | ⟨work, outcome, -, allowed', last⟩
      · exact .inl ⟨_, here, rfl⟩
      · exact .inr ⟨stand, work, outcome, allowed', by rw [own, last]⟩
    · rw [others same] at some
      rcases lives.known some with ⟨other, listed, rfl⟩ | ⟨stand, work, outcome, allowed', last⟩
      · obtain ⟨place, there⟩ := List.mem_iff_getElem?.mp listed
        refine .inl ⟨other, advance.mem_set ?_ there, rfl⟩
        rintro rfl
        cases Option.some.inj (found.symm.trans there)
        exact same rfl
      · exact .inr ⟨stand, work, outcome, allowed', by rw [others same, last]⟩

/-! ### The status -/

/-- The status tells of that verdict: there is none for results, and for an error the one that the last
change has begun. -/
def Shown (w : Workspace) (log : List Glimpse) : Verdict → Prop
  | .ok _ => w.status = none
  | .error message => ∃ work change, w.status = some work ∧
    (changes log).getLast? = some change ∧ change.Begins work message

/-- A change of the status is the doing of a pass that has come to a verdict: it ends a status, or begins
one with the text of its error. -/
def Explained (log : List Glimpse) (pass : Option Nat) (change : StatusChange) : Prop :=
  ∃ doer verdict, pass = some doer ∧ .judged doer verdict ∈ log ∧
    ((∃ work, change.Ends work) ∨ ∃ work message, verdict = .error message ∧ change.Begins work message)

theorem Explained.append {pass : Option Nat} {change : StatusChange}
    (explained : Explained log pass change) (more : List Glimpse) :
    Explained (log ++ more) pass change := by
  obtain ⟨doer, verdict, same, judged, rest⟩ := explained
  exact ⟨doer, verdict, same, List.mem_append_left _ judged, rest⟩

/--
The status tells of the pass that had the last turn.

While a pass has its turn there is none, and from the end of the turn to the next one it tells of the
verdict of that pass.
-/
structure Reflects (w : Workspace) (log : List Glimpse) : Prop where
  flags : ∀ {job : PassJob}, .pass job ∈ w.tasks → job.phase.isFlagging = true →
    w.status = none ∧ (turns log).getLast? = some job.pass
  untouched : w.flagging = false → turns log = [] → w.status = none
  told : w.flagging = false → ∀ {pass : Nat} {verdict : Verdict},
    (turns log).getLast? = some pass → .judged pass verdict ∈ log → Shown w log verdict
  linked : StatusChange.Linked none (changes log) w.status
  explained : ∀ {pass : Option Nat} {change : StatusChange}, .changed pass change ∈ log →
    Explained log pass change

theorem Shown.congr (shown : Shown w log verdict) (status : w'.status = w.status) {log' : List Glimpse}
    (same : changes log' = changes log) : Shown w' log' verdict := by
  cases verdict with
  | ok resources => exact status.trans shown
  | error message =>
    obtain ⟨work, change, here, last, begins⟩ := shown
    exact ⟨work, change, status.trans here, by rw [same]; exact last, begins⟩

theorem Reflects.quiet (reflects : Reflects w log) {more : List Glimpse}
    (status : w'.status = w.status) (flagging : w'.flagging = w.flagging)
    (turned : turns more = []) (changed : ∀ {pass : Option Nat} {change : StatusChange},
      .changed pass change ∉ more)
    (judged : ∀ {pass : Nat} {verdict : Verdict}, (turns log).getLast? = some pass →
      .judged pass verdict ∉ more)
    (flags : ∀ {other : PassJob}, .pass other ∈ w'.tasks → other.phase.isFlagging = true →
      ∃ before : PassJob, .pass before ∈ w.tasks ∧ before.phase.isFlagging = true ∧
        before.pass = other.pass) :
    Reflects w' (log ++ more) := by
  have turns' : turns (log ++ more) = turns log := by
    rw [turns, List.filterMap_append]
    exact (congrArg _ turned).trans (List.append_nil _)
  have changes' : changes (log ++ more) = changes log := by
    have none : changes more = [] := by
      rw [changes, List.filterMap_eq_nil_iff]
      intro glimpse member
      cases glimpse with
      | changed pass change => exact absurd member changed
      | _ => rfl
    rw [changes, List.filterMap_append]
    exact (congrArg _ none).trans (List.append_nil _)
  refine ⟨fun {other} member now => ?_, fun free none => ?_, ?_, ?_, fun {pass change} member => ?_⟩
  · obtain ⟨before, listed, then', same⟩ := flags member now
    rw [status, turns', ← same]
    exact reflects.flags listed then'
  · exact status.trans (reflects.untouched (flagging ▸ free) (turns' ▸ none))
  · intro free pass verdict last listed
    rw [turns'] at last
    refine (reflects.told (flagging ▸ free) last ?_).congr status changes'
    exact (List.mem_append.mp listed).resolve_right (judged last)
  · rw [status, changes']
    exact reflects.linked
  · exact (reflects.explained ((List.mem_append.mp member).resolve_right changed)).append _

theorem Reflects.rests (reflects : Reflects w log) (rests : Rests w w')
    (status : w'.status = w.status) (flagging : w'.flagging = w.flagging) : Reflects w' log := by
  rw [← List.append_nil log]
  refine reflects.quiet status flagging rfl (by simp) (by simp) fun {other} member flags => ?_
  rcases rests.passes member with before | ⟨early, -⟩
  · exact ⟨other, before, flags, rfl⟩
  · rw [(PassPhase.idle_of_isEarly early).2] at flags
    cases flags

theorem Advance.flagging_cases (advance : Advance c w task w' task') {other : PassJob}
    (member : .pass other ∈ w'.tasks.set number task') (flags : other.phase.isFlagging = true) :
    task' = .pass other ∨ .pass other ∈ w.tasks := by
  rcases advance.pass_cases member with same | ⟨place, -, there⟩ | ⟨early, -⟩
  · exact .inl same
  · exact .inr (List.mem_of_getElem? there)
  · rw [(PassPhase.idle_of_isEarly early).2] at flags
    cases flags

theorem seen_append (log seen : List Glimpse) : turns (log ++ seen) = turns log ++ turns seen ∧
    changes (log ++ seen) = changes log ++ changes seen :=
  ⟨List.filterMap_append, List.filterMap_append⟩

theorem statusSeen_cases (w w' : Workspace) (pass : Option Nat) :
    (w'.status = w.status ∧ statusSeen w pass w' = []) ∨
      (w'.status ≠ w.status ∧ statusSeen w pass w' =
        [.changed pass ⟨w.status, w'.status, w.outbox, w'.outbox⟩]) := by
  unfold statusSeen
  split
  · rename_i same
    exact .inl ⟨same, rfl⟩
  · rename_i differs
    exact .inr ⟨differs, rfl⟩

theorem judged_iff {stand : Stand} {pass : Nat} (told : life log pass = stand.life pass) :
    .judged pass verdict ∈ log ↔ stand = .waiting verdict ∨ stand = .heard verdict := by
  have here : .judged pass verdict ∈ log ↔ .judged pass verdict ∈ life log pass := by
    simp [mem_life, Glimpse.about?]
  rw [here, told]
  cases stand <;> simp [Stand.life, eq_comm]

theorem judged_of_append {pass other : Nat} {doer : Option Nat}
    (listed : .judged pass verdict ∈ log ++ (.turned other :: statusSeen w doer w')) :
    .judged pass verdict ∈ log := by
  rcases List.mem_append.mp listed with before | now
  · exact before
  · rcases List.mem_cons.mp now with same | now
    · cases same
    · cases about_statusSeen now

theorem mem_life_of_turn {pass : Nat} (last : (turns log).getLast? = some pass) :
    .turned pass ∈ life log pass := by
  have member := List.mem_of_getLast? last
  obtain ⟨glimpse, listed, mine⟩ := List.mem_filterMap.mp member
  cases glimpse with
  | turned other =>
    cases mine
    exact mem_life.mpr ⟨listed, rfl⟩
  | _ => cases mine

theorem Reflects.turn (reflects : Reflects w log) (judged : .judged job.pass verdict ∈ log)
    (status : w'.status = none)
    (outbox : w'.outbox = w.outbox.sendAll ((w.status.map (Work.closed "Done.")).getD [])) :
    let seen := .turned job.pass :: statusSeen w (some job.pass) w'
    turns (log ++ seen) = turns log ++ [job.pass] ∧
      StatusChange.Linked none (changes (log ++ seen)) w'.status ∧
      ∀ {pass : Option Nat} {change : StatusChange}, .changed pass change ∈ log ++ seen →
        Explained (log ++ seen) pass change := by
  intro seen
  obtain ⟨turned, changed⟩ := seen_append log seen
  rcases statusSeen_cases w w' (some job.pass) with ⟨same, none⟩ | ⟨differs, one⟩
  · -- There was no status to end.
    have only : seen = [.turned job.pass] := by simp [seen, none]
    rw [turned, changed, only]
    refine ⟨rfl, ?_, fun {pass change} member => ?_⟩
    · rw [same]
      exact (List.append_nil (changes log)).symm ▸ reflects.linked
    · rcases List.mem_append.mp member with before | now
      · exact (reflects.explained before).append _
      · cases List.mem_singleton.mp now
  · obtain ⟨work, former⟩ : ∃ work, w.status = some work := by
      cases former : w.status with
      | none => exact absurd (status.trans former.symm) differs
      | some work => exact ⟨work, rfl⟩
    have both : seen = [.turned job.pass,
        .changed (some job.pass) ⟨w.status, w'.status, w.outbox, w'.outbox⟩] := by simp [seen, one]
    rw [turned, changed, both]
    refine ⟨rfl, reflects.linked.append rfl, fun {pass change} member => ?_⟩
    rcases List.mem_append.mp member with before | now
    · exact (reflects.explained before).append _
    · rcases List.mem_cons.mp now with same | now
      · cases same
      · cases List.mem_singleton.mp now
        refine ⟨job.pass, verdict, rfl, List.mem_append_left _ judged, .inl ⟨work, former, status, ?_⟩⟩
        simpa [former] using outbox

theorem Reflects.step (reflects : Reflects w log) (lives : Lives w log) (inTurn : InTurn w .status)
    (found : w.tasks[number]? = some (.pass job))
    (stepped : w.stepTask c eager (.pass job) = some (w', task'))
    (spoken : Speaks c w job w' task' seen) :
    Reflects { w' with tasks := w'.tasks.set number task' } (log ++ seen) := by
  have advance := stepTask_advance stepped
  have member := List.mem_of_getElem? found
  have after : InTurn { w' with tasks := w'.tasks.set number task' } .status :=
    inTurn.step (by simp) found stepped
  obtain ⟨stand, allowed, life'⟩ := lives.tasks member
  have idle (free : w.flagging = false) {other : PassJob} (listed : .pass other ∈ w.tasks) :
      other.phase.isFlagging ≠ true := by
    intro flags
    have none := inTurn.nobody free listed
    rw [show (Task.pass other).hasTurn .status = other.phase.isFlagging from rfl, flags] at none
    cases none
  cases spoken with
  | goes keeps flags status flagging =>
    refine reflects.quiet status flagging rfl (by simp) (by simp) fun {other} listed now => ?_
    rcases advance.flagging_cases listed now with same | before
    · cases same
      exact ⟨job, member, flags ▸ now, rfl⟩
    · exact ⟨other, before, now, rfl⟩
  | @judged work verdict early awake status flagging =>
    refine reflects.quiet status flagging rfl (by simp) (fun {pass told} last listed => ?_)
      fun {other} listed now => ?_
    · -- Nothing was seen of the pass before, so it has not had the last turn.
      cases List.mem_singleton.mp listed
      have seen := mem_life_of_turn last
      rw [life', early stand allowed] at seen
      cases seen
    · rcases advance.flagging_cases listed now with same | before
      · cases same
        cases now
      · exact ⟨other, before, now, rfl⟩
  | @clears work resources before free outbox status flagging =>
    rw [before] at allowed
    obtain rfl : stand = .waiting (.ok resources) := allowed
    have listed : .judged job.pass (.ok resources) ∈ log := (judged_iff life').mpr (.inl rfl)
    obtain ⟨turned, linked, explained⟩ := reflects.turn listed status outbox
    refine ⟨fun {other} there now => ?_, fun _ _ => status, ?_, linked, explained⟩
    · rcases advance.flagging_cases there now with same | before
      · cases same
        cases now
      · exact absurd now (idle free before)
    · intro _ pass verdict last judged
      rw [turned, List.getLast?_concat] at last
      cases last
      -- The pass has come to no other verdict.
      rcases (judged_iff life').mp (judged_of_append judged) with same | same <;> cases same
      exact status
  | @begins work message before free outbox status flagging =>
    rw [before] at allowed
    obtain rfl : stand = .waiting (.error message) := allowed
    have listed : .judged job.pass (.error message) ∈ log := (judged_iff life').mpr (.inl rfl)
    obtain ⟨turned, linked, explained⟩ := reflects.turn listed status outbox
    refine ⟨fun {other} there now => ?_, fun _ _ => status, ?_, linked, explained⟩
    · rcases advance.flagging_cases there now with same | before
      · cases same
        exact ⟨status, by rw [turned, List.getLast?_concat]⟩
      · exact absurd now (idle free before)
    · intro held
      rw [flagging] at held
      cases held
  | @raises work shown message before flags outbox status flagging =>
    obtain rfl := before stand allowed
    obtain ⟨former, last⟩ := reflects.flags member flags
    have one : statusSeen w (some job.pass) w' =
        [.changed (some job.pass) ⟨w.status, w'.status, w.outbox, w'.outbox⟩] := by
      simp [statusSeen, former, status]
    obtain ⟨turned, changed⟩ := seen_append log
      [.changed (some job.pass) ⟨w.status, w'.status, w.outbox, w'.outbox⟩]
    rw [one]
    refine ⟨fun {other} there now => ?_, fun _ none => ?_, ?_, ?_, fun {pass change} listed => ?_⟩
    · -- The turn is given back, and no other pass has it.
      have none := after.nobody flagging there
      rw [show (Task.pass other).hasTurn .status = other.phase.isFlagging from rfl, now] at none
      cases none
    · rw [turned] at none
      rw [List.append_eq_nil_iff.mp none |>.1] at last
      cases last
    · intro _ pass verdict last' judged
      rw [turned, show turns [.changed _ _] = [] from rfl, List.append_nil, last] at last'
      cases last'
      have before : .judged job.pass verdict ∈ log := by
        rcases List.mem_append.mp judged with before | now
        · exact before
        · cases List.mem_singleton.mp now
      rcases (judged_iff life').mp before with same | same <;> cases same
      refine ⟨shown, ⟨w.status, w'.status, w.outbox, w'.outbox⟩, status, ?_, former, status, outbox⟩
      rw [changed]
      exact List.getLast?_concat
    · rw [changed]
      exact reflects.linked.append rfl
    · rcases List.mem_append.mp listed with before | now
      · exact (reflects.explained before).append _
      · cases List.mem_singleton.mp now
        exact ⟨job.pass, .error message, rfl,
          List.mem_append_left _ ((judged_iff life').mpr (.inr rfl)),
          .inr ⟨shown, message, rfl, former, status, outbox⟩⟩
  | @ends work outcome complete status flagging =>
    refine reflects.quiet status flagging rfl (by simp) (by simp) fun {other} listed now => ?_
    rcases advance.flagging_cases listed now with same | before
    · cases same
    · exact ⟨other, before, now, rfl⟩

end PolicyServer.Workspace
