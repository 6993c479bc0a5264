import PolicyServer.Proofs.Workspace.Effect
import PolicyServer.Proofs.Workspace.References

/-! Whatever happens, every snapshot counts its holders, and a change is made to the current one. -/

namespace PolicyServer.Workspace

variable {c : Collaborators} {eager : Bool} {w w' : Workspace} {number seq : Nat} {task task' : Task}

/-! ### The turn at the current snapshot -/

/-- A change that waits has the turn at the current snapshot, which is the one it is made to. -/
structure Gated (w : Workspace) : Prop where
  busy : ∀ {number : Nat} {task : Task} {p : Preparation}, w.tasks[number]? = some task →
    task.waits? = some p → w.changing = true ∧ w.current = some p.snapshot
  alone : ∀ {first second : Nat} {task task' : Task}, w.tasks[first]? = some task →
    w.tasks[second]? = some task' → task.waits? ≠ none → task'.waits? ≠ none → first = second

theorem Gated.congr (gated : Gated w) (tasks : w'.tasks = w.tasks)
    (changing : w'.changing = w.changing) (current : w'.current = w.current) : Gated w' where
  busy found waits := by
    rw [changing, current]
    exact gated.busy (tasks ▸ found) waits
  alone first second := gated.alone (tasks ▸ first) (tasks ▸ second)

theorem Gated.idle (gated : Gated w) (free : w.changing = false)
    (found : w.tasks[number]? = some task) : task.waits? = none := by
  -- Whoever waits for a change has it under way.
  cases waits : task.waits? with
  | none => rfl
  | some p =>
    have busy := (gated.busy found waits).1
    rw [free] at busy
    cases busy

theorem Gated.of_idle (idle : ∀ {number : Nat} {task : Task}, w.tasks[number]? = some task →
    task.waits? = none) : Gated w where
  busy found waits := by
    rw [idle found] at waits
    cases waits
  alone first _ waits _ := absurd (idle first) waits

theorem Gated.setTask (gated : Gated w) (found : w.tasks[number]? = some task)
    (kept : ∀ q, task'.waits? = some q → ∃ p, task.waits? = some p ∧ q.snapshot = p.snapshot) :
    Gated { w with tasks := w.tasks.set number task' } := by
  -- A change that waits now is one that waited before, under the same number.
  have before : ∀ {other : Nat} {later : Task},
      (w.tasks.set number task')[other]? = some later → later.waits? ≠ none →
      ∃ former, w.tasks[other]? = some former ∧ former.waits? ≠ none := by
    intro other later there waits
    rcases of_getElem?_set there with ⟨rfl, rfl⟩ | ⟨-, there⟩
    · obtain ⟨q, waits'⟩ := Option.ne_none_iff_exists'.mp waits
      obtain ⟨p, waited, -⟩ := kept q waits'
      exact ⟨task, found, by simp [waited]⟩
    · exact ⟨later, there, waits⟩
  refine ⟨fun {other later q} there waits => ?_, fun first second waits waits' => ?_⟩
  · rcases of_getElem?_set there with ⟨rfl, rfl⟩ | ⟨-, there⟩
    · obtain ⟨p, waited, same⟩ := kept q waits
      have busy := gated.busy found waited
      rw [← same] at busy
      exact busy
    · exact gated.busy there waits
  · obtain ⟨former, there, waited⟩ := before first waits
    obtain ⟨former', there', waited'⟩ := before second waits'
    exact gated.alone there there' waited waited'

theorem Gated.setFree (gated : Gated w) (found : w.tasks[number]? = some task)
    (free : task'.waits? = none) : Gated { w with tasks := w.tasks.set number task' } :=
  gated.setTask found fun q waits => by
    rw [free] at waits
    cases waits

theorem Gated.spawn (gated : Gated w) (free : task.waits? = none) : Gated (w.spawn task) := by
  -- The new task waits for no change, so whoever does was there before.
  have before : ∀ {other : Nat} {later : Task}, (w.spawn task).tasks[other]? = some later →
      later.waits? ≠ none → w.tasks[other]? = some later := by
    intro other later there waits
    by_cases within : other < w.tasks.length
    · rwa [Workspace.spawn, List.getElem?_append_left within] at there
    · rw [Workspace.spawn, List.getElem?_append_right (Nat.le_of_not_lt within)] at there
      have new := List.mem_singleton.mp (List.mem_of_getElem? there)
      rw [new] at waits
      exact absurd free waits
  refine ⟨fun there waits => ?_, fun first second waits waits' => ?_⟩
  · exact gated.busy (before there (by simp [waits])) waits
  · exact gated.alone (before first waits) (before second waits') waits waits'

theorem Gated.start (gated : Gated w) (free : w.changing = false) {previous : Nat}
    (here : w.current = some previous) (save : Bool) {p : Preparation}
    (waits : task'.waits? = some p) (mine : p.snapshot = previous) :
    Gated { w.beginChange previous save with
      tasks := (w.beginChange previous save).tasks.set number task' } := by
  obtain ⟨current, -, tasks, changing, -⟩ := beginChange_frame w previous save
  -- The one change that waits is the one that has just begun to.
  have only : ∀ {other : Nat} {later : Task},
      ((w.beginChange previous save).tasks.set number task')[other]? = some later →
      later.waits? ≠ none → other = number ∧ later = task' := by
    intro other later there waits'
    rcases of_getElem?_set there with this | ⟨-, there⟩
    · exact this
    · exact absurd (gated.idle free (tasks ▸ there)) waits'
  refine ⟨fun {other later q} there waits' => ?_, fun first second waits' waits'' => ?_⟩
  · obtain ⟨-, rfl⟩ := only there (by simp [waits'])
    rw [waits] at waits'
    cases waits'
    exact ⟨changing, by rw [mine]; exact current.trans here⟩
  · exact (only first waits').1.trans (only second waits'').1.symm

theorem Gated.finish (gated : Gated w) (found : w.tasks[number]? = some task)
    (waits : task.waits? ≠ none) (free : task'.waits? = none) (tasks : w'.tasks = w.tasks) :
    Gated { w' with tasks := w'.tasks.set number task' } := by
  -- Two that wait are the same task, and this one waits no more.
  refine .of_idle fun {other later} there => ?_
  rcases of_getElem?_set there with ⟨-, rfl⟩ | ⟨apart, there⟩
  · exact free
  · by_contra waits'
    exact apart (gated.alone (tasks ▸ there) found waits' waits)

/-! ### Steps -/

/-- Every snapshot counts its holders, each name is held once, and the turn is in order. -/
structure Custody (w : Workspace) : Prop where
  names : (w.held.map (·.1)).Nodup
  balanced : Balanced w w.holders
  gated : Gated w

theorem Custody.congr (custody : Custody w) (counts : w'.refCounts = w.refCounts)
    (live : w'.live = w.live) (current : w'.current = w.current) (held : w'.held = w.held)
    (tasks : w'.tasks = w.tasks) (changing : w'.changing = w.changing) : Custody w' where
  names := by
    rw [held]
    exact custody.names
  balanced := by
    rw [holders_congr current held tasks]
    exact custody.balanced.congr counts live
  gated := custody.gated.congr tasks changing current

theorem Custody.of_bare (custody : Custody w) (same : w'.bare = w.bare) : Custody w' :=
  custody.congr (refCounts_of_bare same) (eq_of_bare same (·.live) fun _ => rfl)
    (eq_of_bare same (·.current) fun _ => rfl) (eq_of_bare same (·.held) fun _ => rfl)
    (eq_of_bare same (·.tasks) fun _ => rfl) (eq_of_bare same (·.changing) fun _ => rfl)

theorem Custody.setTask (custody : Custody w) (found : w.tasks[number]? = some task)
    (same : task'.holds = task.holds)
    (kept : ∀ q, task'.waits? = some q → ∃ p, task.waits? = some p ∧ q.snapshot = p.snapshot) :
    Custody { w with tasks := w.tasks.set number task' } where
  names := custody.names
  balanced := custody.balanced.setTask found fun seq => by rw [same]
  gated := custody.gated.setTask found kept

theorem no_wait {p : Option Preparation} (free : task'.waits? = none) (q : Preparation)
    (waits : task'.waits? = some q) : ∃ p', p = some p' ∧ q.snapshot = p'.snapshot := by
  rw [free] at waits
  cases waits

theorem Custody.acquireTask (custody : Custody w) (found : w.tasks[number]? = some task)
    (here : w.current = some seq) (empty : task.holds = []) (mine : task'.holds = [seq])
    (free : task'.waits? = none) :
    Custody { w.acquire seq with tasks := (w.acquire seq).tasks.set number task' } where
  names := custody.names
  balanced := by
    -- The view holds the current snapshot, so there is a reference to add to.
    have held : seq ∈ w.holders := by simp [holders, here]
    have same : (w.acquire seq).holders = w.holders := rfl
    refine (custody.balanced.acquire held).setTask found fun other => ?_
    rw [same, empty, mine]
    simp only [List.count_cons, List.count_nil]
    omega
  gated := Gated.setFree (custody.gated.congr rfl rfl rfl) found free

theorem Custody.releaseTask (custody : Custody w) (found : w.tasks[number]? = some task)
    (mine : task.holds = [seq]) (empty : task'.holds = []) (free : task'.waits? = none) :
    Custody { w.release seq with tasks := (w.release seq).tasks.set number task' } := by
  -- Giving back leaves view, names and tasks alone, so only the task loses its reference.
  obtain ⟨current, held, tasks, changing, -⟩ := release_frame w seq
  have found' : (w.release seq).tasks[number]? = some task := by
    rw [tasks]
    exact found
  refine ⟨?_, ?_, Gated.setFree (custody.gated.congr tasks changing current) found' free⟩
  · show ((w.release seq).held.map _).Nodup
    rw [held]
    exact custody.names
  · have holder : seq ∈ w.holders := by
      refine List.mem_append_right _ (List.mem_flatMap.mpr ⟨task, List.mem_of_getElem? found, ?_⟩)
      simp [mine]
    have positive : 0 < w.holders.count seq := List.count_pos_iff.mpr holder
    refine (custody.balanced.release holder).setTask found' fun other => ?_
    rw [holders_release, empty, mine, List.count_erase]
    simp only [List.count_cons, List.count_nil]
    -- The count falls by one where the task held the snapshot, and nowhere else.
    by_cases same : seq = other
    · subst same
      simp only [beq_self_eq_true, if_true]
      omega
    · have apart : (seq == other) = false := by simpa using same
      simp [apart]

theorem Custody.releaseCurrent (custody : Custody w) (found : w.tasks[number]? = some task)
    (empty : task.holds = []) (empty' : task'.holds = []) (free : task'.waits? = none)
    (released : w.releaseCurrent = some w') :
    Custody { w' with tasks := w'.tasks.set number task' } := by
  obtain ⟨idle, held, tasks, -⟩ := releaseCurrent_frame released
  have found' : w'.tasks[number]? = some task := by
    rw [tasks]
    exact found
  refine ⟨?_, ?_, ?_⟩
  · show (w'.held.map _).Nodup
    rw [held]
    exact custody.names
  · exact (custody.balanced.releaseCurrent released).setTask found' fun seq => by rw [empty, empty']
  · -- The view lets go only while no change is under way.
    have still : Gated w' := .of_idle fun there => custody.gated.idle idle (tasks ▸ there)
    exact still.setFree found' free

theorem ChangeAdvance.custody {change : StateChange} {scope : Scope} {phase : ChangePhase}
    {step : ChangeStep} (advance : ChangeAdvance c w change scope phase w' step)
    (custody : Custody w) (found : w.tasks[number]? = some task)
    (waited : task.waits? = match phase with | .turn => none | .waiting p => some p)
    (same : task'.holds = task.holds)
    (waits : task'.waits? = match step with | .waiting (.waiting q) => some q | _ => none)
    (unmade : ∀ seq, step ≠ .installed seq) :
    Custody { w' with tasks := w'.tasks.set number task' } := by
  cases advance with
  | refuse free gone => exact custody.setTask found same (no_wait waits)
  -- The change takes the gate, which the task now waits behind.
  | @start previous free here =>
    obtain ⟨current, held, tasks, -⟩ := beginChange_frame w previous change.save
    have found' : (w.beginChange previous change.save).tasks[number]? = some task := by
      rw [tasks]
      exact found
    refine ⟨?_, ?_, custody.gated.start free here change.save waits rfl⟩
    · show ((w.beginChange previous change.save).held.map _).Nodup
      rw [held]
      exact custody.names
    · refine (custody.balanced.beginChange previous change.save).setTask found' fun seq => ?_
      rw [same, holders_congr current held tasks]
  -- Waiting goes on for the same snapshot.
  | @wait p q _ same' kept =>
    have tasks : w'.tasks = w.tasks := eq_of_bare same' (·.tasks) fun _ => rfl
    refine (custody.of_bare same').setTask (tasks ▸ found) same fun q' waits' => ?_
    rw [waits] at waits'
    cases waits'
    exact ⟨p, waited, kept⟩
  | install same' => exact absurd rfl (unmade _)

theorem ChangeAdvance.installed {change : StateChange} {scope : Scope} {phase : ChangePhase}
    (advance : ChangeAdvance c w change scope phase w' (.installed seq)) (custody : Custody w)
    (found : w.tasks[number]? = some task)
    (waited : task.waits? = match phase with | .turn => none | .waiting p => some p) :
    Balanced w' (seq :: w'.holders) ∧ task.waits? ≠ none := by
  -- Only a task behind the gate installs, and the snapshot it waited for is still current.
  cases advance with
  | @install p mid same =>
    have here := (custody.gated.busy found waited).2
    have mid' := custody.of_bare same
    have current : mid.current = some p.snapshot :=
      (eq_of_bare same (·.current) fun _ => rfl).trans here
    exact ⟨mid'.balanced.install current change, by simp [waited]⟩

theorem afterChange_frame (w : Workspace) (change : StateChange) (seq : Nat) :
    (w.afterChange change seq).held = w.held ∧
      ∃ more, (w.afterChange change seq).tasks = w.tasks ++ more ∧
        ∀ task ∈ more, task.waits? = none := by
  unfold afterChange
  split
  · obtain ⟨-, held, tasks, -⟩ := beginPass_frame w seq
    refine ⟨held, _, congrArg (· ++ _) tasks, fun task new => ?_⟩
    rw [List.mem_singleton.mp new]
    rfl
  · obtain ⟨-, held, tasks, -⟩ := release_frame w seq
    exact ⟨held, [], by rw [tasks, List.append_nil], by simp⟩

theorem Advance.tasks_append (advance : Advance c w task w' task') :
    ∃ more, w'.tasks = w.tasks ++ more ∧ ∀ new ∈ more, ∃ job : PassJob,
      new = .pass job ∧ job.phase = .announcing ∧
        w.passes.length ≤ job.pass ∧ job.pass < w'.passes.length := by
  have none : ∀ {v : Workspace}, v.tasks = w.tasks → ∃ more, v.tasks = w.tasks ++ more ∧
      ∀ new ∈ more, ∃ job : PassJob, new = .pass job ∧ job.phase = .announcing ∧
        w.passes.length ≤ job.pass ∧ job.pass < v.passes.length :=
    fun same => ⟨[], by rw [same, List.append_nil], by simp⟩
  have bare : ∀ {v : Workspace}, v.bare = w.bare → v.tasks = w.tasks :=
    fun same => eq_of_bare same (·.tasks) fun _ => rfl
  cases advance with
  | forward same => exact none (bare same)
  | load same => exact none (bare same)
  | loaded same => exact none ((release_frame _ _).2.2.1.trans (bare same))
  | observe same => exact none (bare same)
  | observed same => exact none ((release_frame _ _).2.2.1.trans (bare same))
  | changeWaits step => exact none step.frame.2.1
  | changeRefused step => exact none step.frame.2.1
  | changeInstalled step => exact none step.frame.2.1
  | pass step =>
    cases step with
    | unseen _ _ _ _ same => exact none (bare same)
    | _ => exact none rfl
  | passEnds _ same => exact none ((release_frame _ _).2.2.1.trans (bare same))
  | readAll => exact none (release_frame _ _).2.2.1
  | workerWaits step => exact none step.frame.2.1
  | workerRefused step => exact none step.frame.2.1
  | @workerInstalled mid change phase seq step =>
    unfold afterChange
    split
    · -- The pass is numbered as the last one begun.
      refine ⟨_, congrArg (· ++ _) ((beginPass_frame mid seq).2.2.1.trans step.frame.2.1),
        fun new member => ⟨_, List.mem_singleton.mp member, rfl, ?_⟩⟩
      have begun := length_beginPass mid seq
      have before : mid.passes = w.passes := passes_of_stake step.stake_eq
      rw [before] at begun
      simp only [Workspace.spawn]
      omega
    · exact none ((release_frame mid seq).2.2.1.trans step.frame.2.1)
  | fix same => exact none (bare same)
  | stopReleased released => exact none (releaseCurrent_frame released).2.2.1
  | shutdownReleased released => exact none (releaseCurrent_frame released).2.2.1
  | shutdownIdled _ same => exact none (bare same)
  | _ => exact none rfl

theorem Advance.filterMap_tasks (advance : Advance c w task w' task') {view : Task → Option β}
    (unseen : ∀ job : PassJob, job.phase = .announcing → view (.pass job) = none) :
    w'.tasks.filterMap view = w.tasks.filterMap view := by
  obtain ⟨more, appended, new⟩ := advance.tasks_append
  have silent : more.filterMap view = [] := by
    rw [List.filterMap_eq_nil_iff]
    intro other listed
    obtain ⟨job, rfl, phase, -⟩ := new other listed
    exact unseen job phase
  rw [appended, List.filterMap_append, silent, List.append_nil]

theorem Advance.found_after (advance : Advance c w task w' task')
    (found : w.tasks[number]? = some task) : w'.tasks[number]? = some task := by
  obtain ⟨more, appended, -⟩ := advance.tasks_append
  rw [appended, List.getElem?_append_left (List.getElem?_eq_some_iff.mp found).1]
  exact found

theorem Advance.custody (advance : Advance c w task w' task') (custody : Custody w)
    (found : w.tasks[number]? = some task) :
    Custody { w' with tasks := w'.tasks.set number task' } := by
  -- Most steps leave references alone, and their tasks hold what they held.
  have quiet : w'.bare = w.bare → task'.holds = task.holds →
      (∀ q, task'.waits? = some q → ∃ p, task.waits? = some p ∧ q.snapshot = p.snapshot) →
      Custody { w' with tasks := w'.tasks.set number task' } := by
    intro same holds kept
    have tasks : w'.tasks = w.tasks := eq_of_bare same (·.tasks) fun _ => rfl
    exact (custody.of_bare same).setTask (tasks ▸ found) holds kept
  have passes : ∀ {v : Workspace}, v.refCounts = w.refCounts → v.live = w.live →
      v.current = w.current → v.held = w.held → v.tasks = w.tasks → v.changing = w.changing →
      task'.holds = task.holds → task'.waits? = none →
      Custody { v with tasks := v.tasks.set number task' } := by
    intro v counts live current held tasks changing holds free
    exact (custody.congr counts live current held tasks changing).setTask (tasks ▸ found) holds
      (no_wait free)
  have released : ∀ {mid : Workspace} {seq : Nat}, mid.bare = w.bare → task.holds = [seq] →
      task'.holds = [] → task'.waits? = none →
      Custody { mid.release seq with tasks := (mid.release seq).tasks.set number task' } := by
    intro mid seq same mine empty free
    have tasks : mid.tasks = w.tasks := eq_of_bare same (·.tasks) fun _ => rfl
    exact (custody.of_bare same).releaseTask (tasks ▸ found) mine empty free
  cases advance with
  | forward same kind =>
    rcases kind with rfl | rfl
    · exact quiet same rfl (no_wait rfl)
    · exact quiet same rfl (no_wait rfl)
  | load same kept => exact quiet same (by simp only [Task.holds, kept]) (no_wait rfl)
  | loaded same => exact released same rfl rfl rfl
  | observe same kept => exact quiet same (by simp only [Task.holds, kept]) (no_wait rfl)
  | observed same => exact released same rfl rfl rfl
  | take _ here => exact custody.acquireTask found here rfl rfl rfl
  | @changeWaits _ change scope phase phase' step =>
    refine step.custody custody found (by cases phase <;> rfl) ?_ (by cases phase' <;> rfl) nofun
    cases phase <;> cases phase' <;> rfl
  | @changeRefused _ change scope phase step =>
    refine step.custody custody found (by cases phase <;> rfl) ?_ rfl nofun
    cases phase <;> rfl
  | @changeInstalled _ change scope phase seq step =>
    obtain ⟨balanced, waits⟩ := step.installed custody found (by cases phase <;> rfl)
    obtain ⟨held, tasks, -⟩ := step.frame
    refine ⟨?_, ?_, custody.gated.finish found waits rfl tasks⟩
    · show (w'.held.map _).Nodup
      rw [held]
      exact custody.names
    · refine balanced.setTask (tasks ▸ found) fun other => ?_
      simp only [Task.holds, List.count_cons, List.count_nil]
      omega
  | pass step =>
    cases step with
    | unseen _ _ _ _ same => exact quiet same rfl (no_wait rfl)
    | _ => exact passes rfl rfl rfl rfl rfl rfl rfl rfl
  | passEnds _ same => exact released same rfl rfl rfl
  | takeBefore _ here => exact custody.acquireTask found here rfl rfl rfl
  | readAll => exact released rfl rfl rfl rfl
  | @workerWaits _ change phase phase' step =>
    refine step.custody custody found (by cases phase <;> rfl) ?_ (by cases phase' <;> rfl) nofun
    cases phase <;> cases phase' <;> rfl
  | @workerRefused _ change phase step =>
    refine step.custody custody found (by cases phase <;> rfl) ?_ rfl nofun
    cases phase <;> rfl
  | @workerInstalled mid change phase seq step =>
    obtain ⟨balanced, waits⟩ := step.installed custody found (by cases phase <;> rfl)
    obtain ⟨held, tasks, -⟩ := step.frame
    have found' : mid.tasks[number]? = some (.documents (.changing change phase)) := tasks ▸ found
    have empty : (Task.documents (.changing change phase)).holds = [] := by cases phase <;> rfl
    have within : number < mid.tasks.length := (List.getElem?_eq_some_iff.mp found').1
    obtain ⟨held', more, appended, free⟩ := afterChange_frame mid change seq
    have there : (mid.afterChange change seq).tasks[number]? =
        some (.documents (.changing change phase)) := by
      rw [appended, List.getElem?_append_left within]
      exact found'
    refine ⟨?_, ?_, .of_idle fun {other later} there' => ?_⟩
    · show ((mid.afterChange change seq).held.map _).Nodup
      rw [held', held]
      exact custody.names
    · exact (balanced.afterChange change).setTask there fun other => by rfl
    · rcases of_getElem?_set there' with ⟨-, rfl⟩ | ⟨apart, there'⟩
      · rfl
      · rw [appended] at there'
        by_cases before : other < mid.tasks.length
        · rw [List.getElem?_append_left before] at there'
          by_contra waits'
          exact apart (custody.gated.alone (tasks ▸ there') found waits' waits)
        · rw [List.getElem?_append_right (Nat.le_of_not_lt before)] at there'
          exact free later (List.mem_of_getElem? there')
  | fix same kind =>
    rcases kind with ⟨job, rfl⟩ | ⟨outcome, rfl⟩
    · exact quiet same rfl (no_wait rfl)
    · exact quiet same rfl (no_wait rfl)
  | stopReleased gone => exact custody.releaseCurrent found rfl rfl rfl gone
  | shutdownReleased gone => exact custody.releaseCurrent found rfl rfl rfl gone
  | shutdownIdled _ same => exact quiet same rfl (no_wait rfl)
  | _ => exact passes rfl rfl rfl rfl rfl rfl rfl rfl

/-! ### Moves -/

/-- All is in custody, and there is one more reference at hand, for whoever is to hold it. -/
structure AtHand (w : Workspace) (seq : Nat) : Prop where
  names : (w.held.map (·.1)).Nodup
  balanced : Balanced w (seq :: w.holders)
  gated : Gated w

theorem Custody.acquire (custody : Custody w) (held : seq ∈ w.holders) :
    AtHand (w.acquire seq) seq :=
  ⟨custody.names, custody.balanced.acquire held, custody.gated.congr rfl rfl rfl⟩

theorem AtHand.spawn (spare : AtHand w seq) (mine : task.holds = [seq]) (free : task.waits? = none) :
    Custody (w.spawn task) := by
  refine ⟨spare.names, Balanced.spawn ?_, spare.gated.spawn free⟩
  rw [mine]
  exact spare.balanced

theorem AtHand.startPass (job : PassJob) (spare : AtHand w job.snapshot) :
    Custody ((w.beginPass job.snapshot).spawn (.pass job)) := by
  -- The spare reference becomes that of the task.
  obtain ⟨current, held, tasks, changing, -⟩ := beginPass_frame w job.snapshot
  refine AtHand.spawn ⟨?_, ?_, spare.gated.congr tasks changing current⟩ rfl rfl
  · rw [held]
    exact spare.names
  · rw [holders_beginPass]
    exact spare.balanced.beginPass job.snapshot

theorem letGo_frame (w : Workspace) (name : String) :
    (w.letGo name).tasks = w.tasks ∧ (w.letGo name).changing = w.changing ∧
      (w.letGo name).current = w.current := by
  unfold letGo
  split
  · exact ⟨rfl, rfl, rfl⟩
  · rename_i seq _
    obtain ⟨current, -, tasks, changing, -⟩ := release_frame w seq
    exact ⟨tasks, changing, current⟩

theorem hold_tasks (w : Workspace) (name : String) (seq : Nat) : (w.hold name seq).tasks = w.tasks :=
  (letGo_frame w name).1

theorem AtHand.hold (spare : AtHand w seq) (name : String) :
    Custody (w.hold name seq) := by
  obtain ⟨balanced, names⟩ := spare.balanced.hold spare.names name
  obtain ⟨tasks, changing, current⟩ := letGo_frame w name
  exact ⟨names, balanced, spare.gated.congr tasks changing current⟩

theorem Custody.letGo (custody : Custody w) (name : String) : Custody (w.letGo name) := by
  obtain ⟨tasks, changing, current⟩ := letGo_frame w name
  have balanced : Balanced w ([] ++ w.holders) := custody.balanced
  exact ⟨(names_letGo custody.names name).1, balanced.letGo custody.names name,
    custody.gated.congr tasks changing current⟩

theorem Custody.takeResult (custody : Custody w)
    (found : w.tasks[number]? = some (.finished (.snapshot seq))) :
    AtHand { w with tasks := w.tasks.set number (.finished .nothing) } seq := by
  refine ⟨custody.names, ?_, custody.gated.setFree found rfl⟩
  have same : Balanced { w with tasks := w.tasks.set number (.finished .nothing) } w.holders :=
    custody.balanced.congr rfl rfl
  refine same.count_congr fun other => ?_
  -- The reference that the task had is now the spare one.
  have counted := count_flatMap_set found (.finished .nothing) other
  rw [List.count_cons, count_holders, count_holders]
  simp only [Task.holds, List.count_cons, List.count_nil] at counted ⊢
  omega

theorem Custody.holder_of_isReferred (custody : Custody w) (referred : w.isReferred seq = true) :
    seq ∈ w.holders := by
  -- A reference that is counted is one that somebody holds.
  have positive := isReferred_iff.mp referred
  rw [custody.balanced.refs] at positive
  exact List.count_pos_iff.mp positive

theorem Custody.holders_eq_nil (custody : Custody w) (empty : w.snapshots = []) :
    w.holders = [] := by
  apply List.eq_nil_iff_forall_not_mem.mpr
  intro seq member
  have positive := custody.balanced.referred member
  simp [refsOf, refCounts, empty] at positive

theorem holders_spawnFree (empty : task.holds = []) : (w.spawn task).holders = w.holders := by
  simp [holders, Workspace.spawn, empty]

theorem Custody.spawnFree (custody : Custody w) (empty : task.holds = [])
    (free : task.waits? = none) : Custody (w.spawn task) :=
  ⟨custody.names, custody.balanced.spawnFree empty, custody.gated.spawn free⟩

theorem Custody.openView (custody : Custody w) (empty : w.snapshots = []) :
    AtHand w.openView 0 := by
  have nobody := custody.holders_eq_nil empty
  have current : w.current = none := by
    cases here : w.current with
    | none => rfl
    | some seq => simp [holders, here] at nobody
  -- A change waits only at a current snapshot, and there is none yet.
  have idle : Gated { w with snapshots := [{ refs := 3 }], current := some 0, live := 1 } := by
    refine .of_idle fun {number task} found => ?_
    cases waits : task.waits? with
    | none => rfl
    | some p =>
      have busy := (custody.gated.busy found waits).2
      rw [current] at busy
      cases busy
  refine ⟨custody.names, ⟨fun seq => ?_, rfl⟩, idle.spawn rfl⟩
  have before := count_holders w seq
  rw [nobody, current] at before
  simp only [Option.toList_none, List.count_nil, Nat.zero_add] at before
  have apart : 0 = (w.held.map (·.2)).count seq ∧
      0 = (w.tasks.flatMap Task.holds).count seq := by omega
  rw [List.count_cons, count_holders]
  simp only [Workspace.openView, Workspace.spawn, List.flatMap_append, List.count_append,
    List.flatMap_singleton, Task.holds, Option.toList_some, ← apart.1, ← apart.2]
  cases seq with
  | zero => rfl
  | succ seq => simp [refsOf, refCounts]

theorem Custody.enterSession (custody : Custody w) (anchored : Anchored w) :
    Custody w.enterSession := by
  unfold Workspace.enterSession
  split
  · rename_i stage
    have entered : Custody { w with lifecycle := .initialized } :=
      custody.congr rfl rfl rfl rfl rfl rfl
    have opened := entered.openView (anchored.early stage)
    dsimp only
    rw [spawn_beginPass]
    -- The worker, started before the pass, holds nothing.
    refine AtHand.startPass ⟨0, 0, initialMessage, .configuring⟩
      ⟨opened.names, ?_, opened.gated.spawn rfl⟩
    rw [holders_spawnFree rfl]
    exact opened.balanced.congr rfl rfl
  · exact custody

theorem Custody.endScope (custody : Custody w) (scope : Scope) : Custody (w.endScope scope) := by
  cases scope <;> exact custody.congr rfl rfl rfl rfl rfl rfl

theorem Incident.custody {move : Move} (incident : Incident w move w') (custody : Custody w)
    (anchored : Anchored w) : Custody w' := by
  cases incident with
  | enter => exact custody.enterSession anchored
  | spawn _ asked => exact custody.spawnFree (by cases asked <;> rfl) (by cases asked <;> rfl)
  | endScope _ scope => exact custody.endScope scope
  | giveUp found => exact custody.setTask found rfl fun q waits => ⟨q, waits, rfl⟩
  | openView name _ empty => exact (custody.openView empty).hold name
  -- Somebody refers to the snapshot, so a reference can be taken and handed on.
  | @beginPass seq message referred =>
    have spare := custody.acquire (custody.holder_of_isReferred referred)
    exact AtHand.startPass { pass := w.passes.length, snapshot := seq, message } spare
  | observe scope referred =>
    exact (custody.acquire (custody.holder_of_isReferred referred)).spawn rfl rfl
  | keep name found => exact (custody.takeResult found).hold name
  | clone name referred => exact (custody.acquire (custody.holder_of_isReferred referred)).hold name
  | @acquire name seq here =>
    have held : seq ∈ w.holders := by simp [holders, here]
    exact (custody.acquire held).hold name
  | letGo name => exact custody.letGo name
  | _ => exact custody.congr rfl rfl rfl rfl rfl rfl

theorem Custody.act (custody : Custody w) (anchored : Anchored w) (move : Move) :
    Custody (w.act c move) := by
  rcases act_cases c w move with ⟨number, eager, rfl, stepped⟩ | ⟨-, incident⟩
  · obtain ⟨task, mid, task', found, advance, -, same⟩ := step_advance stepped
    rw [same]
    exact advance.custody custody found
  · exact incident.custody custody anchored

theorem fresh_custody (names : Nat → String) (supported : Bool) (limit : Nat) :
    Custody (fresh names supported limit) := by
  have idle : Custody { tracker := ⟨names, supported, 0, []⟩, slots := max limit 1 } :=
    ⟨List.nodup_nil, ⟨fun _ => rfl, rfl⟩, .of_idle fun found => by cases found⟩
  exact idle.spawnFree rfl rfl

end PolicyServer.Workspace
