import PolicyServer.Proofs.Workspace.Search

/-! The turn at the resolver: it is asked by one task at a time, only about snapshots of which nothing
is known, and what is known of a runner lasts. -/

namespace PolicyServer.Workspace

variable {c : Collaborators} {eager : Bool} {w w' w'' : Workspace} {number : Nat} {task task' : Task}
  {job : PassJob} {p : Preparation}

/-! ### The turn at the resolver -/

/-- The snapshots that the resolver is asked about, one for each call that is under way. -/
def asked (w : Workspace) : List Nat := w.tasks.filterMap Task.asks?

def Lasting (w w' : Workspace) : Prop :=
  ∀ (seq : Nat) (readiness : Readiness), w.readings[seq]? = some readiness →
    readiness.isKnown = true → w'.readings[seq]? = some readiness

/-- A pass was begun and looks for the runner of its own snapshot; once it has looked, the runner is
known or the pass is over. -/
structure Apt (w : Workspace) (job : PassJob) : Prop where
  begun : job.pass < w.passes.length
  looks : ∀ {work : Work} {p : Preparation}, job.phase = .preparing work p →
    p.snapshot = job.snapshot ∧ p.scope = .pass job.pass
  looked : ∀ {work : Work}, job.phase = .prepared work →
    w.isEnded (.pass job.pass) = true ∨ (w.readinessOf job.snapshot).isKnown = true

/-- The resolver is asked at most once at a time, and only about snapshots of which nothing is
known. -/
structure Searching (w : Workspace) : Prop where
  turn : w.asked.length = if w.resolving then 1 else 0
  unknown : ∀ seq ∈ w.asked, w.readings[seq]? = some .unresolved
  passes : ∀ {job : PassJob}, .pass job ∈ w.tasks → Apt w job

theorem Lasting.readinessOf_eq (lasting : Lasting w w') {seq : Nat}
    (known : (w.readinessOf seq).isKnown = true) : w'.readinessOf seq = w.readinessOf seq :=
  readinessOf_of_readings (lasting seq _ (readings_of_isKnown known) known)

theorem Lasting.of_append {more : List Readiness} (grown : w'.readings = w.readings ++ more) :
    Lasting w w' := by
  intro seq readiness listed _
  have within := (List.getElem?_eq_some_iff.mp listed).1
  rw [grown, List.getElem?_append_left within]
  exact listed

theorem Apt.mono (apt : Apt w job) (longer : Extends w w') (lasting : Lasting w w') : Apt w' job where
  begun := longer.begun apt.begun
  looks := apt.looks
  looked phase := by
    rcases apt.looked phase with ended | known
    · exact .inl (longer.isEnded apt.begun ended)
    · exact .inr (lasting.readinessOf_eq known ▸ known)

theorem Apt.of_isIdle (begun : job.pass < w.passes.length) (idle : job.phase.isIdle = true) :
    Apt w job where
  begun
  -- Neither of the phases in question is an idle one.
  looks phase := by
    rw [phase] at idle
    cases idle
  looked phase := by
    rw [phase] at idle
    cases idle

theorem length_asked_set {tasks : List Task} (found : tasks[number]? = some task) (task' : Task) :
    ((tasks.set number task').filterMap Task.asks?).length + task.asks?.toList.length =
      (tasks.filterMap Task.asks?).length + task'.asks?.toList.length := by
  obtain ⟨before, after, rfl, set⟩ := split_set found
  simp only [set, List.filterMap_append, List.filterMap_cons, List.length_append]
  cases task.asks? <;> cases task'.asks? <;> simp <;> omega

/-! ### Where no task goes on -/

/-- Nobody asks the resolver or is answered; snapshots and passes may be added, and tasks that are in
no search. -/
structure Quiet (w w' : Workspace) : Prop where
  asked : w'.asked = w.asked
  resolving : w'.resolving = w.resolving
  readings : ∃ more, w'.readings = w.readings ++ more
  longer : w.passes.length ≤ w'.passes.length
  passes : ∀ {job : PassJob}, .pass job ∈ w'.tasks → .pass job ∈ w.tasks ∨
    (job.phase.isIdle = true ∧ w.passes.length ≤ job.pass ∧ job.pass < w'.passes.length)

namespace Quiet

theorem of_eq (outlook : w'.outlook = w.outlook) (tasks : w'.tasks = w.tasks)
    (longer : w.passes.length ≤ w'.passes.length) : Quiet w w' where
  asked := congrArg (List.filterMap Task.asks?) tasks
  resolving := congrArg Outlook.resolving outlook
  readings := ⟨[], (congrArg Outlook.readings outlook).trans (List.append_nil _).symm⟩
  longer
  passes member := .inl (tasks ▸ member)

theorem trans (first : Quiet w w') (second : Quiet w' w'') : Quiet w w'' where
  asked := second.asked.trans first.asked
  resolving := second.resolving.trans first.resolving
  readings := by
    obtain ⟨more, grown⟩ := first.readings
    obtain ⟨yet, further⟩ := second.readings
    exact ⟨more ++ yet, by rw [further, grown, List.append_assoc]⟩
  longer := Nat.le_trans first.longer second.longer
  passes member := by
    -- A pass is new in the second piece, or in the first, or in neither.
    rcases second.passes member with before | ⟨idle, later, begun⟩
    · rcases first.passes before with before | ⟨idle, later, begun⟩
      · exact .inl before
      · exact .inr ⟨idle, later, Nat.lt_of_lt_of_le begun second.longer⟩
    · exact .inr ⟨idle, Nat.le_trans first.longer later, begun⟩

theorem spawn (task : Task) (idle : task.asks? = none) (other : task.job? = none) :
    Quiet w (w.spawn task) where
  asked := by simp [Workspace.asked, Workspace.spawn, idle]
  resolving := rfl
  readings := ⟨[], (List.append_nil _).symm⟩
  longer := Nat.le_refl _
  passes member := by
    -- The new task is no pass.
    rcases List.mem_append.mp member with before | new
    · exact .inl before
    · rw [← List.mem_singleton.mp new] at other
      cases other

theorem setTask (task' : Task) (found : w.tasks[number]? = some task) (same : task'.asks? = task.asks?)
    (kept : task'.job? = task.job?) : Quiet w { w with tasks := w.tasks.set number task' } where
  asked := filterMap_set_of_eq found same
  resolving := rfl
  readings := ⟨[], (List.append_nil _).symm⟩
  longer := Nat.le_refl _
  passes {job} member := by
    rcases List.mem_or_eq_of_mem_set member with before | new
    · exact .inl before
    · -- What is a pass now was the same pass before.
      have former : task.job? = some job := by rw [← kept, ← new]; rfl
      cases task with
      | pass other =>
        cases former
        exact .inl (List.mem_of_getElem? found)
      | _ => cases former

theorem asks_lapse (task : Task) : task.lapse.asks? = task.asks? := by
  cases task with
  | change change scope phase => cases phase <;> rfl
  | _ => rfl

theorem hold (w : Workspace) (name : String) (seq : Nat) : Quiet w (w.hold name seq) := by
  have passes : (w.letGo name).passes = w.passes := passes_of_stake (stake_letGo w name)
  exact .of_eq (outlook_of_rim (rim_hold w name seq)) (letGo_frame w name).1 (Nat.le_of_eq (passes ▸ rfl))

theorem openView (empty : w.snapshots = []) : Quiet w w.openView := by
  have opened : Quiet w
      { w with snapshots := [{ refs := 3 }], current := some 0, live := 1 } :=
    ⟨rfl, rfl, ⟨[.unresolved], by simp [Workspace.readings, empty]⟩, Nat.le_refl _, .inl⟩
  exact opened.trans (.spawn _ rfl rfl)

theorem startPass (w : Workspace) (job : PassJob) (number : job.pass = w.passes.length)
    (idle : job.phase.isIdle = true) :
    Quiet w ((w.beginPass job.snapshot).spawn (.pass job)) := by
  have tasks := (beginPass_frame w job.snapshot).2.2.1
  have begun := length_beginPass w job.snapshot
  have outlook := outlook_of_rim (rim_beginPass w job.snapshot)
  refine ⟨?_, congrArg Outlook.resolving outlook,
    ⟨[], (congrArg Outlook.readings outlook).trans (List.append_nil _).symm⟩, ?_, fun member => ?_⟩
  · simp [Workspace.asked, Workspace.spawn, tasks, Task.asks_of_isIdle idle]
  · simp only [Workspace.spawn]
    omega
  · -- The pass that is new is numbered as the last one begun.
    rcases List.mem_append.mp member with before | new
    · exact .inl (tasks ▸ before)
    · cases List.mem_singleton.mp new
      refine .inr ⟨idle, Nat.le_of_eq number.symm, ?_⟩
      simp only [Workspace.spawn]
      omega

theorem enterSession (anchored : Anchored w) : Quiet w w.enterSession := by
  unfold Workspace.enterSession
  split
  · rename_i stage
    have empty := anchored.early stage
    have first : w.passes = [] := anchored.passes_eq_nil empty
    have entered : Quiet w { w with lifecycle := .initialized } := .of_eq rfl rfl (Nat.le_refl _)
    have opened := entered.trans (.openView empty)
    dsimp only
    -- The worker may as well be started before the pass is begun.
    rw [spawn_beginPass]
    refine (opened.trans (.spawn (.documents .idle) rfl rfl)).trans
      (.startPass _ ⟨0, 0, initialMessage, .configuring⟩ ?_ rfl)
    simp [Workspace.openView, Workspace.spawn, first]
  · exact .of_eq rfl rfl (Nat.le_refl _)

theorem endScope (w : Workspace) (scope : Scope) : Quiet w (w.endScope scope) := by
  cases scope with
  | pass number =>
    refine .of_eq rfl rfl (Nat.le_of_eq ?_)
    simp [Workspace.endScope]
  | _ => exact .of_eq rfl rfl (Nat.le_refl _)

end Quiet

theorem Incident.quiet {move : Move} (incident : Incident w move w') (anchored : Anchored w) :
    Quiet w w' := by
  have acquired : ∀ seq, Quiet w (w.acquire seq) :=
    fun seq => .of_eq (outlook_of_rim (rim_acquire w seq)) rfl (Nat.le_refl _)
  cases incident with
  | enter => exact .enterSession anchored
  | spawn _ asked => cases asked <;> exact .spawn _ rfl rfl
  | endScope _ scope => exact .endScope w scope
  | giveUp found => exact .setTask _ found rfl rfl
  | openView name _ empty => exact (Quiet.openView empty).trans (.hold _ name 0)
  | beginPass message referred =>
    exact (acquired _).trans (.startPass _ ⟨w.passes.length, _, message, .announcing⟩ rfl rfl)
  | observe scope referred => exact (acquired _).trans (.spawn _ rfl rfl)
  | keep name found => exact (Quiet.setTask (.finished .nothing) found rfl rfl).trans (.hold _ name _)
  | clone name => exact (acquired _).trans (.hold _ name _)
  | acquire name => exact (acquired _).trans (.hold _ name _)
  | letGo name =>
    have passes : (w.letGo name).passes = w.passes := passes_of_stake (stake_letGo w name)
    exact .of_eq (outlook_of_rim (rim_letGo w name)) (letGo_frame w name).1 (Nat.le_of_eq (passes ▸ rfl))
  | _ => exact .of_eq rfl rfl (Nat.le_refl _)

theorem Approach.quiet {happening : Happening} (approach : Approach w happening w') :
    Quiet w w' := by
  cases approach with
  | refused => exact .of_eq rfl rfl (Nat.le_refl _)
  | @seek seq scope first referred =>
    have acquired : Quiet w (w.acquire seq) := .of_eq (outlook_of_rim (rim_acquire w seq)) rfl (Nat.le_refl _)
    exact acquired.trans (.spawn _ rfl rfl)
  | @lapse number task found =>
    exact .setTask _ found (Quiet.asks_lapse task) (by cases task <;> rfl)

theorem Quiet.searching (quiet : Quiet w w') (longer : Extends w w') (searching : Searching w) :
    Searching w' ∧ Lasting w w' := by
  obtain ⟨more, grown⟩ := quiet.readings
  have lasting : Lasting w w' := .of_append grown
  refine ⟨⟨?_, fun seq member => ?_, fun {job} member => ?_⟩, lasting⟩
  · rw [quiet.asked, quiet.resolving]
    exact searching.turn
  · -- The snapshots that are new come behind those that are asked about.
    rw [quiet.asked] at member
    have listed := searching.unknown seq member
    have within := (List.getElem?_eq_some_iff.mp listed).1
    rw [grown, List.getElem?_append_left within]
    exact listed
  · rcases quiet.passes member with before | ⟨idle, -, begun⟩
    · exact (searching.passes before).mono longer lasting
    · exact .of_isIdle begun idle

/-! ### Where a task goes on -/

theorem readings_setReadiness (w : Workspace) (seq other : Nat) (readiness : Readiness) :
    (w.modifySnapshot seq fun snapshot => { snapshot with readiness }).readings[other]? =
      if seq = other then (w.readings[other]?).map fun _ => readiness else w.readings[other]? := by
  simp only [readings, modifySnapshot, List.getElem?_map, List.getElem?_modify]
  cases w.snapshots[other]? with
  | none => simp
  | some snapshot => by_cases here : seq = other <;> simp [here]

theorem Inquiry.known_or_ended (inquiry : Inquiry c w p w' none)
    (within : p.snapshot < w.snapshots.length) :
    w.isEnded p.scope = true ∨ (w'.readinessOf p.snapshot).isKnown = true := by
  cases inquiry with
  | found _ _ known => exact .inr known
  | abandoned _ _ ended => exact .inl ended
  | dropped _ _ ended => exact .inl ended
  | @settled request due loaded =>
    right
    -- The answer that has come is something known.
    have listed := readings_setReadiness w p.snapshot p.snapshot
      (.ofAnswer request (c.resolve w.root request).result)
    rw [if_pos rfl, readings_of_within within] at listed
    have answer := readinessOf_of_readings listed
    exact answer ▸ Readiness.isKnown_ofAnswer _ _

/--
What a step does for the turn at the resolver.

The turn is taken and given back with the call; what is known lasts; and while a call is under way,
snapshots are only added. A call is made only about a snapshot of which nothing is known.
-/
structure Turned (w w' : Workspace) (before after : Option Nat) : Prop where
  balance : after.toList.length + (if w.resolving then 1 else 0) =
    before.toList.length + if w'.resolving then 1 else 0
  lasting : Lasting w w'
  grown : w'.resolving = true → ∃ more, w'.readings = w.readings ++ more
  unknown : ∀ seq ∈ after, w.readings[seq]? = some .unresolved

theorem Inquiry.turned {rest : Option Preparation} (inquiry : Inquiry c w p w' rest)
    (within : p.snapshot < w.snapshots.length)
    (mine : ∀ seq ∈ p.asks?, w.resolving = true ∧ w.readings[seq]? = some .unresolved) :
    Turned w w' p.asks? (rest.bind Preparation.asks?) := by
  -- A preparation whose resolver is asked has the turn, and nothing is known of its snapshot.
  have asks : ∀ {request due : Nat}, p.phase = .resolving request due →
      p.asks? = some p.snapshot := by
    intro request due phase
    simp [Preparation.asks?, phase]
  have same : ∀ {v : Workspace}, v.readings = w.readings → ∃ more, v.readings = w.readings ++ more :=
    fun same => ⟨[], by rw [same, List.append_nil]⟩
  cases inquiry with
  | admitted waits =>
    have idle : p.asks? = none := by simp [Preparation.asks?, waits]
    refine ⟨?_, fun _ _ listed _ => listed, fun _ => same rfl, by simp [Preparation.asks?]⟩
    rw [idle]
    simp [Preparation.asks?]
  | asks due waits free unknown =>
    have idle : p.asks? = none := by simp [Preparation.asks?, waits]
    refine ⟨?_, fun _ _ listed _ => listed, fun _ => same rfl, fun seq member => ?_⟩
    · rw [idle, free]
      simp [Preparation.asks?]
    · cases member
      rw [readings_of_within within]
      cases readiness : w.readinessOf p.snapshot with
      | unresolved => rfl
      | _ => simp [readiness, Readiness.isKnown] at unknown
  | found loaded waits known =>
    have idle : p.asks? = none := by simp [Preparation.asks?, waits]
    refine ⟨?_, fun _ _ listed _ => listed, fun _ => same rfl, by simp⟩
    simp [idle]
  | abandoned loaded idle ended =>
    refine ⟨?_, fun _ _ listed _ => listed, fun _ => same rfl, by simp⟩
    simp [idle]
  | dropped loaded asking ended =>
    obtain ⟨turn, -⟩ := mine _ (asks asking)
    refine ⟨?_, fun _ _ listed _ => listed, fun _ => same rfl, by simp⟩
    simp [asks asking, turn]
  | @settled request due loaded asking awake =>
    obtain ⟨turn, unknown⟩ := mine _ (asks asking)
    refine ⟨?_, fun seq readiness listed known => ?_, fun busy => by simp at busy, by simp⟩
    · simp [asks asking, turn]
    · -- Nothing is known yet of the snapshot whose readiness is set.
      have apart : p.snapshot ≠ seq := by
        rintro rfl
        cases unknown.symm.trans listed
        cases known
      have kept := readings_setReadiness w p.snapshot seq
        (.ofAnswer request (c.resolve w.root request).result)
      rw [if_neg apart] at kept
      exact kept.trans listed

theorem Turned.append {mid : Workspace} {before after : Option Nat} (more : List Readiness)
    (turned : Turned w mid before after)
    (same : w'.outlook = ⟨mid.readings ++ more, mid.resolving⟩) : Turned w w' before after := by
  have resolving : w'.resolving = mid.resolving := congrArg Outlook.resolving same
  have readings : w'.readings = mid.readings ++ more := congrArg Outlook.readings same
  refine ⟨?_, fun seq readiness listed known => ?_, fun busy => ?_, turned.unknown⟩
  · rw [resolving]
    exact turned.balance
  · -- What lasts through the step lasts behind it.
    exact Lasting.of_append readings seq _ (turned.lasting seq _ listed known) known
  · obtain ⟨between, grown⟩ := turned.grown (resolving ▸ busy)
    exact ⟨between ++ more, by rw [readings, grown, List.append_assoc]⟩

theorem Turned.of_outlook (same : w'.outlook = w.outlook) : Turned w w' none none := by
  have idle : Turned w w none none :=
    ⟨rfl, fun _ _ listed _ => listed, fun _ => ⟨[], (List.append_nil _).symm⟩, by simp⟩
  refine idle.append [] ?_
  rw [same, List.append_nil]
  rfl

theorem search_of_making {change : StateChange} (making : task.making? = some (change, p)) :
    task.search? = some p := by
  cases task with
  | change _ _ phase => cases phase <;> cases making; rfl
  | documents phase =>
    cases phase with
    | changing _ phase => cases phase <;> cases making; rfl
    | _ => cases making
  | _ => cases making

theorem Pursuit.turned (pursuit : Pursuit c w task w' task')
    (within : ∀ p ∈ task.search?, p.snapshot < w.snapshots.length)
    (mine : ∀ seq ∈ task.asks?, w.resolving = true ∧ w.readings[seq]? = some .unresolved) :
    Turned w w' task.asks? task'.asks? := by
  -- A task asks the resolver only in a search, so each stage of one is looked at.
  cases pursuit with
  | aside before after same =>
    rw [Task.asks?, Task.asks?, before, after]
    exact .of_outlook same
  | begins before after idle same =>
    rw [Task.asks?, Task.asks?, before, after, Option.bind_some, idle]
    exact .of_outlook same
  | goesOn before after inquiry =>
    rw [Task.asks?, before] at mine
    rw [Task.asks?, Task.asks?, before, after]
    exact inquiry.turned (within _ before) mine
  | @returns mid _ _ p before after _ inquiry same =>
    rw [Task.asks?, before] at mine
    rw [Task.asks?, Task.asks?, before, after]
    refine (inquiry.turned (within _ before) mine).append [] ?_
    rw [same, List.append_nil]
    rfl
  | installs making after inquiry _ same =>
    have before := search_of_making making
    rw [Task.asks?, before] at mine
    rw [Task.asks?, Task.asks?, before, after]
    exact (inquiry.turned (within _ before) mine).append _ same

theorem Searching.within (searching : Searching w) (anchored : Anchored w) (member : task ∈ w.tasks)
    (search : task.search? = some p) : p.snapshot < w.snapshots.length := by
  have spoken := anchored.tasks task member
  cases task with
  | load q =>
    cases search
    exact spoken _ List.mem_cons_self
  | observe q =>
    cases search
    exact spoken _ List.mem_cons_self
  | change _ _ phase =>
    cases phase with
    | turn => cases search
    | waiting q =>
      cases search
      exact spoken _ List.mem_cons_self
  | documents phase =>
    cases phase with
    | changing _ phase =>
      cases phase with
      | turn => cases search
      | waiting q =>
        cases search
        exact spoken _ List.mem_cons_self
    | _ => cases search
  | pass job =>
    -- A pass looks for the runner of the snapshot that it is over.
    obtain ⟨pass, snapshot, message, phase⟩ := job
    cases phase with
    | preparing work q =>
      cases search
      rw [((searching.passes member).looks rfl).1]
      exact spoken _ List.mem_cons_self
    | _ => cases search
  | _ => cases search

theorem Searching.mine (searching : Searching w) (member : task ∈ w.tasks) :
    ∀ seq ∈ task.asks?, w.resolving = true ∧ w.readings[seq]? = some .unresolved := by
  intro seq asks
  have listed : seq ∈ w.asked := List.mem_filterMap.mpr ⟨task, member, asks⟩
  refine ⟨?_, searching.unknown seq listed⟩
  -- With the turn free nobody would ask.
  have turn := searching.turn
  cases busy : w.resolving with
  | true => rfl
  | false =>
    rw [busy, if_neg Bool.false_ne_true] at turn
    rw [List.length_eq_zero_iff.mp turn] at listed
    cases listed

theorem Apt.step {phase : PassPhase} (apt : Apt w job) (within : job.snapshot < w.snapshots.length)
    (longer : Extends w w') (pursuit : PassPursuit c w job w' phase) : Apt w' { job with phase } := by
  have begun := longer.begun apt.begun
  -- Only where it looks, or has just looked, is there more to say than that it was begun.
  cases pursuit with
  | aside _ after => exact .of_isIdle begun after
  | begins work _ _ =>
    exact ⟨begun, fun same => by cases same; exact ⟨rfl, rfl⟩, fun same => by cases same⟩
  | goesOn looks inquiry =>
    refine ⟨begun, fun same => ?_, fun same => by cases same⟩
    obtain ⟨snapshot, scope⟩ := apt.looks looks
    cases same
    exact ⟨inquiry.snapshot_eq.trans snapshot, inquiry.scope_eq.trans scope⟩
  | returns looks inquiry =>
    refine ⟨begun, fun same => (by cases same), fun same => ?_⟩
    obtain ⟨snapshot, scope⟩ := apt.looks looks
    rcases inquiry.known_or_ended (snapshot ▸ within) with ended | known
    · exact .inl (longer.isEnded apt.begun (scope ▸ ended))
    · exact .inr (snapshot ▸ known)
  | _ => exact .of_isIdle begun rfl

theorem Advance.pass_of (advance : Advance c w task w' (.pass job)) :
    ∃ former, task = .pass former := by
  generalize result : Task.pass job = after at advance
  cases advance with
  | pass => exact ⟨_, rfl⟩
  | forward _ kind => rcases kind with rfl | rfl <;> cases result
  | fix _ kind => rcases kind with ⟨_, rfl⟩ | ⟨_, rfl⟩ <;> cases result
  | _ => cases result

theorem stepTask_pass (stepped : w.stepTask c eager task = some (w', .pass job)) :
    ∃ former, task = .pass former ∧ ∃ phase, PassPursuit c w former w' phase ∧
      job = { former with phase } := by
  cases task with
  | pass former =>
    cases stepTask_advance stepped with
    | pass _ step => exact ⟨former, rfl, _, step.pursuit, rfl⟩
  | _ =>
    -- No other task becomes a pass.
    obtain ⟨former, same⟩ := (stepTask_advance stepped).pass_of
    cases same

theorem Searching.step (searching : Searching w) (kept : Kept w)
    (found : w.tasks[number]? = some task) (stepped : w.stepTask c eager task = some (w', task')) :
    Searching { w' with tasks := w'.tasks.set number task' } ∧ Lasting w w' := by
  have member := List.mem_of_getElem? found
  have spoken := kept.anchored.tasks task member
  have advance := stepTask_advance stepped
  have longer := advance.extends
  have turned := (stepTask_pursuit stepped spoken).turned
    (fun p search => searching.within kept.anchored member search) (searching.mine member)
  obtain ⟨more, appended, new⟩ := advance.tasks_append
  -- Tasks that were added do not ask, so the calls are those before, but for the task itself.
  have all : w'.tasks.filterMap Task.asks? = w.asked :=
    advance.filterMap_tasks fun job phase => Task.asks_of_isIdle (by rw [phase]; rfl)
  have count := length_asked_set (advance.found_after found) task'
  rw [all, searching.turn] at count
  have turn : ((w'.tasks.set number task').filterMap Task.asks?).length =
      if w'.resolving then 1 else 0 := by
    have balance := turned.balance
    omega
  refine ⟨⟨turn, fun seq listed => ?_, fun {job} listed => ?_⟩, turned.lasting⟩
  · -- While a call is under way, snapshots are only added, so what was unknown is so still.
    cases busy : w'.resolving with
    | false =>
      rw [busy, if_neg Bool.false_ne_true] at turn
      have none := List.length_eq_zero_iff.mp turn
      simp only [asked] at listed
      rw [none] at listed
      cases listed
    | true =>
      have before : w.readings[seq]? = some .unresolved := by
        obtain ⟨other, present, asks⟩ := List.mem_filterMap.mp listed
        rcases List.mem_or_eq_of_mem_set present with present | rfl
        · exact searching.unknown seq (all ▸ List.mem_filterMap.mpr ⟨other, present, asks⟩)
        · exact turned.unknown seq asks
      obtain ⟨further, grown⟩ := turned.grown busy
      show w'.readings[seq]? = _
      rw [grown, List.getElem?_append_left (List.getElem?_eq_some_iff.mp before).1]
      exact before
  · have apt : Apt w' job := by
      rcases List.mem_or_eq_of_mem_set listed with present | rfl
      · rw [appended] at present
        rcases List.mem_append.mp present with before | added
        · exact (searching.passes before).mono longer turned.lasting
        · obtain ⟨job', same, phase, -, begun⟩ := new _ added
          cases same
          exact .of_isIdle begun (by rw [phase]; rfl)
      · -- The task itself is a pass only if it was one.
        obtain ⟨former, rfl, phase, pursuit, rfl⟩ := stepTask_pass stepped
        exact (searching.passes member).step (spoken _ List.mem_cons_self) longer pursuit
    exact ⟨apt.begun, apt.looks, apt.looked⟩

end PolicyServer.Workspace
