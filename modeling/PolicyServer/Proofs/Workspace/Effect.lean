import Mathlib.Logic.Function.Basic
import PolicyServer.Proofs.Workspace.Course

/-! What passes have at stake, and the few ways in which a move can touch it. -/

namespace PolicyServer

def Task.job? : Task → Option PassJob
  | .pass job => some job
  | _ => none

namespace Workspace

open Function (update)

variable {c : Collaborators} {eager : Bool} {w w' mid : Workspace} {number : Nat}

def jobAt (w : Workspace) (number : Nat) : Option PassJob := (w.tasks[number]?).bind Task.job?

def told (w : Workspace) : List Outgoing := w.outbox.sent.filter Outgoing.isPublication

/-- What passes have at stake: themselves, the tasks that run them, and all that they publish. -/
structure Stake where
  passes : List Pass
  jobs : Nat → Option PassJob
  published : Table Publication
  publishing : Bool
  runs : Nat
  told : List Outgoing
  broken : Bool

def stake (w : Workspace) : Stake :=
  ⟨w.passes, w.jobAt, w.published, w.publishing, w.runs, w.told, w.outbox.broken⟩

/--
The ways in which a move can touch what is at stake, each with what passes are seen to do.

All that comes from outside marks, cancels or begins; all else is one pass taking one step.
-/
inductive Effect (w w' : Workspace) : List Deed → Prop where
  | still (same : w'.stake = w.stake) : Effect w w' []
  | link (broken : Bool) (same : w'.stake = { w.stake with broken }) : Effect w w' []
  | mark (uri : DocumentUri)
      (same : w'.stake = { w.stake with published := (w.markDocument uri).published }) :
      Effect w w' []
  | cancel (number : Nat)
      (same : w'.stake = { w.stake with passes := (w.endScope (.pass number)).passes }) :
      Effect w w' []
  | start (number : Nat) (job : PassJob) (vacant : w.jobAt number = none)
      (next : job.pass = w.passes.length) (early : job.phase.hasEntered = false)
      (ordered : job.phase.Ordered)
      (same : w'.stake = { w.stake with
        passes := (w.beginPass job.snapshot).passes
        jobs := update w.jobAt number (some job) }) :
      Effect w w' []
  | unseen {number : Nat} {job : PassJob} {phase : PassPhase} (runs : w.jobAt number = some job)
      (before : job.phase.hasEntered = false) (after : phase.hasEntered = false)
      (ordered : phase.Ordered)
      (same : w'.stake = { w.stake with
        jobs := update w.jobAt number (some { job with phase }) }) :
      Effect w w' []
  | invoke {number : Nat} {job : PassJob} {phase : PassPhase} (runs : w.jobAt number = some job)
      (before : job.phase.hasEntered = false) (after : phase.hasEntered = false)
      (ordered : phase.Ordered) (awake : w.isEnded (.pass job.pass) = false)
      (same : w'.stake = { w.stake with
        runs := w.runs + 1
        jobs := update w.jobAt number (some { job with phase }) }) :
      Effect w w' [.invoke job.pass]
  | enter {number : Nat} {job : PassJob} {work : Work} {findings : Findings}
      (runs : w.jobAt number = some job) (waits : job.phase = .publishing work findings)
      (free : w.publishing = false) (awake : w.isEnded (.pass job.pass) = false)
      (same : w'.stake = { w.stake with
        publishing := true
        jobs := update w.jobAt number (some { job with
          phase := .sending work (toPublish w.published findings)
            (toPublish w.published findings).length }) }) :
      Effect w w' [.enter job.pass ⟨w.filesOf job.snapshot, findings, w.published⟩]
  | publish {number : Nat} {job : PassJob} {work : Work} {uri : String}
      {diagnostics : List Diagnostic} {rest : Findings} {files : Nat}
      (runs : w.jobAt number = some job)
      (sends : job.phase = .sending work ((uri, diagnostics) :: rest) files)
      (same : w'.stake = { w.stake with
        published := (w.publish job.snapshot uri diagnostics).published
        told := (w.publish job.snapshot uri diagnostics).told
        jobs := update w.jobAt number (some { job with phase := .sending work rest files }) }) :
      Effect w w' [.publish job.pass ⟨⟨uri⟩, w.versionOf job.snapshot uri, diagnostics⟩]
  | leave {number : Nat} {job : PassJob} {work : Work} {files : Nat}
      (runs : w.jobAt number = some job) (sent : job.phase = .sending work [] files)
      (same : w'.stake = { w.stake with
        publishing := false
        jobs := update w.jobAt number (some { job with
          phase := .ending work (.published files) }) }) :
      Effect w w' []
  | finish {number : Nat} {job : PassJob} {work : Work} {outcome : PassOutcome}
      (runs : w.jobAt number = some job) (complete : job.phase = .ending work outcome)
      (same : w'.stake = { w.stake with jobs := update w.jobAt number none }) :
      Effect w w' [.finish job.pass outcome]

theorem passes_of_stake (same : w'.stake = w.stake) : w'.passes = w.passes :=
  congrArg Stake.passes same

theorem jobs_of_stake (same : w'.stake = w.stake) : w'.jobAt = w.jobAt := congrArg Stake.jobs same

/-! ### What leaves the stake alone -/

theorem stake_of_bare (same : w'.bare = w.bare) : w'.stake = w.stake :=
  eq_of_bare same stake fun w => by simp [stake, bare, told, Outbox.bare]; rfl

@[simp] theorem stake_release (w : Workspace) (seq : Nat) : (w.release seq).stake = w.stake := by
  unfold release
  dsimp only
  split <;> rfl

@[simp] theorem stake_letGo (w : Workspace) (name : String) : (w.letGo name).stake = w.stake := by
  unfold letGo
  split
  · rfl
  · exact stake_release w _

@[simp] theorem stake_hold (w : Workspace) (name : String) (seq : Nat) :
    (w.hold name seq).stake = w.stake := stake_letGo w name

@[simp] theorem stake_beginChange (w : Workspace) (previous : Nat) (save : Bool) :
    (w.beginChange previous save).stake = w.stake := by
  unfold beginChange
  split <;> rfl

@[simp] theorem stake_install (w : Workspace) (previous : Nat) (change : StateChange) :
    (w.install previous change).stake = w.stake := by
  unfold install
  split
  · rfl
  · exact stake_release _ previous

theorem stake_releaseCurrent (released : w.releaseCurrent = some w') : w'.stake = w.stake := by
  obtain ⟨-, ⟨-, rfl⟩ | ⟨seq, -, rfl⟩⟩ := releaseCurrent_cases released
  · rfl
  · exact stake_release w seq

theorem ChangeAdvance.stake_eq {change : StateChange} {scope : Scope} {phase : ChangePhase}
    {step : ChangeStep} (advance : ChangeAdvance c w change scope phase w' step) :
    w'.stake = w.stake := by
  cases advance with
  | refuse => rfl
  | start => exact stake_beginChange w _ _
  | wait same => exact stake_of_bare same
  | install same => exact (stake_install _ _ _).trans (stake_of_bare same)

/-! ### Jobs -/

theorem jobAt_spawn (w : Workspace) (task : Task) :
    (w.spawn task).jobAt = update w.jobAt w.tasks.length task.job? := by
  funext number
  simp only [jobAt, spawn, Function.update_apply]
  split
  · rename_i last
    subst last
    simp
  · by_cases within : number < w.tasks.length
    · rw [List.getElem?_append_left within]
    · -- Beyond the new task there is none, before and after.
      rw [List.getElem?_eq_none (by simp; omega), List.getElem?_eq_none (by omega)]

theorem jobAt_length (w : Workspace) : w.jobAt w.tasks.length = none := by
  simp [jobAt]

theorem jobAt_setTask {job : PassJob} (runs : w.jobAt number = some job) (task' : Task) :
    ({ w with tasks := w.tasks.set number task' } : Workspace).jobAt =
      update w.jobAt number task'.job? := by
  -- A task that runs a pass is listed, so its place can be set.
  have within : number < w.tasks.length := by
    cases found : w.tasks[number]? with
    | none => simp [jobAt, found] at runs
    | some task => exact (List.getElem?_eq_some_iff.mp found).1
  funext other
  simp only [jobAt, Function.update_apply, List.getElem?_set]
  by_cases same : number = other
  · subst same
    simp [within]
  · simp [same, Ne.symm same]

theorem stake_setTask {task' : Task} (idle : w.jobAt number = none) (idle' : task'.job? = none) :
    ({ w with tasks := w.tasks.set number task' } : Workspace).stake = w.stake := by
  have jobs : ({ w with tasks := w.tasks.set number task' } : Workspace).jobAt = w.jobAt := by
    funext other
    simp only [jobAt] at idle ⊢
    rw [List.getElem?_set]
    -- At its own place there was no pass and is none; a place beyond the list stays empty.
    split
    · rename_i same
      subst same
      split
      · simp [idle, idle']
      · rename_i outside
        simp [List.getElem?_eq_none (Nat.le_of_not_lt outside)]
    · rfl
  simp only [stake, jobs]
  rfl

theorem stake_spawn {task : Task} (idle : task.job? = none) : (w.spawn task).stake = w.stake := by
  have jobs := jobAt_spawn w task
  rw [idle, ← jobAt_length w, Function.update_eq_self] at jobs
  simp only [stake, jobs]
  rfl

/-! ### What a step does -/

theorem length_beginPass (w : Workspace) (seq : Nat) :
    (w.beginPass seq).passes.length = w.passes.length + 1 := by
  simp only [beginPass, List.length_append, List.length_singleton]
  split
  · rfl
  · simp [endScope]

theorem passes_beginPass (same : mid.passes = w.passes) (seq : Nat) :
    (mid.beginPass seq).passes = (w.beginPass seq).passes := by
  simp only [beginPass, same]
  split
  · rw [same]
  · simp only [endScope, same]

theorem stake_beginPass (w : Workspace) (seq : Nat) :
    (w.beginPass seq).stake = { w.stake with passes := (w.beginPass seq).passes } := by
  simp only [beginPass]
  split <;> rfl

theorem effect_startPass (same : mid.stake = w.stake) (seq : Nat) (message : String) (phase : PassPhase)
    (early : phase.hasEntered = false) (ordered : phase.Ordered) (here : number = mid.tasks.length)
    {last : Workspace} (started : last.stake = ((mid.beginPass seq).spawn
      (.pass { pass := w.passes.length, snapshot := seq, message, phase })).stake) :
    Effect w last [] := by
  have passes := passes_of_stake same
  have jobs := jobs_of_stake same
  refine .start number { pass := w.passes.length, snapshot := seq, message, phase } ?_ rfl early
    ordered ?_
  · rw [here, ← jobs]
    exact jobAt_length mid
  · -- The new task stands where none stood, and the passes before it are cancelled alike.
    have tasks : (mid.beginPass seq).tasks = mid.tasks := (beginPass_frame mid seq).2.2.1
    have begun : (mid.beginPass seq).stake =
        { w.stake with passes := (w.beginPass seq).passes } := by
      rw [stake_beginPass, same, passes_beginPass passes]
    have jobs' : (mid.beginPass seq).jobAt = w.jobAt := congrArg Stake.jobs begun
    have added := jobAt_spawn (mid.beginPass seq)
      (.pass { pass := w.passes.length, snapshot := seq, message, phase })
    rw [tasks, ← here, jobs'] at added
    have rest : ∀ task, ((mid.beginPass seq).spawn task).stake =
        { (mid.beginPass seq).stake with jobs := ((mid.beginPass seq).spawn task).jobAt } :=
      fun _ => rfl
    rw [started, rest, begun, added]
    rfl

theorem PassAdvance.effect {job : PassJob} {phase : PassPhase} (advance : PassAdvance w job mid phase)
    (runs : w.jobAt number = some job) :
    Effect w { mid with tasks := mid.tasks.set number (.pass { job with phase }) }
      (w.deedOf? job (.pass { job with phase })).toList := by
  -- Whatever else the step did, the task that runs the pass has gone on to its new phase.
  have moved : mid.jobAt = w.jobAt →
      ({ mid with tasks := mid.tasks.set number (.pass { job with phase }) } : Workspace).stake =
        { mid.stake with jobs := update w.jobAt number (some { job with phase }) } := by
    intro jobs
    have set := jobAt_setTask (w := mid) (jobs ▸ runs) (.pass { job with phase })
    rw [jobs] at set
    simp only [stake, set]
    rfl
  cases advance with
  | unseen before after ordered silent same =>
    have kept := stake_of_bare same
    rw [silent]
    refine .unseen runs before after ordered ?_
    rw [moved (jobs_of_stake kept), kept]
  | invoke prepared awake =>
    rename_i work run due
    have seen : w.deedOf? job (.pass { job with phase := .running work run due }) =
        some (.invoke job.pass) := by
      simp only [deedOf?, prepared]
    rw [seen]
    exact .invoke runs (by rw [prepared]; rfl) rfl (by trivial) awake (moved rfl)
  | enter waits free awake =>
    rename_i work findings
    have seen : w.deedOf? job (.pass { job with
        phase := .sending work (toPublish w.published findings)
          (toPublish w.published findings).length }) =
        some (.enter job.pass ⟨w.filesOf job.snapshot, findings, w.published⟩) := by
      simp only [deedOf?, waits]
    rw [seen]
    exact .enter runs waits free awake (moved rfl)
  | publish sends =>
    rename_i work uri diagnostics rest files
    have seen : w.deedOf? job (.pass { job with phase := .sending work rest files }) =
        some (.publish job.pass ⟨⟨uri⟩, w.versionOf job.snapshot uri, diagnostics⟩) := by
      simp only [deedOf?, sends]
    rw [seen]
    refine .publish runs sends ?_
    rw [moved rfl]
    have broken : (w.publish job.snapshot uri diagnostics).outbox.broken = w.outbox.broken := by
      simp only [Workspace.publish, send, Outbox.send]
      split <;> rfl
    simp only [stake, broken]
    rfl
  | leave sent =>
    rename_i work files
    have seen : w.deedOf? job (.pass { job with phase := .ending work (.published files) }) =
        none := by
      simp only [deedOf?, sent]
    rw [seen]
    exact .leave runs sent (moved rfl)

theorem step_effect (stepped : w.step c eager number = some w') :
    Effect w w' (w.deeds c (.step number eager)) := by
  obtain ⟨task, mid, task', found, advance, taken, rfl⟩ := step_advance stepped
  have running : w.jobAt number = task.job? := by simp [jobAt, found]
  -- Tasks that run no pass are seen to do nothing, and most of them touch nothing at stake.
  have quiet : task.job? = none → w.deeds c (.step number eager) = [] := by
    intro idle
    simp only [deeds, found]
    cases task with
    | pass job => cases idle
    | _ => rfl
  have still : task.job? = none → task'.job? = none → mid.stake = w.stake →
      Effect w { mid with tasks := mid.tasks.set number task' }
        (w.deeds c (.step number eager)) := by
    intro idle idle' same
    rw [quiet idle]
    have vacant : mid.jobAt number = none := by
      rw [jobs_of_stake same, running, idle]
    exact .still ((stake_setTask vacant idle').trans same)
  have marked : ∀ uri, task.job? = none → task'.job? = none → mid = w.markDocument uri →
      Effect w { mid with tasks := mid.tasks.set number task' }
        (w.deeds c (.step number eager)) := by
    intro uri idle idle' same
    subst same
    rw [quiet idle]
    have vacant : (w.markDocument uri).jobAt number = none := running.trans idle
    exact .mark uri (stake_setTask vacant idle')
  cases advance with
  | forward same kind =>
    refine still rfl ?_ (stake_of_bare same)
    rcases kind with rfl | rfl <;> rfl
  | load same => exact still rfl rfl (stake_of_bare same)
  | loaded same => exact still rfl rfl ((stake_release _ _).trans (stake_of_bare same))
  | observe same => exact still rfl rfl (stake_of_bare same)
  | observed same => exact still rfl rfl ((stake_release _ _).trans (stake_of_bare same))
  | mark => exact marked _ rfl rfl rfl
  | changeWaits step => exact still rfl rfl step.stake_eq
  | changeRefused step => exact still rfl rfl step.stake_eq
  | changeInstalled step => exact still rfl rfl step.stake_eq
  | @pass _ job phase step =>
    have seen : w.deeds c (.step number eager) =
        (w.deedOf? job (.pass { job with phase })).toList := by
      simp only [deeds, found]
      simp only [stepTask] at taken
      rw [taken]
    rw [seen]
    exact step.effect running
  | @passEnds mid job work outcome complete same =>
    have seen : w.deeds c (.step number eager) = [.finish job.pass outcome] := by
      simp only [deeds, found]
      simp only [stepTask] at taken
      rw [taken]
      simp only [deedOf?, complete, Option.toList_some]
    rw [seen]
    refine .finish running complete ?_
    have kept : (mid.release job.snapshot).stake = w.stake :=
      (stake_release _ _).trans (stake_of_bare same)
    have jobs := jobs_of_stake kept
    have set := jobAt_setTask (jobs ▸ running) (.finished (.outcome outcome))
    rw [jobs] at set
    rw [← kept]
    simp only [stake, set]
    rfl
  | markNext => exact marked _ rfl rfl rfl
  | readAll => exact still rfl rfl (stake_release _ _)
  | workerWaits step => exact still rfl rfl step.stake_eq
  | workerRefused step => exact still rfl rfl step.stake_eq
  | @workerInstalled mid change phase seq step =>
    rw [quiet rfl]
    have kept := step.stake_eq
    by_cases save : change.save
    · -- The save begins a pass, whose task stands last.
      have pass : (mid.beginPass seq).passes.length - 1 = w.passes.length := by
        rw [length_beginPass, passes_of_stake kept, Nat.add_sub_cancel]
      have follow : mid.afterChange change seq = (mid.beginPass seq).spawn
          (.pass { pass := w.passes.length, snapshot := seq, message := saveMessage }) := by
        simp only [afterChange, save, if_true, pass]
      rw [follow]
      refine effect_startPass kept seq saveMessage .announcing rfl trivial rfl ?_
      refine stake_setTask ?_ rfl
      have within : number < w.tasks.length := (List.getElem?_eq_some_iff.mp found).1
      have tasks : (mid.beginPass seq).tasks = w.tasks :=
        (beginPass_frame mid seq).2.2.1.trans step.frame.2.1
      rw [jobAt_spawn, tasks, Function.update_of_ne (Nat.ne_of_lt within)]
      simp only [jobAt, tasks]
      exact running
    · have follow : mid.afterChange change seq = mid.release seq := by
        simp [afterChange, save]
      rw [follow]
      have same : (mid.release seq).stake = w.stake := (stake_release _ _).trans kept
      have vacant : (mid.release seq).jobAt number = none := by
        rw [jobs_of_stake same, running]
        rfl
      exact .still ((stake_setTask vacant rfl).trans same)
  | fix same kind =>
    refine still rfl ?_ (stake_of_bare same)
    rcases kind with ⟨job, rfl⟩ | ⟨outcome, rfl⟩ <;> rfl
  | stopReleased released => exact still rfl rfl (stake_releaseCurrent released)
  | shutdownReleased released => exact still rfl rfl (stake_releaseCurrent released)
  | shutdownIdled _ same => exact still rfl rfl (stake_of_bare same)
  | _ => exact still rfl rfl rfl

/-! ### What a move does -/

theorem spawn_beginPass (w : Workspace) (seq : Nat) (task : Task) :
    (w.beginPass seq).spawn task = (w.spawn task).beginPass seq := by
  by_cases none : w.passes.isEmpty <;> simp [beginPass, spawn, none, endScope]

theorem stake_openView (w : Workspace) : w.openView.stake = w.stake := stake_spawn rfl

theorem Anchored.passes_eq_nil (anchored : Anchored w) (none : w.snapshots = []) :
    w.passes = [] := by
  apply List.eq_nil_iff_forall_not_mem.mpr
  intro pass member
  have within := anchored.passes pass member
  simp [none] at within

theorem enterSession_effect (anchored : Anchored w) : Effect w w.enterSession [] := by
  unfold enterSession
  split
  · rename_i stage
    have none := anchored.passes_eq_nil (anchored.early stage)
    -- The view and the worker come first; none of their tasks runs a pass.
    have kept : (({ w with lifecycle := .initialized } : Workspace).openView.spawn
        (.documents .idle)).stake = w.stake := (stake_spawn rfl).trans (stake_openView _)
    refine effect_startPass kept 0 initialMessage .configuring rfl trivial rfl ?_
    rw [none]
    rfl
  · exact .still rfl

theorem endScope_effect (w : Workspace) (scope : Scope) : Effect w (w.endScope scope) [] := by
  cases scope with
  | pass number => exact .cancel number rfl
  | _ => exact .still rfl

theorem Incident.effect {move : Move} (incident : Incident w move w') (anchored : Anchored w)
    (keeps : move ≠ .flush) : Effect w w' [] := by
  cases incident with
  | around => exact .still rfl
  | link closed broken => exact .link broken rfl
  | flush => exact absurd rfl keeps
  | handshake => exact .still rfl
  | enter => exact enterSession_effect anchored
  | @spawn _ task asked =>
    have idle : task.job? = none := by cases asked <;> rfl
    exact .still (stake_spawn idle)
  | endScope _ scope => exact endScope_effect w scope
  | giveUp found =>
    refine .still (stake_setTask ?_ rfl)
    simp [jobAt, found, Task.job?]
  | openView => exact .still ((stake_hold _ _ _).trans (stake_openView w))
  -- The pass is begun over a snapshot with one more reference, which is nothing to the stake.
  | @beginPass seq message referred =>
    have kept : (w.acquire seq).stake = w.stake := rfl
    exact effect_startPass kept seq message .announcing rfl trivial rfl rfl
  | @observe seq scope referred => exact .still (stake_spawn (w := w.acquire seq) rfl)
  | keep name found =>
    refine .still ((stake_hold _ _ _).trans (stake_setTask ?_ rfl))
    simp [jobAt, found, Task.job?]
  | letGo name => exact .still (stake_letGo w name)
  | _ => exact .still (stake_hold _ _ _)

theorem act_effect (anchored : Anchored w) {move : Move} (keeps : move ≠ .flush) :
    Effect w (w.act c move) (w.deeds c move) := by
  rcases act_cases c w move with ⟨number, eager, rfl, stepped⟩ | ⟨silent, incident⟩
  · exact step_effect stepped
  · rw [silent]
    exact incident.effect anchored keeps

theorem play_induction (holds : Workspace → List Deed → Prop)
    (cleared : ∀ {w : Workspace} {log : List Deed}, holds w log → holds (w.act c .flush) log)
    (kept : ∀ {w w' : Workspace} {deeds log : List Deed}, Anchored w → Extends w w' →
      Effect w w' deeds → holds w log → holds w' (log ++ deeds))
    (anchored : Anchored w) (log : List Deed) (start : holds w log) (moves : List Move) :
    holds (w.play c moves) (log ++ w.history c moves) := by
  -- Each move appends what it has passes do, so the history before it stays quantified over.
  induction moves generalizing w log with
  | nil => simpa [play, history] using start
  | cons move rest ih =>
    obtain ⟨after, longer⟩ := act_spec (c := c) anchored move
    have next : holds (w.act c move) (log ++ w.deeds c move) := by
      by_cases clearing : move = .flush
      · subst clearing
        simpa [deeds] using cleared start
      · exact kept anchored longer (act_effect anchored clearing) start
    have done := ih after _ next
    rw [List.append_assoc] at done
    exact done

end Workspace

end PolicyServer
