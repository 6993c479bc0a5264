import PolicyServer.Proofs.Document.Versions
import PolicyServer.Proofs.Workspace.Numbering

/-! What the worker for documents works on, and what leaves that alone. -/

namespace PolicyServer

/-- Who makes changes to documents: the worker, or a caller of the view. -/
inductive Writer where
  | worker (phase : WorkerPhase)
  | caller

def Task.writer? : Task → Option Writer
  | .documents phase => some (.worker phase)
  | .change _ _ _ => some .caller
  | _ => none

namespace Workspace

/-- Holds for what can happen to a server: only its worker makes changes, and passes begin with the
session and with saves alone. -/
def Happening.isOfServer : Happening → Bool
  | .move (.change _ _) | .move (.beginPass _ _) | .move (.openView _) => false
  | _ => true

variable {c : Collaborators} {eager : Bool} {w w' w'' : Workspace} {number : Nat} {task task' : Task}
  {change : StateChange}

def contents (w : Workspace) : List FileMap := w.snapshots.map (·.files)

/-- What the worker works on: the changes that wait for it, the documents of each snapshot, and the
snapshots that passes were begun over. -/
structure Desk where
  queue : List (List Modification)
  contents : List FileMap
  passes : List Nat

def desk (w : Workspace) : Desk := ⟨w.documents, w.contents, w.passes.map (·.snapshot)⟩

def writers (w : Workspace) : List Writer := w.tasks.filterMap Task.writer?

theorem length_contents (w : Workspace) : w.contents.length = w.snapshots.length := List.length_map _

theorem filesOf_eq (w : Workspace) (seq : Nat) : w.filesOf seq = (w.contents[seq]?).getD [] := by
  rw [contents, List.getElem?_map]
  rfl

/-! ### What leaves the desk alone -/

theorem desk_of_bare (same : w'.bare = w.bare) : w'.desk = w.desk := by
  refine eq_of_bare same desk fun v => ?_
  simp [desk, contents, bare, Snapshot.bare, List.map_map, Function.comp_def]

@[simp] theorem desk_acquire (w : Workspace) (seq : Nat) : (w.acquire seq).desk = w.desk :=
  congrArg (Desk.mk w.documents · _) (map_acquire w seq fun _ _ => rfl)

@[simp] theorem desk_release (w : Workspace) (seq : Nat) : (w.release seq).desk = w.desk := by
  have same : (w.release seq).contents = w.contents := map_release w seq fun _ _ => rfl
  have rest : (w.release seq).documents = w.documents ∧ (w.release seq).passes = w.passes := by
    unfold release
    dsimp only
    split <;> exact ⟨rfl, rfl⟩
  simp only [desk, same, rest]

@[simp] theorem desk_letGo (w : Workspace) (name : String) : (w.letGo name).desk = w.desk := by
  unfold letGo
  split
  · rfl
  · exact desk_release w _

@[simp] theorem desk_hold (w : Workspace) (name : String) (seq : Nat) :
    (w.hold name seq).desk = w.desk := desk_letGo w name

@[simp] theorem desk_endScope (w : Workspace) (scope : Scope) : (w.endScope scope).desk = w.desk := by
  cases scope with
  | pass number =>
    -- A pass that is cancelled stays over its snapshot.
    have same : (w.passes.modify number fun pass => { pass with cancelled := true }).map
        Pass.snapshot = w.passes.map Pass.snapshot := map_modify_of_eq _ number fun _ => rfl
    exact congrArg (Desk.mk w.documents w.contents) same
  | _ => rfl

@[simp] theorem desk_beginChange (w : Workspace) (previous : Nat) (save : Bool) :
    (w.beginChange previous save).desk = w.desk := by
  unfold beginChange
  split
  · exact congrArg (Desk.mk w.documents · _) (map_modifySnapshot _ previous _ fun _ => rfl)
  · rfl

@[simp] theorem writers_spawn (w : Workspace) (task : Task) :
    (w.spawn task).writers = w.writers ++ task.writer?.toList := by
  cases maker : task.writer? <;> simp [writers, spawn, maker]

@[simp] theorem writers_beginPass (w : Workspace) (seq : Nat) : (w.beginPass seq).writers = w.writers :=
  congrArg (List.filterMap Task.writer?) (beginPass_frame w seq).2.2.1

theorem desk_beginPass (w : Workspace) (seq : Nat) :
    (w.beginPass seq).desk = { w.desk with passes := w.desk.passes ++ [seq] } := by
  have begun : ∀ v : Workspace, v.desk = w.desk →
      ({ v with passes := v.passes ++ [⟨seq, false⟩] } : Workspace).desk =
        { w.desk with passes := w.desk.passes ++ [seq] } := by
    intro v same
    rw [← same]
    simp [desk, contents]
  unfold beginPass
  -- The pass before it is cancelled first, if there is one.
  split
  · exact begun w rfl
  · exact begun _ (desk_endScope w _)

theorem desk_install {previous : Nat} {files : FileMap} (before : w.contents[previous]? = some files)
    (change : StateChange) :
    (w.install previous change).desk =
      { w.desk with contents := w.contents ++ [change.files.foldl FileMap.apply files] } := by
  unfold install
  -- The reference that the view gives back takes no documents away.
  rw [contents, List.getElem?_map] at before
  obtain ⟨snapshot, found, rfl⟩ := Option.map_eq_some_iff.mp before
  rw [found]
  rw [desk_release]
  simp [desk, contents, Snapshot.successor]

theorem desk_afterChange (w : Workspace) (change : StateChange) (seq : Nat) :
    (w.afterChange change seq).desk =
      { w.desk with passes := w.desk.passes ++ if change.save then [seq] else [] } := by
  unfold afterChange
  -- The task of the pass is started as well, which is not on the desk.
  cases change.save with
  | true => exact desk_beginPass w seq
  | false => simp

/-! ### Where no change is made -/

/-- Nothing is done to documents, and no task makes changes that did not before; at most the view loses
its snapshot, and the session ends. -/
structure Lull (w w' : Workspace) : Prop where
  desk : w'.desk = w.desk
  writers : w'.writers = w.writers
  current : w'.current = w.current ∨ w'.current = none
  stage : w'.lifecycle = .initialized → w.lifecycle = .initialized

namespace Lull

theorem of_eq (desk : w'.desk = w.desk) (tasks : w'.tasks = w.tasks) (current : w'.current = w.current)
    (stage : w'.lifecycle = w.lifecycle) : Lull w w' :=
  ⟨desk, congrArg (List.filterMap Task.writer?) tasks, .inl current, fun begun => stage ▸ begun⟩

theorem refl (w : Workspace) : Lull w w := .of_eq rfl rfl rfl rfl

theorem trans (first : Lull w w') (second : Lull w' w'') : Lull w w'' where
  desk := second.desk.trans first.desk
  writers := second.writers.trans first.writers
  current := by
    rcases second.current with same | gone
    · rw [same]
      exact first.current
    · exact .inr gone
  stage := first.stage ∘ second.stage

theorem spawn (w : Workspace) (idle : task.writer? = none) : Lull w (w.spawn task) where
  desk := rfl
  writers := by simp [idle]
  current := .inl rfl
  stage := id

theorem setTask (task' : Task) (found : w.tasks[number]? = some task)
    (same : task'.writer? = task.writer?) : Lull w { w with tasks := w.tasks.set number task' } where
  desk := rfl
  writers := filterMap_set_of_eq found same
  current := .inl rfl
  stage := id

theorem acquire (w : Workspace) (seq : Nat) : Lull w (w.acquire seq) :=
  .of_eq (desk_acquire w seq) rfl rfl rfl

theorem release (w : Workspace) (seq : Nat) : Lull w (w.release seq) := by
  obtain ⟨current, -, tasks, -, stage⟩ := release_frame w seq
  exact .of_eq (desk_release w seq) tasks current stage

theorem letGo (w : Workspace) (name : String) : Lull w (w.letGo name) := by
  unfold Workspace.letGo
  split
  · exact refl w
  · exact (release w _).trans (.of_eq rfl rfl rfl rfl)

theorem hold (w : Workspace) (name : String) (seq : Nat) : Lull w (w.hold name seq) :=
  (letGo w name).trans (.of_eq rfl rfl rfl rfl)

theorem endScope (w : Workspace) (scope : Scope) : Lull w (w.endScope scope) := by
  refine .of_eq (desk_endScope w scope) ?_ ?_ ?_ <;> cases scope <;> rfl

theorem of_bare (same : w'.bare = w.bare) : Lull w w' :=
  .of_eq (desk_of_bare same) (eq_of_bare same (·.tasks) fun _ => rfl)
    (eq_of_bare same (·.current) fun _ => rfl) (eq_of_bare same (·.lifecycle) fun _ => rfl)

theorem releaseCurrent (released : w.releaseCurrent = some w') : Lull w w' := by
  obtain ⟨-, ⟨gone, rfl⟩ | ⟨seq, -, rfl⟩⟩ := releaseCurrent_cases released
  · exact refl _
  · exact (release w seq).trans ⟨rfl, rfl, .inr rfl, id⟩

end Lull

theorem Advance.lull (advance : Advance c w task w' task') (idle : task.writer? = none) :
    Lull w w' ∧ task'.writer? = none := by
  -- References, publications and what is bare aside, only the end of the session is seen.
  cases advance with
  | forward same kind => exact ⟨.of_bare same, by rcases kind with rfl | rfl <;> rfl⟩
  | load same => exact ⟨.of_bare same, rfl⟩
  | loaded same => exact ⟨(Lull.of_bare same).trans (.release _ _), rfl⟩
  | observe same => exact ⟨.of_bare same, rfl⟩
  | observed same => exact ⟨(Lull.of_bare same).trans (.release _ _), rfl⟩
  | take => exact ⟨.acquire w _, rfl⟩
  | takeRefused => exact ⟨.refl w, rfl⟩
  | mark => exact ⟨.of_eq rfl rfl rfl rfl, rfl⟩
  | pass step =>
    refine ⟨?_, rfl⟩
    cases step with
    | unseen _ _ _ _ same => exact .of_bare same
    | _ => exact .of_eq rfl rfl rfl rfl
  | passEnds _ same => exact ⟨(Lull.of_bare same).trans (.release _ _), rfl⟩
  | fix same kind => exact ⟨.of_bare same, by rcases kind with ⟨_, rfl⟩ | ⟨_, rfl⟩ <;> rfl⟩
  | stopTold => exact ⟨.endScope w .view, rfl⟩
  | stopReleased released => exact ⟨.releaseCurrent released, rfl⟩
  | stopIdled => exact ⟨.refl w, rfl⟩
  | shutdownRefused => exact ⟨.refl w, rfl⟩
  | shutdownRepeated => exact ⟨.refl w, rfl⟩
  -- What ends here cannot be under way afterwards.
  | shutdownEarly => exact ⟨⟨rfl, rfl, .inl rfl, fun begun => by cases begun⟩, rfl⟩
  | shutdownTold => exact ⟨⟨rfl, rfl, .inl rfl, fun begun => by cases begun⟩, rfl⟩
  | shutdownReleased released => exact ⟨.releaseCurrent released, rfl⟩
  | shutdownIdled _ same => exact ⟨.of_bare same, rfl⟩
  | idle => exact ⟨.refl w, rfl⟩
  | _ => cases idle

theorem Advance.writers_step (advance : Advance c w task w' task') (found : w.tasks[number]? = some task)
    {writer : Writer} (mine : task.writer? = some writer) (only : w.writers = [writer]) :
    ({ w' with tasks := w'.tasks.set number task' } : Workspace).writers = task'.writer?.toList := by
  -- The tasks that were added are passes, which make no changes.
  have all : w'.tasks.filterMap Task.writer? = w.writers := advance.filterMap_tasks fun _ _ => rfl
  exact filterMap_set_of_only (advance.found_after found) mine (all.trans only) task'

theorem Lull.handshake (w : Workspace) (params : InitializeParams) :
    Lull w (w.handshake params).2 := by
  unfold Workspace.handshake
  split
  · exact refl w
  · exact refl w
  · exact ⟨rfl, rfl, .inl rfl, fun begun => by cases begun⟩

theorem ChangeAdvance.desk_waits {scope : Scope} {phase phase' : ChangePhase}
    (advance : ChangeAdvance c w change scope phase w' (.waiting phase')) :
    w'.desk = w.desk ∧ w'.current = w.current := by
  -- The change has its turn, or waits for the snapshot before it.
  cases advance with
  | start _ _ => exact ⟨desk_beginChange w _ _, (beginChange_frame w _ _).1⟩
  | wait same => exact ⟨desk_of_bare same, eq_of_bare same (·.current) fun _ => rfl⟩

theorem ChangeAdvance.desk_made {scope : Scope} {phase : ChangePhase} {seq : Nat}
    (advance : ChangeAdvance c w change scope phase w' (.installed seq)) :
    seq = w.snapshots.length ∧ ∃ p, phase = .waiting p ∧
      ∀ files, w.contents[p.snapshot]? = some files →
        w'.desk =
          { w.desk with contents := w.contents ++ [change.files.foldl FileMap.apply files] } := by
  cases advance with
  | @install p mid same =>
    -- What was done while waiting is not on the desk.
    refine ⟨length_of_bare same, p, rfl, fun files before => ?_⟩
    have desk := desk_of_bare same
    have contents : mid.contents = w.contents := congrArg Desk.contents desk
    rw [desk_install (contents.symm ▸ before), desk, contents]

theorem ChangeAdvance.desk_after {scope : Scope} {p : Preparation} {seq : Nat} {files : FileMap}
    (advance : ChangeAdvance c w change scope (.waiting p) w' (.installed seq))
    (here : w.contents[p.snapshot]? = some files) :
    (w'.afterChange change seq).desk = ⟨w.documents,
      w.contents ++ [change.files.foldl FileMap.apply files],
      w.desk.passes ++ if change.save then [w.snapshots.length] else []⟩ := by
  obtain ⟨rfl, q, same, made⟩ := advance.desk_made
  cases same
  rw [desk_afterChange, made files here]
  rfl

theorem undergo_lull (c : Collaborators) (w : Workspace) {happening : Happening}
    (ours : happening.isOfServer = true)
    (still : ∀ number eager, happening ≠ .move (.step number eager))
    (silent : ∀ news, happening ≠ .move (.hear news)) : Lull w (w.undergo c happening) := by
  -- What is not possible changes nothing; what is touches references, tasks that make no changes, or
  -- what is around them.
  cases happening with
  | seek seq scope first =>
    simp only [undergo]
    split
    · exact (Lull.acquire w seq).trans (.spawn _ rfl)
    · exact .refl w
  | lapse number =>
    simp only [undergo, List.modify_eq_set_getElem?]
    cases found : w.tasks[number]? with
    | none => exact .refl w
    -- Who gives up makes the change all the same.
    | some task => exact .setTask _ found (by cases task <;> rfl)
  | move move =>
    simp only [undergo]
    cases move with
    | step number eager => exact absurd rfl (still number eager)
    | hear news => exact absurd rfl (silent news)
    -- These three do not happen to a server.
    | change _ _ => cases ours
    | beginPass _ _ => cases ours
    | openView _ => cases ours
    | settle outcome =>
      simp only [act, settleSettings]
      split <;> exact .of_eq rfl rfl rfl rfl
    | handshake params =>
      simp only [act]
      split
      · exact .handshake w params
      · exact .refl w
    | giveUp number =>
      simp only [act, giveUpFix, List.modify_eq_set_getElem?]
      cases found : w.tasks[number]? with
      | none => exact .refl w
      | some task => exact .setTask _ found (by cases task <;> rfl)
    | observe seq scope =>
      simp only [act]
      split
      · exact (Lull.acquire w seq).trans (.spawn _ rfl)
      · exact .refl w
    | keep name number =>
      simp only [act, keepResult]
      split
      · rename_i found
        exact (Lull.setTask (.finished .nothing) found rfl).trans (.hold _ name _)
      · exact .refl w
    | clone name seq =>
      simp only [act]
      split
      · exact (Lull.acquire w seq).trans (.hold _ name seq)
      · exact .refl w
    | acquire name =>
      simp only [act, holdCurrent]
      split
      · exact (Lull.acquire w _).trans (.hold _ name _)
      · exact .refl w
    | cancelPass number => exact .endScope w (.pass number)
    | letGo name => exact .letGo w name
    | shutDown => exact .spawn w rfl
    | fix action => exact .spawn w rfl
    | mark uri => exact .spawn w rfl
    | take => exact .spawn w rfl
    | stop => exact .spawn w rfl
    | awaitIdle => exact .spawn w rfl
    | _ => exact .of_eq rfl rfl rfl rfl

end Workspace

end PolicyServer
