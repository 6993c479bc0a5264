import PolicyServer.Proofs.Workspace.Anchored

/-! The course of a workspace: moves go on from what was, and speak of snapshots that exist. -/

namespace PolicyServer.Workspace

variable {c : Collaborators} {eager : Bool} {w w' : Workspace}

theorem openView_spec (anchored : Anchored w) (stage : w.lifecycle ≠ .initializing)
    (none : w.snapshots = []) : Anchored w.openView ∧ Extends w w.openView := by
  have nowhere : ∀ seq, ¬ seq < w.snapshots.length := by simp [none]
  refine ⟨⟨fun early => absurd early stage, fun seq here => ?_, fun entry member => ?_,
    fun pass member => ?_, fun task member seq spoken => ?_⟩,
    ⟨id, fun found => ?_, fun found => ?_⟩⟩
  · cases here
    simp [openView, spawn]
  · exact absurd (anchored.held entry member) (nowhere _)
  · exact absurd (anchored.passes pass member) (nowhere _)
  · -- Only the task that looks for the first runner speaks of a snapshot, of the first one.
    rcases List.mem_append.mp member with before | new
    · exact absurd (anchored.tasks task before seq spoken) (nowhere _)
    · obtain rfl := List.mem_singleton.mp new
      obtain rfl := List.mem_singleton.mp spoken
      simp [openView, spawn]
  · simp [none] at found
  · exact ⟨_, found, rfl, id⟩

theorem enterSession_spec (anchored : Anchored w) :
    Anchored w.enterSession ∧ Extends w w.enterSession := by
  unfold enterSession
  split
  · rename_i stage
    have entered : Anchored { w with lifecycle := .initialized } :=
      ⟨fun early => by simp at early, anchored.current, anchored.held, anchored.passes,
        anchored.tasks⟩
    obtain ⟨opened, longer⟩ := openView_spec entered (by simp) (anchored.early stage)
    -- The view brings the first snapshot along, which the first pass is over.
    have first :
        0 < ({ w with lifecycle := .initialized } : Workspace).openView.snapshots.length := by
      simp [openView, spawn]
    refine ⟨((opened.beginPass first).spawn (by simp [Task.mentions])).spawn ?_, ?_⟩
    · intro seq spoken
      obtain rfl := List.mem_singleton.mp spoken
      simp only [spawn, snapshots_beginPass]
      exact first
    · have staged : Extends w { w with lifecycle := .initialized } := .of_eq rfl rfl rfl
      exact (staged.trans longer).trans
        ((Extends.beginPass _ 0).trans ((Extends.spawn _ _).trans (.spawn _ _)))
  · exact ⟨anchored, .refl w⟩

theorem within_of_isReferred {seq : Nat} (referred : w.isReferred seq = true) :
    seq < w.snapshots.length := by
  unfold isReferred at referred
  cases found : w.snapshots[seq]? with
  | none => simp [found] at referred
  | some snapshot => exact (List.getElem?_eq_some_iff.mp found).1

theorem startPass_spec (anchored : Anchored w) {seq : Nat} (within : seq < w.snapshots.length)
    (message : String) :
    Anchored (w.startPass seq message) ∧ Extends w (w.startPass seq message) := by
  have room : seq < (w.acquire seq).snapshots.length := (Extends.acquire w seq).within within
  refine ⟨((anchored.acquire seq).beginPass room).spawn fun other spoken => ?_, ?_⟩
  · obtain rfl := List.mem_singleton.mp spoken
    rw [snapshots_beginPass]
    exact room
  · exact (Extends.acquire w seq).trans ((Extends.beginPass _ seq).trans (.spawn _ _))

theorem step_spec (anchored : Anchored w) {number : Nat}
    (stepped : w.step c eager number = some w') : Anchored w' ∧ Extends w w' := by
  obtain ⟨task, mid, task', found, advance, -, rfl⟩ := step_advance stepped
  have member : task ∈ w.tasks := List.mem_of_getElem? found
  obtain ⟨after, spoken⟩ := advance.anchored anchored (anchored.tasks task member)
  exact ⟨after.setTask number spoken, advance.extends.trans (.of_eq rfl rfl rfl)⟩

theorem Incident.spec {move : Move} (incident : Incident w move w') (anchored : Anchored w) :
    Anchored w' ∧ Extends w w' := by
  cases incident with
  | handshake _ _ empty =>
    exact ⟨⟨fun _ => empty, anchored.current, anchored.held, anchored.passes, anchored.tasks⟩,
      .of_eq rfl rfl rfl⟩
  | enter => exact enterSession_spec anchored
  -- Whatever was just asked for speaks of no snapshot.
  | @spawn _ task asked =>
    have silent : task.mentions = [] := by cases asked <;> rfl
    exact ⟨anchored.spawn (by simp [silent]), .spawn w task⟩
  | endScope _ scope => exact ⟨anchored.endScope scope, .endScope w scope⟩
  | @giveUp number job found =>
    exact ⟨anchored.setTask number (by simp [Task.mentions]), .of_eq rfl rfl rfl⟩
  | openView name stage empty =>
    obtain ⟨opened, longer⟩ := openView_spec anchored (by simp [stage]) empty
    exact ⟨opened.hold name (by simp [Workspace.openView, Workspace.spawn]),
      longer.trans (.hold _ _ _)⟩
  -- The snapshot of a pass, of a look at it, and of a name is one that exists already.
  | beginPass message referred =>
    exact startPass_spec anchored (within_of_isReferred referred) message
  | @observe seq scope referred =>
    have room := (Extends.acquire w seq).within (within_of_isReferred referred)
    refine ⟨(anchored.acquire seq).spawn fun other spoken => ?_,
      (Extends.acquire w seq).trans (.spawn _ _)⟩
    obtain rfl := List.mem_singleton.mp spoken
    exact room
  | @keep name number seq found =>
    have within := anchored.tasks _ (List.mem_of_getElem? found) seq (by simp [Task.mentions])
    have taken : Extends w { w with tasks := w.tasks.set number (.finished .nothing) } :=
      .of_eq rfl rfl rfl
    exact ⟨(anchored.setTask number (by simp [Task.mentions])).hold name within,
      taken.trans (.hold _ _ _)⟩
  | @clone name seq referred =>
    have room := (Extends.acquire w seq).within (within_of_isReferred referred)
    exact ⟨(anchored.acquire seq).hold name room, (Extends.acquire w seq).trans (.hold _ _ _)⟩
  | @acquire name seq here =>
    have room := (Extends.acquire w seq).within (anchored.current seq here)
    exact ⟨(anchored.acquire seq).hold name room, (Extends.acquire w seq).trans (.hold _ _ _)⟩
  | letGo name => exact ⟨anchored.letGo name, .letGo w name⟩
  | _ => exact ⟨anchored.congr rfl rfl rfl rfl rfl rfl, .of_eq rfl rfl rfl⟩

theorem act_spec (anchored : Anchored w) (move : Move) :
    Anchored (w.act c move) ∧ Extends w (w.act c move) := by
  rcases act_cases c w move with ⟨number, eager, rfl, stepped⟩ | ⟨-, incident⟩
  · exact step_spec anchored stepped
  · exact incident.spec anchored

theorem fresh_anchored (names : Nat → String) (supported : Bool) (limit : Nat) :
    Anchored (fresh names supported limit) := by
  refine ⟨fun stage => rfl, ?_, ?_, ?_, ?_⟩ <;> simp [fresh, spawn, Task.mentions]

theorem play_anchored (anchored : Anchored w) (moves : List Move) : Anchored (w.play c moves) := by
  -- Each move hands the invariant on to the next one.
  induction moves generalizing w with
  | nil => exact anchored
  | cons move rest ih => exact ih (act_spec anchored move).1

theorem Extends.begun (longer : Extends w w') {number : Nat} (begun : number < w.passes.length) :
    number < w'.passes.length := by
  obtain ⟨later, there, -, -⟩ := longer.passes (List.getElem?_eq_getElem begun)
  exact (List.getElem?_eq_some_iff.mp there).1

theorem Extends.isEnded (longer : Extends w w') {number : Nat} (begun : number < w.passes.length)
    (ended : w.isEnded (.pass number) = true) : w'.isEnded (.pass number) = true := by
  -- Both the pass and its snapshot have later forms that do not recover.
  have found := List.getElem?_eq_getElem begun
  obtain ⟨later, there, complete, cancelled⟩ := longer.passes found
  simp only [Workspace.isEnded, found, there, isSuperseded, Bool.or_eq_true] at ended ⊢
  rw [complete]
  rcases ended with own | stopped | superseded
  · exact .inl (cancelled own)
  · exact .inr (.inl (longer.stopped stopped))
  · right
    right
    cases entry : w.snapshots[(w.passes[number]).snapshot]? with
    | none => simp [entry] at superseded
    | some snapshot =>
      obtain ⟨later, there, -, kept⟩ := longer.snapshots entry
      have before : snapshot.superseded = true := by simpa [entry] using superseded
      simp [there, kept before]

end PolicyServer.Workspace
