import PolicyServer.Proofs.Workspace.Turns

/-! The tokens that passes wait to hear of: each was asked for by a message to the editor. -/

namespace PolicyServer

namespace Task

theorem awaits_of_isNew {task : Task} (new : task.isNew = true) : task.awaits? = none := by
  cases task with
  | pass job =>
    obtain ⟨pass, snapshot, message, phase⟩ := job
    cases phase with
    | configuring => rfl
    | announcing => rfl
    | _ => cases new
  | _ => rfl

theorem awaits_of_isAside {task : Task} (aside : task.isAside = true) : task.awaits? = none := by
  cases task <;> first | rfl | cases aside

end Task

namespace Workspace

variable {c : Collaborators} {eager : Bool} {w w' : Workspace} {number : Nat} {task task' : Task}
  {token : ProgressToken}

/-- The tokens that passes have asked the editor for and not heard of. -/
def awaited (w : Workspace) : List ProgressToken := w.tasks.filterMap Task.awaits?

theorem mem_awaited : token ∈ w.awaited ↔ ∃ task ∈ w.tasks, task.awaits? = some token := by
  simp [awaited]

theorem Shift.awaited {tasks tasks' : List Task} (shift : Shift tasks tasks')
    (member : task ∈ tasks') (waits : task.awaits? = some token) : task ∈ tasks := by
  cases shift with
  | starts new fresh =>
    rcases List.mem_append.mp member with before | started
    · exact before
    · rw [Task.awaits_of_isNew (fresh task started)] at waits
      cases waits
  | sets task' found aside aside' =>
    rcases List.mem_or_eq_of_mem_set member with before | rfl
    · exact before
    · rw [Task.awaits_of_isAside aside'] at waits
      cases waits

/--
A workspace that goes on from another one without losing sight of its tokens.

Nothing that was sent or answered is taken back, and whoever waits for a token did so before, or has
just asked for it.
-/
structure Heeds (w w' : Workspace) : Prop where
  answers : w.answers <+: w'.answers
  sent : w.outbox.sent <+: w'.outbox.sent
  awaited : ∀ token ∈ w'.awaited, token ∈ w.awaited ∨ .create token ∈ w'.outbox.sent

theorem Heeds.refl (w : Workspace) : Heeds w w :=
  ⟨List.prefix_refl _, List.prefix_refl _, fun _ => .inl⟩

theorem Heeds.of_shift (shift : Shift w.tasks w'.tasks) (sent : w'.outbox.sent = w.outbox.sent)
    (answers : w.answers <+: w'.answers) : Heeds w w' := by
  refine ⟨answers, sent ▸ List.prefix_refl _, fun token waits => ?_⟩
  obtain ⟨task, member, mine⟩ := mem_awaited.mp waits
  exact .inl (mem_awaited.mpr ⟨task, shift.awaited member mine, mine⟩)

theorem Show.awaits {surface : Surface} (shown : Show c w task surface task')
    (waits : task'.awaits? = some token) : .create token ∈ surface.outbox.sent := by
  cases shown with
  | pass step => exact step.awaits waits
  | ends => cases waits
  | other apart apart' => cases task' <;> first | cases waits | cases apart'

theorem step_heeds (stepped : w.step c eager number = some w') : Heeds w w' := by
  obtain ⟨task, mid, task', found, advance, taken, rfl⟩ := step_advance stepped
  have shown := stepTask_show taken
  have grows := shown.grows
  refine ⟨?_, grows.outbox.sent, fun token waits => ?_⟩
  · have same : mid.answers = w.answers := grows.answers
    exact same ▸ List.prefix_refl _
  · obtain ⟨other, member, mine⟩ := mem_awaited.mp waits
    rcases List.mem_or_eq_of_mem_set member with before | rfl
    · -- The tasks that this one has started wait for nothing yet.
      obtain ⟨more, appended, announcing⟩ := advance.tasks_append
      rw [appended] at before
      rcases List.mem_append.mp before with before | new
      · exact .inl (mem_awaited.mpr ⟨other, before, mine⟩)
      · obtain ⟨job, rfl, phase, -⟩ := announcing other new
        simp [Task.awaits?, phase, PassPhase.awaits?] at mine
    · exact .inr (shown.awaits mine)

theorem handshake_heeds (w : Workspace) (params : InitializeParams) :
    Heeds w (w.handshake params).2 := by
  unfold handshake
  split <;> exact .of_shift (.refl _) rfl (List.prefix_refl _)

theorem act_heeds (w : Workspace) (move : Move) (keeps : move ≠ .flush) :
    Heeds w (w.act c move) := by
  rcases act_cases c w move with ⟨number, eager, rfl, stepped⟩ | ⟨-, incident⟩
  · exact step_heeds stepped
  · exact .of_shift incident.shift (incident.steady.sent keeps) incident.steady.answers

end Workspace

end PolicyServer
