import PolicyServer.Proofs.Trace
import PolicyServer.Proofs.Workspace.Custody

/-! What can happen to a workspace whose callers look for runners by themselves and give up at will. -/

namespace PolicyServer

/-- A change whose maker waits no longer for the snapshot before it. -/
def ChangePhase.lapse : ChangePhase → ChangePhase
  | .turn => .turn
  | .waiting preparation => .waiting { preparation with scope := .past }

/-- The task of a caller that gives up; passes and the worker have no scope of their own to give up. -/
def Task.lapse : Task → Task
  | .load preparation => .load { preparation with scope := .past }
  | .observe preparation => .observe { preparation with scope := .past }
  | .change modified _ phase => .change modified .past phase.lapse
  | task => task

namespace Workspace

/--
What can happen to a workspace, callers of its view included.

Apart from the moves, a caller that refers to a snapshot may look for its runner without waiting for
the first attempt of all, and any caller that waits may be told to give up, at any time.
-/
inductive Happening where
  | move (move : Move)
  | seek (seq : Nat) (scope : Scope) (first : Bool)
  | lapse (number : Nat)

/-- The workspace after a happening; one that is not possible changes nothing. -/
def undergo (c : Collaborators) (w : Workspace) : Happening → Workspace
  | .move move => w.act c move
  | .seek seq scope first =>
    if w.isReferred seq then
      (w.acquire seq).spawn (.load { snapshot := seq, scope, first, phase := .turn })
    else w
  | .lapse number => { w with tasks := w.tasks.modify number Task.lapse }

def course (c : Collaborators) (w : Workspace) (happenings : List Happening) : Workspace :=
  happenings.foldl (undergo c) w

variable {c : Collaborators} {w w' : Workspace}

theorem course_append (c : Collaborators) (w : Workspace) (before after : List Happening) :
    w.course c (before ++ after) = (w.course c before).course c after := by
  simp only [course, List.foldl_append]

theorem play_eq_course (c : Collaborators) (w : Workspace) (moves : List Move) :
    w.play c moves = w.course c (moves.map .move) := by
  simp only [play, course, List.foldl_map]
  rfl

/-- What callers do beyond the moves: nothing, look for a runner, or give up. -/
inductive Approach (w : Workspace) : Happening → Workspace → Prop where
  | refused (happening : Happening) : Approach w happening w
  | seek {seq : Nat} (scope : Scope) (first : Bool) (referred : w.isReferred seq = true) :
    Approach w (.seek seq scope first)
      ((w.acquire seq).spawn (.load { snapshot := seq, scope, first, phase := .turn }))
  | lapse {number : Nat} {task : Task} (found : w.tasks[number]? = some task) :
    Approach w (.lapse number) { w with tasks := w.tasks.set number task.lapse }

theorem undergo_cases (c : Collaborators) (w : Workspace) (happening : Happening) :
    (∃ move, happening = .move move ∧ w.undergo c happening = w.act c move) ∨
      ((∀ move, happening ≠ .move move) ∧ Approach w happening (w.undergo c happening)) := by
  cases happening with
  | move move => exact .inl ⟨move, rfl, rfl⟩
  | seek seq scope first =>
    refine .inr ⟨fun move same => (by cases same), ?_⟩
    simp only [undergo]
    split
    · rename_i referred
      exact .seek scope first referred
    · exact .refused _
  | lapse number =>
    refine .inr ⟨fun move same => (by cases same), ?_⟩
    simp only [undergo, List.modify_eq_set_getElem?]
    cases found : w.tasks[number]? with
    | none => exact .refused _
    | some task => exact .lapse found

/-- What is seen of the steps of tasks; other happenings are not looked at. -/
def watch (see : Workspace → Task → Workspace → Task → List β) (c : Collaborators) (w : Workspace) :
    Happening → List β
  | .move (.step number eager) =>
    match w.tasks[number]? with
    | none => []
    | some before =>
      match w.stepTask c eager before with
      | none => []
      | some (w', after) => see w before w' after
  | _ => []

theorem watch_of_still {see : Workspace → Task → Workspace → Task → List β} {happening : Happening}
    (still : ∀ number eager, happening ≠ .move (.step number eager)) :
    watch see c w happening = [] := by
  unfold watch
  split
  · exact absurd rfl (still _ _)
  · rfl

theorem watch_cases (see : Workspace → Task → Workspace → Task → List β) (c : Collaborators)
    (w : Workspace) (happening : Happening) :
    (∃ number eager task mid task', happening = .move (.step number eager) ∧
      w.tasks[number]? = some task ∧ w.stepTask c eager task = some (mid, task') ∧
      w.undergo c happening = { mid with tasks := mid.tasks.set number task' } ∧
      watch see c w happening = see w task mid task') ∨
    (watch see c w happening = [] ∧
      ((∃ move, happening = .move move ∧ Incident w move (w.undergo c happening)) ∨
        Approach w happening (w.undergo c happening))) := by
  rcases undergo_cases c w happening with ⟨move, rfl, same⟩ | ⟨other, approach⟩
  · rcases act_cases c w move with ⟨number, eager, rfl, stepped⟩ | ⟨-, incident⟩
    · obtain ⟨task, mid, task', found, -, taken, after⟩ := step_advance stepped
      exact .inl ⟨number, eager, task, mid, task', rfl, found, taken, same.trans after,
        by simp only [watch, found, taken]⟩
    · cases move with
      | step number eager =>
        -- A step that is not possible is an incident that changes nothing.
        cases stepped : w.step c eager number with
        | none =>
          refine .inr ⟨?_, .inl ⟨_, rfl, incident⟩⟩
          simp only [watch]
          split
          · rfl
          · rename_i task found
            split
            · rfl
            · rename_i taken
              simp [step, found, taken] at stepped
        | some after =>
          obtain ⟨task, mid, task', found, -, taken, rfl⟩ := step_advance stepped
          refine .inl ⟨number, eager, task, mid, task', rfl, found, taken, ?_, ?_⟩
          · rw [same, act, stepped]
            rfl
          · simp only [watch, found, taken]
      | _ => exact .inr ⟨rfl, .inl ⟨_, rfl, incident⟩⟩
  · refine .inr ⟨?_, .inr approach⟩
    cases happening with
    | move move => exact absurd rfl (other move)
    | _ => rfl

theorem mentions_lapse (task : Task) : task.lapse.mentions = task.mentions := by
  cases task with
  | change change scope phase => cases phase <;> rfl
  | _ => rfl

theorem holds_lapse (task : Task) : task.lapse.holds = task.holds := by
  cases task <;> rfl

theorem waits_lapse {task : Task} {q : Preparation} (waits : task.lapse.waits? = some q) :
    ∃ p, task.waits? = some p ∧ q.snapshot = p.snapshot := by
  cases task with
  | change change scope phase =>
    cases phase with
    | turn => cases waits
    | waiting p =>
      cases waits
      exact ⟨p, rfl, rfl⟩
  | _ => exact ⟨q, waits, rfl⟩

/-- All that is spoken of exists, and every snapshot counts its holders. -/
structure Kept (w : Workspace) : Prop where
  anchored : Anchored w
  custody : Custody w

theorem Approach.kept {happening : Happening} (approach : Approach w happening w')
    (kept : Kept w) : Kept w' ∧ Extends w w' := by
  cases approach with
  | refused => exact ⟨kept, .refl w⟩
  | @seek seq scope first referred =>
    have longer := Extends.acquire w seq
    have held := kept.custody.holder_of_isReferred referred
    refine ⟨⟨(kept.anchored.acquire seq).spawn fun other spoken => ?_,
      (kept.custody.acquire held).spawn rfl rfl⟩, longer.trans (.spawn _ _)⟩
    obtain rfl := List.mem_singleton.mp spoken
    exact longer.within (within_of_isReferred referred)
  | @lapse number task found =>
    refine ⟨⟨kept.anchored.setTask number ?_,
      kept.custody.setTask found (holds_lapse task) fun q => waits_lapse⟩, .of_eq rfl rfl rfl⟩
    rw [mentions_lapse]
    exact kept.anchored.tasks task (List.mem_of_getElem? found)

theorem Kept.undergo (kept : Kept w) (happening : Happening) :
    Kept (w.undergo c happening) ∧ Extends w (w.undergo c happening) := by
  rcases undergo_cases c w happening with ⟨move, -, same⟩ | ⟨-, approach⟩
  · rw [same]
    obtain ⟨anchored, longer⟩ := act_spec (c := c) kept.anchored move
    exact ⟨⟨anchored, kept.custody.act kept.anchored move⟩, longer⟩
  · exact approach.kept kept

theorem fresh_kept (names : Nat → String) (supported : Bool) (limit : Nat) :
    Kept (fresh names supported limit) :=
  ⟨fresh_anchored names supported limit, fresh_custody names supported limit⟩

theorem Kept.course (kept : Kept w) (happenings : List Happening) : Kept (w.course c happenings) := by
  induction happenings generalizing w with
  | nil => exact kept
  | cons happening rest ih => exact ih (kept.undergo happening).1

end Workspace

end PolicyServer
