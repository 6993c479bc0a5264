import PolicyServer.Proofs.Workspace.Numbering
import PolicyServer.Proofs.Workspace.Standstill

/-! A workspace that leaves: once it has agreed to shut down, it comes to a standstill only when all is
let go of, or somebody waits for the editor or holds a snapshot from outside. -/

namespace PolicyServer

namespace Workspace

variable {c : Collaborators} {eager : Bool} {w w' : Workspace} {number : Nat} {task task' : Task}

theorem Incident.gone {move : Move} (incident : Incident w move w')
    (stage : w.lifecycle = .shutDown) (gone : w.current = none) : w'.current = none := by
  cases incident with
  | enter =>
    simp only [enterSession, stage]
    exact gone
  | endScope _ scope => cases scope <;> exact gone
  | openView _ created =>
    rw [stage] at created
    cases created
  | @beginPass seq => exact (beginPass_frame (w.acquire seq) seq).1.trans gone
  | keep name => exact (letGo_frame _ name).2.2.trans gone
  | clone name => exact (letGo_frame _ name).2.2.trans gone
  | acquire name => exact (letGo_frame _ name).2.2.trans gone
  | letGo name => exact (letGo_frame _ name).2.2.trans gone
  | _ => exact gone

theorem Advance.gone (advance : Advance c w task w' task') (sound : Sound w)
    (found : w.tasks[number]? = some task) (gone : w.current = none) : w'.current = none := by
  have current : ∀ {standing : Standing}, w'.standing = standing → w'.current = standing.current :=
    congrArg Standing.current
  cases advance.renewal (sound.anchored.tasks task (List.mem_of_getElem? found)) with
  | still same => exact (current same).trans gone
  | begins _ here =>
    rw [gone] at here
    cases here
  | makes before =>
    -- Whoever makes a change makes it to the current snapshot.
    obtain ⟨p, waits, -⟩ := waits_of_target before
    have here := (sound.custody.gated.busy found waits).2
    rw [gone] at here
    cases here
  | stops _ _ same => exact (current same).trans gone
  | leaves _ _ _ same => exact current same

/--
A workspace that has agreed to shut down.

Its view has stopped, if it ever had one, and has let go of its snapshot unless the task of that number
is still to see to it.
-/
structure Leaving (w : Workspace) (number : Nat) : Prop where
  stage : w.lifecycle = .shutDown
  halted : w.stopped = true ∨ w.snapshots = []
  view : w.tasks[number]? = some (.shutdown .releasing) ∨ w.current = none

theorem leaving_of_accept (anchored : Anchored w)
    (found : w.tasks[number]? = some (.shutdown .telling))
    (stage : w.lifecycle = .initializing ∨ w.lifecycle = .initialized) (eager : Bool) :
    Leaving (w.act c (.step number eager)) number := by
  have within := (List.getElem?_eq_some_iff.mp found).1
  rcases stage with stage | stage
  · -- Before the session is entered there is no snapshot, and so no view.
    have empty := anchored.early stage
    simp only [act, step, found, stepTask, stepShutdown, stage, Option.bind_eq_bind,
      Option.bind_some, Option.getD_some]
    refine ⟨rfl, .inr empty, .inr ?_⟩
    cases here : w.current with
    | none => rfl
    | some seq =>
      have exist := anchored.current seq here
      simp [empty] at exist
  · simp only [act, step, found, stepTask, stepShutdown, stage, Option.bind_eq_bind,
      Option.bind_some, Option.getD_some]
    exact ⟨rfl, .inl rfl, .inl (by simp [within, endScope])⟩

theorem Leaving.act (leaving : Leaving w number) (sound : Sound w) (move : Move) :
    Leaving (w.act c move) number := by
  have onward := act_onward (c := c) w move
  have stage := onward.stage
  rw [leaving.stage] at stage
  refine ⟨eq_shutDown_of_rank stage, ?_, ?_⟩
  · rcases leaving.halted with stopped | empty
    · exact .inl ((act_spec sound.anchored move).2.stopped stopped)
    · -- Where there is no snapshot the workspace has settled, and none is made.
      have idle := sound.custody.balanced.idle_of_empty empty
      have length := (Settled.act (c := c) ⟨leaving.stage, idle⟩ sound move).2.snapshots
      rw [empty] at length
      exact .inr (List.eq_nil_of_length_eq_zero length)
  · rcases leaving.view with releasing | gone
    · by_cases mine : move.stepped? = some number
      · cases move with
        | step other eager =>
          cases mine
          simp only [Workspace.act]
          cases stepped : w.step c eager number with
          | none => exact .inl releasing
          | some after =>
            -- The view lets go of its snapshot.
            obtain ⟨task, mid, task', found, advance, -, rfl⟩ := step_advance stepped
            obtain rfl := Option.some.inj (found.symm.trans releasing)
            cases advance with
            | shutdownReleased released =>
              exact .inr (congrArg Standing.current (standing_releaseCurrent released))
        | _ => cases mine
      · exact .inl (onward.waits mine rfl releasing)
    · rcases act_cases c w move with ⟨other, eager, rfl, stepped⟩ | ⟨-, incident⟩
      · obtain ⟨task, mid, task', found, advance, -, same⟩ := step_advance stepped
        rw [same]
        exact .inr (advance.gone sound found gone)
      · exact .inr (incident.gone leaving.stage gone)

/--
A request to shut down that has come once the session had begun.

It is yet to be dealt with, it has been answered, or the workspace leaves on its account.
-/
inductive Petition (w : Workspace) (number : Nat) : Prop where
  | told (found : w.tasks[number]? = some (.shutdown .telling))
      (begun : Lifecycle.initializing.rank ≤ w.lifecycle.rank) : Petition w number
  | answered {outcome : Except Rpc.Error Json}
      (complete : w.tasks[number]? = some (.finished (.reply outcome))) : Petition w number
  | accepted (closing : Closing w number) (leaving : Leaving w number) : Petition w number

theorem petition_of_step (sound : Sound w) (found : w.tasks[number]? = some (.shutdown .telling))
    (begun : Lifecycle.initializing.rank ≤ w.lifecycle.rank) (eager : Bool) :
    Petition (w.act c (.step number eager)) number := by
  have accepts (stage : w.lifecycle = .initializing ∨ w.lifecycle = .initialized) :
      Petition (w.act c (.step number eager)) number :=
    .accepted (closing_of_accept found stage eager) (leaving_of_accept sound.anchored found stage eager)
  cases stage : w.lifecycle with
  | created => simp [stage, Lifecycle.rank] at begun
  | initializing => exact accepts (.inl stage)
  | initialized => exact accepts (.inr stage)
  | shutDown =>
    -- Another request came first, so that nothing is left to be done.
    have within := (List.getElem?_eq_some_iff.mp found).1
    simp only [Workspace.act, step, found, stepTask, stepShutdown, stage, Option.bind_eq_bind,
      Option.bind_some, Option.getD_some]
    exact .answered (by simp [within]; rfl)

theorem Petition.act (petition : Petition w number) (sound : Sound w) (move : Move) :
    Petition (w.act c move) number := by
  have onward := act_onward (c := c) w move
  cases petition with
  | told found begun =>
    by_cases mine : move.stepped? = some number
    · cases move with
      | step other eager =>
        cases mine
        exact petition_of_step sound found begun eager
      | _ => cases mine
    · exact .told (onward.waits mine rfl found) (Nat.le_trans begun onward.stage)
  | answered complete =>
    by_cases mine : move.stepped? = some number
    · cases move with
      | step other eager =>
        cases mine
        simp only [Workspace.act]
        cases stepped : w.step c eager number with
        | none => exact .answered complete
        | some after =>
          -- A task that is over does not go on.
          obtain ⟨task, mid, task', found, advance, -, -⟩ := step_advance stepped
          obtain rfl := Option.some.inj (found.symm.trans complete)
          cases advance
      | _ => cases mine
    · exact .answered (onward.waits mine rfl complete)
  | accepted closing leaving => exact .accepted (closing.act sound move) (leaving.act sound move)

theorem Petition.play (petition : Petition w number) (sound : Sound w) {moves : List Move}
    (ours : ∀ move ∈ moves, move.isOfSession = true) : Petition (w.play c moves) number := by
  induction moves generalizing w with
  | nil => exact petition
  | cons move rest ih =>
    exact ih (petition.act sound move) (sound.act (ours move List.mem_cons_self))
      fun other member => ours other (List.mem_cons_of_mem _ member)

/-! ### At a standstill -/

theorem Task.waits_of_search (idle : task.search? = none) : task.waits? = none := by
  cases task <;> first | rfl | exact idle

theorem Standstill.unchanging (turn : InTurn w .snapshot)
    (idle : ∀ task ∈ w.tasks, task.search? = none) : w.changing = false := by
  refine turn.free fun task member => ?_
  simp [Task.hasTurn, Task.waits_of_search (idle task member)]

theorem Standstill.no_releasing (still : Standstill c w) (free : w.changing = false) :
    w.tasks[number]? ≠ some (.shutdown .releasing) := by
  intro releasing
  have stuck := still.stepTask_eq_none (List.mem_of_getElem? releasing)
  simp only [stepTask, stepShutdown, Option.map_eq_none_iff, releaseCurrent, free,
    Bool.false_eq_true, if_false] at stuck
  cases here : w.current <;> simp [here] at stuck

theorem Custody.idle_of_nobody (custody : Custody w) (nobody : w.holders = []) : w.live = 0 := by
  rw [custody.balanced.live, List.countP_eq_zero]
  intro count member
  obtain ⟨seq, found⟩ := List.mem_iff_getElem?.mp member
  have refs := custody.balanced.refs seq
  simp only [refsOf, found, Option.getD_some, nobody, List.count_nil] at refs
  simp [refs]

theorem Petition.replied (petition : Petition w number) (still : Standstill c w)
    (sound : Sound w) (attempted : Attempted w) (turns : ∀ turn, InTurn w turn)
    (heard : w.awaited = []) (outside : w.heldOutside = []) :
    ∃ outcome, w.tasks[number]? = some (.finished (.reply outcome)) := by
  cases petition with
  | answered complete => exact ⟨_, complete⟩
  | told found =>
    have stuck := still.stepTask_eq_none (List.mem_of_getElem? found)
    simp only [stepTask, stepShutdown] at stuck
    split at stuck <;> cases stuck
  | accepted closing leaving =>
    have idle : ∀ task ∈ w.tasks, task.search? = none := fun task member =>
      still.no_search sound.anchored attempted (turns .resolver) member
    have free := Standstill.unchanging (turns .snapshot) idle
    -- Where there ever was a view it has stopped, and only those outside can hold a snapshot.
    have unused : w.live = 0 := by
      rcases leaving.halted with stopped | empty
      · have gone : w.current = none := leaving.view.resolve_left (still.no_releasing free)
        refine sound.custody.idle_of_nobody ?_
        rw [still.holders_eq stopped gone idle turns heard, outside]
      · exact sound.custody.balanced.idle_of_empty empty
    rcases closing.task with releasing | idling | ⟨complete, -⟩
    · exact absurd releasing (still.no_releasing free)
    · have stuck := still.stepTask_eq_none (List.mem_of_getElem? idling)
      simp [stepTask, stepShutdown, unused] at stuck
    · exact complete

theorem Custody.unheld (custody : Custody w) (idle : w.live = 0) :
    w.awaited = [] ∧ w.heldOutside = [] := by
  refine ⟨List.filterMap_eq_nil_iff.mpr fun task member => ?_, ?_⟩
  · -- A pass holds its snapshot to its end.
    have apart := custody.no_pass idle task member
    cases task <;> first | rfl | cases apart
  · simp only [heldOutside, List.append_eq_nil_iff, List.flatMap_eq_nil_iff]
    refine ⟨by simp [custody.unnamed idle], fun task member => ?_⟩
    obtain ⟨number, found⟩ := List.mem_iff_getElem?.mp member
    have empty := custody.holds_nothing idle found
    cases task with
    | finished done => cases done <;> first | rfl | cases empty
    | _ => rfl

end Workspace

end PolicyServer
