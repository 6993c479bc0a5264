import PolicyServer.Proofs.Workspace.Documents
import PolicyServer.Proofs.Workspace.Invocation

/-! Snapshots and passes succeed each other: each change makes the next snapshot, each save the next
pass, and each pass invokes the runner at most once. -/

namespace PolicyServer.Workspace

variable {c : Collaborators} {w : Workspace} {made : List Installation}

theorem isSuperseded_eq_flag (running : w.stopped = false) {seq : Nat} {flag : Bool}
    (found : w.flags[seq]? = some flag) : w.isSuperseded seq = flag := by
  rw [flags, List.getElem?_map] at found
  obtain ⟨snapshot, there, rfl⟩ := Option.map_eq_some_iff.mp found
  simp [isSuperseded, running, there]

theorem Numbered.length_eq (numbered : Numbered w made) (opened : w.snapshots ≠ []) :
    w.snapshots.length = made.length + 1 := by
  rcases numbered.count with ⟨empty, -⟩ | count
  · exact absurd (List.map_eq_nil_iff.mp empty) opened
  · rwa [length_flags] at count

theorem Numbered.current_eq (numbered : Numbered w made) (running : w.stopped = false)
    (opened : w.snapshots ≠ []) : w.current = some made.length := by
  cases here : w.current with
  | none =>
    -- Only a view that has stopped, or was not opened, has no snapshot.
    rcases numbered.present here with empty | stopped
    · exact absurd (List.map_eq_nil_iff.mp empty) opened
    · rw [running] at stopped
      cases stopped
  | some seq =>
    have last := numbered.current seq here
    rw [length_flags, numbered.length_eq opened] at last
    exact congrArg some (Nat.succ.inj last).symm

theorem Numbered.current_goes_on (numbered : Numbered w made) (running : w.stopped = false)
    (idle : w.targets = []) {seq : Nat} (here : w.current = some seq) :
    w.isSuperseded seq = false := by
  have within : seq < w.flags.length := by
    have last := numbered.current seq here
    omega
  have found := List.getElem?_eq_getElem within
  rw [isSuperseded_eq_flag running found]
  -- A flag that is set tells of a change that has its turn.
  cases flag : w.flags[seq] with
  | false => rfl
  | true =>
    rw [flag] at found
    exact absurd idle (numbered.fresh seq here found)

theorem Numbered.former_ended (numbered : Numbered w made) (running : w.stopped = false) {seq : Nat}
    {installation : Installation} (replaced : made[seq]? = some installation) :
    w.isSuperseded seq = installation.change.save := by
  have within := (List.getElem?_eq_some_iff.mp replaced).1
  apply isSuperseded_eq_flag running
  calc w.flags[seq]? = (w.flags.take made.length)[seq]? := (List.getElem?_take_of_lt within).symm
    _ = (made.map (·.change.save))[seq]? := by rw [numbered.ended]
    _ = some installation.change.save := by rw [List.getElem?_map, replaced]; rfl

/--
Snapshots and passes succeed each other.

However changes overlap, those that are made install the snapshots 1, 2, 3 and so on, each in place of
the one before. Until the view stops, the last of them is current; its work goes on unless a change has
its turn, and that of a former one has ended just where a save replaced it. No pass invokes the runner
twice.

In a server, the first pass is over the first snapshot and each further one over the snapshot that a
save made; a change was a save just where its notification was one.
-/
theorem snapshots_and_passes_succeed (c : Collaborators) (names : Nat → String) (supported : Bool)
    (limit : Nat) (happenings : List Happening) :
    let start := fresh names supported limit
    let w := start.course c happenings
    let made := trace (undergo c) (watch installations c) start happenings
    let invoked := trace (undergo c) (watch invocations c) start happenings
    let heard := trace (undergo c) hearing start happenings
    (made.map (·.seq) = List.range' 1 made.length ∧
      made.map (·.previous) = List.range made.length ∧
      (w.snapshots ≠ [] → w.snapshots.length = made.length + 1)) ∧
    (w.stopped = false →
      (w.snapshots ≠ [] → w.current = some made.length) ∧
      (w.targets = [] → ∀ seq, w.current = some seq → w.isSuperseded seq = false) ∧
      ∀ seq installation, made[seq]? = some installation →
        w.isSuperseded seq = installation.change.save) ∧
    (w.runs = invoked.length ∧ (∀ pass ∈ invoked, pass < w.passes.length) ∧ invoked.Nodup) ∧
    ((∀ happening ∈ happenings, happening.isOfServer = true) → w.snapshots ≠ [] →
      w.passes.map (·.snapshot) = 0 :: (made.filter (·.change.save)).map (·.seq) ∧
      made.map (·.change.save) = (heard.take made.length).map News.isSave) := by
  intro start w made invoked heard
  have numbered := course_numbered (c := c) names supported limit happenings
  have runs := course_invoked (c := c) names supported limit happenings
  refine ⟨⟨numbered.seqs, numbered.formers, numbered.length_eq⟩,
    fun running => ⟨fun opened => ?_, fun idle seq here => ?_, fun seq installation replaced => ?_⟩,
    ⟨runs.counted, runs.known, runs.once⟩, fun ours opened => ?_⟩
  · exact numbered.current_eq running opened
  · exact numbered.current_goes_on running idle here
  · exact numbered.former_ended running replaced
  · have recorded := course_recorded (c := c) names supported limit happenings ours
    have followed := recorded.followed (List.length_pos_iff.mpr opened)
    exact ⟨followed.passes, followed.saves⟩

/-- An editor that opens one document and saves another: the save ends the work of the snapshot before
it, and begins the second pass. -/
theorem save_begins_second_pass :
    let start := fresh (fun _ => "") false 1
    let w := start.course readyCollaborators savingCourse
    let made := trace (undergo readyCollaborators) (watch installations readyCollaborators) start
      savingCourse
    (∀ happening ∈ savingCourse, happening.isOfServer = true) ∧ w.stopped = false ∧
      w.targets = [] ∧ w.current = some 2 ∧
      (∀ seq installation, made[seq]? = some installation →
        w.isSuperseded seq = installation.change.save) ∧
      w.isSuperseded 2 = false ∧ (made.filter (·.change.save)).map (·.seq) = [2] := by
  intro start w made
  -- The course is evaluated once, for all that is to be read off it.
  obtain ⟨ours, running, idle, opened, count, passes⟩ :
      (∀ happening ∈ savingCourse, happening.isOfServer = true) ∧ w.stopped = false ∧
        w.targets.length = 0 ∧ w.snapshots.length = 3 ∧ made.length = 2 ∧
        w.passes.map (·.snapshot) = [0, 2] := by decide +kernel
  have idle : w.targets = [] := List.eq_nil_of_length_eq_zero idle
  have opened : w.snapshots ≠ [] := List.ne_nil_of_length_pos (by rw [opened]; decide)
  obtain ⟨-, standing, -, session⟩ := snapshots_and_passes_succeed readyCollaborators (fun _ => "")
    false 1 savingCourse
  obtain ⟨last, fresh, former⟩ := standing running
  have current : w.current = some 2 := count ▸ last opened
  have begun := (session ours opened).1
  exact ⟨ours, running, idle, current, former, fresh idle 2 current,
    (List.cons.inj (begun.symm.trans passes)).2⟩

end PolicyServer.Workspace
