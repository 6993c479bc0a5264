import PolicyServer.Proofs.Workspace.Worker

/-! The documents of a session follow from the editor's notifications, in the order of their arrival. -/

namespace PolicyServer.Workspace

variable {c : Collaborators} {w w' : Workspace} {task task' : Task} {heard : List News}
  {read : List Disk} {made : List Installation}

/-! ### What is in a snapshot -/

theorem ChangeAdvance.contents_made {change : StateChange} {scope : Scope} {phase : ChangePhase}
    {seq : Nat} (advance : ChangeAdvance c w change scope phase w' (.installed seq))
    (within : ∀ p ∈ phase.search?, p.snapshot < w.snapshots.length) :
    ∃ files ∈ w.contents, w'.contents = w.contents ++ [change.files.foldl FileMap.apply files] := by
  obtain ⟨-, p, rfl, made⟩ := advance.desk_made
  have there : p.snapshot < w.contents.length := length_contents w ▸ within p rfl
  exact ⟨_, List.getElem_mem there,
    congrArg Desk.contents (made _ (List.getElem?_eq_getElem there))⟩

theorem Advance.contents_cases (advance : Advance c w task w' task')
    (spoken : ∀ seq ∈ task.mentions, seq < w.snapshots.length) :
    w'.contents = w.contents ∨ ∃ change : StateChange, ∃ files ∈ w.contents,
      w'.contents = w.contents ++ [change.files.foldl FileMap.apply files] := by
  -- Only the worker and callers of the view make changes, in the same way.
  cases maker : task.writer? with
  | none => exact .inl (congrArg Desk.contents (advance.lull maker).1.desk)
  | some writer =>
    cases task with
    | documents phase =>
      rcases advance.worker_cases with still | ⟨change, p, seq, mid, rfl, -, step, rfl⟩
      · exact .inl still.contents
      · have after : (mid.afterChange change seq).contents = mid.contents :=
          congrArg Desk.contents (desk_afterChange mid change seq)
        rw [after]
        exact .inr ⟨change, step.contents_made fun q same => by
          cases same
          exact spoken _ List.mem_cons_self⟩
    | change change scope phase =>
      cases advance with
      | changeWaits step => exact .inl (congrArg Desk.contents step.desk_waits.1)
      | changeRefused step =>
        cases step
        exact .inl rfl
      | changeInstalled step =>
        refine .inr ⟨change, step.contents_made fun q same => ?_⟩
        cases phase with
        | turn => cases same
        | waiting p =>
          cases same
          exact spoken _ List.mem_cons_self
    | _ => cases maker

theorem Incident.contents_cases {move : Move} (incident : Incident w move w') :
    w'.contents = w.contents ∨ w'.contents = [[]] := by
  -- Besides the view that is opened, only references and tasks are touched.
  cases incident with
  | enter =>
    unfold enterSession
    split
    · exact .inr (congrArg Desk.contents (desk_beginPass _ 0))
    · exact .inl rfl
  | endScope _ scope => exact .inl (congrArg Desk.contents (desk_endScope w scope))
  | openView name => exact .inr (congrArg Desk.contents (desk_hold _ name 0))
  | @beginPass seq message =>
    have begun : ((w.acquire seq).beginPass seq).contents = (w.acquire seq).contents :=
      congrArg Desk.contents (desk_beginPass _ seq)
    exact .inl (begun.trans (congrArg Desk.contents (desk_acquire w seq)))
  | observe => exact .inl (congrArg Desk.contents (desk_acquire w _))
  | keep name => exact .inl (congrArg Desk.contents (desk_hold _ name _))
  | clone name =>
    exact .inl (congrArg Desk.contents ((desk_hold _ name _).trans (desk_acquire w _)))
  | acquire name =>
    exact .inl (congrArg Desk.contents ((desk_hold _ name _).trans (desk_acquire w _)))
  | letGo name => exact .inl (congrArg Desk.contents (desk_letGo w name))
  | _ => exact .inl rfl

theorem Approach.contents_eq {happening : Happening} (approach : Approach w happening w') :
    w'.contents = w.contents := by
  cases approach with
  | refused => rfl
  | seek => exact congrArg Desk.contents (desk_acquire w _)
  | lapse => rfl

theorem undergo_sound (kept : Kept w) (sound : ∀ files ∈ w.contents, FileMap.Sound files)
    (happening : Happening) : ∀ files ∈ (w.undergo c happening).contents, FileMap.Sound files := by
  rcases undergo_cases c w happening with ⟨move, -, same⟩ | ⟨-, approach⟩
  · rw [same]
    rcases act_cases c w move with ⟨number, eager, rfl, stepped⟩ | ⟨-, incident⟩
    · obtain ⟨task, mid, task', found, advance, -, after⟩ := step_advance stepped
      rw [after]
      rcases advance.contents_cases (kept.anchored.tasks task (List.mem_of_getElem? found)) with
        same | ⟨change, former, there, grown⟩
      · exact same ▸ sound
      · -- Taking in versions keeps what was taken in before.
        intro files member
        rcases List.mem_append.mp (grown ▸ member) with old | new
        · exact sound files old
        · rw [List.mem_singleton.mp new]
          exact (sound former there).applyAll change.files
    · rcases incident.contents_cases with same | first
      · exact same ▸ sound
      · rw [first]
        intro files member
        rw [List.mem_singleton.mp member]
        exact fun entry none => absurd none (List.not_mem_nil)
  · exact approach.contents_eq ▸ sound

theorem course_sound (kept : Kept w) (sound : ∀ files ∈ w.contents, FileMap.Sound files)
    (happenings : List Happening) :
    ∀ files ∈ (w.course c happenings).contents, FileMap.Sound files := by
  induction happenings generalizing w with
  | nil => exact sound
  | cons happening rest ih =>
    exact ih (kept.undergo happening).1 (undergo_sound kept sound happening)

/-- Holds once the worker has nothing to do and nothing waits for it. -/
def isDrained (w : Workspace) : Bool :=
  w.documents.isEmpty && w.writers.all fun
    | .worker .idle => true
    | _ => false

theorem Followed.drained (followed : Followed w heard read made) (drained : w.isDrained = true)
    (there : w.current ≠ none) :
    heard.length = made.length ∧ read.length = made.length := by
  obtain ⟨files, inHand, waiting, -, rest, queue, doing⟩ := followed.atWork there
  rw [isDrained, Bool.and_eq_true, List.isEmpty_iff] at drained
  obtain ⟨empty, idle⟩ := drained
  have none : waiting = [] := by
    rw [empty] at queue
    exact List.map_eq_nil_iff.mp queue.symm
  -- A worker that is idle or gone has nothing in hand, and read nothing ahead.
  have free : inHand = [] ∧ read.drop made.length = [] := by
    generalize looked : read.drop made.length = seen at doing
    generalize w.writers = writers at doing idle
    cases doing <;> first | exact ⟨rfl, rfl⟩ | simp at idle
  have enough := followed.enough
  have short : heard.drop made.length = [] := by rw [rest, free.1, none]; rfl
  exact ⟨Nat.le_antisymm (List.drop_eq_nil_iff.mp short) enough.1,
    Nat.le_antisymm (List.drop_eq_nil_iff.mp free.2) enough.2⟩

theorem Recorded.followed (recorded : Recorded w heard read made) {seq : Nat}
    (within : seq < w.snapshots.length) :
    Followed w heard read made := by
  rcases recorded with unopened | followed
  · have none : w.contents = [] := congrArg Desk.contents unopened.desk
    rw [← length_contents, none] at within
    cases within
  · exact followed

theorem Recorded.filesOf (recorded : Recorded w heard read made) {seq : Nat}
    (within : seq < w.snapshots.length) (uri : DocumentUri) :
    (w.filesOf seq).get? uri.text =
      News.documentAfter ((heard.take seq).zip (read.take seq)) uri := by
  have found := List.getElem?_eq_getElem (length_contents w ▸ within)
  rw [filesOf_eq, found]
  exact (recorded.followed within).files seq _ found uri

/--
Documents follow from the editor's notifications, in the order of their arrival.

Whatever happens to a workspace, a document in any of its snapshots has content and stands under its own
name. In a server, each snapshot has what as many notifications as it has a number make of every
document. Once the worker has nothing left to do, the current one has what all of them make of it, each
read at its own moment.
-/
theorem documents_follow_notifications (c : Collaborators) (names : Nat → String) (supported : Bool)
    (limit : Nat) (happenings : List Happening) :
    let start := fresh names supported limit
    let w := start.course c happenings
    let heard := trace (undergo c) hearing start happenings
    let read := trace (undergo c) (watch looks c) start happenings
    (∀ snapshot ∈ w.snapshots, ∀ entry ∈ snapshot.files,
      entry.2.isPresent = true ∧ entry.1 = entry.2.uri.text) ∧
    ((∀ happening ∈ happenings, happening.isOfServer = true) →
      (∀ seq < w.snapshots.length, ∀ uri : DocumentUri,
        (w.filesOf seq).get? uri.text =
          News.documentAfter ((heard.take seq).zip (read.take seq)) uri) ∧
      (w.isDrained = true → ∀ seq, w.current = some seq →
        heard.length = seq ∧ read.length = seq ∧ ∀ uri : DocumentUri,
          (w.filesOf seq).get? uri.text = News.documentAfter (heard.zip read) uri)) := by
  intro start w heard read
  have kept := fresh_kept names supported limit
  refine ⟨fun snapshot member => ?_, fun ours => ?_⟩
  · have sound := course_sound (c := c) kept (by simp [contents, fresh, spawn]) happenings
    exact sound snapshot.files (List.mem_map_of_mem member)
  · have recorded := course_recorded (c := c) names supported limit happenings ours
    have numbered := course_numbered (c := c) names supported limit happenings
    refine ⟨fun seq within uri => recorded.filesOf within uri, fun drained seq current => ?_⟩
    have within := (kept.course (c := c) happenings).anchored.current seq current
    have followed := recorded.followed within
    -- With nothing left to do, all that was heard is what the current snapshot was made of.
    obtain ⟨all, looked⟩ := followed.drained drained (by rw [current]; simp)
    rw [← followed.current_eq numbered current] at all looked
    refine ⟨all, looked, fun uri => ?_⟩
    rw [recorded.filesOf within uri, List.take_of_length_le (Nat.le_of_eq all),
      List.take_of_length_le (Nat.le_of_eq looked)]

/-- Collaborators that answer at once: a runner is there, and finds nothing. -/
def readyCollaborators : Collaborators where
  resolve _ _ := ⟨0, false, none⟩
  run _ := ⟨0, false, .ok []⟩

/-- An editor opens one document and saves another, which is on disk; the worker takes in both. -/
def savingCourse : List Happening :=
  ([.store ⟨[(["w", "b"].map Bytes.ofText, .file (Bytes.ofText "hi"))]⟩,
    .handshake { rootUri := some ⟨"file:///w"⟩ }, .hear .initialized,
    .hear (.opened { uri := ⟨"file:///w/a"⟩, version := 7, text := "x" }),
    .hear (.saved ⟨"file:///w/b"⟩ none)] ++
    -- The runner is found first, and then each notification takes nine steps.
    ([1, 1] ++ List.replicate 18 2).map fun number => .step number true).map .move

/-- A document that was saved without its text has what lies on disk, and one that was opened what came
with it. -/
theorem saved_document_is_read :
    let start := fresh (fun _ => "") false 1
    let w := start.course readyCollaborators savingCourse
    let heard := trace (undergo readyCollaborators) hearing start savingCourse
    let read := trace (undergo readyCollaborators) (watch looks readyCollaborators) start savingCourse
    (∀ happening ∈ savingCourse, happening.isOfServer = true) ∧ w.isDrained = true ∧
      heard.length = 2 ∧
      ((News.documentAfter (heard.zip read) ⟨"file:///w/a"⟩).map (·.version) = some 7) ∧
      ((News.documentAfter (heard.zip read) ⟨"file:///w/b"⟩).bind (·.content.toOption) =
        some (Bytes.ofText "hi")) := by
  intro start w heard read
  -- The course is evaluated once, for all that is to be read off it.
  obtain ⟨ours, drained, current, opened, saved⟩ :
      (∀ happening ∈ savingCourse, happening.isOfServer = true) ∧ w.isDrained = true ∧
        w.current = some 2 ∧ ((w.filesOf 2).get? "file:///w/a").map (·.version) = some 7 ∧
        ((w.filesOf 2).get? "file:///w/b").bind (·.content.toOption) = some (Bytes.ofText "hi") := by
    decide +kernel
  obtain ⟨-, followed⟩ := documents_follow_notifications readyCollaborators (fun _ => "") false 1
    savingCourse
  obtain ⟨all, -, documents⟩ := (followed ours).2 drained 2 current
  exact ⟨ours, drained, all, documents ⟨"file:///w/a"⟩ ▸ opened, documents ⟨"file:///w/b"⟩ ▸ saved⟩

end PolicyServer.Workspace
