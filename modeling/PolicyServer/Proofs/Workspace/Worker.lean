import Mathlib.Data.List.Induction
import PolicyServer.Proofs.Workspace.Desk

/-! The worker of a session takes in what the editor tells of documents, one notification after the
other. -/

namespace PolicyServer.Workspace

variable {c : Collaborators} {eager : Bool} {w w' : Workspace} {number : Nat} {task task' : Task}
  {news : News}

/-! ### What is heard and what is read -/

def hearing (w : Workspace) : Happening → List News
  | .move (.hear news) => if w.lifecycle = .initialized ∧ news.about? ≠ none then [news] else []
  | _ => []

def looks (w : Workspace) (before : Task) (_ : Workspace) (_ : Task) : List Disk :=
  match before with
  | .documents (.reading _ _ _ (_ :: _)) => [w.disk]
  | _ => []

theorem hear_of_about {uri : DocumentUri} (about : news.about? = some uri) :
    w.hear news =
      if w.lifecycle = .initialized then { w with documents := w.documents ++ [news.batch] }
      else w := by
  -- Each notification is queued as the one change that it asks for.
  cases news with
  | initialized => cases about
  | exit => cases about
  | cancelWork token => cases about
  | changed document changes =>
    cases last : changes.getLast? with
    | none =>
      rw [List.getLast?_eq_none_iff.mp last] at about
      cases about
    | some change =>
      simp only [hear, last, News.batch]
      rfl
  | _ => rfl

theorem Lull.hear (about : news.about? = none) (other : news ≠ .initialized) :
    Lull w (w.hear news) := by
  cases news with
  | initialized => exact absurd rfl other
  | exit => exact .of_eq rfl rfl rfl rfl
  | cancelWork token =>
    simp only [Workspace.hear, cancelWork]
    split
    · exact .endScope w _
    · exact .refl w
  | changed document changes =>
    -- Without any change nothing is queued.
    cases changes with
    | nil => exact .refl w
    | cons first rest => cases about
  | _ => cases about

/-! ### How far the worker is -/

/--
What the worker has in hand: nothing, a notification, or one that the disk was read for.

`files` are the documents of the current snapshot, whose number is `seq`.
-/
inductive Doing (seq : Nat) (files : FileMap) : List News → List Disk → List Writer → Prop where
  | gone : Doing seq files [] [] []
  | idle : Doing seq files [] [] [.worker .idle]
  | marking (news : News) (rest : List Modification) :
    Doing seq files [news] [] [.worker (.marking news.batch rest)]
  | taking (news : News) : Doing seq files [news] [] [.worker (.taking news.batch)]
  | reading (news : News) :
    Doing seq files [news] [] [.worker (.reading news.batch seq [] news.batch)]
  | read (news : News) (disk : Disk) :
    Doing seq files [news] [disk] [.worker (.reading news.batch seq (news.handles disk files) [])]
  | changing (news : News) (disk : Disk) (phase : ChangePhase) :
    Doing seq files [news] [disk]
      [.worker (.changing ⟨news.handles disk files, isSave news.batch⟩ phase)]

/-- No session was entered, and nothing was heard. -/
structure Unopened (w : Workspace) (heard : List News) (read : List Disk) : Prop where
  stage : w.lifecycle ≠ .initialized
  desk : w.desk = ⟨[], [], []⟩
  writers : w.writers = []
  heard : heard = []
  read : read = []

/--
The worker follows what was heard.

Each snapshot has the documents that the notifications before it make, and a pass was begun over the
first one and over those that a save made. As long as there is a current snapshot, what is not in it
yet is in the worker's hand or waits in the queue.
-/
structure Followed (w : Workspace) (heard : List News) (read : List Disk)
    (made : List Installation) : Prop where
  single : w.writers = [] ∨ ∃ phase, w.writers = [.worker phase]
  about : ∀ news ∈ heard, news.about? ≠ none
  count : w.contents.length = made.length + 1
  enough : made.length ≤ heard.length ∧ made.length ≤ read.length
  files : ∀ seq files, w.contents[seq]? = some files → ∀ uri : DocumentUri,
    files.get? uri.text = News.documentAfter ((heard.take seq).zip (read.take seq)) uri
  saves : made.map (·.change.save) = (heard.take made.length).map News.isSave
  passes : w.desk.passes = 0 :: (made.filter (·.change.save)).map (·.seq)
  atWork : w.current ≠ none → ∃ files inHand waiting,
    w.contents[made.length]? = some files ∧ heard.drop made.length = inHand ++ waiting ∧
      w.documents = waiting.map News.batch ∧
      Doing made.length files inHand (read.drop made.length) w.writers

section

variable {heard waiting : List News} {read : List Disk} {made : List Installation} {seq : Nat}
  {files : FileMap} {phase : WorkerPhase}

theorem Unopened.lull (unopened : Unopened w heard read) (lull : Lull w w') :
    Unopened w' heard read :=
  ⟨fun begun => unopened.stage (lull.stage begun), lull.desk.trans unopened.desk,
    lull.writers.trans unopened.writers, unopened.heard, unopened.read⟩

theorem Followed.go (followed : Followed w heard read made) (told : List News) (more : List Disk)
    (about : ∀ news ∈ told, news.about? ≠ none)
    (contents : w'.contents = w.contents) (passes : w'.desk.passes = w.desk.passes)
    (single : w'.writers = [] ∨ ∃ phase, w'.writers = [.worker phase])
    (atWork : w'.current ≠ none → ∃ files inHand waiting,
      w.contents[made.length]? = some files ∧ (heard ++ told).drop made.length = inHand ++ waiting ∧
        w'.documents = waiting.map News.batch ∧
        Doing made.length files inHand ((read ++ more).drop made.length) w'.writers) :
    Followed w' (heard ++ told) (read ++ more) made where
  single := single
  about := List.forall_mem_append.mpr ⟨followed.about, about⟩
  count := contents ▸ followed.count
  enough := by
    have enough := followed.enough
    simp only [List.length_append]
    omega
  files := by
    intro seq files there uri
    rw [contents] at there
    -- What is heard and read now comes after all that the snapshots were made of.
    have within := (List.getElem?_eq_some_iff.mp there).1
    have count := followed.count
    have enough := followed.enough
    rw [List.take_append_of_le_length (by omega), List.take_append_of_le_length (by omega)]
    exact followed.files seq files there uri
  saves := by
    rw [List.take_append_of_le_length followed.enough.1]
    exact followed.saves
  passes := passes.trans followed.passes
  atWork := by
    rw [contents]
    exact atWork

theorem Followed.lull (followed : Followed w heard read made) (lull : Lull w w') :
    Followed w' heard read made := by
  have contents : w'.contents = w.contents := congrArg Desk.contents lull.desk
  have queue : w'.documents = w.documents := congrArg Desk.queue lull.desk
  rw [← List.append_nil heard, ← List.append_nil read]
  refine followed.go [] [] (by simp) contents (congrArg Desk.passes lull.desk)
    (lull.writers.symm ▸ followed.single) fun there => ?_
  rw [List.append_nil, List.append_nil, queue, lull.writers]
  -- Where there is a current snapshot now, there was the same one before.
  refine followed.atWork fun none => there ?_
  rcases lull.current with same | lost
  · exact same.trans none
  · exact lost

theorem Followed.hear (followed : Followed w heard read made) {uri : DocumentUri}
    (about : news.about? = some uri) :
    Followed { w with documents := w.documents ++ [news.batch] } (heard ++ [news]) read made := by
  rw [← List.append_nil read]
  refine followed.go [news] [] (by simp [about]) rfl rfl followed.single fun there => ?_
  obtain ⟨files, inHand, waiting, here, rest, queue, doing⟩ := followed.atWork there
  rw [List.append_nil, List.drop_append_of_le_length followed.enough.1, rest, List.append_assoc]
  exact ⟨files, inHand, waiting ++ [news], here, rfl, by simp [queue], doing⟩

theorem Unopened.enterSession (unopened : Unopened w heard read) (stage : w.lifecycle = .initializing) :
    Followed w.enterSession heard read [] := by
  obtain ⟨-, empty, none, rfl, rfl⟩ := unopened
  have queue : w.documents = [] := congrArg Desk.queue empty
  have passes : w.passes.map (·.snapshot) = [] := congrArg Desk.passes empty
  have desk : w.enterSession.desk = ⟨[], [[]], [0]⟩ := by
    rw [Workspace.enterSession, if_pos stage]
    refine (desk_beginPass _ 0).trans ?_
    simp [Workspace.desk, contents, openView, spawn, queue, passes]
  have writers : w.enterSession.writers = [.worker .idle] := by
    rw [Workspace.enterSession, if_pos stage]
    simp only [writers_spawn, writers_beginPass, openView]
    exact congrArg (· ++ [] ++ [Writer.worker .idle] ++ []) none
  have contents : w.enterSession.contents = [[]] := congrArg Desk.contents desk
  refine ⟨.inr ⟨.idle, writers⟩, by simp, by simp [contents], by simp, fun seq files there uri => ?_,
    rfl, by rw [desk]; rfl, fun _ => ⟨[], [], [], by simp [contents], rfl,
      congrArg Desk.queue desk, writers ▸ .idle⟩⟩
  -- There is but one snapshot yet, which has no documents.
  rw [contents] at there
  obtain ⟨within, here⟩ := List.getElem?_eq_some_iff.mp there
  have first : seq = 0 := by simpa using within
  subst first
  cases here
  rfl

/-! ### What the worker does -/

theorem readModified_eq (here : w.contents[seq]? = some files) (modification : Modification) :
    w.readModified seq modification =
      .resolve w.disk modification (files.get? modification.uri.text) := by
  rw [contents, List.getElem?_map] at here
  unfold readModified
  rw [here]
  rfl

/-- Holds for a step of the worker that makes no change: documents stay, and who is left of the task is
the worker. -/
structure Unmade (w : Workspace) (phase : WorkerPhase) (w' : Workspace) (task' : Task) : Prop where
  contents : w'.contents = w.contents
  passes : w'.desk.passes = w.desk.passes
  current : w'.current = w.current
  nothing : installations w (.documents phase) w' task' = []
  writer : task'.writer? = none ∨ ∃ phase', task'.writer? = some (.worker phase')

theorem Advance.worker_cases (advance : Advance c w (.documents phase) w' task') :
    Unmade w phase w' task' ∨
    ∃ change p seq mid, phase = .changing change (.waiting p) ∧ task' = .documents .idle ∧
      ChangeAdvance c w change .view (.waiting p) mid (.installed seq) ∧
      w' = mid.afterChange change seq := by
  -- Most steps leave the whole desk alone.
  have still : w'.desk = w.desk → w'.current = w.current →
      (task'.writer? = none ∨ ∃ phase', task'.writer? = some (.worker phase')) →
      installations w (.documents phase) w' task' = [] → Unmade w phase w' task' :=
    fun desk current writer nothing =>
      ⟨congrArg Desk.contents desk, congrArg Desk.passes desk, current, nothing, writer⟩
  cases advance with
  -- The next batch is taken off the queue, where all else stays.
  | nextBatch queued => exact .inl ⟨rfl, rfl, rfl, installations_of_idle rfl, .inr ⟨_, rfl⟩⟩
  | workerEnds empty closed => exact .inl (still rfl rfl (.inl rfl) (installations_of_idle rfl))
  | markedAll => exact .inl (still rfl rfl (.inr ⟨_, rfl⟩) (installations_of_idle rfl))
  | markNext free => exact .inl (still rfl rfl (.inr ⟨_, rfl⟩) (installations_of_idle rfl))
  | takeBefore free here =>
    exact .inl (still (desk_acquire w _) rfl (.inr ⟨_, rfl⟩) (installations_of_idle rfl))
  | dropBatch gone => exact .inl (still rfl rfl (.inr ⟨_, rfl⟩) (installations_of_idle rfl))
  | readNext => exact .inl (still rfl rfl (.inr ⟨_, rfl⟩) (installations_of_idle rfl))
  | readAll =>
    exact .inl (still (desk_release w _) (release_frame w _).1 (.inr ⟨_, rfl⟩)
      (installations_of_idle rfl))
  | workerWaits step =>
    obtain ⟨desk, current⟩ := step.desk_waits
    refine .inl (still desk current (.inr ⟨_, rfl⟩) ?_)
    -- The change has just got its turn, or still has it.
    cases step with
    | start => exact installations_of_idle rfl
    | wait => exact installations_of_busy rfl
  | workerRefused step =>
    cases step
    exact .inl (still rfl rfl (.inr ⟨_, rfl⟩) (installations_of_idle rfl))
  | @workerInstalled mid change phase seq step =>
    obtain ⟨-, p, rfl, -⟩ := step.desk_made
    exact .inr ⟨change, p, seq, mid, rfl, rfl, step, rfl⟩

theorem Doing.go {inHand : List News} {looked : List Disk}
    (doing : Doing seq files inHand looked [.worker phase])
    (about : ∀ news ∈ inHand, news.about? ≠ none) (here : w.contents[seq]? = some files)
    (current : w.current = some seq) (queue : w.documents = waiting.map News.batch)
    (stepped : w.stepTask c eager (.documents phase) = some (w', task'))
    (spoken : ∀ other ∈ (Task.documents phase).mentions, other < w.snapshots.length)
    (still : w'.contents = w.contents) :
    ∃ inHand' waiting', inHand ++ waiting = inHand' ++ waiting' ∧
      w'.documents = waiting'.map News.batch ∧
      Doing seq files inHand' (looked ++ looks w (.documents phase) w' task') task'.writer?.toList := by
  have advance := stepTask_advance stepped
  -- The phase tells what is in hand, and the step what becomes of it.
  cases doing with
  | idle =>
    cases advance with
    | @nextBatch batch rest queued =>
      rw [queue] at queued
      obtain ⟨news, later, rfl, rfl, rfl⟩ := List.map_eq_cons_iff.mp queued
      exact ⟨[news], later, rfl, rfl, .marking news _⟩
    | workerEnds empty closed => exact ⟨[], waiting, rfl, queue, .gone⟩
  | marking news rest =>
    cases advance with
    | markedAll => exact ⟨[news], waiting, rfl, queue, .taking news⟩
    | markNext free => exact ⟨[news], waiting, rfl, queue, .marking news _⟩
  | taking news =>
    cases advance with
    | takeBefore free now =>
      obtain rfl := Option.some.inj (now.symm.trans current)
      exact ⟨[news], waiting, rfl, queue, .reading news⟩
    | dropBatch gone =>
      rw [current] at gone
      cases gone
  | reading news =>
    -- There is one change to read for, and the disk is read as it is now.
    obtain ⟨uri, found⟩ := Option.ne_none_iff_exists'.mp (about news List.mem_cons_self)
    obtain ⟨modification, one, -⟩ := News.batch_of_about found
    rw [one] at stepped
    simp only [stepTask, stepWorker, List.nil_append, readModified_eq here] at stepped
    cases stepped
    have read : news.handles w.disk files =
        [.resolve w.disk modification (files.get? modification.uri.text)] := by
      simp [News.handles, one]
    refine ⟨[news], waiting, rfl, queue, ?_⟩
    rw [one, ← read]
    have seen : Doing seq files [news] [w.disk] _ := .read news w.disk
    rw [one] at seen
    exact seen
  | read news disk =>
    cases advance with
    | readAll =>
      refine ⟨[news], waiting, rfl, ?_, .changing news disk .turn⟩
      exact (congrArg Desk.queue (desk_release w seq)).trans queue
  | changing news disk phase =>
    cases advance with
    | workerWaits step =>
      refine ⟨[news], waiting, rfl, ?_, .changing news disk _⟩
      exact (congrArg Desk.queue step.desk_waits.1).trans queue
    | workerRefused step =>
      cases step with
      | refuse free gone =>
        rw [current] at gone
        cases gone
    | @workerInstalled mid _ _ made step =>
      -- A change that is made would have added documents.
      obtain ⟨-, p, rfl, -⟩ := step.desk_made
      have within : p.snapshot < w.contents.length :=
        length_contents w ▸ spoken _ List.mem_cons_self
      have grown := congrArg Desk.contents (step.desk_after (List.getElem?_eq_getElem within))
      have sizes := congrArg List.length (grown.symm.trans still)
      simp at sizes

theorem take_next {past : List α} {next : α} {later : List α} (rest : past.drop seq = next :: later) :
    past.take (seq + 1) = past.take seq ++ [next] := by
  rw [List.take_add, rest]
  rfl

theorem Followed.filesNext (followed : Followed w heard read made) {disk : Disk}
    (here : w.contents[made.length]? = some files) (next : heard.drop made.length = news :: waiting)
    (looked : read.drop made.length = [disk]) (uri : DocumentUri) :
    Table.get? ((news.handles disk files).foldl FileMap.apply files) uri.text =
      News.documentAfter ((heard.take (made.length + 1)).zip (read.take (made.length + 1))) uri := by
  have member : news ∈ heard := List.mem_of_mem_drop (next ▸ List.mem_cons_self)
  -- Both sides treat the notification as the last of those that count.
  obtain ⟨about, found⟩ := Option.ne_none_iff_exists'.mp (followed.about news member)
  rw [take_next next, take_next looked, List.zip_append (by simp [followed.enough]),
    News.get?_apply_handles found, followed.files made.length files here uri]
  exact (News.documentAfter_concat _ news disk uri).symm

theorem Followed.install (followed : Followed w heard read made) {disk : Disk} {previous : Nat}
    {change : StateChange} (here : w.contents[made.length]? = some files)
    (next : heard.drop made.length = news :: waiting) (looked : read.drop made.length = [disk])
    (save : change.save = news.isSave) (desk : w'.desk = ⟨waiting.map News.batch,
      w.contents ++ [(news.handles disk files).foldl FileMap.apply files],
      w.desk.passes ++ if change.save then [made.length + 1] else []⟩)
    (writers : w'.writers = [.worker .idle]) :
    Followed w' heard read (made ++ [⟨made.length + 1, previous, change⟩]) := by
  have contents : w'.contents =
      w.contents ++ [(news.handles disk files).foldl FileMap.apply files] :=
    congrArg Desk.contents desk
  have count := followed.count
  -- The notification in hand was heard, and read for.
  have long : made.length + 1 ≤ heard.length := by
    have sizes := congrArg List.length next
    simp only [List.length_drop, List.length_cons] at sizes
    omega
  have enough : made.length + 1 = read.length := by
    have sizes := congrArg List.length looked
    simp only [List.length_drop, List.length_cons, List.length_nil] at sizes
    omega
  have length : (made ++ [(⟨made.length + 1, previous, change⟩ : Installation)]).length =
      made.length + 1 := by simp
  refine ⟨.inr ⟨.idle, writers⟩, followed.about, ?_, ?_, fun seq other there uri => ?_, ?_, ?_,
    fun _ => ⟨(news.handles disk files).foldl FileMap.apply files, [], waiting, ?_, ?_,
      congrArg Desk.queue desk, ?_⟩⟩
  · rw [contents, length, List.length_append, count]
    rfl
  · omega
  · -- The documents of former snapshots stay; the new one has what the notification made of them.
    rw [contents] at there
    by_cases old : seq < w.contents.length
    · rw [List.getElem?_append_left old] at there
      exact followed.files seq other there uri
    · have within := (List.getElem?_eq_some_iff.mp there).1
      rw [List.length_append, List.length_singleton] at within
      obtain rfl : seq = made.length + 1 := by omega
      rw [← count, List.getElem?_concat_length] at there
      cases there
      exact followed.filesNext here next looked uri
  · rw [length, take_next next, List.map_append, List.map_append, followed.saves]
    simp [save]
  · -- A pass is begun just where the change counts as a save.
    rw [show w'.desk.passes = _ from congrArg Desk.passes desk, followed.passes]
    cases saved : change.save <;> simp [saved]
  · rw [contents, length, ← count, List.getElem?_concat_length]
  · rw [length, List.drop_add_one_eq_tail_drop, next]
    rfl
  · rw [length, enough, List.drop_length, writers]
    exact .idle

theorem Followed.current_eq (followed : Followed w heard read made) (numbered : Numbered w made)
    (current : w.current = some seq) : seq = made.length := by
  have flags := numbered.current seq current
  have count := followed.count
  rw [length_flags] at flags
  rw [length_contents] at count
  omega

theorem Followed.unmade (followed : Followed w heard read made) (kept : Kept w)
    (numbered : Numbered w made) (found : w.tasks[number]? = some (.documents phase))
    (only : w.writers = [.worker phase])
    (stepped : w.stepTask c eager (.documents phase) = some (w', task'))
    (still : Unmade w phase w' task') :
    Followed { w' with tasks := w'.tasks.set number task' } heard
      (read ++ looks w (.documents phase) w' task') made := by
  have writers := (stepTask_advance stepped).writers_step found rfl only
  rw [← List.append_nil heard]
  refine followed.go [] _ (by simp) still.contents still.passes ?_ fun there => ?_
  · rw [writers]
    rcases still.writer with none | ⟨phase', same⟩
    · exact .inl (by rw [none]; rfl)
    · exact .inr ⟨phase', by rw [same]; rfl⟩
  · obtain ⟨seq, current⟩ := Option.ne_none_iff_exists'.mp (still.current ▸ there)
    obtain rfl := followed.current_eq numbered current
    obtain ⟨files, inHand, waiting, here, rest, queue, doing⟩ :=
      followed.atWork (still.current ▸ there)
    rw [only] at doing
    have about : ∀ news ∈ inHand, news.about? ≠ none := fun news held =>
      followed.about news (List.mem_of_mem_drop (rest ▸ List.mem_append_left _ held))
    obtain ⟨inHand', waiting', same, queue', doing'⟩ := doing.go about here current queue stepped
      (kept.anchored.tasks _ (List.mem_of_getElem? found)) still.contents
    refine ⟨files, inHand', waiting', here, by rw [List.append_nil, rest, same], queue', ?_⟩
    -- What is read now comes behind what was read before.
    rw [List.drop_append_of_le_length followed.enough.2, writers]
    exact doing'

theorem Followed.makes (followed : Followed w heard read made) (kept : Kept w)
    (numbered : Numbered w made) {change : StateChange} {p : Preparation} {mid : Workspace}
    (found : w.tasks[number]? = some (.documents (.changing change (.waiting p))))
    (only : w.writers = [.worker (.changing change (.waiting p))])
    (step : ChangeAdvance c w change .view (.waiting p) mid (.installed seq)) :
    Followed { mid.afterChange change seq with
        tasks := (mid.afterChange change seq).tasks.set number (.documents .idle) } heard read
      (made ++ installations w (.documents (.changing change (.waiting p)))
        (mid.afterChange change seq) (.documents .idle)) := by
  have writers := (Advance.workerInstalled step).writers_step found rfl only
  -- A change has its turn only at the current snapshot.
  have current := (kept.custody.gated.busy found rfl).2
  have before := followed.current_eq numbered current
  have within := kept.anchored.current _ current
  have length : w.snapshots.length = made.length + 1 := by
    have count := followed.count
    rwa [length_contents] at count
  obtain ⟨files, inHand, waiting, here, rest, queue, doing⟩ :=
    followed.atWork (by rw [current]; simp)
  have standing := step.standing_made fun q same => by cases same; exact within
  have next : (mid.afterChange change seq).current = some (made.length + 1) :=
    length ▸ congrArg Standing.current ((standing_afterChange _ _ _).trans standing)
  rw [installations_of_made rfl rfl next]
  rw [only] at doing
  generalize looked : read.drop made.length = seen at doing
  cases doing with
  | changing news disk =>
    refine followed.install here rest looked ?_ ?_ writers
    · obtain ⟨uri, about⟩ := Option.ne_none_iff_exists'.mp (followed.about news
        (List.mem_of_mem_drop (rest ▸ List.mem_append_left _ List.mem_cons_self)))
      obtain ⟨modification, one, -, saved, -⟩ := News.batch_of_about about
      simp [isSave, one, saved]
    · have desk := step.desk_after (before ▸ here)
      rw [queue, length] at desk
      exact desk

theorem looks_of_idle (idle : task.writer? = none) : looks w task w' task' = [] := by
  cases task <;> first | rfl | cases idle

theorem target_of_idle (idle : task.writer? = none) : task.target? = none := by
  cases task <;> first | rfl | cases idle

theorem Advance.lull_step (advance : Advance c w task w' task') (found : w.tasks[number]? = some task)
    (idle : task.writer? = none) : Lull w { w' with tasks := w'.tasks.set number task' } := by
  obtain ⟨lull, silent⟩ := advance.lull idle
  exact lull.trans (.setTask task' (advance.found_after found) (silent.trans idle.symm))

theorem Followed.step (followed : Followed w heard read made) (kept : Kept w)
    (numbered : Numbered w made) (found : w.tasks[number]? = some task)
    (stepped : w.stepTask c eager task = some (w', task')) :
    Followed { w' with tasks := w'.tasks.set number task' } heard
      (read ++ looks w task w' task') (made ++ installations w task w' task') := by
  have advance := stepTask_advance stepped
  cases maker : task.writer? with
  | none =>
    rw [looks_of_idle maker, installations_of_idle (target_of_idle maker), List.append_nil,
      List.append_nil]
    exact followed.lull (advance.lull_step found maker)
  | some writer =>
    -- The one who makes changes is the worker.
    have listed : writer ∈ w.writers :=
      List.mem_filterMap.mpr ⟨task, List.mem_of_getElem? found, maker⟩
    obtain ⟨phase, only⟩ : ∃ phase, w.writers = [.worker phase] := by
      rcases followed.single with none | only
      · rw [none] at listed
        cases listed
      · exact only
    rw [only] at listed
    obtain rfl := List.mem_singleton.mp listed
    obtain rfl : task = .documents phase := by
      cases task <;> cases maker
      rfl
    rcases advance.worker_cases with still | ⟨change, p, seq, mid, rfl, rfl, step, rfl⟩
    · rw [still.nothing, List.append_nil]
      exact followed.unmade kept numbered found only stepped still
    · have unread : looks w (.documents (.changing change (.waiting p)))
          (mid.afterChange change seq) (.documents .idle) = [] := rfl
      rw [unread, List.append_nil]
      exact followed.makes kept numbered found only step

def Recorded (w : Workspace) (heard : List News) (read : List Disk) (made : List Installation) : Prop :=
  Unopened w heard read ∨ Followed w heard read made

theorem Recorded.hear (recorded : Recorded w heard read made) (kept : Kept w)
    (numbered : Numbered w made) (news : News) :
    Recorded (w.hear news) (heard ++ hearing w (.move (.hear news))) read made := by
  -- A notification about a document counts in a session only; of all else only the entry does.
  cases about : news.about? with
  | some uri =>
    rw [hear_of_about about]
    by_cases stage : w.lifecycle = .initialized
    · have taken : hearing w (.move (.hear news)) = [news] := by simp [hearing, stage, about]
      rw [if_pos stage, taken]
      rcases recorded with unopened | followed
      · exact absurd stage unopened.stage
      · exact .inr (followed.hear about)
    · have refused : hearing w (.move (.hear news)) = [] := by simp [hearing, stage]
      rw [if_neg stage, refused, List.append_nil]
      exact recorded
  | none =>
    have silent : hearing w (.move (.hear news)) = [] := by simp [hearing, about]
    rw [silent, List.append_nil]
    by_cases enters : news = .initialized
    · subst enters
      by_cases stage : w.lifecycle = .initializing
      · -- A session is entered only once, where there is no snapshot yet.
        have empty := kept.anchored.early stage
        rcases recorded with unopened | followed
        · rcases numbered.count with ⟨-, rfl⟩ | count
          · exact .inr (unopened.enterSession stage)
          · simp [flags, empty] at count
        · have count := followed.count
          simp [contents, empty] at count
      · have same : w.hear .initialized = w := by simp [Workspace.hear, enterSession, stage]
        rw [same]
        exact recorded
    · rcases recorded with unopened | followed
      · exact .inl (unopened.lull (.hear about enters))
      · exact .inr (followed.lull (.hear about enters))

theorem Recorded.lull (recorded : Recorded w heard read made) (lull : Lull w w') :
    Recorded w' heard read made := by
  rcases recorded with unopened | followed
  · exact .inl (unopened.lull lull)
  · exact .inr (followed.lull lull)

theorem Recorded.step (recorded : Recorded w heard read made) (kept : Kept w)
    (numbered : Numbered w made) (found : w.tasks[number]? = some task)
    (stepped : w.stepTask c eager task = some (w', task')) :
    Recorded { w' with tasks := w'.tasks.set number task' } heard
      (read ++ looks w task w' task') (made ++ installations w task w' task') := by
  rcases recorded with unopened | followed
  · -- Where nobody makes changes, this task does not.
    have idle : task.writer? = none :=
      List.filterMap_eq_nil_iff.mp unopened.writers task (List.mem_of_getElem? found)
    rw [looks_of_idle idle, List.append_nil]
    exact .inl (unopened.lull ((stepTask_advance stepped).lull_step found idle))
  · exact .inr (followed.step kept numbered found stepped)

theorem Recorded.undergo (recorded : Recorded w heard read made) (kept : Kept w)
    (numbered : Numbered w made) {happening : Happening} (ours : happening.isOfServer = true) :
    Recorded (w.undergo c happening) (heard ++ hearing w happening)
      (read ++ watch looks c w happening) (made ++ watch installations c w happening) := by
  -- The editor tells something, a task takes a step, or there is a lull.
  by_cases hears : ∃ news, happening = .move (.hear news)
  · obtain ⟨news, rfl⟩ := hears
    simp only [watch, List.append_nil]
    exact recorded.hear kept numbered news
  have silent : hearing w happening = [] := by
    unfold hearing
    split
    · exact absurd ⟨_, rfl⟩ hears
    · rfl
  rw [silent, List.append_nil]
  by_cases steps : ∃ number eager, happening = .move (.step number eager)
  · obtain ⟨number, eager, rfl⟩ := steps
    -- A step that is not possible changes nothing.
    cases found : w.tasks[number]? with
    | none =>
      have same : w.undergo c (.move (.step number eager)) = w := by
        simp [Workspace.undergo, act, Workspace.step, found]
      simpa only [watch, found, List.append_nil, same] using recorded
    | some task =>
      cases stepped : w.stepTask c eager task with
      | none =>
        have same : w.undergo c (.move (.step number eager)) = w := by
          simp [Workspace.undergo, act, Workspace.step, found, stepped]
        simpa only [watch, found, stepped, List.append_nil, same] using recorded
      | some after =>
        have next := recorded.step kept numbered found stepped
        simpa [watch, found, stepped, Workspace.undergo, act, Workspace.step] using next
  · have still : ∀ number eager, happening ≠ .move (.step number eager) :=
      fun number eager same => steps ⟨number, eager, same⟩
    rw [watch_of_still still, watch_of_still still, List.append_nil, List.append_nil]
    exact recorded.lull (undergo_lull c w ours still fun news same => hears ⟨news, same⟩)

end

theorem fresh_unopened (names : Nat → String) (supported : Bool) (limit : Nat) :
    Unopened (fresh names supported limit) [] [] :=
  ⟨by simp [fresh, spawn], rfl, rfl, rfl, rfl⟩

theorem course_recorded (names : Nat → String) (supported : Bool) (limit : Nat)
    (happenings : List Happening) (ours : ∀ happening ∈ happenings, happening.isOfServer = true) :
    let start := fresh names supported limit
    Recorded (start.course c happenings) (trace (undergo c) hearing start happenings)
      (trace (undergo c) (watch looks c) start happenings)
      (trace (undergo c) (watch installations c) start happenings) := by
  intro start
  -- The last happening is looked at where all before it have led.
  induction happenings using List.reverseRecOn with
  | nil => exact .inl (fresh_unopened names supported limit)
  | append_singleton before last ih =>
    have recorded := ih fun happening member => ours happening (List.mem_append_left _ member)
    have kept := (fresh_kept names supported limit).course (c := c) before
    have numbered := course_numbered (c := c) names supported limit before
    have next := recorded.undergo (c := c) kept numbered
      (ours last (List.mem_append_right _ List.mem_cons_self))
    simp only [course_append, trace_append, trace, List.append_nil]
    exact next

end PolicyServer.Workspace
