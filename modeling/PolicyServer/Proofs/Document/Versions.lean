import PolicyServer.Document.File
import PolicyServer.Proofs.Table
import PolicyServer.Protocol.Request

/-! What notifications make of documents: each document follows from the notifications about it. -/

namespace PolicyServer

namespace Table

variable {α : Type}

theorem get?_erase (key other : String) (table : Table α) :
    (table.erase key).get? other = if other = key then none else table.get? other := by
  induction table with
  | nil => simp [erase, get?]
  | cons entry rest ih =>
    obtain ⟨k, v⟩ := entry
    rw [get?_cons]
    by_cases same : k = key
    · have gone : erase ((k, v) :: rest) key = erase rest key := by simp [erase, same]
      rw [gone, ih]
      -- Whoever looks for another key passed the entry before.
      by_cases mine : other = key <;> simp [same, mine]
    · have stays : erase ((k, v) :: rest) key = (k, v) :: erase rest key := by simp [erase, same]
      rw [stays, get?_cons, ih]
      by_cases first : other = k <;> simp [first, same]

end Table

def FileHandle.present? (handle : FileHandle) : Option FileHandle :=
  if handle.isPresent then some handle else none

namespace FileMap

def Sound (files : FileMap) : Prop :=
  ∀ entry ∈ files, entry.2.isPresent = true ∧ entry.1 = entry.2.uri.text

theorem get?_apply (files : FileMap) (handle : FileHandle) (key : String) :
    (files.apply handle).get? key =
      if key = handle.uri.text then handle.present? else files.get? key := by
  unfold apply FileHandle.present?
  by_cases present : handle.isPresent = true
  · simp [present, Table.get?_put]
  · simp [present, Table.get?_erase]

theorem Sound.apply {files : FileMap} (sound : Sound files) (handle : FileHandle) :
    Sound (files.apply handle) := by
  intro entry member
  unfold FileMap.apply at member
  split at member
  · -- What is put is the version itself, which has content.
    rename_i present
    rcases Table.mem_of_mem_put member with rfl | before
    · exact ⟨present, rfl⟩
    · exact sound entry before
  · exact sound entry ((List.mem_filter.mp member).1)

theorem Sound.applyAll {files : FileMap} (sound : Sound files) (handles : List FileHandle) :
    Sound (handles.foldl FileMap.apply files) := by
  induction handles generalizing files with
  | nil => exact sound
  | cons handle rest ih => exact ih (sound.apply handle)

end FileMap

namespace FileHandle

theorem uri_resolve (disk : Disk) (modification : Modification) (previous : Option FileHandle) :
    (resolve disk modification previous).uri = modification.uri := by
  -- Each way a version comes about is given the name of the change.
  unfold resolve
  split
  · rfl
  · split
    · rfl
    · unfold read
      split
      · rfl
      · split <;> rfl

/-- A document as it lies on disk; one that cannot be read, or is no file, is not there. -/
def lying? (disk : Disk) (uri : DocumentUri) (version : Int32) : Option FileHandle :=
  match uri.toPath with
  | .error _ => none
  | .ok path => (disk.read path).toOption.map (onDisk uri version)

theorem read_eq_lying? (disk : Disk) (uri : DocumentUri) (version : Int32) :
    (read disk uri version).present? = lying? disk uri version := by
  unfold read lying?
  cases uri.toPath with
  | error error => rfl
  | ok path =>
    dsimp only
    -- A file that is missing counts as closed and others as broken, and neither has content.
    cases disk.read path with
    | ok contents => rfl
    | error error => cases error <;> rfl

end FileHandle

namespace News

/-- The document that a notification is about; one without any change is about none. -/
def about? : News → Option DocumentUri
  | .opened document => some document.uri
  | .changed document changes => if changes.isEmpty then none else some document.uri
  | .closed uri | .saved uri _ => some uri
  | .initialized | .exit | .cancelWork _ => none

def isSave : News → Bool
  | .saved _ _ => true
  | _ => false

/--
What a notification makes of its document.

The text that came counts, the last one if there are several. A save keeps the version that was before
and, if it brings no text, takes what lies on disk.
-/
def remake (disk : Disk) (before : Option FileHandle) : News → Option FileHandle
  | .opened document => some (.overlay document.uri document.version document.text)
  | .changed document changes =>
    changes.getLast?.map fun last => .overlay document.uri document.version last.text
  | .closed _ => none
  | .saved uri (some text) => some (.overlay uri (before.elim 0 (·.version)) text)
  | .saved uri none => FileHandle.lying? disk uri (before.elim 0 (·.version))
  | .initialized | .exit | .cancelWork _ => before

/-- A document after some notifications, each with the disk as it was read for it. Those about other
documents are passed over. -/
def documentAfter (readings : List (News × Disk)) (uri : DocumentUri) : Option FileHandle :=
  (readings.filter (·.1.about? = some uri)).foldl
    (fun before reading => reading.1.remake reading.2 before) none

theorem documentAfter_concat (readings : List (News × Disk)) (news : News) (disk : Disk)
    (uri : DocumentUri) :
    documentAfter (readings ++ [(news, disk)]) uri =
      if news.about? = some uri then news.remake disk (documentAfter readings uri)
      else documentAfter readings uri := by
  unfold documentAfter
  -- The notification is the last one that is kept, or is not kept.
  by_cases mine : news.about? = some uri
  · simp [List.filter_append, mine]
  · simp [List.filter_append, mine]

def batch : News → List Modification
  | .opened document => [⟨document.uri, .opened, some document.version, some document.text⟩]
  | .changed document changes => changes.getLast?.toList.map fun change =>
    ⟨document.uri, .changed, some document.version, some change.text⟩
  | .closed uri => [⟨uri, .closed, none, none⟩]
  | .saved uri text => [⟨uri, .saved, none, text⟩]
  | .initialized | .exit | .cancelWork _ => []

theorem batch_of_about {news : News} {uri : DocumentUri} (about : news.about? = some uri) :
    ∃ modification, news.batch = [modification] ∧ modification.uri = uri ∧
      (decide (modification.action = .saved) = news.isSave) ∧
      ∀ disk previous, news.remake disk previous =
        (FileHandle.resolve disk modification previous).present? := by
  -- Only a save reads the version that was before; only one without a text reads the disk.
  cases news with
  | initialized => cases about
  | exit => cases about
  | cancelWork token => cases about
  | changed document changes =>
    cases last : changes.getLast? with
    | none =>
      -- Without any change there is no document that it is about.
      rw [List.getLast?_eq_none_iff.mp last] at about
      cases about
    | some change =>
      have some : changes.isEmpty = false := by
        cases changes with
        | nil => cases last
        | cons _ _ => rfl
      simp only [about?, some, Bool.false_eq_true, if_false] at about
      refine ⟨_, by simp only [batch, last]; rfl, Option.some.inj about, rfl, fun _ _ => ?_⟩
      simp only [remake, last]
      rfl
  | saved uri text =>
    refine ⟨_, rfl, Option.some.inj about, rfl, fun disk previous => ?_⟩
    have version : (none <|> previous.map FileHandle.version).getD 0 =
        previous.elim 0 FileHandle.version := by
      cases previous <;> rfl
    cases text with
    | some text =>
      simp only [remake, FileHandle.resolve, version]
      rfl
    | none =>
      simp only [remake, FileHandle.resolve, version]
      exact (FileHandle.read_eq_lying? disk uri _).symm
  | _ => exact ⟨_, rfl, Option.some.inj about, rfl, fun _ _ => rfl⟩

def handles (news : News) (disk : Disk) (files : FileMap) : List FileHandle :=
  news.batch.map fun modification =>
    .resolve disk modification (files.get? modification.uri.text)

theorem get?_apply_handles {news : News} {uri : DocumentUri} (about : news.about? = some uri)
    (disk : Disk) (files : FileMap) (other : DocumentUri) :
    Table.get? ((news.handles disk files).foldl FileMap.apply files) other.text =
      if news.about? = some other then news.remake disk (files.get? other.text)
      else files.get? other.text := by
  obtain ⟨modification, one, rfl, -, remade⟩ := batch_of_about about
  simp only [handles, one, List.map_cons, List.map_nil, List.foldl_cons, List.foldl_nil,
    FileMap.get?_apply, FileHandle.uri_resolve, about, Option.some.injEq]
  by_cases mine : modification.uri = other
  · subst mine
    simp [remade]
  · -- Documents with the same text have the same name.
    have apart : other.text ≠ modification.uri.text := fun same =>
      mine (by cases other; cases same; rfl)
    simp [mine, apart]

end News

end PolicyServer
