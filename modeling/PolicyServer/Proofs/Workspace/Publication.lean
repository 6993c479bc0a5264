import PolicyServer.Proofs.Text.ByteOrder
import PolicyServer.Proofs.Workspace.Supersession

/-! What a pass publishes in its turn, and that the records tell of all that was ever published. -/

namespace PolicyServer.Workspace

open Function (update)

variable {c : Collaborators} {w w' : Workspace} {log deeds : List Deed} {turn : PublishTurn}
  {uri : String} {job : PassJob} {number : Nat}

/-! ### The messages of a turn -/

def PublishTurn.version (turn : PublishTurn) (uri : String) : Option Int32 :=
  match turn.files.get? uri with
  | some handle => some handle.version
  | none => (turn.table.get? uri).bind (·.version)

def PublishTurn.message (turn : PublishTurn) (entry : String × List Diagnostic) :
    PublishDiagnostics :=
  ⟨⟨entry.1⟩, turn.version entry.1, entry.2⟩

def PublishTurn.messages (turn : PublishTurn) : List PublishDiagnostics :=
  (toPublish turn.table turn.findings).map turn.message

theorem toPublish_ordered (table : Table Publication) {findings : Findings}
    (ordered : findings.Ordered) : (toPublish table findings).Ordered := by
  -- Each document of the table adds to the findings, which stay quantified over.
  induction table generalizing findings with
  | nil => exact ordered
  | cons entry rest ih => exact ih (ordered.update entry.1 [] id)

theorem mem_keys_toPublish (table : Table Publication) (findings : Findings) (uri : String) :
    uri ∈ Table.keys (toPublish table findings) ↔
      uri ∈ Table.keys findings ∨ uri ∈ Table.keys table := by
  -- Folding the table in adds its documents one by one to those of the results.
  unfold toPublish
  induction table generalizing findings with
  | nil => simp [Table.keys]
  | cons entry rest ih =>
    rw [List.foldl_cons, ih, Table.mem_keys_update]
    simp only [Table.keys, List.map_cons, List.mem_cons]
    tauto

theorem get?_toPublish (table : Table Publication) (findings : Findings) (uri : String) :
    ((toPublish table findings).get? uri).getD [] = (findings.get? uri).getD [] := by
  -- A document of the table gets an empty list where the results have nothing.
  unfold toPublish
  induction table generalizing findings with
  | nil => rfl
  | cons entry rest ih =>
    rw [List.foldl_cons, ih, Table.get?_update]
    split
    · rename_i here
      rw [here]
      rfl
    · rfl

theorem PublishTurn.uris_messages (turn : PublishTurn) :
    turn.messages.map (·.uri.text) = Table.keys (toPublish turn.table turn.findings) := by
  simp only [messages, Table.keys, List.map_map]
  rfl

theorem PublishTurn.messages_ascending (ordered : turn.findings.Ordered) :
    (turn.messages.map fun params => Bytes.ofText params.uri.text).Pairwise (· < ·) := by
  -- Texts in order have their bytes in order.
  have ascending : (turn.messages.map (·.uri.text)).Pairwise (· < ·) := by
    rw [uris_messages]
    exact toPublish_ordered turn.table ordered
  have bytes := ascending.map Bytes.ofText fun _ _ less => Bytes.ofText_lt less
  rw [List.map_map] at bytes
  exact bytes

theorem PublishTurn.mem_messages (turn : PublishTurn) (uri : String) :
    uri ∈ turn.messages.map (·.uri.text) ↔
      uri ∈ Table.keys turn.findings ∨ uri ∈ Table.keys turn.table := by
  rw [uris_messages, mem_keys_toPublish]

theorem PublishTurn.diagnostics_of_mem (ordered : turn.findings.Ordered) {params : PublishDiagnostics}
    (member : params ∈ turn.messages) :
    params.diagnostics = (turn.findings.get? params.uri.text).getD [] ∧
      params.version = turn.version params.uri.text := by
  -- The documents to publish for are in order, so a message has the diagnostics found under it.
  obtain ⟨entry, listed, rfl⟩ := List.mem_map.mp member
  refine ⟨?_, rfl⟩
  have found := (toPublish_ordered turn.table ordered).get?_of_mem listed
  have same := get?_toPublish turn.table turn.findings entry.1
  rw [found] at same
  exact same

theorem versionOf_eq (w : Workspace) (seq : Nat) (uri : String) (findings : Findings) :
    w.versionOf seq uri = PublishTurn.version ⟨w.filesOf seq, findings, w.published⟩ uri := by
  unfold versionOf PublishTurn.version filesOf
  cases w.snapshots[seq]? with
  | none => rfl
  | some snapshot => rfl

/-! ### Records -/

/-- What the table has of a document: its version and its diagnostics. -/
def recordOf (table : Table Publication) (uri : String) : Option Int32 × List Diagnostic :=
  ((table.get? uri).map fun record => (record.version, record.diagnostics)).getD (none, [])

def lastSent (log : List Deed) (uri : String) : Option Int32 × List Diagnostic :=
  (((publications log).filter (·.uri.text = uri)).getLast?.map fun params =>
    (params.version, params.diagnostics)).getD (none, [])

theorem publications_append (before after : List Deed) :
    publications (before ++ after) = publications before ++ publications after :=
  List.filterMap_append

theorem lastSent_of_silent (silent : publications deeds = []) (uri : String) :
    lastSent (log ++ deeds) uri = lastSent log uri := by
  unfold lastSent
  rw [publications_append, silent, List.append_nil]

theorem lastSent_publish (log : List Deed) (pass : Nat) (params : PublishDiagnostics)
    (uri : String) :
    lastSent (log ++ [.publish pass params]) uri =
      if uri = params.uri.text then (params.version, params.diagnostics) else lastSent log uri := by
  -- The new message is the last one for its own document, and none for the others.
  have last : publications [.publish pass params] = [params] := rfl
  unfold lastSent
  rw [publications_append, last, List.filter_append]
  by_cases here : params.uri.text = uri
  · simp [here]
  · simp [here, Ne.symm here]

theorem recordOf_markDocument (w : Workspace) (document : DocumentUri) (uri : String) :
    recordOf (w.markDocument document).published uri = recordOf w.published uri := by
  -- A mark is put beside the version and the diagnostics, which the record keeps.
  simp only [recordOf, markDocument, Table.get?_update]
  split
  · rename_i here
    rw [here]
    cases w.published.get? document.text with
    | none => rfl
    | some record => rfl
  · rfl

theorem published_publish (w : Workspace) (seq : Nat) (uri : String)
    (diagnostics : List Diagnostic) :
    (w.publish seq uri diagnostics).published =
      w.published.put uri ⟨false, seq, w.versionOf seq uri, diagnostics⟩ := rfl

theorem recordOf_publish (w : Workspace) (seq : Nat) (document : String)
    (diagnostics : List Diagnostic) (uri : String) :
    recordOf (w.publish seq document diagnostics).published uri =
      if uri = document then (w.versionOf seq document, diagnostics)
      else recordOf w.published uri := by
  simp only [recordOf, published_publish, Table.get?_put]
  split <;> rfl

theorem Effect.keys_published (effect : Effect w w' deeds) (listed : uri ∈ Table.keys w.published) :
    uri ∈ Table.keys w'.published := by
  -- Only a mark and a message touch the table, and both put an entry in.
  have at' : ∀ {s : Stake}, w'.stake = s → w'.published = s.published := by
    rintro s rfl
    rfl
  cases effect with
  | mark document same =>
    have marked := at' same
    rw [marked]
    exact (Table.mem_keys_put _ _ _ _).mpr (.inr listed)
  | publish runs sends same =>
    rw [at' same]
    exact (Table.mem_keys_put _ _ _ _).mpr (.inr listed)
  | _ =>
    rename_i same
    rw [at' same]
    exact listed

/-! ### The account of each pass -/

def messagesOf (log : List Deed) (pass : Nat) : List PublishDiagnostics := log.filterMap fun
  | .publish number params => if number = pass then some params else none
  | _ => none

theorem messagesOf_append (before after : List Deed) (pass : Nat) :
    messagesOf (before ++ after) pass = messagesOf before pass ++ messagesOf after pass :=
  List.filterMap_append

theorem messagesOf_eq_nil {pass : Nat} (unseen : ∀ deed ∈ log, deed.pass ≠ pass) :
    messagesOf log pass = [] := by
  refine List.filterMap_eq_nil_iff.mpr fun deed member => ?_
  have other := unseen deed member
  cases deed with
  | publish number params => exact if_neg other
  | _ => rfl

/-- A pass has published all that was called for in its turn, which were so many documents. -/
def Delivered (log : List Deed) (pass files : Nat) : Prop :=
  ∃ turn : PublishTurn, .enter pass turn ∈ log ∧ turn.findings.Ordered ∧
    messagesOf log pass = turn.messages ∧ turn.messages.length = files

def Agrees (log : List Deed) (pass : Nat) : PassOutcome → Prop
  | .published files => Delivered log pass files
  | .failed => messagesOf log pass = []
  | .cancelled => messagesOf log pass = []

/-- What is still to be published in a turn, when the table has the versions that it had. -/
structure Owed (w : Workspace) (log : List Deed) (job : PassJob) (turn : PublishTurn)
    (rest : Findings) (files : Nat) : Prop where
  entered : .enter job.pass turn ∈ log
  findings : turn.findings.Ordered
  documents : turn.files = w.filesOf job.snapshot
  count : turn.messages.length = files
  split : turn.messages = messagesOf log job.pass ++ rest.map turn.message
  ascending : rest.Ordered
  versions : ∀ uri ∈ Table.keys rest,
    (w.published.get? uri).bind (·.version) = (turn.table.get? uri).bind (·.version)

def Accounted (w : Workspace) (log : List Deed) (job : PassJob) : Prop :=
  match job.phase with
  | .sending _ rest files => ∃ turn, Owed w log job turn rest files
  | .ending _ outcome => Agrees log job.pass outcome
  | phase => messagesOf log job.pass = [] ∧ phase.Ordered

theorem accounted_of_early (early : job.phase.hasEntered = false) :
    Accounted w log job ↔ messagesOf log job.pass = [] ∧ job.phase.Ordered := by
  -- Beyond its silence, nothing is asked of a pass that has not had its turn.
  obtain ⟨pass, snapshot, message, phase⟩ := job
  cases phase with
  | sending work rest files => cases early
  | ending work outcome =>
    cases outcome with
    | published files => cases early
    | _ => exact (and_iff_left trivial).symm
  | _ => exact Iff.rfl

theorem Agrees.append {pass : Nat} {outcome : PassOutcome} (agrees : Agrees log pass outcome)
    (silent : messagesOf deeds pass = []) : Agrees (log ++ deeds) pass outcome := by
  -- What this pass has sent is what it had sent, and its turn is still on record.
  have same : messagesOf (log ++ deeds) pass = messagesOf log pass := by
    rw [messagesOf_append, silent, List.append_nil]
  cases outcome with
  | published files =>
    obtain ⟨turn, entered, ordered, sent, count⟩ := agrees
    exact ⟨turn, List.mem_append_left _ entered, ordered, same.trans sent, count⟩
  | _ => exact same.trans agrees

theorem Accounted.append (accounted : Accounted w log job) (silent : messagesOf deeds job.pass = [])
    (documents : w'.filesOf job.snapshot = w.filesOf job.snapshot)
    (versions : job.phase.isSending = true → ∀ uri,
      (w'.published.get? uri).bind (·.version) = (w.published.get? uri).bind (·.version)) :
    Accounted w' (log ++ deeds) job := by
  -- A pass that sends relies on its files and on the versions published; neither changes.
  have same : messagesOf (log ++ deeds) job.pass = messagesOf log job.pass := by
    rw [messagesOf_append, silent, List.append_nil]
  obtain ⟨pass, snapshot, message, phase⟩ := job
  cases phase with
  | sending work rest files =>
    obtain ⟨turn, owed⟩ := accounted
    exact ⟨turn, List.mem_append_left _ owed.entered, owed.findings,
      owed.documents.trans documents.symm, owed.count, same ▸ owed.split, owed.ascending,
      fun uri listed => (versions rfl uri).trans (owed.versions uri listed)⟩
  | ending work outcome => exact Agrees.append accounted silent
  | _ => exact ⟨same.trans accounted.1, accounted.2⟩

/-! ### The ledger -/

/--
The books of what was published.

Every pass has its account, which is closed when it is over, and the table has of each document what
was last published of it.
-/
structure Ledger (w : Workspace) (log : List Deed) : Prop where
  accounts : ∀ {number : Nat} {job : PassJob}, w.jobAt number = some job → Accounted w log job
  closed : ∀ {pass : Nat} {outcome : PassOutcome}, .finish pass outcome ∈ log →
    Agrees log pass outcome ∧
      ∀ {number : Nat} {job : PassJob}, w.jobAt number = some job → job.pass ≠ pass
  records : ∀ uri, recordOf w.published uri = lastSent log uri

theorem Extends.filesOf (longer : Extends w w') {seq : Nat} (within : seq < w.snapshots.length) :
    w'.filesOf seq = w.filesOf seq := by
  have found := List.getElem?_eq_getElem within
  obtain ⟨later, there, files, -⟩ := longer.snapshots found
  simp [Workspace.filesOf, found, there, files]

theorem Anchored.within_of_jobAt (anchored : Anchored w) (runs : w.jobAt number = some job) :
    job.snapshot < w.snapshots.length := by
  obtain ⟨task, found, ran⟩ := Option.bind_eq_some_iff.mp runs
  cases task with
  | pass job' =>
    cases ran
    exact anchored.tasks _ (List.mem_of_getElem? found) _ (by simp [Task.mentions])
  | _ => cases ran

theorem version_of_recordOf {table table' : Table Publication}
    (same : recordOf table' uri = recordOf table uri) :
    (table'.get? uri).bind (·.version) = (table.get? uri).bind (·.version) := by
  have first : ∀ t : Table Publication, (recordOf t uri).1 = (t.get? uri).bind (·.version) := by
    intro t
    unfold recordOf
    cases t.get? uri with
    | none => rfl
    | some record => rfl
  rw [← first, ← first, same]

theorem messagesOf_of_silent (silent : publications deeds = []) (pass : Nat) :
    messagesOf deeds pass = [] := by
  refine List.filterMap_eq_nil_iff.mpr fun deed member => ?_
  have nothing := List.filterMap_eq_nil_iff.mp silent deed member
  cases deed with
  | publish number params => cases nothing
  | _ => rfl

theorem Ledger.silent (ledger : Ledger w log) (anchored : Anchored w) (longer : Extends w w')
    (silent : publications deeds = []) (unfinished : ∀ pass outcome, .finish pass outcome ∉ deeds)
    (records : ∀ uri, recordOf w'.published uri = recordOf w.published uri)
    (jobs : ∀ {number : Nat} {job : PassJob}, w'.jobAt number = some job →
      w.jobAt number = some job ∨ Accounted w' (log ++ deeds) job ∧
        ∀ {pass : Nat} {outcome : PassOutcome}, .finish pass outcome ∈ log → job.pass ≠ pass) :
    Ledger w' (log ++ deeds) where
  -- A job that runs is an old one, whose account is carried over, or comes with its own.
  accounts runs := by
    rcases jobs runs with old | ⟨accounted, -⟩
    · exact (ledger.accounts old).append (messagesOf_of_silent silent _)
        (longer.filesOf (anchored.within_of_jobAt old))
        fun _ uri => version_of_recordOf (records uri)
    · exact accounted
  closed {pass outcome} finished := by
    rcases List.mem_append.mp finished with before | new
    · obtain ⟨agrees, gone⟩ := ledger.closed before
      refine ⟨agrees.append (messagesOf_of_silent silent pass), fun runs => ?_⟩
      -- No job is begun for a pass that is over.
      rcases jobs runs with old | ⟨-, other⟩
      · exact gone old
      · exact other before
    · exact absurd new (unfinished pass outcome)
  records uri := by
    rw [records, lastSent_of_silent silent]
    exact ledger.records uri

theorem Ledger.remains (ledger : Ledger w log) (runs : w.jobAt number = some job) (pass : Nat)
    (outcome : PassOutcome) (finished : .finish pass outcome ∈ log) : job.pass ≠ pass :=
  (ledger.closed finished).2 runs

theorem Ledger.goOn (ledger : Ledger w log) (anchored : Anchored w) (longer : Extends w w')
    (silent : publications deeds = []) (unfinished : ∀ pass outcome, .finish pass outcome ∉ deeds)
    (same : w'.published = w.published ∧ w'.jobAt = update w.jobAt number (some job))
    (accounted : Accounted w' (log ++ deeds) job)
    (remains : ∀ pass outcome, .finish pass outcome ∈ log → job.pass ≠ pass) :
    Ledger w' (log ++ deeds) := by
  refine ledger.silent anchored longer silent unfinished (fun uri => by rw [same.1]) ?_
  intro other job' runs
  rw [same.2] at runs
  rcases job_of_update runs with ⟨-, new⟩ | ⟨-, old⟩
  · cases new
    exact .inr ⟨accounted, remains _ _⟩
  · exact .inl old

theorem Ledger.goUnseen (ledger : Ledger w log) (anchored : Anchored w) (longer : Extends w w')
    {phase : PassPhase} (runs : w.jobAt number = some job) (before : job.phase.hasEntered = false)
    (after : phase.hasEntered = false) (ordered : phase.Ordered) (silent : publications deeds = [])
    (unfinished : ∀ pass outcome, .finish pass outcome ∉ deeds)
    (same : w'.published = w.published ∧ w'.jobAt = update w.jobAt number (some { job with phase })) :
    Ledger w' (log ++ deeds) := by
  have account := (accounted_of_early before).mp (ledger.accounts runs)
  refine ledger.goOn anchored longer silent unfinished same
    ((accounted_of_early after).mpr ⟨?_, ordered⟩) (ledger.remains runs :)
  rw [messagesOf_append, messagesOf_of_silent silent, List.append_nil]
  exact account.1

theorem Owed.message_eq {diagnostics : List Diagnostic} {rest : Findings} {files : Nat}
    (owed : Owed w log job turn ((uri, diagnostics) :: rest) files) :
    turn.message (uri, diagnostics) = ⟨⟨uri⟩, w.versionOf job.snapshot uri, diagnostics⟩ := by
  -- The version was fixed when the turn began; nobody else publishes for the document since.
  have version := owed.versions uri (by simp [Table.keys])
  have same : turn.version uri = w.versionOf job.snapshot uri := by
    rw [versionOf_eq w job.snapshot uri turn.findings]
    unfold PublishTurn.version
    rw [owed.documents, version]
  simp only [PublishTurn.message, same]

theorem Owed.publish {diagnostics : List Diagnostic} {rest : Findings} {files : Nat}
    (owed : Owed w log job turn ((uri, diagnostics) :: rest) files) (phase : PassPhase)
    (documents : w'.filesOf job.snapshot = w.filesOf job.snapshot)
    (table : w'.published = (w.publish job.snapshot uri diagnostics).published) :
    Owed w' (log ++ [.publish job.pass ⟨⟨uri⟩, w.versionOf job.snapshot uri, diagnostics⟩])
      { job with phase } turn rest files where
  entered := List.mem_append_left _ owed.entered
  findings := owed.findings
  documents := owed.documents.trans documents.symm
  count := owed.count
  split := by
    have sent : messagesOf
        [.publish job.pass ⟨⟨uri⟩, w.versionOf job.snapshot uri, diagnostics⟩] job.pass =
          [turn.message (uri, diagnostics)] := by
      rw [owed.message_eq]
      simp [messagesOf]
    rw [messagesOf_append, sent, List.append_assoc]
    exact owed.split
  ascending := (List.pairwise_cons.mp owed.ascending).2
  versions other listed := by
    -- The table has a new version of the document just published, which is not listed again.
    have apart : other ≠ uri := fun same =>
      String.lt_irrefl uri (same ▸ (List.pairwise_cons.mp owed.ascending).1 other listed)
    rw [table, published_publish, Table.get?_put, if_neg apart]
    exact owed.versions other (List.mem_cons_of_mem _ listed)

theorem Ledger.owed_of_enter (ledger : Ledger w log) (anchored : Anchored w) (longer : Extends w w')
    {work : Work} {findings : Findings} (runs : w.jobAt number = some job)
    (waits : job.phase = .publishing work findings) (phase : PassPhase)
    (table : w'.published = w.published) :
    let turn : PublishTurn := ⟨w.filesOf job.snapshot, findings, w.published⟩
    Owed w' (log ++ [.enter job.pass turn]) { job with phase } turn (toPublish w.published findings)
      (toPublish w.published findings).length := by
  intro turn
  have early : job.phase.hasEntered = false := by
    rw [waits]
    rfl
  obtain ⟨none, ordered⟩ := (accounted_of_early early).mp (ledger.accounts runs)
  rw [waits] at ordered
  refine ⟨List.mem_append_right _ (List.mem_singleton.mpr rfl), ordered,
    (longer.filesOf (anchored.within_of_jobAt runs)).symm, List.length_map _, ?_,
    toPublish_ordered w.published ordered, fun uri _ => by rw [table]⟩
  have silent : messagesOf [.enter job.pass turn] job.pass = [] := rfl
  rw [messagesOf_append, silent, none]
  rfl

theorem Effect.ledger (effect : Effect w w' deeds) (anchored : Anchored w) (longer : Extends w w')
    (roster : Roster w.stake) (orderly : Orderly w.stake log) (ledger : Ledger w log) :
    Ledger w' (log ++ deeds) := by
  have at' : ∀ {s : Stake}, w'.stake = s → w'.published = s.published ∧ w'.jobAt = s.jobs := by
    rintro s rfl
    exact ⟨rfl, rfl⟩
  -- Where no pass goes on, the accounts stand as they are.
  have resting : ∀ {s : Stake}, w'.stake = s → s.jobs = w.jobAt →
      (∀ uri, recordOf s.published uri = recordOf w.published uri) → Ledger w' (log ++ []) := by
    rintro s rfl jobs records
    exact ledger.silent anchored longer rfl (by simp) records fun runs => .inl (jobs ▸ runs)
  cases effect with
  | still same => exact resting same rfl fun _ => rfl
  | link _ same => exact resting same rfl fun _ => rfl
  | mark document same => exact resting same rfl (recordOf_markDocument w document)
  | cancel _ same => exact resting same rfl fun _ => rfl
  | start number job vacant next early ordered same =>
    -- All passes that were seen are older than the one that begins.
    have older : ∀ deed ∈ log, deed.pass ≠ job.pass := by
      intro deed member
      have known : deed.pass < w.passes.length := orderly.known deed member
      omega
    refine ledger.goOn anchored longer rfl (by simp) (at' same)
      ((accounted_of_early early).mpr ⟨?_, ordered⟩) fun _ _ finished => (older _ finished).symm
    rw [List.append_nil]
    exact messagesOf_eq_nil older
  | unseen runs before after ordered same =>
    exact ledger.goUnseen anchored longer runs before after ordered rfl (by simp) (at' same)
  | invoke runs before after ordered _ same =>
    exact ledger.goUnseen anchored longer runs before after ordered rfl (by simp) (at' same)
  | enter runs waits _ _ same =>
    exact ledger.goOn anchored longer rfl (by simp) (at' same)
      ⟨_, ledger.owed_of_enter anchored longer runs waits _ (at' same).1⟩ (ledger.remains runs :)
  | @publish number job work uri diagnostics rest files runs sends same =>
    obtain ⟨table, jobs⟩ := at' same
    have sending : job.phase.isSending = true := by
      rw [sends]
      rfl
    have account := ledger.accounts runs
    simp only [Accounted, sends] at account
    obtain ⟨turn, owed⟩ := account
    have documents := longer.filesOf (anchored.within_of_jobAt runs)
    have others : ∀ {pass : Nat}, job.pass ≠ pass → messagesOf
        [.publish job.pass ⟨⟨uri⟩, w.versionOf job.snapshot uri, diagnostics⟩] pass = [] := by
      intro pass apart
      simp [messagesOf, apart]
    refine ⟨fun {other job'} runs' => ?_, fun {pass outcome} finished => ?_, fun uri' => ?_⟩
    · rw [jobs] at runs'
      rcases job_of_update runs' with ⟨-, new⟩ | ⟨apart, old⟩
      · cases new
        exact ⟨turn, owed.publish _ documents table⟩
      · -- No other pass has its turn, so that the versions owed by one do not matter.
        have distinct : job.pass ≠ job'.pass := fun same => apart (roster.alone old runs same.symm)
        refine (ledger.accounts old).append (others distinct)
          (longer.filesOf (anchored.within_of_jobAt old)) fun sending' => ?_
        exact absurd (roster.turn old runs sending' sending) apart
    · rcases List.mem_append.mp finished with before | new
      · obtain ⟨agrees, gone⟩ := ledger.closed before
        refine ⟨agrees.append (others (gone runs)), fun {other job'} runs' => ?_⟩
        rw [jobs] at runs'
        rcases job_of_update runs' with ⟨-, new⟩ | ⟨-, old⟩
        · cases new
          have apart : job.pass ≠ pass := gone runs
          exact apart
        · exact gone old
      · cases List.mem_singleton.mp new
    · rw [table, lastSent_publish]
      refine (recordOf_publish w job.snapshot uri diagnostics uri').trans ?_
      rw [ledger.records]
  | leave runs sent same =>
    have account := ledger.accounts runs
    simp only [Accounted, sent] at account
    obtain ⟨turn, owed⟩ := account
    refine ledger.goOn anchored longer rfl (by simp) (at' same)
      ⟨turn, List.mem_append_left _ owed.entered, owed.findings, ?_, owed.count⟩ (ledger.remains runs :)
    rw [List.append_nil, owed.split]
    exact (List.append_nil _).symm
  | @finish number job work outcome runs complete same =>
    obtain ⟨table, jobs⟩ := at' same
    have account := ledger.accounts runs
    simp only [Accounted, complete] at account
    have silent : publications [.finish job.pass outcome] = [] := rfl
    have remaining : ∀ {other : Nat} {job' : PassJob}, w'.jobAt other = some job' →
        other ≠ number ∧ w.jobAt other = some job' := by
      intro other job' runs'
      rw [jobs] at runs'
      rcases job_of_update runs' with ⟨-, new⟩ | old
      · cases new
      · exact old
    refine ⟨fun runs' => ?_, fun {pass outcome'} finished => ?_, fun uri => ?_⟩
    · obtain ⟨-, old⟩ := remaining runs'
      exact (ledger.accounts old).append (messagesOf_of_silent silent _)
        (longer.filesOf (anchored.within_of_jobAt old)) fun _ uri => by rw [table]; rfl
    · rcases List.mem_append.mp finished with before | new
      · obtain ⟨agrees, gone⟩ := ledger.closed before
        exact ⟨agrees.append (messagesOf_of_silent silent _), fun runs' => gone (remaining runs').2⟩
      · cases List.mem_singleton.mp new
        refine ⟨account.append (messagesOf_of_silent silent _), fun runs' same => ?_⟩
        obtain ⟨apart, old⟩ := remaining runs'
        exact apart (roster.alone old runs same)
    · rw [table, lastSent_of_silent silent]
      exact ledger.records uri

/-! ### Whole courses of moves -/

theorem play_ledger (names : Nat → String) (supported : Bool) (limit : Nat) (moves : List Move) :
    Ledger ((fresh names supported limit).play c moves)
      ((fresh names supported limit).history c moves) := by
  -- Roster and order are carried along, for a pass has its account to itself.
  refine (play_induction (fun w log => (Roster w.stake ∧ Orderly w.stake log) ∧ Ledger w log)
    (fun {w log} ⟨kept, ledger⟩ => ⟨Orderly.cleared kept, ?_⟩)
    (fun anchored longer effect ⟨⟨roster, orderly⟩, ledger⟩ =>
      ⟨⟨effect.roster roster, effect.orderly roster orderly⟩,
        effect.ledger anchored longer roster orderly ledger⟩)
    (fresh_anchored names supported limit) []
    ⟨⟨fresh_roster names supported limit, fresh_orderly names supported limit⟩, ?_⟩ moves).2
  · refine ⟨fun {number job} runs => ?_, ledger.closed, ledger.records⟩
    have account : Accounted (w.act c .flush) (log ++ []) job :=
      (ledger.accounts runs).append rfl rfl fun _ _ => rfl
    rw [List.append_nil] at account
    exact account
  · refine ⟨fun {number job} runs => ?_, fun finished => ?_, fun uri => rfl⟩
    · cases number with
      | zero => cases runs
      | succ number => cases runs
    · cases finished

theorem Effect.turn_of_enter (effect : Effect w w' deeds) {pass : Nat}
    (entered : .enter pass turn ∈ deeds) :
    ∃ number job work findings, w.jobAt number = some job ∧ job.pass = pass ∧
      job.phase = .publishing work findings ∧ w.publishing = false ∧
      turn = ⟨w.filesOf job.snapshot, findings, w.published⟩ := by
  -- A turn is taken in one way only.
  cases effect with
  | enter runs waits free awake same =>
    cases List.mem_singleton.mp entered
    exact ⟨_, _, _, _, runs, rfl, waits, free, rfl⟩
  | _ => simp at entered

/--
What passes publish and what is recorded of it, whatever the course of moves.

A pass that is over as published has sent one message for each document that its results or the table
named when it took its turn, in the order of their bytes: with the diagnostics of its results, under
the version of its snapshot's file or else the one recorded. Any other pass that is over has sent
none. The table has of each document what was last published of it, and never loses one; nothing but a
message changes what it has. The messages are those that go out, unless the connection is broken.
-/
theorem passes_publish_and_record (c : Collaborators) (names : Nat → String) (supported : Bool)
    (limit : Nat) (moves : List Move) :
    let start := fresh names supported limit
    let w := start.play c moves
    let log := start.history c moves
    (∀ pass files, .finish pass (.published files) ∈ log →
      ∃ before move after number job work findings, moves = before ++ move :: after ∧
        let v := start.play c before
        let sent := messagesOf log pass
        v.jobAt number = some job ∧ job.pass = pass ∧ job.phase = .publishing work findings ∧
        v.publishing = false ∧
        .enter pass ⟨v.filesOf job.snapshot, findings, v.published⟩ ∈ v.deeds c move ∧
        (sent.map fun params => Bytes.ofText params.uri.text).Pairwise (· < ·) ∧
        (∀ uri, uri ∈ sent.map (·.uri.text) ↔
          uri ∈ Table.keys findings ∨ uri ∈ Table.keys v.published) ∧
        (∀ params ∈ sent,
          params.diagnostics = (findings.get? params.uri.text).getD [] ∧
          params.version = match (v.filesOf job.snapshot).get? params.uri.text with
            | some handle => some handle.version
            | none => (v.published.get? params.uri.text).bind (·.version)) ∧
        sent.length = files) ∧
    (∀ pass outcome, .finish pass outcome ∈ log → outcome = .failed ∨ outcome = .cancelled →
      messagesOf log pass = []) ∧
    (∀ uri, recordOf w.published uri = lastSent log uri) ∧
    (∀ move uri, publications (w.deeds c move) = [] →
      recordOf (w.act c move).published uri = recordOf w.published uri) ∧
    (∀ move uri, uri ∈ Table.keys w.published → uri ∈ Table.keys (w.act c move).published) ∧
    ∀ move, move ≠ .flush → (w.act c move).told =
      w.told ++ if w.outbox.broken then [] else (publications (w.deeds c move)).map .publish := by
  intro start w log
  have initial : Anchored start := fresh_anchored names supported limit
  have anchored : Anchored w := play_anchored initial moves
  have ledger : Ledger w log := play_ledger names supported limit moves
  refine ⟨fun pass files finished => ?_, fun pass outcome finished unpublished => ?_,
    ledger.records, fun move uri silent => ?_, fun move uri listed => ?_,
    fun move clearing => (act_effect anchored clearing).reported.2⟩
  · obtain ⟨turn, entered, ordered, sent, count⟩ := (ledger.closed finished).1
    obtain ⟨before, move, after, split, seen⟩ := exists_of_mem_history entered
    have there : Anchored (start.play c before) := play_anchored initial before
    -- The turn was taken by a move that was no mere clearing.
    have moved : move ≠ .flush := by
      rintro rfl
      cases seen
    obtain ⟨number, job, work, findings, runs, mine, waits, free, shape⟩ :=
      (act_effect there moved).turn_of_enter seen
    subst shape
    refine ⟨before, move, after, number, job, work, findings, split, runs, mine, waits, free, seen,
      ?_, fun uri => ?_, fun params member => ?_, ?_⟩
    · rw [sent]
      exact PublishTurn.messages_ascending ordered
    · rw [sent]
      exact PublishTurn.mem_messages _ uri
    · rw [sent] at member
      exact PublishTurn.diagnostics_of_mem ordered member
    · rw [sent]
      exact count
  · have agrees := (ledger.closed finished).1
    rcases unpublished with rfl | rfl <;> exact agrees
  · -- One more move is one more course from the start.
    have next : Ledger (start.play c (moves ++ [move])) (start.history c (moves ++ [move])) :=
      play_ledger names supported limit (moves ++ [move])
    rw [play_append, history_append, history_single] at next
    have later := next.records uri
    rw [lastSent_of_silent silent, ← ledger.records] at later
    exact later
  · by_cases clearing : move = .flush
    · subst clearing
      exact listed
    · exact (act_effect anchored clearing).keys_published listed

-- A document that was marked is published clean by a pass that finds nothing.
example :
    let c : Collaborators :=
      { resolve := fun _ _ => { result := none }, run := fun _ => { result := .ok [] } }
    let moves := [.openView "view", .mark ⟨"file"⟩, .beginPass 0 "Analyzing"] ++
      List.replicate 3 (.step 1 true) ++ [.step 2 true] ++ List.replicate 14 (.step 3 true)
    let log := (fresh (fun _ => "") false 1).history c moves
    messagesOf log 0 = [⟨⟨"file"⟩, none, []⟩] ∧ log.getLast? = some (.finish 0 (.published 1)) :=
  ⟨rfl, rfl⟩

end PolicyServer.Workspace
