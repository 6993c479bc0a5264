import PolicyServer.Workspace.Preparation

/-! Changes to documents: each makes a new snapshot, and a save begins a pass over it. -/

namespace PolicyServer.Workspace

/-- What a step of a change leads to: it waits, is refused since the workspace has stopped, or
installs a snapshot. -/
inductive ChangeStep where
  | waiting (phase : ChangePhase)
  | refused
  | installed (seq : Nat)

/-- Installs the snapshot after a change. It is referred to by the view and by whoever made the
change. -/
def install (w : Workspace) (previous : Nat) (change : StateChange) : Workspace :=
  match w.snapshots[previous]? with
  | none => { w with changing := false }
  | some snapshot =>
    let next := { snapshot.successor change.files change.save with refs := 2 }
    let w := { w with
      changing := false
      snapshots := w.snapshots ++ [next]
      current := some w.snapshots.length
      live := w.live + 1 }
    -- The view refers to the new snapshot now; others may still refer to the former one.
    w.release previous

/-- The next step of a change. A save ends the work of the snapshot before it at once; the change
itself waits until that snapshot's runner is known, or its own scope has ended. -/
def stepChange (c : Collaborators) (eager : Bool) (w : Workspace) (change : StateChange)
    (scope : Scope) : ChangePhase → Option (Workspace × ChangeStep)
  | .turn =>
    if w.changing then none
    else
      match w.current with
      | none => some (w, .refused)
      | some previous =>
        -- The turn is kept until the new snapshot is installed, so changes never overlap.
        let w := { w with changing := true }
        -- What runs over the former snapshot would report on documents as they no longer are.
        let w := if change.save then
            w.modifySnapshot previous fun snapshot => { snapshot with superseded := true }
          else w
        some (w, .waiting (.waiting { snapshot := previous, scope }))
  | .waiting preparation => do
    let (w, rest) ← w.prepare c eager preparation
    match rest with
    | some preparation => some (w, .waiting (.waiting preparation))
    -- The new snapshot takes the next place.
    | none => some (w.install preparation.snapshot change, .installed w.snapshots.length)

def saveMessage : String := "Running preview..."

/-- What follows a change that the worker made: a save begins a pass, which keeps the new snapshot. -/
def afterChange (w : Workspace) (change : StateChange) (seq : Nat) : Workspace :=
  if change.save then
    -- The reference that came with the change is handed to the pass.
    let w := w.beginPass seq
    w.spawn (.pass { pass := w.passes.length - 1, snapshot := seq, message := saveMessage })
  else w.release seq

/-- What a modification makes of a document, as the disk is now and as a snapshot had it. -/
def readModified (w : Workspace) (seq : Nat) (modification : Modification) : FileHandle :=
  let files : FileMap := ((w.snapshots[seq]?).map (·.files)).getD []
  .resolve w.disk modification (files.get? modification.uri.text)

def isSave (batch : List Modification) : Bool := batch.any (·.action = .saved)

/-- The next step of the worker that takes in the editor's changes one batch at a time. -/
def stepWorker (c : Collaborators) (eager : Bool) (w : Workspace) :
    WorkerPhase → Option (Workspace × Task)
  | .idle =>
    match w.documents with
    | batch :: rest => some ({ w with documents := rest }, .documents (.marking batch batch))
    | [] => if w.documentsOpen then none else some (w, .finished .nothing)
  | .marking batch [] => some (w, .documents (.taking batch))
  -- Marks and messages share the table, so a mark waits while a pass sends.
  | .marking batch (modification :: rest) =>
    if w.publishing then none
    else some (w.markDocument modification.uri, .documents (.marking batch rest))
  | .taking batch =>
    if w.changing then none
    else
      match w.current with
      -- The workspace has stopped: the batch is dropped, and the worker lives on.
      | none => some (w, .documents .idle)
      | some seq => some (w.acquire seq, .documents (.reading batch seq [] batch))
  -- Documents are read while others may go on; the change itself takes its turn after that.
  | .reading batch seq read [] =>
    some (w.release seq, .documents (.changing ⟨read, isSave batch⟩ .turn))
  | .reading batch seq read (modification :: rest) =>
    some (w, .documents (.reading batch seq (read ++ [w.readModified seq modification]) rest))
  | .changing change phase => do
    let (w, step) ← w.stepChange c eager change .view phase
    match step with
    | .waiting phase => some (w, .documents (.changing change phase))
    | .refused => some (w, .documents .idle)
    | .installed seq => some (w.afterChange change seq, .documents .idle)

end PolicyServer.Workspace
