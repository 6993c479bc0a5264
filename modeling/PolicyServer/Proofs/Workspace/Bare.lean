import PolicyServer.Proofs.Workspace.Phases

/-! A workspace stripped to its documents, references and publications; what leaves those alone. -/

namespace PolicyServer

def Outgoing.isPublication : Outgoing → Bool
  | .publish _ => true
  | _ => false

def Outbox.bare (outbox : Outbox) : Outbox where
  sent := outbox.sent.filter Outgoing.isPublication
  broken := outbox.broken

theorem Outbox.bare_send (outbox : Outbox) {message : Outgoing}
    (other : message.isPublication = false) : (outbox.send message).bare = outbox.bare := by
  unfold Outbox.send
  split
  · rfl
  · simp [Outbox.bare, List.filter_append, other]

namespace Tracker

theorem announce_bare (tracker : Tracker σ) (outbox : Outbox) (opening : Opening σ) :
    (tracker.announce outbox opening).2.2.bare = outbox.bare := by
  -- Whichever way work is announced, nothing is published by it.
  unfold announce
  split
  · split
    · exact Outbox.bare_send outbox rfl
    · rfl
  · exact Outbox.bare_send outbox rfl

theorem answer_bare (tracker : Tracker σ) (outbox : Outbox) (token : ProgressToken)
    (opening : Opening σ) (accepted : Bool) :
    (tracker.answer outbox token opening accepted).2.2.bare = outbox.bare := by
  unfold answer
  split
  · exact Outbox.bare_send outbox rfl
  · rfl

theorem conclude_bare (tracker : Tracker σ) (outbox : Outbox) (work : Work) (message : String) :
    (tracker.conclude outbox work message).2.bare = outbox.bare := by
  cases work with
  | silent => rfl
  | _ => exact Outbox.bare_send outbox rfl

end Tracker

theorem ClientLog.step?_bare {clientLog clientLog' : ClientLog} {outbox outbox' : Outbox}
    (stepped : clientLog.step? outbox = some (clientLog', outbox')) :
    outbox'.bare = outbox.bare := by
  -- What is sent is a message for the log, which is no publication.
  unfold ClientLog.step? at stepped
  split at stepped
  · cases stepped
    rfl
  · obtain ⟨⟨notice, rest⟩, -, same⟩ := Option.map_eq_some_iff.mp stepped
    cases same
    exact Outbox.bare_send outbox rfl

def Snapshot.bare (snapshot : Snapshot) : Snapshot := { snapshot with readiness := .unresolved }

namespace Workspace

variable {w' : Workspace}

/--
A workspace without its runners, its clock, and the work it shows.

What is left are the documents, who refers to which snapshot, the passes and their publications.
-/
def bare (w : Workspace) : Workspace where
  lifecycle := w.lifecycle
  outbox := w.outbox.bare
  tracker := ⟨fun _ => "", false, 0, []⟩
  snapshots := w.snapshots.map Snapshot.bare
  current := w.current
  live := w.live
  held := w.held
  stopped := w.stopped
  changing := w.changing
  publishing := w.publishing
  passes := w.passes
  published := w.published
  runs := w.runs
  documents := w.documents
  documentsOpen := w.documentsOpen
  tasks := w.tasks

theorem eq_of_bare {w : Workspace} (same : w'.bare = w.bare) (view : Workspace → α)
    (kept : ∀ w : Workspace, view w.bare = view w) : view w' = view w := by
  rw [← kept w', same, kept w]

theorem send_bare (w : Workspace) {message : Outgoing} (other : message.isPublication = false) :
    (w.send message).bare = w.bare := by
  simp [send, bare, Outbox.bare_send _ other]

@[simp] theorem announce_bare (w : Workspace) (opening : Opening Scope) :
    (w.announce opening).2.bare = w.bare := by
  have same := Tracker.announce_bare w.tracker w.outbox opening
  simp only [announce, bare]
  rw [same]

theorem bare_of_announce {w : Workspace} {opening : Opening Scope} {announced : Announced}
    (shown : w.announce opening = (announced, w')) : w'.bare = w.bare := by
  simpa [shown] using announce_bare w opening

@[simp] theorem begin_bare (w : Workspace) (token : ProgressToken) (opening : Opening Scope)
    (accepted : Bool) : (w.begin token opening accepted).2.bare = w.bare := by
  have same := Tracker.answer_bare w.tracker w.outbox token opening accepted
  simp only [begin, bare]
  rw [same]

@[simp] theorem conclude_bare (w : Workspace) (work : Work) (message : String) :
    (w.conclude work message).bare = w.bare := by
  have same := Tracker.conclude_bare w.tracker w.outbox work message
  simp only [conclude, bare]
  rw [same]

@[simp] theorem takeSettings_bare (w : Workspace) (values : List Json) :
    (w.takeSettings values).bare = w.bare := by
  unfold takeSettings
  cases values.head? with
  | none => rfl
  | some value =>
    dsimp only
    split <;> simp only [bare]

theorem modifySnapshot_bare_of_readiness (w : Workspace) (seq : Nat)
    (change : Snapshot → Readiness) :
    (w.modifySnapshot seq fun snapshot => { snapshot with readiness := change snapshot }).bare =
      w.bare := by
  simp only [modifySnapshot, bare]
  congr 1
  -- Stripping a snapshot forgets the readiness that was put in.
  exact map_modify_of_eq w.snapshots seq fun _ => rfl

theorem Inquiry.bare_eq {c : Collaborators} {w : Workspace} {p : Preparation}
    {rest : Option Preparation} (inquiry : Inquiry c w p w' rest) : w'.bare = w.bare := by
  cases inquiry with
  | settled => exact modifySnapshot_bare_of_readiness w p.snapshot _
  | _ => rfl

end Workspace

end PolicyServer
