import PolicyServer.Progress.Tracker

/-! What the editor is told of work: how it is announced, how it begins and how it ends. -/

namespace PolicyServer

namespace Outbox

def sendAll (outbox : Outbox) (messages : List Outgoing) : Outbox := messages.foldl send outbox

theorem sendAll_eq (outbox : Outbox) (messages : List Outgoing) :
    outbox.sendAll messages =
      if outbox.broken then outbox else { outbox with sent := outbox.sent ++ messages } := by
  induction messages generalizing outbox with
  | nil => simp [sendAll]
  | cons message rest ih =>
    have step := ih (outbox.send message)
    simp only [sendAll] at step
    simp only [sendAll, List.foldl_cons, step]
    -- A message does not mend what is broken, nor break what is not.
    cases whole : outbox.broken <;> simp [send, whole]

/-- The way to the editor, with nothing taken from it and its state as it was. -/
structure Grows (outbox outbox' : Outbox) : Prop where
  sent : outbox.sent <+: outbox'.sent
  closed : outbox'.closed = outbox.closed
  broken : outbox'.broken = outbox.broken

theorem Grows.refl (outbox : Outbox) : Grows outbox outbox := ⟨List.prefix_refl _, rfl, rfl⟩

theorem grows_sendAll (outbox : Outbox) (messages : List Outgoing) :
    Grows outbox (outbox.sendAll messages) := by
  rw [sendAll_eq]
  split
  · exact .refl outbox
  · exact ⟨List.prefix_append _ _, rfl, rfl⟩

theorem grows_send (outbox : Outbox) (message : Outgoing) : Grows outbox (outbox.send message) :=
  grows_sendAll outbox [message]

theorem mem_send (outbox : Outbox) (message : Outgoing) (takes : outbox.takesCalls = true) :
    message ∈ (outbox.send message).sent := by
  have whole : outbox.broken = false := by
    simp only [takesCalls, Bool.and_eq_true, Bool.not_eq_true'] at takes
    exact takes.2
  simp [send, whole]

end Outbox

/-- What the editor is told as work begins that is shown in that way. -/
def Work.opened (opening : Opening σ) : Work → List Outgoing
  | .silent => []
  | .plain => [.show ⟨.log, opening.message⟩]
  | .tracked token =>
    [.progress token (.begin opening.title opening.scope.isSome (some opening.message))]

/-- What the editor is told as work ends that is shown in that way. -/
def Work.closed (message : String) : Work → List Outgoing
  | .silent => []
  | .plain => [.show ⟨.info, message⟩]
  | .tracked token => [.progress token (.done (some message))]

namespace Tracker

theorem announce_cases (tracker : Tracker σ) (outbox : Outbox) (opening : Opening σ) :
    (∃ work : Work, (∀ token, work ≠ .tracked token) ∧ tracker.announce outbox opening =
        (.work work, tracker, outbox.sendAll (work.opened opening))) ∨
      outbox.takesCalls = true ∧ tracker.announce outbox opening =
        (.asked (.text (tracker.names tracker.issued)),
          { tracker with issued := tracker.issued + 1 },
          outbox.send (.create (.text (tracker.names tracker.issued)))) := by
  unfold announce
  split
  · split
    · rename_i takes
      exact .inr ⟨takes, rfl⟩
    · exact .inl ⟨.silent, by simp, rfl⟩
  · exact .inl ⟨.plain, by simp, rfl⟩

theorem answer_eq (tracker : Tracker σ) (outbox : Outbox) (token : ProgressToken)
    (opening : Opening σ) (accepted : Bool) :
    (tracker.answer outbox token opening accepted).2.2 =
      outbox.sendAll ((tracker.answer outbox token opening accepted).1.opened opening) := by
  cases accepted <;> rfl

theorem conclude_eq (tracker : Tracker σ) (outbox : Outbox) (work : Work) (message : String) :
    tracker.conclude outbox work message =
      (tracker.forget work, outbox.sendAll (work.closed message)) := by
  cases work <;> rfl

end Tracker

end PolicyServer
