import Mathlib.Data.List.Forall2
import Mathlib.Data.List.Induction
import PolicyServer.Progress.ClientLog

/-!
Which messages reach the editor's log.

Messages are logged at any time and never waited for, while a single task forwards them. Each message is
known by how many were logged before it, so that equal ones are told apart. Those forwarded and then
those that wait come in the order of their numbers, and every other one met a full queue or a log that was
closed.
-/

namespace PolicyServer.ClientLog

/-- The log, and the way to the editor along which it is forwarded. -/
structure Post where
  log : ClientLog := {}
  outbox : Outbox := {}

/-- What may happen to the log: a message is logged, the log is closed, or the forwarding task takes a
step. Once the log is closed that task may stop, but it may also take one more message first; `drain` is
its step where it stops as soon as it can. -/
inductive Move where
  | log (notice : Notice)
  | close
  | forward
  | stop
  | drain
  deriving DecidableEq, Repr

def act (post : Post) : Move → Post
  | .log notice => { post with log := post.log.log notice }
  | .close => { post with log := post.log.close }
  | .forward =>
    match post.log.forward? with
    | some (notice, log) => ⟨log, post.outbox.send (.log notice)⟩
    | none => post
  | .stop => { post with log := post.log.stop?.getD post.log }
  | .drain =>
    match post.log.step? post.outbox with
    | some (log, outbox) => ⟨log, outbox⟩
    | none => post

/-- The log and the way to the editor after some moves, from when both are new. -/
def run (moves : List Move) : Post := moves.foldl act {}

def Move.notice? : Move → Option Notice
  | .log notice => some notice
  | _ => none

def logged (moves : List Move) : List Notice := moves.filterMap Move.notice?

/-- The message of this number found as many messages waiting as there may be. -/
def MetFull (moves : List Move) (i : Nat) : Prop :=
  ∃ before notice after, moves = before ++ .log notice :: after ∧ (logged before).length = i ∧
    (run before).log.queue.length = 100

variable {post post' : Post} {moves : List Move} {move : Move} {sent waiting : List Nat}
  {forwarded : List Notice} {i : Nat}

theorem run_concat (moves : List Move) (move : Move) : run (moves ++ [move]) = act (run moves) move := by
  rw [run, List.foldl_concat]
  rfl

theorem logged_concat (moves : List Move) (move : Move) :
    logged (moves ++ [move]) = logged moves ++ move.notice?.toList := by
  rw [logged, List.filterMap_append]
  cases move <;> rfl

/-! ### What one move does -/

/-- What a move comes to. A message that is logged waits behind the others unless forwarding has stopped
or the queue is full; any other move closes the log, forwards the oldest message, stops forwarding at a log
that has been closed, or changes nothing. -/
inductive Effect (post : Post) : Move → Post → Prop where
  | refuse (notice : Notice) (reason : post.log.stopped = true ∨ 100 ≤ post.log.queue.length) :
      Effect post (.log notice) post
  | take (notice : Notice) (room : post.log.queue.length < 100) :
      Effect post (.log notice)
        { post with log := { post.log with queue := post.log.queue ++ [notice] } }
  | close : Effect post .close { post with log := post.log.close }
  | forward {move : Move} {oldest : Notice} {rest : List Notice} (silent : move.notice? = none)
      (queue : post.log.queue = oldest :: rest) :
      Effect post move ⟨{ post.log with queue := rest }, post.outbox.send (.log oldest)⟩
  | stop {move : Move} (silent : move.notice? = none) (closed : post.log.closed = true) :
      Effect post move { post with log := { post.log with stopped := true, queue := [] } }
  | still {move : Move} (silent : move.notice? = none) : Effect post move post

theorem act_effect (post : Post) (move : Move) : Effect post move (act post move) := by
  have stopping (silent : move.notice? = none) : Effect post move (act post .stop) := by
    simp only [act, stop?]
    split
    · rename_i may
      exact .stop silent (Bool.and_eq_true_iff.mp may).1
    · exact .still silent
  have forwarding (silent : move.notice? = none) : Effect post move (act post .forward) := by
    simp only [act, forward?]
    split
    · rename_i oldest log taken
      split at taken
      · cases taken
      · split at taken
        · cases taken
        · rename_i queued
          cases taken
          exact .forward silent queued
    · exact .still silent
  cases move with
  | log notice =>
    simp only [act, log]
    split
    · rename_i refused
      exact .refuse notice (by simpa [capacity] using refused)
    · rename_i taken
      have room : post.log.stopped = false ∧ post.log.queue.length < 100 := by
        simpa [capacity] using taken
      exact .take notice room.2
  | close => exact .close
  | stop => exact stopping rfl
  | forward => exact forwarding rfl
  | drain =>
    -- Stopping as soon as possible is stopping or forwarding.
    have either : act post .drain = act post .stop ∨ act post .drain = act post .forward := by
      simp only [act, step?]
      cases post.log.stop? with
      | some log => exact .inl rfl
      | none => cases post.log.forward? <;> exact .inr rfl
    rcases either with same | same
    · exact same ▸ stopping rfl
    · exact same ▸ forwarding rfl

/-! ### Where each message is -/

abbrev Numbers (all : List Notice) : List Nat → List Notice → Prop :=
  List.Forall₂ fun i notice => all[i]? = some notice

theorem Numbers.append {all some : List Notice} {numbers : List Nat} (known : Numbers all numbers some)
    (more : List Notice) : Numbers (all ++ more) numbers some :=
  known.imp fun _ _ found =>
    (List.getElem?_append_left (List.getElem?_eq_some_iff.mp found).1).trans found

theorem Numbers.lt {all some : List Notice} {numbers : List Nat} (known : Numbers all numbers some) :
    ∀ i ∈ numbers, i < all.length := by
  induction known with
  | nil => simp
  | cons found _ ih => exact List.forall_mem_cons.mpr ⟨(List.getElem?_eq_some_iff.mp found).1, ih⟩

theorem MetFull.concat (met : MetFull moves i) (move : Move) : MetFull (moves ++ [move]) i := by
  obtain ⟨before, notice, after, rfl, number, full⟩ := met
  exact ⟨before, notice, after ++ [move], by simp, number, full⟩

/--
Which messages have been forwarded and which wait, by their numbers.

Both are in order, and those forwarded come before those that wait. Any other message met a full queue,
or the log has been closed.
-/
structure Account (moves : List Move) (post : Post) (sent waiting : List Nat)
    (forwarded : List Notice) : Prop where
  reached : run moves = post
  bounded : post.log.queue.length ≤ 100
  closed : post.log.closed = true ∨ post.log.stopped = true → .close ∈ moves
  outbox : post.outbox = { sent := forwarded.map .log }
  ordered : (sent ++ waiting).Pairwise (· < ·)
  delivered : Numbers (logged moves) sent forwarded
  queued : Numbers (logged moves) waiting post.log.queue
  lost : ∀ i < (logged moves).length, i ∉ sent → i ∉ waiting → MetFull moves i ∨ .close ∈ moves

theorem Account.step (account : Account moves post sent waiting forwarded)
    (effect : Effect post move post') (reached : run (moves ++ [move]) = post') :
    ∃ sent waiting forwarded, Account (moves ++ [move]) post' sent waiting forwarded := by
  -- What was logged before keeps its number, and what was lost before its reason.
  have more := logged_concat moves move
  have forwards : Numbers (logged (moves ++ [move])) sent forwarded := more ▸ account.delivered.append _
  have queued : Numbers (logged (moves ++ [move])) waiting post.log.queue :=
    more ▸ account.queued.append _
  have earlier : .close ∈ moves → .close ∈ moves ++ [move] := List.mem_append_left _
  have lost (i : Nat) (less : i < (logged moves).length) (unsent : i ∉ sent) (unqueued : i ∉ waiting) :
      MetFull (moves ++ [move]) i ∨ .close ∈ moves ++ [move] :=
    (account.lost i less unsent unqueued).imp (·.concat move) earlier
  have unlogged (silent : move.notice? = none) : (logged (moves ++ [move])).length = (logged moves).length := by
    rw [more, silent, Option.toList_none, List.append_nil]
  cases effect with
  | refuse notice reason =>
    refine ⟨sent, waiting, forwarded, reached, account.bounded, fun ended => earlier (account.closed ended),
      account.outbox, account.ordered, forwards, queued, fun i less unsent unqueued => ?_⟩
    rw [more, List.length_append] at less
    rcases Nat.lt_succ_iff_lt_or_eq.mp less with before | rfl
    · exact lost i before unsent unqueued
    · -- The new message met a log that was closed, or a queue as long as it may be.
      rcases reason with stopped | full
      · exact .inr (earlier (account.closed (.inr stopped)))
      · exact .inl ⟨moves, notice, [], rfl, rfl, account.reached ▸ Nat.le_antisymm account.bounded full⟩
  | take notice room =>
    have newest : (logged (moves ++ [.log notice]))[(logged moves).length]? = some notice := by
      rw [more]
      exact List.getElem?_concat_length
    refine ⟨sent, waiting ++ [(logged moves).length], forwarded, reached, ?_,
      fun ended => earlier (account.closed ended), account.outbox, ?_, forwards,
      List.rel_append queued (.cons newest .nil), fun i less unsent unqueued => ?_⟩
    · rw [List.length_append]
      exact room
    · -- All numbers given before are less.
      rw [← List.append_assoc, List.pairwise_append]
      refine ⟨account.ordered, List.pairwise_singleton _ _, fun i member j last => ?_⟩
      rw [List.mem_singleton.mp last]
      exact (List.mem_append.mp member).elim (account.delivered.lt i) (account.queued.lt i)
    · rw [List.mem_append, List.mem_singleton, not_or] at unqueued
      rw [more, List.length_append] at less
      have before := (Nat.lt_succ_iff_lt_or_eq.mp less).resolve_right unqueued.2
      exact lost i before unsent unqueued.1
  | close =>
    exact ⟨sent, waiting, forwarded, reached, account.bounded, fun _ => by simp, account.outbox,
      account.ordered, forwards, queued, fun i less => lost i (unlogged rfl ▸ less)⟩
  | @forward _ oldest rest silent queue =>
    -- The oldest message has the least number of those that wait.
    rw [queue] at queued
    obtain ⟨first, later, found, others, rfl⟩ := List.forall₂_cons_right_iff.mp queued
    have regroup : sent ++ [first] ++ later = sent ++ first :: later := (List.append_cons ..).symm
    have bounded := account.bounded
    rw [queue] at bounded
    refine ⟨sent ++ [first], later, forwarded ++ [oldest], reached, Nat.le_of_succ_le bounded,
      fun ended => earlier (account.closed ended), ?_, regroup ▸ account.ordered,
      List.rel_append forwards (.cons found .nil), others, fun i less unsent unqueued => ?_⟩
    · rw [account.outbox]
      simp [Outbox.send]
    · rw [List.mem_append, List.mem_singleton, not_or] at unsent
      exact lost i (unlogged silent ▸ less) unsent.1 (by simp [unsent.2, unqueued])
  | stop _ closed =>
    -- What waits is lost, for the log has been closed.
    have closes := earlier (account.closed (.inl closed))
    exact ⟨sent, [], forwarded, reached, Nat.zero_le _, fun _ => closes, account.outbox,
      (List.append_nil sent).symm ▸ (List.pairwise_append.mp account.ordered).1, forwards, .nil,
      fun _ _ _ _ => .inr closes⟩
  | still silent =>
    exact ⟨sent, waiting, forwarded, reached, account.bounded, fun ended => earlier (account.closed ended),
      account.outbox, account.ordered, forwards, queued, fun i less => lost i (unlogged silent ▸ less)⟩

theorem run_account (moves : List Move) :
    ∃ sent waiting forwarded, Account moves (run moves) sent waiting forwarded := by
  -- One more move at a time, from the end.
  induction moves using List.reverseRecOn with
  | nil => exact ⟨[], [], [], rfl, by decide, by decide, rfl, .nil, .nil, .nil, by simp [logged]⟩
  | append_singleton moves move ih =>
    obtain ⟨sent, waiting, forwarded, account⟩ := ih
    exact account.step (run_concat moves move ▸ act_effect (run moves) move) rfl

/--
The editor's log keeps the order of messages and loses none without a reason.

Whatever is logged, forwarded and closed in whatever order, no more than 100 messages wait. Those that
were sent to the editor, and behind them those that wait, are messages that were logged, in the order in
which they were and each once. A message that was not sent found 100 others waiting when it was logged, or
the log has been closed, or it still waits.
-/
theorem log_keeps_order (moves : List Move) :
    (run moves).log.queue.length ≤ 100 ∧
    ∃ (sent waiting : List Nat) (forwarded : List Notice), (sent ++ waiting).Pairwise (· < ·) ∧
      (run moves).outbox.sent = forwarded.map .log ∧
      List.Forall₂ (fun i notice => (logged moves)[i]? = some notice) sent forwarded ∧
      List.Forall₂ (fun i notice => (logged moves)[i]? = some notice) waiting
        (run moves).log.queue ∧
      ∀ i < (logged moves).length, i ∉ sent → MetFull moves i ∨ .close ∈ moves ∨ i ∈ waiting := by
  obtain ⟨sent, waiting, forwarded, account⟩ := run_account moves
  refine ⟨account.bounded, sent, waiting, forwarded, account.ordered, congrArg (·.sent) account.outbox,
    account.delivered, account.queued, fun i number unsent => ?_⟩
  by_cases queued : i ∈ waiting
  · exact .inr (.inr queued)
  · exact (account.lost i number unsent queued).imp_right .inl

end PolicyServer.ClientLog
