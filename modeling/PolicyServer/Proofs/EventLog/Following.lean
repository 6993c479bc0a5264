import Mathlib.Data.List.Forall2
import Mathlib.Data.List.Induction
import Mathlib.Data.List.TakeWhile
import PolicyServer.EventLog.Follow

/-!
Which lines of a log are delivered while it is being written.

The writer may add bytes at any time, and the follower may look at any time, so a line may come in
any number of pieces. What has been delivered depends only on the bytes read so far, and in the end
only on the file.
-/

namespace PolicyServer.EventLog

/-! ### Bytes as lines -/

/-- Some bytes are these whole lines, each with a line feed behind it, and a rest without any. -/
structure Lines (bytes : Bytes) (lines : List Bytes) (rest : Bytes) : Prop where
  joined : bytes = lines.flatMap (· ++ [0x0A]) ++ rest
  whole : ∀ line ∈ lines, 0x0A ∉ line
  unended : 0x0A ∉ rest

/-- The text that a whole line is delivered as: one carriage return at its end is no part of it. -/
def Renders (line : Bytes) (text : String) : Prop :=
  ∃ content, (line = content ++ [0x0D] ∨ line = content ∧ content.getLast? ≠ some 0x0D) ∧
    text = Utf8.decodeLossy content

theorem renders_lineText (line : Bytes) : Renders line (lineText line) := by
  unfold lineText
  by_cases turn : line.getLast? = some 0x0D
  · refine ⟨line.dropLast, .inl ?_, by rw [if_pos turn]⟩
    exact (List.dropLast_append_getLast? _ turn).symm
  · exact ⟨line, .inr ⟨rfl, turn⟩, by rw [if_neg turn]⟩

namespace Lines

variable {bytes more rest rest' line : Bytes} {lines lines' : List Bytes}

theorem of_unended (unended : 0x0A ∉ rest) : Lines rest [] rest :=
  ⟨rfl, by simp, unended⟩

theorem cons (whole : 0x0A ∉ line) (lines : Lines bytes lines' rest) :
    Lines (line ++ 0x0A :: bytes) (line :: lines') rest := by
  obtain ⟨joined, each, unended⟩ := lines
  refine ⟨?_, List.forall_mem_cons.mpr ⟨whole, each⟩, unended⟩
  rw [joined, List.flatMap_cons]
  simp

theorem append (first : Lines bytes lines rest) (later : Lines (rest ++ more) lines' rest') :
    Lines (bytes ++ more) (lines ++ lines') rest' := by
  obtain ⟨joined, each, -⟩ := first
  obtain ⟨joined', each', unended⟩ := later
  refine ⟨?_, List.forall_mem_append.mpr ⟨each, each'⟩, unended⟩
  rw [joined, List.append_assoc, joined', List.flatMap_append, List.append_assoc]

end Lines

theorem cutFrom_lines (done : List Bytes) (line bytes : Bytes) (begun : 0x0A ∉ line) :
    ∃ lines rest, cutFrom done line bytes = (done.reverse ++ lines, rest) ∧
      Lines (line.reverse ++ bytes) lines rest := by
  induction bytes generalizing done line with
  | nil =>
    refine ⟨[], line.reverse, by simp [cutFrom], ?_⟩
    rw [List.append_nil]
    exact .of_unended (by simpa using begun)
  | cons b bytes ih =>
    rw [cutFrom]
    by_cases feed : b = 0x0A
    · -- The line is whole, and the next one begins.
      obtain ⟨lines, rest, cut, found⟩ := ih (line.reverse :: done) [] (by simp)
      refine ⟨line.reverse :: lines, rest, ?_, ?_⟩
      · rw [if_pos feed, cut]
        simp
      · rw [feed]
        exact .cons (by simpa using begun) found
    · have goesOn : 0x0A ∉ b :: line := by
        rw [List.mem_cons, not_or]
        exact ⟨fun same => feed same.symm, begun⟩
      obtain ⟨lines, rest, cut, found⟩ := ih done (b :: line) goesOn
      refine ⟨lines, rest, by rw [if_neg feed, cut], ?_⟩
      simpa using found

theorem cut_lines (bytes : Bytes) : Lines bytes (cut bytes).1 (cut bytes).2 := by
  obtain ⟨lines, rest, found, divided⟩ := cutFrom_lines [] [] bytes (by simp)
  rw [cut, found]
  exact divided

theorem Lines.cut_eq {bytes rest : Bytes} {lines : List Bytes} (divided : Lines bytes lines rest) :
    cut bytes = (lines, rest) := by
  obtain ⟨rfl, whole, unended⟩ := divided
  -- Up to the next line feed all bytes go to the line that has been begun.
  have within (done : List Bytes) (line part more : Bytes) (free : 0x0A ∉ part) :
      cutFrom done line (part ++ more) = cutFrom done (part.reverse ++ line) more := by
    induction part generalizing line with
    | nil => rfl
    | cons b part ih =>
      rw [List.mem_cons, not_or] at free
      rw [List.cons_append, cutFrom, if_neg fun same => free.1 same.symm, ih _ free.2]
      simp
  have general (done : List Bytes) :
      cutFrom done [] (lines.flatMap (· ++ [0x0A]) ++ rest) = (done.reverse ++ lines, rest) := by
    induction lines generalizing done with
    | nil =>
      have open' := within done [] rest [] unended
      rw [List.append_nil] at open'
      simp [open', cutFrom]
    | cons line lines ih =>
      obtain ⟨free, others⟩ := List.forall_mem_cons.mp whole
      rw [List.flatMap_cons, List.append_assoc, List.append_assoc, within _ _ _ _ free,
        List.singleton_append, cutFrom, if_pos rfl, ih others]
      simp
  exact general []

/-! ### Following, move by move -/

namespace Follow

variable {follow : Follow} {moves : List Move}

/-- What may happen while a log is followed: bytes are added, the follower looks, the writer is done, or
following is given up. -/
inductive Move where
  | append (bytes : Bytes)
  | poll
  | finish
  | cancel
  deriving DecidableEq

/-- Following after one more move. There is nothing to look for once it has ended. -/
def act (follow : Follow) : Move → Follow
  | .append bytes => follow.append bytes
  | .poll => follow.step.getD follow
  | .finish => follow.finish
  | .cancel => follow.cancel

def run (moves : List Move) : Follow := moves.foldl act {}

def written (follow : Follow) : Bytes := follow.file.getD []

def taken (follow : Follow) : Bytes := follow.written.take follow.read

/-- Holds for moves that add to the log. -/
def Move.writes : Move → Bool
  | .append _ => true
  | _ => false

def Settled (moves : List Move) : Prop :=
  ∀ move ∈ moves.dropWhile (· ≠ .finish), move.writes = false

instance : DecidablePred Settled := fun moves =>
  inferInstanceAs (Decidable (∀ move ∈ moves.dropWhile (· ≠ .finish), move.writes = false))

/-- What has been delivered and what is held back, by the bytes read so far. Only where following has
ended because all was read, the rest is delivered as well. -/
structure Delivers (follow : Follow) (lines : List Bytes) (rest : Bytes) : Prop where
  divided : Lines follow.taken lines rest
  held : follow.phase ≠ .ended .drained → follow.lines = lines.map lineText ∧ follow.pending = rest
  drained : follow.phase = .ended .drained → follow.lines = lines.map lineText ++
    (if rest = [] then [] else [Utf8.decodeLossy rest]) ∧ follow.pending = []

/-- What holds at every moment: no more has been read than was written, the lines of that are delivered,
and the last reading begins only after the writer was done. -/
structure Sound (follow : Follow) : Prop where
  within : follow.read ≤ follow.written.length
  delivers : ∃ lines rest, follow.Delivers lines rest
  signalled : follow.phase = .reading true ∨ follow.phase = .ended .drained → follow.finished = true

theorem readOn_some {file : Bytes} (found : follow.file = some file) :
    follow.readOn = { follow with
      read := file.length
      pending := (cut (follow.pending ++ file.drop follow.read)).2
      lines := follow.lines ++ (cut (follow.pending ++ file.drop follow.read)).1.map lineText } := by
  simp only [readOn, found]

theorem readOn_lines {lines : List Bytes} (within : follow.read ≤ follow.written.length)
    (divided : Lines follow.taken lines follow.pending) (told : follow.lines = lines.map lineText) :
    ∃ lines', Lines follow.readOn.taken lines' follow.readOn.pending ∧
      follow.readOn.lines = lines'.map lineText ∧ follow.readOn.read = follow.written.length ∧
      follow.readOn.file = follow.file := by
  cases found : follow.file with
  | none =>
    -- Without a file nothing can have been read.
    have same : follow.readOn = follow := by simp only [readOn, found]
    have empty : follow.written = [] := by simp [written, found]
    rw [same]
    refine ⟨lines, divided, told, ?_, found⟩
    rw [empty] at within ⊢
    exact Nat.le_zero.mp within
  | some file =>
    have whole : follow.written = file := by simp [written, found]
    have more := cut_lines (follow.pending ++ file.drop follow.read)
    have joined := divided.append more
    rw [readOn_some found]
    refine ⟨lines ++ (cut (follow.pending ++ file.drop follow.read)).1, ?_, ?_, by rw [whole], found⟩
    · simpa [taken, written, found] using joined
    · rw [told, List.map_append]

theorem flush_lines (follow : Follow) :
    follow.flush.lines = follow.lines ++
        (if follow.pending = [] then [] else [Utf8.decodeLossy follow.pending]) ∧
      follow.flush.pending = [] ∧ follow.flush.read = follow.read ∧
      follow.flush.file = follow.file ∧ follow.flush.finished = follow.finished ∧
      follow.flush.cancelled = follow.cancelled := by
  unfold flush
  by_cases empty : follow.pending = []
  · simp [empty]
  · simp [empty]

theorem readOn_frame (follow : Follow) :
    follow.readOn.finished = follow.finished ∧ follow.readOn.cancelled = follow.cancelled := by
  unfold readOn
  split <;> exact ⟨rfl, rfl⟩

theorem poll_cases (follow : Follow) :
    (∃ ending, follow.phase = .ended ending ∧ follow.act .poll = follow) ∨
    (follow.phase = .checking ∧ follow.cancelled = true ∧
      follow.act .poll = { follow with phase := .ended .cancelled }) ∨
    (follow.phase = .checking ∧ follow.cancelled = false ∧
      follow.act .poll = { follow with phase := .reading follow.finished }) ∨
    (follow.phase = .reading false ∧ follow.act .poll = { follow.readOn with phase := .checking }) ∨
    (follow.phase = .reading true ∧
      follow.act .poll = { follow.readOn.flush with phase := .ended .drained }) := by
  cases phase : follow.phase with
  | ended ending => exact .inl ⟨ending, rfl, by simp [act, Follow.step, phase]⟩
  | checking =>
    cases given : follow.cancelled with
    | true => exact .inr (.inl ⟨rfl, rfl, by simp [act, Follow.step, phase, given]⟩)
    | false => exact .inr (.inr (.inl ⟨rfl, rfl, by simp [act, Follow.step, phase, given]⟩))
  | reading last =>
    cases last with
    | false => exact .inr (.inr (.inr (.inl ⟨rfl, by simp [act, Follow.step, phase]⟩)))
    | true => exact .inr (.inr (.inr (.inr ⟨rfl, by simp [act, Follow.step, phase]⟩)))

theorem Sound.readOn {last : Bool} (sound : follow.Sound) (reading : follow.phase = .reading last) :
    ∃ lines, Lines follow.readOn.taken lines follow.readOn.pending ∧
      follow.readOn.lines = lines.map lineText ∧
      follow.readOn.read = follow.readOn.written.length := by
  obtain ⟨within, ⟨lines, rest, divided, held, -⟩, -⟩ := sound
  obtain ⟨told, pending⟩ := held (by rw [reading]; exact FollowPhase.noConfusion)
  obtain ⟨lines', divided', told', all, file⟩ := readOn_lines within (pending ▸ divided) told
  exact ⟨lines', divided', told', by rw [all, written, written, file]⟩

theorem Sound.poll (sound : follow.Sound) : (follow.act .poll).Sound := by
  rcases poll_cases follow with ⟨_, -, same⟩ | ⟨checking, -, same⟩ | ⟨checking, -, same⟩ |
    ⟨reading, same⟩ | ⟨reading, same⟩
  · rw [same]
    exact sound
  · -- Deciding whether to go on delivers nothing.
    obtain ⟨within, ⟨lines, rest, divided, held, -⟩, -⟩ := sound
    have kept := held (by rw [checking]; exact FollowPhase.noConfusion)
    rw [same]
    exact ⟨within, ⟨lines, rest, divided, fun _ => kept, by simp⟩, by simp⟩
  · obtain ⟨within, ⟨lines, rest, divided, held, -⟩, -⟩ := sound
    have kept := held (by rw [checking]; exact FollowPhase.noConfusion)
    rw [same]
    exact ⟨within, ⟨lines, rest, divided, fun _ => kept, by simp⟩, by simp⟩
  · obtain ⟨lines, divided, told, all⟩ := sound.readOn reading
    rw [same]
    exact ⟨Nat.le_of_eq all, ⟨lines, _, divided, fun _ => ⟨told, rfl⟩, by simp⟩, by simp⟩
  · -- The writer was done before, so what is left is a line too.
    obtain ⟨lines, divided, told, all⟩ := sound.readOn reading
    obtain ⟨flushed, pending, read, file, finished, -⟩ := flush_lines follow.readOn
    have done : follow.readOn.flush.finished = true := by
      rw [finished, (readOn_frame follow).1]
      exact sound.signalled (.inl reading)
    have written : follow.readOn.flush.written = follow.readOn.written := by
      rw [Follow.written, file, Follow.written]
    have taken : follow.readOn.flush.taken = follow.readOn.taken := by
      rw [Follow.taken, written, read, Follow.taken]
    rw [same]
    refine ⟨?_, ⟨lines, follow.readOn.pending, ?_, by simp, fun _ => ⟨?_, pending⟩⟩, fun _ => done⟩
    · show follow.readOn.flush.read ≤ follow.readOn.flush.written.length
      rw [read, written]
      exact Nat.le_of_eq all
    · show Lines follow.readOn.flush.taken _ _
      rw [taken]
      exact divided
    · show follow.readOn.flush.lines = _
      rw [flushed, told]

theorem poll_frame (follow : Follow) :
    (follow.act .poll).finished = follow.finished ∧
      (follow.act .poll).cancelled = follow.cancelled := by
  obtain ⟨finished, cancelled⟩ := readOn_frame follow
  obtain ⟨-, -, -, -, finished', cancelled'⟩ := flush_lines follow.readOn
  rcases poll_cases follow with ⟨_, -, same⟩ | ⟨-, -, same⟩ | ⟨-, -, same⟩ | ⟨-, same⟩ | ⟨-, same⟩ <;>
    rw [same]
  · exact ⟨rfl, rfl⟩
  · exact ⟨rfl, rfl⟩
  · exact ⟨rfl, rfl⟩
  · exact ⟨finished, cancelled⟩
  · exact ⟨finished'.trans finished, cancelled'.trans cancelled⟩

theorem taken_append (within : follow.read ≤ follow.written.length) (bytes : Bytes) :
    (follow.append bytes).taken = follow.taken := by
  exact List.take_append_of_le_length within

theorem Sound.act (sound : follow.Sound) (move : Move) : (follow.act move).Sound := by
  cases move with
  | append bytes =>
    obtain ⟨within, ⟨lines, rest, divided, held, drained⟩, signalled⟩ := sound
    refine ⟨?_, ⟨lines, rest, (taken_append within bytes).symm ▸ divided, held, drained⟩, signalled⟩
    show follow.read ≤ (follow.written ++ bytes).length
    rw [List.length_append]
    omega
  | poll => exact sound.poll
  | finish =>
    obtain ⟨within, ⟨lines, rest, divided, held, drained⟩, -⟩ := sound
    exact ⟨within, ⟨lines, rest, divided, held, drained⟩, fun _ => rfl⟩
  | cancel =>
    obtain ⟨within, ⟨lines, rest, divided, held, drained⟩, signalled⟩ := sound
    exact ⟨within, ⟨lines, rest, divided, held, drained⟩, signalled⟩

theorem run_concat (moves : List Move) (move : Move) :
    run (moves ++ [move]) = (run moves).act move := by
  simp [run]

theorem run_sound (moves : List Move) : (run moves).Sound := by
  induction moves using List.reverseRecOn with
  | nil =>
    refine ⟨Nat.le_refl 0, ⟨[], [], ⟨rfl, by simp, by simp⟩, fun _ => ⟨rfl, rfl⟩, fun ended => ?_⟩,
      fun last => ?_⟩
    · cases ended
    · rcases last with same | same <;> cases same
  | append_singleton moves move ih =>
    rw [run_concat]
    exact ih.act move

theorem signals_iff (moves : List Move) :
    ((run moves).finished = true ↔ .finish ∈ moves) ∧
      ((run moves).cancelled = true ↔ .cancel ∈ moves) := by
  induction moves using List.reverseRecOn with
  | nil => simp [run]
  | append_singleton moves move ih =>
    rw [run_concat, List.mem_append, List.mem_singleton, List.mem_append, List.mem_singleton]
    cases move with
    | append bytes => simpa [Follow.act, Follow.append] using ih
    | cancel => simpa [Follow.act, Follow.cancel] using ih.1
    | finish => simpa [Follow.act, Follow.finish] using ih.2
    | poll =>
      obtain ⟨finished, cancelled⟩ := poll_frame (run moves)
      rw [finished, cancelled]
      simpa using ih

theorem dropWhile_concat (done : .finish ∈ moves) (move : Move) :
    (moves ++ [move]).dropWhile (· ≠ .finish) = moves.dropWhile (· ≠ .finish) ++ [move] := by
  have some : (moves.dropWhile (· ≠ .finish)).isEmpty = false := by
    rw [Bool.eq_false_iff, Ne, List.isEmpty_iff, List.dropWhile_eq_nil_iff]
    intro all
    exact absurd (all .finish done) (by decide)
  rw [List.dropWhile_append, some]
  rfl

theorem Settled.of_concat {move : Move} (settled : Settled (moves ++ [move])) :
    Settled moves := by
  intro other member
  by_cases done : .finish ∈ moves
  · refine settled other ?_
    rw [dropWhile_concat done]
    exact List.mem_append_left _ member
  · -- Before the writer is done nothing comes after that.
    have none : moves.dropWhile (· ≠ .finish) = [] := by
      rw [List.dropWhile_eq_nil_iff]
      intro other member
      exact decide_eq_true fun same => done (same ▸ member)
    rw [none] at member
    cases member

theorem read_all_of_drained (settled : Settled moves) (drained : (run moves).phase = .ended .drained) :
    (run moves).read = (run moves).written.length := by
  induction moves using List.reverseRecOn with
  | nil => cases drained
  | append_singleton moves move ih =>
    have sound := run_sound moves
    rw [run_concat] at drained ⊢
    cases move with
    | append bytes =>
      -- Whoever has ended knew that the writer was done, so nothing was added after that.
      have done := (signals_iff moves).1.mp (sound.signalled (.inr drained))
      have last : Move.append bytes ∈ (moves ++ [Move.append bytes]).dropWhile (· ≠ .finish) := by
        rw [dropWhile_concat done]
        exact List.mem_append_right _ List.mem_cons_self
      cases settled _ last
    | poll =>
      rcases poll_cases (run moves) with ⟨_, -, same⟩ | ⟨-, -, same⟩ | ⟨-, -, same⟩ | ⟨-, same⟩ |
        ⟨reading, same⟩
      · rw [same] at drained ⊢
        exact ih settled.of_concat drained
      · rw [same] at drained
        cases drained
      · rw [same] at drained
        cases drained
      · rw [same] at drained
        cases drained
      · -- The last reading takes all there is.
        obtain ⟨-, -, -, all⟩ := sound.readOn reading
        obtain ⟨-, -, read, file, -⟩ := flush_lines (run moves).readOn
        rw [same]
        show (run moves).readOn.flush.read = ((run moves).readOn.flush.file.getD []).length
        rw [read, file]
        exact all
    | _ => exact ih settled.of_concat drained

/-! ### How following ends -/

theorem ends_soon (signal : follow.finished = true ∨ follow.cancelled = true) :
    ∃ ending, (((follow.act .poll).act .poll).act .poll).phase = .ended ending := by
  -- What has ended stays so.
  have stays {follow : Follow} (ended : ∃ ending, follow.phase = .ended ending) :
      ∃ ending, (follow.act .poll).phase = .ended ending := by
    obtain ⟨ending, phase⟩ := ended
    rcases poll_cases follow with ⟨_, -, same⟩ | ⟨other, -⟩ | ⟨other, -⟩ | ⟨other, -⟩ | ⟨other, -⟩
    · rw [same]
      exact ⟨ending, phase⟩
    all_goals cases other.symm.trans phase
  -- From where it looks whether to go on, two looks are enough.
  have two {follow : Follow} (signal : follow.finished = true ∨ follow.cancelled = true)
      (checking : follow.phase = .checking) :
      ∃ ending, ((follow.act .poll).act .poll).phase = .ended ending := by
    rcases poll_cases follow with ⟨_, other, -⟩ | ⟨-, -, same⟩ | ⟨-, given, same⟩ | ⟨other, -⟩ | ⟨other, -⟩
    · cases other.symm.trans checking
    · exact stays ⟨.cancelled, by rw [same]⟩
    · have done : follow.finished = true := signal.resolve_right (by simp [given])
      have reading : (follow.act .poll).phase = .reading true := by rw [same, done]
      rcases poll_cases (follow.act .poll) with ⟨_, other, -⟩ | ⟨other, -⟩ | ⟨other, -⟩ | ⟨other, -⟩ |
        ⟨-, same⟩
      · cases other.symm.trans reading
      · cases other.symm.trans reading
      · cases other.symm.trans reading
      · cases other.symm.trans reading
      · exact ⟨.drained, by rw [same]⟩
    · cases other.symm.trans checking
    · cases other.symm.trans checking
  obtain ⟨finished, cancelled⟩ := poll_frame follow
  rcases poll_cases follow with ⟨ending, phase, same⟩ | ⟨checking, -⟩ | ⟨checking, -⟩ | ⟨-, same⟩ | ⟨-, same⟩
  · exact stays (stays (stays ⟨ending, phase⟩))
  · exact stays (two signal checking)
  · exact stays (two signal checking)
  · exact two (by rw [finished, cancelled]; exact signal) (by rw [same])
  · exact stays (stays ⟨.drained, by rw [same]⟩)

theorem linesOf_eq (file : Option Bytes) :
    linesOf file = (cut (file.getD [])).1.map lineText ++
      (if (cut (file.getD [])).2 = [] then [] else [Utf8.decodeLossy (cut (file.getD [])).2]) := by
  unfold linesOf
  rw [(flush_lines _).1]
  cases file with
  | none => rfl
  | some file => rfl

end Follow

open Follow

/--
A log that is followed is delivered line by line, however it is written and looked at.

At every moment the bytes read so far are whole lines and a rest without a line feed. The whole lines
have been delivered, in order and each once, and the rest is held back. Only where following has ended
because the writer was done, the rest is delivered as the last line. If nothing was added after the
writer was done, all of the file has been read then, and what was delivered is what the whole file has.
Three looks after a signal are enough to end following.
-/
theorem follow_delivers_lines (moves : List Move) :
    ∃ lines rest, Lines (run moves).taken lines rest ∧
      0x0A ∉ (run moves).pending ∧
      ((run moves).phase ≠ .ended .drained →
        List.Forall₂ Renders lines (run moves).lines ∧ (run moves).pending = rest) ∧
      ((run moves).phase = .ended .drained → ∃ texts, List.Forall₂ Renders lines texts ∧
        (run moves).lines = texts ++ (if rest = [] then [] else [Utf8.decodeLossy rest])) ∧
      ((run moves).phase = .ended .drained → Settled moves →
        (run moves).taken = (run moves).written ∧ (run moves).lines = linesOf (run moves).file) ∧
      (.finish ∈ moves ∨ .cancel ∈ moves →
        ∃ ending, (run (moves ++ [.poll, .poll, .poll])).phase = .ended ending) := by
  obtain ⟨-, ⟨lines, rest, divided, held, drained⟩, -⟩ := run_sound moves
  have rendered : List.Forall₂ Renders lines (lines.map lineText) := by
    rw [List.forall₂_map_right_iff]
    exact List.forall₂_same.mpr fun line _ => renders_lineText line
  refine ⟨lines, rest, divided, ?_, fun other => ?_, fun ended => ?_, fun ended settled => ?_,
    fun signal => ?_⟩
  · by_cases ended : (run moves).phase = .ended .drained
    · rw [(drained ended).2]
      simp
    · rw [(held ended).2]
      exact divided.unended
  · obtain ⟨told, pending⟩ := held other
    exact ⟨told ▸ rendered, pending⟩
  · exact ⟨_, rendered, (drained ended).1⟩
  · have all : (run moves).taken = (run moves).written := by
      rw [taken, read_all_of_drained settled ended, List.take_length]
    refine ⟨all, ?_⟩
    rw [all] at divided
    have cut : cut ((run moves).file.getD []) = (lines, rest) := divided.cut_eq
    rw [(drained ended).1, linesOf_eq, cut]
  · have looks : run (moves ++ [.poll, .poll, .poll]) =
        (((run moves).act .poll).act .poll).act .poll := by
      simp [run]
    rw [looks]
    exact ends_soon (signal.imp (signals_iff moves).1.mpr (signals_iff moves).2.mpr)

/-- A log that is looked for before it is there, whose second line is cut within a character and again
before its line feed, and which ends without one. -/
def brokenMoves : List Move :=
  [.poll, .poll, .append [0x61, 0x0A, 0xC3], .poll, .poll, .append [0xA9, 0x0D], .poll, .poll,
    .append [0x0A, 0x0D, 0x0D, 0x0A, 0x62, 0x0D], .finish, .poll, .poll, .poll]

/-- Such a log is delivered whole. -/
theorem broken_log_is_delivered :
    (run brokenMoves).phase = .ended .drained ∧ Settled brokenMoves ∧
    (run brokenMoves).taken = (run brokenMoves).written ∧
    (run brokenMoves).lines = linesOf (run brokenMoves).file ∧
    linesOf (run brokenMoves).file = ["a", "é", "\r", "b\r"] ∧
    (run (brokenMoves.take 5)).lines = ["a"] ∧ (run (brokenMoves.take 5)).pending = [0xC3] := by
  have ended : (run brokenMoves).phase = .ended .drained := by decide +kernel
  have settled : Settled brokenMoves := by decide
  obtain ⟨lines, rest, -, -, -, -, whole, -⟩ := follow_delivers_lines brokenMoves
  obtain ⟨all, delivered⟩ := whole ended settled
  exact ⟨ended, settled, all, delivered, by decide +kernel, by decide +kernel, by decide +kernel⟩

end PolicyServer.EventLog
