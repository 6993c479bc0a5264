import PolicyServer.Proofs.Rpc.Frames
import PolicyServer.Proofs.Rpc.Messages

/-!
Frames that are cut short.

No frame is the beginning of another one, so bytes that end within a frame are never taken for a frame.
They are waited for as long as more may come. Once no more can come they are an error, and the stream
is over without one only where no byte of a frame has come.
-/

namespace PolicyServer.Rpc.Frame

deriving instance DecidableEq for FrameError, Progress

variable {ended : Bool} {length : Option Nat} {line bytes body body' rest frame frame' short : Bytes}
  {consumed used : Nat}

theorem readHeaders_ended (ends : readHeaders ended length line consumed bytes = .ended) :
    consumed = 0 ∧ bytes = [] := by
  induction bytes generalizing length line consumed with
  | nil =>
    refine ⟨?_, rfl⟩
    simp only [readHeaders] at ends
    -- Behind a last line that has no end there may be a body, but never the end of the stream.
    repeat' split at ends
    case isTrue.isTrue => assumption
    case h_2 => exact absurd ends (readBody_open ..).1
    all_goals cases ends
  | cons b bytes ih =>
    rw [readHeaders_cons] at ends
    cases step : headerStep length line b with
    | failed error => simp [step] at ends
    | body => exact absurd (by simpa [step] using ends) (readBody_open ended length (consumed + 1) bytes).1
    | on length' line' =>
      simp only [step] at ends
      exact absurd (ih ends).1 (Nat.succ_ne_zero consumed)

theorem next_eq_ended : next true bytes = .ended ↔ bytes = [] :=
  ⟨fun ends => (readHeaders_ended ends).2, fun none => by rw [none]; rfl⟩

theorem IsFrame.eq_of_begins (whole : IsFrame frame body) (whole' : IsFrame frame' body')
    (begins : frame <+: frame') : frame = frame' := by
  obtain ⟨more, rfl⟩ := begins
  have first := whole.read true more
  have second := whole'.read true []
  -- The same bytes are read twice, so both readings take as many of them.
  rw [List.append_nil, first] at second
  injection second with _ sum _
  rw [List.length_append] at sum
  have none : more = [] := List.eq_nil_of_length_eq_zero (by omega)
  rw [none, List.append_nil]

section Cuts

variable (whole : IsFrame frame body) (cut : short <+: frame) (less : short ≠ frame)
include whole cut less

theorem IsFrame.not_frame_of_cut (ended : Bool) (body' : Bytes) (used : Nat) (rest : Bytes) :
    next ended short ≠ .frame body' used rest := by
  intro read
  obtain ⟨frame', rfl, -, whole'⟩ := next_frame read
  have begins : frame' <+: frame := (List.prefix_append frame' rest).trans cut
  obtain rfl := whole'.eq_of_begins whole begins
  exact less (cut.eq_of_length_le (by simp))

theorem IsFrame.waiting_of_cut : next false short = .waiting := by
  cases read : next false short with
  | waiting => rfl
  | ended => exact absurd read ((readHeaders_open false none [] 0 short).1 rfl)
  | frame body' used rest => exact absurd read (whole.not_frame_of_cut cut less false body' used rest)
  | failed error =>
    -- What cannot be read cannot be read with the rest of the frame behind it either.
    obtain ⟨more, rfl⟩ := cut
    have failed := next_failed read true more
    have found := whole.read true []
    rw [List.append_nil, failed] at found
    cases found

theorem IsFrame.failed_of_cut (some : short ≠ []) : ∃ error, next true short = .failed error := by
  cases read : next true short with
  | waiting => exact absurd read ((readHeaders_open true none [] 0 short).2 rfl)
  | ended => exact absurd (next_eq_ended.mp read) some
  | frame body' used rest => exact absurd read (whole.not_frame_of_cut cut less true body' used rest)
  | failed error => exact ⟨error, rfl⟩

end Cuts

theorem next_cut_body (read : next ended bytes = .frame body used rest) (missing : Nat)
    (within : missing ≤ body.length) (some : missing ≠ 0) :
    next true (bytes.take (used - missing)) = .failed .endInBody := by
  obtain ⟨headers, rfl, rfl, -, small, onward⟩ := readHeaders_headers (by simp) read
  -- The headers are there in full, and so many bytes of the body.
  have kept : (headers ++ body ++ rest).take (0 + (headers ++ body).length - missing) =
      headers ++ body.take (body.length - missing) := by
    rw [List.take_append_of_le_length (by omega), List.length_append, List.take_append]
    congr 1
    · exact List.take_of_length_le (by omega)
    · congr 1
      omega
  rw [kept, next, onward, readBody]
  have few : ((body.take (body.length - missing)).take body.length).length ≠ body.length := by
    simp only [List.length_take]
    omega
  simp only [Nat.not_lt.mpr small, few, if_false, if_true]

/--
A frame is told by its own bytes alone.

Its body has a byte at least and 4 MiB at most, and is what its bytes end with. Whatever follows the
bytes, the same frame is read. Cut short it is never a frame: as long as more may come the rest is waited
for, and once the stream is over the cut is an error, except that no byte at all is its proper end. A cut
within the body is told from one before it.
-/
theorem frame_told_by_its_bytes {ended : Bool} {bytes body rest : Bytes} {used : Nat}
    (read : next ended bytes = .frame body used rest) :
    1 ≤ body.length ∧ body.length ≤ 4 * 1024 * 1024 ∧
    (body.length ≤ used ∧ used ≤ bytes.length ∧
      (bytes.take used).drop (used - body.length) = body ∧ bytes.drop used = rest) ∧
    (∀ ended more, next ended (bytes ++ more) = .frame body used (rest ++ more)) ∧
    ∀ count < used,
      next false (bytes.take count) = .waiting ∧
      (next true (bytes.take count) = .ended ↔ count = 0) ∧
      (count ≠ 0 → ∃ error, next true (bytes.take count) = .failed error) ∧
      (used - body.length ≤ count → next true (bytes.take count) = .failed .endInBody) := by
  obtain ⟨frame, rfl, rfl, whole⟩ := next_frame read
  obtain ⟨headers, headed⟩ := whole.headed
  have long : frame.length = headers.length + body.length := by rw [headed, List.length_append]
  refine ⟨whole.sized.1, whole.sized.2, ⟨by omega, by simp, ?_, List.drop_left⟩, fun ended more => ?_,
    fun count less => ?_⟩
  · rw [List.take_left, long, Nat.add_sub_cancel, headed, List.drop_left]
  · rw [List.append_assoc]
    exact whole.read ended (rest ++ more)
  · have kept : (frame ++ rest).take count = frame.take count :=
      List.take_append_of_le_length (Nat.le_of_lt less)
    have cut : frame.take count <+: frame := List.take_prefix count frame
    have size : (frame.take count).length = count := by
      rw [List.length_take]
      omega
    have short : frame.take count ≠ frame := fun same => by
      rw [same] at size
      omega
    have none : frame.take count = [] ↔ count = 0 := by rw [← List.length_eq_zero_iff, size]
    refine ⟨?_, ?_, fun some => ?_, fun within => ?_⟩
    · rw [kept]
      exact whole.waiting_of_cut cut short
    · rw [kept, next_eq_ended, none]
    · rw [kept]
      exact whole.failed_of_cut cut short (fun empty => some (none.mp empty))
    · have inBody := next_cut_body read (frame.length - count) (by omega) (by omega)
      rwa [Nat.sub_sub_self (Nat.le_of_lt less)] at inBody

/-- A frame with a header of no account, its length told twice in unlike ways, lines that end unlike each
other, a blank line that is not empty, and a body that looks like another one. -/
def crookedFrame : Bytes :=
  Bytes.ofText "X: y\ncontent-LENGTH\u00a0:\u2003+7\r\nContent-Length:3\n \t\r\na\r\n"

/-- Such a frame is read with other bytes behind it, and wherever it is cut it is none. -/
theorem crooked_frame_told :
    next true (crookedFrame ++ [0x7A]) = .frame [0x61, 0x0D, 0x0A] 53 [0x7A] ∧
    next true (crookedFrame ++ [0x7A] ++ crookedFrame) =
      .frame [0x61, 0x0D, 0x0A] 53 ([0x7A] ++ crookedFrame) ∧
    (∀ count < 53, next false ((crookedFrame ++ [0x7A]).take count) = .waiting ∧
      (count ≠ 0 → ∃ error, next true ((crookedFrame ++ [0x7A]).take count) = .failed error)) ∧
    -- A cut within the blank line leaves one that is blank as well, and the body is missing.
    next true (crookedFrame.take 48) = .failed .endInBody ∧
    next true (crookedFrame.take 51) = .failed .endInBody ∧
    next true (crookedFrame.take 46) = .failed .endInHeaders := by
  have read : next true (crookedFrame ++ [0x7A]) = .frame [0x61, 0x0D, 0x0A] 53 [0x7A] := by
    decide +kernel
  obtain ⟨-, -, -, again, cuts⟩ := frame_told_by_its_bytes read
  refine ⟨read, again true crookedFrame, fun count less => ?_, by decide +kernel, by decide +kernel,
    by decide +kernel⟩
  obtain ⟨waits, -, fails, -⟩ := cuts count less
  exact ⟨waits, fails⟩

end PolicyServer.Rpc.Frame
