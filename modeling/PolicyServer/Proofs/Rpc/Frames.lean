import Mathlib.Data.List.TakeWhile
import PolicyServer.Proofs.Text.Digits
import PolicyServer.Proofs.Text.Encoding
import PolicyServer.Rpc.Frame

/-! Frames are told by their own bytes alone, and what was written as frames reads back. -/

namespace PolicyServer

theorem Text.trimChars_append (front core back : List Char) (blank : ∀ c ∈ front, isBlank c = true)
    (blank' : ∀ c ∈ back, isBlank c = true) (first : ∀ c ∈ core.head?, isBlank c = false)
    (last : ∀ c ∈ core.getLast?, isBlank c = false) : trimChars (front ++ (core ++ back)) = core := by
  rcases List.eq_nil_or_concat' core with rfl | ⟨rest, c, rfl⟩
  · -- Where nothing stands between them, all is trimmed.
    have all : (front ++ back).dropWhile isBlank = [] := by
      rw [List.dropWhile_eq_nil_iff]
      intro c member
      rcases List.mem_append.mp member with ahead | behind
      · exact blank c ahead
      · exact blank' c behind
    simp [trimChars, all]
  · have dark : isBlank c = false := last c (by simp)
    have ahead : (front ++ (rest ++ [c] ++ back)).dropWhile isBlank = rest ++ [c] ++ back := by
      rw [List.dropWhile_append_of_pos blank]
      cases rest with
      | nil => simp [dark]
      | cons d rest =>
        have dark' := first d (by simp)
        simp [dark']
    have reversed : ∀ d ∈ back.reverse, isBlank d = true := fun d member =>
      blank' d (List.mem_reverse.mp member)
    rw [trimChars, ahead, List.reverse_append, List.dropWhile_append_of_pos reversed]
    simp [dark]

namespace Rpc.Frame

variable {ended : Bool} {length : Option Nat} {line bytes body rest : Bytes} {consumed used : Nat}
  {error : FrameError}

/-! ### What reading depends on -/

theorem readBody_eq_frame : readBody ended length consumed bytes = .frame body used rest ↔
    length = some body.length ∧ body.length ≤ maxBody ∧ bytes = body ++ rest ∧
      used = consumed + body.length := by
  constructor
  · intro read
    unfold readBody at read
    split at read
    · cases read
    · split at read
      · cases read
      · rename_i n small
        dsimp only at read
        split at read
        · rename_i enough
          cases read
          rw [enough]
          exact ⟨rfl, by omega, (List.take_append_drop n bytes).symm, rfl⟩
        · split at read <;> cases read
  · rintro ⟨rfl, small, rfl, rfl⟩
    simp [readBody, Nat.not_lt.mpr small]

theorem readBody_failed (read : readBody false length consumed bytes = .failed error) (more : Bytes) :
    readBody ended length consumed (bytes ++ more) = .failed error := by
  cases length with
  | none => simpa [readBody] using read
  | some n =>
    simp only [readBody] at read ⊢
    split at read
    · rename_i large
      rw [if_pos large]
      exact read
    · split at read <;> cases read

theorem pos_of_parseHeader {n : Nat} (parsed : parseHeader line = .ok (.length n)) : 0 < n := by
  unfold parseHeader at parsed
  split at parsed
  · cases parsed
  · dsimp only at parsed
    split at parsed
    · cases parsed
    · split at parsed
      · cases parsed
      · split at parsed
        · split at parsed
          · cases parsed
            exact Nat.succ_pos _
          · cases parsed
        · cases parsed

/-- What one byte of the headers leads to: they cannot be read, the body follows, or they go on with
what they said so far and the current line backwards. -/
inductive HeaderStep where
  | failed (error : FrameError)
  | body
  | on (length : Option Nat) (line : Bytes)

def headerStep (length : Option Nat) (line : Bytes) (b : UInt8) : HeaderStep :=
  if b = 0x0A then
    match parseHeader (line.reverse ++ [b]) with
    | .error error => .failed error
    | .ok .blank => .body
    | .ok (.length value) => .on (some value) []
    | .ok .other => .on length []
  else .on length (b :: line)

theorem readHeaders_cons (ended : Bool) (length : Option Nat) (line : Bytes) (consumed : Nat)
    (b : UInt8) (bytes : Bytes) :
    readHeaders ended length line consumed (b :: bytes) =
      match headerStep length line b with
      | .failed error => .failed error
      | .body => readBody ended length (consumed + 1) bytes
      | .on length line => readHeaders ended length line (consumed + 1) bytes := by
  simp only [readHeaders, headerStep]
  split
  · cases parseHeader (line.reverse ++ [b]) with
    | error error => rfl
    | ok header => cases header <;> rfl
  · rfl

theorem headerStep_positive {b : UInt8} {length' : Option Nat} {line' : Bytes}
    (positive : length ≠ some 0) (step : headerStep length line b = .on length' line') :
    length' ≠ some 0 := by
  unfold headerStep at step
  split at step
  · split at step
    · cases step
    · cases step
    · rename_i value parsed
      cases step
      have := pos_of_parseHeader parsed
      simp only [ne_eq, Option.some.injEq]
      omega
    · cases step
      exact positive
  · cases step
    exact positive

theorem readHeaders_headers (positive : length ≠ some 0)
    (read : readHeaders ended length line consumed bytes = .frame body used rest) :
    ∃ headers, bytes = headers ++ body ++ rest ∧ used = consumed + (headers ++ body).length ∧
      0 < body.length ∧ body.length ≤ maxBody ∧ ∀ ended more,
        readHeaders ended length line consumed (headers ++ more) =
          readBody ended (some body.length) (consumed + headers.length) more := by
  induction bytes generalizing length line consumed with
  | nil =>
    -- After the end there is no body, for none has no bytes.
    simp only [readHeaders] at read
    repeat' split at read
    case h_2 =>
      obtain ⟨rfl, -, whole, -⟩ := readBody_eq_frame.mp read
      have none : body = [] := (List.append_eq_nil_iff.mp whole.symm).1
      exact absurd (by simp [none]) positive
    all_goals cases read
  | cons b bytes ih =>
    rw [readHeaders_cons] at read
    cases step : headerStep length line b with
    | failed error => simp [step] at read
    | body =>
      -- The blank line is complete, and the body is there in full.
      simp only [step] at read
      obtain ⟨rfl, small, rfl, rfl⟩ := readBody_eq_frame.mp read
      have some : body.length ≠ 0 := fun none => positive (congrArg _ none)
      refine ⟨[b], rfl, ?_, by omega, small, fun ended more => ?_⟩
      · simp only [List.cons_append, List.nil_append, List.length_cons]
        omega
      · rw [List.singleton_append, readHeaders_cons, step]
        rfl
    | on length' line' =>
      simp only [step] at read
      obtain ⟨headers, rfl, rfl, some, small, onward⟩ :=
        ih (headerStep_positive positive step) read
      refine ⟨b :: headers, rfl, ?_, some, small, fun ended more => ?_⟩
      · simp only [List.cons_append, List.length_cons]
        omega
      · rw [List.cons_append, readHeaders_cons, step]
        dsimp only
        rw [onward, List.length_cons, Nat.add_assoc, Nat.add_comm 1]

theorem readHeaders_frame (positive : length ≠ some 0)
    (read : readHeaders ended length line consumed bytes = .frame body used rest) :
    ∃ headers, bytes = headers ++ body ++ rest ∧ used = consumed + (headers ++ body).length ∧
      0 < body.length ∧ body.length ≤ maxBody ∧ ∀ ended more,
        readHeaders ended length line consumed (headers ++ body ++ more) = .frame body used more := by
  obtain ⟨headers, whole, sum, some, small, onward⟩ := readHeaders_headers positive read
  refine ⟨headers, whole, sum, some, small, fun ended more => ?_⟩
  rw [List.append_assoc, onward]
  refine readBody_eq_frame.mpr ⟨rfl, small, rfl, ?_⟩
  rw [sum, List.length_append, Nat.add_assoc]

theorem readHeaders_failed (read : readHeaders false length line consumed bytes = .failed error)
    (ended : Bool) (more : Bytes) :
    readHeaders ended length line consumed (bytes ++ more) = .failed error := by
  induction bytes generalizing length line consumed with
  | nil => simp [readHeaders] at read
  | cons b bytes ih =>
    rw [List.cons_append, readHeaders_cons]
    rw [readHeaders_cons] at read
    cases step : headerStep length line b with
    | failed error => simpa [step] using read
    | body =>
      simp only [step] at read ⊢
      exact readBody_failed read more
    | on length' line' =>
      simp only [step] at read ⊢
      exact ih read

/--
Bytes that are a frame by themselves.

They end with the body, which has a size that is allowed; and they are read as this frame whatever
follows them, and whether or not more may come.
-/
structure IsFrame (bytes body : Bytes) : Prop where
  headed : ∃ headers, bytes = headers ++ body
  sized : 0 < body.length ∧ body.length ≤ maxBody
  read : ∀ ended more, next ended (bytes ++ more) = .frame body bytes.length more

theorem next_frame (read : next ended bytes = .frame body used rest) :
    ∃ frame, bytes = frame ++ rest ∧ used = frame.length ∧ IsFrame frame body := by
  obtain ⟨headers, whole, sum, some, small, again⟩ := readHeaders_frame (by simp) read
  rw [Nat.zero_add] at sum
  subst sum
  exact ⟨headers ++ body, whole, rfl, ⟨headers, rfl⟩, ⟨some, small⟩, again⟩

theorem next_failed (read : next false bytes = .failed error) (ended : Bool) (more : Bytes) :
    next ended (bytes ++ more) = .failed error :=
  readHeaders_failed read ended more

theorem readBody_open (ended : Bool) (length : Option Nat) (consumed : Nat) (bytes : Bytes) :
    readBody ended length consumed bytes ≠ .ended ∧
      (ended = true → readBody ended length consumed bytes ≠ .waiting) := by
  unfold readBody
  split
  · simp
  · split
    · simp
    · dsimp only
      split
      · simp
      · split <;> simp_all

theorem readHeaders_open (ended : Bool) (length : Option Nat) (line : Bytes) (consumed : Nat)
    (bytes : Bytes) :
    (ended = false → readHeaders ended length line consumed bytes ≠ .ended) ∧
      (ended = true → readHeaders ended length line consumed bytes ≠ .waiting) := by
  induction bytes generalizing length line consumed with
  | nil =>
    cases ended with
    | false => simp [readHeaders]
    | true =>
      refine ⟨fun same => absurd same (by decide), fun _ => ?_⟩
      simp only [readHeaders, if_true]
      -- Whatever the last line says, there is no more to come.
      repeat' split
      case h_2 => exact (readBody_open true length consumed []).2 rfl
      all_goals simp
  | cons b bytes ih =>
    rw [readHeaders_cons]
    cases headerStep length line b with
    | failed error => simp
    | body => exact ⟨fun _ => (readBody_open ..).1, (readBody_open ..).2⟩
    | on length' line' => exact ih length' line' (consumed + 1)

/-! ### What was written -/

theorem isBlank_of_isDigit {c : Char} (digit : c.isDigit = true) : Text.isBlank c = false := by
  have bounds := Text.bounds_of_isDigit digit
  simp only [Text.isBlank, Bool.or_eq_false_iff, Bool.and_eq_false_iff, decide_eq_false_iff_not,
    beq_eq_false_iff_ne]
  omega

theorem parseLength?_toDigits {n : Nat} (small : n < 0x10000000000000000) :
    parseLength? (Nat.toDigits 10 n) = some n := by
  have digits : ∀ c ∈ Nat.toDigits 10 n, c.isDigit = true := fun c => Text.isDigit_of_mem
  have value : Text.valueAfter 0 (Nat.toDigits 10 n) = n := Text.valueAfter_toDigits n
  obtain ⟨c, rest, shape⟩ := List.exists_cons_of_ne_nil (Nat.toDigits_ne_nil (b := 10) (n := n))
  -- The first digit is no plus sign.
  have plain : c ≠ '+' := by
    rintro rfl
    have := digits '+' (by rw [shape]; exact List.mem_cons_self)
    simp at this
  rw [shape] at digits value ⊢
  have all : (c :: rest).all Char.isDigit = true := List.all_eq_true.mpr digits
  unfold parseLength?
  extract_lets digits found
  have unsigned : digits = c :: rest := by
    unfold digits
    split
    · rename_i same
      exact absurd (List.cons.inj same).1 plain
    · rfl
  have same : found = n := by
    unfold found
    rw [unsigned]
    exact value
  simp [unsigned, all, same, small]

def lengthMark : List Char :=
  ['C', 'o', 'n', 't', 'e', 'n', 't', '-', 'L', 'e', 'n', 'g', 't', 'h', ':', ' ']

def lengthLine (n : Nat) : List Char := lengthMark ++ (Nat.toDigits 10 n ++ ['\r'])

theorem parseHeader_lengthLine {n : Nat} (positive : 0 < n) (small : n < 0x10000000000000000) :
    parseHeader (Utf8.encode (lengthLine n) ++ [0x0A]) = .ok (.length n) := by
  have digits : ∀ c ∈ Nat.toDigits 10 n, Text.isBlank c = false := fun c member =>
    isBlank_of_isDigit (Text.isDigit_of_mem member)
  have last : ∀ c ∈ (Nat.toDigits 10 n).getLast?, Text.isBlank c = false := fun c final =>
    digits c (List.mem_of_getLast? final)
  have first : ∀ c ∈ (Nat.toDigits 10 n).head?, Text.isBlank c = false := fun c initial =>
    digits c (List.mem_of_head? initial)
  -- The line ends in blanks, and a blank stands before the number.
  have line : Utf8.encode (lengthLine n) ++ [0x0A] =
      Utf8.encode (lengthMark ++ Nat.toDigits 10 n ++ ['\r', '\n']) := by
    simp [lengthLine, Utf8.encode, List.flatMap_append, String.utf8EncodeChar]
  have trimmed : Text.trimChars (lengthMark ++ Nat.toDigits 10 n ++ ['\r', '\n']) =
      lengthMark ++ Nat.toDigits 10 n := by
    have final : (lengthMark ++ Nat.toDigits 10 n).getLast? = (Nat.toDigits 10 n).getLast? :=
      List.getLast?_append_of_ne_nil _ Nat.toDigits_ne_nil
    exact Text.trimChars_append [] (lengthMark ++ Nat.toDigits 10 n) ['\r', '\n'] (by simp)
      (by simp [Text.isBlank]) (by simp [lengthMark, Text.isBlank]) (by rwa [final])
  have value : Text.trimChars (' ' :: Nat.toDigits 10 n) = Nat.toDigits 10 n := by
    simpa using Text.trimChars_append [' '] (Nat.toDigits 10 n) [] (by simp [Text.isBlank]) (by simp)
      first last
  have name : Text.trimChars ((lengthMark ++ Nat.toDigits 10 n).takeWhile (· ≠ ':')) =
      ['C', 'o', 'n', 't', 'e', 'n', 't', '-', 'L', 'e', 'n', 'g', 't', 'h'] := by
    simp [lengthMark, Text.trimChars, Text.isBlank]
  have number : ((lengthMark ++ Nat.toDigits 10 n).dropWhile (· ≠ ':')).drop 1 =
      ' ' :: Nat.toDigits 10 n := by
    simp [lengthMark]
  have marked : ':' ∈ lengthMark ++ Nat.toDigits 10 n := by simp [lengthMark]
  obtain ⟨m, rfl⟩ := Nat.exists_eq_succ_of_ne_zero (Nat.ne_of_gt positive)
  rw [line]
  simp only [parseHeader, Utf8.decode?_encode, trimmed, name, number, value, marked,
    parseLength?_toDigits small]
  simp [lengthMark, Text.lowerAscii]

theorem write_eq (body : Bytes) : write body =
    Utf8.encode (lengthLine body.length) ++ 0x0A :: 0x0D :: 0x0A :: body := by
  have mark : (toString "Content-Length: ").toList = lengthMark := by decide +kernel
  have blank : (toString "\r\n\r\n").toList = ['\r', '\n', '\r', '\n'] := by decide +kernel
  simp [write, Bytes.ofText, Utf8.encode, lengthLine, mark, blank, List.flatMap_append,
    String.utf8EncodeChar]

theorem readHeaders_line (ended : Bool) (length : Option Nat) (line : Bytes) (consumed : Nat)
    {front : Bytes} (within : 0x0A ∉ front) (more : Bytes) :
    readHeaders ended length line consumed (front ++ 0x0A :: more) =
      readHeaders ended length (front.reverse ++ line) (consumed + front.length) (0x0A :: more) := by
  induction front generalizing line consumed with
  | nil => rfl
  | cons b front ih =>
    have apart : b ≠ 0x0A := fun same => within (same ▸ List.mem_cons_self)
    have step : headerStep length line b = .on length (b :: line) := by simp [headerStep, apart]
    rw [List.cons_append, readHeaders_cons, step]
    dsimp only
    rw [ih (b :: line) (consumed + 1) fun later => within (List.mem_cons_of_mem _ later)]
    simp only [List.reverse_cons, List.append_assoc, List.cons_append, List.nil_append,
      List.length_cons]
    congr 1
    omega

theorem newline_not_mem_lengthLine (n : Nat) : 0x0A ∉ Utf8.encode (lengthLine n) := by
  intro member
  have there : '\n' ∈ lengthLine n := Utf8.mem_of_mem_encode (by decide) member
  -- It is none of the digits, and stands nowhere else.
  simp only [lengthLine, List.mem_append] at there
  rcases there with mark | digit | final
  · simp [lengthMark] at mark
  · have := Text.isDigit_of_mem digit
    simp at this
  · simp at final

theorem isFrame_write {body : Bytes} (some : 0 < body.length) (small : body.length ≤ maxBody) :
    IsFrame (write body) body where
  headed := ⟨_, rfl⟩
  sized := ⟨some, small⟩
  read ended more := by
    have parsed := parseHeader_lengthLine some (Nat.lt_of_le_of_lt small (by decide))
    have first : headerStep none (Utf8.encode (lengthLine body.length)).reverse 0x0A =
        .on (.some body.length) [] := by
      simp [headerStep, parsed]
    -- A return before the end of a line is a blank as well.
    have second : headerStep (.some body.length) [] 0x0D = .on (.some body.length) [0x0D] := rfl
    have third : headerStep (.some body.length) [0x0D] 0x0A = .body := rfl
    have whole : write body ++ more = Utf8.encode (lengthLine body.length) ++
        0x0A :: 0x0D :: 0x0A :: (body ++ more) := by
      rw [write_eq, List.append_assoc]
      rfl
    rw [whole, next, readHeaders_line ended none [] 0 (newline_not_mem_lengthLine body.length),
      List.append_nil, readHeaders_cons, first]
    dsimp only
    rw [readHeaders_cons, second]
    dsimp only
    rw [readHeaders_cons, third]
    refine readBody_eq_frame.mpr ⟨rfl, small, rfl, ?_⟩
    simp only [write_eq, List.length_append, List.length_cons]
    omega

/-! ### Streams -/

variable {α : Type} (decode : Bytes → α)

theorem readAll_frame (read : next ended bytes = .frame body used rest) :
    readAll decode ended bytes =
      ((decode body, used) :: (readAll decode ended rest).1, (readAll decode ended rest).2) := by
  rw [readAll]
  split <;> simp_all

theorem readAll_write {bodies : List Bytes}
    (sized : ∀ body ∈ bodies, 0 < body.length ∧ body.length ≤ maxBody) (ended : Bool)
    (more : Bytes) :
    readAll decode ended (bodies.flatMap write ++ more) =
      (bodies.map (fun body => (decode body, (write body).length)) ++
        (readAll decode ended more).1, (readAll decode ended more).2) := by
  -- Each frame is taken off in turn, wherever it stands in the stream.
  induction bodies with
  | nil => rfl
  | cons body bodies ih =>
    obtain ⟨some, small⟩ := sized body List.mem_cons_self
    have read := (isFrame_write some small).read ended (bodies.flatMap write ++ more)
    rw [List.flatMap_cons, List.append_assoc, readAll_frame decode read,
      ih fun other member => sized other (List.mem_cons_of_mem _ member)]
    rfl

theorem readAll_nil : readAll decode true [] = ([], some (.ok ())) := by
  rw [readAll]
  rfl

/--
Frames that are written one after the other read back as the bodies they are made of.

Whatever bytes the bodies hold, each is read with the number of bytes that its frame was written
with, and after the last one the stream is over. Read as messages, each body is decoded by itself,
and one that does not decode leaves those after it as they are.
-/
theorem written_frames_read_back (bodies : List Bytes)
    (sized : ∀ body ∈ bodies, 1 ≤ body.length ∧ body.length ≤ maxBody) :
    readAll id true (bodies.flatMap write) =
        (bodies.map fun body => (body, (write body).length), some (.ok ())) ∧
      readAll Message.decode true (bodies.flatMap write) =
        (bodies.map fun body => (Message.decode body, (write body).length), some (.ok ())) := by
  have general : ∀ {α : Type} (decode : Bytes → α), readAll decode true (bodies.flatMap write) =
      (bodies.map fun body => (decode body, (write body).length), some (.ok ())) := by
    intro α decode
    have read := readAll_write decode sized true []
    rw [readAll_nil, List.append_nil, List.append_nil] at read
    exact read
  exact ⟨general id, general Message.decode⟩

/-- Bodies that look like headers, end lines, or are no text at all. -/
def trickyBodies : List Bytes := [
  Bytes.ofText "Content-Length: 3\r\n\r\n", [0x0D, 0x0A, 0x0D, 0x0A], [0xFF, 0x00, 0x0A],
  Bytes.ofText "\x7b\"jsonrpc\":\"2.0\",\"method\":\"exit\"\x7d"]

/-- Bodies that could be mistaken for frames are read as they are, and the message after them too. -/
theorem tricky_bodies_read_back :
    readAll id true (trickyBodies.flatMap write) =
        (trickyBodies.zip [43, 25, 24, 55], some (.ok ())) ∧
      (readAll Message.decode true (trickyBodies.flatMap write)).1.map (·.1.isOk) =
        [false, false, false, true] := by
  obtain ⟨frames, messages⟩ := written_frames_read_back trickyBodies (by decide +kernel)
  rw [frames, messages]
  refine ⟨congrArg (·, _) ?_, ?_⟩ <;> decide +kernel

end Rpc.Frame

end PolicyServer
