import PolicyServer.Rpc.Message
import PolicyServer.Text.Blank

/-! Frames: header lines, a blank line, and as many bytes as the headers say. -/

namespace PolicyServer.Rpc

def maxBody : Nat := 4194304

/-- Why the bytes received are no frame, or the bytes to be sent cannot be. -/
inductive FrameError where
  | notText (fault : Utf8.Fault)
  | brokenPipe
  | endInHeaders
  | endInBody
  | header (line : String)
  | contentLength (value : String)
  | noContentLength
  | tooLarge (length : Nat)
  | undecodable (error : MessageError)

def FrameError.message : FrameError → String
  | .notText fault => s!"transport I/O failed: {fault.message}"
  | .brokenPipe => "transport I/O failed: broken pipe"
  | .endInHeaders => "unexpected EOF while reading headers"
  | .endInBody => "unexpected EOF while reading frame body"
  | .header line => s!"malformed header line {Text.quote line}"
  | .contentLength value => s!"invalid Content-Length value {Text.quote value}"
  | .noContentLength => "missing Content-Length header"
  | .tooLarge length => s!"Content-Length {length} exceeds maximum {maxBody}"
  | .undecodable error => error.message

/-- The wording of a cause, followed by that of what brought it about. -/
def FrameError.chain (error : FrameError) : String :=
  match error with
  | .notText fault => s!"{error.message}: {fault.message}"
  | .brokenPipe => s!"{error.message}: broken pipe"
  | _ => error.message

/-- How reading ended: the stream was over, or it cannot be read further. -/
abbrev Ending := Except FrameError Unit

namespace Frame

inductive Header where
  | blank
  | length (bytes : Nat)
  | other

/-- A decimal number of at most 64 bits, with or without a plus sign. -/
def parseLength? (text : List Char) : Option Nat :=
  let digits := match text with
    | '+' :: rest => rest
    | rest => rest
  if digits ≠ [] ∧ digits.all Char.isDigit then
    let value := digits.foldl (fun value c => 10 * value + (c.toNat - 48)) 0
    if value < 0x10000000000000000 then some value else none
  else none

/-- What a header line says; its name counts in any case. -/
def parseHeader (line : Bytes) : Except FrameError Header :=
  match Utf8.decode? line with
  | none => .error (.notText ((Utf8.fault? line).getD ⟨0, none⟩))
  | some chars =>
    let line := Text.trimChars chars
    if line.isEmpty then .ok .blank
    else if ':' ∉ line then .error (.header (String.ofList line))
    else
      let name := Text.trimChars (line.takeWhile (· ≠ ':'))
      let value := Text.trimChars ((line.dropWhile (· ≠ ':')).drop 1)
      if name.map Text.lowerAscii = "content-length".toList then
        match parseLength? value with
        | some (length + 1) => .ok (.length (length + 1))
        | _ => .error (.contentLength (String.ofList value))
      else .ok .other

/-- What reading a frame comes to: more bytes are needed, the stream is over, a body is there with
the number of bytes its frame takes and the bytes after it, or there is no frame. -/
inductive Progress where
  | waiting
  | ended
  | frame (body : Bytes) (consumed : Nat) (rest : Bytes)
  | failed (error : FrameError)

def readBody (ended : Bool) (length : Option Nat) (consumed : Nat) (bytes : Bytes) : Progress :=
  match length with
  | none => .failed .noContentLength
  | some length =>
    if length > maxBody then .failed (.tooLarge length)
    else
      let body := bytes.take length
      if body.length = length then .frame body (consumed + length) (bytes.drop length)
      else if ended then .failed .endInBody
      else .waiting

/-- Reads a frame byte by byte. `length` is what the headers said so far, `line` the current line
backwards, `consumed` the bytes read. -/
def readHeaders (ended : Bool) (length : Option Nat) (line : Bytes) (consumed : Nat) :
    Bytes → Progress
  | [] =>
    if ended then
      if consumed = 0 then .ended
      else if line.isEmpty then .failed .endInHeaders
      else
        match parseHeader line.reverse with
        | .error error => .failed error
        | .ok .blank => readBody ended length consumed []
        | .ok _ => .failed .endInHeaders
    else .waiting
  | b :: rest =>
    if b = 0x0A then
      match parseHeader (line.reverse ++ [b]) with
      | .error error => .failed error
      | .ok .blank => readBody ended length (consumed + 1) rest
      | .ok (.length value) => readHeaders ended (some value) [] (consumed + 1) rest
      | .ok .other => readHeaders ended length [] (consumed + 1) rest
    else readHeaders ended length (b :: line) (consumed + 1) rest

/-- The next frame of a stream, of which these bytes have come and, if `ended`, no more will. -/
def next (ended : Bool) (bytes : Bytes) : Progress := readHeaders ended none [] 0 bytes

theorem readBody_rest {ended : Bool} {length : Option Nat} {consumed used : Nat}
    {bytes body rest : Bytes} (read : readBody ended length consumed bytes = .frame body used rest) :
    rest.length ≤ bytes.length := by
  unfold readBody at read
  split at read
  · cases read
  · split at read
    · cases read
    · dsimp only at read
      split at read
      · cases read
        simp
      · split at read <;> cases read

theorem readHeaders_rest {ended : Bool} {length : Option Nat} {line : Bytes} {consumed used : Nat}
    {bytes body rest : Bytes}
    (read : readHeaders ended length line consumed bytes = .frame body used rest) :
    rest.length ≤ bytes.length := by
  -- Byte by byte, up to the blank line that the body follows.
  induction bytes generalizing length line consumed with
  | nil =>
    simp only [readHeaders] at read
    repeat' split at read
    case h_2 => exact readBody_rest read
    all_goals cases read
  | cons b bytes ih =>
    simp only [readHeaders] at read
    have later : rest.length ≤ bytes.length := by
      split at read
      · split at read
        · cases read
        · exact readBody_rest read
        · exact ih read
        · exact ih read
      · exact ih read
    exact Nat.le_succ_of_le later

/-- A frame takes a byte at least. -/
theorem next_rest {ended : Bool} {bytes body rest : Bytes} {used : Nat}
    (read : next ended bytes = .frame body used rest) : rest.length < bytes.length := by
  cases bytes with
  | nil => cases ended <;> simp [next, readHeaders] at read
  | cons b bytes =>
    simp only [next, readHeaders] at read
    refine Nat.lt_succ_of_le ?_
    -- The first byte is taken by a header, or by the blank line.
    split at read
    · split at read
      · cases read
      · exact readBody_rest read
      · exact readHeaders_rest read
      · exact readHeaders_rest read
    · exact readHeaders_rest read

/-- All that can be read from a stream: each body, decoded, with the number of bytes its frame takes,
and how reading ends, unless more bytes are needed. -/
def readAll (decode : Bytes → α) (ended : Bool) (bytes : Bytes) :
    List (α × Nat) × Option Ending :=
  match _read : next ended bytes with
  | .waiting => ([], none)
  | .ended => ([], some (.ok ()))
  | .failed error => ([], some (.error error))
  | .frame body consumed rest =>
    -- A body that does not decode does not end reading.
    let (later, ending) := readAll decode ended rest
    ((decode body, consumed) :: later, ending)
termination_by bytes.length
decreasing_by exact next_rest (by assumption)

def write (body : Bytes) : Bytes :=
  Bytes.ofText s!"Content-Length: {body.length}\r\n\r\n" ++ body

end Frame

end PolicyServer.Rpc
