import PolicyServer.EventLog.Store

/-! Following a log that is still being written: whole lines as they come, and what is left at the end. -/

namespace PolicyServer.EventLog

/-- The whole lines of some bytes, without their ends, and the bytes after the last of them. `line`
holds the current line backwards. -/
def cutFrom (done : List Bytes) (line : Bytes) : Bytes → List Bytes × Bytes
  | [] => (done.reverse, line.reverse)
  | b :: rest =>
    if b = 0x0A then cutFrom (line.reverse :: done) [] rest else cutFrom done (b :: line) rest

def cut (bytes : Bytes) : List Bytes × Bytes := cutFrom [] [] bytes

/-- The text of a line: one carriage return at its end is no part of it. -/
def lineText (line : Bytes) : String :=
  Utf8.decodeLossy (if line.getLast? = some 0x0D then line.dropLast else line)

/-- How following ends: the writer was done and all was read, or it was given up. -/
inductive FollowEnd where
  | drained
  | cancelled
  deriving DecidableEq, Repr

/-- Where following stands: it looks whether to go on, it reads knowing whether the writer was done
before, or it has ended. -/
inductive FollowPhase where
  | checking
  | reading (last : Bool)
  | ended (ending : FollowEnd)
  deriving DecidableEq, Repr

/-- A log being followed. `file` is what the writer has written, if there is a file; `read` counts
the bytes read, `pending` are those that make no whole line yet, and `lines` is what was delivered. -/
structure Follow where
  file : Option Bytes := none
  finished : Bool := false
  cancelled : Bool := false
  read : Nat := 0
  pending : Bytes := []
  lines : List String := []
  phase : FollowPhase := .checking
  deriving DecidableEq

namespace Follow

def append (follow : Follow) (bytes : Bytes) : Follow :=
  { follow with file := some (follow.file.getD [] ++ bytes) }

def finish (follow : Follow) : Follow := { follow with finished := true }

def cancel (follow : Follow) : Follow := { follow with cancelled := true }

/-- Reads to the end of the file and delivers the lines that are whole. -/
def readOn (follow : Follow) : Follow :=
  match follow.file with
  | none => follow
  | some file =>
    let (lines, pending) := cut (follow.pending ++ file.drop follow.read)
    { follow with
      read := file.length
      pending
      lines := follow.lines ++ lines.map lineText }

/-- What is left at the end is the last line. -/
def flush (follow : Follow) : Follow :=
  if follow.pending.isEmpty then follow
  else { follow with lines := follow.lines ++ [Utf8.decodeLossy follow.pending], pending := [] }

/-- The next step. Whether the writer is done is looked up before reading, so nothing it wrote is
missed. -/
def step (follow : Follow) : Option Follow :=
  match follow.phase with
  | .ended _ => none
  | .checking =>
    some { follow with phase :=
      if follow.cancelled then .ended .cancelled else .reading follow.finished }
  | .reading last =>
    let follow := follow.readOn
    some (if last then { follow.flush with phase := .ended .drained }
      else { follow with phase := .checking })

/-- The lines of a log whose writer is done. -/
def linesOf (file : Option Bytes) : List String :=
  (({ file, finished := true } : Follow).readOn.flush).lines

end Follow

def Store.ofLog (file : Option Bytes) : Store := (Follow.linesOf file).foldl Store.ingest {}

end PolicyServer.EventLog
