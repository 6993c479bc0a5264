import PolicyServer.Analysis.Failure
import PolicyServer.Document.File

/-! Snapshots: the documents as they were between two changes, and what is known to analyse them with. -/

namespace PolicyServer

/-- What looking for a runner came to; a runner is named by the attempt that found it. -/
inductive Readiness where
  | unresolved
  | ready (runner : Nat)
  | failed (error : ResolveError)
  deriving DecidableEq, Repr

namespace Readiness

/-- Holds once an attempt has come to something. -/
def isKnown : Readiness → Bool
  | .unresolved => false
  | _ => true

def runner? : Readiness → Option Nat
  | .ready runner => some runner
  | _ => none

def error? : Readiness → Option ResolveError
  | .failed error => some error
  | _ => none

/-- What the next snapshot starts with: a runner is kept, and so is a failure unless it is to be
tried again. -/
def inherited (readiness : Readiness) (retry : Bool) : Readiness :=
  match readiness with
  | .failed _ => if retry then .unresolved else readiness
  | _ => readiness

end Readiness

/-- The documents between two changes. `superseded` says that a save came after, and `refs` counts
the references to it. -/
structure Snapshot where
  files : FileMap := []
  superseded : Bool := false
  readiness : Readiness := .unresolved
  refs : Nat := 1

namespace Snapshot

def successor (snapshot : Snapshot) (changes : List FileHandle) (retry : Bool) : Snapshot where
  files := changes.foldl FileMap.apply snapshot.files
  readiness := snapshot.readiness.inherited retry

def describe (seq : Nat) (snapshot : Snapshot) : String :=
  s!"Snapshot \x7b seq: {seq}, files: {snapshot.files.length}, refs: {snapshot.refs}, .. \x7d"

end Snapshot

end PolicyServer
