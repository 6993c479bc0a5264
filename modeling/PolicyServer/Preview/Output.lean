import PolicyServer.Text.Blank
import PolicyServer.Text.Utf8

/-! What a program leaves: how it ended, and the last of what it wrote. -/

namespace PolicyServer.Preview

/-- How a program ended: by itself, or by a signal. -/
inductive ExitStatus where
  | code (code : Nat)
  | signal (number : Nat)
  deriving DecidableEq, Repr

def signalNames : List String :=
  ["SIGHUP", "SIGINT", "SIGQUIT", "SIGILL", "SIGTRAP", "SIGABRT", "SIGBUS", "SIGFPE", "SIGKILL",
    "SIGUSR1", "SIGSEGV", "SIGUSR2", "SIGPIPE", "SIGALRM", "SIGTERM", "SIGSTKFLT", "SIGCHLD",
    "SIGCONT", "SIGSTOP", "SIGTSTP", "SIGTTIN", "SIGTTOU", "SIGURG", "SIGXCPU", "SIGXFSZ",
    "SIGVTALRM", "SIGPROF", "SIGWINCH", "SIGIO", "SIGPWR", "SIGSYS"]

namespace ExitStatus

def isSuccess (status : ExitStatus) : Bool := status = .code 0

def renderSignal (number : Nat) : String :=
  match if number = 0 then none else signalNames[number - 1]? with
  | some name => s!"signal: {number} ({name})"
  | none => s!"signal: {number}"

def render : ExitStatus → String
  | .code value => s!"exit status: {value}"
  | .signal number => renderSignal number

def describe : ExitStatus → String
  | .code value => s!"exit code {value}"
  | .signal number => renderSignal number

end ExitStatus

/-- Adds a chunk to what is kept, of which only the last bytes stay. -/
def keepChunk (limit : Nat) (kept chunk : Bytes) : Bytes :=
  let all := kept ++ chunk
  all.drop (all.length - limit)

/-- The last bytes of a stream that comes in chunks. -/
def keepLast (limit : Nat) (chunks : List Bytes) : Bytes := chunks.foldl (keepChunk limit) []

def trimOutput (output : Bytes) : String := Text.trim (Utf8.decodeLossy output)

end PolicyServer.Preview
