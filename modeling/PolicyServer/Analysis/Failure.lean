/-! Why an analysis cannot be prepared, and why one brings no results. -/

namespace PolicyServer

inductive ResolveError where
  | missingProject (root : String)
  | notFound (command : String)
  | spawn (command reason : String)
  | stack (reason : String)
  | cancelled
  deriving DecidableEq, Repr

def ResolveError.message : ResolveError → String
  | .missingProject root => s!"no Pulumi.yaml in {root}"
  | .notFound command => s!"{command} not found in PATH: cannot find binary path"
  | .spawn command reason => s!"failed to run {command}: {reason}"
  | .stack reason => s!"could not determine the current stack: {reason}"
  | .cancelled => "resolution cancelled"

inductive RunError where
  | cancelled
  | spawn (command reason : String)
  | log (reason : String)
  | command (status stderr : String)
  deriving DecidableEq, Repr

namespace RunError

def message : RunError → String
  | .cancelled => "analysis cancelled"
  | .spawn program reason => s!"failed to start {program}: {reason}"
  | .log reason => s!"reading the event log failed: {reason}"
  | .command status stderr => s!"analysis exited with {status}: {stderr}"

def isCancelled (error : RunError) : Bool := error = .cancelled

end RunError

end PolicyServer
