import PolicyServer.Analysis.Failure
import PolicyServer.Config.Settings
import PolicyServer.EventLog.Follow
import PolicyServer.Preview.Output

/-! The analysis by command line: the stack is asked for, and a preview leaves a log of its events. -/

namespace PolicyServer.Preview

/-- The file that makes a directory a project. -/
def projectFile : String := "Pulumi.yaml"

/-- The variable that names the log of events. -/
def logVariable : String := "PULUMI_DEBUG_GRPC"

/-- The most bytes kept of what a preview complains. -/
def maxComplaint : Nat := 8192

def stackArgs : List String := ["stack", "--show-name", "--non-interactive"]

/-- The arguments of a preview: the policy packs come after the stack, and further arguments last. -/
def previewArgs (settings : RunnerSettings) (stack : String) : List String :=
  ["preview", "--stack", stack, "--non-interactive", "--suppress-progress"] ++
    settings.policyPacks.flatMap (fun pack => ["--policy-pack", pack]) ++ settings.args

/-- What a program did: how it ended, what it wrote, and the log it left, if that can be read. -/
structure Execution where
  status : ExitStatus := .code 0
  stdout : Bytes := []
  stderr : Bytes := []
  log : Except String (Option Bytes) := .ok none

inductive Launch where
  | refused (reason : String)
  | done (execution : Execution)
  | cancelled

/-- The current stack, as the program tells it. -/
def stackOf (command : String) : Launch → Except ResolveError String
  | .refused reason => .error (.spawn command reason)
  | .cancelled => .error .cancelled
  | .done execution =>
    if execution.status.isSuccess then
      let stack := trimOutput execution.stdout
      if stack.isEmpty then .error (.stack "no stack selected") else .ok stack
    else .error (.stack s!"{trimOutput execution.stderr} ({execution.status.render})")

/-- The current stack of a project: there must be a project, and a program to ask. -/
def resolve (root command : String) (hasProject isFound : Bool) (launch : Launch) :
    Except ResolveError String :=
  if !hasProject then .error (.missingProject root)
  else if !isFound then .error (.notFound command)
  else stackOf command launch

/-- The results of a preview. One that fails has results all the same if its log tells of events:
violations make a preview fail. -/
def results (program : String) : Launch → Except RunError Resources
  | .refused reason => .error (.spawn program reason)
  | .cancelled => .error .cancelled
  | .done execution =>
    match execution.log with
    | .error reason => .error (.log reason)
    | .ok file =>
      let store := EventLog.Store.ofLog file
      if execution.status.isSuccess || store.events ≠ 0 then .ok store.resources
      else
        let complaint := keepLast maxComplaint [execution.stderr]
        .error (.command execution.status.describe (trimOutput complaint))

end PolicyServer.Preview
