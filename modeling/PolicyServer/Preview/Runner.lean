import PolicyServer.Preview.Command

/-! Runners: a program bound to a stack, which previews as often as it is asked to. -/

namespace PolicyServer.Preview

/-- A runner: the settings it was found by, and the stack it previews. -/
structure Runner where
  settings : RunnerSettings
  stack : String

namespace Runner

def find (settings : RunnerSettings) (root : String) (hasProject isFound : Bool)
    (launch : List String → Launch) : Except ResolveError Runner :=
  (resolve root settings.command hasProject isFound (launch stackArgs)).map (⟨settings, ·⟩)

def args (runner : Runner) : List String := previewArgs runner.settings runner.stack

/-- The variables set for a preview: those of the settings, and the place of its log, which counts
before them. -/
def environment (runner : Runner) (log : String) : Table String :=
  Table.put logVariable log runner.settings.env

def run (runner : Runner) (launch : List String → Launch) : Except RunError Resources :=
  results runner.settings.command (launch runner.args)

end Runner

end PolicyServer.Preview
