import PolicyServer.Fix.Exchange
import PolicyServer.Preview.Runner
import PolicyServer.Workspace.Task

/-! What a server finds where it is started: its settings, a place for its log, and its collaborators. -/

namespace PolicyServer

/-- Where a server is started. `finds` tells the commands that can be found, `launch` what running
one with some arguments comes to, and `exchange` what comes of a request for a fix. -/
structure Surroundings where
  environment : Environment := []
  directory : Bytes := []
  disk : Disk := {}
  finds : String → Bool := fun _ => false
  launch : List String → Preview.Launch := fun _ => .cancelled
  exchange : Fix.Request → Fix.Reply := fun request =>
    .unreachable s!"error sending request for url ({request.endpoint})"

namespace Surroundings

def source (here : Surroundings) : Settings.Source :=
  match Settings.path here.environment with
  | none => .missing
  | some path =>
    match here.disk.read (Path.within here.directory (Bytes.ofText path)) with
    | .ok contents => .file contents
    | .error .isDirectory => .unreadable
    | .error _ => .missing

/-- The settings. Where they cannot be had, the standing ones hold as they are, with no variable
replaced. -/
def settings (here : Surroundings) : Settings :=
  match Settings.load here.environment here.source with
  | .ok settings => settings
  | .error _ => {}

def logName : Bytes := Bytes.ofText "warden.log"

/-- The directory that the settings lie in. The root lies in none, and the working directory by its
own name, a dot, in itself. -/
def settingsDirectory? (here : Surroundings) : Option (List Bytes) := do
  let path := Bytes.ofText (← Settings.path here.environment)
  let parents := (Path.components path).dropLast
  if !Path.isAbsolute path then some (Path.components here.directory ++ parents)
  else if (Path.components path).isEmpty then none
  else some parents

/-- The directories that the log may lie in: beside the settings, else below the working
directory. -/
def logDirectories (here : Surroundings) : List (List Bytes) :=
  let logs := Bytes.ofText "logs"
  let below := Path.components here.directory ++ [Bytes.ofText ".warden"]
  (here.settingsDirectory?.toList ++ [below]).map (· ++ [logs])

/-- The disk once the log is open: it lies in the first directory that can hold it. -/
def openLog (here : Surroundings) : Disk :=
  (here.logDirectories.findSome? fun directory => here.disk.touch directory logName).getD here.disk

def hasProject (here : Surroundings) (root : Bytes) : Bool :=
  here.disk.isThere (root ++ 0x2F :: Bytes.ofText Preview.projectFile)

/-- The collaborators by these settings; there is no fixer where fixes are turned off. -/
def collaborators (here : Surroundings) (settings : Settings) : Collaborators where
  resolve root _ :=
    let found := here.finds settings.runner.command
    ⟨0, false, match Preview.Runner.find settings.runner (Utf8.decodeLossy root)
        (here.hasProject root) found here.launch with
      | .ok _ => none
      | .error error => some error⟩
  run _ :=
    ⟨0, false, match Preview.stackOf settings.runner.command (here.launch Preview.stackArgs) with
      | .ok stack => Preview.Runner.run ⟨settings.runner, stack⟩ here.launch
      | .error _ => .error .cancelled⟩
  fix :=
    if settings.fixer.enabled then
      some fun code cause _ => ⟨0, false, Fix.request settings.fixer code cause >>= fun request =>
        Fix.interpret (here.exchange request)⟩
    else none
  fixTimeout := 1000 * settings.fixer.timeout

end Surroundings

end PolicyServer
