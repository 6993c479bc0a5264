import PolicyServer.Server.Departure
import PolicyServer.Server.Mention
import PolicyServer.Server.Surroundings

/-! The server on standard input and output. -/

namespace PolicyServer

/-- The rounds of work after which the server listens again. -/
def rounds : Nat := 100000

/-- The names of the variables that a text refers to. -/
def variableNames (text : String) : List String :=
  ((text.splitOn "$\x7b").drop 1).map fun part => (part.splitOn "\x7d").headD ""

/-- The disk with what lies at a path now; what cannot be read as a file counts as a directory. -/
def look (disk : Disk) (path : Bytes) : IO Disk := do
  let name := Utf8.decodeLossy path
  try
    let contents ← IO.FS.readBinFile name
    return disk.write path (.file contents.toList)
  catch _ =>
    try
      let _ ← IO.FS.realPath name
      return disk.write path .directory
    catch _ => return disk.remove path

def readEnvironment (names : List String) : IO Environment :=
  names.filterMapM fun name => return (← IO.getEnv name).map (name, ·)

/-- The surroundings that the server is started in. No program can be started from here. -/
def readSurroundings : IO Surroundings := do
  let directory := Bytes.ofText (← IO.currentDir).toString
  let names := ["WARDEN_CONFIG", "HOME"]
  let environment ← readEnvironment names
  let disk ← match Settings.path environment with
    | some path => look {} (Path.within directory (Bytes.ofText path))
    | none => pure {}
  let here : Surroundings := { environment, directory, disk }
  let referred := match here.source with
    | .file contents => variableNames (Utf8.decodeLossy contents)
    | _ => []
  let environment ← readEnvironment (names ++ "OPENAI_API_KEY" :: referred)
  return { here with
    environment
    finds := fun _ => true
    launch := fun _ => .refused "programs cannot be started" }

/-- Opens the log in the first directory that can hold it. -/
def openLogFile (here : Surroundings) : IO Unit := do
  for directory in here.logDirectories do
    let name := "/" ++ String.intercalate "/" (directory.map Utf8.decodeLossy)
    try
      IO.FS.createDirAll name
      let _ ← IO.FS.Handle.mk (name ++ "/" ++ Utf8.decodeLossy Surroundings.logName) .append
      return
    catch _ => continue

/-- The surroundings with the files that waiting messages mention as they are now. -/
def refresh (here : Surroundings) (s : Session) : IO Surroundings := do
  let paths := s.intake.drain.1.flatMap fun
    | .message message => message.paths
    | .last _ => []
  let projects := paths.map fun path => path ++ 0x2F :: Bytes.ofText Preview.projectFile
  return { here with disk := ← (paths ++ projects).foldlM look here.disk }

def sendNews (stdout : IO.FS.Stream) (s : Session) (sent : Nat) : IO Unit := do
  for message in s.conn.written.drop sent do
    stdout.write ⟨(Rpc.Frame.write message.encode).toArray⟩
  stdout.flush

partial def listen (stdin stdout : IO.FS.Stream) (settings : Settings) (here : Surroundings)
    (s : Session) : IO Departure := do
  match s.departure? with
  | some departure => return departure
  | none =>
    let chunk ← stdin.read 65536
    let sent := s.conn.written.length
    let s := if chunk.isEmpty then s.finish else s.feed chunk.toList
    let here ← refresh here s
    let s := { s with workspace := { s.workspace with disk := here.disk } }
    let s := s.advance (here.collaborators settings) (fun _ => none) rounds 1
    sendNews stdout s sent
    listen stdin stdout settings here s

end PolicyServer

open PolicyServer

def main : IO UInt32 := do
  let here ← readSurroundings
  openLogFile here
  let settings := here.settings
  let workspace : Workspace := {
    tracker := ⟨fun number => s!"work-{number + 1}", false, 0, []⟩
    slots := settings.slots }
  let departure ← listen (← IO.getStdin) (← IO.getStdout) settings here
    { workspace := workspace.spawn .forward }
  (← IO.getStderr).putStr departure.complaint
  return UInt32.ofNat departure.code
