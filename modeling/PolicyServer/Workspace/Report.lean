import PolicyServer.Json.Binary
import PolicyServer.Workspace.State

/-! What can be told of a workspace: its files and its snapshots. -/

namespace PolicyServer

open Json

def FileHandle.report (handle : FileHandle) : Json :=
  match handle.content with
  | .ok contents => .ofBytes contents
  | .error error =>
    let kind := match error with
      | .closed => "Closed"
      | _ => "Read"
    .ofMembers [("error", .str kind), ("message", .str (FileError.message handle.uri error))]

def FileMap.report (files : FileMap) : Json :=
  .arr (files.map fun (uri, handle) => .arr [.str uri, toJson handle.version, handle.report])

/-- All that a snapshot holds, and how it stands. -/
def Workspace.reportSnapshot (w : Workspace) (seq : Nat) : Json :=
  let snapshot := w.snapshots[seq]?.getD {}
  let error := snapshot.readiness.error?.map fun error => Json.str error.message
  .ofMembers [
    ("seq", .int seq),
    ("refs", .int snapshot.refs),
    ("initialized", .bool snapshot.readiness.isKnown),
    ("runner", .bool snapshot.readiness.runner?.isSome),
    ("init_error", error.getD .null),
    ("cancelled", .bool (w.isSuperseded seq)),
    ("files", snapshot.files.report),
    ("debug", .str (snapshot.describe seq))]

end PolicyServer
