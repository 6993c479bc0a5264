import PolicyServer.Protocol.Diagnostic
import PolicyServer.Protocol.Window

/-! What the server sends to the editor of its own accord. -/

namespace PolicyServer

open Json

/-- A message to the editor. Creating a token and asking for settings are calls; all else is told. -/
inductive Outgoing where
  | publish (params : PublishDiagnostics)
  | log (notice : Notice)
  | show (notice : Notice)
  | create (token : ProgressToken)
  | progress (token : ProgressToken) (stage : WorkStage)
  | settings

namespace Outgoing

def method : Outgoing → String
  | .publish _ => "textDocument/publishDiagnostics"
  | .log _ => "window/logMessage"
  | .show _ => "window/showMessage"
  | .create _ => "window/workDoneProgress/create"
  | .progress _ _ => "$/progress"
  | .settings => "workspace/configuration"

def params : Outgoing → Json
  | .publish params => Wire.toJson params
  | .log notice => notice.toJson
  | .show notice => notice.toJson
  | .create token => .ofMembers [("token", Wire.toJson token)]
  | .progress token stage => .ofMembers [("token", Wire.toJson token), ("value", stage.toJson)]
  | .settings => .ofMembers [("items", .arr [.ofMembers [("section", .str "warden")]])]

def isCall : Outgoing → Bool
  | .create _ => true
  | .settings => true
  | _ => false

end Outgoing

/-- The way to the editor and what has been sent along it. Once `closed`, no answer can come back;
once `broken`, nothing more can be sent. -/
structure Outbox where
  sent : List Outgoing := []
  closed : Bool := false
  broken : Bool := false

namespace Outbox

/-- Sends a message if it can be sent. -/
def send (outbox : Outbox) (message : Outgoing) : Outbox :=
  if outbox.broken then outbox else { outbox with sent := outbox.sent ++ [message] }

/-- Holds while a call can be made. -/
def takesCalls (outbox : Outbox) : Bool := !outbox.closed && !outbox.broken

end Outbox

end PolicyServer
