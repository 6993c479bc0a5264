import PolicyServer.Workspace.Fixing

/-! The stages of a session: what the editor may ask and tell at each of them. -/

namespace PolicyServer.Workspace

/-- What the server can do, as the editor is told in the handshake. -/
def capabilities : Json := .ofMembers [
  ("capabilities", .ofMembers [
    ("textDocumentSync", .int 1),
    ("codeActionProvider", .ofMembers [
      ("codeActionKinds", .arr [.str QuickFix.kind]),
      ("resolveProvider", .bool true)])]),
  ("serverInfo", .ofMembers [("name", .str "warden"), ("version", .str "0.1.0")])]

/-- Why a handshake is refused at this stage, if it is. -/
def handshakeRefusal? (w : Workspace) : Option Rpc.Error :=
  match w.lifecycle with
  | .created => none
  | .shutDown => some (.invalidRequest "server is shut down")
  | .initializing | .initialized => some (.invalidRequest "initialize may only be sent once")

def rootOf (params : InitializeParams) : Except Rpc.Error Bytes :=
  match params.root with
  | none => .error (.invalidParams "initialize requires rootUri or workspaceFolders")
  | some uri =>
    match uri.toPath with
    | .error error => .error (.invalidParams error.message)
    | .ok root => .ok root

/-- The handshake; one that is refused changes nothing. -/
def handshake (w : Workspace) (params : InitializeParams) : Except Rpc.Error Json × Workspace :=
  match w.handshakeRefusal?, rootOf params with
  | some error, _ => (.error error, w)
  | none, .error error => (.error error, w)
  | none, .ok root =>
    let filter := match params.initializationOptions.bind (·.logLevel) with
      | some level => LogLevel.change w.filter level
      | none => w.filter
    (.ok capabilities, { w with
      lifecycle := .initializing
      root
      filter
      tracker := { w.tracker with supported := params.workDoneProgress }
      asksSettings := params.configuration })

def initialMessage : String := "Calculating initial diagnostics..."

/-- The editor is ready: the view is opened, the worker started, and the first pass begun. -/
def enterSession (w : Workspace) : Workspace :=
  if w.lifecycle = .initializing then
    let w := ({ w with lifecycle := .initialized }.openView).beginPass 0
    -- The pass is numbered first, but the worker is started before its task.
    (w.spawn (.documents .idle)).spawn
      (.pass { pass := 0, snapshot := 0, message := initialMessage, phase := .configuring })
  else w

/-- Takes in a change to a document, which only a session that is under way does. -/
def takeModification (w : Workspace) (modification : Modification) : Workspace :=
  if w.lifecycle = .initialized then { w with documents := w.documents ++ [[modification]] } else w

def codeActions (c : Collaborators) (w : Workspace) (params : CodeActionParams) :
    Except Rpc.Error Json :=
  match w.inactive? with
  | some error => .error error
  | none => .ok (if c.fix.isSome then Wire.toJson (QuickFix.offers params.diagnostics) else .arr [])

/-- The editor leaves: all is well if it had asked to shut down. -/
def leave (w : Workspace) : Workspace :=
  { w with exitCode := some (if w.lifecycle = .shutDown then 0 else 1) }

/-- The editor cancels work; a token that cannot be cancelled is passed over. -/
def cancelWork (w : Workspace) (token : ProgressToken) : Workspace :=
  match w.tracker.cancel token with
  | .ok scope => w.endScope scope
  | .error _ => w

/-- Takes in what the editor tells. -/
def hear (w : Workspace) : News → Workspace
  | .initialized => w.enterSession
  | .exit => w.leave
  | .opened document =>
    w.takeModification ⟨document.uri, .opened, some document.version, some document.text⟩
  | .changed document changes =>
    match changes.getLast? with
    | none => w
    -- Documents come whole, so only the last change counts.
    | some change => w.takeModification ⟨document.uri, .changed, some document.version, some change.text⟩
  | .closed uri => w.takeModification ⟨uri, .closed, none, none⟩
  | .saved uri text => w.takeModification ⟨uri, .saved, none, text⟩
  | .cancelWork token => w.cancelWork token

end PolicyServer.Workspace
