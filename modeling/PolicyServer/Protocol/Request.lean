import PolicyServer.Protocol.Diagnostic
import PolicyServer.Protocol.Window

/-! What the editor asks and tells: the calls and notifications that are understood. -/

namespace PolicyServer

open Json

structure WorkspaceFolder where
  uri : DocumentUri
  name : String := ""
  deriving DecidableEq, Inhabited

instance : Wire WorkspaceFolder where
  toJson folder := .ofMembers [("uri", toJson folder.uri), ("name", toJson folder.name)]
  decode := Layout.decode {
    name := "WorkspaceFolder"
    blank := default
    slots := [
      .required "uri" fun folder uri => { folder with uri },
      .defaulted "name" fun folder name => { folder with name }] }

structure WindowCapabilities where
  workDoneProgress : Option Bool := none

instance : Wire WindowCapabilities where
  toJson window := .ofPresent [("workDoneProgress", window.workDoneProgress.map toJson)]
  decode := Layout.decode {
    name := "WindowClientCapabilities"
    blank := {}
    slots := [.nullable "workDoneProgress" fun window workDoneProgress =>
      { window with workDoneProgress }] }

structure WorkspaceCapabilities where
  configuration : Option Bool := none

instance : Wire WorkspaceCapabilities where
  toJson workspace := .ofPresent [("configuration", workspace.configuration.map toJson)]
  decode := Layout.decode {
    name := "WorkspaceClientCapabilities"
    blank := {}
    slots := [.nullable "configuration" fun workspace configuration =>
      { workspace with configuration }] }

structure ClientCapabilities where
  window : Option WindowCapabilities := none
  workspace : Option WorkspaceCapabilities := none

instance : Wire ClientCapabilities where
  toJson capabilities := .ofPresent [
    ("window", capabilities.window.map toJson),
    ("workspace", capabilities.workspace.map toJson)]
  decode := Layout.decode {
    name := "ClientCapabilities"
    blank := {}
    slots := [
      .nullable "window" fun capabilities window => { capabilities with window },
      .nullable "workspace" fun capabilities workspace => { capabilities with workspace }] }

structure InitializationOptions where
  logLevel : Option String := none

instance : Wire InitializationOptions where
  toJson options := .ofPresent [("logLevel", options.logLevel.map toJson)]
  decode := Layout.decode {
    name := "InitializationOptions"
    blank := {}
    slots := [.nullable "logLevel" fun options logLevel => { options with logLevel }] }

structure InitializeParams where
  rootUri : Option DocumentUri := none
  workspaceFolders : Option (List WorkspaceFolder) := none
  capabilities : ClientCapabilities := {}
  initializationOptions : Option InitializationOptions := none

namespace InitializeParams

def layout : Layout InitializeParams where
  name := "InitializeParams"
  blank := {}
  slots := [
    .nullable "rootUri" fun params rootUri => { params with rootUri },
    .nullable "workspaceFolders" fun params workspaceFolders => { params with workspaceFolders },
    .defaulted "capabilities" fun params capabilities => { params with capabilities },
    .nullable "initializationOptions" fun params initializationOptions =>
      { params with initializationOptions }]

/-- The root of the workspace: the one named, else the first folder. -/
def root (params : InitializeParams) : Option DocumentUri :=
  params.rootUri <|> (params.workspaceFolders.bind (·.head?)).map (·.uri)

def workDoneProgress (params : InitializeParams) : Bool :=
  (params.capabilities.window.bind (·.workDoneProgress)).getD false

def configuration (params : InitializeParams) : Bool :=
  (params.capabilities.workspace.bind (·.configuration)).getD false

end InitializeParams

structure OpenedDocument where
  uri : DocumentUri
  languageId : String := ""
  version : Int32
  text : String
  deriving Inhabited

instance : Wire OpenedDocument where
  toJson document := .ofMembers [
    ("uri", toJson document.uri),
    ("languageId", toJson document.languageId),
    ("version", toJson document.version),
    ("text", toJson document.text)]
  decode := Layout.decode {
    name := "TextDocumentItem"
    blank := default
    slots := [
      .required "uri" fun document uri => { document with uri },
      .defaulted "languageId" fun document languageId => { document with languageId },
      .required "version" fun document version => { document with version },
      .required "text" fun document text => { document with text }] }

structure DocumentName where
  uri : DocumentUri
  deriving Inhabited

instance : Wire DocumentName where
  toJson document := .ofMembers [("uri", toJson document.uri)]
  decode := Layout.decode {
    name := "TextDocumentIdentifier"
    blank := default
    slots := [.required "uri" fun document uri => { document with uri }] }

structure VersionedName where
  uri : DocumentUri
  version : Int32
  deriving Inhabited

instance : Wire VersionedName where
  toJson document := .ofMembers [
    ("uri", toJson document.uri), ("version", toJson document.version)]
  decode := Layout.decode {
    name := "VersionedTextDocumentIdentifier"
    blank := default
    slots := [
      .required "uri" fun document uri => { document with uri },
      .required "version" fun document version => { document with version }] }

/-- The whole new text of a document. -/
structure ContentChange where
  text : String
  deriving Inhabited

instance : Wire ContentChange where
  toJson change := .ofMembers [("text", toJson change.text)]
  decode := Layout.decode {
    name := "TextDocumentContentChangeEvent"
    blank := default
    slots := [.required "text" fun change text => { change with text }] }

def openLayout : Layout OpenedDocument where
  name := "DidOpenTextDocumentParams"
  blank := default
  slots := [.required "textDocument" fun _ document => document]

structure ChangedDocument where
  document : VersionedName
  changes : List ContentChange
  deriving Inhabited

def changeLayout : Layout ChangedDocument where
  name := "DidChangeTextDocumentParams"
  blank := default
  slots := [
    .required "textDocument" fun news document => { news with document },
    .required "contentChanges" fun news changes => { news with changes }]

def closeLayout : Layout DocumentName where
  name := "DidCloseTextDocumentParams"
  blank := default
  slots := [.required "textDocument" fun _ document => document]

structure SavedDocument where
  document : DocumentName
  text : Option String := none
  deriving Inhabited

def saveLayout : Layout SavedDocument where
  name := "DidSaveTextDocumentParams"
  blank := default
  slots := [
    .required "textDocument" fun news document => { news with document },
    .nullable "text" fun news text => { news with text }]

structure CodeActionParams where
  document : DocumentName
  range : Range
  diagnostics : List Diagnostic := []
  deriving Inhabited

structure CodeActionContext where
  diagnostics : List Diagnostic := []

instance : Wire CodeActionContext where
  toJson context := .ofMembers [("diagnostics", toJson context.diagnostics)]
  decode := Layout.decode {
    name := "CodeActionContext"
    blank := {}
    slots := [.defaulted "diagnostics" fun context diagnostics => { context with diagnostics }] }

def CodeActionParams.layout : Layout CodeActionParams where
  name := "CodeActionParams"
  blank := default
  slots := [
    .required "textDocument" fun params document => { params with document },
    .required "range" fun params range => { params with range },
    .required "context" fun params (context : CodeActionContext) =>
      { params with diagnostics := context.diagnostics }]

def workCancelLayout : Layout ProgressToken where
  name := "WorkDoneProgressCancelParams"
  blank := .number 0
  slots := [.required "token" fun _ token => token]

/-- A call that is understood. -/
inductive Request where
  | handshake (params : InitializeParams)
  | shutdown
  | codeAction (params : CodeActionParams)
  | resolve (action : CodeAction)

/-- A notification that is understood. -/
inductive News where
  | initialized
  | exit
  | opened (document : OpenedDocument)
  | changed (document : VersionedName) (changes : List ContentChange)
  | closed (uri : DocumentUri)
  | saved (uri : DocumentUri) (text : Option String)
  | cancelWork (token : ProgressToken)

inductive Misunderstanding where
  | unknownMethod
  | params (error : DecodeError)

def readParams (layout : Layout α) (params : Json) (make : α → β) : Except Misunderstanding β :=
  match layout.decode params with
  | .ok value => .ok (make value)
  | .error error => .error (.params error)

def Request.decode (method : String) (params : Json) : Except Misunderstanding Request :=
  match method with
  | "initialize" =>
    if params.isNull then .ok (.handshake {})
    else readParams InitializeParams.layout params .handshake
  | "shutdown" => .ok .shutdown
  | "textDocument/codeAction" => readParams CodeActionParams.layout params .codeAction
  | "codeAction/resolve" => readParams CodeAction.layout params .resolve
  | _ => .error .unknownMethod

def News.decode (method : String) (params : Json) : Except Misunderstanding News :=
  match method with
  | "initialized" => .ok .initialized
  | "exit" => .ok .exit
  | "textDocument/didOpen" => readParams openLayout params .opened
  | "textDocument/didChange" =>
    readParams changeLayout params fun news => .changed news.document news.changes
  | "textDocument/didClose" => readParams closeLayout params fun document => .closed document.uri
  | "textDocument/didSave" =>
    readParams saveLayout params fun news => .saved news.document.uri news.text
  | "window/workDoneProgress/cancel" => readParams workCancelLayout params .cancelWork
  | _ => .error .unknownMethod

end PolicyServer
