import PolicyServer.Document.Position
import PolicyServer.Document.Uri
import PolicyServer.Policy.Severity

/-! Diagnostics shown in a document, the quick fixes offered for them, and the edits these make. -/

namespace PolicyServer

open Json

/-- A remark on a stretch of a document. Its data come back with the actions on it. -/
structure Diagnostic where
  range : Range
  severity : Option Severity := none
  source : Option String := none
  message : String
  data : Option Json := none

def Diagnostic.layout : Layout Diagnostic where
  name := "Diagnostic"
  blank := { range := default, message := "" }
  slots := [
    .required "range" fun diagnostic range => { diagnostic with range },
    .nullable "severity" fun diagnostic severity => { diagnostic with severity },
    .nullable "source" fun diagnostic source => { diagnostic with source },
    .required "message" fun diagnostic message => { diagnostic with message },
    .nullable "data" fun diagnostic data => { diagnostic with data }]

instance : Wire Diagnostic where
  toJson diagnostic := .ofPresent [
    ("range", some (toJson diagnostic.range)),
    ("severity", diagnostic.severity.map toJson),
    ("source", diagnostic.source.map toJson),
    ("message", some (toJson diagnostic.message)),
    ("data", diagnostic.data)]
  decode := Diagnostic.layout.decode

structure PublishDiagnostics where
  uri : DocumentUri
  version : Option Int32 := none
  diagnostics : List Diagnostic := []

def PublishDiagnostics.layout : Layout PublishDiagnostics where
  name := "PublishDiagnosticsParams"
  blank := { uri := default }
  slots := [
    .required "uri" fun publication uri => { publication with uri },
    .nullable "version" fun publication version => { publication with version },
    .required "diagnostics" fun publication diagnostics => { publication with diagnostics }]

instance : Wire PublishDiagnostics where
  toJson publication := .ofPresent [
    ("uri", some (toJson publication.uri)),
    ("version", publication.version.map toJson),
    ("diagnostics", some (toJson publication.diagnostics))]
  decode := PublishDiagnostics.layout.decode

/-- What a fix for a diagnostic needs: the declaration the diagnostic is on, and its document. -/
structure FixTarget where
  capture : Option Capture := none
  uri : DocumentUri

def FixTarget.layout : Layout FixTarget where
  name := "FixPayload"
  blank := { uri := default }
  slots := [
    .nullable "capture" fun target capture => { target with capture },
    .required "uri" fun target uri => { target with uri }]

instance : Wire FixTarget where
  toJson target := .ofPresent [
    ("capture", target.capture.map toJson),
    ("uri", some (toJson target.uri))]
  decode := FixTarget.layout.decode

structure TextEdit where
  range : Range
  newText : String
  deriving DecidableEq, Inhabited, Repr

def TextEdit.layout : Layout TextEdit where
  name := "TextEdit"
  blank := default
  slots := [
    .required "range" fun edit range => { edit with range },
    .required "newText" fun edit newText => { edit with newText }]

instance : Wire TextEdit where
  toJson edit := .ofMembers [("range", toJson edit.range), ("newText", toJson edit.newText)]
  decode := TextEdit.layout.decode

structure WorkspaceEdit where
  changes : Table (List TextEdit) := []
  deriving DecidableEq, Repr

def WorkspaceEdit.layout : Layout WorkspaceEdit where
  name := "WorkspaceEdit"
  blank := {}
  slots := [⟨"changes", false, fun edit value =>
    (asMembers Wire.decode value).map fun changes => { edit with changes }⟩]

instance : Wire WorkspaceEdit where
  toJson edit :=
    .ofMembers [("changes", .obj (edit.changes.map fun (uri, edits) => (uri, toJson edits)))]
  decode := WorkspaceEdit.layout.decode

structure CodeAction where
  title : String
  kind : Option String := none
  diagnostics : Option (List Diagnostic) := none
  edit : Option WorkspaceEdit := none
  data : Option Json := none

def CodeAction.layout : Layout CodeAction where
  name := "CodeAction"
  blank := { title := "" }
  slots := [
    .required "title" fun action title => { action with title },
    .nullable "kind" fun action kind => { action with kind },
    .nullable "diagnostics" fun action diagnostics => { action with diagnostics },
    .nullable "edit" fun action edit => { action with edit },
    .nullable "data" fun action data => { action with data }]

instance : Wire CodeAction where
  toJson action := .ofPresent [
    ("title", some (toJson action.title)),
    ("kind", action.kind.map toJson),
    ("diagnostics", action.diagnostics.map toJson),
    ("edit", action.edit.map toJson),
    ("data", action.data)]
  decode := CodeAction.layout.decode

end PolicyServer
