import PolicyServer.Fix.Failure
import PolicyServer.Protocol.Diagnostic
import PolicyServer.Rpc.Error

/-! Quick fixes: one is offered for each violation, and its edit is made when it is chosen. -/

namespace PolicyServer

inductive QuickFixError where
  | missingData
  | invalidData (error : Json.DecodeError)
  | diagnosticCount (count : Nat)
  | noCapture
  | noFix
  | timeout (seconds : Nat)
  | fix (error : FixError)

namespace QuickFixError

def message : QuickFixError → String
  | .missingData => "code action has no diagnostic data"
  | .invalidData error => s!"invalid diagnostic data: {error.message}"
  | .diagnosticCount count => s!"expected exactly one diagnostic, got {count}"
  | .noCapture => "no fix available: the diagnostic is not tied to a resource declaration"
  | .noFix => "no fix available"
  | .timeout seconds => s!"fix generation timed out after {seconds}s"
  | .fix error => error.message

/-- The answer to a request that failed: the request was wrong, or it could not be met. -/
def toRpc (error : QuickFixError) : Rpc.Error :=
  match error with
  | .missingData | .invalidData _ | .diagnosticCount _ => .invalidParams error.message
  | _ => .internal error.message

/-- Holds for failures that the user is told of: having no fix is none. -/
def isReported : QuickFixError → Bool
  | .noFix | .noCapture => false
  | _ => true

end QuickFixError

namespace QuickFix

def kind : String := "quickfix"

/-- The quick fix offered for a diagnostic; only those with a source have one. -/
def offer? (diagnostic : Diagnostic) : Option CodeAction := do
  let source ← diagnostic.source
  some {
    title := s!"Fix with AI ({source})"
    kind := some kind
    diagnostics := some [diagnostic]
    data := diagnostic.data }

def offers (diagnostics : List Diagnostic) : List CodeAction := diagnostics.filterMap offer?

/-- What a quick fix is to mend: a declaration, its document, and what is wrong with it. -/
structure Task where
  capture : Capture
  uri : DocumentUri
  failure : String

def task (action : CodeAction) : Except QuickFixError Task :=
  match action.data with
  | none => .error .missingData
  | some data =>
    match (Wire.decode data : Except Json.DecodeError FixTarget) with
    | .error error => .error (.invalidData error)
    | .ok target =>
      match action.diagnostics with
      | some [diagnostic] =>
        match target.capture with
        | none => .error .noCapture
        | some capture => .ok ⟨capture, target.uri, diagnostic.message⟩
      | some diagnostics => .error (.diagnosticCount diagnostics.length)
      | none => .error (.diagnosticCount 0)

/-- The action with its edit: the declaration is replaced by the text given. -/
def complete (action : CodeAction) (task : Task) (text : String) : CodeAction :=
  { action with edit := some ⟨[(task.uri.text, [⟨task.capture.range, text⟩])]⟩ }

/-- The action after the service has answered; no text means that it knows no fix. -/
def conclude (action : CodeAction) (task : Task) (answer : Except FixError (Option String)) :
    Except QuickFixError CodeAction :=
  match answer with
  | .error error => .error (.fix error)
  | .ok none => .error .noFix
  | .ok (some text) => .ok (complete action task text)

end QuickFix

end PolicyServer
