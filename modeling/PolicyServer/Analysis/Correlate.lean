import PolicyServer.Document.File
import PolicyServer.Policy.Violation
import PolicyServer.Protocol.Diagnostic
import PolicyServer.Source.Declaration

/-! Where violations are shown: each one at the declaration that starts on the line reported. -/

namespace PolicyServer

abbrev Findings := Table (List Diagnostic)

namespace Findings

/-- The row of a line counted from one; line zero counts as the first. -/
def rowOf (line : UInt32) : UInt32 := if line = 0 then 0 else line - 1

/-- The diagnostic of a violation, on a declaration or at the head of a line. -/
def diagnostic (uri : DocumentUri) (row : UInt32) (capture : Option Capture)
    (violation : Violation) : Diagnostic where
  range := match capture with
    | some capture => capture.range
    | none => .lineStart row
  severity := some violation.level.severity
  source := if violation.policy.isEmpty then none else some violation.policy
  message := Text.trim violation.message
  data := some (Wire.toJson ({ capture, uri } : FixTarget))

/-- The declarations of a document: in the text that the editor sent, else as it lies on disk. A
document that cannot be read or parsed has none to offer, which differs from having none. -/
def declarations (files : FileMap) (disk : Disk)
    (parse : Bytes → Except Source.ExtractError (List Capture)) (uri : String) :
    Option (List Capture) :=
  let handle := (files.get? uri).getD (FileHandle.read disk ⟨uri⟩ 0)
  match handle.content with
  | .error _ => none
  | .ok contents =>
    match parse contents with
    | .ok captures => some captures
    | .error .noDeclarations => some []
    | .error .noTree => none

def ofResource (declarations : String → Option (List Capture)) (resource : Resource) :
    Option (String × List Diagnostic) := do
  if resource.violations.isEmpty then none
  let position ← resource.position
  let captures ← declarations position.uri
  let row := rowOf position.line
  let capture := captures.find? (·.start.row = row)
  some (position.uri, resource.violations.map (diagnostic ⟨position.uri⟩ row capture))

def correlate (declarations : String → Option (List Capture)) (resources : Resources) : Findings :=
  resources.foldl (fun findings (_, resource) =>
    match ofResource declarations resource with
    | none => findings
    | some (uri, diagnostics) => findings.update uri [] (· ++ diagnostics)) []

end Findings

end PolicyServer
