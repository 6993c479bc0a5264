import PolicyServer.Policy.Severity

/-! What an analysis reports: violations of policies, by the resource they are found on. -/

namespace PolicyServer

open Json

/-- Where a resource is declared, lines counted from one. -/
structure SourcePosition where
  uri : String
  line : UInt32
  column : UInt32
  deriving DecidableEq, Inhabited, Repr

def SourcePosition.layout : Layout SourcePosition where
  name := "SourcePosition"
  blank := default
  slots := [
    .required "uri" fun position uri => { position with uri },
    .required "line" fun position line => { position with line },
    .defaulted "column" fun position column => { position with column }]

instance : Wire SourcePosition where
  toJson position := .ofMembers [
    ("uri", toJson position.uri),
    ("line", toJson position.line),
    ("column", toJson position.column)]
  decode := SourcePosition.layout.decode

structure Violation where
  policy : String := ""
  pack : String := ""
  message : String := ""
  level : Enforcement := .advisory
  urn : String := ""
  deriving DecidableEq, Repr

def Violation.layout : Layout Violation where
  name := "PolicyDiagnostic"
  blank := {}
  slots := [
    .defaulted "policyName" fun violation policy => { violation with policy },
    .defaulted "policyPackName" fun violation pack => { violation with pack },
    .defaulted "message" fun violation message => { violation with message },
    .defaulted "enforcementLevel" fun violation level => { violation with level },
    .defaulted "urn" fun violation urn => { violation with urn }]

instance : Wire Violation where
  toJson violation := .ofMembers [
    ("policyName", toJson violation.policy),
    ("policyPackName", toJson violation.pack),
    ("message", toJson violation.message),
    ("enforcementLevel", toJson violation.level),
    ("urn", toJson violation.urn)]
  decode := Violation.layout.decode

structure Resource where
  position : Option SourcePosition := none
  violations : List Violation := []
  deriving DecidableEq, Repr

def Resource.layout : Layout Resource where
  name := "ResourceInfo"
  blank := {}
  slots := [
    .nullable "sourcePosition" fun resource position => { resource with position },
    .defaulted "diagnostics" fun resource violations => { resource with violations }]

instance : Wire Resource where
  toJson resource := .ofMembers [
    ("sourcePosition", (resource.position.map toJson).getD .null),
    ("diagnostics", toJson resource.violations)]
  decode := Resource.layout.decode

abbrev Resources := Table Resource

namespace Resources

def toJson (resources : Resources) : Json :=
  .obj (resources.map fun (urn, resource) => (urn, Wire.toJson resource))

def decode : Decoder Resources := asMembers Wire.decode

end Resources

end PolicyServer
