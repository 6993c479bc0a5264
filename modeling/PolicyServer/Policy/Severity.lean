import PolicyServer.Json.Wire
import PolicyServer.Text.Blank

/-! How grave a diagnostic is, and how strictly a policy is enforced. -/

namespace PolicyServer

inductive Severity where
  | error
  | warning
  | information
  | hint
  deriving DecidableEq, Repr

namespace Severity

def number : Severity → Nat
  | .error => 1
  | .warning => 2
  | .information => 3
  | .hint => 4

def ofNumber? : Nat → Option Severity
  | 1 => some .error
  | 2 => some .warning
  | 3 => some .information
  | 4 => some .hint
  | _ => none

def label : Severity → String
  | .error => "error"
  | .warning => "warning"
  | .information => "info"
  | .hint => "hint"

end Severity

def Severity.decode (value : Json) : Except Json.DecodeError Severity := do
  let n ← Json.asUInt64 value
  match Severity.ofNumber? n.toNat with
  | some severity => .ok severity
  | none => .error (.unlisted "invalid diagnostic severity" value)

instance : Wire Severity := ⟨fun severity => .int severity.number, Severity.decode⟩

inductive Enforcement where
  | advisory
  | mandatory
  | disabled
  | remediate
  deriving DecidableEq, Repr

namespace Enforcement

def severity : Enforcement → Severity
  | .advisory => .information
  | .mandatory => .error
  | .remediate => .warning
  | .disabled => .hint

def name : Enforcement → String
  | .advisory => "ADVISORY"
  | .mandatory => "MANDATORY"
  | .disabled => "DISABLED"
  | .remediate => "REMEDIATE"

/-- Every level of enforcement, each at the place of its number. -/
def all : List Enforcement := [.advisory, .mandatory, .disabled, .remediate]

/-- The level of a name, in whatever ASCII case it is written. -/
def ofName? (text : String) : Option Enforcement :=
  all.find? fun level => Text.lower level.name = Text.lower text

def ofNumber? (n : Int) : Option Enforcement :=
  if 0 ≤ n then all[n.toNat]? else none

def decode (value : Json) : Except Json.DecodeError Enforcement :=
  let found? := match value with
    | .str text => some (ofName? text)
    | .int n => if n < 0x8000000000000000 then some (ofNumber? n) else none
    | _ => none
  match found? with
  | none => .error (.noAlternative "Raw")
  | some none => .error (.unlisted "unknown enforcement level" value)
  | some (some level) => .ok level

end Enforcement

instance : Wire Enforcement := ⟨fun level => .str level.name, Enforcement.decode⟩

end PolicyServer
