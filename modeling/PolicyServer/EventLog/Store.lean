import PolicyServer.Json.Record
import PolicyServer.Policy.Violation

/-! What the log of an analysis says of each resource. -/

namespace PolicyServer.EventLog

open Json

structure Entry where
  method : String
  request : Json := .null
  response : Json := .null

namespace Entry

def layout : Layout Entry where
  name := "LogEntry"
  blank := { method := "" }
  slots := [
    .required "method" fun entry method => { entry with method },
    .defaulted "request" fun entry request => { entry with request },
    .defaulted "response" fun entry response => { entry with response }]

def fields (depth : Nat) : List (RecordField Entry) := [
  ⟨"method", true, true, fun entry bytes => do
    let (method, rest) ← readString bytes
    .ok ({ entry with method }, rest)⟩,
  ⟨"request", false, false, fun entry bytes => do
    let (request, rest) ← readValue depth bytes
    .ok ({ entry with request }, rest)⟩,
  ⟨"response", false, false, fun entry bytes => do
    let (response, rest) ← readValue depth bytes
    .ok ({ entry with response }, rest)⟩]

def parse (line : Bytes) : Except ReadError Entry :=
  readWhole (readRecord depthLimit fields { method := "" }) line

end Entry

def registeredPosition : Decoder (Option SourcePosition) := Layout.decode {
  name := "RegisterRequest"
  blank := none
  slots := [.nullable "sourcePosition" fun _ position => position] }

def urnIn (name : String) : Decoder String := Layout.decode {
  name
  blank := ""
  slots := [.required "urn" fun _ urn => urn] }

def reportedViolations : Decoder (Option (List Violation)) := Layout.decode {
  name := "AnalyzeResponse"
  blank := none
  slots := [.nullable "diagnostics" fun _ violations => violations] }

/-- What has been learned so far, and from how many entries. -/
structure Store where
  resources : Resources := []
  events : Nat := 0

namespace Store

def revise (resources : Resources) (urn : String) (change : Resource → Resource) : Resources :=
  resources.update urn {} change

/-- Takes in one entry. A registration sets the place of a resource, an analysis of a resource
replaces its violations, and an analysis of the whole adds to those of each. -/
def apply (store : Store) (entry : Entry) : Except DecodeError Store :=
  match entry.method with
  | "/pulumirpc.ResourceMonitor/RegisterResource" => do
    let position ← registeredPosition entry.request
    let urn ← urnIn "RegisterResponse" entry.response
    .ok ⟨revise store.resources urn fun known => { known with position }, store.events + 1⟩
  | "/pulumirpc.Analyzer/AnalyzeStack" => do
    match ← reportedViolations entry.response with
    | none => .ok store
    | some violations =>
      let add (resources : Resources) (violation : Violation) :=
        revise resources violation.urn fun known =>
          { known with violations := known.violations ++ [violation] }
      .ok ⟨violations.foldl add store.resources, store.events + 1⟩
  | "/pulumirpc.Analyzer/Analyze" => do
    let urn ← urnIn "AnalyzeRequest" entry.request
    match ← reportedViolations entry.response with
    | none => .ok store
    | some violations =>
      .ok ⟨revise store.resources urn fun known => { known with violations }, store.events + 1⟩
  | _ => .ok store

/-- Takes in one line; a line that is no entry, or whose entry cannot be taken in, counts for
nothing. -/
def ingest (store : Store) (line : String) : Store :=
  let line := Text.trim line
  if line.isEmpty then store
  else
    match Entry.parse (Bytes.ofText line) with
    | .error _ => store
    | .ok entry =>
      match store.apply entry with
      | .error _ => store
      | .ok next => next

end Store

end PolicyServer.EventLog
