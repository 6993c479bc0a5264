import PolicyServer.Config.Expand
import PolicyServer.Table
import PolicyServer.Text.Utf8
import PolicyServer.Toml.Reader

/-! The settings of the server: what they are without a file, and how a file changes them. -/

namespace PolicyServer

open Toml (Value Entries)

structure RunnerSettings where
  command : String := "pulumi"
  args : List String := []
  policyPacks : List String := []
  pollInterval : UInt64 := 50
  env : Table String := []
  deriving DecidableEq, Repr

structure FixerSettings where
  enabled : Bool := true
  endpoint : String := "https://api.openai.com/v1/responses"
  model : String := "gpt-4o"
  apiKey : String := "$\x7bOPENAI_API_KEY\x7d"
  timeoutSecs : UInt64 := 30
  deriving DecidableEq, Repr

/-- The seconds a fix may take, at least one. -/
def FixerSettings.timeout (settings : FixerSettings) : Nat := max settings.timeoutSecs.toNat 1

structure Settings where
  concurrency : UInt64 := 1
  runner : RunnerSettings := {}
  fixer : FixerSettings := {}
  logLevel : Option String := none
  deriving DecidableEq, Repr

namespace Settings

/-- How many analyses may run at once, at least one. -/
def slots (settings : Settings) : Nat := max settings.concurrency.toNat 1

def asText : Value → Option String
  | .str text => some text
  | _ => none

def asFlag : Value → Option Bool
  | .bool b => some b
  | _ => none

def asCount : Value → Option UInt64
  | .int n => if 0 ≤ n ∧ n < 0x10000000000000000 then some (UInt64.ofNat n.toNat) else none
  | _ => none

def asTexts : Value → Option (List String)
  | .arr items => items.mapM asText
  | _ => none

/-- The key under which a date stands where a table is asked for. -/
def momentKey : String := "$__toml_private_datetime"

/-- A table of strings of a document; a date is a table that holds its text. -/
def asTextTable : Value → Option (Table String)
  | .table _ entries =>
    (entries.mapM fun (entry : String × Value) =>
      (asText entry.2).map (entry.1, ·)).map Table.ofList
  | .date moment => some (Table.ofList [(momentKey, moment.render)])
  | _ => none

abbrev SectionField (σ : Type) := String × (σ → Value → Option σ)

def takeInTurn : List (SectionField σ) → List Value → σ → Option σ
  | (_, set) :: fields, item :: items, state => do takeInTurn fields items (← set state item)
  | _, _, state => some state

/-- A section from a table, unknown keys left aside, or from a list of its fields in order. A date
has no key that a section knows. -/
def readSection (fields : List (SectionField σ)) (state : σ) : Value → Option σ
  | .table _ entries =>
    entries.foldlM (fun state (key, value) =>
      match fields.lookup key with
      | some set => set state value
      | none => some state) state
  | .arr items => takeInTurn fields items state
  | .rows tables => takeInTurn fields tables state
  | .date _ => some state
  | _ => none

def runnerFields : List (SectionField RunnerSettings) := [
  ("command", fun section_ value => do return { section_ with command := ← asText value }),
  ("args", fun section_ value => do return { section_ with args := ← asTexts value }),
  ("policy_packs", fun section_ value => do return { section_ with policyPacks := ← asTexts value }),
  ("poll_interval_ms", fun section_ value => do
    return { section_ with pollInterval := ← asCount value }),
  ("env", fun section_ value => do return { section_ with env := ← asTextTable value })]

def fixerFields : List (SectionField FixerSettings) := [
  ("enabled", fun section_ value => do return { section_ with enabled := ← asFlag value }),
  ("endpoint", fun section_ value => do return { section_ with endpoint := ← asText value }),
  ("model", fun section_ value => do return { section_ with model := ← asText value }),
  ("api_key", fun section_ value => do return { section_ with apiKey := ← asText value }),
  ("timeout_secs", fun section_ value => do return { section_ with timeoutSecs := ← asCount value })]

def fields : List (SectionField Settings) := [
  ("diagnostics", fun settings value => do
    let concurrency ← readSection [("concurrency", fun _ value => asCount value)] 1 value
    return { settings with concurrency }),
  ("runner", fun settings value => do
    return { settings with runner := ← readSection runnerFields {} value }),
  ("fixer", fun settings value => do
    return { settings with fixer := ← readSection fixerFields {} value }),
  ("log", fun settings value => do
    let logLevel ← readSection [("level", fun _ value => (asText value).map some)] none value
    return { settings with logLevel })]

/-- The settings of a document, without the variables they refer to. -/
def ofDocument? (text : String) : Option Settings := do
  let entries ← Toml.parse? text
  readSection fields {} (.table .heading entries)

def expanded (environment : Environment) (settings : Settings) : Settings :=
  let runner := settings.runner
  let fixer := settings.fixer
  { settings with
    runner := { runner with
      command := environment.expand runner.command
      args := runner.args.map environment.expand
      policyPacks := runner.policyPacks.map environment.expand
      env := runner.env.map fun (key, value) => (key, environment.expand value) }
    fixer := { fixer with
      endpoint := environment.expand fixer.endpoint
      model := environment.expand fixer.model
      apiKey := environment.expand fixer.apiKey } }

inductive Source where
  | missing
  | unreadable
  | file (contents : Bytes)

inductive LoadError where
  | read
  | parse
  deriving DecidableEq, Repr

/-- The settings of a file; those of no file are the standing ones. -/
def load (environment : Environment) : Source → Except LoadError Settings
  | .missing => .ok (expanded environment {})
  | .unreadable => .error .read
  | .file contents =>
    match contents.toText? with
    | none => .error .read
    | some text =>
      match ofDocument? text with
      | none => .error .parse
      | some settings => .ok (expanded environment settings)

/-- Where the settings are looked for: where a variable says, else in the home directory. -/
def path (environment : Environment) : Option String :=
  match (environment.lookup "WARDEN_CONFIG").filter (· ≠ "") with
  | some path => some path
  | none => (environment.lookup "HOME").map fun home =>
    if home.endsWith "/" then home ++ ".warden/config.toml" else home ++ "/.warden/config.toml"

end Settings

end PolicyServer
