import PolicyServer.Config.Settings
import PolicyServer.Json.Wire

/-! The settings as a JSON value, section by section. -/

namespace PolicyServer

def RunnerSettings.toJson (settings : RunnerSettings) : Json := .ofMembers [
  ("command", .str settings.command),
  ("args", Wire.toJson settings.args),
  ("policy_packs", Wire.toJson settings.policyPacks),
  ("poll_interval_ms", .int settings.pollInterval.toNat),
  ("env", .obj (settings.env.map fun (name, value) => (name, .str value)))]

def FixerSettings.toJson (settings : FixerSettings) : Json := .ofMembers [
  ("enabled", .bool settings.enabled),
  ("endpoint", .str settings.endpoint),
  ("model", .str settings.model),
  ("api_key", .str settings.apiKey),
  ("timeout_secs", .int settings.timeoutSecs.toNat),
  ("timeout", .int settings.timeout)]

def Settings.toJson (settings : Settings) : Json := .ofMembers [
  ("concurrency", .int settings.slots),
  ("diagnostics", .ofMembers [("concurrency", .int settings.concurrency.toNat)]),
  ("runner", settings.runner.toJson),
  ("fixer", settings.fixer.toJson),
  ("log", .ofMembers [("level", (settings.logLevel.map .str).getD .null)])]

end PolicyServer
