import PolicyServer.Proofs.Config.Expansion
import PolicyServer.Server.Surroundings

/-!
The settings of a server whose settings file is broken.

They are the standing ones, but with the variables they refer to left unread. The only reference in them
is that to the key of the service that suggests fixes, so this key is all that differs from the settings
without a file.
-/

namespace PolicyServer.Surroundings

/-- The key of the service in the standing settings: a reference to a variable. -/
def keyReference : String := "$\x7bOPENAI_API_KEY\x7d"

theorem expanded_standing (environment : Environment) :
    Settings.expanded environment {} =
      { fixer := { apiKey := (environment.lookup "OPENAI_API_KEY").getD "" } } := by
  have key : environment.expand keyReference = (environment.lookup "OPENAI_API_KEY").getD "" :=
    Environment.expand_reference "OPENAI_API_KEY" rfl (by decide)
  have command : environment.expand "pulumi" = "pulumi" := Environment.expand_of_free (by decide)
  have endpoint : environment.expand "https://api.openai.com/v1/responses" =
      "https://api.openai.com/v1/responses" := Environment.expand_of_free (by decide)
  have model : environment.expand "gpt-4o" = "gpt-4o" := Environment.expand_of_free (by decide)
  simp only [Settings.expanded, List.map_nil, command, endpoint, model]
  rw [← key]
  rfl

theorem settings_of_broken {here : Surroundings} {error : Settings.LoadError}
    (broken : Settings.load here.environment here.source = .error error) : here.settings = {} := by
  rw [settings, broken]

theorem request_by_reference (code failure : String) : ∃ request,
    Fix.request {} code failure = .ok request ∧ request.authorization = "Bearer " ++ keyReference := by
  have trimmed : Text.trim keyReference = keyReference := by decide
  exact ⟨_, rfl, congrArg ("Bearer " ++ ·) trimmed⟩

/-- Where the settings file is broken, the settings are those without a file, save for the key of the
service that suggests fixes: it is the reference to a variable and not the value of that. So the two are
the same only where the variable holds the reference itself, and the reference is sent to the service,
also where there is no key. -/
theorem broken_file_leaves_key_unread (here : Surroundings) (error : Settings.LoadError)
    (broken : Settings.load here.environment here.source = .error error) :
    ∃ missing, Settings.load here.environment .missing = .ok missing ∧
      here.settings = { missing with fixer := { missing.fixer with apiKey := keyReference } } ∧
      missing.fixer.apiKey = (here.environment.lookup "OPENAI_API_KEY").getD "" ∧
      (here.settings = missing ↔ here.environment.lookup "OPENAI_API_KEY" = some keyReference) ∧
      ∀ code failure, ∃ request, Fix.request here.settings.fixer code failure = .ok request ∧
        request.authorization = "Bearer " ++ keyReference := by
  rw [settings_of_broken broken]
  refine ⟨_, rfl, ?_⟩
  rw [expanded_standing]
  refine ⟨rfl, rfl, ?_, request_by_reference⟩
  constructor
  · intro same
    have key : keyReference = (here.environment.lookup "OPENAI_API_KEY").getD "" :=
      congrArg (·.fixer.apiKey) same
    cases found : here.environment.lookup "OPENAI_API_KEY" with
    | none =>
      rw [found] at key
      exact absurd key (by decide)
    | some value =>
      rw [found] at key
      exact congrArg some key.symm
  · intro found
    rw [found]
    rfl

/-- A server whose settings file does not parse, and that has no key. -/
def brokenSurroundings : Surroundings where
  environment := [("HOME", "/h")]
  disk := ⟨[([Bytes.ofText "h", Bytes.ofText ".warden", Bytes.ofText "config.toml"],
    .file (Bytes.ofText "[broken"))]⟩

theorem load_brokenSurroundings :
    Settings.load brokenSurroundings.environment brokenSurroundings.source = .error .parse := by
  decide +kernel

theorem broken_file_sends_reference :
    Settings.load brokenSurroundings.environment brokenSurroundings.source = .error .parse ∧
      ∃ missing, Settings.load brokenSurroundings.environment .missing = .ok missing ∧
        missing.fixer.apiKey = "" ∧ brokenSurroundings.settings ≠ missing ∧
        ∀ code failure, ∃ request, Fix.request brokenSurroundings.settings.fixer code failure = .ok request ∧
          request.authorization = "Bearer " ++ keyReference := by
  obtain ⟨missing, loaded, -, key, same, sent⟩ :=
    broken_file_leaves_key_unread brokenSurroundings .parse load_brokenSurroundings
  exact ⟨load_brokenSurroundings, missing, loaded, key, fun equal => absurd (same.mp equal) (by decide), sent⟩

/-- A broken file does not come to the same as no file. -/
theorem broken_file_differs_from_none :
    Settings.load brokenSurroundings.environment brokenSurroundings.source = .error .parse ∧
      Settings.load brokenSurroundings.environment .missing ≠ .ok brokenSurroundings.settings :=
  ⟨load_brokenSurroundings, by decide +kernel⟩

end PolicyServer.Surroundings
