/-! Why no fix was suggested. -/

namespace PolicyServer

inductive FixError where
  | disabled
  | missingApiKey
  | timeout
  | request (reason : String)
  | status (status body : String)
  | response (reason : String)
  deriving DecidableEq, Repr

def FixError.message : FixError → String
  | .disabled => "fix generation is disabled"
  | .missingApiKey => "no API key configured for fix generation"
  | .timeout => "fix request timed out"
  | .request reason => s!"fix request failed: {reason}"
  | .status code body => s!"fix service returned {code}: {body}"
  | .response reason => s!"unexpected fix service response: {reason}"

end PolicyServer
