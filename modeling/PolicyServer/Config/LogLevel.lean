import PolicyServer.Text.Blank
import PolicyServer.Text.Quoted

/-! The level from which on the server keeps a log. -/

namespace PolicyServer.LogLevel

def all : List String := ["trace", "debug", "info", "warn", "error"]

def initial : String := "info"

/-- The level that a text names, in any case and with blanks around it; else the name that is no
level. -/
def parse (text : String) : Except String String :=
  let level := Text.lower (Text.trim text)
  if level ∈ all then .ok level else .error level

def unknownMessage (name : String) : String := s!"unknown log level {Text.quote name}"

def change (current : String) (text : String) : String :=
  match parse text with
  | .ok level => level
  | .error _ => current

end PolicyServer.LogLevel
