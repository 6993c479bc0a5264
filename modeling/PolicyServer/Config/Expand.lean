/-! Variables of the environment in texts. -/

namespace PolicyServer

abbrev Environment := List (String × String)

namespace Environment

/-- The value of a variable, nothing if it is not set or has no name. -/
def value (environment : Environment) (name : List Char) : List Char :=
  if name.isEmpty then [] else ((environment.lookup (String.ofList name)).getD "").toList

/-- Replaces each reference by the value of its variable. What is put in is not read again, and a
reference that is not closed stays. -/
def expandChars (environment : Environment) : List Char → List Char
  | [] => []
  | '$' :: '{' :: rest =>
    if '}' ∈ rest then
      environment.value (rest.takeWhile (· ≠ '}')) ++
        expandChars environment ((rest.dropWhile (· ≠ '}')).drop 1)
    else '$' :: '{' :: rest
  | c :: rest => c :: expandChars environment rest
termination_by chars => chars.length
decreasing_by
  · have shorter := (List.dropWhile_sublist (p := (· ≠ '}')) (l := rest)).length_le
    simp only [List.length_drop, List.length_cons]
    omega
  · simp

def expand (environment : Environment) (text : String) : String :=
  String.ofList (environment.expandChars text.toList)

end Environment

end PolicyServer
