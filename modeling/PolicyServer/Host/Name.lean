import PolicyServer.Host.Label

/-! The host part of a name: whether it is one, and whether it is this machine. -/

namespace PolicyServer

inductive Host where
  | here
  | elsewhere
  deriving DecidableEq, Repr

namespace Host

/-- The host of a text: none is this machine, and so is `localhost` however it is written. -/
def parse? (text : List Char) : Option Host :=
  match text with
  | [] => some .here
  | '[' :: rest =>
    if rest.getLast? = some ']' && isLongAddress rest.dropLast then some .elsewhere else none
  | _ => do
    let name ← Utf8.decode? (Percent.decode (Utf8.encode text))
    let labels ← labels? name
    if labels = [[]] then none
    else if labels = ["localhost".toList] then some .here
    else if endsInNumber labels && !isAddress labels then none
    else some .elsewhere

end Host

end PolicyServer
