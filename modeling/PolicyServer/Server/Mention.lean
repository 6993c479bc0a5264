import PolicyServer.Document.Path
import PolicyServer.Rpc.Message

/-! The files that a message mentions, which are those that dealing with it may read. -/

namespace PolicyServer

namespace Json

mutual

/-- All strings in a value, those of its items and members included. -/
def strings : Json → List String
  | .str text => [text]
  | .arr items => stringsOfItems items
  | .obj members => stringsOfMembers members
  | _ => []

def stringsOfItems : List Json → List String
  | [] => []
  | item :: rest => item.strings ++ stringsOfItems rest

def stringsOfMembers : List (String × Json) → List String
  | [] => []
  | (_, value) :: rest => value.strings ++ stringsOfMembers rest

end

end Json

def Rpc.Message.paths (message : Rpc.Message) : List Bytes :=
  (Json.obj message.members).strings.filterMap fun text => (DocumentUri.toPath ⟨text⟩).toOption

end PolicyServer
