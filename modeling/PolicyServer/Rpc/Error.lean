import PolicyServer.Json.Wire

/-! Error objects: how a call is refused. -/

namespace PolicyServer.Rpc

open Json

structure Error where
  code : Int64
  message : String
  data : Option Json := none

namespace Error

def parseError (message : String) : Error := ⟨-32700, message, none⟩

def invalidRequest (message : String) : Error := ⟨-32600, message, none⟩

def methodNotFound (method : String) : Error := ⟨-32601, s!"method not found: {method}", none⟩

def invalidParams (message : String) : Error := ⟨-32602, message, none⟩

def internal (message : String) : Error := ⟨-32603, message, none⟩

def serverNotInitialized : Error := ⟨-32002, "server not initialized", none⟩

def requestCancelled : Error := ⟨-32800, "request cancelled", none⟩

def isCancelled (error : Error) : Bool := error.code == -32800

def render (error : Error) : String := s!"{error.message} (code {error.code.toInt})"

def layout : Layout Error where
  name := "RpcError"
  blank := ⟨0, "", none⟩
  slots := [
    .required "code" fun error code => { error with code },
    .required "message" fun error message => { error with message },
    .nullable "data" fun error data => { error with data }]

/-- The members of an error, as they follow one another on the wire. -/
def members (error : Error) : List (String × Json) :=
  [("code", toJson error.code), ("message", toJson error.message)] ++
    (error.data.map fun data => ("data", data)).toList

end Error

instance : Wire Error := ⟨fun error => .ofMembers error.members, Error.layout.decode⟩

end PolicyServer.Rpc
