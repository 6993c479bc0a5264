import PolicyServer.Json.Record
import PolicyServer.Rpc.Error

/-! Messages: calls, notifications and responses, and their text on the wire. -/

namespace PolicyServer.Rpc

open Json

/-- What tells one call from another. -/
inductive Id where
  | number (n : Int64)
  | text (name : String)
  deriving DecidableEq, Inhabited, Repr

namespace Id

def render : Id → String
  | .number n => s!"#{n.toInt}"
  | .text name => Text.quote name

def decode? : Json → Option Id
  | .int n => if n < 0x8000000000000000 then some (.number (Int64.ofInt n)) else none
  | .str name => some (.text name)
  | _ => none

end Id

instance : Wire Id where
  toJson
    | .number n => toJson n
    | .text name => .str name
  decode value := match Id.decode? value with
    | some id => .ok id
    | none => .error (.noAlternative "Id")

/-- What a message says: it asks and waits for an answer, it tells, or it answers. An answer with no
identifier belongs to no call. -/
inductive Message where
  | call (id : Id) (method : String) (params : Json)
  | notification (method : String) (params : Json)
  | response (id : Option Id) (outcome : Except Error Json)

inductive MessageError where
  | json (error : ReadError)
  | version (found : Option String)
  | shape

/-- The wording of the causes, that of faults in the text apart. -/
def MessageError.message : MessageError → String
  | .json _ => "malformed message body"
  | .version none => "unsupported jsonrpc version None"
  | .version (some found) => s!"unsupported jsonrpc version Some({Text.quote found})"
  | .shape => "message has neither method nor id"

/-- The members a message may have. An identifier that is null differs from none. -/
structure Envelope where
  version : Option String := none
  id : Option (Option Id) := none
  method : Option String := none
  params : Option Json := none
  result : Option Json := none
  error : Option Error := none

def readError (depth : Nat) : Reader Error :=
  readRecord depth (fun depth => [
    ⟨"code", true, true, fun error bytes => do
      let (code, rest) ← readInt64 bytes
      .ok ({ error with code }, rest)⟩,
    ⟨"message", true, true, fun error bytes => do
      let (message, rest) ← readString bytes
      .ok ({ error with message }, rest)⟩,
    ⟨"data", false, false, fun error bytes => do
      let (data, rest) ← readNullable (readValue depth) bytes
      .ok ({ error with data }, rest)⟩]) ⟨0, "", none⟩

def readId (depth : Nat) : Reader Id := fun bytes => do
  let (value, rest) ← readValue depth bytes
  match Id.decode? value with
  | some id => .ok (id, rest)
  | none => .error .unsuitable

def Envelope.fields (depth : Nat) : List (RecordField Envelope) := [
  ⟨"jsonrpc", false, true, fun envelope bytes => do
    let (version, rest) ← readNullable readString bytes
    .ok ({ envelope with version }, rest)⟩,
  ⟨"id", false, false, fun envelope bytes => do
    let (id, rest) ← readNullable (readId depth) bytes
    .ok ({ envelope with id := some id }, rest)⟩,
  ⟨"method", false, false, fun envelope bytes => do
    let (method, rest) ← readNullable readString bytes
    .ok ({ envelope with method }, rest)⟩,
  ⟨"params", false, false, fun envelope bytes => do
    let (params, rest) ← readNullable (readValue depth) bytes
    .ok ({ envelope with params }, rest)⟩,
  ⟨"result", false, false, fun envelope bytes => do
    let (result, rest) ← readNullable (readValue depth) bytes
    .ok ({ envelope with result }, rest)⟩,
  ⟨"error", false, false, fun envelope bytes => do
    let (error, rest) ← readNullable (readError depth) bytes
    .ok ({ envelope with error }, rest)⟩]

def Envelope.toMessage (envelope : Envelope) : Except MessageError Message :=
  if envelope.version = some "2.0" then
    let params := envelope.params.getD .null
    match envelope.method, envelope.id with
    | some method, some (some id) => .ok (.call id method params)
    | some method, _ => .ok (.notification method params)
    | none, some id =>
      match envelope.error with
      | some error => .ok (.response id (.error error))
      | none => .ok (.response id (.ok (envelope.result.getD .null)))
    | none, none => .error .shape
  else .error (.version envelope.version)

namespace Message

/-- The message of a text: a method and an identifier make a call, a method alone a notification,
an identifier alone a response. -/
def decode (body : Bytes) : Except MessageError Message :=
  match readWhole (readRecord depthLimit Envelope.fields {}) body with
  | .error error => .error (.json error)
  | .ok envelope => envelope.toMessage

/-- A member for the parameters, none for null ones. -/
def paramsMember (params : Json) : List (String × Json) :=
  if params.isNull then [] else [("params", params)]

/-- The members of a message, as they follow one another on the wire. -/
def members : Message → List (String × Json)
  | .call id method params =>
    [("jsonrpc", .str "2.0"), ("id", toJson id), ("method", .str method)] ++ paramsMember params
  | .notification method params =>
    [("jsonrpc", .str "2.0"), ("method", .str method)] ++ paramsMember params
  | .response id outcome =>
    let id := match id with
      | some id => toJson id
      | none => .null
    let outcome := match outcome with
      | .ok result => ("result", result)
      | .error error => ("error", .obj error.members)
    [("jsonrpc", .str "2.0"), ("id", id), outcome]

def encode (message : Message) : Bytes := (Json.obj message.members).toBytes

def method? : Message → Option String
  | .call _ method _ => some method
  | .notification method _ => some method
  | .response _ _ => none

def id? : Message → Option Id
  | .call id _ _ => some id
  | .notification _ _ => none
  | .response id _ => id

end Message

/-- The identifier of a call that is to be cancelled. -/
structure CancelParams where
  id : Id
  deriving DecidableEq, Repr

def CancelParams.layout : Layout CancelParams where
  name := "CancelParams"
  blank := ⟨default⟩
  slots := [.required "id" fun params id => { params with id }]

instance : Wire CancelParams where
  toJson params := .ofMembers [("id", toJson params.id)]
  decode := CancelParams.layout.decode

end PolicyServer.Rpc
