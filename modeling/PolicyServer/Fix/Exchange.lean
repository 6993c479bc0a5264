import PolicyServer.Config.Settings
import PolicyServer.Fix.Failure
import PolicyServer.Json.Record
import PolicyServer.Json.Writer
import PolicyServer.Text.Blank

/-! Asking a service for a fix: the request that is sent, and what is made of the answer. -/

namespace PolicyServer.Fix

open Json

def prompt (code failure : String) : String := String.intercalate "\n" [
  "The code snippet below failed a policy check. Rewrite it so the check passes.",
  "The snippet is part of a larger program: change only what the fix requires and return only the " ++
    "rewritten snippet, with no commentary, comments, imports or exports.",
  "",
  "Rules:",
  "- Never change a resource's type or its name argument.",
  "- Prefer companion resources over inline properties when the provider offers them.",
  "- Reference other resources' outputs instead of hard-coding their names.",
  "- Do not add a physical name property to a resource.",
  "",
  "Code snippet:",
  "",
  code,
  "",
  "Failed policy check:",
  failure,
  ""]

structure Request where
  endpoint : String
  authorization : String
  body : Bytes

/-- The request for a fix, unless the settings rule it out. -/
def request (settings : FixerSettings) (code failure : String) : Except FixError Request :=
  let key := Text.trim settings.apiKey
  if !settings.enabled then .error .disabled
  else if key.isEmpty then .error .missingApiKey
  else .ok {
    endpoint := settings.endpoint
    authorization := s!"Bearer {key}"
    body := (Json.obj [("model", .str settings.model), ("input", .str (prompt code failure))]).toBytes }

/-- What came of a request: no answer in time, none at all, or a status with the chunks of a body. -/
inductive Reply where
  | timedOut
  | unreachable (reason : String)
  | answered (status : Nat) (chunks : List Bytes)

/-- The most bytes told of the body of a refusal. -/
def maxRefusal : Nat := 32768

/-- The text of the body of a refusal that comes in chunks, cut where it gets too long. -/
def refusalText (body : Bytes) : List Bytes → String
  | [] => Utf8.decodeLossy body
  | chunk :: rest =>
    let body := body ++ chunk
    if body.length > maxRefusal then Utf8.decodeLossy (body.take maxRefusal) ++ "...(truncated)"
    else refusalText body rest

def reasons : List (Nat × String) := [
  (100, "Continue"), (101, "Switching Protocols"), (102, "Processing"), (103, "Early Hints"),
  (200, "OK"), (201, "Created"), (202, "Accepted"), (203, "Non Authoritative Information"),
  (204, "No Content"), (205, "Reset Content"), (206, "Partial Content"), (207, "Multi-Status"),
  (208, "Already Reported"), (226, "IM Used"),
  (300, "Multiple Choices"), (301, "Moved Permanently"), (302, "Found"), (303, "See Other"),
  (304, "Not Modified"), (305, "Use Proxy"), (307, "Temporary Redirect"),
  (308, "Permanent Redirect"),
  (400, "Bad Request"), (401, "Unauthorized"), (402, "Payment Required"), (403, "Forbidden"),
  (404, "Not Found"), (405, "Method Not Allowed"), (406, "Not Acceptable"),
  (407, "Proxy Authentication Required"), (408, "Request Timeout"), (409, "Conflict"),
  (410, "Gone"), (411, "Length Required"), (412, "Precondition Failed"),
  (413, "Payload Too Large"), (414, "URI Too Long"), (415, "Unsupported Media Type"),
  (416, "Range Not Satisfiable"), (417, "Expectation Failed"), (418, "I'm a teapot"),
  (421, "Misdirected Request"), (422, "Unprocessable Entity"), (423, "Locked"),
  (424, "Failed Dependency"), (425, "Too Early"), (426, "Upgrade Required"),
  (428, "Precondition Required"), (429, "Too Many Requests"),
  (431, "Request Header Fields Too Large"), (451, "Unavailable For Legal Reasons"),
  (500, "Internal Server Error"), (501, "Not Implemented"), (502, "Bad Gateway"),
  (503, "Service Unavailable"), (504, "Gateway Timeout"), (505, "HTTP Version Not Supported"),
  (506, "Variant Also Negotiates"), (507, "Insufficient Storage"), (508, "Loop Detected"),
  (510, "Not Extended"), (511, "Network Authentication Required")]

def renderStatus (status : Nat) : String :=
  match reasons.lookup status with
  | some reason => s!"{status} {reason}"
  | none => s!"{status} <unknown status code>"

structure Content where
  kind : String := ""
  text : String := ""
  deriving DecidableEq, Repr

def Content.fields (_ : Nat) : List (RecordField Content) := [
  ⟨"type", true, true, fun content bytes => do
    let (kind, rest) ← readString bytes
    .ok ({ content with kind }, rest)⟩,
  ⟨"text", false, false, fun content bytes => do
    let (text, rest) ← readString bytes
    .ok ({ content with text }, rest)⟩]

def itemFields (depth : Nat) : List (RecordField (List Content)) := [
  ⟨"content", false, false, fun _ bytes =>
    readArray depth (readRecord · Content.fields {}) bytes⟩]

def answerFields (depth : Nat) : List (RecordField (List (List Content))) := [
  ⟨"output", false, false, fun _ bytes =>
    readArray depth (readRecord · itemFields []) bytes⟩]

/-- The parts of the output that an answer tells of, item after item. -/
def contents (body : Bytes) : Except ReadError (List Content) :=
  (readWhole (readRecord depthLimit answerFields []) body).map List.flatten

/-- The lines of a text, without their ends. What follows the last line feed is a line unless it is
empty, and keeps its carriage return. -/
def lines (text : String) : List String :=
  let parts := text.splitOn "\n"
  let whole := parts.dropLast.map fun line =>
    if line.endsWith "\r" then (line.dropEnd 1).toString else line
  whole ++ (parts.getLast?.filter (· ≠ "")).toList

/-- Code without the fences that may stand around it. -/
def stripFences (text : String) : String :=
  String.intercalate "\n" ((lines text).filter fun line => !line.startsWith "```")

/-- The fix that an answer holds; none if there is nothing but blanks. -/
def fixOf (contents : List Content) : Except FixError (Option String) :=
  match contents.find? (·.kind = "output_text") with
  | none => .error (.response "no output text")
  | some content =>
    let code := stripFences content.text
    .ok (if (Text.trim code).isEmpty then none else some code)

def interpret : Reply → Except FixError (Option String)
  | .timedOut => .error .timeout
  | .unreachable reason => .error (.request reason)
  | .answered status chunks =>
    if status = 204 then .ok none
    else if 200 ≤ status ∧ status < 300 then
      match contents chunks.flatten with
      | .error _ => .error (.request "error decoding response body")
      | .ok contents => fixOf contents
    else .error (.status (renderStatus status) (refusalText [] chunks))

end PolicyServer.Fix
