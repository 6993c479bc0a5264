import PolicyServer.Json.Wire

/-! Messages shown or logged by the editor, and the progress of work. -/

namespace PolicyServer

open Json

inductive MessageType where
  | error
  | warning
  | info
  | log
  deriving DecidableEq, Repr

def MessageType.number : MessageType → Nat
  | .error => 1
  | .warning => 2
  | .info => 3
  | .log => 4

def MessageType.decode (value : Json) : Except DecodeError MessageType := do
  let n ← asUInt8 value
  match n.toNat with
  | 1 => .ok .error
  | 2 => .ok .warning
  | 3 => .ok .info
  | 4 => .ok .log
  | _ => .error (.unlisted "invalid message type" value)

instance : Wire MessageType := ⟨fun type => .int type.number, MessageType.decode⟩

/-- A message that is shown, or one that is logged. -/
structure Notice where
  type : MessageType
  message : String
  deriving DecidableEq, Repr

/-- The form of a notice, under the name its kind goes by. -/
def Notice.layout (name : String) : Layout Notice where
  name
  blank := ⟨.log, ""⟩
  slots := [
    .required "type" fun notice type => { notice with type },
    .required "message" fun notice message => { notice with message }]

def Notice.toJson (notice : Notice) : Json :=
  .ofMembers [("type", Wire.toJson notice.type), ("message", Wire.toJson notice.message)]

structure ShownNotice extends Notice
  deriving DecidableEq, Repr

instance : Wire ShownNotice where
  toJson notice := notice.toNotice.toJson
  decode value := ((Notice.layout "ShowMessageParams").decode value).map (⟨·⟩)

structure LoggedNotice extends Notice
  deriving DecidableEq, Repr

instance : Wire LoggedNotice where
  toJson notice := notice.toNotice.toJson
  decode value := ((Notice.layout "LogMessageParams").decode value).map (⟨·⟩)

inductive ProgressToken where
  | number (n : Int64)
  | text (name : String)
  deriving DecidableEq, Repr

def ProgressToken.render : ProgressToken → String
  | .number n => toString n.toInt
  | .text name => name

instance : Wire ProgressToken where
  toJson
    | .number n => Wire.toJson n
    | .text name => .str name
  decode
    | .int n => if n < 0x8000000000000000 then .ok (.number (Int64.ofInt n)) else
        .error (.noAlternative "ProgressToken")
    | .str name => .ok (.text name)
    | _ => .error (.noAlternative "ProgressToken")

/-- What the editor is told of a piece of work. -/
inductive WorkStage where
  | begin (title : String) (cancellable : Bool) (message : Option String)
  | report (message : Option String) (percentage : Option UInt32)
  | done (message : Option String)
  deriving DecidableEq, Repr

def WorkStage.toJson : WorkStage → Json
  | .begin title cancellable message => .ofPresent [
      ("kind", some (.str "begin")),
      ("title", some (.str title)),
      ("cancellable", some (.bool cancellable)),
      ("message", message.map .str)]
  | .report message percentage => .ofPresent [
      ("kind", some (.str "report")),
      ("message", message.map .str),
      ("percentage", percentage.map Wire.toJson)]
  | .done message => .ofPresent [
      ("kind", some (.str "end")),
      ("message", message.map .str)]

end PolicyServer
