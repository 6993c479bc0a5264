import PolicyServer.Json.Wire

/-! Places in a document, and the declarations found there. -/

namespace PolicyServer

/-- A place in a source text: rows end with a line feed, columns count bytes. -/
structure Point where
  row : UInt32
  column : UInt32
  deriving DecidableEq, Inhabited, Repr

structure Position where
  line : UInt32
  character : UInt32
  deriving DecidableEq, Inhabited, Repr

structure Range where
  start : Position
  stop : Position
  deriving DecidableEq, Inhabited, Repr

def Range.lineStart (line : UInt32) : Range := ⟨⟨line, 0⟩, ⟨line, 0⟩⟩

/-- A resource declaration in a source text: what is constructed, the name it is given, and the
text of the whole expression with its place. -/
structure Capture where
  typeName : String
  identifier : String
  text : String
  start : Point
  stop : Point
  deriving DecidableEq, Inhabited, Repr

def Point.toPosition (point : Point) : Position := ⟨point.row, point.column⟩

def Capture.range (capture : Capture) : Range :=
  ⟨capture.start.toPosition, capture.stop.toPosition⟩

open Json

def Point.layout : Layout Point where
  name := "Point"
  blank := default
  slots := [
    .required "row" fun point row => { point with row },
    .required "column" fun point column => { point with column }]

instance : Wire Point where
  toJson point := .ofMembers [("row", toJson point.row), ("column", toJson point.column)]
  decode := Point.layout.decode

def Position.layout : Layout Position where
  name := "Position"
  blank := default
  slots := [
    .required "line" fun position line => { position with line },
    .required "character" fun position character => { position with character }]

instance : Wire Position where
  toJson position :=
    .ofMembers [("line", toJson position.line), ("character", toJson position.character)]
  decode := Position.layout.decode

def Range.layout : Layout Range where
  name := "Range"
  blank := default
  slots := [
    .required "start" fun range start => { range with start },
    .required "end" fun range stop => { range with stop }]

instance : Wire Range where
  toJson range := .ofMembers [("start", toJson range.start), ("end", toJson range.stop)]
  decode := Range.layout.decode

def Capture.layout : Layout Capture where
  name := "Capture"
  blank := default
  slots := [
    .required "typeName" fun capture typeName => { capture with typeName },
    .required "identifier" fun capture identifier => { capture with identifier },
    .required "text" fun capture text => { capture with text },
    .required "start" fun capture start => { capture with start },
    .required "end" fun capture stop => { capture with stop }]

instance : Wire Capture where
  toJson capture := .ofMembers [
    ("typeName", toJson capture.typeName),
    ("identifier", toJson capture.identifier),
    ("text", toJson capture.text),
    ("start", toJson capture.start),
    ("end", toJson capture.stop)]
  decode := Capture.layout.decode

end PolicyServer
