import PolicyServer.Json.Decode

/-! Types that cross the wire: how a value of each is written and read. -/

namespace PolicyServer

class Wire (α : Type) where
  toJson : α → Json
  decode : Json.Decoder α

export Wire (toJson)

instance : Wire Json := ⟨id, .ok⟩

instance : Wire Unit := ⟨fun _ => .null, Json.asUnit⟩

instance : Wire String := ⟨.str, Json.asString⟩

instance : Wire Bool := ⟨.bool, Json.asBool⟩

instance : Wire UInt32 := ⟨fun n => .int n.toNat, Json.asUInt32⟩

instance : Wire Int32 := ⟨fun n => .int n.toInt, Json.asInt32⟩

instance : Wire Int64 := ⟨fun n => .int n.toInt, Json.asInt64⟩

instance [Wire α] : Wire (List α) := ⟨fun items => .arr (items.map toJson), Json.asList Wire.decode⟩

namespace Json

def Slot.required [Wire β] (name : String) (put : α → β → α) : Slot α :=
  ⟨name, false, fun record value => (Wire.decode value).map (put record)⟩

/-- A field that may be left out, but not be null. -/
def Slot.defaulted [Wire β] (name : String) (put : α → β → α) : Slot α :=
  ⟨name, true, fun record value => (Wire.decode value).map (put record)⟩

/-- A field that may be left out or be null. -/
def Slot.nullable [Wire β] (name : String) (put : α → Option β → α) : Slot α :=
  ⟨name, true, fun record value => (asOption Wire.decode value).map (put record)⟩

end Json

end PolicyServer
