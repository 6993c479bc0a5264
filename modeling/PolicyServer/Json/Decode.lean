import PolicyServer.Json.Writer
import PolicyServer.Text.Quoted

/-! Decoding values into typed data, with one cause per way it can fail. -/

namespace PolicyServer.Json

inductive DecodeError where
  | kind (found : Json) (expected : String)
  | range (found : Int) (expected : String)
  | short (length : Nat) (expected : String)
  | long (length : Nat)
  | missing (field : String)
  | noAlternative (union : String)
  | unlisted (complaint : String) (found : Json)

/-- A value as messages about it name it. -/
def describe : Json → String
  | .null => "null"
  | .bool b => s!"boolean `{b}`"
  | .int n => s!"integer `{n}`"
  | .float bits => s!"floating point `{String.ofList (writeFloat bits)}`"
  | .str text => s!"string {Text.quote text}"
  | .arr _ => "sequence"
  | .obj _ => "map"

def DecodeError.message : DecodeError → String
  | .kind found expected => s!"invalid type: {found.describe}, expected {expected}"
  | .range found expected => s!"invalid value: integer `{found}`, expected {expected}"
  | .short length expected => s!"invalid length {length}, expected {expected}"
  | .long length => s!"invalid length {length}, expected fewer elements in array"
  | .missing field => s!"missing field `{field}`"
  | .noAlternative union => s!"data did not match any variant of untagged enum {union}"
  | .unlisted complaint (.str text) => s!"{complaint} {Text.quote text}"
  | .unlisted complaint found => s!"{complaint} {found.render}"

abbrev Decoder (α : Type) := Json → Except DecodeError α

def asUnit : Decoder Unit
  | .null => .ok ()
  | other => .error (.kind other "unit")

def asString : Decoder String
  | .str text => .ok text
  | other => .error (.kind other "a string")

def asBool : Decoder Bool
  | .bool b => .ok b
  | other => .error (.kind other "a boolean")

/-- A whole number between two bounds, both included, of a kind that messages call `name`. -/
def asInt (name : String) (lowest highest : Int) : Decoder Int
  | .int n => if lowest ≤ n ∧ n ≤ highest then .ok n else .error (.range n name)
  | other => .error (.kind other name)

def asUInt8 : Decoder UInt8 := fun value =>
  (asInt "u8" 0 0xFF value).map fun n => UInt8.ofNat n.toNat

def asUInt32 : Decoder UInt32 := fun value =>
  (asInt "u32" 0 0xFFFFFFFF value).map fun n => UInt32.ofNat n.toNat

def asUInt64 : Decoder UInt64 := fun value =>
  (asInt "u64" 0 0xFFFFFFFFFFFFFFFF value).map fun n => UInt64.ofNat n.toNat

def asInt32 : Decoder Int32 := fun value =>
  (asInt "i32" (-0x80000000) 0x7FFFFFFF value).map Int32.ofInt

def asInt64 : Decoder Int64 := fun value =>
  (asInt "i64" (-0x8000000000000000) 0x7FFFFFFFFFFFFFFF value).map Int64.ofInt

def asOption (decode : Decoder α) : Decoder (Option α)
  | .null => .ok none
  | value => (decode value).map some

def asList (decode : Decoder α) : Decoder (List α)
  | .arr items => items.mapM decode
  | other => .error (.kind other "a sequence")

def asMembers (decode : Decoder α) : Decoder (List (String × α))
  | .obj members => members.mapM fun (key, value) => (decode value).map (key, ·)
  | other => .error (.kind other "a map")

/-- A field of a record: `set` decodes a value into a record in the making. -/
structure Slot (α : Type) where
  name : String
  optional : Bool
  set : α → Json → Except DecodeError α

/-- The form of a record: its fields in order, and a record to start from, in which optional fields
have the values they take when left out. -/
structure Layout (α : Type) where
  name : String
  blank : α
  slots : List (Slot α)

namespace Layout

/-- Takes the known members of an object into a record, in the order they stand in. -/
def takeMembers (layout : Layout α) : List (String × Json) → α → Except DecodeError α
  | [], record => .ok record
  | (key, value) :: rest, record =>
    match layout.slots.find? (·.name = key) with
    | none => takeMembers layout rest record
    | some slot =>
      match slot.set record value with
      | .error error => .error error
      | .ok record => takeMembers layout rest record

/-- Takes the items of an array into a record, one for each field in turn. -/
def takeItems (layout : Layout α) (length : Nat) :
    List (Slot α) → List Json → α → Except DecodeError α
  | [], [], record => .ok record
  | [], _ :: _, _ => .error (.long length)
  | slot :: slots, [], record =>
    if slot.optional then takeItems layout length slots [] record
    else
      let expected := s!"struct {layout.name} with {layout.slots.length} element" ++
        if layout.slots.length = 1 then "" else "s"
      .error (.short (layout.slots.length - (slots.length + 1)) expected)
  | slot :: slots, item :: items, record =>
    match slot.set record item with
    | .error error => .error error
    | .ok record => takeItems layout length slots items record

/-- The first field that may not be left out and is not among the members. -/
def absent? (layout : Layout α) (members : List (String × Json)) : Option (Slot α) :=
  layout.slots.find? fun slot => !slot.optional && (members.lookup slot.name).isNone

/-- A record from an object, or from an array of its fields in order. -/
def decode (layout : Layout α) : Decoder α
  | .obj members =>
    match layout.takeMembers members layout.blank with
    | .error error => .error error
    | .ok record =>
      match layout.absent? members with
      | some slot => .error (.missing slot.name)
      | none => .ok record
  | .arr items => layout.takeItems items.length layout.slots items layout.blank
  | other => .error (.kind other s!"struct {layout.name}")

end Layout

end PolicyServer.Json
