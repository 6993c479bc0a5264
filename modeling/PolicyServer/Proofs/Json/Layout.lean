import PolicyServer.Protocol.Diagnostic

/-! What is written of a fix target reads back as it was, so that it may travel with a diagnostic. -/

namespace PolicyServer

open Json

def Restores (α : Type) [Wire α] : Prop := ∀ value : α, Wire.decode (toJson value) = .ok value

namespace Json

variable {α β : Type} {layout : Layout α} {record next : α} {slot : Slot α} {key : String} {value : Json}
  {rest members : List (String × Json)}

theorem Layout.takeMembers_cons (known : layout.slots.find? (·.name = key) = some slot)
    (taken : slot.set record value = .ok next) :
    layout.takeMembers ((key, value) :: rest) record = layout.takeMembers rest next := by
  simp only [Layout.takeMembers, known, taken]

theorem Layout.decode_obj (taken : layout.takeMembers members layout.blank = .ok record)
    (all : layout.absent? members = none) : layout.decode (.obj members) = .ok record := by
  simp only [Layout.decode, taken, all]

theorem Slot.required_set [Wire β] (restores : Restores β) (name : String) (put : α → β → α)
    (record : α) (value : β) :
    (Slot.required name put).set record (toJson value) = .ok (put record value) := by
  simp only [Slot.required, restores value, Except.map]

theorem Slot.nullable_set [Wire β] {value : β} (restored : Wire.decode (toJson value) = .ok value)
    (name : String) (put : α → Option β → α) (record : α) (some : toJson value ≠ .null) :
    (Slot.nullable name put).set record (toJson value) = .ok (put record value) := by
  have read : asOption Wire.decode (toJson value) = .ok (Option.some value) := by
    unfold asOption
    split
    · rename_i null
      exact absurd null some
    · rw [restored]
      rfl
  simp only [Slot.nullable, read, Except.map]

end Json

theorem restores_string : Restores String := fun _ => rfl

theorem restores_uri : Restores DocumentUri := fun _ => rfl

theorem restores_uint32 : Restores UInt32 := by
  intro n
  have bound : n.toNat < 4294967296 := n.toNat_lt
  have within : (0 : Int) ≤ n.toNat ∧ (n.toNat : Int) ≤ 0xFFFFFFFF := by omega
  simp only [Wire.decode, toJson, asUInt32, asInt, within, and_self, if_true, Except.map,
    Int.toNat_natCast, UInt32.ofNat_toNat]

theorem restores_point : Restores Point := by
  intro point
  -- Members are written in the order of their names.
  show Point.layout.decode (.obj [("column", toJson point.column), ("row", toJson point.row)]) = _
  refine Layout.decode_obj ?_ rfl
  rw [Layout.takeMembers_cons rfl (Slot.required_set restores_uint32 _ _ _ _),
    Layout.takeMembers_cons rfl (Slot.required_set restores_uint32 _ _ _ _)]
  rfl

theorem restores_capture : Restores Capture := by
  intro capture
  show Capture.layout.decode (.obj [("end", toJson capture.stop),
    ("identifier", toJson capture.identifier), ("start", toJson capture.start),
    ("text", toJson capture.text), ("typeName", toJson capture.typeName)]) = _
  refine Layout.decode_obj ?_ rfl
  rw [Layout.takeMembers_cons rfl (Slot.required_set restores_point _ _ _ _),
    Layout.takeMembers_cons rfl (Slot.required_set restores_string _ _ _ _),
    Layout.takeMembers_cons rfl (Slot.required_set restores_point _ _ _ _),
    Layout.takeMembers_cons rfl (Slot.required_set restores_string _ _ _ _),
    Layout.takeMembers_cons rfl (Slot.required_set restores_string _ _ _ _)]
  rfl

theorem restores_fixTarget : Restores FixTarget := by
  rintro ⟨capture, uri⟩
  cases capture with
  | none =>
    refine Layout.decode_obj ?_ rfl
    rfl
  | some capture =>
    show FixTarget.layout.decode (.obj [("capture", toJson capture), ("uri", toJson uri)]) = _
    have written : toJson capture ≠ .null := fun same => by cases same
    refine Layout.decode_obj ?_ rfl
    rw [Layout.takeMembers_cons rfl (Slot.nullable_set (restores_capture _) _ _ _ written),
      Layout.takeMembers_cons rfl (Slot.required_set restores_uri _ _ _ _)]
    rfl

end PolicyServer
