import PolicyServer.Proofs.Json.Layout
import PolicyServer.Proofs.Rpc.Messages
import PolicyServer.Protocol.Request

/-!
Diagnostics and actions cross the wire unchanged: what is written of one decodes to what it was, and its
text reads back as what was written.
-/

namespace PolicyServer

open Json

/-! ### Values that read back from their text -/

namespace Json

variable {value : Json} {levels : Nat}

/-- A regular value without floating-point numbers, in which so many arrays and objects lie inside one
another at most. -/
structure Sendable (levels : Nat) (value : Json) : Prop where
  within : value.Within levels
  floatFree : value.FloatFree

theorem Sendable.mono (sendable : value.Sendable levels) {more : Nat} (room : levels ≤ more) :
    value.Sendable more :=
  ⟨⟨sendable.within.1, Nat.le_trans sendable.within.2 room⟩, sendable.floatFree⟩

theorem Sendable.parse_toBytes (sendable : value.Sendable levels) (fits : levels ≤ depthLimit) :
    Json.parse value.toBytes = .ok value :=
  Rpc.readWhole_toBytes (readValue_toBytes sendable.within.1 sendable.floatFree
    (Nat.le_trans sendable.within.2 fits))

theorem sendable_scalar (regular : IsRegular value) (plain : value.isFloat = false)
    (items : value.items = []) (members : value.members = []) (flat : value.depth = 0) :
    value.Sendable levels := by
  refine ⟨within_scalar regular items members flat, .intro plain ?_ ?_⟩
  · simp [items]
  · simp [members]

theorem sendable_arr {items : List Json} (each : ∀ item ∈ items, item.Sendable levels) :
    (Json.arr items).Sendable (levels + 1) where
  within := within_arr fun item member => (each item member).within
  floatFree := .intro rfl (fun item member => (each item member).floatFree) (by simp [members])

theorem sendable_obj {members : List (String × Json)} (ordered : Table.Ordered members)
    (each : ∀ member ∈ members, member.2.Sendable levels) :
    (Json.obj members).Sendable (levels + 1) where
  within := within_obj ordered fun member listed => (each member listed).within
  floatFree := .intro rfl (by simp [items]) fun member listed => (each member listed).floatFree

theorem sendable_ofMembers {members : List (String × Json)}
    (each : ∀ member ∈ members, member.2.Sendable levels) :
    (Json.ofMembers members).Sendable (levels + 1) := by
  -- Members are put into a table one by one, which stays in order and holds nothing else.
  obtain ⟨ordered, among⟩ : Table.Ordered (Table.ofList members) ∧
      ∀ member ∈ Table.ofList members, member.2.Sendable levels := by
    refine List.foldlRecOn (motive := fun table : Table Json => Table.Ordered table ∧
      ∀ member ∈ table, member.2.Sendable levels) members _ ⟨.nil, by simp⟩ ?_
    rintro table ⟨ordered, before⟩ ⟨key, value⟩ listed
    refine ⟨ordered.put key value, fun member found => ?_⟩
    rcases Table.mem_of_mem_put found with rfl | there
    · exact each _ listed
    · exact before member there
  exact sendable_obj ordered among

theorem sendable_ofPresent {members : List (String × Option Json)}
    (each : ∀ member ∈ members, ∀ value ∈ member.2, value.Sendable levels) :
    (Json.ofPresent members).Sendable (levels + 1) := by
  refine sendable_ofMembers fun member listed => ?_
  obtain ⟨⟨key, found⟩, there, made⟩ := List.mem_filterMap.mp listed
  obtain ⟨value, present, rfl⟩ := Option.map_eq_some_iff.mp made
  exact each _ there value present

/-! ### Records with fields that may be left out -/

section Fields

variable {α β : Type} [Wire β] {layout : Layout α} {record : α} {key : String}
  {rest : List (String × Json)}

def field (key : String) (value : Option Json) : List (String × Json) :=
  (value.map (key, ·)).toList

theorem Layout.takeMembers_field {put : α → Option β → α}
    (known : layout.slots.find? (·.name = key) = some (.nullable key put)) {value : Option β}
    (restores : ∀ found ∈ value, Wire.decode (toJson found) = .ok found)
    (written : ∀ found ∈ value, toJson found ≠ .null) (unset : put record none = record) :
    layout.takeMembers (field key (value.map toJson) ++ rest) record =
      layout.takeMembers rest (put record value) := by
  cases value with
  | none =>
    rw [unset]
    rfl
  | some found =>
    exact Layout.takeMembers_cons known
      (Slot.nullable_set (restores found rfl) key put record (written found rfl))

end Fields

end Json

theorem restores_list {α : Type} [Wire α] {items : List α}
    (each : ∀ item ∈ items, Wire.decode (toJson item) = .ok item) :
    Wire.decode (toJson items) = .ok items := by
  show (items.map toJson).mapM Wire.decode = .ok items
  induction items with
  | nil => rfl
  | cons item items ih =>
    rw [List.map_cons, List.mapM_cons, each item List.mem_cons_self,
      ih fun other member => each other (List.mem_cons_of_mem _ member)]
    rfl

theorem restores_position : Restores Position := by
  intro position
  show Position.layout.decode (.obj [("character", toJson position.character),
    ("line", toJson position.line)]) = _
  refine Layout.decode_obj ?_ rfl
  rw [Layout.takeMembers_cons rfl (Slot.required_set restores_uint32 _ _ _ _),
    Layout.takeMembers_cons rfl (Slot.required_set restores_uint32 _ _ _ _)]
  rfl

theorem restores_range : Restores Range := by
  intro range
  show Range.layout.decode (.obj [("end", toJson range.stop), ("start", toJson range.start)]) = _
  refine Layout.decode_obj ?_ rfl
  rw [Layout.takeMembers_cons rfl (Slot.required_set restores_position _ _ _ _),
    Layout.takeMembers_cons rfl (Slot.required_set restores_position _ _ _ _)]
  rfl

theorem restores_severity : Restores Severity := by
  intro severity
  cases severity <;> rfl

theorem restores_diagnostic {shown : Diagnostic} (data : ∀ value ∈ shown.data, value ≠ .null) :
    Wire.decode (toJson shown) = .ok shown := by
  obtain ⟨range, severity, source, message, found⟩ := shown
  -- Members are written in the order of their names.
  have written : toJson (⟨range, severity, source, message, found⟩ : Diagnostic) =
      .obj (field "data" (found.map toJson) ++ ("message", toJson message) ::
        ("range", toJson range) :: (field "severity" (severity.map toJson) ++
          (field "source" (source.map toJson) ++ []))) := by
    cases severity <;> cases source <;> cases found <;> rfl
  rw [written]
  refine Layout.decode_obj ?_ ?_
  · rw [Layout.takeMembers_field rfl (fun _ _ => rfl) data rfl,
      Layout.takeMembers_cons rfl (Slot.required_set restores_string _ _ _ _),
      Layout.takeMembers_cons rfl (Slot.required_set restores_range _ _ _ _),
      Layout.takeMembers_field rfl (fun found _ => restores_severity found)
        (fun _ _ => Json.noConfusion) rfl,
      Layout.takeMembers_field rfl (fun found _ => restores_string found)
        (fun _ _ => Json.noConfusion) rfl]
    rfl
  · cases severity <;> cases source <;> cases found <;> rfl

theorem restores_textEdit : Restores TextEdit := by
  intro edit
  show TextEdit.layout.decode (.obj [("newText", toJson edit.newText),
    ("range", toJson edit.range)]) = _
  refine Layout.decode_obj ?_ rfl
  rw [Layout.takeMembers_cons rfl (Slot.required_set restores_string _ _ _ _),
    Layout.takeMembers_cons rfl (Slot.required_set restores_range _ _ _ _)]
  rfl

theorem restores_workspaceEdit : Restores WorkspaceEdit := by
  rintro ⟨changes⟩
  have each : (changes.map fun change => (change.1, toJson change.2)).mapM
      (fun member => (Wire.decode member.2).map fun edits : List TextEdit => (member.1, edits)) =
        (.ok changes : Except DecodeError (Table (List TextEdit))) := by
    induction changes with
    | nil => rfl
    | cons change changes ih =>
      have edits : Wire.decode (toJson change.2) = .ok change.2 :=
        restores_list fun edit _ => restores_textEdit edit
      rw [List.map_cons, List.mapM_cons, ih, edits]
      rfl
  have taken := congrArg (Except.map fun changes => (⟨changes⟩ : WorkspaceEdit)) each
  exact Layout.decode_obj (Layout.takeMembers_cons rfl taken) rfl

theorem restores_codeAction {action : CodeAction} (data : ∀ value ∈ action.data, value ≠ .null)
    (diagnostics : ∀ shown ∈ action.diagnostics, ∀ diagnostic ∈ shown,
      ∀ value ∈ diagnostic.data, value ≠ .null) :
    Wire.decode (toJson action) = .ok action := by
  obtain ⟨title, kind, shown, edit, found⟩ := action
  have written : toJson (⟨title, kind, shown, edit, found⟩ : CodeAction) =
      .obj (field "data" (found.map toJson) ++ (field "diagnostics" (shown.map toJson) ++
        (field "edit" (edit.map toJson) ++ (field "kind" (kind.map toJson) ++
          [("title", toJson title)])))) := by
    cases kind <;> cases shown <;> cases edit <;> cases found <;> rfl
  rw [written]
  refine Layout.decode_obj ?_ ?_
  · rw [Layout.takeMembers_field rfl (fun _ _ => rfl) data rfl,
      Layout.takeMembers_field rfl (fun shown there => restores_list fun diagnostic member =>
        restores_diagnostic (diagnostics shown there diagnostic member))
        (fun _ _ => Json.noConfusion) rfl,
      Layout.takeMembers_field rfl (fun found _ => restores_workspaceEdit found)
        (fun _ _ => Json.noConfusion) rfl,
      Layout.takeMembers_field rfl (fun found _ => restores_string found)
        (fun _ _ => Json.noConfusion) rfl,
      Layout.takeMembers_cons rfl (Slot.required_set restores_string _ _ _ _)]
    rfl
  · cases kind <;> cases shown <;> cases edit <;> cases found <;> rfl

/-! ### What is written of them reads back from its text -/

section Texts

variable {levels : Nat}

theorem sendable_string (text : String) : (toJson text).Sendable levels :=
  sendable_scalar trivial rfl rfl rfl rfl

theorem sendable_uint32 (n : UInt32) : (toJson n).Sendable levels := by
  have bound : n.toNat < 4294967296 := n.toNat_lt
  exact sendable_scalar ⟨by omega, by omega⟩ rfl rfl rfl rfl

theorem sendable_range (range : Range) : (toJson range).Sendable 2 := by
  have position (place : Position) : (toJson place).Sendable 1 :=
    sendable_ofMembers (by simp [sendable_uint32])
  exact sendable_ofMembers (by simp [position])

theorem sendable_fixTarget (target : FixTarget) : (toJson target).Sendable 3 := by
  have point (place : Point) : (toJson place).Sendable 1 :=
    sendable_ofMembers (by simp [sendable_uint32])
  have capture (declaration : Capture) : (toJson declaration).Sendable 2 :=
    sendable_ofMembers (by simp [point, sendable_string])
  have uri (name : DocumentUri) : (toJson name).Sendable 2 := sendable_string name.text
  exact sendable_ofPresent (by simp [capture, uri])

theorem sendable_diagnostic {shown : Diagnostic} (room : 2 ≤ levels)
    (data : ∀ value ∈ shown.data, value.Sendable levels) : (toJson shown).Sendable (levels + 1) := by
  have range := (sendable_range shown.range).mono room
  have severity (grade : Severity) : (toJson grade).Sendable levels := by
    cases grade <;> exact sendable_scalar ⟨by decide, by decide⟩ rfl rfl rfl rfl
  exact sendable_ofPresent (by simp_all [sendable_string])

theorem sendable_codeAction {action : CodeAction}
    (diagnostics : ∀ shown ∈ action.diagnostics, ∀ diagnostic ∈ shown,
      (toJson diagnostic).Sendable levels)
    (edit : ∀ edit ∈ action.edit, (toJson edit).Sendable (levels + 1))
    (data : ∀ value ∈ action.data, value.Sendable (levels + 1)) :
    (toJson action).Sendable (levels + 2) := by
  have shown : ∀ shown ∈ action.diagnostics, (toJson shown).Sendable (levels + 1) := by
    intro shown there
    refine sendable_arr fun item member => ?_
    obtain ⟨diagnostic, listed, rfl⟩ := List.mem_map.mp member
    exact diagnostics shown there diagnostic listed
  exact sendable_ofPresent (by simp_all [sendable_string])

end Texts

/-! ### Questions for actions -/

namespace Json

variable {α β : Type} {layout : Layout α} {members : List (String × Json)} {key : String}
  {found : Json} {view : α → β} {seen : β}

theorem Layout.exists_takeMembers {slot : Slot α}
    (known : layout.slots.find? (·.name = key) = some slot)
    (each : ∀ member ∈ members, ∀ slot ∈ layout.slots, slot.name = member.1 → ∀ record, ∃ next,
      slot.set record member.2 = .ok next ∧ view next = if slot.name = key then seen else view record)
    (record : α) : ∃ final, layout.takeMembers members record = .ok final ∧
      view final = if key ∈ members.map (·.1) then seen else view record := by
  induction members generalizing record with
  | nil => exact ⟨record, rfl, rfl⟩
  | cons member rest ih =>
    have later := ih fun other listed => each other (List.mem_cons_of_mem _ listed)
    simp only [Layout.takeMembers, List.map_cons, List.mem_cons]
    cases found : layout.slots.find? (·.name = member.1) with
    | none =>
      have other : key ≠ member.1 := by
        rintro rfl
        cases known.symm.trans found
      simpa only [other, false_or] using later record
    | some slot =>
      have named : slot.name = member.1 := by simpa using List.find?_some found
      obtain ⟨next, set, shows⟩ :=
        each _ List.mem_cons_self slot (List.mem_of_find?_eq_some found) named record
      obtain ⟨final, taken, after⟩ := later next
      simp only [set]
      refine ⟨final, taken, after.trans ?_⟩
      rw [shows, named]
      by_cases here : key = member.1
      · simp [here]
      · simp only [here, Ne.symm here, if_false, false_or]

theorem Layout.decode_view {slot : Slot α} (ordered : Table.Ordered members)
    (listed : members.lookup key = some found)
    (known : layout.slots.find? (·.name = key) = some slot) (all : layout.absent? members = none)
    (each : ∀ slot ∈ layout.slots, ∀ value, members.lookup slot.name = some value → ∀ record, ∃ next,
      slot.set record value = .ok next ∧ view next = if slot.name = key then seen else view record) :
    ∃ final, layout.decode (.obj members) = .ok final ∧ view final = seen := by
  obtain ⟨final, taken, shows⟩ := Layout.exists_takeMembers known (fun member there slot among named =>
    each slot among member.2 (named ▸ ordered.get?_of_mem there)) layout.blank
  obtain ⟨before, after, rfl, -⟩ := List.lookup_eq_some_iff.mp listed
  exact ⟨final, Layout.decode_obj taken all, shows.trans (if_pos (by simp))⟩

theorem Layout.absent?_eq_none
    (each : ∀ slot ∈ layout.slots, ∃ value, members.lookup slot.name = some value) :
    layout.absent? members = none := by
  refine List.find?_eq_none.mpr fun slot among => ?_
  obtain ⟨value, found⟩ := each slot among
  rw [found, Option.isNone_some, Bool.and_false]
  decide

theorem Slot.required_ok [Wire β] {name : String} {put : α → β → α} {value : Json} {read : β}
    (decoded : Wire.decode value = .ok read) (record : α) :
    (Slot.required name put).set record value = .ok (put record read) := by
  simp only [Slot.required, decoded, Except.map]

end Json

/--
Holds for what a question for actions may say: which document and range it is about, and which
diagnostics. It may say more, which is passed over.
-/
structure Asks (params : Json) (items : List Json) : Prop where
  document : ∃ value, params.member? "textDocument" = some value ∧
    ∃ document : DocumentName, Wire.decode value = .ok document
  range : ∃ value, params.member? "range" = some value ∧ ∃ range : Range, Wire.decode value = .ok range
  context : ∃ value, params.member? "context" = some value ∧
    value.member? "diagnostics" = some (.arr items)

theorem decode_context {members : List (String × Json)} {items : List Json}
    {diagnostics : List Diagnostic} (ordered : Table.Ordered members)
    (listed : members.lookup "diagnostics" = some (.arr items))
    (decoded : items.mapM Wire.decode = .ok diagnostics) :
    ∃ context : CodeActionContext, Wire.decode (.obj members) = .ok context ∧
      context.diagnostics = diagnostics := by
  have set (record : CodeActionContext) :
      (Slot.defaulted "diagnostics" fun (context : CodeActionContext) diagnostics =>
        { context with diagnostics }).set record (.arr items) = .ok ⟨diagnostics⟩ := by
    have read : (Wire.decode (.arr items) : Except DecodeError (List Diagnostic)) =
      .ok diagnostics := decoded
    simp only [Slot.defaulted, read, Except.map]
  refine Layout.decode_view ordered listed rfl rfl fun slot among value found record => ?_
  cases List.mem_singleton.mp among
  cases listed.symm.trans found
  exact ⟨_, set record, rfl⟩

theorem decode_question {params : Json} {items : List Json} {diagnostics : List Diagnostic}
    (regular : params.Regular) (asks : Asks params items)
    (decoded : items.mapM Wire.decode = .ok diagnostics) :
    ∃ question, CodeActionParams.layout.decode params = .ok question ∧
      question.diagnostics = diagnostics := by
  obtain ⟨⟨document, named, name, isName⟩, ⟨range, placed, place, isPlace⟩, context, told, listed⟩ := asks
  -- Only objects have members, and what is read has them in order.
  cases params with
  | obj members =>
    obtain ⟨ordered, -, below⟩ := regular
    cases context with
    | obj inner =>
      obtain ⟨before, after, split, -⟩ := List.lookup_eq_some_iff.mp told
      obtain ⟨orderedInner, -, -⟩ := below ("context", .obj inner) (by simp [Json.members, split])
      obtain ⟨read, isContext, shows⟩ := decode_context orderedInner listed decoded
      refine Layout.decode_view ordered told rfl ?_ fun slot among value found record => ?_
      · refine Layout.absent?_eq_none fun slot among => ?_
        simp only [CodeActionParams.layout, List.mem_cons, List.not_mem_nil, or_false] at among
        rcases among with rfl | rfl | rfl
        · exact ⟨document, named⟩
        · exact ⟨range, placed⟩
        · exact ⟨_, told⟩
      · -- The other two fields are set without touching the diagnostics.
        simp only [CodeActionParams.layout, List.mem_cons, List.not_mem_nil, or_false] at among
        rcases among with rfl | rfl | rfl
        · cases named.symm.trans found
          exact ⟨_, Slot.required_ok isName record, rfl⟩
        · cases placed.symm.trans found
          exact ⟨_, Slot.required_ok isPlace record, rfl⟩
        · cases told.symm.trans found
          exact ⟨_, Slot.required_ok isContext record, shows⟩
    | _ => cases listed
  | _ => cases told

end PolicyServer
