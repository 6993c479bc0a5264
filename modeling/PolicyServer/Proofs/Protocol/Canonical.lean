import PolicyServer.Policy.Violation
import PolicyServer.Proofs.Protocol.Actions

/-!
What was decoded is written in one form.

A value may come as an object or as an array, with members that are not known and with null for what is
left out. Whatever it came as, it is written in a form of its own, which decodes to the same value.
-/

namespace PolicyServer

open Json

/-- Whatever decodes to a value, what is written of the value decodes to it as well, and is written the
same again. -/
def Settles (α : Type) [Wire α] : Prop :=
  ∀ (value : Json) (decoded : α), Wire.decode value = .ok decoded →
    Wire.decode (toJson decoded) = .ok decoded ∧
      ∀ again : α, Wire.decode (toJson decoded) = .ok again → toJson again = toJson decoded

variable {α β : Type}

theorem Settles.of_proper [Wire α] (Proper : α → Prop)
    (proper : ∀ (value : Json) (decoded : α), Wire.decode value = .ok decoded → Proper decoded)
    (restores : ∀ decoded : α, Proper decoded → Wire.decode (toJson decoded) = .ok decoded) :
    Settles α := by
  intro value decoded read
  have restored := restores decoded (proper value decoded read)
  refine ⟨restored, fun again read' => ?_⟩
  rw [restored] at read'
  cases read'
  rfl

theorem Restores.settles [Wire α] (restores : Restores α) : Settles α :=
  .of_proper (fun _ => True) (fun _ _ _ => trivial) fun decoded _ => restores decoded

/-! ### What decoding a record keeps -/

namespace Json

def Slot.Keeps (slot : Slot α) (P : α → Prop) : Prop :=
  ∀ record value next, P record → slot.set record value = .ok next → P next

variable {P : α → Prop} {layout : Layout α} {record final : α}

theorem Layout.takeMembers_keeps (each : ∀ slot ∈ layout.slots, slot.Keeps P)
    {members : List (String × Json)} (before : P record)
    (taken : layout.takeMembers members record = .ok final) : P final := by
  induction members generalizing record with
  | nil =>
    cases taken
    exact before
  | cons member rest ih =>
    simp only [Layout.takeMembers] at taken
    cases known : layout.slots.find? (·.name = member.1) with
    | none =>
      -- A member that is not known is passed over.
      rw [known] at taken
      exact ih before taken
    | some slot =>
      simp only [known] at taken
      cases set : slot.set record member.2 with
      | error error => simp [set] at taken
      | ok next =>
        simp only [set] at taken
        exact ih (each slot (List.mem_of_find?_eq_some known) record member.2 next before set) taken

theorem Layout.takeItems_keeps {slots : List (Slot α)} (each : ∀ slot ∈ slots, slot.Keeps P)
    {length : Nat} {items : List Json} (before : P record)
    (taken : layout.takeItems length slots items record = .ok final) : P final := by
  induction slots generalizing items record with
  | nil =>
    cases items with
    | nil =>
      cases taken
      exact before
    | cons item rest => cases taken
  | cons slot slots ih =>
    have later := fun other member => each other (List.mem_cons_of_mem slot member)
    cases items with
    | nil =>
      simp only [Layout.takeItems] at taken
      split at taken
      · exact ih later before taken
      · cases taken
    | cons item rest =>
      simp only [Layout.takeItems] at taken
      cases set : slot.set record item with
      | error error => simp [set] at taken
      | ok next =>
        simp only [set] at taken
        exact ih later (each slot List.mem_cons_self record item next before set) taken

theorem Layout.decode_keeps (blank : P layout.blank) (each : ∀ slot ∈ layout.slots, slot.Keeps P)
    {value : Json} (decoded : layout.decode value = .ok final) : P final := by
  cases value with
  | obj members =>
    simp only [Layout.decode] at decoded
    cases taken : layout.takeMembers members layout.blank with
    | error error => simp [taken] at decoded
    | ok record =>
      simp only [taken] at decoded
      split at decoded
      · cases decoded
      · cases decoded
        exact Layout.takeMembers_keeps each blank taken
  | arr items => exact Layout.takeItems_keeps each blank decoded
  | _ => cases decoded

variable [Wire β] {name : String}

theorem Slot.required_keeps {put : α → β → α}
    (kept : ∀ record part, P record → (∃ value, Wire.decode value = .ok part) → P (put record part)) :
    (Slot.required name put).Keeps P := by
  intro record value next before set
  obtain ⟨part, read, rfl⟩ := map_eq_ok.mp set
  exact kept record part before ⟨value, read⟩

theorem Slot.nullable_keeps {put : α → Option β → α}
    (kept : ∀ record part, P record → (∀ found ∈ part, ∃ value, value ≠ .null ∧
      Wire.decode value = .ok found) → P (put record part)) :
    (Slot.nullable name put).Keeps P := by
  intro record value next before set
  obtain ⟨part, read, rfl⟩ := map_eq_ok.mp set
  refine kept record part before fun found there => ?_
  unfold asOption at read
  split at read
  · cases read
    cases there
  · rename_i other
    obtain ⟨single, inner, rfl⟩ := map_eq_ok.mp read
    cases there
    exact ⟨value, other, inner⟩

theorem Slot.defaulted_set (restores : Restores β) (name : String) (put : α → β → α)
    (record : α) (value : β) :
    (Slot.defaulted name put).set record (toJson value) = .ok (put record value) :=
  Slot.required_set restores name put record value

end Json

theorem exists_of_mem_decode [Wire α] {value : Json} {items : List α}
    (decoded : Wire.decode value = .ok items) {item : α} (member : item ∈ items) :
    ∃ part, Wire.decode part = .ok item := by
  have general {parts : List Json} {items : List α} (read : parts.mapM Wire.decode = .ok items)
      (member : item ∈ items) : ∃ part, Wire.decode part = .ok item := by
    induction parts generalizing items with
    | nil =>
      cases read
      cases member
    | cons part parts ih =>
      rw [List.mapM_cons] at read
      obtain ⟨first, found, read⟩ := bind_eq_ok.mp read
      obtain ⟨rest, later, same⟩ := bind_eq_ok.mp read
      cases same
      rcases List.mem_cons.mp member with rfl | member
      · exact ⟨part, found⟩
      · exact ih later member
  cases value with
  | arr parts => exact general decoded member
  | _ => cases decoded

/-! ### Numbers, names and levels -/

theorem restores_int32 : Restores Int32 := by
  intro n
  have within : -0x80000000 ≤ n.toInt ∧ n.toInt ≤ 0x7FFFFFFF := by
    have least := n.le_toInt
    have most := n.toInt_lt
    omega
  simp only [Wire.decode, toJson, asInt32, asInt, within, and_self, if_true, Except.map,
    Int32.ofInt_toInt]

theorem restores_int64 : Restores Int64 := by
  intro n
  have within : -0x8000000000000000 ≤ n.toInt ∧ n.toInt ≤ 0x7FFFFFFFFFFFFFFF := by
    have least := n.le_toInt
    have most := n.toInt_lt
    omega
  simp only [Wire.decode, toJson, asInt64, asInt, within, and_self, if_true, Except.map,
    Int64.ofInt_toInt]

theorem restores_id : Restores Rpc.Id := by
  intro id
  cases id with
  | number n =>
    have most : n.toInt < 0x8000000000000000 := n.toInt_lt
    simp only [Wire.decode, toJson, Rpc.Id.decode?, most, if_true, Int64.ofInt_toInt]
  | text name => rfl

theorem restores_progressToken : Restores ProgressToken := by
  intro token
  cases token with
  | number n =>
    have most : n.toInt < 0x8000000000000000 := n.toInt_lt
    simp only [Wire.decode, toJson, most, if_true, Int64.ofInt_toInt]
  | text name => rfl

theorem restores_messageType : Restores MessageType := by
  intro type
  cases type <;> rfl

theorem restores_enforcement : Restores Enforcement := by
  intro level
  have named : Enforcement.ofName? level.name = some level := by cases level <;> decide
  simp only [Wire.decode, toJson, Enforcement.decode, named]

/-! ### Records -/

theorem restores_sourcePosition : Restores SourcePosition := by
  intro position
  -- Members are written in the order of their names.
  show SourcePosition.layout.decode (.obj [("column", toJson position.column),
    ("line", toJson position.line), ("uri", toJson position.uri)]) = _
  refine Layout.decode_obj ?_ rfl
  rw [Layout.takeMembers_cons rfl (Slot.defaulted_set restores_uint32 _ _ _ _),
    Layout.takeMembers_cons rfl (Slot.required_set restores_uint32 _ _ _ _),
    Layout.takeMembers_cons rfl (Slot.required_set restores_string _ _ _ _)]
  rfl

theorem restores_violation : Restores Violation := by
  intro violation
  show Violation.layout.decode (.obj [("enforcementLevel", toJson violation.level),
    ("message", toJson violation.message), ("policyName", toJson violation.policy),
    ("policyPackName", toJson violation.pack), ("urn", toJson violation.urn)]) = _
  refine Layout.decode_obj ?_ rfl
  rw [Layout.takeMembers_cons rfl (Slot.defaulted_set restores_enforcement _ _ _ _),
    Layout.takeMembers_cons rfl (Slot.defaulted_set restores_string _ _ _ _),
    Layout.takeMembers_cons rfl (Slot.defaulted_set restores_string _ _ _ _),
    Layout.takeMembers_cons rfl (Slot.defaulted_set restores_string _ _ _ _),
    Layout.takeMembers_cons rfl (Slot.defaulted_set restores_string _ _ _ _)]
  rfl

theorem restores_cancelParams : Restores Rpc.CancelParams := by
  intro params
  show Rpc.CancelParams.layout.decode (.obj [("id", toJson params.id)]) = _
  refine Layout.decode_obj ?_ rfl
  rw [Layout.takeMembers_cons rfl (Slot.required_set restores_id _ _ _ _)]
  rfl

theorem restores_notice (name : String) (notice : Notice) :
    (Notice.layout name).decode notice.toJson = .ok notice := by
  show (Notice.layout name).decode (.obj [("message", toJson notice.message),
    ("type", toJson notice.type)]) = _
  refine Layout.decode_obj ?_ rfl
  rw [Layout.takeMembers_cons rfl (Slot.required_set restores_string _ _ _ _),
    Layout.takeMembers_cons rfl (Slot.required_set restores_messageType _ _ _ _)]
  rfl

theorem restores_shownNotice : Restores ShownNotice := by
  intro notice
  simp only [Wire.decode, toJson, restores_notice, Except.map]

theorem restores_loggedNotice : Restores LoggedNotice := by
  intro notice
  simp only [Wire.decode, toJson, restores_notice, Except.map]

theorem restores_error {error : Rpc.Error} (data : ∀ value ∈ error.data, value ≠ .null) :
    Wire.decode (toJson error) = .ok error := by
  obtain ⟨code, message, found⟩ := error
  have written : toJson (⟨code, message, found⟩ : Rpc.Error) =
      .obj (("code", toJson code) :: (field "data" (found.map toJson) ++
        [("message", toJson message)])) := by
    cases found <;> rfl
  rw [written]
  refine Layout.decode_obj ?_ ?_
  · rw [Layout.takeMembers_cons rfl (Slot.required_set restores_int64 _ _ _ _),
      Layout.takeMembers_field rfl (fun _ _ => rfl) data rfl,
      Layout.takeMembers_cons rfl (Slot.required_set restores_string _ _ _ _)]
    rfl
  · cases found <;> rfl

theorem restores_publishDiagnostics {publication : PublishDiagnostics}
    (data : ∀ shown ∈ publication.diagnostics, ∀ value ∈ shown.data, value ≠ .null) :
    Wire.decode (toJson publication) = .ok publication := by
  obtain ⟨uri, version, diagnostics⟩ := publication
  have written : toJson (⟨uri, version, diagnostics⟩ : PublishDiagnostics) =
      .obj (("diagnostics", toJson diagnostics) :: ("uri", toJson uri) ::
        (field "version" (version.map toJson) ++ [])) := by
    cases version <;> rfl
  have listed : Wire.decode (toJson diagnostics) = .ok diagnostics :=
    restores_list fun shown member => restores_diagnostic (data shown member)
  rw [written]
  refine Layout.decode_obj ?_ ?_
  · rw [Layout.takeMembers_cons rfl (Slot.required_ok listed _),
      Layout.takeMembers_cons rfl (Slot.required_set restores_uri _ _ _ _),
      Layout.takeMembers_field rfl (fun found _ => restores_int32 found)
        (fun _ _ => Json.noConfusion) rfl]
    rfl
  · cases version <;> rfl

/-! ### What is decoded has no data that are null -/

theorem data_of_decode_error {value : Json} {error : Rpc.Error} (decoded : Wire.decode value = .ok error) :
    ∀ found ∈ error.data, found ≠ .null := by
  refine Layout.decode_keeps (P := fun error : Rpc.Error => ∀ found ∈ error.data, found ≠ .null)
    (by simp [Rpc.Error.layout]) ?_ decoded
  simp only [Rpc.Error.layout, List.forall_mem_cons, List.not_mem_nil, false_imp_iff, implies_true,
    and_true]
  refine ⟨Slot.required_keeps fun _ _ before _ => before, Slot.required_keeps fun _ _ before _ => before,
    Slot.nullable_keeps fun _ _ _ sources found there => ?_⟩
  -- Data are taken as they are, and null is no data.
  obtain ⟨_, other, read⟩ := sources found there
  cases read
  exact other

theorem data_of_decode_diagnostic {value : Json} {shown : Diagnostic}
    (decoded : Wire.decode value = .ok shown) : ∀ found ∈ shown.data, found ≠ .null := by
  refine Layout.decode_keeps (P := fun shown : Diagnostic => ∀ found ∈ shown.data, found ≠ .null)
    (by simp [Diagnostic.layout]) ?_ decoded
  simp only [Diagnostic.layout, List.forall_mem_cons, List.not_mem_nil, false_imp_iff, implies_true,
    and_true]
  refine ⟨Slot.required_keeps fun _ _ before _ => before, Slot.nullable_keeps fun _ _ before _ => before,
    Slot.nullable_keeps fun _ _ before _ => before, Slot.required_keeps fun _ _ before _ => before,
    Slot.nullable_keeps fun _ _ _ sources found there => ?_⟩
  obtain ⟨_, other, read⟩ := sources found there
  cases read
  exact other

theorem data_of_decode_publishDiagnostics {value : Json} {publication : PublishDiagnostics}
    (decoded : Wire.decode value = .ok publication) :
    ∀ shown ∈ publication.diagnostics, ∀ found ∈ shown.data, found ≠ .null := by
  refine Layout.decode_keeps (P := fun publication : PublishDiagnostics =>
    ∀ shown ∈ publication.diagnostics, ∀ found ∈ shown.data, found ≠ .null)
    (by simp [PublishDiagnostics.layout]) ?_ decoded
  simp only [PublishDiagnostics.layout, List.forall_mem_cons, List.not_mem_nil, false_imp_iff,
    implies_true, and_true]
  refine ⟨Slot.required_keeps fun _ _ before _ => before, Slot.nullable_keeps fun _ _ before _ => before,
    Slot.required_keeps fun _ _ _ source shown listed => ?_⟩
  obtain ⟨_, read⟩ := source
  obtain ⟨_, single⟩ := exists_of_mem_decode read listed
  exact data_of_decode_diagnostic single

theorem data_of_decode_codeAction {value : Json} {action : CodeAction}
    (decoded : Wire.decode value = .ok action) :
    (∀ found ∈ action.data, found ≠ .null) ∧
      ∀ shown ∈ action.diagnostics, ∀ diagnostic ∈ shown, ∀ found ∈ diagnostic.data, found ≠ .null := by
  refine Layout.decode_keeps (P := fun action : CodeAction => (∀ found ∈ action.data, found ≠ .null) ∧
    ∀ shown ∈ action.diagnostics, ∀ diagnostic ∈ shown, ∀ found ∈ diagnostic.data, found ≠ .null)
    (by simp [CodeAction.layout]) ?_ decoded
  simp only [CodeAction.layout, List.forall_mem_cons, List.not_mem_nil, false_imp_iff, implies_true,
    and_true]
  refine ⟨Slot.required_keeps fun _ _ before _ => before, Slot.nullable_keeps fun _ _ before _ => before,
    Slot.nullable_keeps fun _ _ before sources => ⟨before.1, fun shown there diagnostic listed => ?_⟩,
    Slot.nullable_keeps fun _ _ before _ => before,
    Slot.nullable_keeps fun _ _ before sources => ⟨fun found there => ?_, before.2⟩⟩
  · obtain ⟨_, -, read⟩ := sources shown there
    obtain ⟨_, single⟩ := exists_of_mem_decode read listed
    exact data_of_decode_diagnostic single
  · obtain ⟨_, other, read⟩ := sources found there
    cases read
    exact other

/--
What was decoded is written in one form, whatever it came as.

Of every type that crosses the wire: if some value decodes, then what is written of the result decodes to
the same result, and is written the same again.
-/
theorem decoded_values_settle :
    Settles Point ∧ Settles Position ∧ Settles Range ∧ Settles Capture ∧ Settles SourcePosition ∧
    Settles Violation ∧ Settles DocumentUri ∧ Settles Rpc.Id ∧ Settles Rpc.Error ∧
    Settles Rpc.CancelParams ∧ Settles Diagnostic ∧ Settles PublishDiagnostics ∧ Settles CodeAction ∧
    Settles WorkspaceEdit ∧ Settles TextEdit ∧ Settles ShownNotice ∧ Settles LoggedNotice ∧
    Settles FixTarget ∧ Settles ProgressToken := by
  refine ⟨restores_point.settles, restores_position.settles, restores_range.settles,
    restores_capture.settles, restores_sourcePosition.settles, restores_violation.settles,
    restores_uri.settles, restores_id.settles, ?_, restores_cancelParams.settles, ?_, ?_, ?_,
    restores_workspaceEdit.settles, restores_textEdit.settles, restores_shownNotice.settles,
    restores_loggedNotice.settles, restores_fixTarget.settles, restores_progressToken.settles⟩
  -- Those that carry data are restored because the data were decoded, and are not null for that.
  · exact .of_proper _ (fun _ _ => data_of_decode_error) fun _ => restores_error
  · exact .of_proper _ (fun _ _ => data_of_decode_diagnostic) fun _ => restores_diagnostic
  · exact .of_proper _ (fun _ _ => data_of_decode_publishDiagnostics) fun _ =>
      restores_publishDiagnostics
  · exact .of_proper _ (fun _ _ => data_of_decode_codeAction) fun _ proper =>
      restores_codeAction proper.1 proper.2

/-- An action given as an array that breaks off early, with a range given as an array in which a position
is not, members that are not known, and null for what is left out. -/
def crookedAction : Json :=
  .arr [.str "t", .null, .arr [.obj [("data", .null), ("message", .str "m"),
    ("range", .arr [.arr [.int 1, .int 2], .obj [("character", .int 4), ("line", .int 3),
      ("word", .bool true)]]), ("severity", .int 2), ("tags", .arr [])]],
    .obj [("changes", .obj [("file:///a", .arr [])]), ("version", .float 0)]]

/-- A violation whose level is given by its number, and the same with the level in mixed letters. -/
def crookedViolations : List Json :=
  [.arr [.str "p", .str "k", .str "m", .int 3],
    .obj [("code", .int 7), ("enforcementLevel", .str "ReMeDiAtE"), ("message", .str "m"),
      ("policyName", .str "p"), ("policyPackName", .str "k")]]

/-- Such values decode, and so do the unlike values that are written of them, to the same. -/
theorem crooked_values_settle :
    (∃ action : CodeAction, Wire.decode crookedAction = .ok action ∧
      Wire.decode (toJson action) = .ok action ∧ toJson action ≠ crookedAction) ∧
    ∀ value ∈ crookedViolations, ∃ violation : Violation, Wire.decode value = .ok violation ∧
      violation = { policy := "p", pack := "k", message := "m", level := .remediate } ∧
      Wire.decode (toJson violation) = .ok violation := by
  obtain ⟨-, -, -, -, -, violations, -, -, -, -, -, -, actions, -⟩ := decoded_values_settle
  refine ⟨⟨_, rfl, (actions crookedAction _ rfl).1, fun same => by cases same⟩, fun value member => ?_⟩
  have read : Wire.decode value =
      .ok ({ policy := "p", pack := "k", message := "m", level := .remediate } : Violation) := by
    simp only [crookedViolations, List.mem_cons, List.not_mem_nil, or_false] at member
    rcases member with rfl | rfl <;> rfl
  exact ⟨_, read, rfl, (violations value _ read).1⟩

end PolicyServer
