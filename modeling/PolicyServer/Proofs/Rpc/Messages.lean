import PolicyServer.Proofs.Json.Record
import PolicyServer.Rpc.Message

/-! Messages that are written read back as they were, and what is read can be written again. -/

namespace PolicyServer.Rpc

open Json

variable {value params : Json} {levels : Nat} {error : Error} {envelope : Envelope} {message : Message}

deriving instance DecidableEq for Error, Message, MessageError

/-- How deep the members of a message may be: one level less than the message. -/
def memberLimit : Nat := 126

/-- The values that a message carries: its parameters, its result, or the data of its error. -/
def Message.payloads : Message → List Json
  | .call _ _ params => [params]
  | .notification _ params => [params]
  | .response _ (.ok result) => [result]
  | .response _ (.error error) => error.data.toList

def Message.room : Message → Nat
  | .response _ (.error _) => memberLimit - 1
  | _ => memberLimit

/-- Holds for a response whose error has data that are null, which differ from none. -/
def Message.HasNullData (message : Message) : Prop :=
  ∃ id error, message = .response id (.error error) ∧ error.data = some .null

/-! ### What is written reads back -/

theorem readId_toJson (id : Id) (levels : Nat) : ReadsBack (readId levels) (toJson id) id := by
  intro rest delimited
  cases id with
  | number n =>
    have least : -0x8000000000000000 ≤ n.toInt := n.le_toInt
    have most : n.toInt < 0x8000000000000000 := n.toInt_lt
    have read := readValue_int (n := n.toInt) ⟨least, by omega⟩ levels rest delimited
    have text : toJson (Id.number n) = .int n.toInt := rfl
    simp [text, readId, read, bind, Except.bind, Id.decode?, most, Int64.ofInt_toInt]
  | text name =>
    have read := readValue_str name levels rest delimited
    have text : toJson (Id.text name) = .str name := rfl
    simp [text, readId, read, bind, Except.bind, Id.decode?]

theorem readsBack_place {α β : Type} {reader : Reader α} {found : α}
    (back : ReadsBack reader value found) (place : α → β) :
    ReadsBack (fun bytes => reader bytes >>= fun read => .ok (place read.1, read.2)) value
      (place found) := by
  intro rest delimited
  simp only [back rest delimited, bind, Except.bind]

theorem readNullable_toOption (regular : value.Regular) (floatFree : value.FloatFree)
    (fits : value.depth ≤ levels) :
    ReadsBack (readNullable (readValue levels)) value value.toOption := by
  have back := readValue_toBytes regular floatFree fits
  have plain := floatFree.isFloat_eq
  cases value with
  | null => exact readNullable_null _
  | _ => exact back.nullable plain Json.noConfusion

theorem readError_members (data : ∀ value ∈ error.data,
      (value.Regular ∧ value.FloatFree ∧ value.depth ≤ levels) ∧ value ≠ .null) :
    ReadsBack (readError (levels + 1)) (.obj error.members) error := by
  obtain ⟨code, message, found⟩ := error
  have first := readsBack_place (readInt64_toJson code)
    fun code => (⟨code, "", none⟩ : Error)
  have second := readsBack_place (readString_str message)
    fun message => (⟨code, message, none⟩ : Error)
  cases found with
  | none =>
    refine readRecord_obj ["message", "code"] ?_ rfl
    exact takes_field "code" rfl (by simp) first
      (takes_field "message" rfl (by simp) second (.nil _))
  | some value =>
    obtain ⟨⟨regular, floatFree, fits⟩, there⟩ := data value rfl
    have third := readsBack_place ((readValue_toBytes regular floatFree fits).nullable
      floatFree.isFloat_eq there) fun data => (⟨code, message, data⟩ : Error)
    refine readRecord_obj ["data", "message", "code"] ?_ rfl
    exact takes_field "code" rfl (by simp) first (takes_field "message" rfl (by simp) second
      (takes_field "data" rfl (by simp) third (.nil _)))

theorem readWhole_toBytes {α : Type} {reader : Reader α} {found : α}
    (back : ReadsBack reader value found) : readWhole reader value.toBytes = .ok found := by
  have read := back [] delimited_nil
  rw [List.append_nil] at read
  rw [readWhole, read]
  rfl

abbrev Envelope.Gathers : List String × Envelope → List (String × Json) → List String × Envelope →
    Prop :=
  Takes (readField (Envelope.fields memberLimit))

theorem decode_of_takes {members : List (String × Json)} {seen : List String}
    (takes : Envelope.Gathers ([], {}) members (seen, envelope)) :
    Message.decode (Json.obj members).toBytes = envelope.toMessage := by
  have back : ReadsBack (readRecord depthLimit Envelope.fields {}) (.obj members) envelope :=
    readRecord_obj seen takes rfl
  rw [Message.decode, readWhole_toBytes back]

section Members

variable {id : Option (Option Id)} {method : Option String} {members : List (String × Json)}
  {seen : List String} {final : List String × Envelope}

theorem takes_version
    (later : Envelope.Gathers (["jsonrpc"], { version := some "2.0" }) members final) :
    Envelope.Gathers ([], {}) (("jsonrpc", .str "2.0") :: members) final := by
  have back := readsBack_place ((readString_str "2.0").nullable rfl Json.noConfusion)
    fun version => ({ version := version } : Envelope)
  exact takes_field "jsonrpc" rfl (by simp) back later

theorem takes_params (id : Option (Option Id)) (method : Option String) (regular : params.Regular)
    (floatFree : params.FloatFree) (fits : params.depth ≤ memberLimit) (fresh : "params" ∉ seen) :
    ∃ seen', Envelope.Gathers
      (seen, { version := some "2.0", id := id, method := method }) (Message.paramsMember params)
      (seen', { version := some "2.0", id := id, method := method, params := params.toOption }) := by
  have back := readsBack_place (readNullable_toOption regular floatFree fits) fun params =>
    ({ version := some "2.0", id := id, method := method, params := params } : Envelope)
  cases params with
  | null => exact ⟨seen, .nil _⟩
  | _ => exact ⟨"params" :: seen, takes_field "params" rfl fresh back (.nil _)⟩

theorem takes_id (id : Option Id)
    (later : Envelope.Gathers
      (["id", "jsonrpc"], { version := some "2.0", id := some id }) members final) :
    Envelope.Gathers (["jsonrpc"], { version := some "2.0" })
      (("id", (id.map toJson).getD .null) :: members) final := by
  have back : ReadsBack (readNullable (readId memberLimit)) ((id.map toJson).getD .null) id := by
    cases id with
    | none => exact readNullable_null _
    | some id =>
      have there : (toJson id).isFloat = false ∧ toJson id ≠ .null := by
        cases id <;> exact ⟨rfl, Json.noConfusion⟩
      exact (readId_toJson id memberLimit).nullable there.1 there.2
  have placed := readsBack_place back fun id =>
    ({ version := some "2.0", id := some id } : Envelope)
  exact takes_field "id" rfl (by simp) placed later

theorem takes_method (name : String) (fresh : "method" ∉ seen)
    (later : Envelope.Gathers
      ("method" :: seen, { version := some "2.0", id := id, method := some name }) members final) :
    Envelope.Gathers (seen, { version := some "2.0", id := id })
      (("method", .str name) :: members) final := by
  have back := readsBack_place ((readString_str name).nullable rfl Json.noConfusion) fun method =>
    ({ version := some "2.0", id := id, method := method } : Envelope)
  exact takes_field "method" rfl fresh back later

end Members

theorem getD_toOption (value : Json) : value.toOption.getD .null = value := by
  cases value <;> rfl

theorem decode_call (id : Id) (method : String) (regular : params.Regular)
    (floatFree : params.FloatFree) (fits : params.depth ≤ memberLimit) :
    Message.decode (Message.call id method params).encode = .ok (.call id method params) := by
  have fresh : "params" ∉ ["method", "id", "jsonrpc"] := by simp
  obtain ⟨seen, last⟩ := takes_params (some (some id)) (some method) regular floatFree fits fresh
  have decoded := decode_of_takes
    (takes_version (takes_id (some id) (takes_method method (by simp) last)))
  refine decoded.trans ?_
  simp [Envelope.toMessage, getD_toOption]

theorem decode_notification (method : String) (regular : params.Regular) (floatFree : params.FloatFree)
    (fits : params.depth ≤ memberLimit) :
    Message.decode (Message.notification method params).encode =
      .ok (.notification method params) := by
  have fresh : "params" ∉ ["method", "jsonrpc"] := by simp
  obtain ⟨seen, last⟩ := takes_params none (some method) regular floatFree fits fresh
  have decoded := decode_of_takes (takes_version (takes_method method (by simp) last))
  refine decoded.trans ?_
  simp [Envelope.toMessage, getD_toOption]

theorem members_response (id : Option Id) (outcome : Except Error Json) :
    ∃ member, (Message.response id outcome).members =
        [("jsonrpc", .str "2.0"), ("id", (id.map toJson).getD .null), member] ∧
      (∀ result, outcome = .ok result → member = ("result", result)) ∧
      ∀ error, outcome = .error error → member = ("error", .obj error.members) := by
  cases id <;> cases outcome <;> exact ⟨_, rfl, by simp, by simp⟩

theorem decode_result (id : Option Id) {result : Json} (regular : result.Regular)
    (floatFree : result.FloatFree) (fits : result.depth ≤ memberLimit) :
    Message.decode (Message.response id (.ok result)).encode = .ok (.response id (.ok result)) := by
  have back := readsBack_place (readNullable_toOption regular floatFree fits) fun result =>
    ({ version := some "2.0", id := some id, result := result } : Envelope)
  obtain ⟨member, shape, of, -⟩ := members_response id (.ok result)
  obtain rfl := of result rfl
  have decoded := decode_of_takes
    (takes_version (takes_id id (takes_field "result" rfl (by simp) back (.nil _))))
  rw [Message.encode, shape, decoded]
  simp [Envelope.toMessage, getD_toOption]

theorem decode_error (id : Option Id) (data : ∀ value ∈ error.data,
      (value.Regular ∧ value.FloatFree ∧ value.depth ≤ memberLimit - 1) ∧ value ≠ .null) :
    Message.decode (Message.response id (.error error)).encode =
      .ok (.response id (.error error)) := by
  have back := readsBack_place ((readError_members data).nullable rfl Json.noConfusion)
    fun error => ({ version := some "2.0", id := some id, error := error } : Envelope)
  obtain ⟨member, shape, -, of⟩ := members_response id (.error error)
  obtain rfl := of error rfl
  have decoded := decode_of_takes
    (takes_version (takes_id id (takes_field "error" rfl (by simp) back (.nil _))))
  rw [Message.encode, shape, decoded]
  simp [Envelope.toMessage]

theorem depth_toJson (id : Id) : (toJson id).depth = 0 := by
  cases id <;> rfl

theorem depth_members_le_iff : (Json.obj message.members).depth ≤ depthLimit ↔
    ∀ value ∈ message.payloads, value.depth ≤ message.room := by
  have within : (Json.obj message.members).depth ≤ depthLimit ↔
      ∀ member ∈ message.members, member.2.depth ≤ memberLimit :=
    Nat.succ_le_succ_iff.trans depthMembers_le
  have params (params : Json) : (∀ member ∈ Message.paramsMember params,
      member.2.depth ≤ memberLimit) ↔ params.depth ≤ memberLimit := by
    cases params <;> simp [Message.paramsMember, Json.isNull, Json.depth]
  rw [within]
  cases message with
  | call id method value =>
    simp [Message.members, Message.payloads, Message.room, Json.depth, depth_toJson, ← params value]
  | notification method value =>
    simp [Message.members, Message.payloads, Message.room, Json.depth, ← params value]
  | response id outcome =>
    obtain ⟨member, shape, ofResult, ofError⟩ := members_response id outcome
    have flat : ((id.map toJson).getD .null).depth = 0 := by
      cases id with
      | none => rfl
      | some id => exact depth_toJson id
    rw [shape]
    cases outcome with
    | ok result =>
      obtain rfl := ofResult result rfl
      simp [Message.payloads, Message.room, Json.depth, flat]
    | error error =>
      obtain rfl := ofError error rfl
      have inner : (Json.obj error.members).depth ≤ memberLimit ↔
          ∀ member ∈ error.members, member.2.depth ≤ memberLimit - 1 :=
        Nat.succ_le_succ_iff.trans depthMembers_le
      have data : (∀ member ∈ error.members, member.2.depth ≤ memberLimit - 1) ↔
          ∀ value ∈ error.data.toList, value.depth ≤ memberLimit - 1 := by
        have code : (toJson error.code).depth = 0 := rfl
        have message : (toJson error.message).depth = 0 := rfl
        cases found : error.data <;> simp [Error.members, found, code, message]
      have version : (Json.str "2.0").depth = 0 := rfl
      simp only [List.forall_mem_cons, version, flat, inner, data, Nat.zero_le, true_and,
        List.not_mem_nil, false_implies, implies_true, and_true]
      rfl

theorem decode_encode (regular : ∀ value ∈ message.payloads, value.Regular)
    (floatFree : ∀ value ∈ message.payloads, value.FloatFree)
    (fits : (Json.obj message.members).depth ≤ depthLimit) (data : ¬ message.HasNullData) :
    Message.decode message.encode = .ok message := by
  have each : ∀ value ∈ message.payloads,
      value.Regular ∧ value.FloatFree ∧ value.depth ≤ message.room := fun value member =>
    ⟨regular value member, floatFree value member, depth_members_le_iff.mp fits value member⟩
  cases message with
  | call id method params =>
    obtain ⟨regular, floatFree, fits⟩ := each params List.mem_cons_self
    exact decode_call id method regular floatFree fits
  | notification method params =>
    obtain ⟨regular, floatFree, fits⟩ := each params List.mem_cons_self
    exact decode_notification method regular floatFree fits
  | response id outcome =>
    cases outcome with
    | ok result =>
      obtain ⟨regular, floatFree, fits⟩ := each result List.mem_cons_self
      exact decode_result id regular floatFree fits
    | error error =>
      refine decode_error id fun value there => ⟨each value (Option.mem_toList.mpr there), ?_⟩
      rintro rfl
      exact data ⟨id, error, rfl, there⟩

/-! ### What is read can be written again -/

theorem readNullable_within {bytes rest : Bytes} {found : Option Json}
    (read : readNullable (readValue levels) bytes = .ok (found, rest)) :
    ∀ value ∈ found, value.Within levels ∧ value ≠ .null := by
  rintro value rfl
  rcases readNullable_cases read with none | ⟨other, tail, same, read, begun⟩
  · cases none
  · cases same
    exact ⟨readValue_within read, readValue_ne_null read begun⟩

theorem readError_data {bytes rest : Bytes} (read : readError (levels + 1) bytes = .ok (error, rest)) :
    ∀ value ∈ error.data, value.Within levels ∧ value ≠ .null := by
  refine readRecord_preserves (P := fun error : Error =>
    ∀ value ∈ error.data, value.Within levels ∧ value ≠ .null) ?_ (by simp) read
  rintro less same field member
  cases same
  simp only [List.mem_cons, List.not_mem_nil, or_false] at member
  rcases member with rfl | rfl | rfl
  all_goals
    intro error bytes next rest before read
    obtain ⟨found, taken, same⟩ := bind_eq_ok.mp read
    cases same
  · exact before
  · exact before
  · exact readNullable_within taken

/-- The members of a message are in their bounds, and data of its error are not null. -/
structure Envelope.Within (envelope : Envelope) : Prop where
  params : ∀ value ∈ envelope.params, value.Within memberLimit
  result : ∀ value ∈ envelope.result, value.Within memberLimit
  data : ∀ error ∈ envelope.error, ∀ value ∈ error.data, value.Within (memberLimit - 1) ∧ value ≠ .null

theorem readEnvelope_within {bytes rest : Bytes}
    (read : readRecord depthLimit Envelope.fields {} bytes = .ok (envelope, rest)) :
    envelope.Within := by
  refine readRecord_preserves (P := Envelope.Within) ?_ ⟨by simp, by simp, by simp⟩ read
  rintro less same field member
  cases same
  simp only [Envelope.fields, List.mem_cons, List.not_mem_nil, or_false] at member
  rcases member with rfl | rfl | rfl | rfl | rfl | rfl
  all_goals
    intro envelope bytes next rest before read
    obtain ⟨found, taken, same⟩ := bind_eq_ok.mp read
    cases same
  -- Version, identifier and method are not bounded.
  iterate 3 exact ⟨before.params, before.result, before.data⟩
  · exact ⟨fun value there => (readNullable_within taken value there).1, before.result, before.data⟩
  · exact ⟨before.params, fun value there => (readNullable_within taken value there).1, before.data⟩
  · refine ⟨before.params, before.result, fun error there => ?_⟩
    rcases readNullable_cases taken with none | ⟨other, tail, same, read, -⟩
    · cases none.symm.trans there
    · cases same.symm.trans there
      exact readError_data read

/-- Holds for messages that can be written and read again, but for floating-point numbers. -/
structure Message.Within (message : Message) : Prop where
  regular : ∀ value ∈ message.payloads, value.Regular
  fits : (Json.obj message.members).depth ≤ depthLimit
  data : ¬ message.HasNullData

theorem Message.Within.of_payloads (each : ∀ value ∈ message.payloads, value.Within message.room)
    (data : ¬ message.HasNullData) : message.Within :=
  ⟨fun value member => (each value member).1,
    depth_members_le_iff.mpr fun value member => (each value member).2, data⟩

theorem within_getD {found : Option Json} (each : ∀ value ∈ found, value.Within memberLimit) :
    (found.getD .null).Within memberLimit := by
  cases found with
  | none => exact within_scalar trivial rfl rfl rfl
  | some value => exact each value rfl

theorem Envelope.Within.toMessage (within : envelope.Within) (made : envelope.toMessage = .ok message) :
    message.Within := by
  have params := within_getD within.params
  have result := within_getD within.result
  unfold Envelope.toMessage at made
  split at made
  · dsimp only at made
    split at made
    · cases made
      exact .of_payloads (by simpa [Message.payloads]) (by simp [Message.HasNullData])
    · cases made
      exact .of_payloads (by simpa [Message.payloads]) (by simp [Message.HasNullData])
    · split at made
      · rename_i error there
        cases made
        have data := within.data error there
        refine .of_payloads (fun value member => (data value (Option.mem_toList.mp member)).1) ?_
        rintro ⟨_, _, same, null⟩
        cases same
        exact (data .null null).2 rfl
      · cases made
        exact .of_payloads (by simpa [Message.payloads]) (by simp [Message.HasNullData])
    · cases made
  · cases made

theorem decode_within {body : Bytes} (decoded : Message.decode body = .ok message) :
    message.Within := by
  unfold Message.decode at decoded
  split at decoded
  · cases decoded
  · rename_i envelope whole
    obtain ⟨found, read, ended⟩ := bind_eq_ok.mp whole
    -- Nothing but blanks follows the record, so it is what was read.
    have same : found.1 = envelope := by
      dsimp only at ended
      split at ended <;> cases ended
      rfl
    exact (same ▸ readEnvelope_within read).toMessage decoded

/--
Messages read back as they were written.

This is so for every message whose values have no floating-point numbers, as long as its text stays
within the depth that readers allow and its error, if any, has no data that are null. Whole numbers
have 64 bits and members are in order, as in every value that is read. Whatever is decoded is such a
message but for floating-point numbers, so that without them decoding, encoding and decoding again
gives what decoding gave.
-/
theorem messages_read_back :
    (∀ message : Message, (∀ value ∈ message.payloads, value.Regular) →
      (∀ value ∈ message.payloads, value.FloatFree) →
      (Json.obj message.members).depth ≤ depthLimit → ¬ message.HasNullData →
      Message.decode message.encode = .ok message) ∧
    (∀ (body : Bytes) (message : Message), Message.decode body = .ok message →
      (∀ value ∈ message.payloads, value.Regular) ∧
        (Json.obj message.members).depth ≤ depthLimit ∧ ¬ message.HasNullData) ∧
    ∀ (body : Bytes) (message : Message), Message.decode body = .ok message →
      (∀ value ∈ message.payloads, value.FloatFree) →
      Message.decode message.encode = Message.decode body := by
  refine ⟨fun message regular floatFree fits data => decode_encode regular floatFree fits data,
    fun body message decoded => ?_, fun body message decoded floatFree => ?_⟩
  · obtain ⟨regular, fits, data⟩ := decode_within decoded
    exact ⟨regular, fits, data⟩
  · obtain ⟨regular, fits, data⟩ := decode_within decoded
    rw [decoded]
    exact decode_encode regular floatFree fits data

/-- A failure that answers no call, as an array of members, with blanks, escapes, members out of order
and numbers at their bounds. -/
def crookedBody : Bytes := Bytes.ofText
  ("[ \"2.0\", null, null, null, null, \x7b\"message\":\"\\u0001\\\"é\"," ++
  "\"code\":-9223372036854775808, \"data\": [\x7b\"b\":18446744073709551615,\"a\":[]\x7d]\x7d ]")

def crookedMessage : Message := .response none (.error ⟨-9223372036854775808, "\x01\"é",
  some (.arr [.obj [("a", .arr []), ("b", .int 18446744073709551615)]])⟩)

/-- The message is decoded from its body and from its own text. -/
theorem crooked_message_reads_back :
    Message.decode crookedBody = .ok crookedMessage ∧
      (Json.obj crookedMessage.members).depth ≤ depthLimit ∧ ¬ crookedMessage.HasNullData ∧
      Message.decode crookedMessage.encode = .ok crookedMessage ∧
      Message.decode crookedMessage.encode = Message.decode crookedBody := by
  have decoded : Message.decode crookedBody = .ok crookedMessage := by decide +kernel
  have floatFree : ∀ value ∈ crookedMessage.payloads, value.FloatFree := by
    intro value member
    cases List.mem_singleton.mp member
    refine .intro rfl (fun item member => ?_) (by simp [Json.members])
    cases List.mem_singleton.mp member
    refine .intro rfl (by simp [Json.items]) fun member listed => ?_
    rcases List.mem_pair.mp listed with rfl | rfl
    · exact .intro rfl (by simp [Json.items]) (by simp [Json.members])
    · exact .intro rfl (by simp [Json.items]) (by simp [Json.members])
  obtain ⟨written, bounds, again⟩ := messages_read_back
  obtain ⟨regular, fits, data⟩ := bounds crookedBody crookedMessage decoded
  exact ⟨decoded, fits, data, written crookedMessage regular floatFree fits data,
    again crookedBody crookedMessage decoded floatFree⟩

end PolicyServer.Rpc
