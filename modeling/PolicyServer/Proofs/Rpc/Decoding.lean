import PolicyServer.Proofs.Json.Agreement
import PolicyServer.Proofs.Rpc.Messages

/-! What a message is depends on its known members alone: members may stand in any order, among others
of any form, and one of the wrong type counts before anything else. -/

namespace PolicyServer.Rpc

open Json

variable {body bytes rest : Bytes} {value : Json} {key : String} {members : List (String × Json)}
  {α : Type}

def Envelope.known : List String := ["jsonrpc", "id", "method", "params", "result", "error"]

/-- What a known member is read from: an error may be an object with members of any form among its
own. -/
def Envelope.Content (key : String) (bytes : Bytes) (value : Json) (rest : Bytes) : Prop :=
  if key = "error" then Recordable ["code", "message", "data"] 125 bytes value rest
  else Readable memberLimit bytes value rest

/-- The text of an object with these known members, in this order and among others of any form. -/
def MessageText (body : Bytes) (members : List (String × Json)) : Prop :=
  ∃ tail rest, Blanks body (0x7B :: tail) ∧
    Members Envelope.known Envelope.Content true tail members rest ∧ Blanks rest []

def given (members : List (String × Json)) (key : String) : Option Json :=
  (members.lookup key).bind Json.toOption

def errorOf : Decoder Error := once Wire.decode

def Suits (key : String) (value : Json) : Prop :=
  value = .null ∨
    if key = "jsonrpc" ∨ key = "method" then ∃ text, value = .str text
    else if key = "id" then ∃ id : Id, toJson id = value
    else if key = "error" then ∃ error, errorOf value = .ok error
    else True

/-- Holds for an array whose first three items make an error, with more items after them. -/
def Overfull (value : Json) : Prop :=
  ∃ items, value = .arr items ∧ 3 < items.length ∧ ∃ error, errorOf (.arr (items.take 3)) = .ok error

open Classical in
/-- What is wrong with a member of the wrong type: it is unsuitable, but what comes after a whole error
does not even belong there. -/
noncomputable def fault (key : String) (value : Json) : ReadError :=
  if key = "error" ∧ Overfull value then .malformed else .unsuitable

open Classical in
/-- What comes of a member: what was found, if it is of the right type. -/
noncomputable def settled {α : Type} (key : String) (value : Json) (found : α) : Except ReadError α :=
  if Suits key value then .ok found else .error (fault key value)

/-! ### Members -/

theorem agrees_id (depth : Nat) : Agrees (Readable depth) (readId depth) Wire.decode := by
  intro bytes value rest read
  have read : readValue depth bytes = .ok (value, rest) := read
  simp only [readId, read, bind, Except.bind, Wire.decode]
  cases Id.decode? value <;> rfl

theorem toJson_ofInt {n : Int} (least : -0x8000000000000000 ≤ n) (most : n < 0x8000000000000000) :
    toJson (Int64.ofInt n) = .int n :=
  congrArg Json.int (Int64.toInt_ofInt_of_le least most)

theorem error_plain : Error.layout.Plain := by
  intro slot listed record value length
  simp only [Error.layout, List.mem_cons, List.not_mem_nil, or_false] at listed
  rcases listed with rfl | rfl | rfl
  · cases value with
    | int n =>
      simp only [Slot.required, Wire.decode, asInt64, asInt]
      split <;> simp [Except.map]
    | _ => simp [Slot.required, Wire.decode, asInt64, asInt, Except.map]
  · cases value <;> simp [Slot.required, Wire.decode, asString, Except.map]
  · cases value <;> simp [Slot.nullable, Wire.decode, asOption, Except.map]

theorem agrees_error :
    Agrees (Recordable ["code", "message", "data"] 125) (readError memberLimit) errorOf := by
  refine @agrees_record _ 125 Error.layout _ ?_ error_plain
  refine .cons ⟨rfl, rfl, rfl, fun record => (agrees_int64 125).place fun code => { record with code }⟩ ?_
  refine .cons ⟨rfl, rfl, rfl, fun record =>
    (agrees_string 125).place fun message => { record with message }⟩ ?_
  refine .cons ⟨rfl, rfl, rfl, fun record => ?_⟩ .nil
  exact ((agrees_value 125).nullable Readable.skip .inl).place fun data => { record with data }

theorem errorOf_long_iff : (∃ count, errorOf value = .error (.long count)) ↔ Overfull value := by
  constructor
  · rintro ⟨count, refused⟩
    cases value with
    | arr items => exact ⟨items, rfl, (takeItems_long_iff error_plain (fun _ => id) _).mp ⟨_, refused⟩⟩
    | obj members =>
      simp only [errorOf, once, Wire.decode, Layout.decode] at refused
      split at refused
      · split at refused
        · rename_i taken
          cases refused
          exact absurd taken (takeMembers_plain error_plain _)
        · split at refused <;> cases refused
      · cases refused
    | _ => cases refused
  · rintro ⟨items, rfl, more, taken⟩
    exact (takeItems_long_iff error_plain (fun _ => id) _).mpr ⟨more, taken⟩

theorem settled_of_suits {found : α} (suits : Suits key value) : settled key value found = .ok found :=
  if_pos suits

theorem settled_of_wrong {found : α} (wrong : ¬ Suits key value) :
    settled key value found = .error (fault key value) :=
  if_neg wrong

theorem fault_eq_unsuitable (other : key ≠ "error") : fault key value = .unsuitable := by
  simp [fault, other]

theorem decoded_string (value : Json) (texts : key = "jsonrpc" ∨ key = "method") :
    (asOption asString value).mapError ReadError.of = settled key value value.text? := by
  have plain := @fault_eq_unsuitable value key (by rcases texts with rfl | rfl <;> decide)
  cases value with
  | null => exact (settled_of_suits (.inl rfl)).symm
  | str text => exact (settled_of_suits (.inr (by simp [texts]))).symm
  | _ =>
    rw [settled_of_wrong (by simp [Suits, texts]), plain]
    rfl

theorem decoded_value (value : Json) (values : key = "params" ∨ key = "result") :
    (asOption .ok value).mapError ReadError.of = settled key value value.toOption := by
  rw [settled_of_suits (.inr (by rcases values with rfl | rfl <;> simp))]
  cases value <;> rfl

theorem decoded_id (least : ∀ n, value = .int n → -0x8000000000000000 ≤ n) :
    (asOption (Wire.decode : Decoder Id) value).mapError ReadError.of =
      settled "id" value (Id.decode? value) := by
  have plain := @fault_eq_unsuitable value "id" (by decide)
  have wrong : value ≠ .null → (∀ id : Id, toJson id ≠ value) → ¬ Suits "id" value := by
    simp +contextual [Suits]
  cases value with
  | null => exact (settled_of_suits (.inl rfl)).symm
  | str name => exact (settled_of_suits (.inr (by exact ⟨.text name, rfl⟩))).symm
  | int n =>
    by_cases most : n < 0x8000000000000000
    · have there : toJson (Id.number (Int64.ofInt n)) = Json.int n := toJson_ofInt (least n rfl) most
      rw [settled_of_suits (.inr (by exact ⟨_, there⟩))]
      simp [asOption, Wire.decode, Id.decode?, most, Except.map, Except.mapError]
    · rw [settled_of_wrong (wrong Json.noConfusion ?_), plain]
      · simp [asOption, Wire.decode, Id.decode?, most, Except.map, Except.mapError, ReadError.of]
      · rintro (code | name) same
        · cases same
          exact most code.toInt_lt
        · cases same
  | _ =>
    rw [settled_of_wrong (wrong Json.noConfusion ?_), plain]
    · rfl
    · rintro (code | name) same <;> cases same

theorem decoded_error (value : Json) :
    (asOption errorOf value).mapError ReadError.of = settled "error" value (errorOf value).toOption := by
  by_cases null : value = .null
  · rw [settled_of_suits (.inl null), null]
    rfl
  · have same : asOption errorOf value = (errorOf value).map some := by
      cases value <;> first | rfl | exact absurd rfl null
    rw [same]
    cases decoded : errorOf value with
    | ok error =>
      rw [settled_of_suits (.inr (by simp [decoded]))]
      rfl
    | error cause =>
      have long := @errorOf_long_iff value
      simp only [decoded, Except.error.injEq] at long
      rw [settled_of_wrong (by simp [Suits, null, decoded])]
      refine congrArg Except.error ?_
      by_cases overfull : Overfull value
      · obtain ⟨count, rfl⟩ := long.mpr overfull
        simp [fault, overfull, ReadError.of]
      · rw [ReadError.of_eq_unsuitable fun count same => overfull (long.mp ⟨count, same⟩)]
        simp [fault, overfull]

/-! ### Messages -/

def Envelope.put (envelope : Envelope) : String × Json → Envelope
  | (key, value) =>
  if key = "jsonrpc" then { envelope with version := value.text? }
  else if key = "id" then { envelope with id := some (Id.decode? value) }
  else if key = "method" then { envelope with method := value.text? }
  else if key = "params" then { envelope with params := value.toOption }
  else if key = "result" then { envelope with result := value.toOption }
  else if key = "error" then { envelope with error := (errorOf value).toOption }
  else envelope

noncomputable def Envelope.take (envelope : Envelope) (member : String × Json) :
    Except ReadError Envelope :=
  settled member.1 member.2 (envelope.put member)

theorem takes_of_agrees {content : Bytes → Json → Bytes → Prop} {reader : Reader α} {decode : Decoder α}
    {found : α} {envelope : Envelope} (agrees : Agrees content reader decode)
    (stands : content bytes value rest)
    (settles : (decode value).mapError ReadError.of = settled key value found) (put : α → Envelope)
    (placed : put found = envelope.put (key, value)) :
    (reader bytes >>= fun read => .ok (put read.1, read.2)) =
      (envelope.take (key, value)).map (·, rest) := by
  rw [agrees _ _ _ stands, settles, Envelope.take, ← placed]
  by_cases suits : Suits key value
  · rw [settled_of_suits suits, settled_of_suits suits]
    rfl
  · rw [settled_of_wrong suits, settled_of_wrong suits]
    rfl

theorem envelope_takes :
    TakesKnown (Envelope.fields memberLimit) Envelope.Content Envelope.take := by
  intro key field envelope bytes value rest found stands
  have listed := List.mem_of_find?_eq_some found
  have named := List.find?_some found
  have texts := (agrees_string memberLimit).nullable Readable.skip .inl
  have values := (agrees_value memberLimit).nullable Readable.skip .inl
  simp only [Envelope.fields, List.mem_cons, List.not_mem_nil, or_false] at listed
  rcases listed with rfl | rfl | rfl | rfl | rfl | rfl
  all_goals
    cases of_decide_eq_true named
  · exact takes_of_agrees texts stands (decoded_string value (.inl rfl))
      (fun version => { envelope with version }) rfl
  · exact takes_of_agrees ((agrees_id memberLimit).nullable Readable.skip .inl) stands
      (decoded_id fun _ whole => (whole ▸ stands).least) (fun id => { envelope with id := some id }) rfl
  · exact takes_of_agrees texts stands (decoded_string value (.inr rfl))
      (fun method => { envelope with method }) rfl
  · exact takes_of_agrees values stands (decoded_value value (.inl rfl))
      (fun params => { envelope with params }) rfl
  · exact takes_of_agrees values stands (decoded_value value (.inr rfl))
      (fun result => { envelope with result }) rfl
  · exact takes_of_agrees (agrees_error.nullable Recordable.skip Recordable.begins) stands
      (decoded_error value) (fun error => { envelope with error }) rfl

variable {envelope : Envelope}

theorem foldlM_take_of_suits (all : ∀ member ∈ members, Suits member.1 member.2) :
    members.foldlM Envelope.take envelope = .ok (members.foldl Envelope.put envelope) := by
  induction members generalizing envelope with
  | nil => rfl
  | cons member members ih =>
    obtain ⟨suits, all⟩ := List.forall_mem_cons.mp all
    rw [List.foldlM_cons, Envelope.take, settled_of_suits suits]
    exact ih all

theorem foldl_put (single : (members.map (·.1)).Nodup) :
    members.foldl Envelope.put envelope = {
      version := ((members.lookup "jsonrpc").map text?).getD envelope.version
      id := ((members.lookup "id").map fun value => some (Id.decode? value)).getD envelope.id
      method := ((members.lookup "method").map text?).getD envelope.method
      params := ((members.lookup "params").map toOption).getD envelope.params
      result := ((members.lookup "result").map toOption).getD envelope.result
      error := ((members.lookup "error").map fun value => (errorOf value).toOption).getD
        envelope.error } := by
  induction members generalizing envelope with
  | nil => rfl
  | cons member members ih =>
    obtain ⟨key, value⟩ := member
    obtain ⟨apart, single⟩ := List.nodup_cons.mp single
    have absent : members.lookup key = none := by
      rw [List.lookup_eq_none_iff]
      intro other listed
      rw [bne_iff_ne]
      exact fun equal => apart (List.mem_map.mpr ⟨other, listed, equal.symm⟩)
    rw [List.foldl_cons, ih single]
    simp only [List.lookup_cons, Envelope.put]
    -- The member is one of the six, or it is passed over.
    split_ifs with version id method params result error
    iterate 6
      subst key
      simp [absent]
    simp only [beq_false_of_ne (Ne.symm version), beq_false_of_ne (Ne.symm id),
      beq_false_of_ne (Ne.symm method), beq_false_of_ne (Ne.symm params),
      beq_false_of_ne (Ne.symm result), beq_false_of_ne (Ne.symm error)]

theorem decode_of_text (text : MessageText body members) (single : (members.map (·.1)).Nodup) :
    Message.decode body =
      (members.foldlM Envelope.take {}).mapError MessageError.json >>= Envelope.toMessage := by
  obtain ⟨tail, rest, opens, listed, ends⟩ := text
  have read := readRecord_members {} rfl envelope_takes opens listed
  rw [taking_once single (by simp)] at read
  have whole : readRecord depthLimit Envelope.fields {} body = _ := read
  unfold Message.decode readWhole
  rw [whole]
  cases members.foldlM Envelope.take {} with
  | error error => rfl
  | ok envelope =>
    have blank : skipBlanks rest = [] := ends.skip
    simp [Envelope.fields, bind, Except.bind, Except.map, Except.mapError, blank]

theorem decode_of_wrong {before after : List (String × Json)}
    (text : MessageText body (before ++ (key, value) :: after))
    (single : ((before ++ (key, value) :: after).map (·.1)).Nodup)
    (all : ∀ member ∈ before, Suits member.1 member.2) (wrong : ¬ Suits key value) :
    Message.decode body = .error (.json (fault key value)) := by
  rw [decode_of_text text single, List.foldlM_append, foldlM_take_of_suits all]
  simp only [List.foldlM_cons, Envelope.take, settled_of_wrong wrong, bind, Except.bind, Except.mapError]

theorem given_bind {view : Json → Option α} (absent : view .null = none) (key : String) :
    ((members.lookup key).map view).getD none = (given members key).bind view := by
  unfold given
  cases members.lookup key with
  | none => rfl
  | some value => cases value <;> simp [toOption, absent]

theorem decode_of_suits (text : MessageText body members) (single : (members.map (·.1)).Nodup)
    (all : ∀ member ∈ members, Suits member.1 member.2) :
    Message.decode body = Envelope.toMessage {
      version := (given members "jsonrpc").bind text?
      id := (members.lookup "id").map Id.decode?
      method := (given members "method").bind text?
      params := given members "params"
      result := given members "result"
      error := (given members "error").bind fun value => (errorOf value).toOption } := by
  rw [decode_of_text text single, foldlM_take_of_suits all]
  refine congrArg Envelope.toMessage ((foldl_put single).trans ?_)
  have same : ∀ key, (given members key).bind toOption = given members key := by
    intro key
    unfold given
    cases members.lookup key with
    | none => rfl
    | some value => cases value <;> rfl
  have id : ((members.lookup "id").map fun value => some (Id.decode? value)).getD none =
      (members.lookup "id").map Id.decode? := by
    cases members.lookup "id" <;> rfl
  have failed := @given_bind members _ (fun value => (errorOf value).toOption) rfl "error"
  rw [id, failed, given_bind rfl, given_bind rfl, given_bind rfl, given_bind rfl, same, same]

theorem suits_of_lookup (all : ∀ member ∈ members, Suits member.1 member.2)
    (found : members.lookup key = some value) : Suits key value := by
  obtain ⟨before, after, rfl, -⟩ := List.lookup_eq_some_iff.mp found
  exact all (key, value) (by simp)

theorem suits_of_given (all : ∀ member ∈ members, Suits member.1 member.2)
    (found : given members key = some value) :
    members.lookup key = some value ∧ value ≠ .null ∧ Suits key value := by
  obtain ⟨listed, there, same⟩ := Option.bind_eq_some_iff.mp found
  have some : value ≠ .null := by
    rintro rfl
    cases listed <;> cases same
  have same : listed = value := by cases listed <;> simp_all [toOption]
  subst same
  exact ⟨there, some, suits_of_lookup all there⟩

theorem decode?_toJson (id : Id) : Id.decode? (toJson id) = some id := by
  cases id with
  | number code =>
    have most : code.toInt < 0x8000000000000000 := code.toInt_lt
    simp [toJson, Id.decode?, most, Int64.ofInt_toInt]
  | text name => rfl

/-- What a message is depends on its known members alone. -/
theorem message_of_known_members (text : MessageText body members)
    (single : (members.map (·.1)).Nodup) :
    -- The first member of the wrong type decides, if there is one.
    (∀ before key value after, members = before ++ (key, value) :: after →
      (∀ member ∈ before, Suits member.1 member.2) → ¬ Suits key value →
      Message.decode body = .error (.json (fault key value))) ∧
    ((∀ member ∈ members, Suits member.1 member.2) →
      (given members "jsonrpc" ≠ some (.str "2.0") →
        Message.decode body = .error (.version ((given members "jsonrpc").bind text?))) ∧
      (given members "jsonrpc" = some (.str "2.0") →
        (∀ method value, given members "method" = some (.str method) →
          given members "id" = some value → ∃ id : Id, toJson id = value ∧
          Message.decode body = .ok (.call id method ((given members "params").getD .null))) ∧
        (∀ method, given members "method" = some (.str method) → given members "id" = none →
          Message.decode body = .ok (.notification method ((given members "params").getD .null))) ∧
        (∀ value, given members "method" = none → members.lookup "id" = some value →
          ∃ id : Option Id, (id.map toJson).getD .null = value ∧
          (∀ error, given members "error" = some error → ∃ cause, errorOf error = .ok cause ∧
            Message.decode body = .ok (.response id (.error cause))) ∧
          (given members "error" = none →
            Message.decode body = .ok (.response id (.ok ((given members "result").getD .null))))) ∧
        (given members "method" = none → members.lookup "id" = none →
          Message.decode body = .error .shape))) := by
  refine ⟨fun before key value after same all wrong => ?_, fun all => ?_⟩
  · subst same
    exact decode_of_wrong text single all wrong
  have decoded := decode_of_suits text single all
  constructor
  · intro other
    refine decoded.trans (if_neg fun version => other ?_)
    obtain ⟨value, found, text⟩ := Option.bind_eq_some_iff.mp version
    cases value <;> cases text
    exact found
  intro version
  rw [version] at decoded
  refine ⟨fun method value named asked => ?_, fun method named unasked => ?_, fun value unnamed asked => ?_,
    fun unnamed unasked => ?_⟩
  · obtain ⟨found, there, suits⟩ := suits_of_given all asked
    obtain ⟨id, rfl⟩ : ∃ id : Id, toJson id = value := by simpa [Suits, there] using suits
    rw [named, found, Option.map_some, decode?_toJson] at decoded
    exact ⟨id, rfl, decoded⟩
  · rw [named] at decoded
    cases found : members.lookup "id" with
    | none =>
      rw [found] at decoded
      exact decoded
    | some value =>
      have null : value = .null := by
        rw [given, found] at unasked
        cases value <;> first | rfl | cases unasked
      rw [found, null] at decoded
      exact decoded
  · have answer : ∀ id : Option Id, Id.decode? value = id →
        (∀ error, given members "error" = some error → ∃ cause, errorOf error = .ok cause ∧
          Message.decode body = .ok (.response id (.error cause))) ∧
        (given members "error" = none →
          Message.decode body = .ok (.response id (.ok ((given members "result").getD .null)))) := by
      intro id identified
      rw [unnamed, asked, Option.map_some, identified] at decoded
      refine ⟨fun error failed => ?_, fun succeeded => ?_⟩
      · obtain ⟨-, there, suits⟩ := suits_of_given all failed
        obtain ⟨cause, found⟩ : ∃ cause, errorOf error = .ok cause := by simpa [Suits, there] using suits
        have shown : ((given members "error").bind fun value => (errorOf value).toOption) = some cause := by
          simp [failed, found, Except.toOption]
        rw [shown] at decoded
        exact ⟨cause, found, decoded⟩
      · rw [succeeded] at decoded
        exact decoded
    rcases suits_of_lookup all asked with rfl | suits
    · exact ⟨none, rfl, answer none rfl⟩
    · obtain ⟨id, rfl⟩ : ∃ id : Id, toJson id = value := by simpa using suits
      exact ⟨some id, rfl, answer _ (decode?_toJson id)⟩
  · rw [unnamed, unasked] at decoded
    exact decoded

/-- A call whose members stand behind one that nobody asked for, which holds half of a character. -/
def tangledBody : Bytes := [
  0x7B, 0x22, 0x78, 0x22, 0x3A, 0x5B, 0x2D, 0x30, 0x2C, 0x22, 0x5C, 0x75, 0x64, 0x38, 0x30, 0x30, 0x22,
  0x5D, 0x20, 0x2C, 0x22, 0x69, 0x64, 0x22, 0x3A, 0x37, 0x2C, 0x22, 0x6D, 0x65, 0x74, 0x68, 0x6F, 0x64,
  0x22, 0x3A, 0x22, 0x6D, 0x22, 0x2C, 0x22, 0x6A, 0x73, 0x6F, 0x6E, 0x72, 0x70, 0x63, 0x22, 0x3A, 0x22,
  0x32, 0x2E, 0x30, 0x22, 0x7D]

/-- What nobody asked for may be anything, and the call is still one. -/
theorem tangled_body_is_a_call :
    MessageText tangledBody [("id", .int 7), ("method", .str "m"), ("jsonrpc", .str "2.0")] ∧
      Message.decode tangledBody = .ok (.call (.number 7) "m" .null) := by
  have text : MessageText tangledBody
      [("id", .int 7), ("method", .str "m"), ("jsonrpc", .str "2.0")] := by
    have plain {bytes rest value} (key : String) (other : key ≠ "error")
        (read : readValue memberLimit bytes = .ok (value, rest)) :
        Envelope.Content key bytes value rest := by
      rw [Envelope.Content, if_neg other]
      exact read
    refine ⟨_, [], .none _, ?_, .none _⟩
    refine .other "x" (.first _) ⟨[0x78, 0x22], _, .none _, by decide +kernel, .none _⟩ (by decide)
      (.nested (.none _) (.inl ⟨rfl, rfl⟩) (.first (.item _)
        (.number [0x2D] [0x30] [] [] (.none _) (.inr rfl) .zero .none .none (by simp [Ends]; decide))
        (.later (.none _) (.item _) (.text (.none _) (.unit (by simp; decide) (.closes _)))
          (.closes (.none _) (.inl rfl))))) ?_
    refine .known "id" [0x37] (.later (.more (.inl rfl) (.none _)))
      ⟨[0x69, 0x64, 0x22], _, .none _, by decide +kernel, .none _⟩ (by decide)
      (plain _ (by decide) (by decide +kernel)) ?_
    refine .known "method" [0x22, 0x6D, 0x22] (.later (.none _))
      ⟨[0x6D, 0x65, 0x74, 0x68, 0x6F, 0x64, 0x22], _, .none _, by decide +kernel, .none _⟩ (by decide)
      (plain _ (by decide) (by decide +kernel)) ?_
    exact .known "jsonrpc" [0x22, 0x32, 0x2E, 0x30, 0x22] (.later (.none _))
      ⟨[0x6A, 0x73, 0x6F, 0x6E, 0x72, 0x70, 0x63, 0x22], _, .none _, by decide +kernel, .none _⟩
      (by decide) (plain _ (by decide) (by decide +kernel)) (.closes (.none _))
  refine ⟨text, ?_⟩
  have suits : ∀ member ∈ [("id", Json.int 7), ("method", .str "m"), ("jsonrpc", .str "2.0")],
      Suits member.1 member.2 := by
    simp [Suits]
    exact ⟨.number 7, rfl⟩
  obtain ⟨id, same, decoded⟩ :=
    (((message_of_known_members text (by decide)).2 suits).2 rfl).1 "m" (.int 7) rfl rfl
  have seven : id = .number 7 := by
    cases id with
    | number code => exact congrArg Id.number (Int64.toInt_inj.mp (Json.int.inj same))
    | text name => cases same
  exact seven ▸ decoded

theorem overfull_error_is_malformed : Message.decode (Bytes.ofText
    "\x7b\"jsonrpc\":\"2.0\",\"id\":1,\"error\":[1,\"m\",2,3]\x7d") = .error (.json .malformed) := by
  decide +kernel

end PolicyServer.Rpc
