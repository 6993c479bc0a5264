import PolicyServer.Proofs.Json.Grammar

/-! Records read straight from a text are what their values decode to: the members that a record knows
may stand in any order and among others of any form. -/

namespace PolicyServer.Json

variable {α β σ : Type} {bytes tail mid next rest : Bytes} {value : Json} {depth : Nat}

/-- How what is wrong with a value shows in its text: an array that is too long is not read to its
end. -/
def ReadError.of : DecodeError → ReadError
  | .long _ => .malformed
  | _ => .unsuitable

theorem ReadError.of_eq_unsuitable {error : DecodeError} (other : ∀ length, error ≠ .long length) :
    ReadError.of error = .unsuitable := by
  cases error with
  | long length => exact absurd rfl (other length)
  | _ => rfl

def Agrees (content : Bytes → Json → Bytes → Prop) (reader : Reader α) (decode : Decoder α) : Prop :=
  ∀ bytes value rest, content bytes value rest →
    reader bytes = ((decode value).mapError ReadError.of).map (·, rest)

/-! ### Scalars -/

theorem Readable.skip (read : Readable depth bytes value rest) :
    Readable depth (skipBlanks bytes) value rest := by
  unfold Readable at *
  rw [readValue] at read ⊢
  rwa [skipBlanks_skipBlanks]

section Numbers

variable {b : UInt8} (begins : b = 0x2D ∨ (digit? b).isSome = true)
include begins

theorem number_begins : b ∉ [0x6E, 0x74, 0x66, 0x22, 0x5B, 0x7B] := by
  intro other
  simp only [List.mem_cons, List.not_mem_nil, or_false] at other
  rcases begins with rfl | digit
  · revert other
    decide
  · rcases other with rfl | rfl | rfl | rfl | rfl | rfl <;> exact absurd digit (by decide)

theorem number_unsuitable
    (read : (if b = 0x2D then readNumber true tail else readNumber false (b :: tail)) =
      .ok (value, rest)) : unsuitableAt (b :: tail) = .unsuitable := by
  have others := number_begins begins
  split at read <;> simp_all [unsuitableAt, Except.map]

end Numbers

theorem Reading.unsuitable {b : UInt8} (reading : Reading depth tail rest b value) :
    unsuitableAt (b :: tail) = .unsuitable := by
  cases reading with
  | number begins read => exact number_unsuitable begins read
  | array => rfl
  | object => rfl
  | _ => simp_all [unsuitableAt, Except.map]

theorem Readable.least {n : Int} (read : Readable depth bytes (.int n) rest) :
    -0x8000000000000000 ≤ n := by
  obtain ⟨b, tail, -, reading⟩ := read.cases
  cases reading with
  | number _ read =>
    obtain ⟨_, same, least, -⟩ | ⟨_, same⟩ := number_isNumber read <;> cases same
    exact least

theorem agrees_value (depth : Nat) : Agrees (Readable depth) (readValue depth) .ok :=
  fun _ _ _ read => read

theorem agrees_string (depth : Nat) : Agrees (Readable depth) readString asString := by
  intro bytes value rest stands
  obtain ⟨b, tail, begun, reading⟩ := stands.cases
  have unsuitable := reading.unsuitable
  unfold readString
  rw [begun]
  cases reading with
  | text read => exact read
  | number begins read =>
    split
    · rename_i same
      exact absurd (List.cons.inj same).1 (by have := number_begins begins; simp_all)
    · obtain ⟨n, rfl, -⟩ | ⟨bits, rfl⟩ := number_isNumber read <;> exact congrArg _ unsuitable
  | _ => exact congrArg _ unsuitable

theorem int64_of_int {n : Int} (least : -0x8000000000000000 ≤ n) :
    (if n < 0x8000000000000000 then .ok (Int64.ofInt n, rest) else .error ReadError.unsuitable) =
      ((asInt64 (.int n)).mapError ReadError.of).map (·, rest) := by
  have same : n ≤ 0x7FFFFFFFFFFFFFFF ↔ n < 0x8000000000000000 := by omega
  simp only [asInt64, asInt, least, true_and, same]
  split <;> rfl

theorem agrees_int64 (depth : Nat) : Agrees (Readable depth) readInt64 asInt64 := by
  intro bytes value rest stands
  obtain ⟨b, tail, begun, reading⟩ := stands.cases
  have unsuitable := reading.unsuitable
  unfold readInt64
  rw [begun]
  cases reading with
  | number begins read =>
    obtain ⟨n, rfl, least, -⟩ | ⟨bits, rfl⟩ := number_isNumber read
    all_goals
      by_cases sign : b = 0x2D
      · simp only [sign, if_true] at read ⊢
        simp only [read, bind, Except.bind]
        first | exact int64_of_int least | rfl
      · simp only [sign, begins.resolve_left sign, if_false, if_true] at read ⊢
        simp only [read, bind, Except.bind]
        first | exact int64_of_int least | rfl
  | _ => exact congrArg _ unsuitable

section Places

variable {content : Bytes → Json → Bytes → Prop} {reader : Reader α} {decode : Decoder α}
  (agrees : Agrees content reader decode)
include agrees

theorem Agrees.nullable
    (skips : ∀ {bytes value rest}, content bytes value rest → content (skipBlanks bytes) value rest)
    (begins : ∀ {bytes value rest}, content bytes value rest → Readable depth bytes value rest ∨
      value ≠ .null ∧ ∃ tail, skipBlanks bytes = 0x7B :: tail) :
    Agrees content (readNullable reader) (asOption decode) := by
  intro bytes value rest stands
  have found := agrees _ _ _ (skips stands)
  have other : (∀ tail, skipBlanks bytes ≠ 0x6E :: tail) → value ≠ .null →
      readNullable reader bytes = ((asOption decode value).mapError ReadError.of).map (·, rest) := by
    intro apart some
    unfold readNullable asOption
    split
    · rename_i begun
      exact absurd begun (apart _)
    · rw [found]
      split
      · exact absurd rfl some
      · cases decode value <;> rfl
  rcases begins stands with read | ⟨some, tail, begun⟩
  · by_cases null : ∃ tail, skipBlanks bytes = 0x6E :: tail
    · obtain ⟨tail, begun⟩ := null
      obtain ⟨b, _, same, reading⟩ := read.cases
      cases begun.symm.trans same
      cases reading with
      | null word => simp [readNullable, begun, word, asOption, Except.map, Except.mapError]
      | number begins => exact absurd (.head _) (number_begins begins)
    · have apart := not_exists.mp null
      exact other apart (readValue_ne_null read apart)
  · exact other (by simp [begun]) some

theorem Agrees.place (put : α → β) :
    Agrees content (fun bytes => reader bytes >>= fun read => .ok (put read.1, read.2))
      fun value => (decode value).map put := by
  intro bytes value rest stands
  simp only [agrees _ _ _ stands]
  cases decode value <;> rfl

end Places

/-! ### Objects -/

/-- What stands before a member: nothing, or a comma. -/
inductive Comma : Bool → Bytes → Bytes → Prop where
  | first (rest : Bytes) : Comma true rest rest
  | later {bytes rest : Bytes} (comma : Blanks bytes (0x2C :: rest)) : Comma false bytes rest

def Key (bytes : Bytes) (key : String) (rest : Bytes) : Prop :=
  ∃ text mid, Blanks bytes (0x22 :: (text ++ mid)) ∧ readText (text ++ mid) = .ok (key, mid) ∧
    Blanks mid (0x3A :: rest)

/-- The members of an object up to its closing brace. Those that are known are listed as they stand
there, each with the value its content gives it; others may have any form. -/
inductive Members (known : List String) (content : String → Bytes → Json → Bytes → Prop) :
    Bool → Bytes → List (String × Json) → Bytes → Prop where
  | closes {first : Bool} {bytes rest : Bytes} (blanks : Blanks bytes (0x7D :: rest)) :
    Members known content first bytes [] rest
  | known {first : Bool} {bytes tail next rest : Bytes} {value : Json} {members : List (String × Json)}
      (key : String) (text : Bytes) (comma : Comma first bytes tail)
      (label : Key tail key (text ++ next)) (listed : key ∈ known)
      (stands : content key (text ++ next) value next)
      (further : Members known content false next members rest) :
    Members known content first bytes ((key, value) :: members) rest
  | other {first : Bool} {bytes tail mid next rest : Bytes} {members : List (String × Json)}
      (key : String) (comma : Comma first bytes tail) (label : Key tail key mid)
      (unlisted : key ∉ known) (form : Form .value mid next)
      (further : Members known content false next members rest) :
    Members known content first bytes members rest

def TakesKnown (fields : List (RecordField σ)) (content : String → Bytes → Json → Bytes → Prop)
    (take : σ → String × Json → Except ReadError σ) : Prop :=
  ∀ key field record bytes value rest, fields.find? (·.name = key) = some field →
    content key bytes value rest → field.read record bytes = (take record (key, value)).map (·, rest)

def taking (take : σ → String × Json → Except ReadError σ) (state : List String × σ)
    (member : String × Json) : Except ReadError (List String × σ) :=
  if member.1 ∈ state.1 then .error .unsuitable
  else (take state.2 member).map (member.1 :: state.1, ·)

section Objects

variable {known : List String} {content : String → Bytes → Json → Bytes → Prop}
  {fields : List (RecordField σ)} {take : σ → String × Json → Except ReadError σ}
  {first : Bool} {key : String} {members : List (String × Json)} {seen : List String} {record : σ}

theorem Key.read (label : Key tail key rest) (comma : Comma first bytes tail) :
    rest.length < bytes.length ∧ ∃ more mid,
      readSeparator 0x7D first bytes = .ok (false, 0x22 :: more) ∧ readText more = .ok (key, mid) ∧
      ∀ {τ : Type} (reader : Reader τ), readAfterColon reader mid = reader rest := by
  obtain ⟨text, mid, opens, read, colon⟩ := label
  have begun := opens.skip_start (by decide)
  have before := opens.length_le
  have after := colon.length_le
  simp only [List.length_cons, List.length_append] at before after
  have colon : ∀ {τ : Type} (reader : Reader τ), readAfterColon reader mid = reader rest :=
    fun reader => by simp [readAfterColon, colon.skip_start (by decide)]
  cases comma with
  | first => exact ⟨by omega, _, _, by simp [readSeparator, begun], read, colon⟩
  | later comma =>
    have shorter := comma.length_le
    simp only [List.length_cons] at shorter
    refine ⟨by omega, _, _, ?_, read, colon⟩
    simp [readSeparator, comma.skip_start (by decide), begun]

theorem Members.read (names : fields.map (·.name) = known) (takes : TakesKnown fields content take)
    (listed : Members known content first bytes members rest) {fuel : Nat}
    (ample : bytes.length < fuel) (state : List String × σ) :
    readMembers (readField fields) fuel first state bytes =
      (members.foldlM (taking take) state).map (·, rest) := by
  have finds : ∀ key, key ∈ known ↔ ∃ field, fields.find? (·.name = key) = some field := by
    intro key
    rw [← names, ← Option.isSome_iff_exists, List.find?_isSome, List.mem_map]
    simp only [decide_eq_true_eq]
  obtain ⟨fuel, rfl⟩ : ∃ less, fuel = less + 1 := ⟨fuel - 1, by omega⟩
  induction listed generalizing fuel state with
  | @closes first bytes rest blanks =>
    have separator : readSeparator 0x7D first bytes = .ok (true, rest) := by
      simp [readSeparator, blanks.skip_close (.inr rfl)]
    simp only [readMembers, separator, bind, Except.bind]
    rfl
  | @known first bytes tail next rest value members key text comma label member stands _ ih =>
    obtain ⟨shorter, more, mid, separator, named, colon⟩ := label.read comma
    obtain ⟨field, found⟩ := (finds key).mp member
    have read := takes key field state.2 _ _ _ found stands
    simp only [List.length_append] at shorter
    obtain ⟨fuel, rfl⟩ : ∃ less, fuel = less + 1 := ⟨fuel - 1, by omega⟩
    simp only [readMembers, separator, readKey, named, readField, found, colon, read, bind, Except.bind,
      if_true, Bool.false_eq_true, if_false, List.foldlM_cons, taking]
    by_cases repeated : key ∈ state.1
    · simp only [repeated, if_true]
      rfl
    · cases taken : take state.2 (key, value) with
      | error error => simp [repeated, Except.map]
      | ok record =>
        simp only [repeated, if_false, Except.map]
        exact ih _ fuel (by omega)
  | @other first bytes tail mid next rest members key comma label unlisted form _ ih =>
    obtain ⟨shorter, more, mid', separator, named, colon⟩ := label.read comma
    have absent : fields.find? (·.name = key) = none := by
      cases found : fields.find? (·.name = key) with
      | none => rfl
      | some field => exact absurd ((finds key).mpr ⟨field, found⟩) unlisted
    obtain ⟨steps, fewer, -⟩ := form.passes
    obtain ⟨fuel, rfl⟩ : ∃ less, fuel = less + 1 := ⟨fuel - 1, by omega⟩
    simp only [readMembers, separator, readKey, named, readField, absent, colon, form.skipValue, bind,
      Except.bind, if_true, Bool.false_eq_true, if_false, Except.map]
    exact ih _ fuel (by omega)

theorem taking_once (once : (members.map (·.1)).Nodup) (fresh : ∀ member ∈ members, member.1 ∉ seen) :
    members.foldlM (taking take) (seen, record) =
      (members.foldlM take record).map ((members.map (·.1)).reverse ++ seen, ·) := by
  induction members generalizing seen record with
  | nil => rfl
  | cons member members ih =>
    obtain ⟨apart, once⟩ := List.nodup_cons.mp once
    have new := fresh member List.mem_cons_self
    simp only [List.foldlM_cons, taking, new, if_false, bind, Except.bind]
    cases take record member with
    | error error => rfl
    | ok next =>
      refine (ih once fun other listed => ?_).trans (by simp)
      rw [List.mem_cons, not_or]
      exact ⟨fun same => apart (List.mem_map.mpr ⟨other, listed, same⟩), fresh other (.tail _ listed)⟩

theorem taking_repeated (plain : ∀ record member error, take record member = .error error →
      error = .unsuitable)
    (repeated : ¬ ((members.map (·.1)).Nodup ∧ ∀ member ∈ members, member.1 ∉ seen)) :
    members.foldlM (taking take) (seen, record) = .error .unsuitable := by
  induction members generalizing seen record with
  | nil => simp at repeated
  | cons member members ih =>
    simp only [List.foldlM_cons, taking, bind, Except.bind]
    by_cases known : member.1 ∈ seen
    · simp [known]
    · simp only [known, if_false]
      cases taken : take record member with
      | error error => exact congrArg _ (plain _ _ _ taken)
      | ok next =>
        refine ih fun ⟨once, fresh⟩ => repeated ⟨List.nodup_cons.mpr ⟨fun listed => ?_, once⟩, ?_⟩
        · obtain ⟨other, listed, same⟩ := List.mem_map.mp listed
          exact fresh other listed (same ▸ List.mem_cons_self)
        · rintro other (_ | ⟨_, listed⟩) earlier
          · exact known earlier
          · exact fresh other listed (List.mem_cons_of_mem _ earlier)

theorem readRecord_members {fields : Nat → List (RecordField σ)} (record : σ)
    (names : (fields depth).map (·.name) = known) (takes : TakesKnown (fields depth) content take)
    (blanks : Blanks bytes (0x7B :: tail)) (listed : Members known content true tail members rest) :
    readRecord (depth + 1) fields record bytes =
      members.foldlM (taking take) ([], record) >>= fun found =>
        if (fields depth).all fun field => !field.named || field.name ∈ found.1 then
          .ok (found.2, rest)
        else .error .unsuitable := by
  have read := listed.read names takes (Nat.lt_succ_self _) ([], record)
  simp only [readRecord, blanks.skip_start (b := 0x7B) (by decide), read]
  cases members.foldlM (taking take) ([], record) <;> rfl

end Objects

/-! ### Records -/

/-- The items of an array up to its closing bracket. -/
inductive Items (depth : Nat) : Bool → Bytes → List Json → Bytes → Prop where
  | closes {first : Bool} {bytes rest : Bytes}
      (ended : readSeparator 0x5D first bytes = .ok (true, rest)) : Items depth first bytes [] rest
  | item {first : Bool} {bytes mid next rest : Bytes} {value : Json} {items : List Json}
      (follows : readSeparator 0x5D first bytes = .ok (false, mid))
      (stands : Readable depth mid value next) (further : Items depth false next items rest) :
    Items depth first bytes (value :: items) rest

theorem items_of_readItems {fuel : Nat} {first : Bool} {done all : List Json}
    (read : readItems (fun items bytes => (readValue depth bytes).map fun found =>
      (found.1 :: items, found.2)) fuel first done bytes = .ok (all, rest)) :
    ∃ items, all = items.reverse ++ done ∧ Items depth first bytes items rest := by
  induction fuel generalizing first done bytes with
  | zero => cases read
  | succ fuel ih =>
    obtain ⟨⟨ended, mid⟩, separator, read⟩ := bind_eq_ok.mp read
    cases ended with
    | true =>
      cases read
      exact ⟨[], rfl, .closes separator⟩
    | false =>
      obtain ⟨found, item, read⟩ := bind_eq_ok.mp read
      obtain ⟨⟨value, next⟩, stands, ⟨⟩⟩ := map_eq_ok.mp item
      obtain ⟨items, same, further⟩ := ih read
      exact ⟨value :: items, by simp [same], .item separator stands further⟩

theorem readSeparator_cases {close : UInt8} {first ended : Bool}
    (read : readSeparator close first bytes = .ok (ended, rest)) :
    ∃ b tail, skipBlanks bytes = b :: tail ∧ if ended then b = close ∧ tail = rest else b ≠ close := by
  unfold readSeparator at read
  split at read
  · cases read
  · rename_i b tail begun
    refine ⟨b, tail, begun, ?_⟩
    split at read
    · cases read
      exact ⟨‹b = close›, rfl⟩
    · cases ended with
      | false => assumption
      | true => repeat' first | cases read | split at read

/-- A field that reads what a slot decodes. -/
structure Fits (depth : Nat) (field : RecordField σ) (slot : Slot σ) : Prop where
  name : field.name = slot.name
  named : field.named = !slot.optional
  placed : field.placed = !slot.optional
  agrees : ∀ record, Agrees (Readable depth) (field.read record) (slot.set record)

def Layout.Plain (layout : Layout σ) : Prop :=
  ∀ slot ∈ layout.slots, ∀ record value length, slot.set record value ≠ .error (.long length)

def Layout.take (layout : Layout σ) (record : σ) (member : String × Json) : Except ReadError σ :=
  match layout.slots.find? (·.name = member.1) with
  | none => .ok record
  | some slot => (slot.set record member.2).mapError ReadError.of

section Records

variable {layout : Layout σ} {fields : List (RecordField σ)} {slots : List (Slot σ)}
  {items : List Json} {length : Nat} {first : Bool} {record : σ} {members : List (String × Json)}

theorem takeItems_nil (fit : List.Forall₂ (Fits depth) fields slots) :
    (layout.takeItems length slots [] record).mapError ReadError.of =
      if fields.all (!·.placed) then .ok record else .error .unsuitable := by
  induction fit with
  | nil => rfl
  | @cons _ slot _ _ fits _ ih =>
    simp only [Layout.takeItems, List.all_cons, fits.placed, Bool.not_not]
    cases slot.optional with
    | false => rfl
    | true => simpa using ih

theorem readPositional_items (fit : List.Forall₂ (Fits depth) fields slots)
    (listed : Items depth first bytes items rest) :
    readPositional fields first record bytes =
      ((layout.takeItems length slots items record).mapError ReadError.of).map (·, rest) := by
  induction fit generalizing first bytes items record with
  | nil =>
    unfold readPositional
    cases listed with
    | closes ended =>
      obtain ⟨b, tail, begun, rfl, rfl⟩ := readSeparator_cases ended
      simp [begun, Layout.takeItems, Except.mapError, Except.map]
    | item follows =>
      obtain ⟨b, tail, begun, other⟩ := readSeparator_cases follows
      simp only [Bool.false_eq_true, if_false] at other
      simp only [begun, other, if_false]
      rfl
  | @cons _ slot _ _ fits more ih =>
    unfold readPositional
    cases listed with
    | closes ended =>
      rw [takeItems_nil (.cons fits more)]
      simp only [ended, bind, Except.bind, if_true]
      split <;> rfl
    | @item _ _ _ _ _ value _ follows stands further =>
      simp only [follows, bind, Except.bind, fits.agrees _ _ _ _ stands, Layout.takeItems,
        Bool.false_eq_true, if_false]
      cases slot.set record value with
      | error error => rfl
      | ok next => exact ih further

theorem foldlM_take : members.foldlM layout.take record =
    (layout.takeMembers members record).mapError ReadError.of := by
  induction members generalizing record with
  | nil => rfl
  | cons member members ih =>
    simp only [List.foldlM_cons, Layout.take, Layout.takeMembers, bind, Except.bind]
    cases layout.slots.find? (·.name = member.1) with
    | none => exact ih
    | some slot =>
      dsimp only
      cases slot.set record member.2 with
      | error error => rfl
      | ok next => exact ih

theorem names_of_fits (fit : List.Forall₂ (Fits depth) fields slots) :
    fields.map (·.name) = slots.map (·.name) := by
  induction fit with
  | nil => rfl
  | cons fits _ ih => rw [List.map_cons, List.map_cons, fits.name, ih]

theorem find_of_fits (fit : List.Forall₂ (Fits depth) fields slots) {key : String}
    {field : RecordField σ} (found : fields.find? (·.name = key) = some field) :
    ∃ slot, slots.find? (·.name = key) = some slot ∧ Fits depth field slot := by
  induction fit with
  | nil => cases found
  | @cons first slot _ _ fits _ ih =>
    rw [List.find?_cons] at found ⊢
    rw [← fits.name]
    split at found
    · cases found
      exact ⟨slot, rfl, fits⟩
    · exact ih found

theorem all_named_iff (fit : List.Forall₂ (Fits depth) fields slots) :
    (fields.all fun field => !field.named || field.name ∈ (members.map (·.1)).reverse) =
      (slots.find? fun slot => !slot.optional && (members.lookup slot.name).isNone).isNone := by
  induction fit with
  | nil => rfl
  | @cons _ slot _ _ fits _ ih =>
    have present : (members.lookup slot.name).isNone = !decide (slot.name ∈ members.map (·.1)) := by
      rw [Bool.eq_iff_iff]
      simp only [Option.isNone_iff_eq_none, List.lookup_eq_none_iff, bne_iff_ne, Bool.not_eq_true',
        decide_eq_false_iff_not, List.mem_map, not_exists, not_and, eq_comm (a := slot.name), ne_eq]
    rw [List.all_cons, ih, List.find?_cons, present, fits.named, fits.name, Bool.not_not]
    simp only [List.mem_reverse]
    cases slot.optional <;> cases decide (slot.name ∈ members.map (·.1)) <;> simp

variable (plain : layout.Plain)
include plain

theorem take_plain (record : σ) (member : String × Json) (error : ReadError)
    (refused : layout.take record member = .error error) : error = .unsuitable := by
  unfold Layout.take at refused
  split at refused
  · cases refused
  · rename_i slot found
    cases set : slot.set record member.2 with
    | ok next =>
      rw [set] at refused
      cases refused
    | error cause =>
      rw [set] at refused
      cases refused
      refine ReadError.of_eq_unsuitable fun length same => ?_
      exact plain slot (List.mem_of_find?_eq_some found) _ _ length (same ▸ set)

theorem takeMembers_plain (count : Nat) : layout.takeMembers members record ≠ .error (.long count) := by
  intro long
  have refused := @foldlM_take _ layout record members
  rw [long] at refused
  clear long
  induction members generalizing record with
  | nil => cases refused
  | cons member members ih =>
    rw [List.foldlM_cons] at refused
    cases taken : layout.take record member with
    | ok next =>
      rw [taken] at refused
      exact ih refused
    | error error =>
      rw [taken] at refused
      cases refused
      cases take_plain plain _ _ _ taken

theorem takeItems_long_iff (fields : ∀ slot ∈ slots, slot ∈ layout.slots) (other : Nat) :
    (∃ count, layout.takeItems length slots items record = .error (.long count)) ↔
      slots.length < items.length ∧
        ∃ final, layout.takeItems other slots (items.take slots.length) record = .ok final := by
  induction slots generalizing items record with
  | nil => cases items <;> simp [Layout.takeItems]
  | cons slot slots ih =>
    have ih {items record} := @ih items record fun slot listed => fields slot (.tail _ listed)
    cases items with
    | nil =>
      have none := @ih [] record
      simp only [List.length_nil, Nat.not_lt_zero, false_and, iff_false] at none ⊢
      rw [Layout.takeItems]
      split
      · exact none
      · simp
    | cons item items =>
      simp only [List.length_cons, List.take_succ_cons, Nat.succ_lt_succ_iff, Layout.takeItems]
      cases set : slot.set record item with
      | error error =>
        have short : ∀ count, error ≠ .long count := by
          rintro count rfl
          exact plain slot (fields slot (.head _)) _ _ _ set
        simp [short]
      | ok next => exact ih

end Records

/-- What a record may be read from: an object whose known members can be read, or any other value. -/
inductive Recordable (known : List String) (depth : Nat) : Bytes → Json → Bytes → Prop where
  | object {bytes tail rest : Bytes} {members : List (String × Json)}
      (blanks : Blanks bytes (0x7B :: tail))
      (listed : Members known (fun _ => Readable depth) true tail members rest) :
    Recordable known depth bytes (.obj members) rest
  | other {bytes rest : Bytes} {value : Json} (read : Readable (depth + 1) bytes value rest)
      (plain : ∀ members, value ≠ .obj members) : Recordable known depth bytes value rest

theorem Recordable.skip {known : List String} (stands : Recordable known depth bytes value rest) :
    Recordable known depth (skipBlanks bytes) value rest := by
  cases stands with
  | object blanks listed =>
    rw [blanks.skip_start (by decide)]
    exact .object (.none _) listed
  | other read plain => exact .other read.skip plain

theorem Recordable.begins {known : List String} (stands : Recordable known depth bytes value rest) :
    Readable (depth + 1) bytes value rest ∨ value ≠ .null ∧ ∃ tail, skipBlanks bytes = 0x7B :: tail := by
  cases stands with
  | object blanks listed => exact .inr ⟨Json.noConfusion, _, blanks.skip_start (by decide)⟩
  | other read plain => exact .inl read

def once (decode : Decoder α) : Decoder α
  | .obj members =>
    if (members.map (·.1)).Nodup then decode (.obj members)
    else .error (.unlisted "repeated member in" (.obj members))
  | other => decode other

theorem agrees_record {layout : Layout σ} {fields : Nat → List (RecordField σ)}
    (fit : List.Forall₂ (Fits depth) (fields depth) layout.slots) (plain : layout.Plain) :
    Agrees (Recordable (layout.slots.map (·.name)) depth)
      (readRecord (depth + 1) fields layout.blank) (once layout.decode) := by
  intro bytes value rest stands
  cases stands with
  | object blanks listed =>
    rename_i members
    have takes : TakesKnown (fields depth) (fun _ => Readable depth) layout.take := by
      intro key field record bytes value rest found stands
      obtain ⟨slot, known, fits⟩ := find_of_fits fit found
      simp only [Layout.take, known]
      exact fits.agrees record _ _ _ stands
    rw [readRecord_members _ (names_of_fits fit) takes blanks listed]
    unfold once
    by_cases single : (members.map (·.1)).Nodup
    · rw [taking_once single (by simp), foldlM_take]
      simp only [single, if_true, Layout.decode, Layout.absent?]
      cases layout.takeMembers members layout.blank with
      | error error => rfl
      | ok final =>
        simp only [Except.mapError, Except.map, bind, Except.bind, List.append_nil, all_named_iff fit]
        cases layout.slots.find? fun slot => !slot.optional && (members.lookup slot.name).isNone <;> rfl
    · rw [taking_repeated (take_plain plain) fun held => single held.1]
      simp only [single, if_false]
      rfl
  | other read flat =>
    obtain ⟨b, tail, begun, reading⟩ := read.cases
    have unsuitable := reading.unsuitable
    unfold readRecord
    rw [begun]
    cases reading with
    | array within read =>
      cases within
      obtain ⟨listed, rfl, items⟩ := items_of_readItems read
      simpa [once, Layout.decode] using readPositional_items fit items
    | object => exact absurd rfl (flat _)
    | number begins read =>
      have others := number_begins begins
      simp only [List.mem_cons, List.not_mem_nil, or_false, not_or] at others
      simp only [others, or_self, if_false, unsuitable]
      obtain ⟨n, rfl, -⟩ | ⟨bits, rfl⟩ := number_isNumber read <;> rfl
    | _ => exact congrArg _ unsuitable

end PolicyServer.Json
