import PolicyServer.Json.Record
import PolicyServer.Proofs.Json.Number
import PolicyServer.Proofs.Json.Text
import PolicyServer.Proofs.Table

/-! Values without floating-point numbers read back as what was written, however they are nested. -/

namespace PolicyServer.Json

variable {value : Json} {b : UInt8} {rest : Bytes}

/-! ### Values as they are in memory -/

mutual

theorem beq_iff : ∀ a b : Json, beq a b = true ↔ a = b
  | .null, b => by cases b <;> simp [beq]
  | .bool _, b => by cases b <;> simp [beq]
  | .int _, b => by cases b <;> simp [beq]
  | .float _, b => by cases b <;> simp [beq]
  | .str _, b => by cases b <;> simp [beq]
  | .arr items, b => by cases b <;> simp [beq, beqItems_iff items]
  | .obj members, b => by cases b <;> simp [beq, beqMembers_iff members]

theorem beqItems_iff : ∀ as bs : List Json, beqItems as bs = true ↔ as = bs
  | [], bs => by cases bs <;> simp [beqItems]
  | a :: as, bs => by cases bs <;> simp [beqItems, beq_iff a, beqItems_iff as]

theorem beqMembers_iff : ∀ as bs : List (String × Json), beqMembers as bs = true ↔ as = bs
  | [], bs => by cases bs <;> simp [beqMembers]
  | (_, a) :: as, bs => by
    cases bs <;> simp [beqMembers, beq_iff a, beqMembers_iff as, Prod.ext_iff]

end

instance : DecidableEq Json := fun a b => decidable_of_iff (beq a b = true) (beq_iff a b)

/-- Holds if a value and all values that lie within it have a property. -/
inductive Throughout (P : Json → Prop) : Json → Prop where
  | intro {value : Json} (here : P value) (items : ∀ item ∈ value.items, Throughout P item)
    (members : ∀ member ∈ value.members, Throughout P member.2) : Throughout P value

/-- Holds for a whole number within 64 bits, be it with a sign or without, and for an object with
its members in order; other values have nothing to keep to. -/
def IsRegular : Json → Prop
  | .int n => -0x8000000000000000 ≤ n ∧ n < 0x10000000000000000
  | .obj members => Table.Ordered members
  | _ => True

def isFloat : Json → Bool
  | .float _ => true
  | _ => false

/-- A value that keeps to the bounds of whole numbers and to the order of members. -/
def Regular (value : Json) : Prop := value.Throughout IsRegular

def FloatFree (value : Json) : Prop := value.Throughout fun value => value.isFloat = false

theorem FloatFree.isFloat_eq (floatFree : value.FloatFree) : value.isFloat = false := by
  obtain ⟨plain, -, -⟩ := floatFree
  exact plain

theorem depthItems_le {items : List Json} {depth : Nat} :
    depthItems items ≤ depth ↔ ∀ item ∈ items, item.depth ≤ depth := by
  induction items with
  | nil => simp [depthItems]
  | cons item items ih => simp [depthItems, ih]

theorem depthMembers_le {members : List (String × Json)} {depth : Nat} :
    depthMembers members ≤ depth ↔ ∀ member ∈ members, member.2.depth ≤ depth := by
  induction members with
  | nil => simp [depthMembers]
  | cons member members ih => rw [depthMembers, Nat.max_le, ih, List.forall_mem_cons]

/-! ### Where values begin -/

def IsStart (b : UInt8) : Prop := b ∉ [0x20, 0x0A, 0x0D, 0x09, 0x5D, 0x7D]

instance : DecidablePred IsStart := fun b => inferInstanceAs (Decidable (b ∉ _))

theorem skipBlanks_start (start : IsStart b) (rest : Bytes) : skipBlanks (b :: rest) = b :: rest := by
  simp only [IsStart, List.mem_cons, List.not_mem_nil, or_false, not_or] at start
  simp [skipBlanks, start]

theorem start_of_digit (digit : (digit? b).isSome = true) :
    IsStart b ∧ b ∉ [0x6E, 0x74, 0x66, 0x22, 0x2D] := by
  refine ⟨fun member => ?_, fun member => ?_⟩
  all_goals
    simp only [List.mem_cons, List.not_mem_nil, or_false] at member
    rcases member with rfl | rfl | rfl | rfl | rfl | rfl
  all_goals exact absurd digit (by decide)

theorem toBytes_ofNat (n : Nat) :
    ∃ b tail, (Json.int (.ofNat n)).toBytes = b :: tail ∧ (digit? b).isSome = true := by
  obtain ⟨c, digits, shape⟩ := List.exists_cons_of_ne_nil (Nat.toDigits_ne_nil (b := 10) (n := n))
  have member : c ∈ Nat.toDigits 10 n := shape ▸ List.mem_cons_self
  obtain ⟨digit, narrow⟩ := digit?_of_isDigit (Text.isDigit_of_mem member)
  refine ⟨_, Utf8.encode digits, ?_, Option.isSome_of_eq_some digit⟩
  rw [toBytes, write, writeInt, shape, Utf8.encode_cons_narrow narrow]

theorem toBytes_start (plain : value.isFloat = false) :
    ∃ b tail, value.toBytes = b :: tail ∧ IsStart b ∧ (b = 0x6E → value = .null) := by
  cases value with
  | null => exact ⟨0x6E, _, rfl, by decide, fun _ => rfl⟩
  | bool flag => cases flag <;> exact ⟨_, _, rfl, by decide, (absurd · (by decide))⟩
  | float bits => cases plain
  | str text =>
    obtain ⟨tail, written, -⟩ := readText_writeText text
    exact ⟨0x22, tail, written, by decide, (absurd · (by decide))⟩
  | int n =>
    cases n with
    | ofNat n =>
      obtain ⟨b, tail, written, digit⟩ := toBytes_ofNat n
      obtain ⟨start, others⟩ := start_of_digit digit
      refine ⟨b, tail, written, start, fun same => absurd ?_ others⟩
      simp [same]
    | negSucc n => exact ⟨0x2D, _, rfl, by decide, (absurd · (by decide))⟩
  | arr items =>
    cases items with
    | nil => exact ⟨0x5B, _, rfl, by decide, (absurd · (by decide))⟩
    | cons item items =>
      refine ⟨0x5B, Utf8.encode (item.write ++ writeItems items), ?_, by decide, (absurd · (by decide))⟩
      rfl
  | obj members =>
    cases members with
    | nil => exact ⟨0x7B, _, rfl, by decide, (absurd · (by decide))⟩
    | cons member members =>
      refine ⟨0x7B, Utf8.encode (writeText member.1 ++ ':' :: (member.2.write ++
        writeMembers members)), ?_, by decide, (absurd · (by decide))⟩
      rfl

/-! ### Readers that give back what was written -/

def ReadsBack {α : Type} (reader : Reader α) (value : Json) (found : α) : Prop :=
  ∀ rest, Delimited rest → reader (value.toBytes ++ rest) = .ok (found, rest)

theorem ReadsBack.nullable {α : Type} {reader : Reader α} {found : α}
    (back : ReadsBack reader value found) (plain : value.isFloat = false) (there : value ≠ .null) :
    ReadsBack (readNullable reader) value (some found) := by
  intro rest delimited
  obtain ⟨b, tail, written, start, null⟩ := toBytes_start plain
  have read := back rest delimited
  rw [written, List.cons_append] at read ⊢
  rw [readNullable, skipBlanks_start start]
  split
  · rename_i same
    exact absurd (null (List.cons.inj same).1) there
  · rw [read]
    rfl

theorem readNullable_null {α : Type} (reader : Reader α) :
    ReadsBack (readNullable reader) .null none := by
  intro rest delimited
  rfl

theorem readString_str (text : String) : ReadsBack readString (.str text) text := by
  intro rest delimited
  obtain ⟨tail, written, read⟩ := readText_writeText text
  have whole : (Json.str text).toBytes = 0x22 :: tail := written
  rw [whole, List.cons_append, readString, skipBlanks_start (by decide)]
  exact read rest

/-! ### Arrays -/

def IsClose (b : UInt8) : Prop := b = 0x5D ∨ b = 0x7D

theorem readSeparator_start {close : UInt8} (closing : IsClose close) (start : IsStart b)
    (rest : Bytes) :
    readSeparator close true (b :: rest) = .ok (false, b :: rest) ∧
      readSeparator close false (0x2C :: b :: rest) = .ok (false, b :: rest) := by
  have apart : b ≠ close := by
    rintro rfl
    rcases closing with rfl | rfl <;> exact absurd start (by decide)
  have comma : (0x2C : UInt8) ≠ close := by
    rintro rfl
    rcases closing with same | same <;> exact absurd same (by decide)
  have blank : skipBlanks (0x2C :: b :: rest) = 0x2C :: b :: rest := rfl
  constructor
  · simp [readSeparator, skipBlanks_start start, apart]
  · simp [readSeparator, blank, skipBlanks_start start, apart, comma]

theorem readSeparator_toBytes {close : UInt8} (closing : IsClose close) (value : Json)
    (plain : value.isFloat = false) (rest : Bytes) :
    readSeparator close true (value.toBytes ++ rest) = .ok (false, value.toBytes ++ rest) ∧
      readSeparator close false (0x2C :: (value.toBytes ++ rest)) =
        .ok (false, value.toBytes ++ rest) := by
  obtain ⟨b, tail, written, start, -⟩ := toBytes_start plain
  rw [written]
  exact readSeparator_start closing start (tail ++ rest)

theorem delimited_writeItems (items : List Json) (rest : Bytes) :
    Delimited (Utf8.encode (writeItems items) ++ rest) := by
  cases items with
  | nil => exact delimited_cons (.inr (.inl rfl)) _
  | cons item items => exact delimited_cons (.inl rfl) _

theorem length_writeItems (items : List Json) :
    items.length < (Utf8.encode (writeItems items)).length := by
  induction items with
  | nil => exact Nat.one_pos
  | cons item items ih =>
    rw [writeItems, Utf8.encode_cons_narrow (by decide), Utf8.encode_append]
    simp only [List.length_cons, List.length_append]
    omega

section Items

variable {σ : Type} {take : σ → Reader σ} {step : σ → Json → σ} {items : List Json}

theorem readItems_cons {item : Json} {state : σ}
    (back : ReadsBack (take state) item (step state item)) {first : Bool} {bytes : Bytes}
    (separated : readSeparator 0x5D first bytes =
      .ok (false, item.toBytes ++ (Utf8.encode (writeItems items) ++ rest))) (fuel : Nat) :
    readItems take (fuel + 1) first state bytes =
      readItems take fuel false (step state item) (Utf8.encode (writeItems items) ++ rest) := by
  have read := back _ (delimited_writeItems items rest)
  rw [readItems, separated]
  simp only [bind, Except.bind, Bool.false_eq_true, if_false, read]

theorem readItems_writeItems
    (back : ∀ item ∈ items, ∀ state, ReadsBack (take state) item (step state item))
    (plain : ∀ item ∈ items, item.isFloat = false) {fuel : Nat} (ample : items.length < fuel)
    (state : σ) (rest : Bytes) :
    readItems take fuel false state (Utf8.encode (writeItems items) ++ rest) =
      .ok (items.foldl step state, rest) := by
  induction items generalizing fuel state with
  | nil =>
    obtain ⟨fuel, rfl⟩ := Nat.exists_eq_succ_of_ne_zero (Nat.ne_of_gt ample)
    rfl
  | cons item items ih =>
    rw [List.length_cons] at ample
    obtain ⟨fuel, rfl⟩ : ∃ less, fuel = less + 1 := ⟨fuel - 1, by omega⟩
    have text : Utf8.encode (writeItems (item :: items)) ++ rest =
        0x2C :: (item.toBytes ++ (Utf8.encode (writeItems items) ++ rest)) := by
      rw [writeItems, Utf8.encode_cons_narrow (by decide), Utf8.encode_append, List.cons_append,
        List.append_assoc]
      rfl
    have separated := (readSeparator_toBytes (.inl rfl) item (plain item List.mem_cons_self)
      (Utf8.encode (writeItems items) ++ rest)).2
    rw [text, readItems_cons (back item List.mem_cons_self state) separated]
    exact ih (fun other member => back other (List.mem_cons_of_mem _ member))
      (fun other member => plain other (List.mem_cons_of_mem _ member)) (by omega) _

theorem readItems_toBytes
    (back : ∀ item ∈ items, ∀ state, ReadsBack (take state) item (step state item))
    (plain : ∀ item ∈ items, item.isFloat = false) :
    ∃ tail, (Json.arr items).toBytes = 0x5B :: tail ∧ ∀ state rest,
      readItems take ((tail ++ rest).length + 1) true state (tail ++ rest) =
        .ok (items.foldl step state, rest) := by
  cases items with
  | nil => exact ⟨[0x5D], rfl, fun state rest => rfl⟩
  | cons item items =>
    refine ⟨item.toBytes ++ Utf8.encode (writeItems items), ?_, fun state rest => ?_⟩
    · rw [toBytes, write, Utf8.encode_cons_narrow (by decide), Utf8.encode_append]
      rfl
    · have separated := (readSeparator_toBytes (.inl rfl) item (plain item List.mem_cons_self)
        (Utf8.encode (writeItems items) ++ rest)).1
      -- There are at least as many bytes as items.
      have ample := length_writeItems items
      rw [List.append_assoc, readItems_cons (back item List.mem_cons_self state) separated]
      refine readItems_writeItems (fun other member => back other (List.mem_cons_of_mem _ member))
        (fun other member => plain other (List.mem_cons_of_mem _ member)) ?_ _ rest
      simp only [List.length_append]
      omega

end Items

/-! ### Objects -/

theorem delimited_writeMembers (members : List (String × Json)) (rest : Bytes) :
    Delimited (Utf8.encode (writeMembers members) ++ rest) := by
  cases members with
  | nil => exact delimited_cons (.inr (.inr rfl)) _
  | cons member members => exact delimited_cons (.inl rfl) _

theorem length_writeMembers (members : List (String × Json)) :
    members.length < (Utf8.encode (writeMembers members)).length := by
  induction members with
  | nil => exact Nat.one_pos
  | cons member members ih =>
    rw [writeMembers, Utf8.encode_cons_narrow (by decide), Utf8.encode_append,
      Utf8.encode_cons_narrow (by decide), Utf8.encode_append]
    simp only [List.length_cons, List.length_append]
    omega

theorem encode_member (key : String) (value : Json) (members : List (String × Json)) :
    Utf8.encode (writeText key ++ ':' :: (value.write ++ writeMembers members)) =
      (Json.str key).toBytes ++ 0x3A :: (value.toBytes ++ Utf8.encode (writeMembers members)) := by
  rw [Utf8.encode_append, Utf8.encode_cons_narrow (by decide), Utf8.encode_append]
  rfl

theorem readKey_str (key : String) (rest : Bytes) :
    readKey ((Json.str key).toBytes ++ rest) = .ok (key, rest) := by
  obtain ⟨tail, written, read⟩ := readText_writeText key
  have whole : (Json.str key).toBytes = 0x22 :: tail := written
  rw [whole, List.cons_append, readKey, if_pos rfl]
  exact read rest

theorem readAfterColon_colon {α : Type} (reader : Reader α) (rest : Bytes) :
    readAfterColon reader (0x3A :: rest) = reader rest := rfl

section Members

variable {σ : Type} {take : σ → String → Reader σ} {state final : σ} {members : List (String × Json)}

/-- Members are taken into a state, one after the other, whatever may follow each of them. -/
inductive Takes (take : σ → String → Reader σ) : σ → List (String × Json) → σ → Prop where
  | nil (state : σ) : Takes take state [] state
  | cons {state : σ} (next : σ) {final : σ} {key : String} {value : Json}
    {members : List (String × Json)} (first : ∀ rest, Delimited rest →
      take state key (0x3A :: (value.toBytes ++ rest)) = .ok (next, rest))
    (later : Takes take next members final) : Takes take state ((key, value) :: members) final

theorem readMembers_cons {next : σ} {key : String} {value : Json}
    (taken : ∀ rest, Delimited rest →
      take state key (0x3A :: (value.toBytes ++ rest)) = .ok (next, rest)) {first : Bool}
    {bytes : Bytes}
    (separated : readSeparator 0x7D first bytes = .ok (false, (Json.str key).toBytes ++
      0x3A :: (value.toBytes ++ (Utf8.encode (writeMembers members) ++ rest)))) (fuel : Nat) :
    readMembers take (fuel + 1) first state bytes =
      readMembers take fuel false next (Utf8.encode (writeMembers members) ++ rest) := by
  have read := taken _ (delimited_writeMembers members rest)
  rw [readMembers, separated]
  simp only [bind, Except.bind, Bool.false_eq_true, if_false, readKey_str, read]

theorem Takes.readMembers (takes : Takes take state members final) {fuel : Nat}
    (ample : members.length < fuel) (rest : Bytes) :
    readMembers take fuel false state (Utf8.encode (writeMembers members) ++ rest) =
      .ok (final, rest) := by
  induction takes generalizing fuel with
  | nil state =>
    obtain ⟨fuel, rfl⟩ := Nat.exists_eq_succ_of_ne_zero (Nat.ne_of_gt ample)
    rfl
  | @cons state next final key value members first later ih =>
    rw [List.length_cons] at ample
    obtain ⟨fuel, rfl⟩ : ∃ less, fuel = less + 1 := ⟨fuel - 1, by omega⟩
    have text : Utf8.encode (writeMembers ((key, value) :: members)) ++ rest =
        0x2C :: ((Json.str key).toBytes ++
          0x3A :: (value.toBytes ++ (Utf8.encode (writeMembers members) ++ rest))) := by
      rw [writeMembers, Utf8.encode_cons_narrow (by decide), encode_member]
      simp only [List.cons_append, List.append_assoc]
      rfl
    have separated := (readSeparator_toBytes (.inr rfl) (.str key) rfl
      (0x3A :: (value.toBytes ++ (Utf8.encode (writeMembers members) ++ rest)))).2
    rw [text, readMembers_cons first separated]
    exact ih (by omega)

theorem Takes.toBytes (takes : Takes take state members final) :
    ∃ tail, (Json.obj members).toBytes = 0x7B :: tail ∧ ∀ rest,
      Json.readMembers take ((tail ++ rest).length + 1) true state (tail ++ rest) =
        .ok (final, rest) := by
  cases takes with
  | nil => exact ⟨[0x7D], rfl, fun rest => rfl⟩
  | @cons _ next _ key value members first later =>
    refine ⟨(Json.str key).toBytes ++ 0x3A :: (value.toBytes ++ Utf8.encode (writeMembers members)),
      ?_, fun rest => ?_⟩
    · rw [Json.toBytes, write, Utf8.encode_cons_narrow (by decide), encode_member]
      rfl
    · have separated := (readSeparator_toBytes (.inr rfl) (.str key) rfl
        (0x3A :: (value.toBytes ++ (Utf8.encode (writeMembers members) ++ rest)))).1
      -- There are at least as many bytes as members.
      have ample := length_writeMembers members
      simp only [List.append_assoc, List.cons_append]
      rw [readMembers_cons first separated]
      refine later.readMembers ?_ rest
      simp only [List.length_append, List.length_cons]
      omega

end Members

/-! ### Values of any depth -/

theorem takes_ordered {reader : Reader Json} (front : List (String × Json))
    {back : List (String × Json)}
    (ordered : Table.Ordered (front ++ back))
    (each : ∀ member ∈ back, ReadsBack reader member.2 member.2) :
    Takes (fun members key bytes => (readAfterColon reader bytes).map fun found =>
      (Table.put key found.1 members, found.2)) front back (front ++ back) := by
  induction back generalizing front with
  | nil =>
    rw [List.append_nil]
    exact .nil front
  | cons member back ih =>
    obtain ⟨key, value⟩ := member
    have whole : front ++ (key, value) :: back = (front ++ [(key, value)]) ++ back := by simp
    have above : ∀ other ∈ Table.keys front, other < key := by
      intro other member
      rw [Table.Ordered, Table.keys, List.map_append] at ordered
      exact (List.pairwise_append.mp ordered).2.2 other member key List.mem_cons_self
    refine .cons (front ++ [(key, value)]) (fun rest delimited => ?_) ?_
    · rw [readAfterColon_colon, each _ List.mem_cons_self rest delimited]
      simp only [Except.map, Table.put_last above]
    · rw [whole] at ordered ⊢
      exact ih _ ordered fun other member => each other (List.mem_cons_of_mem _ member)

theorem readNumber_toBytes {n : Int} (regular : IsRegular (.int n)) (delimited : Delimited rest) :
    (∃ tail, (Json.int n).toBytes ++ rest = 0x2D :: tail ∧
      readNumber true tail = .ok (.int n, rest)) ∨
    ∃ b tail, (Json.int n).toBytes ++ rest = b :: tail ∧ (digit? b).isSome = true ∧
      readNumber false (b :: tail) = .ok (.int n, rest) := by
  obtain ⟨least, most⟩ := regular
  cases n with
  | ofNat n =>
    obtain ⟨b, tail, written, digit⟩ := toBytes_ofNat n
    have read := readNumber_ofNat (Int.ofNat_lt.mp most) delimited
    have text : Utf8.encode (Nat.toDigits 10 n) = b :: tail := written
    rw [text, List.cons_append] at read
    exact .inr ⟨b, tail ++ rest, by rw [written]; rfl, digit, read⟩
  | negSucc n =>
    refine .inl ⟨Utf8.encode (Nat.toDigits 10 (n + 1)) ++ rest, ?_,
      readNumber_negSucc (by omega) delimited⟩
    rfl

theorem readValue_int {n : Int} (regular : IsRegular (.int n)) (depth : Nat) :
    ReadsBack (readValue depth) (.int n) (.int n) := by
  intro rest delimited
  rcases readNumber_toBytes regular delimited with ⟨tail, text, read⟩ | ⟨b, tail, text, digit, read⟩
  · rw [text, readValue, skipBlanks_start (by decide)]
    exact read
  · obtain ⟨start, others⟩ := start_of_digit digit
    simp only [List.mem_cons, List.not_mem_nil, or_false, not_or] at others
    rw [text, readValue, skipBlanks_start start]
    simp only [others, digit, if_true, if_false]
    exact read

theorem readValue_str (text : String) (depth : Nat) :
    ReadsBack (readValue depth) (.str text) (.str text) := by
  intro rest delimited
  obtain ⟨tail, written, read⟩ := readText_writeText text
  have whole : (Json.str text).toBytes = 0x22 :: tail := written
  rw [whole, List.cons_append, readValue, skipBlanks_start (by decide)]
  exact congrArg (Except.map fun found => (Json.str found.1, found.2)) (read rest)

theorem readValue_arr {items : List Json} {depth : Nat}
    (back : ∀ item ∈ items, ReadsBack (readValue depth) item item)
    (plain : ∀ item ∈ items, item.isFloat = false) :
    ReadsBack (readValue (depth + 1)) (.arr items) (.arr items) := by
  intro rest delimited
  -- The items are gathered with the last one in front.
  have each : ∀ item ∈ items, ∀ done : List Json, ReadsBack (fun bytes =>
      (readValue depth bytes).map fun found => (found.1 :: done, found.2)) item (item :: done) := by
    intro item member done rest delimited
    simp only [back item member rest delimited, Except.map]
  obtain ⟨tail, written, read⟩ := readItems_toBytes each plain
  have gathered : items.foldl (fun done item => item :: done) [] = items.reverse := by simp
  rw [written, List.cons_append, readValue, skipBlanks_start (by decide)]
  refine (congrArg (Except.map fun found => (Json.arr found.1.reverse, found.2)) (read [] rest)).trans ?_
  simp [Except.map, gathered]

theorem readValue_obj {members : List (String × Json)} {depth : Nat}
    (ordered : Table.Ordered members)
    (back : ∀ member ∈ members, ReadsBack (readValue depth) member.2 member.2) :
    ReadsBack (readValue (depth + 1)) (.obj members) (.obj members) := by
  intro rest delimited
  obtain ⟨tail, written, read⟩ := (takes_ordered [] ordered back).toBytes
  rw [written, List.cons_append, readValue, skipBlanks_start (by decide)]
  exact congrArg (Except.map fun found => (Json.obj found.1, found.2)) (read rest)

theorem readValue_toBytes {levels : Nat} (regular : value.Regular) (floatFree : value.FloatFree)
    (fits : value.depth ≤ levels) : ReadsBack (readValue levels) value value := by
  -- What lies within an array or object reads back at one level less.
  induction regular generalizing levels with
  | @intro value here items members ihItems ihMembers =>
    obtain ⟨plain, plainItems, plainMembers⟩ := floatFree
    cases value with
    | null => exact fun rest delimited => by rw [readValue]; rfl
    | bool flag => cases flag <;> exact fun rest delimited => by rw [readValue]; rfl
    | float bits => cases plain
    | int n => exact readValue_int here levels
    | str text => exact readValue_str text levels
    | arr items =>
      rw [depth] at fits
      obtain ⟨levels, rfl⟩ : ∃ less, levels = less + 1 := ⟨levels - 1, by omega⟩
      have within := depthItems_le.mp (Nat.le_of_succ_le_succ fits)
      refine readValue_arr (fun item member => ?_) fun item member => ?_
      · exact ihItems item member (plainItems item member) (within item member)
      · exact FloatFree.isFloat_eq (plainItems item member)
    | obj members =>
      rw [depth] at fits
      obtain ⟨levels, rfl⟩ : ∃ less, levels = less + 1 := ⟨levels - 1, by omega⟩
      have within := depthMembers_le.mp (Nat.le_of_succ_le_succ fits)
      refine readValue_obj here fun member listed => ?_
      exact ihMembers member listed (plainMembers member listed) (within member listed)

end PolicyServer.Json
