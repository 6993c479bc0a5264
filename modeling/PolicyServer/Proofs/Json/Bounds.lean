import PolicyServer.Proofs.Json.Value

/-! Whatever is read is regular, and no deeper than the reader may go. -/

namespace PolicyServer.Json

theorem bind_eq_ok {ε α β : Type} {x : Except ε α} {f : α → Except ε β} {result : β} :
    (x >>= f) = .ok result ↔ ∃ a, x = .ok a ∧ f a = .ok result := by
  cases x with
  | error error => simp [bind, Except.bind]
  | ok a => simp [bind, Except.bind]

theorem map_eq_ok {ε α β : Type} {x : Except ε α} {f : α → β} {result : β} :
    x.map f = .ok result ↔ ∃ a, x = .ok a ∧ f a = result := by
  cases x with
  | error error => simp [Except.map]
  | ok a => simp [Except.map]

variable {value : Json} {bytes tail rest : Bytes} {negative : Bool} {depth levels : Nat}
  {s : Significand}

/-! ### Numbers -/

theorem takeDigits_lt (small : s.value < significandLimit) (bytes : Bytes) :
    (takeDigits s bytes).1.value < significandLimit := by
  fun_induction takeDigits s bytes with
  | case1 s => exact small
  | case2 s b rest stop => exact small
  | case3 s b rest d digit fits ih => exact ih fits.2
  | case4 s b rest d digit full ih => exact ih small

def IsNumber (value : Json) : Prop :=
  (∃ n, value = .int n ∧ IsRegular (.int n)) ∨ ∃ bits, value = .float bits

theorem floatOf_isNumber {significand : Nat} {exponent : Int}
    (made : floatOf negative significand exponent = .ok value) : IsNumber value := by
  unfold floatOf at made
  split at made
  · cases made
  · cases made
    exact .inr ⟨_, rfl⟩

theorem readScaled_isNumber {significand : Nat} {exponent : Int}
    (read : readScaled negative significand exponent bytes = .ok (value, rest)) :
    IsNumber value := by
  unfold readScaled at read
  split at read
  · split at read
    · obtain ⟨power, -, read⟩ := bind_eq_ok.mp read
      obtain ⟨found, made, same⟩ := bind_eq_ok.mp read
      cases same
      exact floatOf_isNumber made
    · obtain ⟨found, made, same⟩ := map_eq_ok.mp read
      cases same
      exact floatOf_isNumber made
  · obtain ⟨found, made, same⟩ := map_eq_ok.mp read
    cases same
    exact floatOf_isNumber made

theorem readFraction_isNumber {whole : Significand}
    (read : readFraction negative whole bytes = .ok (value, rest)) : IsNumber value := by
  unfold readFraction at read
  split at read
  · cases read
  · split at read
    · cases read
    · exact readScaled_isNumber read

theorem finish_isNumber (small : s.value < significandLimit)
    (read : readAfterWhole.finish negative s bytes = .ok (value, rest)) : IsNumber value := by
  unfold readAfterWhole.finish at read
  unfold significandLimit at small
  split at read
  · split at read
    · obtain ⟨found, made, same⟩ := map_eq_ok.mp read
      cases same
      exact floatOf_isNumber made
    · cases read
      refine .inl ⟨_, rfl, ?_, ?_⟩ <;> omega
  · cases read
    refine .inl ⟨_, rfl, ?_, ?_⟩ <;> omega

theorem readAfterWhole_isNumber (small : s.value < significandLimit)
    (read : readAfterWhole negative s bytes = .ok (value, rest)) : IsNumber value := by
  unfold readAfterWhole at read
  split at read
  · split at read
    · exact readFraction_isNumber read
    · split at read
      · exact readScaled_isNumber read
      · exact finish_isNumber small read
  · split at read
    · exact readScaled_isNumber read
    · exact finish_isNumber small read

theorem readNumber_isNumber (read : readNumber negative bytes = .ok (value, rest)) :
    IsNumber value := by
  have zero : 0 < significandLimit := by decide
  unfold readNumber at read
  split at read
  · cases read
  · split at read
    · cases read
    · split at read
      · split at read
        · cases read
        · exact readAfterWhole_isNumber zero read
      · exact readAfterWhole_isNumber zero read
    · rename_i b digits _ _ _ _
      have small := takeDigits_lt (s := ⟨0, 0, 0⟩) zero (b :: digits)
      exact readAfterWhole_isNumber small read

/-! ### What is gathered part by part -/

section Gathering

variable {σ : Type} {P : σ → Prop} {state next : σ}

def Preserves (P : σ → Prop) (take : σ → Reader σ) : Prop :=
  ∀ state bytes next rest, P state → take state bytes = .ok (next, rest) → P next

theorem readAfterColon_eq_ok {α : Type} {reader : Reader α} {found : α}
    (read : readAfterColon reader bytes = .ok (found, rest)) :
    ∃ tail, reader tail = .ok (found, rest) := by
  unfold readAfterColon at read
  split at read
  · cases read
  · split at read
    · exact ⟨_, read⟩
    · cases read

theorem Preserves.readItems {take : σ → Reader σ} (each : Preserves P take) {fuel : Nat}
    {first : Bool} (before : P state)
    (read : readItems take fuel first state bytes = .ok (next, rest)) : P next := by
  induction fuel generalizing first state bytes with
  | zero => cases read
  | succ fuel ih =>
    obtain ⟨separator, -, read⟩ := bind_eq_ok.mp read
    dsimp only at read
    split at read
    · cases read
      exact before
    · obtain ⟨taken, item, read⟩ := bind_eq_ok.mp read
      exact ih (each _ _ _ _ before item) read

theorem Preserves.readMembers {take : σ → String → Reader σ}
    (each : ∀ key, Preserves P fun state => take state key) {fuel : Nat} {first : Bool}
    (before : P state) (read : readMembers take fuel first state bytes = .ok (next, rest)) :
    P next := by
  induction fuel generalizing first state bytes with
  | zero => cases read
  | succ fuel ih =>
    obtain ⟨separator, -, read⟩ := bind_eq_ok.mp read
    dsimp only at read
    split at read
    · cases read
      exact before
    · obtain ⟨key, -, read⟩ := bind_eq_ok.mp read
      obtain ⟨taken, member, read⟩ := bind_eq_ok.mp read
      exact ih (each _ _ _ _ _ before member) read

end Gathering

/-! ### Values -/

def Readable (depth : Nat) (bytes : Bytes) (value : Json) (rest : Bytes) : Prop :=
  readValue depth bytes = .ok (value, rest)

/-- What a value is read from, as far as its first byte tells. -/
inductive Reading (depth : Nat) (tail rest : Bytes) : UInt8 → Json → Prop where
  | null (word : readWord [0x75, 0x6C, 0x6C] tail = .ok ((), rest)) : Reading depth tail rest 0x6E .null
  | yes (word : readWord [0x72, 0x75, 0x65] tail = .ok ((), rest)) :
      Reading depth tail rest 0x74 (.bool true)
  | no (word : readWord [0x61, 0x6C, 0x73, 0x65] tail = .ok ((), rest)) :
      Reading depth tail rest 0x66 (.bool false)
  | text {text : String} (read : readText tail = .ok (text, rest)) :
      Reading depth tail rest 0x22 (.str text)
  | number {b : UInt8} {value : Json} (begins : b = 0x2D ∨ (digit? b).isSome = true)
      (read : (if b = 0x2D then readNumber true tail else readNumber false (b :: tail)) =
        .ok (value, rest)) : Reading depth tail rest b value
  | array {less fuel : Nat} {items : List Json} (within : depth = less + 1)
      (read : readItems (fun items bytes => (readValue less bytes).map fun found =>
        (found.1 :: items, found.2)) fuel true [] tail = .ok (items, rest)) :
      Reading depth tail rest 0x5B (.arr items.reverse)
  | object {less fuel : Nat} {members : List (String × Json)} (within : depth = less + 1)
      (read : readMembers (fun members key bytes => (readAfterColon (readValue less) bytes).map
        fun found => (Table.put key found.1 members, found.2)) fuel true [] tail = .ok (members, rest)) :
      Reading depth tail rest 0x7B (.obj members)

theorem Readable.cases (read : Readable depth bytes value rest) :
    ∃ b tail, skipBlanks bytes = b :: tail ∧ Reading depth tail rest b value := by
  unfold Readable at read
  rw [readValue] at read
  split at read
  · cases read
  rename_i b tail begun
  refine ⟨b, tail, begun, ?_⟩
  -- Only a sign and digits leave it open what value there is.
  split at read
  · obtain ⟨found, word, ⟨⟩⟩ := map_eq_ok.mp read
    exact ‹b = _› ▸ .null word
  split at read
  · obtain ⟨found, word, ⟨⟩⟩ := map_eq_ok.mp read
    exact ‹b = _› ▸ .yes word
  split at read
  · obtain ⟨found, word, ⟨⟩⟩ := map_eq_ok.mp read
    exact ‹b = _› ▸ .no word
  split at read
  · obtain ⟨found, text, ⟨⟩⟩ := map_eq_ok.mp read
    exact ‹b = _› ▸ .text text
  split at read
  · rename_i sign
    exact .number (.inl sign) (by rwa [if_pos sign])
  split at read
  · rename_i sign digit
    exact .number (.inr digit) (by rwa [if_neg sign])
  split at read
  · split at read
    · cases read
    · obtain ⟨found, items, ⟨⟩⟩ := map_eq_ok.mp read
      exact ‹b = _› ▸ .array rfl items
  split at read
  · split at read
    · cases read
    · obtain ⟨found, members, ⟨⟩⟩ := map_eq_ok.mp read
      exact ‹b = _› ▸ .object rfl members
  cases read

theorem number_isNumber {b : UInt8}
    (read : (if b = 0x2D then readNumber true tail else readNumber false (b :: tail)) =
      .ok (value, rest)) : IsNumber value := by
  split at read <;> exact readNumber_isNumber read

def Within (levels : Nat) (value : Json) : Prop := value.Regular ∧ value.depth ≤ levels

theorem within_scalar (regular : IsRegular value) (items : value.items = [])
    (members : value.members = []) (flat : value.depth = 0) : value.Within levels := by
  refine ⟨.intro regular ?_ ?_, flat ▸ Nat.zero_le _⟩
  · simp [items]
  · simp [members]

theorem IsNumber.within (number : IsNumber value) : value.Within levels := by
  rcases number with ⟨n, rfl, regular⟩ | ⟨bits, rfl⟩
  · exact within_scalar regular rfl rfl rfl
  · exact within_scalar trivial rfl rfl rfl

theorem within_arr {items : List Json} (each : ∀ item ∈ items, item.Within levels) :
    (Json.arr items).Within (levels + 1) := by
  refine ⟨.intro trivial (fun item member => (each item member).1) (by simp [members]), ?_⟩
  exact Nat.succ_le_succ (depthItems_le.mpr fun item member => (each item member).2)

theorem within_obj {members : List (String × Json)} (ordered : Table.Ordered members)
    (each : ∀ member ∈ members, member.2.Within levels) :
    (Json.obj members).Within (levels + 1) := by
  refine ⟨.intro ordered (by simp [items]) fun member listed => (each member listed).1, ?_⟩
  exact Nat.succ_le_succ (depthMembers_le.mpr fun member listed => (each member listed).2)

theorem readValue_within (read : readValue depth bytes = .ok (value, rest)) : value.Within depth := by
  induction depth using Nat.strongRecOn generalizing value bytes rest with
  | ind levels ih =>
    obtain ⟨b, tail, -, reading⟩ := Readable.cases read
    cases reading with
    | number _ read => exact (number_isNumber read).within
    | @array less _ _ deep gathered =>
      subst deep
      -- Every item that is gathered is in its bounds.
      have each : Preserves (fun items : List Json => ∀ item ∈ items, item.Within less)
          fun items bytes => (readValue less bytes).map fun found => (found.1 :: items, found.2) := by
        intro done bytes next rest before taken
        obtain ⟨found, item, same⟩ := map_eq_ok.mp taken
        cases same
        exact List.forall_mem_cons.mpr ⟨ih less (Nat.lt_succ_self _) item, before⟩
      have all := each.readItems (by simp) gathered
      exact within_arr fun item member => all item (List.mem_reverse.mp member)
    | @object less _ _ deep gathered =>
      subst deep
      -- Every member that is put into the table is in its bounds, and the table stays in order.
      have each : ∀ key, Preserves (fun members : List (String × Json) => Table.Ordered members ∧
          ∀ member ∈ members, member.2.Within less) fun members bytes =>
            (readAfterColon (readValue less) bytes).map fun found =>
              (Table.put key found.1 members, found.2) := by
        intro key done bytes next rest before taken
        obtain ⟨found, value, same⟩ := map_eq_ok.mp taken
        cases same
        refine ⟨before.1.put key found.1, fun member listed => ?_⟩
        rcases Table.mem_of_mem_put listed with rfl | there
        · obtain ⟨from', value⟩ := readAfterColon_eq_ok value
          exact ih less (Nat.lt_succ_self _) value
        · exact before.2 member there
      have none : Table.Ordered ([] : List (String × Json)) := .nil
      obtain ⟨ordered, all⟩ := Preserves.readMembers each ⟨none, by simp⟩ gathered
      exact within_obj ordered all
    | _ => exact within_scalar trivial rfl rfl rfl

theorem readValue_ne_null (read : readValue depth bytes = .ok (value, rest))
    (other : ∀ tail, skipBlanks bytes ≠ 0x6E :: tail) : value ≠ .null := by
  obtain ⟨b, tail, begun, reading⟩ := Readable.cases read
  cases reading with
  | null => exact absurd begun (other tail)
  | number _ read => rcases number_isNumber read with ⟨n, rfl, -⟩ | ⟨bits, rfl⟩ <;> exact Json.noConfusion
  | _ => exact Json.noConfusion

end PolicyServer.Json
