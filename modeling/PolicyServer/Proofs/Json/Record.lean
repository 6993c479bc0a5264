import PolicyServer.Json.Wire
import PolicyServer.Proofs.Json.Bounds

/-! Records that are written as objects read back, and whatever is read keeps what its fields keep. -/

namespace PolicyServer.Json

variable {σ : Type}

theorem readInt64_toJson (n : Int64) : ReadsBack readInt64 (toJson n) n := by
  have least : -0x8000000000000000 ≤ n.toInt := n.le_toInt
  have most : n.toInt < 0x8000000000000000 := n.toInt_lt
  intro rest delimited
  have regular : IsRegular (.int n.toInt) := ⟨least, by omega⟩
  have found : readInt64 ((Json.int n.toInt).toBytes ++ rest) =
      (if n.toInt < 0x8000000000000000 then .ok (Int64.ofInt n.toInt, rest)
        else .error .unsuitable) := by
    rcases readNumber_toBytes regular delimited with ⟨tail, text, read⟩ | ⟨b, tail, text, digit, read⟩
    · rw [text, readInt64, skipBlanks_start (by decide)]
      simp [read, bind, Except.bind]
    · obtain ⟨start, others⟩ := start_of_digit digit
      simp only [List.mem_cons, List.not_mem_nil, or_false, not_or] at others
      rw [text, readInt64, skipBlanks_start start]
      simp [others, digit, read, bind, Except.bind]
  rw [if_pos most, Int64.ofInt_toInt] at found
  exact found

/-! ### Records as objects -/

section Objects

variable {fields : List (RecordField σ)} {field : RecordField σ} {seen : List String}
  {record next final : σ} {final' : List String × σ} {value : Json}
  {members : List (String × Json)}

theorem takes_field (key : String) (known : fields.find? (·.name = key) = some field)
    (fresh : key ∉ seen) (back : ReadsBack (field.read record) value next)
    (later : Takes (readField fields) (key :: seen, next) members final') :
    Takes (readField fields) (seen, record) ((key, value) :: members) final' := by
  refine .cons (key :: seen, next) (fun rest delimited => ?_) later
  rw [readField, known]
  simp only [fresh, if_false, readAfterColon_colon, back rest delimited, Except.map]

theorem readRecord_obj {fields : Nat → List (RecordField σ)} {depth : Nat} (seen : List String)
    (takes : Takes (readField (fields depth)) ([], record) members (seen, final))
    (complete : ((fields depth).all fun field => !field.named || field.name ∈ seen) = true) :
    ReadsBack (readRecord (depth + 1) fields record) (.obj members) final := by
  intro rest delimited
  obtain ⟨tail, written, read⟩ := takes.toBytes
  rw [written, List.cons_append, readRecord, skipBlanks_start (by decide)]
  simp only [read, bind, Except.bind]
  simp [complete]

end Objects

/-! ### What records keep -/

theorem skipBlanks_skipBlanks (bytes : Bytes) : skipBlanks (skipBlanks bytes) = skipBlanks bytes := by
  fun_induction skipBlanks bytes with
  | case1 => rfl
  | case2 b rest blank ih => exact ih
  | case3 b rest other => rw [skipBlanks, if_neg other]

theorem readNullable_cases {α : Type} {reader : Reader α} {bytes rest : Bytes} {found : Option α}
    (read : readNullable reader bytes = .ok (found, rest)) :
    found = none ∨ ∃ value tail, found = some value ∧ reader tail = .ok (value, rest) ∧
      ∀ more, skipBlanks tail ≠ 0x6E :: more := by
  unfold readNullable at read
  split at read
  · obtain ⟨word, -, same⟩ := map_eq_ok.mp read
    cases same
    exact .inl rfl
  · rename_i other
    obtain ⟨value, found, same⟩ := map_eq_ok.mp read
    cases same
    refine .inr ⟨value.1, skipBlanks bytes, rfl, found, fun more begun => ?_⟩
    rw [skipBlanks_skipBlanks] at begun
    exact other more begun

section Keeping

variable {P : σ → Prop} {record next : σ} {bytes rest : Bytes}

theorem readField_preserves {fields : List (RecordField σ)}
    (each : ∀ field ∈ fields, Preserves P field.read) (key : String) :
    Preserves (fun state : List String × σ => P state.2) fun state => readField fields state key := by
  intro state bytes next rest before read
  unfold readField at read
  split at read
  · -- A member that the record does not know is passed over.
    obtain ⟨tail, read⟩ := readAfterColon_eq_ok read
    obtain ⟨_, -, same⟩ := map_eq_ok.mp read
    cases same
    exact before
  · rename_i field known
    dsimp only at read
    split at read
    · cases read
    · obtain ⟨found, member, same⟩ := map_eq_ok.mp read
      cases same
      obtain ⟨tail, member⟩ := readAfterColon_eq_ok member
      exact each field (List.mem_of_find?_eq_some known) _ _ _ _ before member

theorem readPositional_preserves {fields : List (RecordField σ)}
    (each : ∀ field ∈ fields, Preserves P field.read) {first : Bool} (before : P record)
    (read : readPositional fields first record bytes = .ok (next, rest)) : P next := by
  induction fields generalizing first record bytes with
  | nil =>
    unfold readPositional at read
    split at read
    · cases read
    · split at read
      · cases read
        exact before
      · cases read
  | cons field fields ih =>
    obtain ⟨separator, -, read⟩ := bind_eq_ok.mp read
    dsimp only at read
    split at read
    · split at read
      · cases read
        exact before
      · cases read
    · obtain ⟨taken, value, read⟩ := bind_eq_ok.mp read
      exact ih (fun other member => each other (List.mem_cons_of_mem _ member))
        (each field List.mem_cons_self _ _ _ _ before value) read

theorem readRecord_preserves {levels : Nat} {fields : Nat → List (RecordField σ)}
    (each : ∀ less, levels = less + 1 → ∀ field ∈ fields less, Preserves P field.read)
    (before : P record) (read : readRecord levels fields record bytes = .ok (next, rest)) :
    P next := by
  unfold readRecord at read
  split at read
  · cases read
  · split at read
    · split at read
      · cases read
      · rename_i less
        split at read
        · exact readPositional_preserves (each less rfl) before read
        · obtain ⟨found, members, read⟩ := bind_eq_ok.mp read
          have kept := Preserves.readMembers (readField_preserves (each less rfl)) before members
          dsimp only at read
          split at read
          · cases read
            exact kept
          · cases read
    · cases read

end Keeping

end PolicyServer.Json
