import PolicyServer.Proofs.Json.Record

/-! The grammar of JSON texts, as a relation between what stands before and after a value. Whatever has
the form of a value is passed over, to the byte where it ends. -/

namespace PolicyServer.Json

variable {bytes tail mid next rest text : Bytes}

/-- Blanks, and then the rest. -/
inductive Blanks : Bytes → Bytes → Prop where
  | none (rest : Bytes) : Blanks rest rest
  | more {b : UInt8} {bytes rest : Bytes} (blank : b = 0x20 ∨ b = 0x0A ∨ b = 0x0D ∨ b = 0x09)
      (further : Blanks bytes rest) : Blanks (b :: bytes) rest

/-- The letters of a string up to its closing mark. Units of four digits need not make a character. -/
inductive Letters : Bytes → Bytes → Prop where
  | closes (rest : Bytes) : Letters (0x22 :: rest) rest
  | plain {b : UInt8} {bytes rest : Bytes} (quote : b ≠ 0x22) (escape : b ≠ 0x5C) (printed : 0x20 ≤ b)
      (further : Letters bytes rest) : Letters (b :: bytes) rest
  | short {b : UInt8} {bytes rest : Bytes} (letter : b ∈ [0x22, 0x5C, 0x2F, 0x62, 0x66, 0x6E, 0x72, 0x74])
      (further : Letters bytes rest) : Letters (0x5C :: b :: bytes) rest
  | unit {a b c d : UInt8} {bytes rest : Bytes}
      (digits : ∀ digit ∈ [a, b, c, d], (hexDigit? digit).isSome = true)
      (further : Letters bytes rest) : Letters (0x5C :: 0x75 :: a :: b :: c :: d :: bytes) rest

def Digits (text : Bytes) : Prop := text ≠ [] ∧ ∀ b ∈ text, (digit? b).isSome = true

/-- Digits before a point; a zero stands alone. -/
inductive Whole : Bytes → Prop where
  | zero : Whole [0x30]
  | more {b : UInt8} {text : Bytes} (first : b ≠ 0x30) (digits : Digits (b :: text)) : Whole (b :: text)

/-- A point and digits, or nothing. -/
inductive Fraction : Bytes → Prop where
  | none : Fraction []
  | some {text : Bytes} (digits : Digits text) : Fraction (0x2E :: text)

/-- A mark, a sign or none and digits, or nothing. -/
inductive Exponent : Bytes → Prop where
  | none : Exponent []
  | some {b : UInt8} {sign text : Bytes} (mark : isExponentMark b = true)
      (signed : sign = [] ∨ sign = [0x2B] ∨ sign = [0x2D]) (digits : Digits text) :
    Exponent (b :: (sign ++ text))

def Ends (rest : Bytes) : Prop :=
  ∀ b ∈ rest.head?, (digit? b).isSome = false ∧ b ≠ 0x2E ∧ isExponentMark b = false

/-- What stands before a value inside an array or object: nothing, or a key and its colon. -/
inductive Label : UInt8 → Bytes → Bytes → Prop where
  | item (rest : Bytes) : Label 0x5D rest rest
  | key {bytes tail mid rest : Bytes} (opens : Blanks bytes (0x22 :: tail)) (letters : Letters tail mid)
      (colon : Blanks mid (0x3A :: rest)) : Label 0x7D bytes rest

/-- What has a form: a value, or what is left of an array or object that is closed by the mark. -/
inductive Part where
  | value
  | inside (close : UInt8) (first : Bool)

/-- The form of JSON texts: that part stands at the front of the bytes, and the rest follows it. -/
inductive Form : Part → Bytes → Bytes → Prop where
  | word {bytes text rest : Bytes} (blanks : Blanks bytes (text ++ rest))
      (word : text ∈ [[0x6E, 0x75, 0x6C, 0x6C], [0x74, 0x72, 0x75, 0x65],
        [0x66, 0x61, 0x6C, 0x73, 0x65]]) : Form .value bytes rest
  | text {bytes tail rest : Bytes} (blanks : Blanks bytes (0x22 :: tail))
      (letters : Letters tail rest) : Form .value bytes rest
  | number {bytes rest : Bytes} (sign whole fraction exponent : Bytes)
      (blanks : Blanks bytes (sign ++ (whole ++ (fraction ++ (exponent ++ rest)))))
      (signed : sign = [] ∨ sign = [0x2D]) (before : Whole whole) (after : Fraction fraction)
      (scaled : Exponent exponent) (ends : Ends rest) : Form .value bytes rest
  | nested {opens close : UInt8} {bytes tail rest : Bytes} (blanks : Blanks bytes (opens :: tail))
      (marks : opens = 0x5B ∧ close = 0x5D ∨ opens = 0x7B ∧ close = 0x7D)
      (inside : Form (.inside close true) tail rest) : Form .value bytes rest
  | closes {close : UInt8} {first : Bool} {bytes rest : Bytes} (blanks : Blanks bytes (close :: rest))
      (closing : IsClose close) : Form (.inside close first) bytes rest
  | first {close : UInt8} {bytes mid next rest : Bytes} (label : Label close bytes mid)
      (value : Form .value mid next) (further : Form (.inside close false) next rest) :
    Form (.inside close true) bytes rest
  | later {close : UInt8} {bytes tail mid next rest : Bytes} (comma : Blanks bytes (0x2C :: tail))
      (label : Label close tail mid) (value : Form .value mid next)
      (further : Form (.inside close false) next rest) : Form (.inside close false) bytes rest

/-! ### Blanks and strings -/

theorem Blanks.skip (blanks : Blanks bytes rest) : skipBlanks bytes = skipBlanks rest := by
  induction blanks with
  | none => rfl
  | more blank _ ih => rw [skipBlanks, if_pos blank, ih]

theorem Blanks.length_le (blanks : Blanks bytes rest) : rest.length ≤ bytes.length := by
  induction blanks with
  | none => exact Nat.le_refl _
  | more _ _ ih => exact Nat.le_succ_of_le ih

theorem Blanks.skip_start {b : UInt8} (blanks : Blanks bytes (b :: rest)) (start : IsStart b) :
    skipBlanks bytes = b :: rest := by
  rw [blanks.skip, skipBlanks_start start]

theorem Blanks.skip_close {b : UInt8} (blanks : Blanks bytes (b :: rest)) (closing : IsClose b) :
    skipBlanks bytes = b :: rest := by
  rw [blanks.skip]
  rcases closing with rfl | rfl <;> rfl

theorem Letters.length_lt (letters : Letters bytes rest) : rest.length < bytes.length := by
  induction letters with
  | closes => exact Nat.lt_succ_self _
  | plain _ _ _ _ ih => exact Nat.lt_succ_of_lt ih
  | short _ _ ih =>
    simp only [List.length_cons]
    omega
  | unit _ _ ih =>
    simp only [List.length_cons]
    omega

theorem Letters.skip (letters : Letters bytes rest) {fuel : Nat} (ample : bytes.length < fuel) :
    skipText fuel bytes = .ok rest := by
  induction letters generalizing fuel with
  | closes =>
    obtain ⟨fuel, rfl⟩ : ∃ less, fuel = less + 1 := ⟨fuel - 1, by omega⟩
    rfl
  | plain quote escape printed _ ih =>
    obtain ⟨fuel, rfl⟩ : ∃ less, fuel = less + 1 := ⟨fuel - 1, by omega⟩
    simp only [skipText, quote, escape, UInt8.not_lt.mpr printed, if_false]
    exact ih (by simpa using ample)
  | @short b _ _ letter _ ih =>
    obtain ⟨fuel, rfl⟩ : ∃ less, fuel = less + 1 := ⟨fuel - 1, by omega⟩
    have other : b ≠ 0x75 := by
      rintro rfl
      exact absurd letter (by decide)
    simp only [List.length_cons] at ample
    rw [skipText, if_neg (by decide), if_pos rfl]
    simp only [other, if_false, letter, if_true]
    exact ih (by omega)
  | @unit a b c d _ _ digits _ ih =>
    obtain ⟨fuel, rfl⟩ : ∃ less, fuel = less + 1 := ⟨fuel - 1, by omega⟩
    simp only [List.mem_cons, List.not_mem_nil, or_false, forall_eq_or_imp, forall_eq,
      Option.isSome_iff_exists] at digits
    obtain ⟨⟨_, a⟩, ⟨_, b⟩, ⟨_, c⟩, ⟨_, d⟩⟩ := digits
    simp only [List.length_cons] at ample
    rw [skipText, if_neg (by decide), if_pos rfl]
    simp only [if_true, readHex, a, b, c, d]
    exact ih (by omega)

/-! ### Numbers -/

theorem skipDigits_append (all : ∀ b ∈ text, (digit? b).isSome = true)
    (ends : ∀ b ∈ rest.head?, (digit? b).isSome = false) : skipDigits (text ++ rest) = rest := by
  induction text with
  | nil =>
    cases rest with
    | nil => rfl
    | cons b rest => simp [skipDigits, ends b rfl]
  | cons b text ih =>
    rw [List.cons_append, skipDigits, if_pos (all b List.mem_cons_self)]
    exact ih fun other member => all other (List.mem_cons_of_mem _ member)

theorem Digits.skip (digits : Digits text) (ends : ∀ b ∈ rest.head?, (digit? b).isSome = false) :
    skipSomeDigits (text ++ rest) = .ok rest := by
  obtain ⟨some, all⟩ := digits
  cases text with
  | nil => exact absurd rfl some
  | cons b text =>
    rw [List.cons_append, skipSomeDigits, if_pos (all b List.mem_cons_self),
      skipDigits_append (fun other member => all other (List.mem_cons_of_mem _ member)) ends]

theorem Exponent.skip (scaled : Exponent text) (ends : Ends rest) :
    skipExponent (text ++ rest) = .ok rest := by
  have last : ∀ b ∈ rest.head?, (digit? b).isSome = false := fun b head => (ends b head).1
  cases scaled with
  | none =>
    cases rest with
    | nil => rfl
    | cons b rest => simp [skipExponent, (ends b rfl).2.2]
  | @some b sign text mark signed digits =>
    have passed := digits.skip last
    simp only [List.cons_append, skipExponent, mark, if_true]
    rcases signed with rfl | rfl | rfl
    · -- The first digit is no sign.
      cases text with
      | nil => exact absurd rfl digits.1
      | cons d text =>
        have digit := digits.2 d List.mem_cons_self
        have plain : ¬ (d = 0x2B ∨ d = 0x2D) := by
          rintro (rfl | rfl) <;> exact absurd digit (by decide)
        simp only [List.nil_append, List.cons_append, plain, if_false]
        exact passed
    · exact passed
    · exact passed

theorem ends_of_parts {fraction exponent : Bytes} (after : Fraction fraction)
    (scaled : Exponent exponent) (ends : Ends rest) :
    ∀ b ∈ (fraction ++ (exponent ++ rest)).head?, (digit? b).isSome = false := by
  intro b head
  cases after with
  | some => cases head; rfl
  | none =>
    cases scaled with
    | none => exact (ends b head).1
    | some mark =>
      cases head
      simp only [isExponentMark, Bool.or_eq_true, beq_iff_eq] at mark
      rcases mark with rfl | rfl <;> rfl

theorem skipNumber_whole {whole left : Bytes} (before : Whole whole)
    (stop : ∀ b ∈ left.head?, (digit? b).isSome = false) :
    skipNumber (whole ++ left) = skipNumber (0x30 :: left) := by
  cases before with
  | zero => rfl
  | @more b text first digits =>
    have begun : skipSomeDigits (b :: (text ++ left)) = .ok left := digits.skip stop
    conv =>
      lhs
      unfold skipNumber
    split
    · rename_i begins
      exact absurd (List.cons.inj begins).1 first
    · rw [List.cons_append, begun]
      cases left with
      | nil => rfl
      | cons c left => simp only [skipNumber, stop c rfl, Bool.false_eq_true, if_false]

theorem skipNumber_of_parts {whole fraction exponent : Bytes} (before : Whole whole)
    (after : Fraction fraction) (scaled : Exponent exponent) (ends : Ends rest) :
    skipNumber (whole ++ (fraction ++ (exponent ++ rest))) = .ok rest := by
  have stop := ends_of_parts after scaled ends
  have passed := scaled.skip ends
  rw [skipNumber_whole before stop]
  cases after with
  | some digits =>
    have last : ∀ b ∈ (exponent ++ rest).head?, (digit? b).isSome = false :=
      ends_of_parts .none scaled ends
    rw [List.cons_append] at stop ⊢
    simp only [skipNumber, stop 0x2E rfl, Bool.false_eq_true, if_false, bind, Except.bind,
      digits.skip last]
    exact passed
  | none =>
    -- A point begins neither an exponent nor what follows a number.
    have pointless : ∀ tail, exponent ++ rest ≠ 0x2E :: tail := by
      intro tail begun
      cases scaled with
      | none => exact absurd rfl (ends 0x2E (by rw [← List.nil_append rest, begun]; rfl)).2.1
      | some mark =>
        cases begun
        exact absurd mark (by decide)
    rw [List.nil_append] at stop ⊢
    generalize exponent ++ rest = left at stop passed pointless ⊢
    cases left with
    | nil => exact passed
    | cons c left =>
      simp only [skipNumber, stop c rfl, Bool.false_eq_true, if_false, bind, Except.bind]
      exact passed

/-! ### Values -/

theorem Form.start (form : Form .value bytes rest) :
    ∃ b tail, skipBlanks bytes = b :: tail ∧ IsStart b := by
  cases form with
  | word blanks word =>
    simp only [List.mem_cons, List.not_mem_nil, or_false] at word
    rcases word with rfl | rfl | rfl <;> exact ⟨_, _, blanks.skip_start (by decide), by decide⟩
  | text blanks => exact ⟨_, _, blanks.skip_start (by decide), by decide⟩
  | number sign whole fraction exponent blanks signed before =>
    rcases signed with rfl | rfl
    · cases before with
      | zero => exact ⟨_, _, blanks.skip_start (by decide), by decide⟩
      | @more b _ _ digits =>
        have start := (start_of_digit (digits.2 b List.mem_cons_self)).1
        exact ⟨_, _, blanks.skip_start start, start⟩
    · exact ⟨_, _, blanks.skip_start (by decide), by decide⟩
  | nested blanks marks =>
    rcases marks with ⟨rfl, -⟩ | ⟨rfl, -⟩ <;> exact ⟨_, _, blanks.skip_start (by decide), by decide⟩

theorem skipInside_blanks (fuel : Nat) (owed bytes : Bytes) :
    skipInside fuel .value owed (skipBlanks bytes) = skipInside fuel .value owed bytes := by
  cases fuel with
  | zero => rfl
  | succ fuel => simp only [skipInside, skipBlanks_skipBlanks]

theorem skipKey_of_label (label : Label 0x7D bytes rest) : skipKey bytes = .ok rest := by
  cases label with
  | key opens letters colon =>
    rw [skipKey, opens.skip_start (by decide)]
    simp [letters.skip (Nat.lt_succ_self _), colon.skip_start (by decide), bind, Except.bind]

theorem Label.length_le {close : UInt8} (label : Label close bytes rest) :
    rest.length ≤ bytes.length := by
  cases label with
  | item => exact Nat.le_refl _
  | key opens letters colon =>
    have before := opens.length_le
    have within := letters.length_lt
    have after := colon.length_le
    simp only [List.length_cons] at before after
    omega

/-- How a part is passed over: in so many steps, two for each byte at most, whatever else is owed. -/
def Passes : Part → Bytes → Bytes → Prop
  | .value, bytes, rest => ∃ steps, steps + 2 * rest.length < 2 * bytes.length ∧
    ∀ fuel owed, skipInside (fuel + steps) .value owed bytes = skipInside fuel .after owed rest
  | .inside close first, bytes, rest => ∃ steps, steps + 2 * rest.length ≤ 2 * bytes.length ∧
    ∀ fuel owed, skipInside (fuel + steps) (if first then .opened else .after) (close :: owed) bytes =
      skipInside fuel .after owed rest

theorem Passes.of_step (shorter : rest.length < bytes.length)
    (step : ∀ fuel owed, skipInside (fuel + 1) .value owed bytes = skipInside fuel .after owed rest) :
    Passes .value bytes rest :=
  ⟨1, by omega, step⟩

theorem Passes.of_label {close : UInt8} {first : Bool} (value : Passes .value mid next)
    (further : Passes (.inside close false) next rest) (shorter : mid.length ≤ bytes.length)
    (step : ∀ fuel owed, skipInside (fuel + 1) (if first then .opened else .after) (close :: owed)
      bytes = skipInside fuel .value (close :: owed) mid) :
    Passes (.inside close first) bytes rest := by
  obtain ⟨before, fewer, passed⟩ := value
  obtain ⟨after, fewer', passed'⟩ := further
  refine ⟨after + before + 1, by omega, fun fuel owed => ?_⟩
  have first := step (fuel + (after + before)) owed
  rw [← Nat.add_assoc] at first
  rw [← Nat.add_assoc, ← Nat.add_assoc, first, passed]
  exact passed' fuel owed

theorem Form.passes {part : Part} (form : Form part bytes rest) : Passes part bytes rest := by
  induction form with
  | word blanks word =>
    have shorter := blanks.length_le
    simp only [List.mem_cons, List.not_mem_nil, or_false] at word
    rcases word with rfl | rfl | rfl
    all_goals
      refine .of_step (by simp at shorter; omega) fun fuel owed => ?_
      rw [skipInside, blanks.skip_start (by decide)]
      simp [readWord, Except.map]
  | text blanks letters =>
    have before := blanks.length_le
    have within := letters.length_lt
    simp only [List.length_cons] at before
    refine .of_step (by omega) fun fuel owed => ?_
    rw [skipInside, blanks.skip_start (by decide)]
    simp [letters.skip (Nat.lt_succ_self _)]
  | number sign whole fraction exponent blanks signed before after scaled ends =>
    have passed := skipNumber_of_parts before after scaled ends
    have shorter := blanks.length_le
    simp only [List.length_append] at shorter
    rcases signed with rfl | rfl
    · -- Without a sign a number begins with a digit.
      obtain ⟨b, tail, begins, digit⟩ : ∃ b tail, whole = b :: tail ∧ (digit? b).isSome = true := by
        cases before with
        | zero => exact ⟨_, _, rfl, rfl⟩
        | more _ digits => exact ⟨_, _, rfl, digits.2 _ List.mem_cons_self⟩
      subst begins
      obtain ⟨start, others⟩ := start_of_digit digit
      have square : b ≠ 0x5B := by rintro rfl; exact absurd digit (by decide)
      have curly : b ≠ 0x7B := by rintro rfl; exact absurd digit (by decide)
      simp only [List.mem_cons, List.not_mem_nil, or_false, not_or] at others
      simp only [List.length_cons] at shorter
      refine .of_step (by omega) fun fuel owed => ?_
      rw [List.nil_append, List.cons_append] at blanks
      rw [List.cons_append] at passed
      rw [skipInside, blanks.skip_start start]
      simp only [square, curly, others, digit, if_false, if_true, passed]
    · refine .of_step (by simp at shorter; omega) fun fuel owed => ?_
      rw [skipInside, blanks.skip_start (by decide)]
      simp [passed]
  | nested blanks marks _ ih =>
    obtain ⟨steps, fewer, passed⟩ := ih
    have shorter := blanks.length_le
    simp only [List.length_cons] at shorter
    refine ⟨steps + 1, by omega, fun fuel owed => ?_⟩
    rcases marks with ⟨rfl, rfl⟩ | ⟨rfl, rfl⟩
    all_goals
      rw [← Nat.add_assoc, skipInside, blanks.skip_start (by decide)]
      simpa using passed fuel owed
  | @closes close first bytes rest blanks closing =>
    have shorter := blanks.length_le
    simp only [List.length_cons] at shorter
    refine ⟨1, by omega, fun fuel owed => ?_⟩
    cases first <;> simp [skipInside, blanks.skip_close closing]
  | @first close bytes mid next rest label value _ before after =>
    refine before.of_label after label.length_le fun fuel owed => ?_
    cases label with
    | item =>
      obtain ⟨b, tail, begun, start⟩ := value.start
      have apart : b ≠ 0x5D := by rintro rfl; exact absurd start (by decide)
      have same := skipInside_blanks fuel (0x5D :: owed) bytes
      simpa [skipInside, begun, apart, Except.bind] using same
    | key opens letters colon =>
      have passed := skipKey_of_label (.key opens letters colon)
      have begun := opens.skip_start (by decide)
      have same : skipKey (skipBlanks bytes) = skipKey bytes := by
        simp only [skipKey, skipBlanks_skipBlanks]
      rw [passed, begun] at same
      simp [skipInside, begun, same, Except.bind]
  | @later close bytes tail mid next rest comma label value _ before after =>
    have shorter := comma.length_le
    have within := label.length_le
    simp only [List.length_cons] at shorter
    refine before.of_label after (by omega) fun fuel owed => ?_
    have begun := comma.skip_start (by decide)
    cases label with
    | item => simp [skipInside, begun, Except.bind]
    | key opens letters colon =>
      have passed := skipKey_of_label (.key opens letters colon)
      simp [skipInside, begun, passed, Except.bind]

theorem Form.skipValue (form : Form .value bytes rest) : skipValue bytes = .ok rest := by
  obtain ⟨steps, fewer, passed⟩ := form.passes
  obtain ⟨fuel, spare⟩ : ∃ fuel, 2 * bytes.length + 2 = (fuel + 1) + steps :=
    ⟨2 * bytes.length + 1 - steps, by omega⟩
  rw [Json.skipValue, spare, passed]
  rfl

end PolicyServer.Json
