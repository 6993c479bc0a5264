import PolicyServer.Analysis.Correlate
import PolicyServer.Fix.QuickFix
import PolicyServer.Proofs.Document.Lines
import PolicyServer.Proofs.Json.Layout
import PolicyServer.Proofs.Source.Captures

/-!
What the edit of a quick fix does to the source that its declaration was found in.

Declarations are found by line feeds and bytes, and editors count lines and code units. An edit replaces
its declaration, and nothing else, just where both ways to count come to the same.
-/

namespace PolicyServer

def Position.place? (position : Position) (text : List Char) : Option Nat :=
  Editor.place? position.line.toNat position.character.toNat text

/-- A position is the one between two parts of a text, to an editor. -/
def Position.Marks (position : Position) (front back : List Char) : Prop :=
  Editor.breaks front back = position.line.toNat ∧
    Editor.Meets (Editor.units (Editor.openLine front)) position.character.toNat back

def TextEdit.outcome? (edit : TextEdit) (text : String) : Option String := do
  let start ← edit.range.start.place? text.toList
  let stop ← edit.range.stop.place? text.toList
  if start ≤ stop then
    some (String.ofList (text.toList.take start ++ edit.newText.toList ++ text.toList.drop stop))
  else none

/-- Whatever text is put into a range takes the place of what stands between two parts of a text, and
nothing else changes. -/
def Range.Replaces (range : Range) (front middle back : String) : Prop :=
  ∀ text, TextEdit.outcome? ⟨range, text⟩ (front ++ middle ++ back) = some (front ++ text ++ back)

variable {front middle back : String}

theorem TextEdit.outcome?_of_places {edit : TextEdit} {text : String} {start stop : Nat}
    (first : edit.range.start.place? text.toList = some start)
    (last : edit.range.stop.place? text.toList = some stop) (forward : start ≤ stop) :
    edit.outcome? text = some (String.ofList
      (text.toList.take start ++ edit.newText.toList ++ text.toList.drop stop)) := by
  simp [TextEdit.outcome?, first, last, forward]

theorem TextEdit.places_of_outcome? {edit : TextEdit} {text result : String}
    (made : edit.outcome? text = some result) :
    ∃ start stop, edit.range.start.place? text.toList = some start ∧
      edit.range.stop.place? text.toList = some stop ∧ result.toList =
        text.toList.take start ++ edit.newText.toList ++ text.toList.drop stop := by
  simp only [TextEdit.outcome?, Option.bind_eq_bind, Option.bind_eq_some_iff,
    Option.ite_none_right_eq_some, Option.some.injEq] at made
  obtain ⟨start, first, stop, last, -, rfl⟩ := made
  exact ⟨start, stop, first, last, String.toList_ofList⟩

theorem length_eq_of_insert {before after front back : List Char}
    (same : ∀ c, before ++ c :: after = front ++ c :: back) : before.length = front.length := by
  -- Where one is longer, it has a character of its own at which the other one has any.
  have read (c : Char) (place : Nat) := congrArg (·[place]?) (same c)
  rcases Nat.lt_trichotomy before.length front.length with shorter | equal | longer
  · have a := read 'a' before.length
    have b := read 'b' before.length
    simp [List.getElem?_append_left, shorter] at a b
    exact absurd (a.trans b.symm) (by decide)
  · exact equal
  · have a := read 'a' front.length
    have b := read 'b' front.length
    simp [List.getElem?_append_left, longer] at a b
    exact absurd (a.symm.trans b) (by decide)

theorem Range.replaces_iff_places {range : Range} :
    range.Replaces front middle back ↔
      range.start.place? (front ++ middle ++ back).toList = some front.toList.length ∧
        range.stop.place? (front ++ middle ++ back).toList = some (front ++ middle).toList.length := by
  constructor
  · intro replaces
    obtain ⟨start, stop, first, last, -⟩ := TextEdit.places_of_outcome? (replaces "")
    -- The positions are found in the source, whatever is put between them.
    have inserted (c : Char) :
        (front ++ middle ++ back).toList.take start ++ c :: (front ++ middle ++ back).toList.drop stop =
          front.toList ++ c :: back.toList := by
      obtain ⟨start', stop', first', last', made⟩ :=
        TextEdit.places_of_outcome? (replaces (String.singleton c))
      cases first.symm.trans first'
      cases last.symm.trans last'
      simpa using made.symm
    -- So what is kept before and behind them has the lengths of the two parts.
    have within := (Editor.breaks_of_place? first).1
    have within' := (Editor.breaks_of_place? last).1
    have starts := length_eq_of_insert inserted
    have whole := congrArg List.length (inserted 'a')
    simp only [List.length_append, List.length_cons, List.length_take, List.length_drop,
      String.toList_append] at starts whole within within'
    have start_eq : start = front.toList.length := by omega
    have stop_eq : stop = (front ++ middle).toList.length := by
      rw [String.toList_append, List.length_append]
      omega
    rw [first, last, start_eq, stop_eq]
    exact ⟨rfl, rfl⟩
  · rintro ⟨first, last⟩ text
    have forward : front.toList.length ≤ (front ++ middle).toList.length := by simp
    rw [TextEdit.outcome?_of_places first last forward]
    have taken : (front ++ middle ++ back).toList.take front.toList.length = front.toList := by
      simp only [String.toList_append, List.append_assoc, List.take_left]
    have dropped : (front ++ middle ++ back).toList.drop (front ++ middle).toList.length =
        back.toList := by
      simp only [String.toList_append, List.drop_left]
    rw [taken, dropped, ← String.toList_append, ← String.toList_append, String.ofList_toList]

theorem Source.capture_stands {source : String} {captures : List Capture} {capture : Capture}
    (extracted : extract (Bytes.ofText source) = .ok captures) (member : capture ∈ captures) :
    ∃ front back : String, source = front ++ capture.text ++ back ∧
      capture.text.toList.head? = some 'n' ∧ capture.text.toList.getLast? = some ')' ∧
      capture.start = pointAfter front.toList ∧
      capture.stop = pointAfter (front ++ capture.text).toList := by
  obtain ⟨front, middle, back, divided, text, opens, closes, start, stop⟩ :=
    capture_divides (mem_of_extract extracted member)
  have text : capture.text.toList = middle := by rw [text, String.toList_ofList]
  refine ⟨String.ofList front, String.ofList back, ?_, ?_, ?_, ?_, ?_⟩
  · apply String.toList_inj.mp
    simp [text, divided]
  · rw [text, opens]
  · rw [text, closes]
  · rw [String.toList_ofList, start]
  · rw [String.toList_append, String.toList_ofList, text, stop]

/-- No carriage return stands alone up to the end of a stretch, the line that it begins in has only
characters of one byte before it, and so has the line that it ends in, unless that line ends there too. -/
def CountsAgree (front middle back : String) : Prop :=
  Editor.Paired (front ++ middle).toList ∧
    (∀ c ∈ Utf8.lastLine front.toList, c.toNat < 128) ∧
    ((∀ c ∈ Utf8.lastLine (front ++ middle).toList, c.toNat < 128) ∨ Editor.AtEnd back.toList)

theorem Position.place?_iff {position : Position} {front back : List Char}
    (seam : Editor.Seam front back) :
    position.place? (front ++ back) = some front.length ↔ position.Marks front back :=
  Editor.place?_eq_length_iff seam

theorem Source.place?_pointAfter {front back : List Char} (seam : Editor.Seam front back)
    (small : (Utf8.encode front).length < 2 ^ 32) :
    (pointAfter front).toPosition.place? (front ++ back) = some front.length ↔
      Editor.Paired front ∧
        ((∀ c ∈ Utf8.lastLine front, c.toNat < 128) ∨ Editor.AtEnd back) := by
  have rows : front.count '\n' < 2 ^ 32 := by
    rw [← Utf8.count_encode]
    exact Nat.lt_of_le_of_lt List.count_le_length small
  have columns : (Utf8.encode (Utf8.lastLine front)).length < 2 ^ 32 := by
    rw [← Utf8.lastLine_encode]
    refine Nat.lt_of_le_of_lt (List.takeWhile_prefix _).length_le ?_
    rw [List.length_reverse]
    exact small
  have row : (pointAfter front).toPosition.line.toNat = front.count '\n' := toNat_capped rows
  have column : (pointAfter front).toPosition.character.toNat =
      (Utf8.encode (Utf8.lastLine front)).length := toNat_capped columns
  rw [← Editor.place?_bytes_iff seam, Position.place?, row, column]

theorem QuickFix.task_of_diagnostic {uri : DocumentUri} {row : UInt32} {capture : Capture}
    {violation : Violation} {action : CodeAction} {shown : Diagnostic}
    (chosen : action.data = (Findings.diagnostic uri row (some capture) violation).data)
    (single : action.diagnostics = some [shown]) :
    QuickFix.task action = .ok ⟨capture, uri, shown.message⟩ := by
  have target := restores_fixTarget ⟨some capture, uri⟩
  simp only [QuickFix.task, chosen, Findings.diagnostic, target, single]

theorem QuickFix.offer?_data {diagnostic : Diagnostic} {action : CodeAction}
    (offered : QuickFix.offer? diagnostic = some action) :
    action.data = diagnostic.data ∧ action.diagnostics = some [diagnostic] := by
  obtain ⟨_, -, same⟩ := Option.bind_eq_some_iff.mp offered
  cases same
  exact ⟨rfl, rfl⟩

/-- The edit of a quick fix is on the declaration that its diagnostic is on, which stands in the source as
it was found. It replaces that declaration by the text given, and nothing else, just if the editor has as
many lines and code units before both ends as line feeds and bytes were counted. In a source of fewer than
`2 ^ 32` bytes this is so just if no carriage return stands alone up to its end and no character of more
bytes stands before either end in its line, save where that line ends with the declaration. -/
theorem edit_replaces_declaration_iff {source : String} {captures : List Capture} {capture : Capture}
    {uri : DocumentUri} {row : UInt32} {violation : Violation} {action : CodeAction} {shown : Diagnostic}
    (extracted : Source.extract (Bytes.ofText source) = .ok captures) (member : capture ∈ captures)
    (chosen : action.data = (Findings.diagnostic uri row (some capture) violation).data)
    (single : action.diagnostics = some [shown]) :
    ∃ front back : String, source = front ++ capture.text ++ back ∧
      capture.start = Source.pointAfter front.toList ∧
      capture.stop = Source.pointAfter (front ++ capture.text).toList ∧
      (∃ task, QuickFix.task action = .ok task ∧ ∀ text,
        QuickFix.conclude action task (.ok (some text)) =
          .ok { action with edit := some ⟨[(uri.text, [⟨capture.range, text⟩])]⟩ }) ∧
      (capture.range.Replaces front capture.text back ↔
        capture.range.start.Marks front.toList (capture.text ++ back).toList ∧
          capture.range.stop.Marks (front ++ capture.text).toList back.toList) ∧
      ((Bytes.ofText source).length < 2 ^ 32 →
        (capture.range.Replaces front capture.text back ↔ CountsAgree front capture.text back)) := by
  obtain ⟨front, back, divided, opens, closes, start, stop⟩ := Source.capture_stands extracted member
  -- Neither end of the declaration is within the end of a line.
  have head : (capture.text ++ back).toList.head? = some 'n' := by
    rw [String.toList_append, List.head?_append, opens]
    rfl
  have last : (front ++ capture.text).toList.getLast? = some ')' := by
    rw [String.toList_append, List.getLast?_append, closes]
    rfl
  have seam : Editor.Seam front.toList (capture.text ++ back).toList := fun _ => by
    rw [head]
    decide
  have seam' : Editor.Seam (front ++ capture.text).toList back.toList := fun turn => by
    rw [last] at turn
    exact absurd turn (by decide)
  have places : capture.range.Replaces front capture.text back ↔
      capture.start.toPosition.place? (front.toList ++ (capture.text ++ back).toList) =
          some front.toList.length ∧
        capture.stop.toPosition.place? ((front ++ capture.text).toList ++ back.toList) =
          some (front ++ capture.text).toList.length := by
    rw [Range.replaces_iff_places]
    simp only [String.toList_append, List.append_assoc]
    rfl
  refine ⟨front, back, divided, start, stop, ⟨_, QuickFix.task_of_diagnostic chosen single,
    fun text => rfl⟩, ?_, fun small => ?_⟩
  · rw [places, Position.place?_iff seam, Position.place?_iff seam']
    rfl
  · rw [Bytes.ofText, divided, String.toList_append, Utf8.encode_append, List.length_append] at small
    have small' : (Utf8.encode (front ++ capture.text).toList).length < 2 ^ 32 := by omega
    have small : (Utf8.encode front.toList).length < 2 ^ 32 := by
      rw [String.toList_append, Utf8.encode_append, List.length_append] at small'
      omega
    have goesOn : ¬ Editor.AtEnd (capture.text ++ back).toList := fun all =>
      absurd (all 'n' head) (by decide)
    -- What is paired up to the end of the declaration is paired up to its beginning.
    have sooner (paired : Editor.Paired (front ++ capture.text).toList) :
        Editor.Paired front.toList := by
      rw [String.toList_append] at paired
      refine paired.of_append ?_
      rw [opens]
      decide
    rw [places, start, stop, Source.place?_pointAfter seam small, Source.place?_pointAfter seam' small',
      CountsAgree]
    constructor
    · rintro ⟨⟨-, plain⟩, paired, plain'⟩
      exact ⟨paired, plain.resolve_right goesOn, plain'⟩
    · rintro ⟨paired, plain, plain'⟩
      exact ⟨⟨sooner paired, .inl plain⟩, paired, plain'⟩

/-- A declaration below a line with a longer character, behind a line end of two characters, is
replaced. -/
theorem declaration_below_comment_is_replaced :
    ∃ (capture : Capture) (violation : Violation) (action : CodeAction),
      Source.extract (Bytes.ofText "/* é */\r\nnew A(\"x\");\n") = .ok [capture] ∧
      QuickFix.offer? (Findings.diagnostic ⟨"file:///a.ts"⟩ 1 (some capture) violation) = some action ∧
      (∃ front back : String, "/* é */\r\nnew A(\"x\");\n" = front ++ capture.text ++ back ∧
        (∃ task, QuickFix.task action = .ok task ∧ ∀ text,
          QuickFix.conclude action task (.ok (some text)) =
            .ok { action with edit := some ⟨[("file:///a.ts", [⟨capture.range, text⟩])]⟩ }) ∧
        (capture.range.Replaces front capture.text back ↔ CountsAgree front capture.text back)) ∧
      capture.range.Replaces "/* é */\r\n" capture.text ";\n" := by
  have extracted : Source.extract (Bytes.ofText "/* é */\r\nnew A(\"x\");\n") =
      .ok [⟨"A", "x", "new A(\"x\")", ⟨1, 0⟩, ⟨1, 10⟩⟩] := by decide +kernel
  obtain ⟨action, offered⟩ : ∃ action, QuickFix.offer? (Findings.diagnostic ⟨"file:///a.ts"⟩ 1
      (some ⟨"A", "x", "new A(\"x\")", ⟨1, 0⟩, ⟨1, 10⟩⟩) { policy := "p", message := "m" }) =
        some action := ⟨_, rfl⟩
  obtain ⟨chosen, single⟩ := QuickFix.offer?_data offered
  obtain ⟨front, back, divided, -, -, fixed, -, exactly⟩ :=
    edit_replaces_declaration_iff extracted List.mem_cons_self chosen single
  exact ⟨_, _, action, extracted, offered, ⟨front, back, divided, fixed, exactly (by decide +kernel)⟩,
    Range.replaces_iff_places.mpr (by decide +kernel)⟩

/-- A declaration behind a longer character in its line is not replaced: the edit is made one character
too far to the right. -/
theorem edit_behind_wide_character_is_misplaced :
    ∃ (capture : Capture) (violation : Violation) (action resolved : CodeAction) (task : QuickFix.Task),
      Source.extract (Bytes.ofText "/* é */ new A(\"x\");\n") = .ok [capture] ∧
      QuickFix.offer? (Findings.diagnostic ⟨"file:///a.ts"⟩ 0 (some capture) violation) = some action ∧
      QuickFix.task action = .ok task ∧
      QuickFix.conclude action task (.ok (some "NEW")) = .ok resolved ∧
      resolved.edit = some ⟨[("file:///a.ts", [⟨capture.range, "NEW"⟩])]⟩ ∧
      "/* é */ new A(\"x\");\n" = "/* é */ " ++ capture.text ++ ";\n" ∧
      TextEdit.outcome? ⟨capture.range, "NEW"⟩ "/* é */ new A(\"x\");\n" = some "/* é */ nNEW\n" ∧
      ¬ capture.range.Replaces "/* é */ " capture.text ";\n" := by
  have extracted : Source.extract (Bytes.ofText "/* é */ new A(\"x\");\n") =
      .ok [⟨"A", "x", "new A(\"x\")", ⟨0, 9⟩, ⟨0, 19⟩⟩] := by decide +kernel
  obtain ⟨action, offered⟩ : ∃ action, QuickFix.offer? (Findings.diagnostic ⟨"file:///a.ts"⟩ 0
      (some ⟨"A", "x", "new A(\"x\")", ⟨0, 9⟩, ⟨0, 19⟩⟩) { policy := "p", message := "m" }) =
        some action := ⟨_, rfl⟩
  obtain ⟨chosen, single⟩ := QuickFix.offer?_data offered
  exact ⟨_, _, action, _, _, extracted, offered, QuickFix.task_of_diagnostic chosen single, rfl, rfl,
    by decide +kernel, by decide +kernel, fun replaces => absurd (replaces "NEW") (by decide +kernel)⟩

end PolicyServer
