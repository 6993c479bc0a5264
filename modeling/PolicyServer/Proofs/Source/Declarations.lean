import PolicyServer.Proofs.Source.Groups
import PolicyServer.Proofs.Source.Spans

/-!
Which constructor calls of a source are its declarations.

A call declares something if what it constructs has a name and its first string has a character that
stands for itself. Each such call is found, however deep it lies, and nothing else is.
-/

namespace PolicyServer.Source

variable {source : Bytes} {parts : List Node}

/-- What a constructor call constructs has a name: it is a word that may name a type, or it ends with a
member that is a word. -/
inductive Named : List Node → Prop where
  | identifier {token : Token} {name : Bytes} (word : token.kind = .word name)
    (free : name ∉ nonNames.map Bytes.ofText) : Named [.leaf token]
  | member {token : Token} {name : Bytes} (owner : List Node) (dot : Node)
    (word : token.kind = .word name) : Named (owner ++ [.branch .member [dot, .leaf token]])

theorem typeName?_isSome_iff {constructed : List Node} :
    (typeName? constructed).isSome ↔ Named constructed := by
  constructor
  · intro found
    unfold typeName? at found
    split at found
    · split at found
      · rename_i name word
        split at found
        · cases found
        · rename_i free
          exact .identifier word free
      · cases found
    · rename_i _ ends
      obtain ⟨owner, rfl⟩ := List.getLast?_eq_some_iff.mp ends
      split at found
      · rename_i name word
        exact .member owner _ word
      · cases found
    · cases found
  · intro named
    cases named with
    | identifier word free => simp [typeName?, word, free]
    | member owner dot word =>
      unfold typeName?
      split
      · rename_i single
        cases owner with
        | nil => cases single
        | cons node rest => simp at single
      · rename_i ends _
        rw [List.getLast?_concat] at ends
        cases ends
        simp [word]
      · rename_i other
        exact absurd (List.getLast?_concat ..) (other _ _)

def IsString (argument : Node) (token : Token) : Prop :=
  argument = .branch .argument [.leaf token] ∧ ∃ run, token.kind = .string run

/-- The first string among some arguments has a character that stands for itself. -/
def Titled (source : Bytes) (arguments : List Node) : Prop :=
  ∃ before argument after token, arguments = before ++ argument :: after ∧ IsString argument token ∧
    (∀ other ∈ before, ∀ token, ¬ IsString other token) ∧
    ∃ quote content, source.drop token.start = quote :: content ∧ Unescaped quote content

/-- The parts of a constructor call declare something: what is constructed has a name, and the first
string among the arguments, which come last, has a character that stands for itself. -/
def Declares (source : Bytes) (parts : List Node) : Prop :=
  ∃ keyword constructed between arguments, parts = .leaf keyword :: .branch .constructed constructed ::
      (between ++ [.branch .arguments arguments]) ∧
    Named constructed ∧ Titled source arguments

def stringRun? : Node → Option (Option (Nat × Nat))
  | .branch .argument [.leaf ⟨.string run, _, _⟩] => some run
  | _ => none

theorem firstString?_eq (arguments : List Node) :
    firstString? arguments = arguments.findSome? stringRun? := rfl

theorem stringRun?_eq_some_iff {argument : Node} {run : Option (Nat × Nat)} :
    stringRun? argument = some run ↔ ∃ token, IsString argument token ∧ token.kind = .string run := by
  constructor
  · intro found
    unfold stringRun? at found
    split at found
    · cases found
      exact ⟨_, ⟨rfl, _, rfl⟩, rfl⟩
    · cases found
  · rintro ⟨⟨kind, start, stop⟩, ⟨rfl, -⟩, same⟩
    subst same
    rfl

theorem stringRun?_eq_none_iff {argument : Node} :
    stringRun? argument = none ↔ ∀ token, ¬ IsString argument token := by
  rw [Option.eq_none_iff_forall_ne_some]
  constructor
  · rintro absent token ⟨same, run, kind⟩
    exact absent run (stringRun?_eq_some_iff.mpr ⟨token, ⟨same, run, kind⟩, kind⟩)
  · intro absent run found
    obtain ⟨token, isString, -⟩ := stringRun?_eq_some_iff.mp found
    exact absent token isString

theorem firstString?_iff_titled {arguments : List Node}
    (stands : ∀ token ∈ leavesOf arguments, token.Stands source) :
    (∃ run, firstString? arguments = some (some run)) ↔ Titled source arguments := by
  simp only [firstString?_eq]
  have fits {argument : Node} {token : Token} {run : Option (Nat × Nat)} (member : argument ∈ arguments)
      (isString : IsString argument token) (kind : token.kind = .string run) :
      ∃ quote content, source.drop token.start = quote :: content ∧ (run.isSome ↔ Unescaped quote content) := by
    have there : token ∈ argument.leaves := by simp [isString.1, Node.leaves, leavesOf]
    have fits := (stands token ((leaves_sublist_of_mem member).subset there)).2
    rw [kind] at fits
    exact fits
  constructor
  · rintro ⟨run, found⟩
    obtain ⟨before, argument, after, whole, found, absent⟩ := List.findSome?_eq_some_iff.mp found
    obtain ⟨token, isString, kind⟩ := stringRun?_eq_some_iff.mp found
    obtain ⟨quote, content, bytes, plain⟩ := fits (by simp [whole]) isString kind
    exact ⟨before, argument, after, token, whole, isString,
      fun other member => stringRun?_eq_none_iff.mp (absent other member), quote, content, bytes,
      plain.mp rfl⟩
  · rintro ⟨before, argument, after, token, whole, isString, absent, quote, content, bytes, plain⟩
    obtain ⟨-, run, kind⟩ := id isString
    obtain ⟨quote', content', bytes', some⟩ := fits (by simp [whole]) isString kind
    obtain ⟨rfl, rfl⟩ := List.cons.inj (bytes.symm.trans bytes')
    obtain ⟨run, rfl⟩ := Option.isSome_iff_exists.mp (some.mpr plain)
    exact ⟨run, List.findSome?_eq_some_iff.mpr ⟨before, argument, after, whole,
      stringRun?_eq_some_iff.mpr ⟨token, isString, kind⟩,
      fun other member => stringRun?_eq_none_iff.mpr (absent other member)⟩⟩

theorem declaration?_isSome_iff :
    (declaration? source parts).isSome ↔ ∃ creation, Creation.ofParts? parts = some creation ∧
      (typeName? creation.constructed).isSome ∧ ∃ run, firstString? creation.arguments = some (some run) := by
  rw [Option.isSome_iff_exists]
  constructor
  · rintro ⟨capture, made⟩
    simp only [declaration?, Option.bind_eq_bind, Option.bind_eq_some_iff] at made
    obtain ⟨creation, whole, name, named, _, first, run, rfl, -⟩ := made
    exact ⟨creation, whole, Option.isSome_iff_exists.mpr ⟨name, named⟩, run, first⟩
  · rintro ⟨creation, whole, named, run, first⟩
    obtain ⟨name, named⟩ := Option.isSome_iff_exists.mp named
    simp [declaration?, whole, named, first]

theorem declaration?_iff_declares (inside : Inside (.branch .creation parts) (tree source)) :
    (declaration? source parts).isSome ↔ Declares source parts := by
  obtain ⟨_, run⟩ := tree_run source
  have stands {arguments : List Node} (member : .branch .arguments arguments ∈ parts) :
      ∀ token ∈ leavesOf arguments, token.Stands source := by
    intro token there
    have deeper : Inside (.branch .arguments arguments) (tree source) := inside.trans (.here member)
    exact (run.stands token (deeper.leaves_sublist.subset there)).1
  rw [declaration?_isSome_iff]
  constructor
  · rintro ⟨creation, whole, named, first⟩
    obtain ⟨-, -, between, items, shape, -⟩ := Creation.ofParts?_eq_some_iff.mp whole
    exact ⟨_, _, between, _, shape, typeName?_isSome_iff.mp named,
      (firstString?_iff_titled (stands (by simp [shape]))).mp first⟩
  · rintro ⟨keyword, constructed, between, arguments, shape, named, titled⟩
    have member : Node.branch .arguments arguments ∈ parts := by simp [shape]
    -- The grammar sees to the word at the front and to the bracket at the end.
    obtain ⟨_, _, _, shape', opens⟩ := tree_creation inside
    obtain ⟨closing, last, closes⟩ := tree_arguments (inside.trans (.here member))
    obtain ⟨items, closed⟩ := List.getLast?_eq_some_iff.mp last
    have same := shape.symm.trans shape'
    injection same with same
    injection same with same
    refine ⟨⟨keyword, constructed, arguments, closing⟩, Creation.ofParts?_eq_some_iff.mpr
      ⟨same ▸ opens, closes, between, items, shape, closed⟩, typeName?_isSome_iff.mpr named,
      (firstString?_iff_titled (stands member)).mpr titled⟩

/-- The tokens of a node reach from one place of the source to another. -/
def Node.Reaches (node : Node) (first last : Nat) : Prop :=
  ∃ opening closing, node.leaves.head? = some opening ∧ node.leaves.getLast? = some closing ∧
    opening.start = first ∧ closing.stop = last

theorem locate?_reaches {one : Located} (made : locate? source parts = some one) :
    (Node.branch .creation parts).Reaches one.first one.last := by
  obtain ⟨creation, whole, -, begins, ends⟩ := locate?_eq_some made
  obtain ⟨rest, inner, rfl, tokens⟩ := Creation.ofParts?_leaves whole
  refine ⟨creation.keyword, creation.closing, ?_, ?_, begins.symm, ends.symm⟩
  · rfl
  · rw [Node.leaves, leavesOf, tokens, Node.leaves, ← List.append_assoc, List.getLast?_concat]

theorem locate?_iff_declares (inside : Inside (.branch .creation parts) (tree source)) :
    (∃ one, locate? source parts = some one) ↔ Declares source parts := by
  rw [← declaration?_iff_declares inside, ← map_locate?, Option.isSome_map, Option.isSome_iff_exists]

def locate (source : Bytes) : List Located := gatherOf (locate? source) (tree source)

theorem map_locate (source : Bytes) :
    (locate source).map (·.capture) = capturesOf source (tree source) := by
  rw [locate, map_gatherOf, capturesOf_eq]
  simp only [map_locate?]

theorem extract_eq (source : Bytes) :
    extract source = .ok ((locate source).map (·.capture)) ∧ locate source ≠ [] ∨
      extract source = .error .noDeclarations ∧ locate source = [] := by
  unfold extract
  rw [← map_locate]
  cases locate source with
  | nil => exact .inr ⟨rfl, rfl⟩
  | cons one others => exact .inl ⟨rfl, List.cons_ne_nil _ _⟩

/-- What is extracted from a source are the constructor calls in it that declare something, however deep
they lie, in the order in which they begin, each with the bytes that it covers. Any two lie inside one
another or apart. Their points follow one another in the same order, up to where 32 bits can tell rows and
columns apart. -/
theorem declarations_extracted (source : Bytes) :
    ∃ located : List Located,
      (extract source = .ok (located.map (·.capture)) ∧ located ≠ [] ∨
        extract source = .error .noDeclarations ∧ located = []) ∧
      (∀ one ∈ located, one.Covers source ∧ ∃ parts, Inside (.branch .creation parts) (tree source) ∧
        Declares source parts ∧ (Node.branch .creation parts).Reaches one.first one.last) ∧
      located.Pairwise Located.Precedes ∧
      (∀ one ∈ located, one.last < 0x100000000 → Earlier one.capture.start one.capture.stop) ∧
      (located.Pairwise fun one other =>
        other.first < 0x100000000 → Earlier one.capture.start other.capture.start) ∧
      ∀ parts, Inside (.branch .creation parts) (tree source) → Declares source parts →
        ∃ one ∈ located, (Node.branch .creation parts).Reaches one.first one.last := by
  obtain ⟨last, run⟩ := tree_run source
  have spread : Spread source 0 last (locate source) := spread_gatherOf (tree source) 0 last run
  refine ⟨locate source, extract_eq source, ?_, spread.ordered, ?_, ?_, ?_⟩
  · intro one member
    obtain ⟨parts, inside, made⟩ := mem_gatherOf_iff.mp member
    exact ⟨(spread.stands one member).1.covers, parts, inside,
      (locate?_iff_declares inside).mp ⟨one, made⟩, locate?_reaches made⟩
  · intro one member small
    obtain ⟨stands, -⟩ := spread.stands one member
    rw [stands.start, stands.stop]
    exact earlier_pointAt stands.forward stands.within small
  · -- Of two declarations, the one that begins first has the earlier point.
    refine spread.ordered.imp_of_mem fun {one other} member member' precedes small => ?_
    obtain ⟨stands, -⟩ := spread.stands one member
    obtain ⟨stands', -⟩ := spread.stands other member'
    rw [stands.start, stands'.start]
    exact earlier_pointAt precedes.1 (Nat.le_trans (Nat.le_of_lt stands'.forward) stands'.within) small
  · intro parts inside declares
    obtain ⟨one, made⟩ := (locate?_iff_declares inside).mpr declares
    exact ⟨one, mem_gatherOf_iff.mpr ⟨parts, inside, made⟩, locate?_reaches made⟩

/-- A declaration that holds another in a callback, after a call whose string has nothing but an escape. -/
def nestedSource : Bytes :=
  Bytes.ofText "new A('\\n');\nnew a.B(\"é\", () => new C('\\tx'));"

theorem nested_declarations_extracted :
    ∃ outer inner : Located, extract nestedSource = .ok [outer.capture, inner.capture] ∧
      outer.capture.identifier = "é" ∧ inner.capture.identifier = "x" ∧
      outer.Covers nestedSource ∧ inner.Covers nestedSource ∧ outer.Precedes inner ∧
      Earlier outer.capture.start inner.capture.start ∧
      ∃ parts, Inside (.branch .creation parts) (tree nestedSource) ∧ Declares nestedSource parts ∧
        (Node.branch .creation parts).Reaches inner.first inner.last := by
  have found : extract nestedSource =
      .ok [⟨"B", "é", "new a.B(\"é\", () => new C('\\tx'))", ⟨1, 0⟩, ⟨1, 33⟩⟩,
        ⟨"C", "x", "new C('\\tx')", ⟨1, 20⟩, ⟨1, 32⟩⟩] := by decide +kernel
  obtain ⟨located, ⟨answer, -⟩ | ⟨failed, -⟩, each, ordered, -, earlier, -⟩ :=
    declarations_extracted nestedSource
  · -- Two declarations were found, so there are two places.
    have same := Except.ok.inj (found.symm.trans answer)
    obtain ⟨outer, others, rfl, first, same⟩ := List.map_eq_cons_iff.mp same.symm
    obtain ⟨inner, others, rfl, second, same⟩ := List.map_eq_cons_iff.mp same
    obtain rfl := List.map_eq_nil_iff.mp same
    have small : inner.first < 0x100000000 := by
      obtain ⟨front, middle, back, whole, -, begins, -⟩ := (each inner (by simp)).1
      have short : nestedSource.length < 0x100000000 := by decide +kernel
      rw [whole, List.length_append, List.length_append] at short
      omega
    exact ⟨outer, inner, answer, congrArg Capture.identifier first, congrArg Capture.identifier second,
      (each outer (by simp)).1, (each inner (by simp)).1, List.rel_of_pairwise_cons ordered (by simp),
      List.rel_of_pairwise_cons earlier (by simp) small, (each inner (by simp)).2⟩
  · rw [found] at failed
    cases failed

end PolicyServer.Source
