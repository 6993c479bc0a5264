import PolicyServer.Source.Grammar

/-! The tokens that a grammar reads stand in the source in their order, each with the bytes that its kind
names. -/

namespace PolicyServer.Source

mutual

def Node.leaves : Node → List Token
  | .leaf token => [token]
  | .branch _ parts => leavesOf parts

def leavesOf : List Node → List Token
  | [] => []
  | node :: rest => node.leaves ++ leavesOf rest

end

theorem leavesOf_append (front back : List Node) :
    leavesOf (front ++ back) = leavesOf front ++ leavesOf back := by
  induction front with
  | nil => rfl
  | cons node rest ih => simp only [List.cons_append, leavesOf, ih, List.append_assoc]

theorem leavesOf_singleton (node : Node) : leavesOf [node] = node.leaves := by
  simp only [leavesOf, List.append_nil]

/-- A node is one of some nodes, or one of the parts of one of them, however deep. -/
inductive Inside (node : Node) : List Node → Prop where
  | here {nodes : List Node} (member : node ∈ nodes) : Inside node nodes
  | within {nodes parts : List Node} {shape : Shape} (member : .branch shape parts ∈ nodes)
    (deeper : Inside node parts) : Inside node nodes

theorem Inside.of_subset {node : Node} {nodes more : List Node} (inside : Inside node nodes)
    (among : ∀ other ∈ nodes, other ∈ more) : Inside node more := by
  cases inside with
  | here member => exact .here (among _ member)
  | within member deeper => exact .within (among _ member) deeper

theorem Inside.trans {node : Node} {nodes parts : List Node} {shape : Shape}
    (inside : Inside (.branch shape parts) nodes) (deeper : Inside node parts) : Inside node nodes := by
  generalize whole : Node.branch shape parts = branch at inside
  induction inside with
  | here member => exact .within (whole ▸ member) deeper
  | within member _ ih => exact .within member ih

theorem leaves_sublist_of_mem {node : Node} {nodes : List Node} (member : node ∈ nodes) :
    node.leaves.Sublist (leavesOf nodes) := by
  obtain ⟨before, after, rfl⟩ := List.append_of_mem member
  rw [leavesOf_append]
  exact (List.sublist_append_left _ _).trans (List.sublist_append_right _ _)

theorem Inside.leaves_sublist {node : Node} {nodes : List Node} (inside : Inside node nodes) :
    node.leaves.Sublist (leavesOf nodes) := by
  induction inside with
  | here member => exact leaves_sublist_of_mem member
  | within member deeper ih => exact ih.trans (leaves_sublist_of_mem member)

/-- The bytes after a quotation mark have a character of the string that stands for itself: it comes
first, or after nothing but escapes. -/
inductive Unescaped (quote : UInt8) : Bytes → Prop where
  | plain {b : UInt8} (rest : Bytes) (inside : b ≠ quote) (bare : b ≠ 0x5C) : Unescaped quote (b :: rest)
  | escape {rest : Bytes} (later : Unescaped quote (rest.drop (escapeLength rest))) :
    Unescaped quote (0x5C :: rest)

/-- A token of so many bytes at the head of a text has the bytes that its kind names. A string tells of a
run of plain characters exactly if it has one. -/
def Kind.Fits (bytes : Bytes) (length : Nat) : Kind → Prop
  | .word name => name <+: bytes ∧ length = name.length
  | .mark text => Bytes.ofText text <+: bytes ∧ length = (Bytes.ofText text).length
  | .string run => ∃ quote content, bytes = quote :: content ∧ (run.isSome ↔ Unescaped quote content)
  | _ => True

theorem spanLength_le (piece : Bytes → Nat) (pending : Nat) (bytes : Bytes) :
    spanLength piece pending bytes ≤ bytes.length := by
  induction bytes generalizing pending with
  | nil => exact Nat.le_refl 0
  | cons b rest ih =>
    unfold spanLength
    split
    · exact Nat.zero_le _
    · rename_i same
      cases same
      exact Nat.succ_le_succ (ih _)
    · rename_i same
      cases same
      split
      · exact Nat.zero_le _
      · exact Nat.succ_le_succ (ih _)

theorem wordLength_le (bytes : Bytes) : wordLength bytes ≤ bytes.length := by
  unfold wordLength
  split
  · exact Nat.zero_le _
  · exact spanLength_le wordPieceLength 0 bytes

theorem scanString_run {quote : UInt8} (quoted : quote ≠ 0x5C) {place skip length : Nat} {run : Option Nat}
    {found result : Option (Nat × Nat)} {bytes : Bytes}
    (scanned : scanString quote place skip run found bytes = some (length, result)) :
    result.isSome ↔ found.isSome ∨ run.isSome ∨ Unescaped quote (bytes.drop skip) := by
  induction bytes generalizing place skip run found with
  | nil => cases scanned
  | cons b rest ih =>
    cases skip with
    | succ skip =>
      -- The byte belongs to an escape.
      exact ih scanned
    | zero =>
      simp only [scanString] at scanned
      simp only [List.drop_zero]
      split at scanned
      · rename_i closing
        cases scanned
        have none : ¬ Unescaped quote (b :: rest) := by
          intro plain
          cases plain with
          | plain _ inside _ => exact inside closing
          | escape => exact quoted closing.symm
        cases found <;> cases run <;> simp [none]
      · rename_i inside
        split at scanned
        · rename_i slash
          subst slash
          have same : Unescaped quote (0x5C :: rest) ↔ Unescaped quote (rest.drop (escapeLength rest)) := by
            constructor
            · intro plain
              cases plain with
              | plain _ _ bare => exact absurd rfl bare
              | escape later => exact later
            · exact .escape
          rw [same, ih scanned]
          cases found <;> cases run <;> simp
        · rename_i bare
          split at scanned
          · cases scanned
          · -- The character stands for itself, and begins a run if there is none yet.
            rw [ih scanned]
            have plain : Unescaped quote (b :: rest) := .plain rest inside bare
            cases run <;> simp [plain]

namespace Lexeme

variable {place length count : Nat} {bytes : Bytes} {kind found : Kind}

theorem eq_of_sized (sized : sized kind count = some (found, length)) :
    found = kind ∧ length = count := by
  cases count with
  | zero => cases sized
  | succ count =>
    cases sized
    exact ⟨rfl, rfl⟩

theorem prefix_of_beginsWithAny {mark : String} (begins : beginsWithAny [mark] bytes = true) :
    Bytes.ofText mark <+: bytes := by
  simpa [beginsWithAny] using begins

theorem fits_of_sized_word (within : count ≤ bytes.length)
    (sized : sized (.word (bytes.take count)) count = some (kind, length)) :
    kind.Fits bytes length := by
  obtain ⟨rfl, rfl⟩ := eq_of_sized sized
  exact ⟨List.take_prefix _ _, (List.length_take_of_le within).symm⟩

theorem fits_of_sized_mark {mark : String} (begins : Bytes.ofText mark <+: bytes)
    (sized : sized (.mark mark) (Bytes.ofText mark).length = some (kind, length)) :
    kind.Fits bytes length := by
  obtain ⟨rfl, rfl⟩ := eq_of_sized sized
  exact ⟨begins, rfl⟩

theorem fits_of_stringAt (read : stringAt place bytes = some (kind, length)) :
    kind.Fits bytes length := by
  unfold stringAt at read
  split at read
  · cases read
  · rename_i quote rest
    split at read
    · rename_i mark
      obtain ⟨found, scanned, same⟩ := Option.map_eq_some_iff.mp read
      cases same
      have quoted : quote ≠ 0x5C := by rcases mark with rfl | rfl <;> decide
      have told := scanString_run quoted scanned
      simp only [Option.isSome_none, Bool.false_eq_true, false_or, List.drop_zero] at told
      exact ⟨quote, rest, rfl, by rw [Option.isSome_map, told]⟩
    · cases read

theorem fits_of_templateAt {piece : Piece} (read : templateAt piece bytes = some (kind, length)) :
    kind.Fits bytes length := by
  cases bytes with
  | nil => cases read
  | cons b rest =>
    simp only [templateAt, Option.ite_none_right_eq_some] at read
    obtain ⟨-, read⟩ := read
    split at read
    · obtain ⟨-, same⟩ := Option.ite_none_right_eq_some.mp read
      cases same
      trivial
    · cases read

theorem fits_of_regexAt (read : regexAt bytes = some (kind, length)) : kind.Fits bytes length := by
  unfold regexAt at read
  split at read
  · split at read
    · simp only at read
      split at read
      · cases read
      · cases read
        trivial
    · cases read
  · cases read

theorem fits_of_anyAt (read : anyAt place bytes = some (kind, length)) : kind.Fits bytes length := by
  simp only [anyAt, Option.orElse_eq_orElse, Option.orElse_eq_or, Option.or_eq_some_iff] at read
  rcases read with word | ⟨-, number | ⟨-, string | ⟨-, template | ⟨-, other⟩⟩⟩⟩
  · exact fits_of_sized_word (wordLength_le _) word
  · obtain ⟨rfl, -⟩ := eq_of_sized number
    trivial
  · exact fits_of_stringAt string
  · exact fits_of_templateAt template
  · obtain ⟨rfl, -⟩ := eq_of_sized other
    trivial

theorem fits_of_read {lexeme : Lexeme} (read : lexeme.read place bytes = some (kind, length)) :
    kind.Fits bytes length := by
  -- Of the kinds only words and marks name bytes; for the others there is nothing to show.
  cases lexeme with
  | word text =>
    simp only [Lexeme.read] at read
    split at read
    · rename_i stands
      obtain ⟨rfl, rfl⟩ := eq_of_sized read
      rw [Bool.and_eq_true, List.isPrefixOf_iff_prefix] at stands
      exact ⟨stands.1, rfl⟩
    · cases read
  | anyWord => exact fits_of_sized_word (wordLength_le _) read
  | hidden =>
    simp only [Lexeme.read] at read
    split at read
    · split at read
      · cases read
      · cases read
        trivial
    · cases read
  | number =>
    obtain ⟨rfl, -⟩ := eq_of_sized read
    trivial
  | string => exact fits_of_stringAt read
  | regex => exact fits_of_regexAt read
  | template piece => exact fits_of_templateAt read
  | mark text others =>
    simp only [Lexeme.read] at read
    split at read
    · rename_i stands
      rw [Bool.and_eq_true] at stands
      exact fits_of_sized_mark (prefix_of_beginsWithAny stands.1) read
    · cases read
  | operator =>
    simp only [Lexeme.read] at read
    split at read
    · cases read
    · obtain ⟨mark, found, sized⟩ := Option.bind_eq_some_iff.mp read
      have begins := List.find?_some found
      exact fits_of_sized_mark (prefix_of_beginsWithAny begins) sized
  | question =>
    simp only [Lexeme.read] at read
    split at read
    · rename_i stands
      rw [Bool.and_eq_true, Bool.and_eq_true] at stands
      cases read
      exact ⟨prefix_of_beginsWithAny stands.1.1, by decide⟩
    · cases read
  | optionalDot =>
    simp only [Lexeme.read] at read
    split at read
    · rename_i stands
      rw [isOptionalDot, Bool.and_eq_true] at stands
      cases read
      exact ⟨prefix_of_beginsWithAny stands.1, by decide⟩
    · cases read
  | interpreter =>
    simp only [Lexeme.read] at read
    split at read
    · cases read
      trivial
    · cases read
  | any => exact fits_of_anyAt read

end Lexeme

def Token.Stands (source : Bytes) (token : Token) : Prop :=
  token.start ≤ token.stop ∧ token.kind.Fits (source.drop token.start) (token.stop - token.start)

/-- Tokens that stand in a source one after the other, between two places. -/
structure Run (source : Bytes) (first last : Nat) (tokens : List Token) : Prop where
  ordered : tokens.Pairwise (·.stop ≤ ·.start)
  stands : ∀ token ∈ tokens, token.Stands source ∧ first ≤ token.start ∧ token.stop ≤ last
  forward : first ≤ last

variable {source : Bytes} {first middle last : Nat} {tokens more : List Token}

theorem Run.nil (forward : first ≤ last) : Run source first last [] :=
  ⟨List.Pairwise.nil, by simp, forward⟩

theorem Run.single {token : Token} (stands : token.Stands source) (after : first ≤ token.start) :
    Run source first token.stop [token] := by
  refine ⟨List.pairwise_singleton _ _, fun other member => ?_, Nat.le_trans after stands.1⟩
  rw [List.mem_singleton.mp member]
  exact ⟨stands, after, Nat.le_refl _⟩

theorem Run.append (front : Run source first middle tokens) (back : Run source middle last more) :
    Run source first last (tokens ++ more) := by
  refine ⟨List.pairwise_append.mpr ⟨front.ordered, back.ordered, fun token member next member' => ?_⟩,
    fun token member => ?_, Nat.le_trans front.forward back.forward⟩
  · exact Nat.le_trans (front.stands token member).2.2 (back.stands next member').2.1
  · rcases List.mem_append.mp member with member | member
    · obtain ⟨stands, after, before⟩ := front.stands token member
      exact ⟨stands, after, Nat.le_trans before back.forward⟩
    · obtain ⟨stands, after, before⟩ := back.stands token member
      exact ⟨stands, Nat.le_trans front.forward after, before⟩

def Place.In (source : Bytes) (place : Place) : Prop := place.rest = source.drop place.offset

theorem Place.In.advance {place : Place} (here : place.In source) (length : Nat) :
    (place.advance length).In source := by
  show place.rest.drop length = source.drop (place.offset + length)
  rw [here, List.drop_drop]

theorem Place.token?_run {place next : Place} {lexeme : Lexeme} {token : Token}
    (here : place.In source) (read : place.token? lexeme = some (token, next)) :
    next.In source ∧ Run source place.offset next.offset [token] := by
  obtain ⟨⟨kind, length⟩, found, same⟩ := Option.map_eq_some_iff.mp read
  cases same
  have start := here.advance (spaceLength place.rest)
  have fits := Lexeme.fits_of_read found
  -- The token was read at the head of what is left of the source behind the blanks.
  rw [start] at fits
  have stands : Token.Stands source ⟨kind, (place.advance (spaceLength place.rest)).offset,
      (place.advance (spaceLength place.rest)).offset + length⟩ :=
    ⟨Nat.le_add_right _ _, by simpa using fits⟩
  exact ⟨start.advance length, Run.single stands (Nat.le_add_right _ _)⟩

namespace Rule

variable {phrases : Type} {grammar : phrases → Rule phrases} {rule : Rule phrases}
  {nodes : List Node} {place next : Place}

/-- A rule reads some nodes between two places. What a rule looks at without reading it is left open. -/
inductive Reads (grammar : phrases → Rule phrases) :
    Rule phrases → List Node → Place → Place → Prop where
  | nothing (place : Place) : Reads grammar .nothing [] place place
  | lexeme {wanted : Lexeme} {token : Token} {place next : Place}
      (found : place.token? wanted = some (token, next)) :
      Reads grammar (.lexeme wanted) [.leaf token] place next
  | margin (place : Place) :
      Reads grammar .margin [] place (place.advance (marginLength place.rest))
  | ends (inType : Bool) (place : Place) : Reads grammar (.ends inType) [] place place
  | both {first second : Rule phrases} {nodes more : List Node} {place middle next : Place}
      (front : Reads grammar first nodes place middle) (back : Reads grammar second more middle next) :
      Reads grammar (.both first second) (nodes ++ more) place next
  | first {first : Rule phrases} (second : Rule phrases) {nodes : List Node} {place next : Place}
      (reads : Reads grammar first nodes place next) :
      Reads grammar (.either first second) nodes place next
  | second (first : Rule phrases) {second : Rule phrases} {nodes : List Node} {place next : Place}
      (reads : Reads grammar second nodes place next) :
      Reads grammar (.either first second) nodes place next
  | done (item : Rule phrases) (place : Place) : Reads grammar (.many item) [] place place
  | more {item : Rule phrases} {nodes more : List Node} {place middle next : Place}
      (front : Reads grammar item nodes place middle)
      (back : Reads grammar (.many item) more middle next) :
      Reads grammar (.many item) (nodes ++ more) place next
  | ahead (rule : Rule phrases) (place : Place) : Reads grammar (.ahead rule) [] place place
  | absent (rule : Rule phrases) (place : Place) : Reads grammar (.absent rule) [] place place
  | group {rule : Rule phrases} (shape : Shape) {parts : List Node} {place next : Place}
      (inner : Reads grammar rule parts place next) :
      Reads grammar (.group shape rule) [.branch shape parts] place next
  | phrase {called : phrases} {nodes : List Node} {place next : Place}
      (reads : Reads grammar (grammar called) nodes place next) :
      Reads grammar (.phrase called) nodes place next

theorem reads_of_read {fuel : Nat} {done done' : List Node}
    (read : rule.read grammar fuel done place = some (done', next)) :
    ∃ nodes, done' = nodes.reverse ++ done ∧ Reads grammar rule nodes place next := by
  -- Every rule reads its parts with less fuel, at places and after nodes of their own.
  induction fuel generalizing rule done done' place next with
  | zero => cases read
  | succ fuel ih =>
    have still (reads : Reads grammar rule [] place place)
        (same : some (done, place) = some (done', next)) :
        ∃ nodes, done' = nodes.reverse ++ done ∧ Reads grammar rule nodes place next := by
      cases same
      exact ⟨[], rfl, reads⟩
    have joined {first second : Rule phrases} {mid : List Node} {between : Place}
        (found : first.read grammar fuel done place = some (mid, between))
        (read : second.read grammar fuel mid between = some (done', next)) :
        ∃ nodes more, done' = (nodes ++ more).reverse ++ done ∧
          Reads grammar first nodes place between ∧ Reads grammar second more between next := by
      obtain ⟨nodes, rfl, front⟩ := ih found
      obtain ⟨more, rfl, back⟩ := ih read
      exact ⟨nodes, more, by simp, front, back⟩
    cases rule with
    | nothing => exact still (.nothing place) read
    | lexeme wanted =>
      simp only [Rule.read] at read
      split at read
      · rename_i token after found
        cases read
        exact ⟨[.leaf token], rfl, .lexeme found⟩
      · cases read
    | margin =>
      cases read
      exact ⟨[], rfl, .margin place⟩
    | ends inType => exact still (.ends inType place) (Option.ite_none_right_eq_some.mp read).2
    | both first second =>
      simp only [Rule.read] at read
      split at read
      · rename_i mid between found
        obtain ⟨nodes, more, same, front, back⟩ := joined found read
        exact ⟨nodes ++ more, same, .both front back⟩
      · cases read
    | either first second =>
      simp only [Rule.read] at read
      split at read
      · rename_i result found
        cases read
        obtain ⟨nodes, same, reads⟩ := ih found
        exact ⟨nodes, same, .first second reads⟩
      · obtain ⟨nodes, same, reads⟩ := ih read
        exact ⟨nodes, same, .second first reads⟩
    | many item =>
      simp only [Rule.read] at read
      split at read
      · rename_i mid between found
        -- An item that took some bytes is followed by the others, any other one is dropped.
        split at read
        · obtain ⟨nodes, more, same, front, back⟩ := joined found read
          exact ⟨nodes ++ more, same, .more front back⟩
        · exact still (.done item place) read
      · exact still (.done item place) read
    | ahead inner => exact still (.ahead inner place) (Option.ite_none_right_eq_some.mp read).2
    | absent inner => exact still (.absent inner place) (Option.ite_none_left_eq_some.mp read).2
    | group shape inner =>
      simp only [Rule.read] at read
      split at read
      · rename_i parts after found
        cases read
        -- The parts of a group are read apart from what is done already.
        obtain ⟨nodes, rfl, reads⟩ := ih found
        exact ⟨[.branch shape nodes], by simp, .group shape reads⟩
      · cases read
    | phrase called =>
      obtain ⟨nodes, same, reads⟩ := ih read
      exact ⟨nodes, same, .phrase reads⟩

theorem Reads.run (reads : Reads grammar rule nodes place next) (here : place.In source) :
    next.In source ∧ Run source place.offset next.offset (leavesOf nodes) := by
  have joined {nodes more : List Node} {place middle next : Place}
      (front : middle.In source ∧ Run source place.offset middle.offset (leavesOf nodes))
      (back : middle.In source → next.In source ∧ Run source middle.offset next.offset (leavesOf more)) :
      next.In source ∧ Run source place.offset next.offset (leavesOf (nodes ++ more)) := by
    obtain ⟨there, run⟩ := back front.1
    rw [leavesOf_append]
    exact ⟨there, front.2.append run⟩
  induction reads with
  | lexeme found => exact Place.token?_run here found
  | margin => exact ⟨here.advance _, .nil (Nat.le_add_right _ _)⟩
  | both _ _ ih ih' => exact joined (ih here) ih'
  | more _ _ ih ih' => exact joined (ih here) ih'
  | first _ _ ih => exact ih here
  | second _ _ ih => exact ih here
  | phrase _ ih => exact ih here
  | group _ _ ih =>
    rw [leavesOf_singleton]
    exact ih here
  | _ => exact ⟨here, .nil (Nat.le_refl _)⟩

end Rule

theorem tree_cases (source : Bytes) :
    (∃ next, Grammar.source.Reads Grammar.rules (tree source) ⟨0, source⟩ next) ∨ tree source = [] := by
  unfold tree
  split
  · rename_i nodes next read
    obtain ⟨new, rfl, reads⟩ := Rule.reads_of_read read
    refine .inl ⟨next, ?_⟩
    rw [List.append_nil, List.reverse_reverse]
    exact reads
  · exact .inr rfl

theorem tree_run (source : Bytes) : ∃ last, Run source 0 last (leavesOf (tree source)) := by
  have here : Place.In source ⟨0, source⟩ := rfl
  rcases tree_cases source with ⟨next, reads⟩ | empty
  · exact ⟨_, (reads.run here).2⟩
  · rw [empty]
    exact ⟨0, .nil (Nat.le_refl _)⟩

end PolicyServer.Source
