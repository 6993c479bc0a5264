import PolicyServer.Proofs.Source.Reading

/-!
The branches of a tree and the groups of the grammar that they were read by.

Only groups make branches, and each shape has few groups, so the parts of a branch have the form that a
group of its shape reads.
-/

namespace PolicyServer.Source

theorem Inside.append_cases {node : Node} {front back : List Node} (inside : Inside node (front ++ back)) :
    Inside node front ∨ Inside node back := by
  cases inside with
  | here member => exact (List.mem_append.mp member).imp .here .here
  | within member deeper => exact (List.mem_append.mp member).imp (.within · deeper) (.within · deeper)

namespace Rule

variable {phrases : Type} {grammar : phrases → Rule phrases} {rule : Rule phrases}
  {nodes parts : List Node} {place next : Place} {shape : Shape}

/-- The groups in a rule, those of the phrases in it apart. What is only looked at makes no branches. -/
def groups : Rule phrases → List (Shape × Rule phrases)
  | .both first second => first.groups ++ second.groups
  | .either first second => first.groups ++ second.groups
  | .many item => item.groups
  | .group shape inner => (shape, inner) :: inner.groups
  | _ => []

theorem Reads.exists_group {formed : Shape × Rule phrases → Prop}
    (reads : Reads grammar rule nodes place next) (own : ∀ one ∈ rule.groups, formed one)
    (called : ∀ phrase, ∀ one ∈ (grammar phrase).groups, formed one)
    (inside : Inside (.branch shape parts) nodes) :
    ∃ inner place next, formed (shape, inner) ∧ Reads grammar inner parts place next := by
  induction reads with
  | lexeme =>
    rcases inside with member | ⟨member, -⟩
    · cases List.mem_singleton.mp member
    · cases List.mem_singleton.mp member
  | both _ _ ih ih' =>
    rcases inside.append_cases with front | back
    · exact ih (fun one member => own one (List.mem_append_left _ member)) front
    · exact ih' (fun one member => own one (List.mem_append_right _ member)) back
  | first _ _ ih => exact ih (fun one member => own one (List.mem_append_left _ member)) inside
  | second _ _ ih => exact ih (fun one member => own one (List.mem_append_right _ member)) inside
  | more _ _ ih ih' => exact inside.append_cases.elim (ih own) (ih' own)
  | group _ inner ih =>
    cases inside with
    | here member =>
      cases List.mem_singleton.mp member
      exact ⟨_, _, _, own _ List.mem_cons_self, inner⟩
    | within member deeper =>
      cases List.mem_singleton.mp member
      exact ih (fun one member => own one (List.mem_cons_of_mem _ member)) deeper
  | phrase _ ih => exact ih (called _) inside
  | _ => rcases inside with member | ⟨member, -⟩ <;> cases member

theorem Reads.split {first second : Rule phrases}
    (reads : Reads grammar (.both first second) nodes place next) :
    ∃ front back middle, nodes = front ++ back ∧ Reads grammar first front place middle ∧
      Reads grammar second back middle next := by
  cases reads with
  | both front back => exact ⟨_, _, _, rfl, front, back⟩

theorem Reads.token {wanted : Lexeme} (reads : Reads grammar (.lexeme wanted) nodes place next) :
    ∃ token offset bytes length, nodes = [.leaf token] ∧
      wanted.read offset bytes = some (token.kind, length) := by
  cases reads with
  | lexeme found =>
    obtain ⟨⟨kind, length⟩, there, same⟩ := Option.map_eq_some_iff.mp found
    cases same
    exact ⟨_, _, _, _, rfl, there⟩

theorem Reads.word {text : String} (reads : Reads grammar (word text) nodes place next) :
    ∃ token, nodes = [.leaf token] ∧ token.kind = .word (Bytes.ofText text) := by
  obtain ⟨token, offset, bytes, length, same, found⟩ := reads.token
  exact ⟨token, same, (Lexeme.eq_of_sized (Option.ite_none_right_eq_some.mp found).2).1⟩

theorem Reads.mark {text : String} (reads : Reads grammar (mark text) nodes place next) :
    ∃ token, nodes = [.leaf token] ∧ token.kind = .mark text := by
  obtain ⟨token, offset, bytes, length, same, found⟩ := reads.token
  exact ⟨token, same, (Lexeme.eq_of_sized (Option.ite_none_right_eq_some.mp found).2).1⟩

end Rule

namespace Grammar

open Rule

/-- The form of a group: a constructor call begins with its keyword and what it constructs, and arguments
stand between brackets. -/
def Formed (one : Shape × Form) : Prop :=
  (one.1 = .creation → ∃ ending barred constructed tail, one.2 =
    seq [word "new", stay ending, .absent barred, .group .constructed constructed, tail]) ∧
  (one.1 = .arguments → ∃ rule, one.2 = between "(" rule ")")

theorem formed_of_other {groups : List (Shape × Form)}
    (other : ∀ one ∈ groups, one.1 ≠ .creation ∧ one.1 ≠ .arguments) : ∀ one ∈ groups, Formed one :=
  fun one member => ⟨fun same => absurd same (other one member).1,
    fun same => absurd same (other one member).2⟩

theorem formed_of_mem_groups (phrase : Phrase) : ∀ one ∈ (rules phrase).groups, Formed one := by
  cases phrase with
  | creation ending =>
    refine List.forall_mem_cons.mpr ⟨⟨fun _ => ⟨ending, _, _, _, rfl⟩, Shape.noConfusion⟩,
      formed_of_other ?_⟩
    cases ending <;> decide
  | arguments =>
    refine List.forall_mem_cons.mpr ⟨⟨Shape.noConfusion, fun _ => ⟨_, rfl⟩⟩, formed_of_other ?_⟩
    decide
  | expressions ending => cases ending <;> exact formed_of_other (by decide)
  | expression ending choosing => cases ending <;> cases choosing <;> exact formed_of_other (by decide)
  | unit ending choosing => cases ending <;> cases choosing <;> exact formed_of_other (by decide)
  | type ending conditional => cases ending <;> cases conditional <;> exact formed_of_other (by decide)
  | typeOperand ending conditional =>
    cases ending <;> cases conditional <;> exact formed_of_other (by decide)
  | _ => exact formed_of_other (by decide)

end Grammar

open Rule Grammar

variable {source : Bytes} {shape : Shape} {parts : List Node}

theorem tree_group (inside : Inside (.branch shape parts) (tree source)) :
    ∃ inner place next, Formed (shape, inner) ∧ Reads rules inner parts place next := by
  rcases tree_cases source with ⟨_, reads⟩ | empty
  · -- A whole source has no groups of its own.
    exact reads.exists_group (formed_of_other (by decide)) formed_of_mem_groups inside
  · rw [empty] at inside
    rcases inside with member | ⟨member, -⟩ <;> cases member

theorem tree_creation (inside : Inside (.branch .creation parts) (tree source)) :
    ∃ keyword constructed rest, parts = .leaf keyword :: .branch .constructed constructed :: rest ∧
      keyword.kind = .word (Bytes.ofText "new") := by
  obtain ⟨_, _, _, formed, reads⟩ := tree_group inside
  obtain ⟨ending, barred, constructed, tail, rfl⟩ := formed.1 rfl
  -- The five rules of the group, one after the other.
  obtain ⟨_, _, _, rfl, first, reads⟩ := reads.split
  obtain ⟨stays, _, _, rfl, second, reads⟩ := reads.split
  obtain ⟨_, _, _, rfl, third, reads⟩ := reads.split
  obtain ⟨_, rest, _, rfl, fourth, -⟩ := reads.split
  obtain ⟨keyword, rfl, kind⟩ := first.word
  obtain rfl : stays = [] := by cases ending <;> cases second <;> rfl
  cases third
  cases fourth
  exact ⟨keyword, _, rest, rfl, kind⟩

theorem tree_arguments (inside : Inside (.branch .arguments parts) (tree source)) :
    ∃ closing, parts.getLast? = some (.leaf closing) ∧ closing.kind = .mark ")" := by
  obtain ⟨_, _, _, formed, reads⟩ := tree_group inside
  obtain ⟨rule, rfl⟩ := formed.2 rfl
  obtain ⟨_, _, _, rfl, -, reads⟩ := reads.split
  obtain ⟨_, _, _, rfl, -, reads⟩ := reads.split
  obtain ⟨_, _, _, rfl, -, reads⟩ := reads.split
  obtain ⟨_, _, _, rfl, -, reads⟩ := reads.split
  obtain ⟨closing, rfl, kind⟩ := reads.mark
  exact ⟨closing, by simp, kind⟩

end PolicyServer.Source
