import PolicyServer.Proofs.Source.Reading
import PolicyServer.Proofs.Text.Boundary
import PolicyServer.Source.Declaration

/-! Where the declarations of a source stand in it: from the word `new` to the bracket that closes the
arguments. -/

namespace PolicyServer.Source

variable {source : Bytes} {capture : Capture}

/-! ### The walk over a tree -/

section Walk

variable {α β : Type} {find : List Node → Option α} {found : α}

mutual

def gatherIn (find : List Node → Option α) : Node → List α
  | .leaf _ => []
  | .branch shape parts => (if shape = .creation then (find parts).toList else []) ++ gatherOf find parts

def gatherOf (find : List Node → Option α) : List Node → List α
  | [] => []
  | node :: rest => gatherIn find node ++ gatherOf find rest

end

theorem mem_gatherIn_branch {shape : Shape} {parts : List Node} :
    found ∈ gatherIn find (.branch shape parts) ↔
      shape = .creation ∧ find parts = some found ∨ found ∈ gatherOf find parts := by
  rw [gatherIn, List.mem_append]
  by_cases creation : shape = .creation
  · simp only [creation, if_true, true_and, Option.mem_toList]
  · simp [creation]

theorem mem_gatherOf_of_mem {node : Node} {nodes : List Node} (member : node ∈ nodes)
    (there : found ∈ gatherIn find node) : found ∈ gatherOf find nodes := by
  induction nodes with
  | nil => cases member
  | cons other rest ih =>
    rw [gatherOf, List.mem_append]
    rcases List.mem_cons.mp member with rfl | member
    · exact .inl there
    · exact .inr (ih member)

mutual

theorem inside_of_mem_gatherIn (node : Node) (there : found ∈ gatherIn find node) :
    ∃ parts, Inside (.branch .creation parts) [node] ∧ find parts = some found := by
  cases node with
  | leaf token => cases there
  | branch shape parts =>
    rcases mem_gatherIn_branch.mp there with ⟨rfl, made⟩ | inner
    · exact ⟨parts, .here List.mem_cons_self, made⟩
    · obtain ⟨inner, inside, made⟩ := inside_of_mem_gatherOf parts inner
      exact ⟨inner, .within List.mem_cons_self inside, made⟩

theorem inside_of_mem_gatherOf (nodes : List Node) (there : found ∈ gatherOf find nodes) :
    ∃ parts, Inside (.branch .creation parts) nodes ∧ find parts = some found := by
  cases nodes with
  | nil => cases there
  | cons node rest =>
    rcases List.mem_append.mp there with here | later
    · obtain ⟨parts, inside, made⟩ := inside_of_mem_gatherIn node here
      exact ⟨parts, inside.of_subset (by simp), made⟩
    · obtain ⟨parts, inside, made⟩ := inside_of_mem_gatherOf rest later
      exact ⟨parts, inside.of_subset fun other => List.mem_cons_of_mem _, made⟩

end

theorem mem_gatherOf_iff {nodes : List Node} : found ∈ gatherOf find nodes ↔
    ∃ parts, Inside (.branch .creation parts) nodes ∧ find parts = some found := by
  refine ⟨inside_of_mem_gatherOf nodes, ?_⟩
  rintro ⟨parts, inside, made⟩
  generalize call : Node.branch .creation parts = node at inside
  induction inside with
  | here member =>
    exact mem_gatherOf_of_mem member (call ▸ mem_gatherIn_branch.mpr (.inl ⟨rfl, made⟩))
  | within member deeper ih => exact mem_gatherOf_of_mem member (mem_gatherIn_branch.mpr (.inr ih))

mutual

theorem capturesIn_eq (source : Bytes) (node : Node) :
    capturesIn source node = gatherIn (declaration? source) node := by
  cases node with
  | leaf token => rfl
  | branch shape parts => rw [capturesIn, gatherIn, capturesOf_eq source parts]

theorem capturesOf_eq (source : Bytes) (nodes : List Node) :
    capturesOf source nodes = gatherOf (declaration? source) nodes := by
  cases nodes with
  | nil => rfl
  | cons node rest => rw [capturesOf, gatherOf, capturesIn_eq source node, capturesOf_eq source rest]

end

mutual

theorem map_gatherIn (find : List Node → Option α) (view : α → β) (node : Node) :
    (gatherIn find node).map view = gatherIn (fun parts => (find parts).map view) node := by
  cases node with
  | leaf token => rfl
  | branch shape parts =>
    rw [gatherIn, gatherIn, List.map_append, map_gatherOf find view parts]
    congr 1
    split
    · cases find parts <;> rfl
    · rfl

theorem map_gatherOf (find : List Node → Option α) (view : α → β) (nodes : List Node) :
    (gatherOf find nodes).map view = gatherOf (fun parts => (find parts).map view) nodes := by
  cases nodes with
  | nil => rfl
  | cons node rest =>
    rw [gatherOf, gatherOf, List.map_append, map_gatherIn find view node, map_gatherOf find view rest]

end

end Walk

/-! ### Constructor calls -/

theorem Creation.ofParts?_eq_some_iff {parts : List Node} {creation : Creation} :
    Creation.ofParts? parts = some creation ↔
      creation.keyword.kind = .word (Bytes.ofText "new") ∧ creation.closing.kind = .mark ")" ∧
      ∃ between items, parts = .leaf creation.keyword :: .branch .constructed creation.constructed ::
          (between ++ [.branch .arguments creation.arguments]) ∧
        creation.arguments = items ++ [.leaf creation.closing] := by
  constructor
  · intro made
    unfold Creation.ofParts? at made
    split at made
    · rename_i keyword constructed rest
      split at made
      · rename_i arguments lastPart
        split at made
        · rename_i closing lastArgument
          obtain ⟨kinds, same⟩ := Option.ite_none_right_eq_some.mp made
          cases same
          obtain ⟨between, rfl⟩ := List.getLast?_eq_some_iff.mp lastPart
          obtain ⟨items, rfl⟩ := List.getLast?_eq_some_iff.mp lastArgument
          exact ⟨kinds.1, kinds.2, between, items, rfl, rfl⟩
        · cases made
      · cases made
    · cases made
  · obtain ⟨keyword, constructed, arguments, closing⟩ := creation
    rintro ⟨opens, closes, between, items, rfl, closed⟩
    dsimp only at closed
    subst closed
    simp only [Creation.ofParts?, List.getLast?_concat]
    exact if_pos ⟨opens, closes⟩

theorem Creation.ofParts?_leaves {parts : List Node} {creation : Creation}
    (made : Creation.ofParts? parts = some creation) :
    ∃ rest inner, parts = .leaf creation.keyword :: rest ∧ leavesOf rest = inner ++ [creation.closing] := by
  obtain ⟨-, -, between, items, rfl, closed⟩ := Creation.ofParts?_eq_some_iff.mp made
  refine ⟨_, leavesOf creation.constructed ++ (leavesOf between ++ leavesOf items), rfl, ?_⟩
  simp only [leavesOf, leavesOf_append, Node.leaves, closed, List.append_assoc, List.append_nil]

theorem declaration?_creation {parts : List Node} (made : declaration? source parts = some capture) :
    ∃ creation, Creation.ofParts? parts = some creation ∧
      capture.text = textOf source creation.keyword.start creation.closing.stop ∧
      capture.start = pointAt source creation.keyword.start ∧
      capture.stop = pointAt source creation.closing.stop := by
  simp only [declaration?, Option.bind_eq_bind, Option.bind_eq_some_iff] at made
  obtain ⟨creation, whole, _, -, _, -, _, -, same⟩ := made
  cases same
  exact ⟨creation, whole, rfl, rfl, rfl⟩

theorem capture_between (member : capture ∈ capturesOf source (tree source)) :
    ∃ first last, first ≤ last ∧ Bytes.ofText "new" <+: source.drop first ∧
      Bytes.ofText ")" <+: source.drop last ∧ capture.text = textOf source first (last + 1) ∧
      capture.start = pointAt source first ∧ capture.stop = pointAt source (last + 1) := by
  rw [capturesOf_eq] at member
  obtain ⟨parts, inside, made⟩ := mem_gatherOf_iff.mp member
  obtain ⟨creation, whole, text, start, stop⟩ := declaration?_creation made
  obtain ⟨opens, closes, -⟩ := Creation.ofParts?_eq_some_iff.mp whole
  obtain ⟨rest, inner, rfl, tokens⟩ := Creation.ofParts?_leaves whole
  obtain ⟨_, run⟩ := tree_run source
  -- Both tokens are tokens of the tree, in this order.
  have both : [creation.keyword, creation.closing].Sublist (leavesOf (tree source)) := by
    refine List.Sublist.trans ?_ inside.leaves_sublist
    rw [Node.leaves, leavesOf, tokens]
    exact List.Sublist.cons_cons _ (List.sublist_append_right _ _)
  have apart := List.rel_of_pairwise_cons (run.ordered.sublist both) List.mem_cons_self
  obtain ⟨forward, fits⟩ := (run.stands _ (both.subset List.mem_cons_self)).1
  obtain ⟨forward', fits'⟩ :=
    (run.stands _ (both.subset (List.mem_cons_of_mem _ List.mem_cons_self))).1
  rw [opens] at fits
  rw [closes] at fits'
  have narrow : (Bytes.ofText ")").length = 1 := by decide
  have stopped : creation.closing.stop = creation.closing.start + 1 := by
    have long := fits'.2
    omega
  rw [stopped] at text stop
  exact ⟨_, _, Nat.le_trans forward apart, fits.1, fits'.1, text, start, stop⟩

theorem mem_of_extract {captures : List Capture} (extracted : extract source = .ok captures)
    (member : capture ∈ captures) : capture ∈ capturesOf source (tree source) := by
  unfold extract at extracted
  split at extracted
  · cases extracted
  · cases extracted
    exact member

theorem toNat_capped {count : Nat} (small : count < 2 ^ 32) : (capped count).toNat = count := by
  have least : min count 0xFFFFFFFF = count := by omega
  rw [capped, least, UInt32.toNat_ofNat_of_lt' small]

def pointAfter (front : List Char) : Point :=
  ⟨capped (front.count '\n'), capped (Utf8.encode (Utf8.lastLine front)).length⟩

theorem pointAt_encode (front back : List Char) :
    pointAt (Utf8.encode (front ++ back)) (Utf8.encode front).length = pointAfter front := by
  rw [pointAt, pointAfter, Utf8.encode_append, List.take_left, Utf8.count_encode,
    Utf8.lastLine_encode]

theorem textOf_encode (front middle back : List Char) :
    textOf (Utf8.encode (front ++ middle ++ back)) (Utf8.encode front).length
      (Utf8.encode (front ++ middle)).length = String.ofList middle := by
  have width : (Utf8.encode (front ++ middle)).length - (Utf8.encode front).length =
      (Utf8.encode middle).length := by
    rw [Utf8.encode_append, List.length_append, Nat.add_sub_cancel_left]
  rw [textOf, width, List.append_assoc, Utf8.encode_append, List.drop_left, Utf8.encode_append,
    List.take_left, Utf8.decodeLossy_encode]

theorem exists_boundary_of_prefix {chars : List Char} {offset : Nat} {mark : String} {b : UInt8}
    (narrow : b.toNat < 128) (spelled : (Bytes.ofText mark).head? = some b)
    (stands : Bytes.ofText mark <+: (Utf8.encode chars).drop offset) :
    ∃ front back, chars = front ++ Char.ofNat b.toNat :: back ∧
      (Utf8.encode front).length = offset := by
  obtain ⟨rest, same⟩ := stands
  obtain ⟨others, spelled⟩ := List.head?_eq_some_iff.mp spelled
  rw [spelled, List.cons_append] at same
  exact Utf8.exists_boundary narrow same.symm

theorem capture_divides {chars : List Char}
    (member : capture ∈ capturesOf (Utf8.encode chars) (tree (Utf8.encode chars))) :
    ∃ front middle back, chars = front ++ middle ++ back ∧ capture.text = String.ofList middle ∧
      middle.head? = some 'n' ∧ middle.getLast? = some ')' ∧
      capture.start = pointAfter front ∧ capture.stop = pointAfter (front ++ middle) := by
  obtain ⟨first, last, forward, opens, closes, text, start, stop⟩ := capture_between member
  obtain ⟨front, after, divided, rfl⟩ :=
    exists_boundary_of_prefix (b := 0x6E) (by decide) (by decide) opens
  obtain ⟨before, back, divided', rfl⟩ :=
    exists_boundary_of_prefix (b := 0x29) (by decide) (by decide) closes
  -- The first place comes no later than the second, so its characters are the first of those.
  have begins : front <+: chars := ⟨_, divided.symm⟩
  have begins' : before <+: chars := ⟨_, divided'.symm⟩
  obtain ⟨inner, rfl⟩ := Utf8.prefix_of_length_le begins begins' forward
  have same : 'n' :: after = inner ++ ')' :: back := by
    rw [divided, List.append_assoc] at divided'
    exact List.append_cancel_left divided'
  have chars_eq : chars = front ++ (inner ++ [')']) ++ back := by
    simpa using divided'
  have behind : (Utf8.encode (front ++ inner)).length + 1 =
      (Utf8.encode (front ++ (inner ++ [')']))).length := by
    rw [← List.append_assoc, Utf8.encode_append _ [')'], List.length_append]
    rfl
  refine ⟨front, inner ++ [')'], back, chars_eq, ?_, ?_, by simp, ?_, ?_⟩
  · rw [text, behind, chars_eq, textOf_encode]
  · cases inner with
    | nil => cases same
    | cons c inner => rw [(List.cons.inj same).1]; rfl
  · rw [start, chars_eq, List.append_assoc, pointAt_encode]
  · rw [stop, behind, chars_eq, pointAt_encode]

end PolicyServer.Source
