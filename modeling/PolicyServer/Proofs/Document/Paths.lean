import Mathlib.Data.List.TakeWhile
import PolicyServer.Document.Path
import PolicyServer.Proofs.Text.Percent

/-!
Paths and names of files: the name of a path leads back to a path with the same components.

A name is taken apart by signs that have a meaning in it. All of these are coded in a component, so each
segment of a name is a component, and no segment leaves a directory unless a component does.
-/

namespace PolicyServer

namespace Path

variable {part path : Bytes} {parts : List Bytes}

/-! ### Components -/

theorem split_eq (path : Bytes) : split path = path.splitOnP (· = 0x2F) := by
  induction path with
  | nil => rw [split, List.splitOnP_nil]
  | cons b path ih =>
    rw [split, List.splitOnP_cons_eq_if_modifyHead, ih]
    -- There is always a first part that takes the byte.
    obtain ⟨part, parts, some⟩ := List.exists_cons_of_ne_nil (List.splitOnP_ne_nil (· = 0x2F) path)
    simp [some]

theorem components_append (front back : Bytes) :
    components (front ++ 0x2F :: back) = components front ++ components back := by
  rw [components, split_eq, List.splitOnP_append_cons front back (by decide), List.filter_append,
    ← split_eq, ← split_eq]
  rfl

theorem components_slash (back : Bytes) : components (0x2F :: back) = components back :=
  components_append [] back

/-- What stands between two slashes of a path and leads on. -/
structure IsComponent (part : Bytes) : Prop where
  some : part ≠ []
  other : part ≠ [0x2E]
  plain : 0x2F ∉ part

theorem notMem_of_mem_split (member : part ∈ split path) : 0x2F ∉ part := by
  induction path generalizing part with
  | nil =>
    rw [split, List.mem_singleton] at member
    simp [member]
  | cons b path ih =>
    rw [split] at member
    split at member
    · rcases List.mem_cons.mp member with rfl | member
      · simp
      · exact ih member
    · rename_i other
      split at member
      · rename_i first parts whole
        rw [whole] at ih
        rcases List.mem_cons.mp member with rfl | member
        · simpa [Ne.symm other] using ih List.mem_cons_self
        · exact ih (List.mem_cons_of_mem _ member)
      · simpa [List.mem_singleton.mp member] using Ne.symm other

theorem isComponent_of_mem (member : part ∈ components path) : IsComponent part := by
  obtain ⟨member, kept⟩ := List.mem_filter.mp member
  obtain ⟨some, other⟩ := of_decide_eq_true kept
  exact ⟨some, other, notMem_of_mem_split member⟩

theorem IsComponent.components_eq (component : IsComponent part) : components part = [part] := by
  have single : part.splitOnP (· = 0x2F) = [part] := by
    refine List.splitOnP_eq_singleton fun b member => decide_eq_false ?_
    rintro rfl
    exact component.plain member
  rw [components, split_eq, single, List.filter_singleton]
  simp [component.some, component.other]

def rooted (parts : List Bytes) : Bytes := if parts.isEmpty then [0x2F] else parts.flatMap (0x2F :: ·)

theorem rooted_cases (parts : List Bytes) : ∃ rest, rooted parts = 0x2F :: rest := by
  cases parts with
  | nil => exact ⟨_, rfl⟩
  | cons part parts => exact ⟨_, rfl⟩

theorem components_flatMap (each : ∀ part ∈ parts, IsComponent part) :
    components (parts.flatMap (0x2F :: ·)) = parts := by
  induction parts with
  | nil => rfl
  | cons part parts ih =>
    obtain ⟨component, others⟩ := List.forall_mem_cons.mp each
    rw [List.flatMap_cons, List.cons_append, components_slash]
    cases parts with
    | nil => rw [List.flatMap_nil, List.append_nil, component.components_eq]
    | cons next parts =>
      -- The slash before the next component ends this one.
      have rest := ih others
      rw [List.flatMap_cons, List.cons_append, components_slash] at rest
      rw [List.flatMap_cons, List.cons_append, components_append, component.components_eq, rest,
        List.singleton_append]

theorem components_rooted (each : ∀ part ∈ parts, IsComponent part) : components (rooted parts) = parts := by
  unfold rooted
  split
  · rename_i none
    rw [List.isEmpty_iff.mp none]
    rfl
  · exact components_flatMap each

end Path

namespace DocumentUri

open PolicyServer.Path

variable {part : Bytes} {parts : List Bytes} {text segment : List Char}

/-! ### Coded components -/

def coded (part : Bytes) : List Char := Percent.encode isPlain part

def isTame (c : Char) : Bool :=
  !isMargin c && !isBreak c && !isPathEnd c && !isSlash c && c.toNat < 128

theorem narrow_of_isPlain (b : UInt8) (plain : isPlain b = true) : b.toNat < 128 := by
  simp only [isPlain, Bool.and_eq_true, decide_eq_true_eq, UInt8.lt_iff_toNat_lt] at plain
  exact Nat.lt_trans plain.1.2 (by decide)

theorem decode_coded (part : Bytes) : Percent.decode (Utf8.encode (coded part)) = part :=
  Percent.decode_encode (by decide) narrow_of_isPlain part

theorem isTame_of_mem_coded {c : Char} (member : c ∈ coded part) : isTame c = true := by
  -- All bytes are looked at in turn.
  have all : ∀ n : Fin 256, (Percent.encodeByte isPlain (UInt8.ofNat n)).all isTame = true := by
    decide +kernel
  obtain ⟨b, -, member⟩ := List.mem_flatMap.mp member
  have tame := all ⟨b.toNat, b.toNat_lt⟩
  rw [UInt8.ofNat_toNat] at tame
  exact List.all_eq_true.mp tame c member

theorem coded_ne_nil (some : part ≠ []) : coded part ≠ [] := by
  intro none
  have read := decode_coded part
  rw [none] at read
  exact some read.symm

/-! ### Segments that lead nowhere or back -/

theorem eq_or_upper_of_lowerAscii {c d : Char} (lower : Text.lowerAscii c = d) :
    c = d ∨ c.toNat + 32 = d.toNat ∧ 65 ≤ c.toNat ∧ c.toNat ≤ 90 := by
  unfold Text.lowerAscii at lower
  split at lower
  · rename_i capital
    have low : 65 ≤ c.toNat := capital.1
    have high : c.toNat ≤ 90 := capital.2
    rw [← lower, Percent.toNat_ofNat_narrow (by omega)]
    exact .inr ⟨rfl, low, high⟩
  · exact .inl lower

theorem eq_of_lowerAscii {c d : Char} (sign : d.toNat < 97) (lower : Text.lowerAscii c = d) : c = d := by
  rcases eq_or_upper_of_lowerAscii lower with same | ⟨value, low, -⟩
  · exact same
  · omega

def dots : List (List Char) := [['.'], ['%', '2', 'e'], ['%', '2', 'E']]

theorem mem_dots_of_plain (lower : segment.map Text.lowerAscii = ['.']) : segment ∈ dots := by
  obtain ⟨c, rest, rfl, dot, none⟩ := List.map_eq_cons_iff.mp lower
  rw [List.map_eq_nil_iff] at none
  rw [none, eq_of_lowerAscii (by decide) dot]
  simp [dots]

theorem mem_dots_of_escape (lower : segment.map Text.lowerAscii = ['%', '2', 'e']) : segment ∈ dots := by
  obtain ⟨a, rest, rfl, first, lower⟩ := List.map_eq_cons_iff.mp lower
  obtain ⟨b, rest, rfl, second, lower⟩ := List.map_eq_cons_iff.mp lower
  obtain ⟨c, rest, rfl, third, none⟩ := List.map_eq_cons_iff.mp lower
  rw [List.map_eq_nil_iff] at none
  rw [none, eq_of_lowerAscii (by decide) first, eq_of_lowerAscii (by decide) second]
  rcases eq_or_upper_of_lowerAscii third with rfl | ⟨value, -⟩
  · simp [dots]
  · -- The only other letter is the capital one.
    have capital : c = 'E' := by
      have code : c.toNat = 69 := by
        have small : 'e'.toNat = 101 := rfl
        omega
      rw [← Char.ofNat_toNat c, code]
    rw [capital]
    simp [dots]

theorem mem_dots_of_isHere (here : isHere segment = true) : segment ∈ dots := by
  rcases List.mem_cons.mp (of_decide_eq_true here) with lower | member
  · exact mem_dots_of_plain lower
  · exact mem_dots_of_escape (List.mem_singleton.mp member)

theorem dots_of_isAbove (above : isAbove segment = true) :
    ∃ first ∈ dots, ∃ second ∈ dots, segment = first ++ second := by
  have cases : segment.map Text.lowerAscii = ['.'] ++ ['.'] ∨
      segment.map Text.lowerAscii = ['.'] ++ ['%', '2', 'e'] ∨
      segment.map Text.lowerAscii = ['%', '2', 'e'] ++ ['.'] ∨
      segment.map Text.lowerAscii = ['%', '2', 'e'] ++ ['%', '2', 'e'] := by
    simpa [isAbove] using above
  rcases cases with lower | lower | lower | lower
  all_goals obtain ⟨first, second, rfl, lower, lower'⟩ := List.map_eq_append_iff.mp lower
  · exact ⟨first, mem_dots_of_plain lower, second, mem_dots_of_plain lower', rfl⟩
  · exact ⟨first, mem_dots_of_plain lower, second, mem_dots_of_escape lower', rfl⟩
  · exact ⟨first, mem_dots_of_escape lower, second, mem_dots_of_plain lower', rfl⟩
  · exact ⟨first, mem_dots_of_escape lower, second, mem_dots_of_escape lower', rfl⟩

theorem not_isHere_coded (other : part ≠ [0x2E]) : isHere (coded part) = false := by
  refine Bool.eq_false_iff.mpr fun here => other ?_
  have all : ∀ segment ∈ dots, Percent.decode (Utf8.encode segment) = [0x2E] := by decide
  rw [← decode_coded part]
  exact all _ (mem_dots_of_isHere here)

theorem not_isAbove_coded (other : part ≠ [0x2E, 0x2E]) : isAbove (coded part) = false := by
  refine Bool.eq_false_iff.mpr fun above => other ?_
  obtain ⟨first, dot, second, dot', whole⟩ := dots_of_isAbove above
  have all : ∀ first ∈ dots, ∀ second ∈ dots,
      Percent.decode (Utf8.encode (first ++ second)) = [0x2E, 0x2E] := by decide
  rw [← decode_coded part, whole]
  exact all first dot second dot'

/-! ### Following a name -/

theorem bounds_of_isTame {c : Char} (tame : isTame c = true) :
    isMargin c = false ∧ isBreak c = false ∧ isPathEnd c = false ∧ isSlash c = false ∧ c.toNat < 128 := by
  simpa [isTame, and_assoc] using tame

theorem joined_coded (part : Bytes) : joined (coded part) = coded part := by
  refine List.filter_eq_self.mpr fun c member => ?_
  simp [(bounds_of_isTame (isTame_of_mem_coded member)).2.1]

theorem not_isBrokenDrive_coded (part : Bytes) : isBrokenDrive (coded part) = false := by
  unfold isBrokenDrive
  split
  · rw [Bool.and_eq_false_iff]
    right
    cases next : (((coded part).dropWhile (· ≠ ':')).drop 1).head? with
    | none => rfl
    | some c =>
      -- What follows the colon is a character of the component, and so is no break.
      have member := (List.drop_sublist 1 _).subset (List.mem_of_head? next)
      have member := (List.dropWhile_sublist _).subset member
      exact (bounds_of_isTame (isTame_of_mem_coded member)).2.1
  · rfl

/-- A segment leads on from the directories so far. -/
structure LeadsOn (segment : List Char) : Prop where
  whole : joined segment = segment
  onward : isAbove segment = false
  farther : isHere segment = false

theorem follow_of_ne_nil {place segments : List (List Char)} {drive : Bool} (begun : place ≠ [])
    (each : ∀ segment ∈ segments, LeadsOn segment) :
    follow place drive segments = (segments.reverse ++ place, drive) := by
  have some : place.isEmpty = false := by simpa using begun
  induction segments generalizing place with
  | nil => rw [follow]; rfl
  | cons segment rest ih =>
    obtain ⟨leads, others⟩ := List.forall_mem_cons.mp each
    rw [follow]
    simp only [leads.whole, leads.onward, leads.farther, some, Bool.false_and, Bool.false_eq_true, if_false]
    rw [ih (List.cons_ne_nil _ _) others (by rfl)]
    simp

theorem follow_root {segments : List (List Char)} (each : ∀ segment ∈ segments, LeadsOn segment)
    (unbroken : ∀ segment ∈ segments, isBrokenDrive segment = false)
    (first : ∀ segment, segments.head? = some segment → isDrive segment = true →
      ∃ letter, segment = [letter, ':']) :
    (follow [] false segments).1 = segments.reverse := by
  cases segments with
  | nil => rfl
  | cons segment rest =>
    obtain ⟨leads, others⟩ := List.forall_mem_cons.mp each
    have whole := (List.forall_mem_cons.mp unbroken).1
    rw [follow]
    simp only [leads.whole, leads.onward, leads.farther, whole, List.isEmpty_nil, Bool.true_and,
      Bool.false_eq_true, if_false]
    split
    · -- The drive has its colon already.
      rename_i drive
      obtain ⟨letter, rfl⟩ := first segment rfl drive
      have same : (if rest.isEmpty then [letter, ':'] else [[letter, ':'].headD ':', ':']) = [letter, ':'] :=
        ite_self _
      rw [same, follow_of_ne_nil (List.cons_ne_nil _ _) others]
      simp
    · rw [follow_of_ne_nil (List.cons_ne_nil _ _) others]
      simp

theorem leadsOn_coded (component : IsComponent part) (inner : part ≠ [0x2E, 0x2E]) : LeadsOn (coded part) :=
  ⟨joined_coded part, not_isAbove_coded inner, not_isHere_coded component.other⟩

theorem isAlpha_bounds {letter : Char} (alpha : letter.isAlpha = true) :
    65 ≤ letter.toNat ∧ letter.toNat ≤ 122 := by
  rcases (Bool.or_eq_true _ _).mp alpha with upper | lower
  · obtain ⟨low, high⟩ : 65 ≤ letter.toNat ∧ letter.toNat ≤ 90 := of_decide_eq_true upper
    omega
  · obtain ⟨low, high⟩ := (Bool.and_eq_true _ _).mp lower
    have low : 97 ≤ letter.toNat := of_decide_eq_true low
    have high : letter.toNat ≤ 122 := of_decide_eq_true high
    omega

theorem drive_cases (drive : isDrive (coded part) = true) :
    (∃ letter, coded part = [letter, ':']) ∨
      ∃ letter : Char, letter.isAlpha = true ∧ part = Utf8.encode [letter, '|'] := by
  unfold isDrive at drive
  split at drive
  · rename_i letter mark whole
    rw [Bool.and_eq_true, Bool.or_eq_true, decide_eq_true_eq, decide_eq_true_eq] at drive
    obtain ⟨alpha, rfl | rfl⟩ := drive
    · exact .inl ⟨letter, whole⟩
    · obtain ⟨low, high⟩ := isAlpha_bounds alpha
      refine .inr ⟨letter, alpha, ?_⟩
      have other : UInt8.ofNat letter.toNat ≠ 0x25 := by
        intro same
        have value : (UInt8.ofNat letter.toNat).toNat = letter.toNat := Utf8.toNat_byte (by omega)
        rw [same] at value
        have sign : (0x25 : UInt8).toNat = 37 := rfl
        omega
      rw [← decode_coded part, whole, Utf8.encode_cons_narrow (by omega), Percent.decode,
        Percent.decodeFrom_cons other]
      rfl
  · cases drive

/-! ### The name of a path -/

def route (parts : List Bytes) : List Char :=
  if parts.isEmpty then ['/'] else parts.flatMap fun part => '/' :: coded part

theorem segments_eq (text : List Char) : segments text = text.splitOnP isSlash := by
  induction text with
  | nil => rw [segments, List.splitOnP_nil]
  | cons c text ih =>
    rw [segments, List.splitOnP_cons_eq_if_modifyHead, ih]
    obtain ⟨part, parts, some⟩ := List.exists_cons_of_ne_nil (List.splitOnP_ne_nil isSlash text)
    simp [some]

theorem splitOnP_coded (part : Bytes) : (coded part).splitOnP isSlash = [coded part] :=
  List.splitOnP_eq_singleton fun _ member => (bounds_of_isTame (isTame_of_mem_coded member)).2.2.2.1

theorem segments_coded (part : Bytes) (parts : List Bytes) :
    segments (coded part ++ parts.flatMap fun part => '/' :: coded part) = (part :: parts).map coded := by
  rw [segments_eq]
  induction parts generalizing part with
  | nil => rw [List.flatMap_nil, List.append_nil, splitOnP_coded, List.map_singleton]
  | cons next parts ih =>
    rw [List.flatMap_cons, List.cons_append, List.splitOnP_append_cons _ _ (by decide), splitOnP_coded, ih,
      List.singleton_append]
    rfl

theorem route_cases (parts : List Bytes) : ∃ tail, route parts = '/' :: tail ∧
    (parts = [] ∧ segments tail = [[]] ∨ parts ≠ [] ∧ segments tail = parts.map coded) := by
  cases parts with
  | nil => exact ⟨[], rfl, .inl ⟨rfl, rfl⟩⟩
  | cons part parts => exact ⟨_, rfl, .inr ⟨List.cons_ne_nil _ _, segments_coded part parts⟩⟩

theorem mem_route_cases {c : Char} (member : c ∈ route parts) : c = '/' ∨ isTame c = true := by
  unfold route at member
  split at member
  · exact .inl (List.mem_singleton.mp member)
  · obtain ⟨part, -, member⟩ := List.mem_flatMap.mp member
    rcases List.mem_cons.mp member with same | member
    · exact .inl same
    · exact .inr (isTame_of_mem_coded member)

theorem bare_eq_self (none : ∀ c ∈ text, isMargin c = false) : bare text = text := by
  have kept {text : List Char} (none : ∀ c ∈ text, isMargin c = false) : text.dropWhile isMargin = text := by
    refine List.dropWhile_eq_self_iff.mpr fun some => ?_
    rw [none _ (List.getElem_mem some)]
    exact Bool.false_ne_true
  rw [bare, kept none, kept fun c member => none c (List.mem_reverse.mp member), List.reverse_reverse]

/-- A path keeps its components by way of its name: it comes from the root, never goes back, and its first
component is no letter with a bar, which would name a drive. -/
structure Portable (path : Bytes) : Prop where
  absolute : isAbsolute path = true
  onward : [0x2E, 0x2E] ∉ components path
  driveless : ∀ letter : Char, letter.isAlpha = true →
    (components path).head? ≠ some (Utf8.encode [letter, '|'])

theorem ofPath_eq {path : Bytes} (absolute : isAbsolute path = true) :
    ofPath path = .ok ⟨String.ofList ("file://".toList ++ route (components path))⟩ := by
  rw [ofPath, if_pos absolute]
  cases components path <;> rfl

theorem follow_route {path : Bytes} {tail : List Char} (portable : Portable path)
    (whole : route (components path) = '/' :: tail) :
    (follow [] false (segments tail)).1.reverse.dropWhile (·.isEmpty) = (components path).map coded := by
  obtain ⟨tail', whole', divided⟩ := route_cases (components path)
  obtain ⟨-, rfl⟩ := List.cons.inj (whole.symm.trans whole')
  rcases divided with ⟨none, divided⟩ | ⟨some, divided⟩
  · rw [divided, none]
    rfl
  · have each : ∀ segment ∈ (components path).map coded, ∃ part ∈ components path, segment = coded part := by
      simp [eq_comm]
    rw [divided, follow_root, List.reverse_reverse]
    · -- No component is empty.
      refine List.dropWhile_eq_self_iff.mpr fun room => ?_
      obtain ⟨part, member, coded⟩ := each _ (List.getElem_mem room)
      rw [coded, List.isEmpty_iff]
      exact coded_ne_nil (isComponent_of_mem member).some
    · intro segment member
      obtain ⟨part, there, rfl⟩ := each segment member
      refine leadsOn_coded (isComponent_of_mem there) ?_
      rintro rfl
      exact portable.onward there
    · intro segment member
      obtain ⟨part, -, rfl⟩ := each segment member
      exact not_isBrokenDrive_coded part
    · intro segment first drive
      rw [List.head?_map, Option.map_eq_some_iff] at first
      obtain ⟨part, first, rfl⟩ := first
      rcases drive_cases drive with colon | ⟨letter, alpha, rfl⟩
      · exact colon
      · exact absurd first (portable.driveless letter alpha)

theorem toPath_route {path : Bytes} (portable : Portable path) :
    ∃ back, toPath ⟨String.ofList ("file://".toList ++ route (components path))⟩ = .ok back ∧
      (back = rooted (components path) ∨ back = rooted (components path) ++ [0x2F]) := by
  obtain ⟨tail, whole, -⟩ := route_cases (components path)
  have tame : ∀ c ∈ '/' :: tail, c = '/' ∨ isTame c = true := by
    intro c member
    rw [← whole] at member
    exact mem_route_cases member
  have outside : bare ("file://".toList ++ route (components path)) = "file:///".toList ++ tail := by
    rw [whole]
    refine bare_eq_self fun c member => ?_
    rcases List.mem_append.mp member with scheme | member
    · have all : ∀ c ∈ "file://".toList, isMargin c = false := by simp [isMargin]
      exact all c scheme
    · rcases tame c member with rfl | tame
      · rfl
      · exact (bounds_of_isTame tame).1
  have scheme : afterScheme? ("file:///".toList ++ tail) = some ('/' :: '/' :: '/' :: tail) := rfl
  have host : authority ('/' :: '/' :: '/' :: tail) = ([], '/' :: tail) := rfl
  have ended : ('/' :: tail).takeWhile (!isPathEnd ·) = '/' :: tail := by
    refine List.takeWhile_eq_self_iff.mpr fun c member => ?_
    rcases tame c member with rfl | tame
    · rfl
    · simp [(bounds_of_isTame tame).2.2.1]
  have slash : afterSlash? ('/' :: tail) = some tail := rfl
  have here : Host.parse? [] = some .here := rfl
  have led := follow_route portable whole
  have read : ((components path).map coded).map (fun part => 0x2F :: Percent.decode (Utf8.encode part)) =
      (components path).map (0x2F :: ·) := by
    rw [List.map_map]
    exact List.map_congr_left fun part _ => congrArg _ (decode_coded part)
  have root : (if ((components path).map (0x2F :: ·)).isEmpty then [0x2F]
      else ((components path).map (0x2F :: ·)).flatten) = rooted (components path) := by
    rw [List.isEmpty_map, rooted, List.flatMap_def]
  simp only [toPath, String.toList_ofList, outside, scheme, host, ended, slash, Option.getD_some, here, led,
    read, root, reduceCtorEq, decide_false, Bool.false_and, Bool.false_eq_true, if_false]
  -- A path that ends in a drive gets a slash more.
  exact ⟨_, rfl, (ite_eq_or_eq _ _ _).symm⟩

theorem components_toPath {path : Bytes} (portable : Portable path) :
    ∃ back, toPath ⟨String.ofList ("file://".toList ++ route (components path))⟩ = .ok back ∧
      isAbsolute back = true ∧ components back = components path := by
  obtain ⟨back, read, shape⟩ := toPath_route portable
  obtain ⟨rest, begins⟩ := rooted_cases (components path)
  have kept : components (rooted (components path)) = components path :=
    components_rooted fun _ => isComponent_of_mem
  refine ⟨back, read, ?_⟩
  rcases shape with rfl | rfl
  · rw [begins] at kept ⊢
    exact ⟨rfl, kept⟩
  · rw [components_append, kept, begins]
    exact ⟨rfl, List.append_nil _⟩

/-- The name of a portable path is an ASCII name of a file, and leads back to a path with the same
components. So portable paths with the same name have the same components. -/
theorem names_lead_back (path : Bytes) (portable : Portable path) :
    ∃ uri, ofPath path = .ok uri ∧ "file:///".toList <+: uri.text.toList ∧
      (∀ c ∈ uri.text.toList, c.toNat < 128) ∧
      (∃ back, uri.toPath = .ok back ∧ isAbsolute back = true ∧ components back = components path) ∧
      ∀ other, Portable other → ofPath other = .ok uri → components other = components path := by
  refine ⟨_, ofPath_eq portable.absolute, ?_, ?_, components_toPath portable, fun other portable' same => ?_⟩
  · obtain ⟨tail, whole, -⟩ := route_cases (components path)
    refine ⟨tail, ?_⟩
    rw [whole]
    simp only [String.toList_ofList]
    rfl
  · intro c member
    rw [String.toList_ofList] at member
    rcases List.mem_append.mp member with scheme | member
    · have all : ∀ c ∈ "file://".toList, c.toNat < 128 := by simp
      exact all c scheme
    · rcases mem_route_cases member with rfl | tame
      · decide
      · exact (bounds_of_isTame tame).2.2.2.2
  · -- Both paths have the components of the one path that their name leads back to.
    rw [ofPath_eq portable'.absolute] at same
    obtain ⟨back, read, -, kept⟩ := components_toPath portable
    obtain ⟨back', read', -, kept'⟩ := components_toPath portable'
    rw [Except.ok.inj same, read] at read'
    rw [← kept, ← kept', Except.ok.inj read']

/-- A path with signs that have a meaning in names, a drive, and bytes that are no text. -/
def crookedPath : Bytes := Bytes.ofText "//C:/./%2e%2E/a?b#c\\d|\t /é" ++ [0xFF, 0x2F]

theorem crooked_path_leads_back :
    ∃ uri back, ofPath crookedPath = .ok uri ∧ (∀ c ∈ uri.text.toList, c.toNat < 128) ∧
      uri.toPath = .ok back ∧ components back = components crookedPath ∧
      components crookedPath = [Bytes.ofText "C:", Bytes.ofText "%2e%2E", Bytes.ofText "a?b#c\\d|\t ",
        Bytes.ofText "é" ++ [0xFF]] := by
  have first : components crookedPath = [Bytes.ofText "C:", Bytes.ofText "%2e%2E",
      Bytes.ofText "a?b#c\\d|\t ", Bytes.ofText "é" ++ [0xFF]] := by decide +kernel
  have portable : Portable crookedPath := by
    refine ⟨by decide +kernel, by rw [first]; decide +kernel, fun letter alpha same => ?_⟩
    -- The first component ends with a colon.
    rw [first, List.head?_cons, Option.some.injEq] at same
    have last : (Bytes.ofText "C:").getLast? = (Utf8.encode [letter] ++ [0x7C]).getLast? := by
      rw [same, ← List.singleton_append, Utf8.encode_append]
      rfl
    rw [List.getLast?_concat] at last
    exact absurd last (by decide)
  obtain ⟨uri, named, -, ascii, ⟨back, read, -, kept⟩, -⟩ := names_lead_back crookedPath portable
  exact ⟨uri, back, named, ascii, read, kept, first⟩

end DocumentUri

end PolicyServer
