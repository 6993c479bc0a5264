import Mathlib.Data.List.Forall2
import Mathlib.Data.List.TakeWhile
import PolicyServer.Analysis.Correlate
import PolicyServer.Proofs.Json.Layout
import PolicyServer.Proofs.Table

/-!
Where violations are shown, told without the walk over the resources.

The diagnostics of a document are those of the violations reported in it, one each, in the order of
the report. A document is left out if nothing is reported in it, or if it offers no declarations.
-/

namespace PolicyServer

namespace Text

/-- A text without the blank characters around it; nothing else is taken away. -/
structure Trims (text trimmed : String) : Prop where
  around : ∃ before after, text.toList = before ++ trimmed.toList ++ after ∧
    (∀ c ∈ before, isBlank c = true) ∧ ∀ c ∈ after, isBlank c = true
  first : ∀ c, trimmed.toList.head? = some c → isBlank c = false
  last : ∀ c, trimmed.toList.getLast? = some c → isBlank c = false

theorem head?_dropWhile (chars : List Char) {c : Char}
    (first : (chars.dropWhile isBlank).head? = some c) : isBlank c = false := by
  have kept := List.head?_dropWhile_not isBlank chars
  rw [first] at kept
  exact kept

theorem trim_trims (text : String) : Trims text (trim text) := by
  let inner := text.toList.dropWhile isBlank
  let core := inner.reverse.dropWhile isBlank
  have trimmed : (trim text).toList = core.reverse := String.toList_ofList
  -- What is passed over from the end comes behind what is left.
  have split : inner = core.reverse ++ (inner.reverse.takeWhile isBlank).reverse := by
    rw [← List.reverse_append, List.takeWhile_append_dropWhile, List.reverse_reverse]
  refine ⟨⟨text.toList.takeWhile isBlank, (inner.reverse.takeWhile isBlank).reverse, ?_, ?_, ?_⟩,
    ?_, ?_⟩
  · rw [trimmed, List.append_assoc, ← split, List.takeWhile_append_dropWhile]
  · exact fun c member => List.mem_takeWhile_imp member
  · exact fun c member => List.mem_takeWhile_imp (List.mem_reverse.mp member)
  · intro c first
    rw [trimmed] at first
    have start : inner.head? = some c := by
      rw [split, List.head?_append, first]
      rfl
    exact head?_dropWhile text.toList start
  · intro c last
    rw [trimmed, List.getLast?_reverse] at last
    exact head?_dropWhile inner.reverse last

end Text

/-- A violation as it is reported: on which resource, and on which line. -/
structure Report where
  urn : String
  line : UInt32
  violation : Violation

namespace Findings

variable {files : FileMap} {disk : Disk} {uri : String} {captures : List Capture}
  {parse : Bytes → Except Source.ExtractError (List Capture)}
  {declarations : String → Option (List Capture)}

/-! ### What is to be shown -/

/-- What is reported of one resource in a document: all its violations, if it is declared there. -/
def reportsOf (uri : String) (entry : String × Resource) : List Report :=
  match entry.2.position with
  | none => []
  | some position =>
    if position.uri = uri then
      entry.2.violations.map fun violation => ⟨entry.1, position.line, violation⟩
    else []

def reportsOn (resources : Resources) (uri : String) : List Report :=
  resources.flatMap (reportsOf uri)

/-- What a document holds: what the editor sent, and only for a document that it did not send, what
lies on disk. -/
inductive Holds (files : FileMap) (disk : Disk) (uri : String) : Bytes → Prop where
  | sent {handle : FileHandle} {contents : Bytes} (found : files.get? uri = some handle)
      (readable : handle.content = .ok contents) : Holds files disk uri contents
  | stored {path contents : Bytes} (unsent : files.get? uri = none)
      (place : DocumentUri.toPath ⟨uri⟩ = .ok path) (readable : disk.read path = .ok contents) :
      Holds files disk uri contents

/-- The declarations that a document offers; one that parses but declares nothing offers none. -/
inductive Offers (files : FileMap) (disk : Disk)
    (parse : Bytes → Except Source.ExtractError (List Capture)) (uri : String) :
    List Capture → Prop where
  | declared {contents : Bytes} {captures : List Capture} (holds : Holds files disk uri contents)
      (parsed : parse contents = .ok captures) : Offers files disk parse uri captures
  | bare {contents : Bytes} (holds : Holds files disk uri contents)
      (parsed : parse contents = .error .noDeclarations) : Offers files disk parse uri []

/-- Where something on a row is shown: on the first declaration that starts there, else at the head of
the row. -/
inductive Placed (captures : List Capture) (row : UInt32) : Option Capture → Range → Prop where
  | declared {before after : List Capture} {capture : Capture}
      (listed : captures = before ++ capture :: after) (here : capture.start.row = row)
      (first : ∀ other ∈ before, other.start.row ≠ row) :
      Placed captures row (some capture)
        ⟨⟨row, capture.start.column⟩, ⟨capture.stop.row, capture.stop.column⟩⟩
  | undeclared (elsewhere : ∀ other ∈ captures, other.start.row ≠ row) :
      Placed captures row none ⟨⟨row, 0⟩, ⟨row, 0⟩⟩

/--
How a violation is shown in a document.

Its row is the line before the one reported, lines being counted from one, though line zero counts as
the first. Its data lead back to where it is shown.
-/
structure Shows (uri : String) (captures : List Capture) (report : Report) (shown : Diagnostic) :
    Prop where
  row : shown.range.start.line.toNat = report.line.toNat - 1
  placed : ∃ capture data, Placed captures shown.range.start.line capture shown.range ∧
    shown.data = some data ∧ Wire.decode data = .ok ({ capture, uri := ⟨uri⟩ } : FixTarget)
  severity : shown.severity = some report.violation.level.severity
  source : shown.source = if report.violation.policy = "" then none else some report.violation.policy
  message : Text.Trims report.violation.message shown.message

/-! ### What is shown -/

theorem toNat_rowOf (line : UInt32) : (rowOf line).toNat = line.toNat - 1 := by
  unfold rowOf
  split
  · rename_i zero
    rw [zero]
    rfl
  · rename_i positive
    have above : 1 ≤ line := by
      rw [UInt32.le_iff_toNat_le]
      have : line.toNat ≠ 0 := fun zero => positive (UInt32.toNat_inj.mp zero)
      simp only [UInt32.reduceToNat]
      omega
    rw [UInt32.toNat_sub_of_le _ _ above]
    rfl

def diagnose (uri : String) (captures : List Capture) (report : Report) : Diagnostic :=
  diagnostic ⟨uri⟩ (rowOf report.line) (captures.find? (·.start.row = rowOf report.line))
    report.violation

theorem diagnose_placed (uri : String) (captures : List Capture) (report : Report) :
    Placed captures (rowOf report.line) (captures.find? (·.start.row = rowOf report.line))
      (diagnose uri captures report).range := by
  cases found : captures.find? (·.start.row = rowOf report.line) with
  | none =>
    have elsewhere := List.find?_eq_none.mp found
    have range : (diagnose uri captures report).range = .lineStart (rowOf report.line) := by
      simp only [diagnose, diagnostic, found]
    rw [range]
    exact .undeclared fun other member => by simpa using elsewhere other member
  | some capture =>
    obtain ⟨here, before, after, listed, first⟩ := List.find?_eq_some_iff_append.mp found
    have here : capture.start.row = rowOf report.line := by simpa using here
    have range : (diagnose uri captures report).range =
        ⟨⟨rowOf report.line, capture.start.column⟩, ⟨capture.stop.row, capture.stop.column⟩⟩ := by
      simp only [diagnose, diagnostic, found, Capture.range, Point.toPosition, here]
    rw [range]
    exact .declared listed here fun other member => by simpa using first other member

theorem Placed.start_eq {row : UInt32} {capture : Option Capture} {range : Range}
    (placed : Placed captures row capture range) : range.start.line = row := by
  cases placed <;> rfl

theorem diagnose_shows (uri : String) (captures : List Capture) (report : Report) :
    Shows uri captures report (diagnose uri captures report) := by
  have placed := diagnose_placed uri captures report
  have start := placed.start_eq
  refine ⟨?_, ⟨_, _, ?_, rfl, restores_fixTarget _⟩, rfl, ?_, Text.trim_trims _⟩
  · rw [start, toNat_rowOf]
  · rw [start]
    exact placed
  · simp [diagnose, diagnostic]

/-! ### Which declarations are looked at -/

theorem content_read_iff {contents : Bytes} (version : Int32) :
    (FileHandle.read disk ⟨uri⟩ version).content = .ok contents ↔
      ∃ path, DocumentUri.toPath ⟨uri⟩ = .ok path ∧ disk.read path = .ok contents := by
  unfold FileHandle.read
  cases place : DocumentUri.toPath ⟨uri⟩ with
  | error error => simp [FileHandle.broken]
  | ok path =>
    cases stored : disk.read path with
    | ok contents' => simp [FileHandle.onDisk, stored]
    | error error => cases error <;> simp [FileHandle.broken, FileHandle.closed, stored]

theorem holds_iff {contents : Bytes} :
    Holds files disk uri contents ↔
      ((files.get? uri).getD (FileHandle.read disk ⟨uri⟩ 0)).content = .ok contents := by
  cases found : files.get? uri with
  | none =>
    rw [Option.getD_none, content_read_iff]
    constructor
    · rintro (⟨sent, -⟩ | ⟨-, place, stored⟩)
      · cases found.symm.trans sent
      · exact ⟨_, place, stored⟩
    · rintro ⟨path, place, stored⟩
      exact .stored found place stored
  | some handle =>
    refine ⟨?_, fun readable => .sent found readable⟩
    rintro (⟨sent, readable⟩ | ⟨unsent, -⟩)
    · cases found.symm.trans sent
      exact readable
    · cases found.symm.trans unsent

theorem offers_iff :
    Offers files disk parse uri captures ↔
      Findings.declarations files disk parse uri = some captures := by
  unfold Findings.declarations
  constructor
  · rintro (⟨holds, parsed⟩ | ⟨holds, parsed⟩)
    all_goals
      rw [holds_iff] at holds
      simp only [holds, parsed]
  · intro offered
    dsimp only at offered
    split at offered
    · cases offered
    · rename_i contents readable
      have holds := holds_iff.mpr readable
      split at offered
      · rename_i parsed
        cases offered
        exact .declared holds parsed
      · rename_i parsed
        cases offered
        exact .bare holds parsed
      · cases offered

/-! ### The walk over the resources -/

def shareOf (declarations : String → Option (List Capture)) (uri : String)
    (entry : String × Resource) : Option (List Diagnostic) :=
  (ofResource declarations entry.2).bind fun found => if found.1 = uri then some found.2 else none

theorem shareOf_of_elsewhere {position : SourcePosition} (elsewhere : position.uri ≠ uri)
    (urn : String) (violations : List Violation) :
    shareOf declarations uri (urn, ⟨some position, violations⟩) = none := by
  cases violations with
  | nil => rfl
  | cons violation rest =>
    cases offered : declarations position.uri <;>
      simp [shareOf, ofResource, elsewhere, offered]

theorem shareOf_of_unreadable (unreadable : declarations uri = none) (entry : String × Resource) :
    shareOf declarations uri entry = none := by
  obtain ⟨urn, position, violations⟩ := entry
  cases violations with
  | nil => rfl
  | cons violation rest =>
    cases position with
    | none => rfl
    | some position =>
      by_cases here : position.uri = uri
      · simp [shareOf, ofResource, here, unreadable]
      · exact shareOf_of_elsewhere here urn _

theorem shareOf_of_offered (offered : declarations uri = some captures) (entry : String × Resource) :
    shareOf declarations uri entry =
      if reportsOf uri entry = [] then none
      else some ((reportsOf uri entry).map (diagnose uri captures)) := by
  obtain ⟨urn, position, violations⟩ := entry
  cases violations with
  | nil => cases position <;> simp [shareOf, ofResource, reportsOf]
  | cons violation rest =>
    cases position with
    | none => rfl
    | some position =>
      by_cases here : position.uri = uri
      · subst here
        simp [shareOf, ofResource, offered, reportsOf, diagnose]
      · rw [shareOf_of_elsewhere here]
        simp [reportsOf, here]

def add (declarations : String → Option (List Capture)) (findings : Findings)
    (entry : String × Resource) : Findings :=
  (ofResource declarations entry.2).elim findings fun found =>
    findings.update found.1 [] (· ++ found.2)

theorem correlate_eq (declarations : String → Option (List Capture)) (resources : Resources) :
    correlate declarations resources = resources.foldl (add declarations) [] := by
  unfold correlate
  congr 1
  funext findings entry
  obtain ⟨urn, resource⟩ := entry
  dsimp only [add]
  cases ofResource declarations resource <;> rfl

theorem get?_add (findings : Findings) (entry : String × Resource) :
    (add declarations findings entry).get? uri =
      (shareOf declarations uri entry).elim (findings.get? uri) fun share =>
        some ((findings.get? uri).getD [] ++ share) := by
  unfold add shareOf
  cases ofResource declarations entry.2 with
  | none => rfl
  | some found =>
    simp only [Option.elim_some, Option.bind_some, Table.get?_update]
    by_cases here : found.1 = uri
    · simp [here]
    · simp [here, Ne.symm here]

theorem get?_walk (declarations : String → Option (List Capture)) (uri : String)
    (resources : Resources) (findings : Findings) :
    (resources.foldl (add declarations) findings).get? uri =
      if resources.filterMap (shareOf declarations uri) = [] then findings.get? uri
      else some ((findings.get? uri).getD [] ++
        (resources.filterMap (shareOf declarations uri)).flatten) := by
  induction resources generalizing findings with
  | nil => rfl
  | cons entry rest ih =>
    rw [List.foldl_cons, ih, get?_add]
    cases share : shareOf declarations uri entry with
    | none =>
      rw [List.filterMap_cons_none share]
      rfl
    | some share' =>
      -- From now on the document has diagnostics, whatever is added.
      by_cases last : rest.filterMap (shareOf declarations uri) = [] <;>
        simp [List.filterMap_cons_some share, last]

theorem get?_correlate (declarations : String → Option (List Capture)) (uri : String)
    (resources : Resources) :
    (correlate declarations resources).get? uri =
      if resources.filterMap (shareOf declarations uri) = [] then none
      else some (resources.filterMap (shareOf declarations uri)).flatten := by
  rw [correlate_eq, get?_walk]
  rfl

theorem filterMap_shareOf (offered : declarations uri = some captures) (resources : Resources) :
    (resources.filterMap (shareOf declarations uri)).flatten =
        (reportsOn resources uri).map (diagnose uri captures) ∧
      (resources.filterMap (shareOf declarations uri) = [] ↔ reportsOn resources uri = []) := by
  induction resources with
  | nil => exact ⟨rfl, by simp [reportsOn]⟩
  | cons entry rest ih =>
    have split : reportsOn (entry :: rest) uri = reportsOf uri entry ++ reportsOn rest uri := rfl
    have share := shareOf_of_offered offered entry
    by_cases silent : reportsOf uri entry = []
    · simpa [share, split, silent] using ih
    · simpa [share, split, silent] using ih.1

theorem get?_correlate_of_offered (offered : declarations uri = some captures)
    (resources : Resources) :
    (correlate declarations resources).get? uri =
      if reportsOn resources uri = [] then none
      else some ((reportsOn resources uri).map (diagnose uri captures)) := by
  obtain ⟨joined, silent⟩ := filterMap_shareOf offered resources
  simp only [get?_correlate, silent, joined]

theorem get?_correlate_of_unreadable (unreadable : declarations uri = none) (resources : Resources) :
    (correlate declarations resources).get? uri = none := by
  have nothing : resources.filterMap (shareOf declarations uri) = [] :=
    List.filterMap_eq_nil_iff.mpr fun entry _ => shareOf_of_unreadable unreadable entry
  rw [get?_correlate, if_pos nothing]

theorem correlate_ordered (declarations : String → Option (List Capture))
    (resources : Resources) : (correlate declarations resources).Ordered := by
  rw [correlate_eq]
  -- The fold starts from no findings, and each resource keeps the order.
  refine List.foldlRecOn (motive := fun findings : Findings => findings.Ordered) resources _
    List.Pairwise.nil fun findings ordered entry _ => ?_
  unfold add
  cases ofResource declarations entry.2 with
  | none => exact ordered
  | some found => exact Table.Ordered.update ordered found.1 [] (· ++ found.2)

/-! ### All that is reported -/

theorem reportsOn_ne_nil_iff (resources : Resources) (uri : String) :
    reportsOn resources uri ≠ [] ↔ ∃ urn resource position, (urn, resource) ∈ resources ∧
      resource.position = some position ∧ position.uri = uri ∧ resource.violations ≠ [] := by
  have each : ∀ entry : String × Resource, reportsOf uri entry ≠ [] ↔
      ∃ position, entry.2.position = some position ∧ position.uri = uri ∧ entry.2.violations ≠ [] := by
    rintro ⟨urn, position, violations⟩
    cases position with
    | none => simp [reportsOf]
    | some position => by_cases here : position.uri = uri <;> simp [reportsOf, here]
  simp only [reportsOn, ne_eq, List.flatMap_eq_nil_iff, not_forall, Prod.exists, exists_prop]
  constructor
  · rintro ⟨urn, resource, member, some⟩
    obtain ⟨position, known, here, violated⟩ := (each (urn, resource)).mp some
    exact ⟨urn, resource, position, member, known, here, violated⟩
  · rintro ⟨urn, resource, position, member, known, here, violated⟩
    exact ⟨urn, resource, member, (each (urn, resource)).mpr ⟨position, known, here, violated⟩⟩

theorem urn_of_mem_reportsOf {entry : String × Resource} {report : Report}
    (member : report ∈ reportsOf uri entry) : report.urn = entry.1 := by
  unfold reportsOf at member
  split at member
  · cases member
  · split at member
    · obtain ⟨violation, -, rfl⟩ := List.mem_map.mp member
      rfl
    · cases member

theorem reportsOn_ascend {resources : Resources} (ordered : resources.Ordered) (uri : String) :
    (reportsOn resources uri).Pairwise fun former latter =>
      former.urn = latter.urn ∨ former.urn < latter.urn := by
  refine List.pairwise_flatMap.mpr ⟨fun entry _ => ?_, ?_⟩
  · -- Reports of one resource bear one name.
    refine List.pairwise_of_forall_mem_list fun former member latter member' => .inl ?_
    exact (urn_of_mem_reportsOf member).trans (urn_of_mem_reportsOf member').symm
  · refine (List.pairwise_map.mp ordered).imp fun below former member latter member' => .inr ?_
    rw [urn_of_mem_reportsOf member, urn_of_mem_reportsOf member']
    exact below

/--
Every violation reported in a document is shown in it, once and in its place.

A document is among the findings if and only if a resource with a violation is declared in it, and
what it holds can be read and parsed, or declares nothing. Its diagnostics then show what is reported
in it, one diagnostic a report, in ascending order of the resources and each resource's in the order
of its report.
-/
theorem correlation_shows_each_report (files : FileMap) (disk : Disk)
    (parse : Bytes → Except Source.ExtractError (List Capture)) (resources : Resources)
    (ordered : resources.Ordered) :
    let findings := correlate (Findings.declarations files disk parse) resources
    findings.Ordered ∧
      (∀ uri, uri ∈ findings.keys ↔
        (∃ urn resource position, (urn, resource) ∈ resources ∧
          resource.position = some position ∧ position.uri = uri ∧ resource.violations ≠ []) ∧
        ∃ captures, Offers files disk parse uri captures) ∧
      (∀ uri diagnostics, findings.get? uri = some diagnostics →
        ∃ captures, Offers files disk parse uri captures ∧
          List.Forall₂ (Shows uri captures) (reportsOn resources uri) diagnostics) ∧
      ∀ uri, (reportsOn resources uri).Pairwise fun former latter =>
        former.urn = latter.urn ∨ former.urn < latter.urn := by
  intro findings
  refine ⟨correlate_ordered _ _, fun uri => ?_, fun uri diagnostics found => ?_,
    reportsOn_ascend ordered⟩
  · rw [← reportsOn_ne_nil_iff, Table.mem_keys_iff]
    cases offered : Findings.declarations files disk parse uri with
    | none =>
      have nothing : ¬ ∃ captures, Offers files disk parse uri captures := by
        rintro ⟨captures, offers⟩
        cases offered.symm.trans (offers_iff.mp offers)
      simp [findings, get?_correlate_of_unreadable offered, nothing]
    | some captures =>
      have offers : ∃ captures, Offers files disk parse uri captures :=
        ⟨captures, offers_iff.mpr offered⟩
      by_cases silent : reportsOn resources uri = [] <;>
        simp [findings, get?_correlate_of_offered offered, silent, offers]
  · cases offered : Findings.declarations files disk parse uri with
    | none => cases (get?_correlate_of_unreadable offered resources).symm.trans found
    | some captures =>
      have shown := (get?_correlate_of_offered offered resources).symm.trans found
      split at shown
      · cases shown
      · cases shown
        refine ⟨captures, offers_iff.mpr offered, ?_⟩
        rw [List.forall₂_map_right_iff]
        exact List.forall₂_same.mpr fun report _ => diagnose_shows uri captures report

def sentFiles : FileMap := [("file:///shop.ts", .overlay ⟨"file:///shop.ts"⟩ 1 "")]

def sharedRow : List Capture :=
  [⟨"Bucket", "wares", "new Bucket()", ⟨1, 4⟩, ⟨1, 16⟩⟩, ⟨"Queue", "orders", "new Queue()", ⟨1, 20⟩, ⟨1, 31⟩⟩]

/-- Violations in two documents, the latter of which cannot be read, resource by resource. -/
def scatteredResources : Resources := [
  ("urn:bucket", ⟨some ⟨"file:///shop.ts", 2, 4⟩,
    [{ policy := "naming", message := " no prefix\n", level := .mandatory }, { message := "untagged" }]⟩),
  ("urn:disk", ⟨some ⟨"file:///lost.ts", 1, 0⟩, [{ message := "unencrypted" }]⟩),
  ("urn:queue", ⟨some ⟨"file:///shop.ts", 0, 0⟩, [{ message := "unbounded", level := .remediate }]⟩)]

/-- The three violations of the readable document are shown there, and the other one is not. -/
theorem scattered_reports_are_shown :
    scatteredResources.Ordered ∧
      let findings :=
        correlate (Findings.declarations sentFiles {} fun _ => .ok sharedRow) scatteredResources
      findings.keys = ["file:///shop.ts"] ∧
        ∃ diagnostics captures, findings.get? "file:///shop.ts" = some diagnostics ∧
          diagnostics.length = 3 ∧
          Offers sentFiles {} (fun _ => .ok sharedRow) "file:///shop.ts" captures ∧
          List.Forall₂ (Shows "file:///shop.ts" captures)
            (reportsOn scatteredResources "file:///shop.ts") diagnostics := by
  have ordered : scatteredResources.Ordered := by unfold Table.Ordered; decide
  obtain ⟨-, -, shows, -⟩ :=
    correlation_shows_each_report sentFiles {} (fun _ => .ok sharedRow) scatteredResources ordered
  refine ⟨ordered, by decide +kernel, ?_⟩
  obtain ⟨diagnostics, found⟩ := Option.isSome_iff_exists.mp
    (show ((correlate (Findings.declarations sentFiles {} fun _ => .ok sharedRow)
      scatteredResources).get? "file:///shop.ts").isSome = true by decide +kernel)
  obtain ⟨captures, offers, shown⟩ := shows _ _ found
  exact ⟨diagnostics, captures, found, shown.length_eq.symm, offers, shown⟩

end Findings

end PolicyServer
