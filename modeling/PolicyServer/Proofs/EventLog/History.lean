import Mathlib.Data.List.DropRight
import PolicyServer.EventLog.Store
import PolicyServer.Proofs.Table

/-!
What a store holds, told from all that was fed to it.

A store changes in place. What it holds of a resource is here read off the history instead: the last
registration of the resource, its last analysis, and what analyses of the whole added after that.
-/

namespace PolicyServer.EventLog

open Json

/-! ### What a log tells -/

/-- What is fed to a store: a line of the log, or an entry. -/
inductive Feed where
  | line (text : String)
  | entry (given : Entry)

def Feed.record? : Feed → Option Entry
  | .line text => (Entry.parse (Bytes.ofText (Text.trim text))).toOption
  | .entry given => some given

/-- What an entry tells: where a resource is declared, what the analysis of a resource found, or what
the analysis of the whole found. -/
inductive Tiding where
  | registered (urn : String) (position : Option SourcePosition)
  | analyzed (urn : String) (violations : List Violation)
  | surveyed (violations : List Violation)
  deriving DecidableEq, Repr

namespace Entry

/-- Holds if the request and the response of an entry decode, as far as its method needs them. -/
def Decodes (entry : Entry) : Prop :=
  match entry.method with
  | "/pulumirpc.ResourceMonitor/RegisterResource" =>
    (∃ position, registeredPosition entry.request = .ok position) ∧
      ∃ urn, urnIn "RegisterResponse" entry.response = .ok urn
  | "/pulumirpc.Analyzer/AnalyzeStack" => ∃ found, reportedViolations entry.response = .ok found
  | "/pulumirpc.Analyzer/Analyze" =>
    (∃ urn, urnIn "AnalyzeRequest" entry.request = .ok urn) ∧
      ∃ found, reportedViolations entry.response = .ok found
  | _ => True

/-- What an entry tells. One that does not decode tells nothing, and neither does an analysis without
a list of violations. -/
def tiding? (entry : Entry) : Option Tiding :=
  match entry.method with
  | "/pulumirpc.ResourceMonitor/RegisterResource" => do
    let position ← (registeredPosition entry.request).toOption
    let urn ← (urnIn "RegisterResponse" entry.response).toOption
    some (.registered urn position)
  | "/pulumirpc.Analyzer/AnalyzeStack" => do
    let violations ← (reportedViolations entry.response).toOption.join
    some (.surveyed violations)
  | "/pulumirpc.Analyzer/Analyze" => do
    let urn ← (urnIn "AnalyzeRequest" entry.request).toOption
    let violations ← (reportedViolations entry.response).toOption.join
    some (.analyzed urn violations)
  | _ => none

end Entry

def Feed.Decodes (feed : Feed) : Prop := ∃ entry, feed.record? = some entry ∧ entry.Decodes

def Feed.tiding? (feed : Feed) : Option Tiding := feed.record?.bind Entry.tiding?

namespace Tiding

def names : Tiding → List String
  | .registered urn _ => [urn]
  | .analyzed urn _ => [urn]
  | .surveyed violations => violations.map (·.urn)

/-- The declared place of a resource, or that it has none, where it is registered. -/
def position? (urn : String) : Tiding → Option (Option SourcePosition)
  | .registered other position => if other = urn then some position else none
  | _ => none

def analysis? (urn : String) : Tiding → Option (List Violation)
  | .analyzed other violations => if other = urn then some violations else none
  | _ => none

/-- The violations of a resource that an analysis of the whole adds. -/
def additions (urn : String) : Tiding → List Violation
  | .surveyed violations => violations.filter (·.urn = urn)
  | _ => []

end Tiding

abbrev History := List Tiding

namespace History

def position (history : History) (urn : String) : Option SourcePosition :=
  (history.reverse.findSome? (Tiding.position? urn)).join

/-- The violations of a resource: those of its last analysis, and those added after it. -/
def violations (history : History) (urn : String) : List Violation :=
  (history.reverse.findSome? (Tiding.analysis? urn)).getD [] ++
    (history.rtakeWhile fun tiding => (tiding.analysis? urn).isNone).flatMap (Tiding.additions urn)

def resource? (history : History) (urn : String) : Option Resource :=
  if ∃ tiding ∈ history, urn ∈ tiding.names then
    some ⟨history.position urn, history.violations urn⟩
  else none

end History

/-! ### What one feed does -/

namespace Store

/-- The store after one more feed. What cannot be taken in leaves it as it was. -/
def take (store : Store) : Feed → Store
  | .line text => store.ingest text
  | .entry entry => (store.apply entry).toOption.getD store

def add (resources : Resources) (violation : Violation) : Resources :=
  revise resources violation.urn fun known =>
    { known with violations := known.violations ++ [violation] }

def learn (store : Store) : Tiding → Store
  | .registered urn position =>
    ⟨revise store.resources urn fun known => { known with position }, store.events + 1⟩
  | .surveyed violations => ⟨violations.foldl add store.resources, store.events + 1⟩
  | .analyzed urn violations =>
    ⟨revise store.resources urn fun known => { known with violations }, store.events + 1⟩

theorem apply_cases (store : Store) (entry : Entry) :
    (entry.Decodes ∧ store.apply entry = .ok (entry.tiding?.elim store store.learn)) ∨
      ¬ entry.Decodes ∧ entry.tiding? = none ∧ ∃ error, store.apply entry = .error error := by
  -- One case for each method, and in each one for what decodes.
  by_cases registers : entry.method = "/pulumirpc.ResourceMonitor/RegisterResource"
  · simp only [apply, Entry.Decodes, Entry.tiding?, registers]
    cases registeredPosition entry.request with
    | error error => exact .inr ⟨by simp, rfl, error, rfl⟩
    | ok position =>
      cases urnIn "RegisterResponse" entry.response with
      | error error => exact .inr ⟨by simp, rfl, error, rfl⟩
      | ok urn => exact .inl ⟨by simp, rfl⟩
  by_cases surveys : entry.method = "/pulumirpc.Analyzer/AnalyzeStack"
  · simp only [apply, Entry.Decodes, Entry.tiding?, surveys]
    cases reportedViolations entry.response with
    | error error => exact .inr ⟨by simp, rfl, error, rfl⟩
    | ok found => cases found <;> exact .inl ⟨by simp, rfl⟩
  by_cases analyzes : entry.method = "/pulumirpc.Analyzer/Analyze"
  · simp only [apply, Entry.Decodes, Entry.tiding?, analyzes]
    cases urnIn "AnalyzeRequest" entry.request with
    | error error => exact .inr ⟨by simp, rfl, error, rfl⟩
    | ok urn =>
      cases reportedViolations entry.response with
      | error error => exact .inr ⟨by simp, rfl, error, rfl⟩
      | ok found => cases found <;> exact .inl ⟨by simp, rfl⟩
  · -- All other methods are passed over.
    simp [apply, Entry.Decodes, Entry.tiding?]

theorem apply_getD (store : Store) (entry : Entry) :
    (store.apply entry).toOption.getD store = entry.tiding?.elim store store.learn := by
  rcases apply_cases store entry with ⟨-, applied⟩ | ⟨-, silent, error, refused⟩
  · rw [applied]
    rfl
  · rw [silent, refused]
    rfl

theorem ingest_eq (store : Store) (line : String) :
    store.ingest line = (Feed.line line).record?.elim store fun entry =>
      (store.apply entry).toOption.getD store := by
  have found : (Feed.line line).record? = (Entry.parse (Bytes.ofText (Text.trim line))).toOption := rfl
  rw [found, ingest]
  split
  · -- Nothing can be read from a blank line.
    rename_i blank
    rw [String.isEmpty_iff.mp blank]
    rfl
  · cases Entry.parse (Bytes.ofText (Text.trim line)) with
    | error error => rfl
    | ok entry =>
      dsimp only [Except.toOption, Option.elim_some]
      cases store.apply entry <;> rfl

theorem take_eq (store : Store) (feed : Feed) :
    store.take feed = feed.tiding?.elim store store.learn := by
  have whole : store.take feed = feed.record?.elim store fun entry =>
      (store.apply entry).toOption.getD store := by
    cases feed with
    | line text => exact ingest_eq store text
    | entry entry => rfl
  rw [whole, Feed.tiding?]
  cases feed.record? with
  | none => rfl
  | some entry => exact apply_getD store entry

theorem tiding?_of_not_decodes {feed : Feed} (fails : ¬ feed.Decodes) : feed.tiding? = none := by
  unfold Feed.tiding?
  cases found : feed.record? with
  | none => rfl
  | some entry =>
    -- Whether an entry decodes does not depend on the store.
    rcases apply_cases {} entry with ⟨decodes, -⟩ | ⟨-, silent, -⟩
    · exact absurd ⟨entry, found, decodes⟩ fails
    · exact silent

end Store

/-! ### What one tiding changes -/

def Tiding.revise (tiding : Tiding) (urn : String) (known : Resource) : Resource :=
  ⟨(tiding.position? urn).getD known.position,
    (tiding.analysis? urn).getD known.violations ++ tiding.additions urn⟩

theorem Tiding.silent_of_unnamed {tiding : Tiding} {urn : String} (unnamed : urn ∉ tiding.names) :
    tiding.position? urn = none ∧ tiding.analysis? urn = none ∧ tiding.additions urn = [] := by
  cases tiding with
  | registered other position =>
    have apart : other ≠ urn := fun same => unnamed (by simp [names, same])
    simp [position?, analysis?, additions, apart]
  | analyzed other violations =>
    have apart : other ≠ urn := fun same => unnamed (by simp [names, same])
    simp [position?, analysis?, additions, apart]
  | surveyed violations =>
    have apart : ∀ violation ∈ violations, violation.urn ≠ urn := fun violation member same =>
      unnamed (List.mem_map.mpr ⟨violation, member, same⟩)
    simpa [position?, analysis?, additions] using apart

namespace Store

theorem get?_foldl_add (violations : List Violation) (resources : Resources) (urn : String) :
    (violations.foldl add resources).get? urn =
      if urn ∈ violations.map (·.urn) then
        some { (resources.get? urn).getD {} with
          violations := ((resources.get? urn).getD {}).violations ++
            violations.filter (·.urn = urn) }
      else resources.get? urn := by
  induction violations generalizing resources with
  | nil => simp
  | cons violation rest ih =>
    rw [List.foldl_cons, ih]
    simp only [add, revise, Table.get?_update, List.map_cons, List.mem_cons, List.filter_cons]
    -- The first violation is on the resource or on another one, and so are the others.
    by_cases mine : urn = violation.urn
    · subst mine
      by_cases later : violation.urn ∈ rest.map (·.urn)
      · simp [later]
      · have none : rest.filter (·.urn = violation.urn) = [] := by
          rw [List.filter_eq_nil_iff]
          intro other member same
          exact later (List.mem_map.mpr ⟨other, member, of_decide_eq_true same⟩)
        simp [later, none]
    · have other : violation.urn ≠ urn := fun same => mine same.symm
      simp [mine, other]

theorem get?_learn (store : Store) (tiding : Tiding) (urn : String) :
    (store.learn tiding).resources.get? urn =
      if urn ∈ tiding.names then
        some (tiding.revise urn ((store.resources.get? urn).getD {}))
      else store.resources.get? urn := by
  cases tiding with
  | registered other position =>
    simp only [learn, revise, Table.get?_update, Tiding.names, List.mem_singleton]
    by_cases mine : urn = other
    · subst mine
      simp [Tiding.revise, Tiding.position?, Tiding.analysis?, Tiding.additions]
    · simp [mine]
  | analyzed other violations =>
    simp only [learn, revise, Table.get?_update, Tiding.names, List.mem_singleton]
    by_cases mine : urn = other
    · subst mine
      simp [Tiding.revise, Tiding.position?, Tiding.analysis?, Tiding.additions]
    · simp [mine]
  | surveyed violations => exact get?_foldl_add violations store.resources urn

theorem ordered_revise {resources : Resources} (ordered : Table.Ordered resources) (urn : String)
    (change : Resource → Resource) : Table.Ordered (revise resources urn change) :=
  Table.Ordered.update ordered urn {} change

theorem ordered_learn {store : Store} (ordered : Table.Ordered store.resources) (tiding : Tiding) :
    Table.Ordered (store.learn tiding).resources := by
  cases tiding with
  | registered urn position => exact ordered_revise ordered urn fun known => { known with position }
  | analyzed urn violations =>
    exact ordered_revise ordered urn fun known => { known with violations }
  | surveyed violations =>
    exact List.foldlRecOn (motive := Table.Ordered) violations add ordered
      fun _ ordered violation _ => ordered_revise ordered violation.urn _

theorem events_learn (store : Store) (tiding : Tiding) :
    (store.learn tiding).events = store.events + 1 := by
  cases tiding <;> rfl

end Store

/-! ### What a history comes to -/

namespace History

variable {history : History} {tiding : Tiding} {urn : String}

theorem position_concat (history : History) (tiding : Tiding) (urn : String) :
    position (history ++ [tiding]) urn = (tiding.position? urn).getD (history.position urn) := by
  unfold position
  rw [List.reverse_append, List.reverse_singleton, List.singleton_append, List.findSome?_cons]
  cases tiding.position? urn <;> rfl

theorem violations_concat (history : History) (tiding : Tiding) (urn : String) :
    violations (history ++ [tiding]) urn =
      (tiding.analysis? urn).getD (history.violations urn) ++ tiding.additions urn := by
  unfold violations
  rw [List.reverse_append, List.reverse_singleton, List.singleton_append, List.findSome?_cons,
    List.rtakeWhile_concat]
  cases found : tiding.analysis? urn with
  | none => simp
  | some violations =>
    -- An analysis of one resource is none of the whole.
    have alone : tiding.additions urn = [] := by
      cases tiding with
      | surveyed violations => cases found
      | _ => rfl
    simp [alone]

theorem unknown_of_unnamed (unnamed : ¬ ∃ tiding ∈ history, urn ∈ tiding.names) :
    history.position urn = none ∧ history.violations urn = [] := by
  induction history using List.reverseRecOn with
  | nil => exact ⟨rfl, rfl⟩
  | append_singleton history tiding ih =>
    obtain ⟨position, violations⟩ := ih fun named => unnamed (by
      obtain ⟨other, member, name⟩ := named
      exact ⟨other, List.mem_append_left _ member, name⟩)
    obtain ⟨place, analysis, additions⟩ := Tiding.silent_of_unnamed fun name =>
      unnamed ⟨tiding, List.mem_append_right _ List.mem_cons_self, name⟩
    rw [position_concat, violations_concat, place, analysis, additions, position, violations]
    exact ⟨rfl, rfl⟩

theorem getD_resource? (history : History) (urn : String) :
    (history.resource? urn).getD {} = ⟨history.position urn, history.violations urn⟩ := by
  unfold resource?
  split
  · rfl
  · rename_i unnamed
    obtain ⟨position, violations⟩ := unknown_of_unnamed unnamed
    rw [position, violations]
    rfl

theorem resource?_concat (history : History) (tiding : Tiding) (urn : String) :
    resource? (history ++ [tiding]) urn =
      if urn ∈ tiding.names then some (tiding.revise urn ((history.resource? urn).getD {}))
      else history.resource? urn := by
  by_cases named : urn ∈ tiding.names
  · have here : ∃ other ∈ history ++ [tiding], urn ∈ other.names :=
      ⟨tiding, List.mem_append_right _ List.mem_cons_self, named⟩
    rw [getD_resource?, if_pos named, resource?, if_pos here, position_concat, violations_concat]
    rfl
  · obtain ⟨place, analysis, additions⟩ := Tiding.silent_of_unnamed named
    have same : (∃ other ∈ history ++ [tiding], urn ∈ other.names) ↔
        ∃ other ∈ history, urn ∈ other.names := by
      simp [or_and_right, exists_or, named]
    rw [if_neg named, resource?, resource?, position_concat, violations_concat, place, analysis,
      additions]
    simp only [same, Option.getD_none, List.append_nil]

end History

/--
A store holds what its history comes to.

Lines and entries may come in any order, and those that do not decode change nothing. A resource is
there just if something was told of it. Its place is that of its last registration. Its violations are
those of its last analysis, and behind them those that analyses of the whole added later, in order.
What counts are the registrations, and the analyses that had a list of violations.
-/
theorem store_tells_history (feeds : List Feed) :
    (∀ (store : Store) (entry : Entry),
      (∃ next, store.apply entry = .ok next) ↔ entry.Decodes) ∧
    (∀ (store : Store) (feed : Feed), ¬ feed.Decodes → store.take feed = store) ∧
    (feeds.foldl Store.take {}).events = (feeds.filterMap Feed.tiding?).length ∧
    Table.Ordered (feeds.foldl Store.take {}).resources ∧
    ∀ urn, (feeds.foldl Store.take {}).resources.get? urn =
      History.resource? (feeds.filterMap Feed.tiding?) urn := by
  refine ⟨fun store entry => ?_, fun store feed fails => ?_, ?_⟩
  · rcases Store.apply_cases store entry with ⟨decodes, applied⟩ | ⟨fails, -, error, refused⟩
    · exact ⟨fun _ => decodes, fun _ => ⟨_, applied⟩⟩
    · refine ⟨?_, fun decodes => absurd decodes fails⟩
      rintro ⟨next, applied⟩
      cases refused.symm.trans applied
  · rw [Store.take_eq, Store.tiding?_of_not_decodes fails]
    rfl
  · -- One feed more adds one tiding to the history, or nothing.
    induction feeds using List.reverseRecOn with
    | nil => exact ⟨rfl, .nil, fun urn => rfl⟩
    | append_singleton feeds feed ih =>
      obtain ⟨events, ordered, known⟩ := ih
      rw [List.foldl_append, List.foldl_cons, List.foldl_nil, List.filterMap_append, Store.take_eq]
      cases told : feed.tiding? with
      | none =>
        have none : [feed].filterMap Feed.tiding? = [] := by simp [told]
        rw [none, List.append_nil]
        exact ⟨events, ordered, known⟩
      | some tiding =>
        have one : [feed].filterMap Feed.tiding? = [tiding] := by simp [told]
        rw [one]
        refine ⟨?_, Store.ordered_learn ordered tiding, fun urn => ?_⟩
        · rw [Option.elim_some, Store.events_learn, events, List.length_append]
          rfl
        · rw [Option.elim_some, Store.get?_learn, known, History.resource?_concat]

/-- A log of two resources: a line of another form, an analysis that does not decode and one without a
list stand among registrations, analyses and additions. -/
def tangledFeeds : List Feed :=
  let one : Json := .ofMembers [("message", .str "one"), ("urn", .str "a")]
  let two : Json := .ofMembers [("message", .str "two"), ("urn", .str "b")]
  [.line ("  \x7b\"response\":\x7b\"urn\":\"a\"\x7d, \"request\":\x7b\"sourcePosition\":" ++
      "\x7b\"uri\":\"u\",\"line\":3\x7d\x7d, " ++
      "\"method\":\"/pulumirpc.ResourceMonitor/RegisterResource\"\x7d\r"),
    .line "registered a",
    .entry ⟨"/pulumirpc.Analyzer/AnalyzeStack", .null, .ofMembers [("diagnostics", .arr [one, two, one])]⟩,
    .entry ⟨"/pulumirpc.Analyzer/Analyze", .ofMembers [("urn", .str "a")],
      .ofMembers [("diagnostics", .arr [two])]⟩,
    .entry ⟨"/pulumirpc.Analyzer/Analyze", .ofMembers [("urn", .str "a")], .ofMembers []⟩,
    .entry ⟨"/pulumirpc.Analyzer/Analyze", .ofMembers [("urn", .str "a")],
      .ofMembers [("diagnostics", .arr [one, .int 5])]⟩,
    .entry ⟨"/pulumirpc.Analyzer/AnalyzeStack", .null, .ofMembers [("diagnostics", .arr [two, one])]⟩,
    .entry ⟨"/pulumirpc.ResourceMonitor/RegisterResource", .ofMembers [],
      .ofMembers [("urn", .str "b")]⟩]

/-- What such a log comes to. -/
theorem tangled_feeds_are_told :
    ¬ (Feed.line "registered a").Decodes ∧
    (∀ store : Store, store.take (.line "registered a") = store) ∧
    (tangledFeeds.foldl Store.take {}).events = 5 ∧
    (tangledFeeds.foldl Store.take {}).resources.get? "a" = some ⟨some ⟨"u", 3, 0⟩,
      [{ message := "two", urn := "b" }, { message := "one", urn := "a" }]⟩ ∧
    (tangledFeeds.foldl Store.take {}).resources.get? "b" = some ⟨none,
      [{ message := "two", urn := "b" }, { message := "two", urn := "b" }]⟩ ∧
    (tangledFeeds.foldl Store.take {}).resources.get? "c" = none := by
  have fails : ¬ (Feed.line "registered a").Decodes := by
    rintro ⟨entry, found, -⟩
    have none : (Feed.line "registered a").record?.isNone = true := by decide +kernel
    rw [found] at none
    cases none
  have history : tangledFeeds.filterMap Feed.tiding? = [
      .registered "a" (some ⟨"u", 3, 0⟩),
      .surveyed [{ message := "one", urn := "a" }, { message := "two", urn := "b" },
        { message := "one", urn := "a" }],
      .analyzed "a" [{ message := "two", urn := "b" }],
      .surveyed [{ message := "two", urn := "b" }, { message := "one", urn := "a" }],
      .registered "b" none] := by decide +kernel
  obtain ⟨-, unchanged, events, -, known⟩ := store_tells_history tangledFeeds
  rw [history] at events known
  refine ⟨fails, fun store => unchanged store _ fails, events, ?_, ?_, ?_⟩
  all_goals
    rw [known]
    decide

end PolicyServer.EventLog
