import Mathlib.Data.List.Forall2
import PolicyServer.Proofs.Fix.Edit
import PolicyServer.Proofs.Protocol.Actions
import PolicyServer.Proofs.Workspace.Fixes
import PolicyServer.Session.Relay

/-!
The way of a quick fix: from a violation to its diagnostic, to the editor and back with a question for
actions, to the editor and back with the action that was chosen, and on to the service and the edit.
-/

namespace PolicyServer

open Json

variable {shown : Diagnostic} {action : CodeAction}

/-- An action is the quick fix for a diagnostic: it is on that one alone, has its data, and is yet to be
made. -/
structure QuickFix.Fixes (shown : Diagnostic) (action : CodeAction) : Prop where
  titled : ∃ source, shown.source = some source ∧ action.title = s!"Fix with AI ({source})"
  kind : action.kind = some "quickfix"
  subject : action.diagnostics = some [shown]
  data : action.data = shown.data
  unmade : action.edit = none

theorem QuickFix.fixes_of_offer? (offered : QuickFix.offer? shown = some action) :
    QuickFix.Fixes shown action := by
  obtain ⟨source, named, same⟩ := Option.bind_eq_some_iff.mp offered
  cases same
  exact ⟨⟨source, named, rfl⟩, rfl, rfl, rfl, rfl⟩

theorem QuickFix.Fixes.sendable {levels : Nat} (fixes : QuickFix.Fixes shown action)
    (sent : (toJson shown).Sendable levels) (data : ∀ value ∈ shown.data, value.Sendable (levels + 1)) :
    (toJson action).Sendable (levels + 2) := by
  refine sendable_codeAction (fun diagnostics there diagnostic member => ?_) ?_ (fixes.data ▸ data)
  · cases there.symm.trans fixes.subject
    exact List.mem_singleton.mp member ▸ sent
  · simp [fixes.unmade]

theorem QuickFix.Fixes.restores (fixes : QuickFix.Fixes shown action)
    (data : ∀ value ∈ shown.data, value ≠ .null) :
    Wire.decode (toJson action) = .ok action := by
  refine restores_codeAction (fixes.data ▸ data) fun diagnostics there diagnostic member => ?_
  cases there.symm.trans fixes.subject
  exact List.mem_singleton.mp member ▸ data

theorem QuickFix.offers_fixes (diagnostics : List Diagnostic) :
    List.Forall₂ QuickFix.Fixes (diagnostics.filter (·.source.isSome))
      (QuickFix.offers diagnostics) := by
  unfold QuickFix.offers
  induction diagnostics with
  | nil => exact .nil
  | cons shown rest ih =>
    cases source : shown.source with
    | none =>
      have silent : QuickFix.offer? shown = none := by simp [QuickFix.offer?, source]
      rw [List.filter_cons_of_neg (by simp [source]), List.filterMap_cons_none silent]
      exact ih
    | some name =>
      have offered : ∃ action, QuickFix.offer? shown = some action :=
        ⟨_, by simp [QuickFix.offer?, source]; rfl⟩
      obtain ⟨action, offered⟩ := offered
      rw [List.filter_cons_of_pos (by simp [source]), List.filterMap_cons_some offered]
      exact .cons (QuickFix.fixes_of_offer? offered) ih

theorem mapM_decode_append {α : Type} [Wire α] {before after : List Json} {former latter : List α}
    (first : before.mapM Wire.decode = .ok former) (second : after.mapM Wire.decode = .ok latter) :
    (before ++ after).mapM Wire.decode = .ok (former ++ latter) := by
  rw [List.mapM_append, first, second]
  rfl

section Reported

variable {declarations : String → Option (List Capture)} {resources : Resources} {urn : String}
  {resource : Resource} {position : SourcePosition} {captures : List Capture} {capture : Capture}
  {violation : Violation}

theorem Findings.mem_correlate (listed : (urn, resource) ∈ resources)
    (placed : resource.position = some position) (offered : declarations position.uri = some captures)
    (matched : captures.find? (·.start.row = Findings.rowOf position.line) = some capture)
    (violated : violation ∈ resource.violations) :
    ∃ diagnostics, (Findings.correlate declarations resources).get? position.uri = some diagnostics ∧
      Findings.diagnostic ⟨position.uri⟩ (Findings.rowOf position.line) (some capture) violation ∈
        diagnostics := by
  have reported : (⟨urn, position.line, violation⟩ : Report) ∈
      Findings.reportsOn resources position.uri := by
    refine List.mem_flatMap.mpr ⟨(urn, resource), listed, ?_⟩
    simp [Findings.reportsOf, placed, violated]
  refine ⟨_, (Findings.get?_correlate_of_offered offered resources).trans
    (if_neg (List.ne_nil_of_mem reported)), List.mem_map.mpr ⟨_, reported, ?_⟩⟩
  simp only [Findings.diagnose, matched]

end Reported

theorem Findings.sendable_diagnostic (uri : DocumentUri) (row : UInt32) (capture : Option Capture)
    (violation : Violation) :
    (toJson (Findings.diagnostic uri row capture violation)).Sendable 4 := by
  refine PolicyServer.sendable_diagnostic (by decide) fun value there => ?_
  cases there
  exact sendable_fixTarget _

theorem Findings.data_ne_null {uri : DocumentUri} {row : UInt32} {capture : Option Capture}
    {violation : Violation} :
    ∀ value ∈ (Findings.diagnostic uri row capture violation).data, value ≠ .null := by
  rintro value there rfl
  cases there

/--
A quick fix for a violation that is reported on a declaration reaches that declaration.

The diagnostic is published for the document of the declaration, and its text reads back. Asked with
whatever other diagnostics, the editor is offered one action for each of them that has a source, in order.
The action for this one reads back from its text as well. Once it is chosen, the service is asked for the
text of the declaration and the message of the diagnostic, and for nothing else. With the text that it
gives, the action is as it was chosen but for its edit, which puts that text in the place of the
declaration and changes nothing else.
-/
theorem quick_fix_reaches_declaration
    {declarations : String → Option (List Capture)} {resources : Resources} {urn : String}
    {resource : Resource} {position : SourcePosition} {captures : List Capture} {capture : Capture}
    {violation : Violation} (listed : (urn, resource) ∈ resources)
    (placed : resource.position = some position) (offered : declarations position.uri = some captures)
    (matched : captures.find? (·.start.row = Findings.rowOf position.line) = some capture)
    (violated : violation ∈ resource.violations) (named : violation.policy ≠ "") :
    let shown :=
      Findings.diagnostic ⟨position.uri⟩ (Findings.rowOf position.line) (some capture) violation
    let aim : QuickFix.Task := ⟨capture, ⟨position.uri⟩, shown.message⟩
    -- The diagnostic is sent to the editor.
    (∃ diagnostics, (Findings.correlate declarations resources).get? position.uri = some diagnostics ∧
      shown ∈ diagnostics) ∧
    Json.parse (toJson shown).toBytes = .ok (toJson shown) ∧
    ∃ action, QuickFix.Fixes shown action ∧
      -- It comes back in a question, and its action is sent.
      (∀ body id params before after former latter,
        Rpc.Message.decode body = .ok (.call id "textDocument/codeAction" params) →
        Asks params (before ++ toJson shown :: after) →
        before.mapM Wire.decode = .ok former → after.mapM Wire.decode = .ok latter →
        ∃ question, Request.decode "textDocument/codeAction" params = .ok (.codeAction question) ∧
          question.diagnostics = former ++ shown :: latter ∧
          QuickFix.offers question.diagnostics =
            QuickFix.offers former ++ action :: QuickFix.offers latter ∧
          List.Forall₂ QuickFix.Fixes (question.diagnostics.filter (·.source.isSome))
            (QuickFix.offers question.diagnostics)) ∧
      Json.parse (toJson action).toBytes = .ok (toJson action) ∧
      -- The action comes back in a request, and is made.
      (∀ id, Rpc.Message.decode (Rpc.Message.call id "codeAction/resolve" (toJson action)).encode =
        .ok (.call id "codeAction/resolve" (toJson action))) ∧
      Request.decode "codeAction/resolve" (toJson action) = .ok (.resolve action) ∧
      (∀ (c : Collaborators) (s : Session) (ticket : Nat),
        s.serve c ticket "codeAction/resolve" (toJson action) = s.spawnFor ticket (.fix { action })) ∧
      Workspace.Resolves action aim ∧
      ∀ text, QuickFix.complete action aim text =
        { action with edit := some ⟨[(position.uri, [⟨capture.range, text⟩])]⟩ } := by
  intro shown aim
  have sent : (toJson shown).Sendable 4 := Findings.sendable_diagnostic _ _ _ _
  have data : ∀ value ∈ shown.data, value ≠ .null := Findings.data_ne_null
  have source : shown.source = some violation.policy := by
    simp [shown, Findings.diagnostic, named]
  obtain ⟨action, offer⟩ : ∃ action, QuickFix.offer? shown = some action := by
    simp only [QuickFix.offer?, source]
    exact ⟨_, rfl⟩
  have fixes := QuickFix.fixes_of_offer? offer
  have chosen : (toJson action).Sendable 6 := by
    refine fixes.sendable sent fun value there => ?_
    cases there
    exact (sendable_fixTarget _).mono (by decide)
  have request : Request.decode "codeAction/resolve" (toJson action) = .ok (.resolve action) := by
    have read : CodeAction.layout.decode (toJson action) = .ok action := fixes.restores data
    simp only [Request.decode, readParams, read]
  refine ⟨Findings.mem_correlate listed placed offered matched violated,
    sent.parse_toBytes (by decide), action, fixes, ?_,
    chosen.parse_toBytes (by decide), ?_, request, ?_, ?_, fun text => rfl⟩
  · intro body id params before after former latter decoded asks first second
    have regular := (Rpc.decode_within decoded).regular params (by simp [Rpc.Message.payloads])
    have both : (toJson shown :: after).mapM Wire.decode = .ok (shown :: latter) := by
      rw [List.mapM_cons, restores_diagnostic data, second]
      rfl
    obtain ⟨question, understood, about⟩ :=
      decode_question regular asks (mapM_decode_append first both)
    refine ⟨question, ?_, about, ?_, QuickFix.offers_fixes _⟩
    · simp only [Request.decode, readParams, understood]
    · rw [about, QuickFix.offers, List.filterMap_append, List.filterMap_cons_some offer]
      rfl
  · exact fun id => Rpc.decode_call id _ chosen.within.1 chosen.floatFree
      (Nat.le_trans chosen.within.2 (by decide))
  · intro c s ticket
    simp only [Session.serve, request]
  · exact Workspace.resolves_of_task (QuickFix.task_of_diagnostic fixes.data fixes.subject)

def wares : Capture := ⟨"Bucket", "wares", "new Bucket(\"wares\")", ⟨1, 14⟩, ⟨1, 33⟩⟩

def unprefixed : Violation := { policy := "naming", message := " no prefix\n", level := .mandatory }

def waresDeclarations (uri : String) : Option (List Capture) :=
  if uri = "file:///shop.ts" then some [wares] else none

def waresResources : Resources :=
  [("urn:wares", ⟨some ⟨"file:///shop.ts", 2, 14⟩, [unprefixed]⟩)]

def unusedJson : Json := .ofMembers
  [("range", toJson (Range.lineStart 0)), ("message", toJson "unused"), ("code", toJson "W1")]

def waresQuestion : Json := .ofMembers [
  ("textDocument", .ofMembers [("uri", toJson "file:///shop.ts")]),
  ("range", toJson (Range.lineStart 1)),
  ("context", .ofMembers [
    ("diagnostics", .arr [unusedJson,
      toJson (Findings.diagnostic ⟨"file:///shop.ts"⟩ 1 (some wares) unprefixed)]),
    ("only", .arr [toJson "quickfix"])])]

def waresCollaborators : Collaborators where
  resolve _ _ := { result := none }
  run _ := { result := .ok [] }
  fix := some fun _ _ _ => { delay := 5, result := .ok (some "new Bucket(\"shop-wares\")") }

/-- The one action offered for the question is answered with the new text for the declaration. -/
theorem wares_fix_reaches_declaration :
    ∃ action question,
      Rpc.Message.decode (Rpc.Message.call (.number 1) "textDocument/codeAction" waresQuestion).encode =
        .ok (.call (.number 1) "textDocument/codeAction" waresQuestion) ∧
      Request.decode "textDocument/codeAction" waresQuestion = .ok (.codeAction question) ∧
      QuickFix.offers question.diagnostics = [action] ∧
      Request.decode "codeAction/resolve" (toJson action) = .ok (.resolve action) ∧
      ∃ moves,
        let w := (Workspace.fresh (fun _ => "") true 1).play waresCollaborators
          (.handshake { rootUri := some ⟨"file:///"⟩ } :: .fix action :: moves)
        w.fixCalls = [("new Bucket(\"wares\")", "no prefix")] ∧
        w.tasks[1]? = some (.finished (.reply (.ok (toJson { action with
          edit := some ⟨[("file:///shop.ts", [⟨wares.range, "new Bucket(\"shop-wares\")"⟩])]⟩ })))) := by
  have sent : waresQuestion.Sendable 7 := by
    have other : unusedJson.Sendable 4 := (sendable_ofMembers
      (by simp [sendable_range, sendable_string])).mono (show 3 ≤ 4 by decide)
    have shown := Findings.sendable_diagnostic ⟨"file:///shop.ts"⟩ 1 (some wares) unprefixed
    have range := (sendable_range (Range.lineStart 1)).mono (show 2 ≤ 6 by decide)
    refine sendable_ofMembers (List.forall_mem_cons.mpr ⟨?_, List.forall_mem_cons.mpr ⟨range,
      List.forall_mem_singleton.mpr (sendable_ofMembers (List.forall_mem_cons.mpr ⟨?_,
        List.forall_mem_singleton.mpr ?_⟩))⟩⟩)
    · exact sendable_ofMembers (by simp [sendable_string])
    · exact sendable_arr (by simp [other, shown])
    · exact sendable_arr (by simp [sendable_string])
  have decoded := Rpc.decode_call (.number 1) "textDocument/codeAction" sent.within.1 sent.floatFree
    (Nat.le_trans sent.within.2 (by decide))
  have listed : ("urn:wares", (⟨some ⟨"file:///shop.ts", 2, 14⟩, [unprefixed]⟩ : Resource)) ∈
    waresResources := List.mem_cons_self
  have offered : waresDeclarations "file:///shop.ts" = some [wares] := by decide
  have matched : [wares].find? (·.start.row = Findings.rowOf 2) = some wares := by decide
  obtain ⟨-, -, action, -, asked, -, -, request, -, resolves, complete⟩ :=
    quick_fix_reaches_declaration listed rfl offered matched List.mem_cons_self (by decide)
  -- The other diagnostic has no source, so nothing is offered for it.
  have asks : Asks waresQuestion [unusedJson,
      toJson (Findings.diagnostic ⟨"file:///shop.ts"⟩ 1 (some wares) unprefixed)] :=
    ⟨⟨_, rfl, _, rfl⟩, ⟨_, rfl, _, restores_range _⟩, _, rfl, rfl⟩
  obtain ⟨question, understood, -, offers, -⟩ := asked _ _ _ [_] [] [_] [] decoded asks rfl rfl
  refine ⟨action, question, decoded, understood, offers, request, ?_⟩
  obtain ⟨moves, calls, -, mended⟩ := resolves.reaches waresCollaborators
    ((Workspace.fresh (fun _ => "") true 1).play waresCollaborators
      [.handshake { rootUri := some ⟨"file:///"⟩ }, .fix action]) 1 _ _ rfl rfl rfl rfl
  exact ⟨moves, calls, mended⟩

end PolicyServer
