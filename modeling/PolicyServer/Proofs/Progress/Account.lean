import PolicyServer.Proofs.Progress.Stages

/-! Every token is told of, listed and cancelled as its stage has it. -/

namespace PolicyServer.Progress

/-- Who has to do with a token: the works that wait for it, how many have it, and the scopes that it is
listed with among the works in progress. -/
structure Standing where
  waiting : List (Opening Nat)
  holders : Nat
  entries : List (Option Nat)

def Stage.standing : Stage → Standing
  | .asked opening => ⟨[opening], 0, []⟩
  | .begun opening _ => ⟨[], 1, [opening.scope]⟩
  | _ => ⟨[], 0, []⟩

theorem Stage.eq_asked {stage : Stage} {opening : Opening Nat}
    (waits : opening ∈ stage.standing.waiting) : stage = .asked opening := by
  cases stage <;> simp_all [standing]

theorem Stage.eq_begun {stage : Stage} (held : 0 < stage.standing.holders) :
    ∃ opening reports, stage = .begun opening reports := by
  cases stage with
  | begun opening reports => exact ⟨opening, reports, rfl⟩
  | _ => cases held

namespace Board

variable {board board' : Board} {log : List Sight} {work : Work} {token : ProgressToken}
  {request : Request}

def held (board : Board) : List Work := board.works.map (·.2) ++ board.aside

def standing (board : Board) (token : ProgressToken) : Standing where
  waiting := (board.requests.filter (·.token = token)).map (·.opening)
  holders := board.held.count (.tracked token)
  entries := (board.tracker.inProgress.filter (·.1 = token)).map (·.2)

/--
The board goes with what was seen of every token.

As long as the editor is there, it has been told all that goes with a token's stage, and once it is gone
the beginning of that. No two tokens are for works of one scope.
-/
structure Accounted (board : Board) (log : List Sight) : Prop where
  ordered : board.works.Ordered
  distinct : Function.Injective board.tracker.names
  issued : ∀ {token : ProgressToken}, stage log token ≠ .unasked →
    ∃ place < board.tracker.issued, token = .text (board.tracker.names place)
  standing : ∀ token, board.standing token = (stage log token).standing
  told : ∀ token, board.outbox.about token <+: (stage log token).messages token
  whole : board.outbox.broken = false → ∀ token,
    board.outbox.about token = (stage log token).messages token
  scopes : ∀ {token : ProgressToken} {scope : Nat}, (stage log token).scope? = some scope →
    scope < board.scopes.length
  apart : ∀ {token other : ProgressToken} {scope : Nat}, (stage log token).scope? = some scope →
    (stage log other).scope? = some scope → token = other

theorem Accounted.quiet (accounted : Accounted board log) (ordered : board'.works.Ordered)
    (names : board'.tracker.names = board.tracker.names)
    (issued : board'.tracker.issued = board.tracker.issued)
    (standing : ∀ token, board'.standing token = board.standing token)
    (told : ∀ token, board'.outbox.about token = board.outbox.about token)
    (broken : board'.outbox.broken = false → board.outbox.broken = false)
    (scopes : board.scopes.length ≤ board'.scopes.length) : Accounted board' log where
  ordered := ordered
  distinct := names ▸ accounted.distinct
  issued seen := by
    rw [names, issued]
    exact accounted.issued seen
  standing token := (standing token).trans (accounted.standing token)
  told token := told token ▸ accounted.told token
  whole unbroken token := (told token).trans (accounted.whole (broken unbroken) token)
  scopes given := Nat.lt_of_lt_of_le (accounted.scopes given) scopes
  apart := accounted.apart

theorem Accounted.see (accounted : Accounted board log) (token : ProgressToken) (sight : Sight)
    (mine : sight.token = token) (new : List Outgoing) (ordered : board'.works.Ordered)
    (names : board'.tracker.names = board.tracker.names)
    (issued : board.tracker.issued ≤ board'.tracker.issued)
    (own : ∃ place < board'.tracker.issued, token = .text (board.tracker.names place))
    (others : ∀ other, other ≠ token → board'.standing other = board.standing other)
    (standing : board'.standing token = ((stage log token).next sight).standing)
    (outbox : board'.outbox = board.outbox.sendAll new)
    (about : ∀ message ∈ new, message.token? = some token)
    (messages : ((stage log token).next sight).messages token =
      (stage log token).messages token ++ new)
    (longer : board.scopes.length ≤ board'.scopes.length)
    (scopes : ((stage log token).next sight).scope? = (stage log token).scope? ∨
      ∀ scope, ((stage log token).next sight).scope? = some scope →
        board.scopes.length ≤ scope ∧ scope < board'.scopes.length) :
    Accounted board' (log ++ [sight]) := by
  subst mine
  have broken : board'.outbox.broken = board.outbox.broken := by
    rw [outbox]
    exact (Outbox.grows_sendAll _ _).broken
  have sent (token : ProgressToken) : board'.outbox.about token = board.outbox.about token ++
      if board.outbox.broken then [] else if sight.token = token then new else [] := by
    have mine : new.filter (·.token? = some token) = if sight.token = token then new else [] := by
      split
      · rename_i same
        exact List.filter_eq_self.mpr fun message member => by simp [about message member, same]
      · rename_i differs
        exact List.filter_eq_nil_iff.mpr fun message member => by simp [about message member, differs]
    rw [outbox, Outbox.about_sendAll, mine]
  refine ⟨ordered, names ▸ accounted.distinct, fun {token} seen => ?_, fun token => ?_,
    fun token => ?_, fun unbroken token => ?_, fun {token scope} given => ?_,
    fun {token other scope} given given' => ?_⟩
  · rw [names]
    by_cases same : sight.token = token
    · exact same ▸ own
    · rw [stage_append, if_neg same] at seen
      obtain ⟨place, before, text⟩ := accounted.issued seen
      exact ⟨place, Nat.lt_of_lt_of_le before issued, text⟩
  · by_cases same : sight.token = token
    · subst same
      rw [stage_append, if_pos rfl, standing]
    · rw [stage_append, if_neg same, others token (Ne.symm same)]
      exact accounted.standing token
  · rw [sent, stage_append]
    cases lost : board.outbox.broken with
    | true =>
      -- Nothing more is told, of a course that may have gone on.
      rw [if_pos rfl, List.append_nil]
      split
      · exact (accounted.told token).trans (Stage.messages_next token _ sight)
      · exact accounted.told token
    | false =>
      rw [if_neg (by simp), accounted.whole lost]
      split
      · rename_i same
        subst same
        exact messages ▸ List.prefix_refl _
      · simp
  · have unbroken : board.outbox.broken = false := broken ▸ unbroken
    rw [sent, stage_append, unbroken, accounted.whole unbroken]
    by_cases same : sight.token = token
    · subst same
      simp [messages]
    · simp [same]
  · rw [stage_append] at given
    split at given
    · rename_i same
      subst same
      rcases scopes with kept | new
      · exact Nat.lt_of_lt_of_le (accounted.scopes (kept ▸ given)) longer
      · exact (new scope given).2
    · exact Nat.lt_of_lt_of_le (accounted.scopes given) longer
  · -- A scope that a work is given now was given to none before it.
    rcases scopes with kept | new
    · have before (which : ProgressToken) :
          (stage (log ++ [sight]) which).scope? = (stage log which).scope? := by
        rw [stage_append]
        split
        · rename_i same
          exact same ▸ kept
        · rfl
      exact accounted.apart (before token ▸ given) (before other ▸ given')
    · rw [stage_append] at given given'
      split at given <;> split at given'
      · rename_i same same'
        exact same.symm.trans same'
      · rename_i same _
        subst same
        exact absurd (accounted.scopes given') (Nat.not_lt.mpr (new scope given).1)
      · rename_i _ same
        subst same
        exact absurd (accounted.scopes given) (Nat.not_lt.mpr (new scope given').1)
      · exact accounted.apart given given'

/-! ### What each act comes to -/

theorem held_keep (ordered : board.works.Ordered) (name : String) (work : Work) :
    (board.keep name work).held.Perm (work :: board.held) := by
  have put := (Table.perm_put ordered name work).map Prod.snd
  simp only [held, keep]
  cases found : board.works.get? name with
  | none =>
    rw [Table.erase_of_get?_none found] at put
    simpa using put.append_right board.aside
  | some former =>
    -- The former work of the name goes from one list to the other.
    have before := (Table.perm_of_get? ordered found).map Prod.snd
    have after : (board.works.map (·.2) ++ board.aside).Perm
        ((board.works.erase name).map (·.2) ++ (board.aside ++ [former])) := by
      refine (before.append_right _).trans ?_
      rw [← List.append_assoc]
      exact @List.perm_append_comm _ [former] _
    exact (put.append_right _).trans ((after.symm).cons work)

theorem held_erase (ordered : board.works.Ordered) {name : String}
    (found : board.works.get? name = some work) :
    board.held.Perm (work :: { board with works := board.works.erase name }.held) :=
  ((Table.perm_of_get? ordered found).map Prod.snd).append_right board.aside

theorem standing_congr (requests : board'.requests = board.requests)
    (held : board'.held.count (.tracked token) = board.held.count (.tracked token))
    (listed : board'.tracker.inProgress = board.tracker.inProgress) :
    board'.standing token = board.standing token := by
  simp only [standing, requests, held, listed]

theorem standing_asks (requests : board'.requests = board.requests ++ [request])
    (held : board'.held = board.held) (listed : board'.tracker.inProgress = board.tracker.inProgress)
    (token : ProgressToken) :
    board'.standing token = { board.standing token with
      waiting := (board.standing token).waiting ++
        if request.token = token then [request.opening] else [] } := by
  simp only [standing, requests, held, listed, List.filter_append, List.map_append]
  by_cases same : request.token = token <;> simp [same]

theorem Accounted.asked (accounted : Accounted board log) (member : request ∈ board.requests) :
    stage log request.token = .asked request.opening := by
  refine Stage.eq_asked ?_
  rw [← accounted.standing]
  exact List.mem_map_of_mem (List.mem_filter.mpr ⟨member, by simp⟩)

theorem Accounted.begun (accounted : Accounted board log) (member : .tracked token ∈ board.held) :
    ∃ opening reports,
      stage log token = .begun opening reports := by
  refine Stage.eq_begun ?_
  rw [← accounted.standing]
  exact List.count_pos_iff.mpr member

theorem Accounted.own (accounted : Accounted board log) (seen : stage log token ≠ .unasked)
    {issued : Nat} (longer : board.tracker.issued ≤ issued) :
    ∃ place < issued, token = .text (board.tracker.names place) := by
  obtain ⟨place, before, text⟩ := accounted.issued seen
  exact ⟨place, Nat.lt_of_lt_of_le before longer, text⟩

def give (board : Board) (name : String) (cancellable : Bool) : Board :=
  if cancellable then
    { board with
      scopes := board.scopes ++ [false]
      scopeOf := board.scopeOf.put name board.scopes.length }
  else board

theorem start_cases (board : Board) (name title message : String) (cancellable : Bool) :
    let given := board.give name cancellable
    let opening := board.openingOf title message cancellable
    (∃ work : Work, (∀ token, work ≠ .tracked token) ∧
      board.sights (.start name title message cancellable) = [] ∧
      board.start name title message cancellable =
        { given with outbox := board.outbox.sendAll (work.opened opening) }.keep name work) ∨
    (board.sights (.start name title message cancellable) = [.asked board.nextToken opening] ∧
      board.start name title message cancellable =
        { given with
          tracker := { board.tracker with issued := board.tracker.issued + 1 }
          outbox := board.outbox.sendAll [.create board.nextToken]
          requests := board.requests ++ [⟨board.nextToken, name, opening⟩] }) := by
  intro given opening
  cases supported : board.tracker.supported with
  | false =>
    refine .inl ⟨.plain, by simp, by simp [sights, supported], ?_⟩
    cases cancellable <;> simp [given, opening, start, give, openingOf, Tracker.announce, supported,
      Work.opened, Outbox.sendAll]
  | true =>
    cases takes : board.outbox.takesCalls with
    | false =>
      refine .inl ⟨.silent, by simp, by simp [sights, takes], ?_⟩
      cases cancellable <;> simp [given, start, give, Tracker.announce, supported, takes,
        Work.opened, Outbox.sendAll]
    | true =>
      refine .inr ⟨by simp [sights, supported, takes, opening], ?_⟩
      cases cancellable <;> simp [given, opening, start, give, openingOf, nextToken,
        Tracker.announce, supported, takes, Outbox.sendAll]

theorem count_of_untracked {before after : List Work} (perm : after.Perm (work :: before))
    (untracked : ∀ token, work ≠ .tracked token) (token : ProgressToken) :
    after.count (.tracked token) = before.count (.tracked token) := by
  rw [perm.count_eq, List.count_cons_of_ne (untracked token)]

theorem about_untracked (untracked : ∀ token, work ≠ .tracked token) (outbox : Outbox)
    (token : ProgressToken) :
    (∀ opening : Opening Nat,
      (outbox.sendAll (work.opened opening)).about token = outbox.about token) ∧
    ∀ message, (outbox.sendAll (work.closed message)).about token = outbox.about token := by
  simp only [Outbox.about_sendAll]
  cases work with
  | tracked other => exact absurd rfl (untracked other)
  | _ => cases outbox.broken <;> simp [Work.opened, Work.closed, Outgoing.token?]

theorem Accounted.start (accounted : Accounted board log) (name title message : String)
    (cancellable : Bool) : Accounted (board.start name title message cancellable)
      (log ++ board.sights (.start name title message cancellable)) := by
  have works : (board.give name cancellable).works = board.works := by cases cancellable <;> rfl
  have longer : board.scopes.length ≤ (board.give name cancellable).scopes.length := by
    cases cancellable <;> simp [give]
  rcases start_cases board name title message cancellable with
    ⟨work, untracked, unseen, after⟩ | ⟨seen, after⟩
  · rw [unseen, List.append_nil, after]
    have kept := @held_keep { board.give name cancellable with
      outbox := board.outbox.sendAll (work.opened (board.openingOf title message cancellable)) }
      (works ▸ accounted.ordered) name work
    refine accounted.quiet ?_ ?_ ?_ (fun token => standing_congr ?_ ?_ ?_)
      (fun token => (about_untracked untracked _ token).1 _) ?_ longer
    · exact (works ▸ accounted.ordered).put name work
    · cases cancellable <;> rfl
    · cases cancellable <;> rfl
    · cases cancellable <;> rfl
    · rw [count_of_untracked kept untracked token]
      cases cancellable <;> rfl
    · cases cancellable <;> rfl
    · intro unbroken
      rw [← unbroken]
      exact (Outbox.grows_sendAll _ _).broken.symm
  · -- The token is new, so nothing was seen of it.
    have new : stage log board.nextToken = .unasked := by
      refine Classical.byContradiction fun known => ?_
      obtain ⟨place, before, text⟩ := accounted.issued known
      have same := accounted.distinct (ProgressToken.text.inj text)
      omega
    have before : board.standing board.nextToken = ⟨[], 0, []⟩ := by
      rw [accounted.standing, new]
      rfl
    have asks := @standing_asks board (board.start name title message cancellable)
      ⟨board.nextToken, name, board.openingOf title message cancellable⟩ (by rw [after])
      (by rw [after]; cases cancellable <;> rfl) (by rw [after])
    rw [after] at asks
    rw [seen, after]
    refine accounted.see board.nextToken _ rfl [.create board.nextToken]
      (works ▸ accounted.ordered) rfl (Nat.le_succ _)
      ⟨board.tracker.issued, Nat.lt_succ_self _, rfl⟩ (fun other differs => ?_) ?_ rfl
      (by simp [Outgoing.token?]) ?_ longer (.inr fun scope given => ?_)
    · rw [asks]
      simp [Ne.symm differs]
    · rw [asks]
      simp [before, new, Stage.next, Stage.standing]
    · simp [new, Stage.next, Stage.messages]
    · simp only [new, Stage.next, Stage.scope?, openingOf] at given
      cases cancellable with
      | false => cases given
      | true =>
        obtain rfl := Option.some.inj given
        simp [give]

/-! The editor answers. -/

theorem filter_same {α : Type} (key : α → ProgressToken) (token : ProgressToken) (list : List α) :
    (list.filter (key · ≠ token)).filter (key · = token) = [] := by
  simp [List.filter_filter]

theorem filter_apart {α : Type} (key : α → ProgressToken) {other : ProgressToken}
    (differs : token ≠ other) (list : List α) :
    (list.filter (key · ≠ other)).filter (key · = token) = list.filter (key · = token) := by
  rw [List.filter_filter]
  refine List.filter_congr fun item _ => ?_
  by_cases same : key item = token <;> simp [same, differs]

theorem standing_answers {accepted : Bool}
    (kind : work = if accepted then .tracked request.token else .silent)
    (requests : board'.requests = board.requests.filter (·.token ≠ request.token))
    (held : board'.held.Perm (work :: board.held))
    (listed : board'.tracker.inProgress = if accepted then
      board.tracker.inProgress.filter (·.1 ≠ request.token) ++ [(request.token, request.opening.scope)]
      else board.tracker.inProgress) (token : ProgressToken) :
    board'.standing token =
      if token = request.token then
        ⟨[], (board.standing token).holders + accepted.toNat,
          if accepted then [request.opening.scope] else (board.standing token).entries⟩
      else board.standing token := by
  subst kind
  simp only [standing, requests, held.count_eq, listed, List.count_cons]
  by_cases same : token = request.token
  · subst same
    cases accepted <;> simp
  · rw [filter_apart _ same, if_neg same]
    cases accepted with
    | false => simp
    | true =>
      simp only [if_true, List.filter_append, filter_apart Prod.fst same]
      simp [Ne.symm same]

theorem answer_eq (found : board.requests.find? (·.token = request.token) = some request)
    (accepted : Bool) :
    let work : Work := if accepted then .tracked request.token else .silent
    ∃ after : Board, board.answer request.token accepted = after.keep request.name work ∧
      after.works = board.works ∧ after.aside = board.aside ∧ after.scopes = board.scopes ∧
      after.requests = board.requests.filter (·.token ≠ request.token) ∧
      after.tracker = { board.tracker with
        inProgress := if accepted then
          board.tracker.inProgress.filter (·.1 ≠ request.token) ++
            [(request.token, request.opening.scope)]
          else board.tracker.inProgress } ∧
      after.outbox = board.outbox.sendAll (work.opened request.opening) := by
  cases accepted with
  | false =>
    refine ⟨{ board with requests := board.requests.filter (·.token ≠ request.token) }, ?_,
      rfl, rfl, rfl, rfl, rfl, rfl⟩
    simp only [Board.answer, found]
    rfl
  | true =>
    refine ⟨{ board with
      tracker := (board.tracker.begin board.outbox request.token request.opening).1
      outbox := (board.tracker.begin board.outbox request.token request.opening).2
      requests := board.requests.filter (·.token ≠ request.token) }, ?_,
      rfl, rfl, rfl, rfl, rfl, rfl⟩
    simp only [Board.answer, found]
    rfl

theorem Accounted.answer (accounted : Accounted board log) (token : ProgressToken) (accepted : Bool) :
    Accounted (board.answer token accepted) (log ++ board.answerSights token accepted) := by
  cases found : board.requests.find? (·.token = token) with
  | none =>
    have unknown := List.find?_eq_none.mp found
    have none : board.answerSights token accepted = [] := if_neg (by simpa using unknown)
    simpa [none, Board.answer, found] using accounted
  | some request =>
    have member := List.mem_of_find?_eq_some found
    obtain rfl : request.token = token := by simpa using List.find?_some found
    have seen : board.answerSights request.token accepted = [.answered request.token accepted] := by
      refine if_pos (List.any_eq_true.mpr ⟨request, member, by simp⟩)
    have asked := accounted.asked member
    have before : board.standing request.token = ⟨[request.opening], 0, []⟩ := by
      rw [accounted.standing, asked]
      rfl
    obtain ⟨after, same, works, aside, scopes, requests, tracker, outbox⟩ := answer_eq found accepted
    have ordered : after.works.Ordered := works ▸ accounted.ordered
    have kept : (board.answer request.token accepted).held.Perm
        ((if accepted then .tracked request.token else .silent) :: board.held) := by
      have held : after.held = board.held := by simp only [Board.held, works, aside]
      rw [same, ← held]
      exact held_keep ordered _ _
    have answers := standing_answers rfl (by rw [same]; exact requests) kept
      (by rw [same]; exact congrArg (·.inProgress) tracker)
    have issued : (board.answer request.token accepted).tracker.issued = board.tracker.issued := by
      rw [same]
      exact congrArg (·.issued) tracker
    rw [seen]
    refine accounted.see request.token (.answered request.token accepted) rfl (Work.opened request.opening
      (if accepted then .tracked request.token else .silent)) ?_ ?_ (Nat.le_of_eq issued.symm)
      (accounted.own ?_ (Nat.le_of_eq issued.symm)) (fun other differs => ?_) ?_ ?_ ?_ ?_ ?_ (.inl ?_)
    · rw [same]
      exact ordered.put _ _
    · rw [same]
      exact congrArg (·.names) tracker
    · rw [asked]
      simp
    · rw [answers, if_neg differs]
    · rw [answers, if_pos rfl, before, asked]
      cases accepted <;> rfl
    · rw [same]
      exact outbox
    · cases accepted <;> simp [Work.opened, Outgoing.token?]
    · rw [asked]
      cases accepted <;> rfl
    · rw [same]
      exact Nat.le_of_eq (congrArg List.length scopes).symm
    · rw [asked]
      cases accepted <;> rfl

/-! Works report, end and are dropped. -/

theorem Accounted.report (accounted : Accounted board log) (name message : String)
    (percentage : Option UInt32) : Accounted (board.report name message percentage)
      (log ++ board.sights (.report name message percentage)) := by
  cases found : board.works.get? name with
  | none => simpa [sights, tokenOf?, Board.report, found] using accounted
  | some work =>
    have after : board.report name message percentage =
        { board with outbox := Tracker.report board.outbox work message percentage } := by
      simp [Board.report, found]
    rw [after]
    cases work with
    | tracked token =>
      have seen : board.sights (.report name message percentage) =
          [.reported token message percentage] := by simp [sights, tokenOf?, found, Work.token?]
      have here : .tracked token ∈ board.held :=
        (held_erase accounted.ordered found).mem_iff.mpr List.mem_cons_self
      obtain ⟨opening, reports, begun⟩ := accounted.begun here
      rw [seen]
      refine accounted.see token (.reported token message percentage) rfl
        [.progress token (.report (some message) percentage)] accounted.ordered rfl (Nat.le_refl _)
        (accounted.own (by rw [begun]; simp) (Nat.le_refl _)) (fun _ _ => rfl) ?_ rfl
        (by simp [Outgoing.token?]) ?_ (Nat.le_refl _) (.inl ?_)
      · exact (accounted.standing token).trans (by rw [begun]; rfl)
      · rw [begun]
        simp [Stage.next, Stage.messages, Stage.course]
      · rw [begun]
        rfl
    | _ =>
      have none : board.sights (.report name message percentage) = [] := by
        simp [sights, tokenOf?, found, Work.token?]
      rw [none, List.append_nil]
      exact accounted

def farewell (message? : Option String) (token : ProgressToken) : Sight :=
  match message? with
  | some message => .ended token message
  | none => .dropped token

theorem Accounted.leave (accounted : Accounted board log) (message? : Option String)
    (held : board.held.Perm (work :: board'.held)) (ordered : board'.works.Ordered)
    (requests : board'.requests = board.requests) (tracker : board'.tracker = board.tracker.forget work)
    (scopes : board'.scopes = board.scopes)
    (outbox : board'.outbox = board.outbox.sendAll ((message?.map work.closed).getD [])) :
    Accounted board' (log ++ work.token?.toList.map (farewell message?)) := by
  have unbroken : board'.outbox.broken = board.outbox.broken := by
    rw [outbox]
    exact (Outbox.grows_sendAll _ _).broken
  have longer : board.scopes.length ≤ board'.scopes.length := Nat.le_of_eq (by rw [scopes])
  cases kind : work.token? with
  | some token =>
    obtain rfl : work = .tracked token := by cases work <;> cases kind; rfl
    obtain ⟨opening, reports, begun⟩ := accounted.begun (held.mem_iff.mpr List.mem_cons_self)
    have before : board.standing token = ⟨[], 1, [opening.scope]⟩ := by
      rw [accounted.standing, begun]
      rfl
    simp only [Board.standing, Standing.mk.injEq] at before
    have count (other : ProgressToken) := held.count_eq (.tracked other)
    have issued : board'.tracker.issued = board.tracker.issued := by rw [tracker]; rfl
    have listed : board'.tracker.inProgress = board.tracker.inProgress.filter (·.1 ≠ token) := by
      rw [tracker]
      rfl
    refine accounted.see token (farewell message? token) (by cases message? <;> rfl)
      ((message?.map (Work.closed · (.tracked token))).getD []) ordered (by rw [tracker]; rfl)
      (Nat.le_of_eq issued.symm) (accounted.own (by rw [begun]; simp) (Nat.le_of_eq issued.symm))
      (fun other differs => ?_) ?_ outbox ?_ ?_ longer (.inl ?_)
    · have still := count other
      rw [List.count_cons_of_ne (by simpa using Ne.symm differs)] at still
      simp only [Board.standing, requests, listed, filter_apart Prod.fst differs, still]
    · -- Nobody else has the token, so none is left who has it.
      have gone := count token
      rw [before.2.1, List.count_cons_self] at gone
      have ended : ((stage log token).next (farewell message? token)).standing = ⟨[], 0, []⟩ := by
        rw [begun]
        cases message? <;> rfl
      rw [ended]
      simp only [Board.standing, requests, listed, filter_same Prod.fst, before.1,
        show board'.held.count (.tracked token) = 0 by omega, List.map_nil]
    · cases message? <;> simp [Work.closed, Outgoing.token?]
    · rw [begun]
      cases message? <;> simp [farewell, Stage.next, Stage.messages, Work.closed]
    · rw [begun]
      cases message? <;> rfl
  | none =>
    have untracked (token : ProgressToken) : work ≠ .tracked token := by
      rintro rfl
      cases kind
    have still : board.tracker.forget work = board.tracker := by cases work <;> first | rfl | cases kind
    rw [still] at tracker
    refine (List.append_nil log).symm ▸ accounted.quiet ordered (by rw [tracker]) (by rw [tracker])
      (fun token => standing_congr requests (count_of_untracked held untracked token).symm
        (by rw [tracker])) (fun token => ?_) (unbroken ▸ id) longer
    rw [outbox]
    cases message? with
    | none => rfl
    | some message => exact (about_untracked untracked _ token).2 message

theorem Accounted.conclude (accounted : Accounted board log) (name message : String) :
    Accounted (board.conclude name message) (log ++ board.sights (.conclude name message)) := by
  cases found : board.works.get? name with
  | none => simpa [sights, tokenOf?, Board.conclude, found] using accounted
  | some work =>
    have after : board.conclude name message =
        { board with
          tracker := board.tracker.forget work
          outbox := board.outbox.sendAll (work.closed message)
          works := board.works.erase name } := by
      simp [Board.conclude, found, Tracker.conclude_eq]
    have seen : board.sights (.conclude name message) =
        work.token?.toList.map (farewell (some message)) := by
      simp only [sights, tokenOf?, found]
      rfl
    rw [seen, after]
    exact accounted.leave (some message) (held_erase accounted.ordered found)
      (accounted.ordered.erase name) rfl rfl rfl rfl

theorem Accounted.drop (accounted : Accounted board log) (name : String) :
    Accounted (board.drop name) (log ++ board.sights (.drop name)) := by
  cases found : board.works.get? name with
  | none => simpa [sights, tokenOf?, Board.drop, found] using accounted
  | some work =>
    have after : board.drop name =
        { board with tracker := board.tracker.forget work, works := board.works.erase name } := by
      simp [Board.drop, found]
    have seen : board.sights (.drop name) = work.token?.toList.map (farewell none) := by
      simp only [sights, tokenOf?, found]
      rfl
    rw [seen, after]
    exact accounted.leave none (held_erase accounted.ordered found)
      (accounted.ordered.erase name) rfl rfl rfl rfl

theorem Accounted.sweep (accounted : Accounted board log) :
    Accounted board.sweep (log ++ board.sights .sweep) := by
  simp only [sights]
  -- Each work takes its token out of the table, so the board changes from one to the next.
  generalize listed : board.aside = aside
  induction aside generalizing board log with
  | nil =>
    have still : board.sweep = board := by
      obtain ⟨tracker, outbox, requests, works, scopes, scopeOf, aside⟩ := board
      cases listed
      rfl
    rw [still]
    simpa using accounted
  | cons work rest ih =>
    have held : board.held.Perm
        (work :: { board with tracker := board.tracker.forget work, aside := rest }.held) := by
      simp only [Board.held, listed]
      exact List.perm_middle
    have first := accounted.leave none held accounted.ordered rfl rfl rfl rfl
    have others := ih first rfl
    have after : board.sweep =
        { board with tracker := board.tracker.forget work, aside := rest }.sweep := by
      simp only [Board.sweep, listed, List.foldl_cons]
    have seen : ((work :: rest).filterMap Work.token?).map Sight.dropped =
        work.token?.toList.map (farewell none) ++ (rest.filterMap Work.token?).map .dropped := by
      cases work <;> rfl
    rw [after, seen, ← List.append_assoc]
    exact others

theorem Accounted.hangUp (accounted : Accounted board log) :
    Accounted board.hangUp (log ++ board.sights .hangUp) := by
  have lost : Accounted board.lose log :=
    accounted.quiet accounted.ordered rfl rfl (fun _ => rfl) (fun _ => rfl)
      (fun broken => by cases broken) (Nat.le_refl _)
  exact trace_induction Accounted (fun _ => True) (fun {_ _ request} _ before =>
    before.answer request.token false) lost fun request (_ : request ∈ board.requests) => trivial

theorem Accounted.act (accounted : Accounted board log) (act : Act) :
    Accounted (board.act act) (log ++ board.sights act) := by
  cases act with
  | support supported =>
    exact (List.append_nil log).symm ▸ accounted.quiet accounted.ordered rfl rfl (fun _ => rfl)
      (fun _ => rfl) id (Nat.le_refl _)
  | start name title message cancellable => exact accounted.start name title message cancellable
  | answer token accepted => exact accounted.answer token accepted
  | report name message percentage => exact accounted.report name message percentage
  | conclude name message => exact accounted.conclude name message
  | drop name => exact accounted.drop name
  | sweep => exact accounted.sweep
  | cancel token =>
    refine (List.append_nil log).symm ▸ ?_
    simp only [Board.act, Board.cancel]
    cases board.tracker.cancel token with
    | error error => exact accounted
    | ok scope =>
      exact accounted.quiet accounted.ordered rfl rfl (fun _ => rfl) (fun _ => rfl) id
        (Nat.le_of_eq (List.length_set).symm)
  | hangUp => exact accounted.hangUp

/-! ### In every course of acts -/

theorem fresh_accounted {names : Nat → String} (distinct : Function.Injective names) (supported : Bool) :
    Accounted (fresh names supported) [] where
  ordered := List.Pairwise.nil
  distinct := distinct
  issued seen := absurd rfl seen
  standing _ := rfl
  told _ := List.nil_prefix
  whole _ _ := rfl
  scopes given := by cases given
  apart given := by cases given

theorem run_accounted {names : Nat → String} (distinct : Function.Injective names) (supported : Bool)
    (acts : List Act) :
    Accounted ((fresh names supported).run acts) ((fresh names supported).sightings acts) :=
  trace_induction Accounted (fun _ => True) (fun {_ _ act} _ before => before.act act)
    (fresh_accounted distinct supported) fun act (_ : act ∈ acts) => trivial

theorem Accounted.entries (accounted : Accounted board log) (token : ProgressToken) :
    (board.tracker.inProgress.filter (·.1 = token)).map (·.2) =
      (stage log token).standing.entries :=
  congrArg Standing.entries (accounted.standing token)

theorem Accounted.mem_inProgress (accounted : Accounted board log) {scope : Option Nat} :
    (token, scope) ∈ board.tracker.inProgress ↔
      ∃ opening reports, stage log token = .begun opening reports ∧ opening.scope = scope := by
  have listed : (token, scope) ∈ board.tracker.inProgress ↔
      scope ∈ (stage log token).standing.entries := by
    rw [← accounted.entries]
    simp
  rw [listed]
  cases stage log token <;> simp [Stage.standing, eq_comm]

theorem Accounted.nodup (accounted : Accounted board log) :
    (board.tracker.inProgress.map (·.1)).Nodup := by
  rw [List.nodup_iff_count]
  intro token
  have once : (stage log token).standing.entries.length ≤ 1 := by
    cases stage log token <;> simp [Stage.standing]
  rw [← accounted.entries, List.length_map, ← List.countP_eq_length_filter] at once
  rw [List.count, List.countP_map]
  refine Nat.le_trans (Nat.le_of_eq ?_) once
  exact List.countP_congr fun entry _ => by simp

theorem lookup_eq_head? (token : ProgressToken) (entries : List (ProgressToken × Option Nat)) :
    entries.lookup token = ((entries.filter (·.1 = token)).map (·.2)).head? := by
  induction entries with
  | nil => rfl
  | cons entry rest ih =>
    obtain ⟨other, scope⟩ := entry
    by_cases same : token = other
    · simp [same]
    · have apart : (token == other) = false := by simpa using same
      simp [List.lookup_cons, apart, Ne.symm same, ih]

theorem Accounted.lookup (accounted : Accounted board log) (token : ProgressToken) :
    board.tracker.inProgress.lookup token = (stage log token).standing.entries.head? := by
  rw [lookup_eq_head?, accounted.entries]

/--
Every token is told of, listed and cancelled as its work has it.

As long as the editor is there, it is sent just the messages that go with the stage of a token: one call
to create it; that the work begins, if the token was taken; the reports; and that the work is over, if it
was ended. Once the editor is gone it has been sent the beginning of that. The works in progress are
those that have begun and were neither ended nor dropped, each with its scope. Cancelling a token of such
a work cancels the scope that the work was started with, which no other work has; if it has none, or
there is no such work, that is refused and nothing is cancelled.
-/
theorem tokens_told_listed_and_cancelled (names : Nat → String) (distinct : Function.Injective names)
    (supported : Bool) (acts : List Act) :
    let start := fresh names supported
    let board := start.run acts
    let log := start.sightings acts
    (∀ token, board.outbox.about token <+: (stage log token).messages token ∧
      (board.outbox.broken = false →
        board.outbox.about token = (stage log token).messages token)) ∧
    (∀ token scope, (token, scope) ∈ board.tracker.inProgress ↔
      ∃ opening reports, stage log token = .begun opening reports ∧ opening.scope = scope) ∧
    (board.tracker.inProgress.map (·.1)).Nodup ∧
    (∀ token opening reports scope, stage log token = .begun opening reports →
      opening.scope = some scope →
      board.cancel token = .ok { board with scopes := board.scopes.set scope true } ∧
        scope < board.scopes.length ∧
        ∀ other, (stage log other).scope? = some scope → other = token) ∧
    (∀ token opening reports, stage log token = .begun opening reports → opening.scope = none →
      board.cancel token = .error (.notCancellable token)) ∧
    (∀ token, (∀ opening reports, stage log token ≠ .begun opening reports) →
      board.cancel token = .error (.unknownToken token)) := by
  intro start board log
  have accounted : Accounted board log := run_accounted distinct supported acts
  refine ⟨fun token => ⟨accounted.told token, fun whole => accounted.whole whole token⟩,
    fun token scope => accounted.mem_inProgress, accounted.nodup,
    fun token opening reports scope begun given => ?_, fun token opening reports begun none => ?_,
    fun token other => ?_⟩
  · have found := accounted.lookup token
    rw [begun, Stage.standing, List.head?_cons, given] at found
    have own : (stage log token).scope? = some scope := by rw [begun]; exact given
    refine ⟨?_, accounted.scopes own, fun other same => accounted.apart same own⟩
    simp only [Board.cancel, Tracker.cancel, found]
    rfl
  · have found := accounted.lookup token
    rw [begun, Stage.standing, List.head?_cons, none] at found
    simp only [Board.cancel, Tracker.cancel, found]
    rfl
  · have found : board.tracker.inProgress.lookup token = none := by
      rw [accounted.lookup]
      cases reached : stage log token with
      | begun opening reports => exact absurd reached (other opening reports)
      | _ => rfl
    simp only [Board.cancel, Tracker.cancel, found]
    rfl

def tallies (number : Nat) : String := String.ofList (List.replicate number 't')

theorem tallies_injective : Function.Injective tallies := by
  intro number other same
  have lists := String.ofList_injective same
  simpa using congrArg List.length lists

/-- Three works overlap: the second can be cancelled, the third takes over the name of the first, whose
token is dropped with it, and the token of the third is refused. -/
def overlappingActs : List Act := [
  .start "a" "title" "first" true, .start "b" "title" "second" true,
  .answer (.text "t") true, .answer (.text "") true, .report "b" "half" (some 50),
  .start "a" "title" "third" false, .answer (.text "tt") false, .sweep]

/-- Of three works that overlap, the one that goes on can be cancelled, and only that one. -/
theorem overlapping_works_are_told_apart :
    let board := (fresh tallies true).run overlappingActs
    Function.Injective tallies ∧
      board.cancel (.text "t") = .ok { board with scopes := [false, true] } ∧
      board.cancel (.text "") = .error (.unknownToken (.text "")) ∧
      board.outbox.about (.text "t") = [.create (.text "t"),
        .progress (.text "t") (.begin "title" true (some "second")),
        .progress (.text "t") (.report (some "half") (some 50))] := by
  intro board
  obtain ⟨told, -, -, cancelled, -, unknown⟩ :=
    tokens_told_listed_and_cancelled tallies tallies_injective true overlappingActs
  have begun : stage ((fresh tallies true).sightings overlappingActs) (.text "t") =
      .begun ⟨"title", "second", some 1⟩ [("half", some 50)] := by rfl
  have dropped : stage ((fresh tallies true).sightings overlappingActs) (.text "") =
      .dropped ⟨"title", "first", some 0⟩ [] := by rfl
  refine ⟨tallies_injective, (cancelled _ _ _ 1 begun rfl).1, unknown _ fun opening reports => ?_, ?_⟩
  · rw [dropped]
    simp
  · rw [(told (.text "t")).2 rfl, begun]
    rfl

end Board

end PolicyServer.Progress
