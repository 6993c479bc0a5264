import PolicyServer.Proofs.Places
import PolicyServer.Proofs.Rpc.Moves

/-! Once a connection has settled, each of its calls is over or waits for the peer. -/

namespace PolicyServer.Rpc

/-- How many steps are left to a call at most, with the message that giving it up may leave. -/
def OutgoingCall.ahead (call : OutgoingCall) : Nat :=
  match call.phase with
  | .sending => 3
  | .waiting => 2
  | .finished _ => 0

namespace Connection

variable {conn conn' : Connection} {number : Nat} {call : OutgoingCall}

/-! ### What calls ask for -/

def requests (conn : Connection) : List (String × Json) :=
  conn.calls.map fun call => (call.method, call.params)

theorem requests_modifyCall (conn : Connection) (number : Nat)
    {change : OutgoingCall → OutgoingCall} (method : ∀ call, (change call).method = call.method)
    (params : ∀ call, (change call).params = call.params) :
    (conn.modifyCall number change).requests = conn.requests := by
  refine map_modify_of_eq conn.calls number fun call => ?_
  rw [method, params]

theorem CallAdvance.requests (advance : CallAdvance conn number call conn') :
    conn'.requests = conn.requests := by
  cases advance <;> exact requests_modifyCall _ _ (fun _ => rfl) (fun _ => rfl)

theorem stepBacklog_frame {place : Nat} (stepped : conn.stepBacklog place = some conn') :
    conn'.calls = conn.calls ∧ conn'.closed = conn.closed := by
  obtain ⟨message, -, rfl⟩ := Option.map_eq_some_iff.mp stepped
  cases conn.broken <;> exact ⟨rfl, rfl⟩

/-- Nothing that calls ask for is forgotten, and the connection does not open again. -/
structure Lasts (conn conn' : Connection) : Prop where
  requests : conn.requests <+: conn'.requests
  closed : conn.closed = true → conn'.closed = true

theorem Lasts.refl (conn : Connection) : Lasts conn conn := ⟨List.prefix_refl _, id⟩

theorem Lasts.trans {conn'' : Connection} (first : Lasts conn conn') (second : Lasts conn' conn'') :
    Lasts conn conn'' :=
  ⟨first.requests.trans second.requests, fun ended => second.closed (first.closed ended)⟩

theorem Lasts.of_eq (requests : conn'.requests = conn.requests)
    (closed : conn'.closed = conn.closed) : Lasts conn conn' :=
  ⟨requests ▸ List.prefix_refl _, fun ended => closed.trans ended⟩

theorem dispatch_lasts (conn : Connection) (message : Message) :
    Lasts conn (conn.dispatch message).2 := by
  cases message with
  | response id outcome =>
    simp only [dispatch, deliver]
    split
    · exact .refl conn
    · exact .of_eq (requests_modifyCall _ _ (fun _ => rfl) (fun _ => rfl)) rfl
  | notification method params =>
    simp only [dispatch, cancelInbound]
    split
    · split
      · exact .refl conn
      · split <;> exact .of_eq rfl rfl
    · exact .refl conn
  | call id method params => exact .of_eq rfl rfl

theorem close_lasts (conn : Connection) : Lasts conn conn.close := by
  refine ⟨?_, fun _ => rfl⟩
  have same : conn.close.requests = conn.requests := by
    simp only [requests, close]
    refine List.ext_getElem? fun place => ?_
    simp only [List.getElem?_map, List.getElem?_mapIdx]
    cases conn.calls[place]? with
    | none => rfl
    | some call =>
      split <;> rfl
  exact same ▸ List.prefix_refl _

theorem reply_frame (conn : Connection) (ticket : Nat) (outcome : Except Error Json) :
    (conn.reply ticket outcome).calls = conn.calls ∧
      (conn.reply ticket outcome).closed = conn.closed := by
  unfold Connection.reply
  split
  · exact ⟨rfl, rfl⟩
  · split
    · exact ⟨rfl, rfl⟩
    · by_cases broken : conn.broken <;> simp [writeIfOpen, write, retire, modifyInbound, broken]

theorem reply_lasts (conn : Connection) (ticket : Nat) (outcome : Except Error Json) :
    Lasts conn (conn.reply ticket outcome) := by
  obtain ⟨calls, closed⟩ := reply_frame conn ticket outcome
  exact .of_eq (by rw [requests, calls]; rfl) closed

theorem start_cases (conn : Connection) (method : String) (params : Json) :
    (∃ number conn', conn.start method params = some (number, conn') ∧ Lasts conn conn' ∧
        conn'.requests[number]? = some (method, params)) ∨
      conn.start method params = none ∧ conn.closed = true := by
  unfold start
  split
  · rename_i ended
    exact .inr ⟨rfl, ended⟩
  · refine .inl ⟨_, _, rfl, ⟨?_, id⟩, by simp [requests]⟩
    simp only [requests, List.map_append]
    exact List.prefix_append _ _

/-! ### Steps that are left -/

def ahead (conn : Connection) : Nat :=
  conn.calls.foldr (fun call rest => call.ahead + rest) 0 + conn.backlog.length

theorem ahead_modify {calls : List OutgoingCall} (change : OutgoingCall → OutgoingCall)
    (found : calls[number]? = some call) :
    (calls.modify number change).foldr (fun call rest => call.ahead + rest) 0 + call.ahead =
      calls.foldr (fun call rest => call.ahead + rest) 0 + (change call).ahead := by
  induction calls generalizing number with
  | nil => cases found
  | cons first rest ih =>
    cases number with
    | zero =>
      cases found
      simp only [List.modify_zero_cons, List.foldr_cons]
      omega
    | succ number =>
      have later := @ih number found
      simp only [List.modify_succ_cons, List.foldr_cons]
      omega

theorem CallAdvance.ahead_lt (advance : CallAdvance conn number call conn')
    (found : conn.calls[number]? = some call) : conn'.ahead < conn.ahead := by
  have done : ∀ {outcome : Except CallError Json}, 2 ≤ call.ahead →
      (conn.finish number outcome).ahead + 2 ≤ conn.ahead := by
    intro outcome left
    have sum := ahead_modify (fun call => { call with phase := .finished outcome }) found
    simp only [ahead, Connection.finish, modifyCall]
    simp only [OutgoingCall.ahead] at sum left ⊢
    omega
  have sending (sends : call.phase = .sending) : call.ahead = 3 := by
    simp [OutgoingCall.ahead, sends]
  have waiting (waits : call.phase = .waiting) : 2 ≤ call.ahead := by
    simp [OutgoingCall.ahead, waits]
  cases advance with
  | unsent sends =>
    have := @done (.error (.send .brokenPipe)) (by rw [sending sends]; decide)
    omega
  | sent sends =>
    have sum := ahead_modify (fun call => { call with phase := .waiting }) found
    have left := sending sends
    simp only [ahead, modifyCall]
    simp only [OutgoingCall.ahead] at sum left ⊢
    omega
  | @result value waits =>
    have := @done (.ok value) (waiting waits)
    omega
  | @refusal error waits =>
    have := @done (.error (.refused error)) (waiting waits)
    omega
  | loss waits =>
    have := @done (.error .closed) (waiting waits)
    omega
  | giveUp waits =>
    -- The message that tells the peer is one of the steps that were left.
    have := @done (.error .cancelled) (waiting waits)
    simp only [ahead, Connection.finish, modifyCall, List.length_append, List.length_singleton] at this ⊢
    omega

theorem stepBacklog_ahead {place : Nat} (stepped : conn.stepBacklog place = some conn') :
    conn'.ahead < conn.ahead := by
  have same := (stepBacklog_frame stepped).1
  obtain ⟨message, found, rfl⟩ := Option.map_eq_some_iff.mp stepped
  have within := (List.getElem?_eq_some_iff.mp found).1
  have shorter : (writeIfOpen { conn with backlog := conn.backlog.eraseIdx place } message).backlog =
      conn.backlog.eraseIdx place := by
    cases conn.broken <;> rfl
  simp only [ahead, same, shorter, List.length_eraseIdx, within, if_true]
  omega

theorem settling_cases (stepped : (conn.stepCalls <|> conn.stepBacklog 0) = some conn') :
    (∃ number call, conn.calls[number]? = some call ∧ CallAdvance conn number call conn') ∨
      conn.stepBacklog 0 = some conn' := by
  cases chosen : conn.stepCalls with
  | some next =>
    obtain ⟨number, -, taken⟩ := List.exists_of_findSome?_eq_some chosen
    obtain ⟨call, found, advance⟩ := stepCall_advance taken
    rw [chosen] at stepped
    cases stepped
    exact .inl ⟨number, call, found, advance⟩
  | none =>
    rw [chosen] at stepped
    exact .inr stepped

theorem settle_induction (holds : Connection → Prop)
    (call : ∀ {conn conn' : Connection} {number : Nat} {call : OutgoingCall},
      conn.calls[number]? = some call → CallAdvance conn number call conn' → holds conn →
      holds conn')
    (backlog : ∀ {conn conn' : Connection}, conn.stepBacklog 0 = some conn' → holds conn →
      holds conn') (start : holds conn) : holds conn.settle := by
  unfold settle
  generalize 3 * conn.calls.length + conn.backlog.length = limit
  induction limit generalizing conn with
  | zero => exact start
  | succ limit ih =>
    simp only [settleWithin]
    split
    · exact start
    · rename_i after stepped
      rcases settling_cases stepped with ⟨number, former, found, advance⟩ | written
      · exact ih (call found advance start)
      · exact ih (backlog written start)

theorem settle_frame (conn : Connection) :
    conn.settle.requests = conn.requests ∧ conn.settle.closed = conn.closed := by
  refine settle_induction
    (fun after => after.requests = conn.requests ∧ after.closed = conn.closed) ?_ ?_ ⟨rfl, rfl⟩
  · intro before after number call found advance kept
    rw [advance.requests]
    cases advance <;> exact kept
  · intro before after stepped kept
    obtain ⟨calls, closed⟩ := stepBacklog_frame stepped
    rw [requests, calls, closed]
    exact kept

theorem ahead_le (conn : Connection) :
    conn.ahead ≤ 3 * conn.calls.length + conn.backlog.length := by
  have each : ∀ calls : List OutgoingCall,
      calls.foldr (fun call rest => call.ahead + rest) 0 ≤ 3 * calls.length := by
    intro calls
    induction calls with
    | nil => simp
    | cons first rest ih =>
      have one : first.ahead ≤ 3 := by
        unfold OutgoingCall.ahead
        split <;> omega
      simp only [List.foldr_cons, List.length_cons]
      omega
  have := each conn.calls
  simp only [ahead]
  omega

theorem stepCalls_settle (conn : Connection) : conn.settle.stepCalls = none := by
  have general : ∀ (limit : Nat) (conn : Connection), conn.ahead ≤ limit →
      (conn.settleWithin limit).stepCalls = none := by
    intro limit
    induction limit with
    | zero =>
      intro conn few
      -- Where no step is left, there is none to take.
      cases chosen : conn.stepCalls with
      | none => exact chosen
      | some next =>
        obtain ⟨number, -, taken⟩ := List.exists_of_findSome?_eq_some chosen
        obtain ⟨call, found, advance⟩ := stepCall_advance taken
        have := advance.ahead_lt found
        omega
    | succ limit ih =>
      intro conn few
      simp only [settleWithin]
      split
      · rename_i stuck
        cases chosen : conn.stepCalls with
        | none => rfl
        | some next =>
          rw [chosen] at stuck
          cases stuck
      · rename_i after stepped
        refine ih after ?_
        rcases settling_cases stepped with ⟨number, call, found, advance⟩ | written
        · have := advance.ahead_lt found
          omega
        · have := stepBacklog_ahead written
          omega
  exact general _ conn conn.ahead_le

theorem waiting_of_settle (found : conn.settle.calls[number]? = some call)
    (open' : call.outcome? = none) : call.phase = .waiting ∧ call.slot = .empty := by
  have within := (List.getElem?_eq_some_iff.mp found).1
  have stuck : conn.settle.stepCall number = none :=
    List.findSome?_eq_none_iff.mp conn.stepCalls_settle number (List.mem_range.mpr within)
  simp only [stepCall, found, Option.bind_eq_bind, Option.bind_some] at stuck
  cases phase : call.phase with
  | finished outcome => simp [OutgoingCall.outcome?, phase] at open'
  | sending =>
    simp only [phase] at stuck
    split at stuck <;> cases stuck
  | waiting =>
    simp only [phase] at stuck
    refine ⟨rfl, ?_⟩
    split at stuck
    · cases stuck
    · cases stuck
    · cases stuck
    · assumption

end Connection

end PolicyServer.Rpc
