import PolicyServer.Proofs.Workspace.Resolver

/-! What is seen of the search for runners: what was found for a snapshot stays, and everybody who looks
for its runner sees the same. -/

namespace PolicyServer.Workspace

variable {c : Collaborators} {eager : Bool} {w w' : Workspace} {task task' : Task} {log : List Sighting}

/--
What is seen of the search for runners.

A snapshot gets the resolver's answer; a snapshot is made after another one, with what is known of
either; a search returns to its caller, who may have given up, with what the caller then sees; and a
pass that has looked for the runner invokes it, or gives up with a message.
-/
inductive Sighting where
  | settled (seq : Nat) (readiness : Readiness)
  | installed (previous seq : Nat) (save : Bool) (had has : Readiness)
  | returned (seq : Nat) (cancelled : Bool) (seen : Readiness)
  | ran (seq : Nat)
  | gaveUp (seq : Nat) (message : String)

def Sighting.settled? : Sighting → Option Nat
  | .settled seq _ => some seq
  | _ => none

def settledIn (log : List Sighting) : List Nat := log.filterMap Sighting.settled?

def returnSightings (w w' : Workspace) (p : Preparation) : List Sighting :=
  let seen := w'.readinessOf p.snapshot
  let cancelled := w.isEnded p.scope
  -- An answer that comes too late is not kept.
  (if p.asks?.isSome && !cancelled then [.settled p.snapshot seen] else []) ++
    [.returned p.snapshot cancelled seen]

def installSightings (w' : Workspace) (change : StateChange) (p : Preparation) : List Sighting :=
  w'.current.toList.map fun seq =>
    .installed p.snapshot seq change.save (w'.readinessOf p.snapshot) (w'.readinessOf seq)

def verdictSightings (seq : Nat) : PassPhase → List Sighting
  | .running _ _ _ => [.ran seq]
  | .status _ (.error message) _ => [.gaveUp seq message]
  | _ => []

def passSightings : Task → Task → List Sighting
  | .pass { snapshot, phase := .prepared _, .. }, .pass { phase, .. } =>
    verdictSightings snapshot phase
  | _, _ => []

def sightings (w : Workspace) (before : Task) (w' : Workspace) (after : Task) : List Sighting :=
  match before.search?, after.search? with
  | some p, none =>
    w.returnSightings w' p ++ before.making?.toList.flatMap fun made =>
      w'.installSightings made.1 made.2
  | _, _ => passSightings before after

def Sighting.Holds (w : Workspace) : Sighting → Prop
  | .settled seq readiness => readiness.isKnown = true ∧ w.readinessOf seq = readiness
  | .installed _ seq save had has =>
    has = had.inherited save ∧ (has.isKnown = true → w.readinessOf seq = has)
  | .returned seq cancelled seen =>
    cancelled = false → seen.isKnown = true ∧ w.readinessOf seq = seen
  | .ran seq => ∃ runner, w.readinessOf seq = .ready runner
  | .gaveUp seq message => ∃ error, w.readinessOf seq = .failed error ∧ message = error.message

theorem Sighting.Holds.mono {sighting : Sighting} (holds : sighting.Holds w)
    (lasting : Lasting w w') : sighting.Holds w' := by
  -- Each sighting speaks of something known, which lasts.
  have kept : ∀ {seq : Nat} {readiness : Readiness}, w.readinessOf seq = readiness →
      readiness.isKnown = true → w'.readinessOf seq = readiness := by
    intro seq readiness same known
    rw [lasting.readinessOf_eq (same ▸ known), same]
  cases sighting with
  | settled seq readiness => exact ⟨holds.1, kept holds.2 holds.1⟩
  | installed previous seq save had has => exact ⟨holds.1, fun known => kept (holds.2 known) known⟩
  | returned seq cancelled seen =>
    exact fun awake => ⟨(holds awake).1, kept (holds awake).2 (holds awake).1⟩
  | ran seq =>
    obtain ⟨runner, ready⟩ := holds
    exact ⟨runner, kept ready rfl⟩
  | gaveUp seq message =>
    obtain ⟨error, failed, same⟩ := holds
    exact ⟨error, kept failed rfl, same⟩

/-- What is newly seen agrees with what is known; a snapshot gets an answer once, and nothing was
known of it; and snapshots that are made come after all others. -/
structure Seen (w w' : Workspace) (new : List Sighting) : Prop where
  holds : ∀ sighting ∈ new, sighting.Holds w'
  once : (settledIn new).Nodup
  unknown : ∀ seq ∈ settledIn new, w.readings[seq]? = some .unresolved
  later : ∀ {previous seq : Nat} {save : Bool} {had has : Readiness},
    .installed previous seq save had has ∈ new → w.snapshots.length ≤ seq

/-- All that was seen agrees with what is known, no snapshot gets an answer twice, and none does that
has taken over what is known. -/
structure Told (w : Workspace) (log : List Sighting) : Prop where
  holds : ∀ sighting ∈ log, sighting.Holds w
  once : (settledIn log).Nodup
  apart : ∀ {previous seq : Nat} {save : Bool} {had has : Readiness},
    .installed previous seq save had has ∈ log → has.isKnown = true → seq ∉ settledIn log

theorem Told.known (told : Told w log) {seq : Nat} (settled : seq ∈ settledIn log) :
    (w.readinessOf seq).isKnown = true := by
  obtain ⟨sighting, member, same⟩ := List.mem_filterMap.mp settled
  have holds := told.holds sighting member
  cases sighting with
  | settled other readiness =>
    cases same
    exact holds.2 ▸ holds.1
  | _ => cases same

theorem not_isKnown_of_unresolved {seq : Nat} (unknown : w.readings[seq]? = some .unresolved) :
    (w.readinessOf seq).isKnown = false := by
  rw [readinessOf_of_readings unknown]
  rfl

theorem Told.append {new : List Sighting} (told : Told w log) (lasting : Lasting w w')
    (seen : Seen w w' new) : Told w' (log ++ new) := by
  -- What gets an answer now had none before.
  have fresh : ∀ seq ∈ settledIn new, (w.readinessOf seq).isKnown = false :=
    fun seq settled => not_isKnown_of_unresolved (seen.unknown seq settled)
  have both : settledIn (log ++ new) = settledIn log ++ settledIn new := List.filterMap_append
  refine ⟨fun sighting member => ?_, ?_, fun {previous seq save had has} member known => ?_⟩
  · rcases List.mem_append.mp member with before | now
    · exact (told.holds sighting before).mono lasting
    · exact seen.holds sighting now
  · rw [both, List.nodup_append]
    refine ⟨told.once, seen.once, fun seq before other now => ?_⟩
    rintro rfl
    have known := told.known before
    rw [fresh seq now] at known
    cases known
  · rw [both, List.mem_append]
    rintro (before | now)
    · rcases List.mem_append.mp member with earlier | just
      · exact told.apart earlier known before
      · -- A snapshot that is made now was not there to get an answer.
        have listed := readings_of_isKnown (told.known before)
        have within := (List.getElem?_eq_some_iff.mp listed).1
        have behind := seen.later just
        simp only [readings, List.length_map] at within
        omega
    · rcases List.mem_append.mp member with earlier | just
      · have holds := (told.holds _ earlier).2 known
        have unknown := fresh seq now
        rw [holds, known] at unknown
        cases unknown
      · have within := (List.getElem?_eq_some_iff.mp (seen.unknown seq now)).1
        have behind := seen.later just
        simp only [readings, List.length_map] at within
        omega

theorem Seen.nil (w w' : Workspace) : Seen w w' [] where
  holds := by simp
  once := List.nodup_nil
  unknown := by simp [settledIn]
  later := by simp

theorem Inquiry.seen {p : Preparation} {mid : Workspace} (inquiry : Inquiry c w p mid none)
    (within : p.snapshot < w.snapshots.length)
    (mine : ∀ seq ∈ p.asks?, w.resolving = true ∧ w.readings[seq]? = some .unresolved)
    (same : w'.readinessOf p.snapshot = mid.readinessOf p.snapshot) :
    Seen w w' (w.returnSightings w' p) := by
  have done := inquiry.known_or_ended within
  rw [← same] at done
  have returned : Sighting.Holds w'
      (.returned p.snapshot (w.isEnded p.scope) (w'.readinessOf p.snapshot)) := by
    intro awake
    rw [awake] at done
    exact ⟨done.resolve_left Bool.false_ne_true, rfl⟩
  unfold returnSightings
  dsimp only
  split
  · rename_i answered
    simp only [Bool.and_eq_true, Bool.not_eq_true'] at answered
    have known := (returned answered.2).1
    -- Who gets an answer has asked, so nothing was known.
    have asks : p.asks? = some p.snapshot := by
      have some := answered.1
      unfold Preparation.asks? at some ⊢
      split at some
      · rfl
      · cases some
    have settles : settledIn [.settled p.snapshot (w'.readinessOf p.snapshot),
        .returned p.snapshot (w.isEnded p.scope) (w'.readinessOf p.snapshot)] = [p.snapshot] := rfl
    refine ⟨fun sighting member => ?_, ?_, ?_, by simp⟩
    · simp only [List.cons_append, List.nil_append, List.mem_cons, List.not_mem_nil,
        or_false] at member
      rcases member with rfl | rfl
      · exact ⟨known, rfl⟩
      · exact returned
    · simp [settles]
    · intro seq settled
      rw [List.mem_singleton.mp settled]
      exact (mine _ asks).2
  · have settles : settledIn
        [.returned p.snapshot (w.isEnded p.scope) (w'.readinessOf p.snapshot)] = [] := rfl
    refine ⟨fun sighting member => ?_, by simp [settles], by simp [settles], by simp⟩
    rw [List.nil_append, List.mem_singleton] at member
    rw [member]
    exact returned

theorem PassPursuit.seen {job : PassJob} {phase : PassPhase} {work : Work}
    (pursuit : PassPursuit c w job w' phase) (apt : Apt w job) (looked : job.phase = .prepared work) :
    Seen w w' (verdictSightings job.snapshot phase) := by
  -- A pass that is not over has something known of its runner.
  have known : w.isEnded (.pass job.pass) = false → (w.readinessOf job.snapshot).isKnown = true := by
    intro awake
    have done := apt.looked looked
    rw [awake] at done
    exact done.resolve_left Bool.false_ne_true
  have one : ∀ {sighting : Sighting}, sighting.Holds w' → sighting.settled? = none →
      (∀ previous seq save had has, sighting ≠ .installed previous seq save had has) →
      Seen w w' [sighting] := by
    intro sighting holds unsettled other
    refine ⟨by simpa using holds, by simp [settledIn, unsettled], by simp [settledIn, unsettled], ?_⟩
    intro previous seq save had has member
    exact absurd (List.mem_singleton.mp member).symm (other _ _ _ _ _)
  -- Having looked, a pass neither stands aside nor goes on looking.
  cases pursuit with
  | aside before =>
    rw [looked] at before
    cases before
  | begins _ before =>
    rw [looked] at before
    cases before
  | goesOn looks => cases looked.symm.trans looks
  | returns looks => cases looked.symm.trans looks
  | cancelled => exact .nil _ _
  | @lacks work message _ awake unready =>
    refine one ?_ rfl (by simp)
    have some := known awake
    unfold unreadiness at unready
    cases readiness : w.readinessOf job.snapshot with
    | unresolved =>
      rw [readiness] at some
      cases some
    | ready runner =>
      rw [readiness] at unready
      cases unready
    | failed error =>
      rw [readiness] at unready
      cases unready
      exact ⟨error, readiness, rfl⟩
  | runs due _ awake ready =>
    refine one ?_ rfl (by simp)
    unfold unreadiness at ready
    cases readiness : w.readinessOf job.snapshot with
    | ready runner => exact ⟨runner, readiness⟩
    | _ => simp [readiness] at ready

theorem readinessOf_append {readiness : Readiness} (grown : w'.readings = w.readings ++ [readiness]) :
    (∀ seq < w.snapshots.length, w'.readinessOf seq = w.readinessOf seq) ∧
      w'.readinessOf w.snapshots.length = readiness := by
  refine ⟨fun seq within => readinessOf_of_readings ?_, readinessOf_of_readings ?_⟩
  · have listed := readings_of_within within
    rw [grown, List.getElem?_append_left (List.getElem?_eq_some_iff.mp listed).1]
    exact listed
  · have length : w.readings.length = w.snapshots.length := List.length_map _
    rw [grown, ← length, List.getElem?_concat_length]

theorem Seen.install (seen : Seen w w' log) (previous : Nat) (save : Bool) {seq : Nat}
    {had has : Readiness} (takes : has = had.inherited save) (here : w'.readinessOf seq = has)
    (behind : w.snapshots.length ≤ seq) :
    Seen w w' (log ++ [.installed previous seq save had has]) := by
  have settles : settledIn (log ++ [.installed previous seq save had has]) = settledIn log := by
    rw [settledIn, List.filterMap_append]
    exact List.append_nil _
  refine ⟨fun sighting listed => ?_, ?_, ?_, fun listed => ?_⟩
  · rcases List.mem_append.mp listed with before | now
    · exact seen.holds sighting before
    · rw [List.mem_singleton.mp now]
      exact ⟨takes, fun _ => here⟩
  · rw [settles]
    exact seen.once
  · rw [settles]
    exact seen.unknown
  · rcases List.mem_append.mp listed with before | now
    · exact seen.later before
    · cases List.mem_singleton.mp now
      exact behind

theorem Searching.seenOfPass (searching : Searching w) (member : task ∈ w.tasks)
    (stepped : w.stepTask c eager task = some (w', task')) :
    Seen w w' (passSightings task task') := by
  unfold passSightings
  split
  · obtain ⟨former, same, phase, pursuit, after⟩ := stepTask_pass stepped
    cases same
    cases after
    exact pursuit.seen (searching.passes member) rfl
  · exact .nil _ _

theorem Searching.seen (searching : Searching w) (kept : Kept w) (member : task ∈ w.tasks)
    (stepped : w.stepTask c eager task = some (w', task')) :
    Seen w w' (w.sightings task w' task') := by
  have verdict := searching.seenOfPass member stepped
  have mine := searching.mine member
  unfold sightings
  -- Where no search ends, nothing is seen but what a pass makes of its look.
  cases stepTask_pursuit stepped (kept.anchored.tasks task member) with
  | aside before after =>
    rw [before, after]
    exact verdict
  | begins before after =>
    rw [before, after]
    exact verdict
  | goesOn before after =>
    rw [before, after]
    exact verdict
  | @returns mid _ _ p before after unmade inquiry same =>
    rw [Task.asks?, before] at mine
    rw [before, after, unmade]
    -- Giving the snapshot back does not change what is known of it.
    have alike := congrArg Outlook.readings same
    have same : w'.readinessOf p.snapshot = mid.readinessOf p.snapshot := by
      rw [readinessOf_eq, readinessOf_eq]
      exact congrArg (fun all : List Readiness => all[p.snapshot]?.getD .unresolved) alike
    have seen := inquiry.seen (searching.within kept.anchored member before) mine same
    simpa using seen
  | @installs mid _ _ p change making after inquiry current same =>
    have before := search_of_making making
    have within := searching.within kept.anchored member before
    rw [Task.asks?, before] at mine
    rw [before, after, making]
    -- The new snapshot comes behind all others, where nothing was known yet.
    obtain ⟨former, new⟩ := readinessOf_append (congrArg Outlook.readings same)
    rw [inquiry.length_eq] at former new
    have seen := inquiry.seen within mine (former _ within)
    simp only [Option.toList_some, List.flatMap_cons, List.flatMap_nil, List.append_nil,
      installSightings, current, List.map_cons, List.map_nil]
    exact seen.install _ change.save (by rw [new, former _ within]) rfl (Nat.le_refl _)

theorem Searching.undergo (searching : Searching w) (kept : Kept w) (happening : Happening) :
    Searching (w.undergo c happening) ∧ Lasting w (w.undergo c happening) ∧
      Seen w (w.undergo c happening) (watch sightings c w happening) := by
  have longer := (kept.undergo (c := c) happening).2
  rcases watch_cases sightings c w happening with
    ⟨number, eager, task, mid, task', -, found, stepped, after, seen⟩ | ⟨unseen, rest⟩
  · rw [after, seen]
    obtain ⟨next, lasting⟩ := searching.step kept found stepped
    have seen := searching.seen kept (List.mem_of_getElem? found) stepped
    -- Setting the task to what it has become leaves what is known as it is.
    refine ⟨next, lasting, fun sighting member => ?_, seen.once, seen.unknown, seen.later⟩
    exact (seen.holds sighting member).mono fun _ _ listed _ => listed
  · have quiet : Quiet w (w.undergo c happening) := by
      rcases rest with ⟨move, rfl, incident⟩ | approach
      · exact incident.quiet kept.anchored
      · exact approach.quiet
    obtain ⟨next, lasting⟩ := quiet.searching longer searching
    rw [unseen]
    exact ⟨next, lasting, .nil _ _⟩

theorem fresh_searching (names : Nat → String) (supported : Bool) (limit : Nat) :
    Searching (fresh names supported limit) := by
  refine ⟨rfl, ?_, ?_⟩ <;> simp [fresh, spawn, asked, Task.asks?, Task.search?, Task.waits?]

theorem course_told (names : Nat → String) (supported : Bool) (limit : Nat)
    (happenings : List Happening) :
    let start := fresh names supported limit
    Searching (start.course c happenings) ∧
      Told (start.course c happenings) (trace (undergo c) (watch sightings c) start happenings) := by
  intro start
  have initial : Told start [] := ⟨by simp, List.nodup_nil, by simp⟩
  have run := trace_induction (fun w log => Kept w ∧ Searching w ∧ Told w log) (fun _ => True)
    (fun {w log happening} _ before => by
      obtain ⟨kept, searching, told⟩ := before
      obtain ⟨next, lasting, seen⟩ := searching.undergo (c := c) kept happening
      exact ⟨(kept.undergo happening).1, next, told.append lasting seen⟩)
    ⟨fresh_kept names supported limit, fresh_searching names supported limit, initial⟩
    fun next (_ : next ∈ happenings) => trivial
  exact run.2

/--
Runners are sought one at a time, and what is found for a snapshot is found for good.

The resolver is asked by at most one task. A snapshot gets an answer at most once, and none that took
over what is known; it has a runner or a failure as soon as something is known, and never both. The
snapshot after a change has the runner of the one before, or its failure unless a save retries it. A
search whose caller has not given up returns what is known for good, and a pass that has looked invokes
the runner of its snapshot, or gives up with the failure.
-/
theorem runner_sought_once (c : Collaborators) (names : Nat → String) (supported : Bool)
    (limit : Nat) (happenings : List Happening) :
    let start := fresh names supported limit
    let w := start.course c happenings
    let log := trace (undergo c) (watch sightings c) start happenings
    w.asked.length ≤ 1 ∧
    (settledIn log).Nodup ∧
    (∀ snapshot ∈ w.snapshots,
      snapshot.readiness.isKnown =
        (snapshot.readiness.runner?.isSome ^^ snapshot.readiness.error?.isSome) ∧
      (snapshot.readiness.isKnown = false →
        snapshot.readiness.runner? = none ∧ snapshot.readiness.error? = none)) ∧
    (∀ previous seq save had has, .installed previous seq save had has ∈ log →
      (∀ runner, had = .ready runner → has = .ready runner) ∧
      (∀ error, had = .failed error → has = if save then .unresolved else .failed error) ∧
      (had = .unresolved → has = .unresolved) ∧
      (has.isKnown = true → seq ∉ settledIn log ∧ w.readinessOf seq = has)) ∧
    (∀ seq seen, .returned seq false seen ∈ log →
      seen.isKnown = true ∧ w.readinessOf seq = seen) ∧
    (∀ seq, .ran seq ∈ log → ∃ runner, w.readinessOf seq = .ready runner) ∧
    ∀ seq message, .gaveUp seq message ∈ log →
      ∃ error, w.readinessOf seq = .failed error ∧ message = error.message := by
  intro start w log
  obtain ⟨searching, told⟩ := course_told (c := c) names supported limit happenings
  -- The turn counts those who ask; the rest is backed by what was seen in the course.
  refine ⟨?_, told.once, fun snapshot _ => snapshot.readiness.isKnown_eq, ?_, ?_, ?_, ?_⟩
  · have turn : w.asked.length = if w.resolving then 1 else 0 := searching.turn
    rw [turn]
    split <;> decide
  · intro previous seq save had has made
    obtain ⟨takes, lasts⟩ := told.holds _ made
    refine ⟨fun runner same => ?_, fun error same => ?_, fun same => ?_,
      fun known => ⟨told.apart made known, lasts known⟩⟩
    · rw [takes, same]
      rfl
    · rw [takes, same]
      rfl
    · rw [takes, same]
      rfl
  · intro seq seen returned
    exact told.holds _ returned rfl
  · intro seq ran
    exact told.holds _ ran
  · intro seq message gaveUp
    exact told.holds _ gaveUp

end PolicyServer.Workspace
