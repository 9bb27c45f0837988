import CircleBackend.Library.Transition
import Mathlib.Logic.Function.Basic

/-!
# Coalesced seat syncs

`syncCircleSeatsCoalesced` in one process. A run is the promise of `runCoalescedSync`: its
`ensureCircleConversation` answers at any time, its `finally` is a job. A follow-up is
the promise of `next`: `settled` and the callback that starts its run are two jobs more,
and it takes over what its run answers. The jobs come in any order.
-/

namespace CircleBackend.Circle.Coalesced

open Library

abbrev CircleId := Nat
abbrev ConversationId := Nat
abbrev EntryId := Nat
abbrev RunId := Nat
abbrev NextId := Nat

/-- What `ensureCircleConversation` answers, or that it threw. -/
abbrev Outcome := Except Unit (Option ConversationId)

inductive RunStage
  | running
  /-- The `finally` is to run. -/
  | ensured (outcome : Outcome)
  | settled (outcome : Outcome)

structure SyncRun where
  circle : CircleId
  entry : EntryId
  startedAt : Nat
  stage : RunStage

def SyncRun.unsettled (r : SyncRun) : Bool :=
  match r.stage with
  | .settled _ => false
  | _ => true

inductive NextStage
  /-- The run before it has not settled, or `settled` is to run. -/
  | waiting
  /-- The callback that starts the run is to run. -/
  | chained
  | following (run : RunId)
  | settled (run : RunId) (outcome : Outcome)

structure FollowUp where
  circle : CircleId
  entry : EntryId
  waitsFor : RunId
  stage : NextStage

def FollowUp.queued (x : FollowUp) : Bool :=
  match x.stage with
  | .waiting | .chained => true
  | _ => false

/-- The run a follow-up has started. -/
def FollowUp.run (x : FollowUp) : Option RunId :=
  match x.stage with
  | .following run | .settled run _ => some run
  | _ => none

structure Entry where
  current : RunId
  next : Option NextId

inductive SyncPromise
  | run (i : RunId)
  | next (i : NextId)

/-- A call that has returned its promise. -/
structure Call where
  circle : CircleId
  calledAt : Nat
  promise : SyncPromise

structure State where
  coalescedSyncs : CircleId → Option EntryId
  entries : EntryId → Option Entry
  runs : RunId → Option SyncRun
  nexts : NextId → Option FollowUp
  calls : List Call
  /-- How many steps there have been. -/
  clock : Nat

def idle : State := ⟨fun _ => none, fun _ => none, fun _ => none, fun _ => none, [], 0⟩

inductive Act
  /-- The ids are for what it may have to create. -/
  | sync (circle : CircleId) (entry : EntryId) (id : Nat)
  | ensured (i : RunId) (outcome : Outcome)
  | finish (i : RunId)
  | chain (i : NextId)
  | follow (i : NextId) (run : RunId)
  | adopt (i : NextId)

namespace State

variable (s : State)

def setRun (i : RunId) (r : SyncRun) : State := { s with runs := Function.update s.runs i (some r) }

def setNext (i : NextId) (x : FollowUp) : State :=
  { s with nexts := Function.update s.nexts i (some x) }

def setEntry (e : EntryId) (entry : Entry) : State :=
  { s with entries := Function.update s.entries e (some entry) }

def returns (circle : CircleId) (promise : SyncPromise) : State :=
  { s with calls := s.calls ++ [⟨circle, s.clock, promise⟩] }

def syncCircleSeatsCoalesced (circle : CircleId) (e : EntryId) (id : Nat) : Option State :=
  match s.coalescedSyncs circle with
  | none =>
    if (s.entries e).isSome || (s.runs id).isSome then none
    else
      some ((({ s with coalescedSyncs := Function.update s.coalescedSyncs circle (some e) }.setEntry e
        ⟨id, none⟩).setRun id ⟨circle, e, s.clock, .running⟩).returns circle (.run id))
  | some e => do
    let inflight ← s.entries e
    match inflight.next with
    | some n => some (s.returns circle (.next n))
    | none =>
      if (s.nexts id).isSome then none
      else
        some (((s.setEntry e { inflight with next := some id }).setNext id
          ⟨circle, e, inflight.current, .waiting⟩).returns circle (.next id))

/-- The `finally` of `runCoalescedSync`. -/
def finish (i : RunId) (r : SyncRun) (entry : Entry) (outcome : Outcome) : State :=
  let settled := s.setRun i { r with stage := .settled outcome }
  if entry.next.isNone ∧ s.coalescedSyncs r.circle = some r.entry then
    { settled with coalescedSyncs := Function.update s.coalescedSyncs r.circle none }
  else settled

/-- The callback of `next`: it starts the run. -/
def follow (i : NextId) (x : FollowUp) (run : RunId) : State :=
  ((s.setEntry x.entry ⟨run, none⟩).setRun run ⟨x.circle, x.entry, s.clock, .running⟩).setNext i
    { x with stage := .following run }

def next : Act → Option State
  | .sync circle e id => s.syncCircleSeatsCoalesced circle e id
  | .ensured i outcome => do
    let r ← s.runs i
    match r.stage with
    | .running => some (s.setRun i { r with stage := .ensured outcome })
    | _ => none
  | .finish i => do
    let r ← s.runs i
    match r.stage with
    | .ensured outcome => do
      let entry ← s.entries r.entry
      some (s.finish i r entry outcome)
    | _ => none
  | .chain i => do
    let x ← s.nexts i
    let r ← s.runs x.waitsFor
    match x.stage, r.stage with
    | .waiting, .settled _ => some (s.setNext i { x with stage := .chained })
    | _, _ => none
  | .follow i run => do
    let x ← s.nexts i
    match x.stage with
    | .chained => if (s.runs run).isSome then none else some (s.follow i x run)
    | _ => none
  | .adopt i => do
    let x ← s.nexts i
    match x.stage with
    | .following run => do
      let r ← s.runs run
      match r.stage with
      | .settled outcome => some (s.setNext i { x with stage := .settled run outcome })
      | _ => none
    | _ => none

def ticked (s : State) : State := { s with clock := s.clock + 1 }

end State

def Step (s : State) (act : Act) (t : State) : Prop := (s.next act).map (·.ticked) = some t

/-! ## One run at a time -/

section Sound

variable {s t : State} {i j : Nat} {circle : CircleId} {e : EntryId} {r : SyncRun} {x : FollowUp}
  {entry : Entry} {c : Call} {outcome : Outcome}

/-- The entry of a circle has a run to come or one that is not settled. -/
structure Entry.Live (s : State) (circle : CircleId) (e : EntryId) (entry : Entry) : Prop where
  current : ∃ r, s.runs entry.current = some r ∧ r.entry = e ∧ r.circle = circle ∧
    (entry.next = none → r.unsettled = true) ∧
    ∀ n x, entry.next = some n → s.nexts n = some x → x.stage = .chained → r.unsettled = false
  next : ∀ n, entry.next = some n → ∃ x, s.nexts n = some x ∧ x.entry = e ∧ x.circle = circle ∧
    x.waitsFor = entry.current ∧ x.queued = true

/-- The run of a promise began at or after the call. -/
def Call.Served (s : State) (c : Call) : Prop :=
  c.calledAt ≤ s.clock ∧
  match c.promise with
  | .run i => ∃ r, s.runs i = some r ∧ r.circle = c.circle ∧ c.calledAt ≤ r.startedAt
  | .next i => ∃ x, s.nexts i = some x ∧ x.circle = c.circle ∧
      ∀ run, x.run = some run → ∃ r, s.runs run = some r ∧ c.calledAt ≤ r.startedAt

structure Sound (s : State) : Prop where
  mapped : ∀ circle e, s.coalescedSyncs circle = some e →
    ∃ entry, s.entries e = some entry ∧ entry.Live s circle e
  runs : ∀ i r, s.runs i = some r → r.unsettled = true →
    s.coalescedSyncs r.circle = some r.entry ∧ ∃ entry, s.entries r.entry = some entry ∧
      entry.current = i
  queued : ∀ i x, s.nexts i = some x → x.queued = true →
    s.coalescedSyncs x.circle = some x.entry ∧ ∃ entry, s.entries x.entry = some entry ∧
      entry.next = some i
  follows : ∀ i x run, s.nexts i = some x → x.run = some run →
    ∃ r, s.runs run = some r ∧ r.circle = x.circle
  outcomes : ∀ i x run outcome, s.nexts i = some x → x.stage = .settled run outcome →
    ∃ r, s.runs run = some r ∧ r.stage = .settled outcome
  calls : ∀ c ∈ s.calls, c.Served s

theorem Sound.idle : Sound idle := by
  constructor <;> simp [Coalesced.idle]

/-- What the promises that have been given out rest on. -/
structure Onward (s t : State) : Prop where
  clock : s.clock ≤ t.clock
  runs : ∀ i r, s.runs i = some r → ∃ r', t.runs i = some r' ∧ r'.circle = r.circle ∧
    r'.startedAt = r.startedAt
  nexts : ∀ i x, s.nexts i = some x → ∃ x', t.nexts i = some x' ∧ x'.circle = x.circle ∧
    (x'.run = x.run ∨ ∀ run, x'.run = some run → ∃ r, t.runs run = some r ∧ s.clock ≤ r.startedAt)

theorem Call.Served.onward (served : c.Served s) (onward : Onward s t) : c.Served t := by
  unfold Call.Served at served ⊢
  refine ⟨Nat.le_trans served.1 onward.clock, ?_⟩
  split at served
  case h_1 i promise =>
    obtain ⟨-, r, found, own, later⟩ := served
    obtain ⟨r', there, circle, started⟩ := onward.runs i r found
    exact ⟨r', there, circle.trans own, started ▸ later⟩
  case h_2 i promise =>
    obtain ⟨early, x, found, own, later⟩ := served
    obtain ⟨x', there, circle, same | new'⟩ := onward.nexts i x found
    · refine ⟨x', there, circle.trans own, fun run follows => ?_⟩
      obtain ⟨r, ran, started⟩ := later run (same ▸ follows)
      obtain ⟨r', still, -, same'⟩ := onward.runs run r ran
      exact ⟨r', still, same' ▸ started⟩
    · refine ⟨x', there, circle.trans own, fun run follows => ?_⟩
      obtain ⟨r, ran, started⟩ := new' run follows
      exact ⟨r, ran, Nat.le_trans early started⟩

theorem Sound.ticked (sound : Sound s) : Sound s.ticked := by
  refine { sound with mapped := ?_, calls := ?_ }
  · intro circle e mapped
    obtain ⟨entry, found, live⟩ := sound.mapped circle e mapped
    exact ⟨entry, found, { live with }⟩
  · intro c member
    apply (sound.calls c member).onward
    exact ⟨Nat.le_succ _, fun i r found => ⟨r, found, rfl, rfl⟩, fun i x found => ⟨x, found, rfl, .inl rfl⟩⟩

theorem Sound.returns {promise : SyncPromise} (sound : Sound s)
    (served : (⟨circle, s.clock, promise⟩ : Call).Served s) : Sound (s.returns circle promise) := by
  refine { sound with mapped := ?_, calls := ?_ }
  · intro circle e mapped
    obtain ⟨entry, found, live⟩ := sound.mapped circle e mapped
    exact ⟨entry, found, { live with }⟩
  · intro c member
    rcases List.mem_append.mp member with old | own
    · exact sound.calls c old
    · rw [List.mem_singleton.mp own]
      exact served

/-- Two circles have two entries. -/
theorem Sound.apart {circle' : CircleId} (sound : Sound s) (mapped : s.coalescedSyncs circle = some e)
    (mapped' : s.coalescedSyncs circle' = some e) : circle = circle' := by
  obtain ⟨entry, found, ⟨r, ran, -, own, -⟩, -⟩ := sound.mapped circle e mapped
  obtain ⟨entry', found', ⟨r', ran', -, own', -⟩, -⟩ := sound.mapped circle' e mapped'
  cases found.symm.trans found'
  cases ran.symm.trans ran'
  exact own.symm.trans own'

theorem setRun_runs (s : State) (i k : RunId) (r : SyncRun) :
    (s.setRun i r).runs k = if k = i then some r else s.runs k :=
  Function.update_apply ..

theorem setNext_nexts (s : State) (i k : NextId) (x : FollowUp) :
    (s.setNext i x).nexts k = if k = i then some x else s.nexts k :=
  Function.update_apply ..

theorem setEntry_entries (s : State) (e k : EntryId) (entry : Entry) :
    (s.setEntry e entry).entries k = if k = e then some entry else s.entries k :=
  Function.update_apply ..

/-- A run answers or settles; what no longer is unsettled has somebody to take over. -/
theorem Sound.setRun {r' : SyncRun} (sound : Sound s) (found : s.runs i = some r)
    (own : r'.circle = r.circle ∧ r'.entry = r.entry ∧ r'.startedAt = r.startedAt)
    (before : r.unsettled = true)
    (after : r'.unsettled = true ∨ ∃ entry, s.entries r.entry = some entry ∧ entry.next ≠ none) :
    Sound (s.setRun i r') := by
  have runs : ∀ k m, s.runs k = some m → ∃ m', (s.setRun i r').runs k = some m' ∧
      m'.circle = m.circle ∧ m'.entry = m.entry ∧ m'.startedAt = m.startedAt := by
    intro k m there
    rw [setRun_runs]
    by_cases same : k = i
    · subst same
      cases found.symm.trans there
      exact ⟨r', if_pos rfl, own⟩
    · exact ⟨m, (if_neg same).trans there, rfl, rfl, rfl⟩
  constructor
  case mapped =>
    intro circle e mapped
    obtain ⟨entry, there, ⟨m, ran, at', of', waits, settled⟩, next⟩ := sound.mapped circle e mapped
    refine ⟨entry, there, ?_, next⟩
    rw [setRun_runs]
    by_cases same : entry.current = i
    · rw [same] at ran
      cases found.symm.trans ran
      rw [if_pos same]
      refine ⟨r', rfl, own.2.1.trans at', own.1.trans of', ?_, ?_⟩
      · intro none'
        rcases after with after | ⟨entry', there', more⟩
        · exact after
        · rw [at'] at there'
          cases there.symm.trans there'
          exact absurd none' more
      · intro n x chained there' stage
        have before' := settled n x chained there' stage
        rw [before] at before'
        cases before'
    · rw [if_neg same]
      exact ⟨m, ran, at', of', waits, settled⟩
  case runs =>
    intro k m there unsettled
    rw [setRun_runs] at there
    split at there
    case isTrue same =>
      cases there
      rw [own.1, own.2.1, same]
      exact sound.runs i r found before
    case isFalse => exact sound.runs k m there unsettled
  case queued => exact sound.queued
  case follows =>
    intro k x run there follows
    obtain ⟨m, ran, circle⟩ := sound.follows k x run there follows
    obtain ⟨m', ran', circle', -⟩ := runs run m ran
    exact ⟨m', ran', circle'.trans circle⟩
  case outcomes =>
    intro k x run outcome there stage
    obtain ⟨m, ran, settled⟩ := sound.outcomes k x run outcome there stage
    refine ⟨m, ?_, settled⟩
    rw [setRun_runs, if_neg]
    · exact ran
    · rintro rfl
      cases found.symm.trans ran
      rw [SyncRun.unsettled, settled] at before
      cases before
  case calls =>
    intro c member
    apply (sound.calls c member).onward
    refine ⟨Nat.le_refl _, fun k m there => ?_, fun k x there => ⟨x, there, rfl, .inl rfl⟩⟩
    obtain ⟨m', ran, circle, -, started⟩ := runs k m there
    exact ⟨m', ran, circle, started⟩

/-- A follow-up goes on to a stage in which it is queued as before. -/
theorem Sound.setNext {x' : FollowUp} (sound : Sound s) (found : s.nexts i = some x)
    (own : x'.circle = x.circle ∧ x'.entry = x.entry ∧ x'.waitsFor = x.waitsFor)
    (queued : x'.queued = x.queued) (run : x'.run = x.run)
    (chained : x'.stage = .chained → ∃ r, s.runs x.waitsFor = some r ∧ r.unsettled = false)
    (settled : ∀ run outcome, x'.stage = .settled run outcome →
      ∃ r, s.runs run = some r ∧ r.stage = .settled outcome) : Sound (s.setNext i x') := by
  constructor
  case mapped =>
    intro circle e mapped
    obtain ⟨entry, there, ⟨m, ran, at', of', waits, settled⟩, next⟩ := sound.mapped circle e mapped
    refine ⟨entry, there, ⟨m, ran, at', of', waits, ?_⟩, ?_⟩
    · intro n y own' there' stage
      rw [setNext_nexts] at there'
      split at there'
      case isTrue same =>
        cases there'
        obtain ⟨z, found', -, -, waits', -⟩ := next n own'
        rw [same] at found'
        cases found.symm.trans found'
        obtain ⟨m', ran', done⟩ := chained stage
        rw [waits'] at ran'
        cases ran.symm.trans ran'
        exact done
      case isFalse => exact settled n y own' there' stage
    · intro n own'
      obtain ⟨y, there', at'', of'', waits', queued'⟩ := next n own'
      rw [setNext_nexts]
      by_cases same : n = i
      · subst same
        cases found.symm.trans there'
        exact ⟨x', if_pos rfl, own.2.1.trans at'', own.1.trans of'', own.2.2.trans waits',
          queued.trans queued'⟩
      · exact ⟨y, (if_neg same).trans there', at'', of'', waits', queued'⟩
  case runs => exact sound.runs
  case queued =>
    intro k y there queued'
    rw [setNext_nexts] at there
    split at there
    case isTrue same =>
      cases there
      rw [own.1, own.2.1, same]
      exact sound.queued i x found (queued ▸ queued')
    case isFalse => exact sound.queued k y there queued'
  case follows =>
    intro k y run' there follows
    rw [setNext_nexts] at there
    split at there
    case isTrue =>
      cases there
      rw [own.1]
      exact sound.follows i x run' found (run ▸ follows)
    case isFalse => exact sound.follows k y run' there follows
  case outcomes =>
    intro k y run' outcome there stage
    rw [setNext_nexts] at there
    split at there
    case isTrue =>
      cases there
      exact settled run' outcome stage
    case isFalse => exact sound.outcomes k y run' outcome there stage
  case calls =>
    intro c member
    apply (sound.calls c member).onward
    refine ⟨Nat.le_refl _, fun k m there => ⟨m, there, rfl, rfl⟩, fun k y there => ?_⟩
    rw [setNext_nexts]
    by_cases same : k = i
    · subst same
      cases found.symm.trans there
      exact ⟨x', if_pos rfl, own.1, .inl run⟩
    · exact ⟨y, (if_neg same).trans there, rfl, .inl rfl⟩

theorem SyncRun.unsettled_of_ensured (stage : r.stage = .ensured outcome) : r.unsettled = true := by
  rw [SyncRun.unsettled, stage]

/-- The entry goes where nobody has queued. -/
theorem Sound.finish (sound : Sound s) (found : s.runs i = some r) (stage : r.stage = .ensured outcome)
    (there : s.entries r.entry = some entry) : Sound (s.finish i r entry outcome) := by
  have unsettled := SyncRun.unsettled_of_ensured stage
  obtain ⟨mapped, entry', there', current⟩ := sound.runs i r found unsettled
  cases there.symm.trans there'
  unfold State.finish
  dsimp only
  by_cases more : entry.next = none
  · rw [if_pos ⟨by rw [more]; rfl, mapped⟩]
    -- the circle has no other run and no follow-up
    have alone : ∀ k m, s.runs k = some m → m.unsettled = true → m.circle = r.circle → k = i := by
      intro k m ran unsettled' same
      obtain ⟨mapped', entry'', there'', current'⟩ := sound.runs k m ran unsettled'
      rw [same, mapped] at mapped'
      rw [← Option.some.inj mapped'] at there''
      cases there.symm.trans there''
      exact current'.symm.trans current
    have lone : ∀ k x, s.nexts k = some x → x.queued = true → x.circle ≠ r.circle := by
      intro k x found' queued same
      obtain ⟨mapped', entry'', there'', own⟩ := sound.queued k x found' queued
      rw [same, mapped] at mapped'
      rw [← Option.some.inj mapped'] at there''
      cases there.symm.trans there''
      cases more.symm.trans own
    constructor
    case mapped =>
      intro circle e mapped'
      have other : circle ≠ r.circle := by
        rintro rfl
        have gone : Function.update s.coalescedSyncs r.circle none r.circle = some e := mapped'
        rw [Function.update_self] at gone
        cases gone
      have mapped' : Function.update s.coalescedSyncs r.circle none circle = some e := mapped'
      rw [Function.update_of_ne other] at mapped'
      obtain ⟨entry'', there'', ⟨m, ran, at', of', waits, settled⟩, next⟩ :=
        sound.mapped circle e mapped'
      have apart : entry''.current ≠ i := by
        intro same
        rw [same] at ran
        cases found.symm.trans ran
        exact other of'.symm
      have ran' : (s.setRun i { r with stage := .settled outcome }).runs entry''.current = some m := by
        rw [setRun_runs, if_neg apart, ran]
      exact ⟨entry'', there'', ⟨m, ran', at', of', waits, settled⟩, next⟩
    case runs =>
      intro k m ran unsettled'
      have ran : (s.setRun i { r with stage := .settled outcome }).runs k = some m := ran
      rw [setRun_runs] at ran
      split at ran
      case isTrue =>
        cases ran
        cases unsettled'
      case isFalse apart =>
        have other : m.circle ≠ r.circle := fun same => apart (alone k m ran unsettled' same)
        have kept := sound.runs k m ran unsettled'
        refine ⟨?_, kept.2⟩
        exact (Function.update_of_ne other ..).trans kept.1
    case queued =>
      intro k x found' queued
      have kept := sound.queued k x found' queued
      refine ⟨?_, kept.2⟩
      exact (Function.update_of_ne (lone k x found' queued) ..).trans kept.1
    case follows =>
      intro k x run found' follows
      obtain ⟨m, ran, circle⟩ := sound.follows k x run found' follows
      by_cases same : run = i
      · subst same
        cases found.symm.trans ran
        exact ⟨{ r with stage := .settled outcome }, Function.update_self .., circle⟩
      · exact ⟨m, (Function.update_of_ne same ..).trans ran, circle⟩
    case outcomes =>
      intro k x run outcome' found' stage'
      obtain ⟨m, ran, settled⟩ := sound.outcomes k x run outcome' found' stage'
      have other : run ≠ i := by
        rintro rfl
        cases found.symm.trans ran
        cases stage.symm.trans settled
      exact ⟨m, (Function.update_of_ne other ..).trans ran, settled⟩
    case calls =>
      intro c member
      apply (sound.calls c member).onward
      refine ⟨Nat.le_refl _, fun k m ran => ?_, fun k x found' => ⟨x, found', rfl, .inl rfl⟩⟩
      by_cases same : k = i
      · subst same
        cases found.symm.trans ran
        exact ⟨{ r with stage := .settled outcome }, Function.update_self .., rfl, rfl⟩
      · exact ⟨m, (Function.update_of_ne same ..).trans ran, rfl, rfl⟩
  · rw [if_neg fun none' => more (Option.isNone_iff_eq_none.mp none'.1)]
    exact sound.setRun found ⟨rfl, rfl, rfl⟩ unsettled (.inr ⟨entry, there, more⟩)

theorem follow_queued (stage : x.stage = .chained) : x.queued = true ∧ x.run = none := by
  unfold FollowUp.queued FollowUp.run
  rw [stage]
  exact ⟨rfl, rfl⟩

theorem Sound.follow (sound : Sound s) (found : s.nexts i = some x) (stage : x.stage = .chained)
    (fresh : s.runs j = none) : Sound (s.follow i x j) := by
  obtain ⟨queued, unstarted⟩ := follow_queued stage
  obtain ⟨mapped, entry, there, own⟩ := sound.queued i x found queued
  obtain ⟨entry', there', live⟩ := sound.mapped x.circle x.entry mapped
  cases there.symm.trans there'
  -- the run before it has settled
  have done : ∀ k m, s.runs k = some m → m.unsettled = true → m.entry ≠ x.entry := by
    intro k m ran unsettled same
    obtain ⟨-, entry', there', current⟩ := sound.runs k m ran unsettled
    rw [same] at there'
    cases there.symm.trans there'
    obtain ⟨m', ran', -, -, -, settled⟩ := live.current
    rw [current] at ran'
    cases ran.symm.trans ran'
    have settled := settled i x own found stage
    rw [unsettled] at settled
    cases settled
  have runs : ∀ k, (s.follow i x j).runs k =
      if k = j then some ⟨x.circle, x.entry, s.clock, .running⟩ else s.runs k :=
    fun k => setRun_runs ..
  have nexts : ∀ k, (s.follow i x j).nexts k =
      if k = i then some { x with stage := .following j } else s.nexts k :=
    fun k => setNext_nexts ..
  have entries : ∀ k, (s.follow i x j).entries k =
      if k = x.entry then some ⟨j, none⟩ else s.entries k :=
    fun k => setEntry_entries ..
  have kept : ∀ k m, s.runs k = some m → (s.follow i x j).runs k = some m := by
    intro k m ran
    rw [runs, if_neg]
    · exact ran
    · rintro rfl
      cases fresh.symm.trans ran
  constructor
  case mapped =>
    intro circle e mapped'
    have mapped' : s.coalescedSyncs circle = some e := mapped'
    rw [entries]
    by_cases same : e = x.entry
    · subst same
      obtain rfl := sound.apart mapped' mapped
      refine ⟨⟨j, none⟩, if_pos rfl, ?_, ?_⟩
      · refine ⟨_, (runs j).trans (if_pos rfl), rfl, rfl, fun _ => rfl, ?_⟩
        intro n y none'
        cases none'
      · intro n none'
        cases none'
    · rw [if_neg same]
      obtain ⟨entry', there', ⟨m, ran, at', of', waits, settled⟩, next⟩ := sound.mapped circle e mapped'
      have others : ∀ n, entry'.next = some n → n ≠ i := by
        rintro n own' rfl
        obtain ⟨y, found', at'', -⟩ := next n own'
        cases found.symm.trans found'
        exact same at''.symm
      refine ⟨entry', there', ⟨m, kept _ m ran, at', of', waits, ?_⟩, ?_⟩
      · intro n y own' found' stage'
        rw [nexts, if_neg (others n own')] at found'
        exact settled n y own' found' stage'
      · intro n own'
        obtain ⟨y, found', rest⟩ := next n own'
        exact ⟨y, (nexts n).trans ((if_neg (others n own')).trans found'), rest⟩
  case runs =>
    intro k m ran unsettled
    rw [runs] at ran
    split at ran
    case isTrue same =>
      cases ran
      exact ⟨mapped, ⟨j, none⟩, (entries _).trans (if_pos rfl), same.symm⟩
    case isFalse =>
      have other := done k m ran unsettled
      obtain ⟨mapped', entry', there', current⟩ := sound.runs k m ran unsettled
      exact ⟨mapped', entry', (entries _).trans ((if_neg other).trans there'), current⟩
  case queued =>
    intro k y found' queued'
    rw [nexts] at found'
    split at found'
    case isTrue =>
      cases found'
      cases queued'
    case isFalse other =>
      obtain ⟨mapped', entry', there', own'⟩ := sound.queued k y found' queued'
      refine ⟨mapped', entry', (entries _).trans ((if_neg ?_).trans there'), own'⟩
      intro same
      rw [same] at there'
      cases there.symm.trans there'
      exact other (Option.some.inj (own'.symm.trans own))
  case follows =>
    intro k y run found' follows
    rw [nexts] at found'
    split at found'
    case isTrue =>
      cases found'
      cases follows
      exact ⟨_, (runs j).trans (if_pos rfl), rfl⟩
    case isFalse =>
      obtain ⟨m, ran, circle⟩ := sound.follows k y run found' follows
      exact ⟨m, kept run m ran, circle⟩
  case outcomes =>
    intro k y run outcome found' stage'
    rw [nexts] at found'
    split at found'
    case isTrue =>
      cases found'
      cases stage'
    case isFalse =>
      obtain ⟨m, ran, settled⟩ := sound.outcomes k y run outcome found' stage'
      exact ⟨m, kept run m ran, settled⟩
  case calls =>
    intro c member
    apply (sound.calls c member).onward
    refine ⟨Nat.le_refl _, fun k m ran => ⟨m, kept k m ran, rfl, rfl⟩, fun k y found' => ?_⟩
    rw [nexts]
    by_cases same : k = i
    · subst same
      cases found.symm.trans found'
      refine ⟨_, if_pos rfl, rfl, .inr ?_⟩
      intro run follows
      cases follows
      exact ⟨_, (runs j).trans (if_pos rfl), Nat.le_refl _⟩
    · exact ⟨y, (if_neg same).trans found', rfl, .inl rfl⟩

/-- The first call of a circle that has no entry starts a run. -/
theorem Sound.start (sound : Sound s) (empty : s.coalescedSyncs circle = none)
    (free : s.entries e = none) (fresh : s.runs i = none) :
    Sound (({ s with coalescedSyncs := Function.update s.coalescedSyncs circle (some e) }.setEntry e
      ⟨i, none⟩).setRun i ⟨circle, e, s.clock, .running⟩) := by
  let u := ({ s with coalescedSyncs := Function.update s.coalescedSyncs circle (some e) }.setEntry e
    ⟨i, none⟩).setRun i ⟨circle, e, s.clock, .running⟩
  have runs : ∀ k, u.runs k = if k = i then some ⟨circle, e, s.clock, .running⟩ else s.runs k :=
    fun k => Function.update_apply ..
  have entries : ∀ k, u.entries k = if k = e then some ⟨i, none⟩ else s.entries k :=
    fun k => Function.update_apply ..
  have maps : ∀ k, u.coalescedSyncs k = if k = circle then some e else s.coalescedSyncs k :=
    fun k => Function.update_apply ..
  have kept : ∀ k m, s.runs k = some m → u.runs k = some m := by
    intro k m ran
    rw [runs, if_neg]
    · exact ran
    · rintro rfl
      cases fresh.symm.trans ran
  have keeps : ∀ k entry, s.entries k = some entry → u.entries k = some entry := by
    intro k entry there
    rw [entries, if_neg]
    · exact there
    · rintro rfl
      cases free.symm.trans there
  have away : ∀ circle' e', s.coalescedSyncs circle' = some e' → u.coalescedSyncs circle' = some e' := by
    intro circle' e' mapped
    rw [maps, if_neg]
    · exact mapped
    · rintro rfl
      cases empty.symm.trans mapped
  show Sound u
  constructor
  case mapped =>
    intro circle' e' mapped
    rw [maps] at mapped
    split at mapped
    case isTrue same =>
      cases mapped
      refine ⟨⟨i, none⟩, (entries e).trans (if_pos rfl), ?_, ?_⟩
      · refine ⟨_, (runs i).trans (if_pos rfl), rfl, same.symm, fun _ => rfl, ?_⟩
        intro n y none'
        cases none'
      · intro n none'
        cases none'
    case isFalse =>
      obtain ⟨entry, there, ⟨m, ran, rest⟩, next⟩ := sound.mapped circle' e' mapped
      exact ⟨entry, keeps e' entry there, ⟨m, kept _ m ran, rest⟩, next⟩
  case runs =>
    intro k m ran unsettled
    rw [runs] at ran
    split at ran
    case isTrue same =>
      cases ran
      exact ⟨(maps circle).trans (if_pos rfl), _, (entries e).trans (if_pos rfl), same.symm⟩
    case isFalse =>
      obtain ⟨mapped, entry, there, current⟩ := sound.runs k m ran unsettled
      exact ⟨away _ _ mapped, entry, keeps _ entry there, current⟩
  case queued =>
    intro k x found queued
    obtain ⟨mapped, entry, there, own⟩ := sound.queued k x found queued
    exact ⟨away _ _ mapped, entry, keeps _ entry there, own⟩
  case follows =>
    intro k x run found follows
    obtain ⟨m, ran, own⟩ := sound.follows k x run found follows
    exact ⟨m, kept run m ran, own⟩
  case outcomes =>
    intro k x run outcome found stage
    obtain ⟨m, ran, settled⟩ := sound.outcomes k x run outcome found stage
    exact ⟨m, kept run m ran, settled⟩
  case calls =>
    intro c member
    apply (sound.calls c member).onward
    exact ⟨Nat.le_refl _, fun k m ran => ⟨m, kept k m ran, rfl, rfl⟩,
      fun k x found => ⟨x, found, rfl, .inl rfl⟩⟩

/-- A call while a run is on queues the follow-up. -/
theorem Sound.queue (sound : Sound s) (mapped : s.coalescedSyncs circle = some e)
    (there : s.entries e = some entry) (none' : entry.next = none) (fresh : s.nexts i = none) :
    Sound ((s.setEntry e { entry with next := some i }).setNext i
      ⟨circle, e, entry.current, .waiting⟩) := by
  let u := (s.setEntry e { entry with next := some i }).setNext i ⟨circle, e, entry.current, .waiting⟩
  have nexts : ∀ k, u.nexts k =
      if k = i then some ⟨circle, e, entry.current, .waiting⟩ else s.nexts k :=
    fun k => Function.update_apply ..
  have entries : ∀ k, u.entries k = if k = e then some { entry with next := some i } else s.entries k :=
    fun k => Function.update_apply ..
  have kept : ∀ k x, s.nexts k = some x → u.nexts k = some x := by
    intro k x found
    rw [nexts, if_neg]
    · exact found
    · rintro rfl
      cases fresh.symm.trans found
  show Sound u
  constructor
  case mapped =>
    intro circle' e' mapped'
    have mapped' : s.coalescedSyncs circle' = some e' := mapped'
    obtain ⟨entry', there', ⟨m, ran, at', of', waits, settled⟩, next⟩ :=
      sound.mapped circle' e' mapped'
    by_cases same : e' = e
    · subst same
      obtain rfl := sound.apart mapped' mapped
      cases there.symm.trans there'
      refine ⟨_, (entries e').trans (if_pos rfl), ?_, ?_⟩
      · refine ⟨m, ran, at', of', ?_, ?_⟩
        · intro more
          cases more
        · intro n y own found stage
          cases own
          rw [nexts, if_pos rfl] at found
          cases found
          cases stage
      · intro n own
        cases own
        exact ⟨_, (nexts i).trans (if_pos rfl), rfl, rfl, rfl, rfl⟩
    · refine ⟨entry', (entries e').trans ((if_neg same).trans there'), ?_, ?_⟩
      · refine ⟨m, ran, at', of', waits, ?_⟩
        intro n y own found stage
        obtain ⟨y', found', -⟩ := next n own
        cases (kept n y' found').symm.trans found
        exact settled n y own found' stage
      · intro n own
        obtain ⟨y, found, rest⟩ := next n own
        exact ⟨y, kept n y found, rest⟩
  case runs =>
    intro k m ran unsettled
    obtain ⟨mapped', entry', there', current⟩ := sound.runs k m ran unsettled
    refine ⟨mapped', ?_⟩
    by_cases same : m.entry = e
    · rw [same] at there' ⊢
      cases there.symm.trans there'
      exact ⟨_, (entries e).trans (if_pos rfl), current⟩
    · exact ⟨entry', (entries _).trans ((if_neg same).trans there'), current⟩
  case queued =>
    intro k y found queued
    rw [nexts] at found
    split at found
    case isTrue same =>
      cases found
      exact ⟨mapped, _, (entries e).trans (if_pos rfl), congrArg some same.symm⟩
    case isFalse =>
      obtain ⟨mapped', entry', there', own⟩ := sound.queued k y found queued
      have other : y.entry ≠ e := by
        intro same
        rw [same] at there'
        cases there.symm.trans there'
        cases none'.symm.trans own
      exact ⟨mapped', entry', (entries _).trans ((if_neg other).trans there'), own⟩
  case follows =>
    intro k y run found follows
    rw [nexts] at found
    split at found
    case isTrue =>
      cases found
      cases follows
    case isFalse => exact sound.follows k y run found follows
  case outcomes =>
    intro k y run outcome found stage
    rw [nexts] at found
    split at found
    case isTrue =>
      cases found
      cases stage
    case isFalse => exact sound.outcomes k y run outcome found stage
  case calls =>
    intro c member
    apply (sound.calls c member).onward
    exact ⟨Nat.le_refl _, fun k m ran => ⟨m, ran, rfl, rfl⟩,
      fun k y found => ⟨y, kept k y found, rfl, .inl rfl⟩⟩

theorem Sound.sync (sound : Sound s) (h : s.syncCircleSeatsCoalesced circle e i = some t) :
    Sound t := by
  unfold State.syncCircleSeatsCoalesced at h
  split at h
  case h_1 empty =>
    split at h
    · cases h
    · rename_i fresh
      cases h
      simp only [Bool.or_eq_true, Option.isSome_iff_ne_none, not_or, ne_eq, not_not] at fresh
      refine (sound.start empty fresh.1 fresh.2).returns ⟨Nat.le_refl _, ?_⟩
      exact ⟨_, (setRun_runs ..).trans (if_pos rfl), rfl, Nat.le_refl _⟩
  case h_2 e' mapped =>
    obtain ⟨entry, there, h⟩ := Option.bind_eq_some_iff.mp h
    obtain ⟨entry', there', live⟩ := sound.mapped circle e' mapped
    cases there.symm.trans there'
    split at h
    case h_1 n own =>
      cases h
      obtain ⟨x, found, -, of', -, queued⟩ := live.next n own
      refine sound.returns ⟨Nat.le_refl _, x, found, of', ?_⟩
      intro run follows
      unfold FollowUp.queued at queued
      unfold FollowUp.run at follows
      split at queued
      · rename_i stage
        rw [stage] at follows
        cases follows
      · rename_i stage
        rw [stage] at follows
        cases follows
      · cases queued
    case h_2 none' =>
      split at h
      · cases h
      · rename_i fresh
        cases h
        have fresh := Option.not_isSome_iff_eq_none.mp fresh
        refine (sound.queue mapped there none' fresh).returns ⟨Nat.le_refl _, ?_⟩
        refine ⟨_, (setNext_nexts ..).trans (if_pos rfl), rfl, ?_⟩
        intro run follows
        cases follows

theorem Sound.next {act : Act} (sound : Sound s) (h : s.next act = some t) : Sound t := by
  cases act with
  | sync circle e i => exact sound.sync h
  | ensured i outcome =>
    obtain ⟨r, found, h⟩ := Option.bind_eq_some_iff.mp h
    split at h
    · rename_i stage
      cases h
      exact sound.setRun found ⟨rfl, rfl, rfl⟩ (by rw [SyncRun.unsettled, stage]) (.inl rfl)
    · cases h
  | finish i =>
    obtain ⟨r, found, h⟩ := Option.bind_eq_some_iff.mp h
    split at h
    · rename_i outcome stage
      obtain ⟨entry, there, h⟩ := Option.bind_eq_some_iff.mp h
      cases h
      exact sound.finish found stage there
    · cases h
  | chain i =>
    obtain ⟨x, found, h⟩ := Option.bind_eq_some_iff.mp h
    obtain ⟨r, ran, h⟩ := Option.bind_eq_some_iff.mp h
    split at h
    · rename_i outcome stage settled
      cases h
      refine sound.setNext found ⟨rfl, rfl, rfl⟩ ?_ ?_ ?_ ?_
      · rw [FollowUp.queued, FollowUp.queued, stage]
      · rw [FollowUp.run, FollowUp.run, stage]
      · exact fun _ => ⟨r, ran, by rw [SyncRun.unsettled, settled]⟩
      · intro run outcome own
        cases own
    · cases h
  | follow i j =>
    obtain ⟨x, found, h⟩ := Option.bind_eq_some_iff.mp h
    split at h
    · rename_i stage
      split at h
      · cases h
      · rename_i fresh
        cases h
        exact sound.follow found stage (Option.not_isSome_iff_eq_none.mp fresh)
    · cases h
  | adopt i =>
    obtain ⟨x, found, h⟩ := Option.bind_eq_some_iff.mp h
    split at h
    · rename_i run stage
      obtain ⟨r, ran, h⟩ := Option.bind_eq_some_iff.mp h
      split at h
      · rename_i outcome settled
        cases h
        refine sound.setNext found ⟨rfl, rfl, rfl⟩ ?_ ?_ ?_ ?_
        · rw [FollowUp.queued, FollowUp.queued, stage]
        · rw [FollowUp.run, FollowUp.run, stage]
        · intro own
          cases own
        · intro run outcome own
          cases own
          exact ⟨r, ran, settled⟩
      · cases h
    · cases h

theorem sync_sound (h : Reachable (· = Coalesced.idle) Step s) : Sound s := by
  apply h.invariant
  · rintro _ rfl
    exact .idle
  · intro s act t step sound
    obtain ⟨u, next, rfl⟩ := Option.map_eq_some_iff.mp step
    exact (sound.next next).ticked

/-! ## What a promise waits for -/

/-- A run whose `ensureCircleConversation` has answered can run its `finally`. -/
theorem Sound.finishes (sound : Sound s) (found : s.runs i = some r)
    (stage : r.stage = .ensured outcome) : ∃ t, Step s (.finish i) t := by
  obtain ⟨-, entry, there, -⟩ := sound.runs i r found (SyncRun.unsettled_of_ensured stage)
  refine ⟨(s.finish i r entry outcome).ticked, ?_⟩
  simp only [Step, State.next, found, stage, there, Option.bind_eq_bind, Option.bind_some,
    Option.map_some]

theorem Sound.chains (sound : Sound s) (found : s.nexts i = some x) (stage : x.stage = .waiting) :
    ∃ r, s.runs x.waitsFor = some r ∧ (r.unsettled = true ∨ ∃ t, Step s (.chain i) t) := by
  have queued : x.queued = true := by rw [FollowUp.queued, stage]
  obtain ⟨mapped, entry, there, own⟩ := sound.queued i x found queued
  obtain ⟨entry', there', live⟩ := sound.mapped x.circle x.entry mapped
  cases there.symm.trans there'
  obtain ⟨r, ran, -⟩ := live.current
  obtain ⟨y, found', -, -, waits, -⟩ := live.next i own
  cases found.symm.trans found'
  rw [waits]
  refine ⟨r, ran, ?_⟩
  cases done : r.stage with
  | settled outcome =>
    right
    refine ⟨(s.setNext i { x with stage := .chained }).ticked, ?_⟩
    rw [← waits] at ran
    simp only [Step, State.next, found, ran, stage, done, Option.bind_eq_bind, Option.bind_some,
      Option.map_some]
  | running => exact .inl (by rw [SyncRun.unsettled, done])
  | ensured => exact .inl (by rw [SyncRun.unsettled, done])

theorem Sound.adopts (sound : Sound s) (found : s.nexts i = some x) (stage : x.stage = .following j) :
    ∃ r, s.runs j = some r ∧ (r.unsettled = true ∨ ∃ t, Step s (.adopt i) t) := by
  obtain ⟨r, ran, -⟩ := sound.follows i x j found (by rw [FollowUp.run, stage])
  refine ⟨r, ran, ?_⟩
  cases done : r.stage with
  | settled outcome =>
    right
    refine ⟨(s.setNext i { x with stage := .settled j outcome }).ticked, ?_⟩
    simp only [Step, State.next, found, ran, stage, done, Option.bind_eq_bind, Option.bind_some,
      Option.map_some]
  | running => exact .inl (by rw [SyncRun.unsettled, done])
  | ensured => exact .inl (by rw [SyncRun.unsettled, done])

theorem starts (empty : s.coalescedSyncs circle = none) (free : s.entries e = none)
    (fresh : s.runs i = none) :
    ∃ t, Step s (.sync circle e i) t ∧ t.runs i = some ⟨circle, e, s.clock, .running⟩ := by
  let t := ((({ s with
    coalescedSyncs := Function.update s.coalescedSyncs circle (some e) }.setEntry e
      ⟨i, none⟩).setRun i ⟨circle, e, s.clock, .running⟩).returns circle (.run i)).ticked
  have step : Step s (.sync circle e i) t := by
    simp only [Step, State.next, State.syncCircleSeatsCoalesced, empty, free, fresh]
    rfl
  exact ⟨t, step, Function.update_self ..⟩

/-- A circle is in the map as long as it has a run or a follow-up to come, at most one of
each; a promise answers what a run of its circle begun since the call has answered, and
nothing else keeps it from settling. -/
theorem seats_coalesced (h : Reachable (· = Coalesced.idle) Step s) :
    (∀ i j r r', s.runs i = some r → s.runs j = some r' → r.unsettled = true →
      r'.unsettled = true → r.circle = r'.circle → i = j) ∧
    (∀ i j x y, s.nexts i = some x → s.nexts j = some y → x.queued = true → y.queued = true →
      x.circle = y.circle → i = j) ∧
    (∀ circle, s.coalescedSyncs circle = none ↔
      (∀ i r, s.runs i = some r → r.circle = circle → r.unsettled = false) ∧
        ∀ i x, s.nexts i = some x → x.circle = circle → x.queued = false) ∧
    (∀ c ∈ s.calls, match c.promise with
      | .run i => ∃ r, s.runs i = some r ∧ r.circle = c.circle ∧ c.calledAt ≤ r.startedAt
      | .next i => ∃ x, s.nexts i = some x ∧ x.circle = c.circle ∧
          ∀ j outcome, x.stage = .settled j outcome → ∃ r, s.runs j = some r ∧
            r.circle = c.circle ∧ c.calledAt ≤ r.startedAt ∧ r.stage = .settled outcome) ∧
    (∀ i r outcome, s.runs i = some r → r.stage = .ensured outcome → ∃ t, Step s (.finish i) t) ∧
    (∀ i x, s.nexts i = some x →
      (x.stage = .waiting → ∃ r, s.runs x.waitsFor = some r ∧
        (r.unsettled = true ∨ ∃ t, Step s (.chain i) t)) ∧
      (x.stage = .chained → ∀ j, s.runs j = none → ∃ t, Step s (.follow i j) t) ∧
      ∀ j, x.stage = .following j → ∃ r, s.runs j = some r ∧
        (r.unsettled = true ∨ ∃ t, Step s (.adopt i) t)) ∧
    ∀ circle e i, s.coalescedSyncs circle = none → s.entries e = none → s.runs i = none →
      ∃ t, Step s (.sync circle e i) t ∧ t.runs i = some ⟨circle, e, s.clock, .running⟩ := by
  have sound := sync_sound h
  refine ⟨?_, ?_, ?_, ?_, ?_, ?_, ?_⟩
  · intro i j r r' found found' unsettled unsettled' same
    obtain ⟨mapped, entry, there, current⟩ := sound.runs i r found unsettled
    obtain ⟨mapped', entry', there', current'⟩ := sound.runs j r' found' unsettled'
    rw [same, mapped'] at mapped
    rw [Option.some.inj mapped, there] at there'
    cases there'
    exact current.symm.trans current'
  · intro i j x y found found' queued queued' same
    obtain ⟨mapped, entry, there, own⟩ := sound.queued i x found queued
    obtain ⟨mapped', entry', there', own'⟩ := sound.queued j y found' queued'
    rw [same, mapped'] at mapped
    rw [Option.some.inj mapped, there] at there'
    cases there'
    exact Option.some.inj (own.symm.trans own')
  · intro circle
    constructor
    · intro empty
      constructor
      · rintro i r found rfl
        by_contra unsettled
        have mapped := (sound.runs i r found (Bool.not_eq_false _ ▸ unsettled)).1
        cases empty.symm.trans mapped
      · rintro i x found rfl
        by_contra queued
        have mapped := (sound.queued i x found (Bool.not_eq_false _ ▸ queued)).1
        cases empty.symm.trans mapped
    · rintro ⟨settled, served⟩
      by_contra mapped
      obtain ⟨e, mapped⟩ := Option.ne_none_iff_exists'.mp mapped
      obtain ⟨entry, there, live⟩ := sound.mapped circle e mapped
      cases own : entry.next with
      | none =>
        obtain ⟨r, ran, -, of', waits, -⟩ := live.current
        cases (settled _ r ran of').symm.trans (waits own)
      | some n =>
        obtain ⟨x, found, -, of', -, queued⟩ := live.next n own
        cases (served n x found of').symm.trans queued
  · intro c member
    have served := (sound.calls c member).2
    split at served
    · exact served
    · obtain ⟨x, found, own, later⟩ := served
      refine ⟨x, found, own, ?_⟩
      intro j outcome stage
      have follows : x.run = some j := by rw [FollowUp.run, stage]
      obtain ⟨r, ran, started⟩ := later j follows
      obtain ⟨r', ran', settled⟩ := sound.outcomes _ x j outcome found stage
      obtain ⟨r'', ran'', circle⟩ := sound.follows _ x j found follows
      cases ran.symm.trans ran'
      cases ran.symm.trans ran''
      exact ⟨r, ran, circle.trans own, started, settled⟩
  · exact fun i r outcome found stage => sound.finishes found stage
  · intro i x found
    refine ⟨sound.chains found, ?_, fun j => sound.adopts found⟩
    intro stage j fresh
    refine ⟨(s.follow i x j).ticked, ?_⟩
    simp only [Step, State.next, found, stage, fresh, Option.bind_eq_bind, Option.bind_some,
      Option.isSome_none, Bool.false_eq_true, ↓reduceIte, Option.map_some]
  · exact fun circle e i => starts

end Sound

/-- A call while the run of another is on, and its follow-up after that run has failed. -/
def followedUp : List Act :=
  [.sync 1 0 0, .sync 1 0 0, .ensured 0 (.error ()), .finish 0, .chain 0, .follow 0 1,
    .ensured 1 (.ok (some 5)), .finish 1, .adopt 0]

theorem seats_coalesced_followed : ∃ s : State, s.coalescedSyncs 1 = none ∧
    s.calls.map (·.calledAt) = [0, 1] ∧
      ∀ i r, s.runs i = some r → r.circle = 1 → r.unsettled = false := by
  have run : Run Step Coalesced.idle followedUp _ :=
    Run.of_foldlM (show followedUp.foldlM (fun s act => (State.next s act).map (·.ticked)) idle =
      some _ from rfl)
  exact ⟨_, rfl, rfl, (((seats_coalesced ⟨_, _, rfl, run⟩).2.2.1 1).mp rfl).1⟩

end CircleBackend.Circle.Coalesced
