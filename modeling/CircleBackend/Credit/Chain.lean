import CircleBackend.Js
import CircleBackend.Library.Journal
import CircleBackend.Library.Transition

/-!
# The ledger of the credit score

`applyDeltaInTransaction` and `reviewReport`, one statement at a time under READ COMMITTED. The
events of a user form a chain from the score at the beginning to the one stored
(`credit_chain`), though the key of an event is looked up before the row of the user is locked.

A transaction may end with an error at any time. The ids of events are left out, and what else
a caller does in its transaction.
-/

namespace CircleBackend.Credit

open Library Library.ReadCommitted

abbrev UserId := Nat
abbrev ReportId := JsString
abbrev TxId := Nat

def minCreditScore : Int := 0
def maxCreditScore : Int := 100
def friendReportCreditDeduction : Int := 5

/-- `FRIEND_REPORT` -/
def friendReportSource : JsString := [70, 82, 73, 69, 78, 68, 95, 82, 69, 80, 79, 82, 84]
/-- `friend-report:` -/
def friendReportPrefix : JsString :=
  [102, 114, 105, 101, 110, 100, 45, 114, 101, 112, 111, 114, 116, 58]

def clampCreditScore (score : Int) : Int := max minCreditScore (min maxCreditScore score)

structure CreditDeltaInput where
  userId : UserId
  delta : Int
  reason : JsString
  sourceType : JsString
  sourceId : Option JsString
  actorId : Option UserId
  idempotencyKey : Option JsString
  /-- `metadata.category` -/
  category : Option JsString
  deriving DecidableEq

structure CreditDeltaResult where
  scoreBefore : Int
  scoreAfter : Int
  deriving DecidableEq

structure CreditEvent where
  userID : UserId
  delta : Int
  scoreBefore : Int
  scoreAfter : Int
  reason : JsString
  sourceType : JsString
  sourceID : Option JsString
  actorID : Option UserId
  idempotencyKey : Option JsString
  category : Option JsString
  deriving DecidableEq

inductive FriendReportStatus
  | pending | approved | rejected
  deriving DecidableEq

structure FriendReport where
  targetID : UserId
  category : JsString
  status : FriendReportStatus
  reviewedByID : Option UserId
  reviewNote : Option JsString
  deriving DecidableEq

/-- A review that claimed its report; there is no row of it. -/
structure Review where
  reportId : ReportId
  approve : Bool
  deriving DecidableEq

structure ReviewInput where
  adminId : UserId
  reportId : ReportId
  approve : Bool
  note : Option JsString
  deriving DecidableEq

/-- The next statement of a transaction; `inReview` where it is that of `reviewReport`. -/
inductive Phase
  | idle
  | claiming (input : ReviewInput) (report : FriendReport)
  | body (inReview : Bool) (last : Option CreditDeltaResult)
  | finding (inReview : Bool) (input : CreditDeltaInput)
  | locking (inReview : Bool) (input : CreditDeltaInput)
  | updating (inReview : Bool) (input : CreditDeltaInput) (scoreBefore : Int)
  | creating (inReview : Bool) (input : CreditDeltaInput) (scoreBefore scoreAfter : Int)
  /-- An error, after which a transaction can only end. -/
  | failed (before : Phase)
  deriving DecidableEq

structure State where
  users : Store UserId TxId Int
  reports : Store ReportId TxId FriendReport
  events : Journal TxId CreditEvent
  reviews : Journal TxId Review
  phase : TxId → Phase

inductive Act
  | begin (t : TxId)
  | applyDelta (t : TxId) (input : CreditDeltaInput)
  | reviewReport (t : TxId) (input : ReviewInput)
  | claim (t : TxId)
  | findUnique (t : TxId)
  | lock (t : TxId)
  | update (t : TxId)
  | create (t : TxId)
  | commit (t : TxId)
  | abort (t : TxId)
  deriving DecidableEq

/-- What an approved report takes off. -/
def ReviewInput.deduction (input : ReviewInput) (report : FriendReport) : CreditDeltaInput where
  userId := report.targetID
  delta := -friendReportCreditDeduction
  reason := friendReportSource
  sourceType := friendReportSource
  sourceId := some input.reportId
  actorId := some input.adminId
  idempotencyKey := some (friendReportPrefix ++ input.reportId)
  category := some report.category

def ReviewInput.status (input : ReviewInput) : FriendReportStatus :=
  if input.approve then .approved else .rejected

def CreditDeltaInput.event (input : CreditDeltaInput) (scoreBefore scoreAfter : Int) :
    CreditEvent where
  userID := input.userId
  delta := input.delta
  scoreBefore := scoreBefore
  scoreAfter := scoreAfter
  reason := input.reason
  sourceType := input.sourceType
  sourceID := input.sourceId
  actorID := input.actorId
  idempotencyKey := input.idempotencyKey
  category := input.category

namespace State

def goTo (s : State) (t : TxId) (phase : Phase) : State :=
  { s with phase := Function.update s.phase t phase }

/-- `updateMany` where the report is pending, which waits for the lock of a report that is. -/
def claim (s : State) (t : TxId) (input : ReviewInput) (report : FriendReport) : Option State :=
  match (s.reports input.reportId).view t with
  | some found =>
    if found.status = .pending then
      if (s.reports input.reportId).Free t then
        some { s with
          reports := s.reports.insert t input.reportId { found with
            status := input.status
            reviewedByID := some input.adminId
            reviewNote := input.note }
          reviews := s.reviews.append t { reportId := input.reportId, approve := input.approve }
          phase := Function.update s.phase t
            (if input.approve then .finding true (input.deduction report) else .body true none) }
      else none
    else some (s.goTo t (.body true none))
  | none => some (s.goTo t (.body true none))

/-- `if (input.idempotencyKey)`, which the empty key is not. -/
def findUnique (s : State) (t : TxId) (inReview : Bool) (input : CreditDeltaInput) : State :=
  let existing := if input.idempotencyKey.getD [] = [] then none
    else (s.events.visible (some t)).find? fun event => event.idempotencyKey = input.idempotencyKey
  match existing with
  | some event => s.goTo t (.body inReview (some ⟨event.scoreBefore, event.scoreAfter⟩))
  | none => s.goTo t (.locking inReview input)

/-- `SELECT … FOR UPDATE`; the lock is an uncommitted version with the same score. -/
def lock (s : State) (t : TxId) (inReview : Bool) (input : CreditDeltaInput) : Option State :=
  match (s.users input.userId).view t with
  | some score =>
    if (s.users input.userId).Free t then
      some { s with
        users := s.users.insert t input.userId score
        phase := Function.update s.phase t (.updating inReview input score) }
    else none
  | none => some (s.goTo t (.failed (s.phase t)))

/-- The unique index waits for a row that is not committed. -/
def create (s : State) (t : TxId) (inReview : Bool) (input : CreditDeltaInput)
    (scoreBefore scoreAfter : Int) : Option State :=
  match s.events.find? fun e => input.idempotencyKey.isSome &&
      e.row.idempotencyKey = input.idempotencyKey with
  | some e => if e.committed || e.tx = t then some (s.goTo t (.failed (s.phase t))) else none
  | none => some { s with
      events := s.events.append t (input.event scoreBefore scoreAfter)
      phase := Function.update s.phase t (.body inReview (some ⟨scoreBefore, scoreAfter⟩)) }

def commit (s : State) (t : TxId) : State where
  users := s.users.commit t
  reports := s.reports.commit t
  events := s.events.commit t
  reviews := s.reviews.commit t
  phase := Function.update s.phase t .idle

def abort (s : State) (t : TxId) : State where
  users := s.users.abort t
  reports := s.reports.abort t
  events := s.events.abort t
  reviews := s.reviews.abort t
  phase := Function.update s.phase t .idle

end State

def next (s : State) : Act → Option State
  | .begin t => if s.phase t = .idle then some (s.goTo t (.body false none)) else none
  | .applyDelta t input =>
    match s.phase t with
    | .body false _ => some (s.goTo t (.finding false input))
    | _ => none
  | .reviewReport t input =>
    match s.phase t, (s.reports input.reportId).committed with
    | .idle, some report =>
      if report.status = .pending then some (s.goTo t (.claiming input report)) else none
    | _, _ => none
  | .claim t =>
    match s.phase t with
    | .claiming input report => s.claim t input report
    | _ => none
  | .findUnique t =>
    match s.phase t with
    | .finding inReview input => some (s.findUnique t inReview input)
    | _ => none
  | .lock t =>
    match s.phase t with
    | .locking inReview input => s.lock t inReview input
    | _ => none
  | .update t =>
    match s.phase t with
    | .updating inReview input scoreBefore =>
      let scoreAfter := clampCreditScore (scoreBefore + input.delta)
      some { s with
        users := s.users.insert t input.userId scoreAfter
        phase := Function.update s.phase t (.creating inReview input scoreBefore scoreAfter) }
    | _ => none
  | .create t =>
    match s.phase t with
    | .creating inReview input scoreBefore scoreAfter =>
      s.create t inReview input scoreBefore scoreAfter
    | _ => none
  | .commit t =>
    match s.phase t with
    | .body _ _ => some (s.commit t)
    | _ => none
  | .abort t => if s.phase t = .idle then none else some (s.abort t)

def Step (s : State) (act : Act) (t : State) : Prop := next s act = some t

structure Initial (s : State) : Prop where
  users : ∀ u, (s.users u).pending = none
  bounded : ∀ u, ∀ score ∈ (s.users u).committed, minCreditScore ≤ score ∧ score ≤ maxCreditScore
  reports : ∀ r, (s.reports r).pending = none
  events : s.events = []
  reviews : s.reviews = []
  idle : ∀ t, s.phase t = .idle

/-- From a score to another by events, in their order. -/
def Chain : Int → List CreditEvent → Int → Prop
  | score, [], last => last = score
  | score, event :: rest, last => event.scoreBefore = score ∧
    event.scoreAfter = clampCreditScore (event.scoreBefore + event.delta) ∧
      Chain event.scoreAfter rest last

theorem chain_append {events : List CreditEvent} {first last : Int} {event : CreditEvent}
    (chain : Chain first events last) (next : event.scoreBefore = last)
    (clamped : event.scoreAfter = clampCreditScore (event.scoreBefore + event.delta)) :
    Chain first (events ++ [event]) event.scoreAfter := by
  induction events generalizing first with
  | nil => exact ⟨next.trans chain, clamped, rfl⟩
  | cons head rest ih =>
    obtain ⟨before, after, later⟩ := chain
    exact ⟨before, after, ih later⟩

theorem clamp_bounds (score : Int) :
    minCreditScore ≤ clampCreditScore score ∧ clampCreditScore score ≤ maxCreditScore := by
  unfold clampCreditScore minCreditScore maxCreditScore
  omega

theorem chain_bounds {events : List CreditEvent} {first last : Int}
    (bounded : minCreditScore ≤ first ∧ first ≤ maxCreditScore) (chain : Chain first events last) :
    minCreditScore ≤ last ∧ last ≤ maxCreditScore := by
  induction events generalizing first with
  | nil => exact chain ▸ bounded
  | cons event rest ih =>
    obtain ⟨-, clamped, later⟩ := chain
    exact ih (clamped ▸ clamp_bounds _) later

/-! ## What the locks keep -/

/-- What the events of a user come to. -/
def Agrees (initial : UserId → Option Int) (u : UserId) (events : List CreditEvent) :
    Option Int → Prop
  | some last => ∃ first, initial u = some first ∧ Chain first events last
  | none => initial u = none ∧ events = []

/-- A report that is pending has not been reviewed. -/
def Once (_ : ReportId) (reviews : List Review) : Option FriendReport → Prop
  | some report => (report.status = .pending → reviews = []) ∧ reviews.length ≤ 1
  | none => reviews = []

/-- The score before a change that has no event yet. -/
def Phase.owed : Phase → UserId → Option Int
  | .creating _ input scoreBefore _, u => if input.userId = u then some scoreBefore else none
  | .failed before, u => before.owed u
  | _, _ => none

/-- The lock that a statement relies on. -/
def Phase.Holds (users : Store UserId TxId Int) (t : TxId) : Phase → Prop
  | .updating _ input scoreBefore => (users input.userId).pending = some (t, scoreBefore)
  | .creating _ input scoreBefore scoreAfter =>
    (users input.userId).pending = some (t, scoreAfter) ∧
      scoreAfter = clampCreditScore (scoreBefore + input.delta)
  | _ => True

structure Inv (initial : UserId → Option Int) (s : State) : Prop where
  users : Kept s.users s.events (·.userID) (Agrees initial) fun t => (s.phase t).owed
  reports : Kept s.reports s.reviews (·.reportId) Once fun _ _ => none
  holds : ∀ t, (s.phase t).Holds s.users t
  keys : (s.events.filterMap (·.row.idempotencyKey)).Nodup

theorem Initial.inv {s : State} (initial : Initial s) : Inv (fun u => (s.users u).committed) s := by
  have seen {κ α : Type} (store : Store κ TxId α) (clean : ∀ k, (store k).pending = none)
      (v : Option TxId) (k : κ) : (store k).seen v = (store k).committed := by
    cases v with
    | none => rfl
    | some t => simp [Cell.seen, Cell.view, clean k]
  have owed (v : Option TxId) (u : UserId) : (v.bind fun t => (s.phase t).owed u) = none := by
    cases v with
    | none => rfl
    | some t =>
      rw [Option.bind_some, initial.idle t]
      rfl
  refine ⟨⟨?_, ?_, fun v u => ?_⟩, ⟨?_, ?_, fun v r => ?_⟩, fun t => ?_, ?_⟩
  · simp [initial.events]
  · intro t u open'
    rw [initial.idle t] at open'
    exact absurd rfl open'
  · rw [owed v u, seen _ initial.users, initial.events]
    cases score : (s.users u).committed with
    | none => exact ⟨score, rfl⟩
    | some score' => exact ⟨score', score, rfl⟩
  · simp [initial.reviews]
  · intro _ _ owing
    exact absurd rfl owing
  · rw [seen _ initial.reports, initial.reviews, Option.bind_fun_none]
    cases report : (s.reports r).committed with
    | none => rfl
    | some report' => exact ⟨fun _ => rfl, Nat.zero_le 1⟩
  · rw [initial.idle t]
    trivial
  · simp [initial.events]

section

variable {initial : UserId → Option Int} {s : State} {t : TxId}

theorem owed_update {phase phase' : Phase} (at' : s.phase t = phase)
    (same : phase'.owed = phase.owed) :
    (fun w => (Function.update s.phase t phase' w).owed) = fun w => (s.phase w).owed := by
  funext w
  by_cases own : w = t
  · subst own
    rw [Function.update_self, same, at']
  · rw [Function.update_of_ne own]

/-- The locks of the others, and what the transaction relies on next. -/
theorem holds_update {phase' : Phase} {users : Store UserId TxId Int}
    (holds : ∀ w, (s.phase w).Holds s.users w)
    (others : ∀ w ≠ t, ∀ u score, (s.users u).pending = some (w, score) →
      (users u).pending = some (w, score)) (own : phase'.Holds users t) (w : TxId) :
    (Function.update s.phase t phase' w).Holds users w := by
  by_cases same : w = t
  · subst same
    rw [Function.update_self]
    exact own
  · rw [Function.update_of_ne same]
    have held := holds w
    cases at' : s.phase w with
    | updating inReview input scoreBefore =>
      rw [at'] at held
      exact others w same _ _ held
    | creating inReview input scoreBefore scoreAfter =>
      rw [at'] at held
      exact ⟨others w same _ _ held.1, held.2⟩
    | _ => trivial

/-- A statement that changes nothing. -/
theorem Inv.goTo (inv : Inv initial s) {phase phase' : Phase} (at' : s.phase t = phase)
    (same : phase'.owed = phase.owed) (own : phase'.Holds s.users t) :
    Inv initial (s.goTo t phase') := by
  refine ⟨?_, inv.reports, holds_update inv.holds (fun _ _ _ _ locked => locked) own, inv.keys⟩
  have owed := owed_update at' same
  simp only [State.goTo]
  rw [owed]
  exact inv.users

theorem Inv.claim (inv : Inv initial s) {input : ReviewInput} {report : FriendReport} {u : State}
    (at' : s.phase t = .claiming input report) (step : s.claim t input report = some u) :
    Inv initial u := by
  unfold State.claim at step
  split at step
  · rename_i found seen
    split at step
    · rename_i pending
      split at step
      · rename_i free
        cases step
        have agrees := inv.reports.agree (some t) input.reportId
        have view : (s.reports input.reportId).seen (some t) = some found := seen
        rw [view, Option.bind_some, Option.none_or] at agrees
        have owes := owed_update at' (show Phase.owed (if input.approve then
          .finding true (input.deduction report) else .body true none) = _ by split <;> rfl)
        refine ⟨?_, inv.reports.write_append
          { reportId := input.reportId, approve := input.approve } free seen ?_, ?_, inv.keys⟩
        · dsimp only
          rw [owes]
          exact inv.users
        · rw [agrees.1 pending]
          refine ⟨fun again => ?_, Nat.le_refl 1⟩
          unfold ReviewInput.status at again
          split at again <;> cases again
        · refine holds_update inv.holds (fun _ _ _ _ locked => locked) ?_
          split <;> trivial
      · cases step
    · cases step
      exact inv.goTo at' rfl trivial
  · cases step
    exact inv.goTo at' rfl trivial

theorem Inv.lock (inv : Inv initial s) {inReview : Bool} {input : CreditDeltaInput} {u : State}
    (at' : s.phase t = .locking inReview input) (step : s.lock t inReview input = some u) :
    Inv initial u := by
  unfold State.lock at step
  split at step
  · rename_i score seen
    split at step
    · rename_i free
      cases step
      have owed := owed_update at' (show (Phase.updating inReview input score).owed = _ from rfl)
      refine ⟨?_, inv.reports, holds_update inv.holds (fun w other u b locked => ?_) ?_, inv.keys⟩
      · dsimp only
        rw [owed]
        refine inv.users.write free (fun _ _ _ => rfl) ?_
        have agrees := inv.users.agree (some t) input.userId
        have view : (s.users input.userId).seen (some t) = some score := seen
        rwa [view] at agrees
      · exact locked_insert locked free other
      · simp [Phase.Holds, Store.insert, Cell.write]
    · cases step
  · cases step
    exact inv.goTo rfl rfl trivial

theorem Inv.update (inv : Inv initial s) {inReview : Bool} {input : CreditDeltaInput}
    {scoreBefore : Int} (at' : s.phase t = .updating inReview input scoreBefore) :
    Inv initial { s with
      users := s.users.insert t input.userId (clampCreditScore (scoreBefore + input.delta))
      phase := Function.update s.phase t (.creating inReview input scoreBefore
        (clampCreditScore (scoreBefore + input.delta))) } := by
  have locked : (s.users input.userId).pending = some (t, scoreBefore) := by
    have held := inv.holds t
    rw [at'] at held
    exact held
  have free : (s.users input.userId).Free t := by
    rw [Cell.Free, locked]
    simp
  refine ⟨?_, inv.reports, holds_update inv.holds (fun w other u b own => ?_) ?_, inv.keys⟩
  · refine inv.users.write free (fun w u other => ?_) ?_ <;> dsimp only
    · by_cases own : w = t
      · subst own
        rw [Function.update_self, at']
        exact if_neg (Ne.symm (other.resolve_left (absurd rfl)))
      · rw [Function.update_of_ne own]
    · have agrees := inv.users.agree (some t) input.userId
      have view : (s.users input.userId).seen (some t) = some scoreBefore :=
        Cell.view_of_pending locked
      rw [view, Option.bind_some, at'] at agrees
      rw [Function.update_self]
      simpa [Phase.owed] using agrees
  · exact locked_insert own free other
  · exact ⟨by simp [Store.insert, Cell.write], rfl⟩

theorem Inv.create (inv : Inv initial s) {inReview : Bool} {input : CreditDeltaInput}
    {scoreBefore scoreAfter : Int} {u : State}
    (at' : s.phase t = .creating inReview input scoreBefore scoreAfter)
    (step : s.create t inReview input scoreBefore scoreAfter = some u) : Inv initial u := by
  unfold State.create at step
  split at step
  · rename_i e found
    split at step
    · cases step
      exact inv.goTo rfl rfl trivial
    · cases step
  · rename_i fresh
    cases step
    obtain ⟨locked, clamped⟩ : (s.users input.userId).pending = some (t, scoreAfter) ∧
        scoreAfter = clampCreditScore (scoreBefore + input.delta) := by
      have held := inv.holds t
      rw [at'] at held
      exact held
    refine ⟨inv.users.append (input.event scoreBefore scoreAfter) locked (fun w u other => ?_) ?_,
      inv.reports, holds_update inv.holds (fun _ _ _ _ own => own) trivial, ?_⟩
    · dsimp only
      by_cases own : w = t
      · subst own
        rw [Function.update_self, at']
        exact (if_neg (Ne.symm (other.resolve_left (absurd rfl)))).symm
      · rw [Function.update_of_ne own]
    · have agrees := inv.users.agree (some t) input.userId
      rw [Option.bind_some, at', Phase.owed, if_pos rfl, Option.some_or] at agrees
      dsimp only
      rw [Function.update_self]
      obtain ⟨first, known, chain⟩ := agrees
      exact ⟨first, known, chain_append chain rfl clamped⟩
    · rw [Journal.append, List.filterMap_append]
      cases key : input.idempotencyKey with
      | none => simpa [CreditDeltaInput.event, key] using inv.keys
      | some k =>
        have unused : k ∉ s.events.filterMap (·.row.idempotencyKey) := by
          intro member
          obtain ⟨e, inside, own⟩ := List.mem_filterMap.mp member
          have other := List.find?_eq_none.mp fresh e inside
          simp [key, own] at other
        have one : [({ tx := t, committed := false, row := input.event scoreBefore scoreAfter } :
            Entry TxId CreditEvent)].filterMap (·.row.idempotencyKey) = [k] := by
          simp [CreditDeltaInput.event, key]
        rw [one]
        exact List.nodup_append.mpr ⟨inv.keys, List.nodup_singleton k, fun a ha b hb same =>
          unused (List.mem_singleton.mp hb ▸ same ▸ ha)⟩

theorem Inv.commit (inv : Inv initial s) {inReview : Bool} {last : Option CreditDeltaResult}
    (at' : s.phase t = .body inReview last) : Inv initial (s.commit t) := by
  have owed := owed_update at' (show Phase.idle.owed = _ from rfl)
  refine ⟨?_, inv.reports.commit fun _ => rfl, holds_update inv.holds
    (fun w other u score locked => locked_commit locked other) trivial, ?_⟩
  · simp only [State.commit]
    rw [owed]
    exact inv.users.commit fun u => by rw [at']; rfl
  · have same (e : Entry TxId CreditEvent) : (if e.tx = t then { e with committed := true }
        else e).row.idempotencyKey = e.row.idempotencyKey := by split <;> rfl
    simpa only [State.commit, Journal.commit, List.filterMap_map, Function.comp_def, same] using
      inv.keys

theorem Inv.abort (inv : Inv initial s) : Inv initial (s.abort t) := by
  refine ⟨inv.users.abort (fun w u other => ?_) fun u => ?_,
    inv.reports.abort (fun _ _ _ => rfl) fun _ => rfl, holds_update inv.holds
      (fun w other u score locked => locked_abort locked other) trivial,
    inv.keys.sublist (List.filter_sublist.filterMap _)⟩
  · simp only [State.abort, Function.update_of_ne other]
  · simp only [State.abort, Function.update_self, Phase.owed]

theorem Inv.next (inv : Inv initial s) {act : Act} {u : State} (step : Step s act u) :
    Inv initial u := by
  cases act <;> simp only [Step, Credit.next] at step
  case begin t =>
    split at step
    · rename_i at'
      cases step
      exact inv.goTo at' rfl trivial
    · cases step
  case abort t =>
    split at step
    · cases step
    · cases step
      exact inv.abort
  case applyDelta t input =>
    split at step
    · rename_i at'
      cases step
      exact inv.goTo at' rfl trivial
    · cases step
  case reviewReport t input =>
    split at step
    · rename_i at' _
      split at step
      · cases step
        exact inv.goTo at' rfl trivial
      · cases step
    · cases step
  case findUnique t =>
    split at step
    · rename_i at'
      cases step
      unfold State.findUnique
      dsimp only
      split <;> exact inv.goTo at' rfl trivial
    · cases step
  case update t =>
    split at step
    · rename_i at'
      cases step
      exact inv.update at'
    · cases step
  case commit t =>
    split at step
    · rename_i at'
      cases step
      exact inv.commit at'
    · cases step
  -- claim, lock and create
  all_goals
    split at step
    · rename_i at'
      first | exact inv.claim at' step | exact inv.lock at' step | exact inv.create at' step
    · cases step

/-- The events of a user, in the order in which they were written under the lock of its row, lead
from the first score to the stored one; a key is used once, and a report reviewed once. -/
theorem credit_chain {s₀ : State} {acts : List Act} (start : Initial s₀)
    (run : Run Step s₀ acts s) :
    (∀ u last, (s.users u).committed = some last →
      minCreditScore ≤ last ∧ last ≤ maxCreditScore ∧ ∃ first, (s₀.users u).committed = some first ∧
        Chain first ((s.events.visible none).filter (·.userID = u)) last) ∧
    (∀ e ∈ s.events, e.committed = false → ∃ a, (s.users e.row.userID).pending = some (e.tx, a)) ∧
    (s.events.filterMap (·.row.idempotencyKey)).Nodup ∧
    ∀ r, ((s.reviews.visible none).filter (·.reportId = r)).length ≤ 1 := by
  have inv : Inv (fun u => (s₀.users u).committed) s :=
    run.preserves (fun _ _ _ step inv => inv.next step) start.inv
  refine ⟨fun u last stored => ?_, inv.users.held, inv.keys, fun r => ?_⟩
  · have agrees := inv.users.agree none u
    rw [show (s.users u).seen none = some last from stored] at agrees
    obtain ⟨first, known, chain⟩ := agrees
    obtain ⟨low, high⟩ := chain_bounds (start.bounded u first known) chain
    exact ⟨low, high, first, known, chain⟩
  · have once := inv.reports.agree none r
    cases report : (s.reports r).seen none with
    | none =>
      rw [report] at once
      rw [show _ = [] from once]
      exact Nat.zero_le 1
    | some report' =>
      rw [report] at once
      exact once.2

end

/-- One user of score 3 and a report of it, which is approved. -/
def reported : State where
  users _ := ⟨some 3, none⟩
  reports _ := ⟨some { targetID := 0, category := [], status := .pending, reviewedByID := none
                       reviewNote := none }, none⟩
  events := []
  reviews := []
  phase _ := .idle

theorem reported_initial : Initial reported :=
  ⟨fun _ => rfl, fun _ _ own => Option.some.inj own ▸ by decide, fun _ => rfl, rfl, rfl,
    fun _ => rfl⟩

theorem credit_chain_approved : ∃ s : State, (s.events.visible none).map (·.scoreAfter) = [0] ∧
    (s.events.filterMap (·.row.idempotencyKey)).Nodup := by
  have run : Run Step reported [.reviewReport 1 ⟨9, [49], true, none⟩, .claim 1, .findUnique 1,
    .lock 1, .update 1, .create 1, .commit 1] _ := Run.of_foldlM rfl
  exact ⟨_, rfl, (credit_chain reported_initial run).2.2.1⟩

end CircleBackend.Credit
