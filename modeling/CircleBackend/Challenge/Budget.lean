import CircleBackend.Challenge.Steps
import CircleBackend.Library.Chronicle

/-!
# The daily budget of the security-code fallback

Without approvals the only failures are wrong guesses at the security code, and
a challenge's attempts are the wrong guesses made on it. The budget adds them up
over the challenges of the last day, so it misses a guess of the last day made
on an older challenge. When it misses none, it bounds every window of a day.
-/

namespace CircleBackend.Challenge

open Library
open Session (DeviceKey SessionContext)

/-- A call of `verifySecurityCodeFallback` that compared a guess and found it
wrong. -/
structure Guess where
  time : Time
  id : ChallengeId
  createdAt : Time
  deriving DecidableEq, Repr

def Entry.guess (e : Entry) : Option Guess :=
  match e.update with
  | .countFailure read => some ⟨e.time, read.id, read.createdAt⟩
  | _ => none

def guesses (log : List Entry) : List Guess := log.filterMap (·.guess)

/-- Made within a day of `now`, counting back. -/
def Guess.recent (now : Time) (g : Guess) : Bool := now ≤ g.time + loginChallengeRetentionMs

/-- The guesses made on one challenge. -/
def guessesOn (log : List Entry) (id : ChallengeId) : Nat := (guesses log).countP (·.id = id)

def Event.approves : Event → Bool
  | .approve .. => true
  | _ => false

/-- The step that reads the budget. -/
def checksBudget (a : Account) : Event → Bool
  | .advance =>
    match a.holder with
    | some (.checkBudget ..) => true
    | _ => false
  | _ => false

/-- When the budget is read, no guess of the last day was made on a challenge
older than a day. -/
def Covered (a : Account) (e : Event) : Prop :=
  checksBudget a e = true → ∀ g ∈ guesses a.db.log, g.recent a.db.now = true →
    a.db.now < g.createdAt + loginChallengeRetentionMs

instance (a : Account) (e : Event) : Decidable (Covered a e) :=
  inferInstanceAs (Decidable (_ → ∀ g ∈ guesses a.db.log, _ → _))

/-- A challenge a call has read: still as it was, or gone with its day long over. -/
def Seen (db : Db) (read : LoginChallenge) : Prop :=
  read.id < db.nextId ∧
    ((∃ r ∈ db.challenges.rows,
        r.id = read.id ∧ r.createdAt = read.createdAt ∧ r.attempts = read.attempts) ∨
      (∀ r ∈ db.challenges.rows, r.id ≠ read.id) ∧
        read.createdAt + loginChallengeRetentionMs < db.now)

def BudgetHolder (db : Db) : Call → Prop
  | .checkFallback read _ => Seen db read
  | .checkBudget read _ => Seen db read ∧ read.attempts < loginChallengeMaxAttempts
  | .compareSecurityCode read _ =>
    (Seen db read ∧ read.attempts < loginChallengeMaxAttempts) ∧
      (guesses db.log).countP (·.recent db.now) < loginChallengeSecurityCodeDailyFailures
  | .extendForRecovery _ _ now => ∀ r ∈ db.challenges.rows, r.createdAt ≤ now
  | _ => True

/-- What holds of a row on an account nobody approves logins for. -/
structure UnapprovedRow (db : Db) (r : LoginChallenge) : Prop where
  id : r.id < db.nextId
  status : r.status ≠ .approved
  attempts : r.attempts = guessesOn db.log r.id
  born : r.createdAt ≤ db.now
  expires : r.createdAt ≤ r.expiresAt
  created : ∀ g ∈ guesses db.log, g.id = r.id → g.createdAt = r.createdAt

/-- Each guess was made while fewer than the limit were recent. -/
def Limited : List Guess → Prop :=
  Chronicle fun g older => older.countP (·.recent g.time) < loginChallengeSecurityCodeDailyFailures

structure BudgetInv (db : Db) : Prop where
  rows : ∀ r ∈ db.challenges.rows, UnapprovedRow db r
  ids : ∀ g ∈ guesses db.log, g.id < db.nextId
  gone : ∀ g ∈ guesses db.log, (∀ r ∈ db.challenges.rows, r.id ≠ g.id) →
    g.createdAt + loginChallengeRetentionMs < db.now
  limited : Limited (guesses db.log)

structure Unapproved (a : Account) : Prop where
  approvals : a.approvals = []
  db : BudgetInv a.db
  holder : ∀ c, a.holder = some c → BudgetHolder a.db c

/-! ## Reading the budget -/

theorem sum_attempts {log : List Entry} {rows : List LoginChallenge}
    (counted : ∀ r ∈ rows, r.attempts = guessesOn log r.id) :
    (rows.map (·.attempts)).sum = (((rows.map (·.id)).map (guessesOn log)).sum : Nat) := by
  induction rows with
  | nil => rfl
  | cons r rows ih =>
    have first := counted r List.mem_cons_self
    have rest := ih fun s hs => counted s (List.mem_cons_of_mem r hs)
    simp only [List.map_cons, List.sum_cons, Int.natCast_add, first, rest]

/-- When the budget misses no recent guess, it is at least their number. -/
theorem recent_le_budget {db : Db} (inv : BudgetInv db)
    (covered : ∀ g ∈ guesses db.log, g.recent db.now = true →
      db.now < g.createdAt + loginChallengeRetentionMs) :
    ((guesses db.log).countP (·.recent db.now) : Int) ≤ db.recentFailures := by
  let recent := db.challenges.select fun r => db.now < r.createdAt + loginChallengeRetentionMs
  have distinct : (recent.map (·.id)).Nodup :=
    db.challenges.unique.sublist (List.filter_sublist.map _)
  have sum : db.recentFailures = (((recent.map (·.id)).map (guessesOn db.log)).sum : Nat) := by
    apply sum_attempts
    intro r hr
    exact (inv.rows r (Table.mem_select.mp hr).1).attempts
  have keyed := sum_countP_keys (fun g : Guess => g.id) (guesses db.log) distinct
  have fewer : (guesses db.log).countP (·.recent db.now) ≤
      (guesses db.log).countP fun g => g.id ∈ recent.map (·.id) := by
    apply List.countP_mono_left
    intro g hg isRecent
    have young := covered g hg isRecent
    have present : ∃ r ∈ db.challenges.rows, r.id = g.id := by
      by_contra absent
      have old := inv.gone g hg fun r hr same => absent ⟨r, hr, same⟩
      exact absurd (Nat.lt_trans young old) (Nat.lt_irrefl _)
    obtain ⟨r, hr, same⟩ := present
    have sameAge := (inv.rows r hr).created g hg same.symm
    simp only [decide_eq_true_eq, List.mem_map]
    refine ⟨r, Table.mem_select.mpr ⟨hr, ?_⟩, same⟩
    rw [sameAge] at young
    exact decide_eq_true young
  rw [sum]
  exact Int.ofNat_le.mpr (keyed ▸ fewer)

/-! ## One more update -/

/-- What a call has established before it runs an update. -/
def BudgetPermitted (db : Db) : Update → Prop
  | .approve .. => False
  | .countFailure read =>
    (Seen db read ∧ read.attempts < loginChallengeMaxAttempts) ∧
      (guesses db.log).countP (·.recent db.now) < loginChallengeSecurityCodeDailyFailures
  | .requestRecovery _ _ now => ∀ r ∈ db.challenges.rows, r.createdAt ≤ now
  | _ => True

theorem budgetPermitted_of_issues {argon2 : Argon2} {db : Db} {c : Call} {u : Update} {next}
    (issues : Issues argon2 db c u next) (seen : BudgetHolder db c) : BudgetPermitted db u := by
  cases issues with
  | countFailure => exact seen
  | extend => exact seen
  | cancelRecoveries | claim | reopen | completing | release | reserve | consume | consumeFallback
    | reject | refresh | invalidate => trivial

/-- No code is issued, so nothing enters one: only a wrong guess counts. -/
theorem unapproved_exec {db : Db} {u : Update} (permitted : BudgetPermitted db u)
    {r : LoginChallenge} (status : r.status ≠ .approved) :
    (u.apply r).status ≠ .approved ∧
      ((u.apply r).attempts = r.attempts ∨
        ∃ read, u = .countFailure read ∧ u.selects r = true ∧
          (u.apply r).attempts = r.attempts + 1) := by
  obtain ⟨hs, happ⟩ | ⟨_, happ⟩ := u.apply_cases r
  · rw [happ]
    cases u with
    | approve => exact permitted.elim
    | reserve => simp [Update.selects, status] at hs
    | consumeCode => simp [Update.selects, status] at hs
    | reopenIfCodeExpired => simp [Update.selects, status] at hs
    | countFailure read => exact ⟨status, Or.inr ⟨read, rfl, hs, rfl⟩⟩
    | requestRecovery => exact ⟨status, Or.inl rfl⟩
    | reject | consumeFallback | claimRecovery | releaseRecoveryClaim | cancelRecoveries
      | invalidateChallenges => exact ⟨by simp [Update.set], Or.inl rfl⟩
  · rw [happ]
    exact ⟨status, Or.inl rfl⟩

theorem expires_exec {db : Db} {u : Update} (permitted : BudgetPermitted db u) {r : LoginChallenge}
    (hr : r ∈ db.challenges.rows) (before : r.createdAt ≤ r.expiresAt) :
    (u.apply r).createdAt ≤ (u.apply r).expiresAt := by
  obtain ⟨_, happ⟩ | ⟨_, happ⟩ := u.apply_cases r
  · rw [happ]
    cases u with
    | requestRecovery id deviceKey now =>
      have early := permitted r hr
      exact Nat.le_trans early (Nat.le_trans (Nat.le_add_right _ _) (Nat.le_add_right _ _))
    | approve | reject | reopenIfCodeExpired | reserve | consumeCode | countFailure
      | consumeFallback | claimRecovery | releaseRecoveryClaim | cancelRecoveries
      | invalidateChallenges => exact before
  · rw [happ]
    exact before

/-- A row with the id of a challenge a call has seen is that challenge. -/
theorem seen_row {db : Db} {read r : LoginChallenge} (seen : Seen db read)
    (hr : r ∈ db.challenges.rows) (same : r.id = read.id) :
    r.createdAt = read.createdAt ∧ r.attempts = read.attempts := by
  obtain ⟨_, ⟨other, hother, id, age, attempts⟩ | ⟨absent, _⟩⟩ := seen
  · rw [db.challenges.row_unique hr hother (same.trans id.symm)]
    exact ⟨age, attempts⟩
  · exact absurd same (absent r hr)

theorem guesses_exec {db : Db} {u : Update} (other : ∀ read, u ≠ .countFailure read) :
    guesses (db.exec u).log = guesses db.log := by
  have silent : (db.entry u).guess = none := by
    cases u with
    | countFailure read => exact absurd rfl (other read)
    | _ => rfl
  simp only [guesses, Db.exec_log, List.filterMap_cons, silent]

theorem guesses_failure (db : Db) (read : LoginChallenge) :
    guesses (db.exec (.countFailure read)).log =
      ⟨db.now, read.id, read.createdAt⟩ :: guesses db.log := rfl

theorem row_failure {db : Db} {read r : LoginChallenge} (ok : UnapprovedRow db r)
    (permitted : BudgetPermitted db (.countFailure read)) (hr : r ∈ db.challenges.rows) :
    ((Update.countFailure read).apply r).attempts =
      guessesOn (db.exec (.countFailure read)).log r.id := by
  obtain ⟨⟨seen, left⟩, _⟩ := permitted
  have before := ok.attempts
  rw [guessesOn, guesses_failure, List.countP_cons]
  by_cases same : r.id = read.id
  · have counted := (seen_row seen hr same).2
    have selected : (Update.countFailure read).selects r = true := by
      simp [Update.selects, same, counted, left]
    simp only [Update.apply, selected, ↓reduceIte, Update.set, same, decide_true]
    rw [before, guessesOn, same]
    rfl
  · have selected : (Update.countFailure read).selects r = false := by
      simp [Update.selects, same]
    have apart : ¬ read.id = r.id := fun h => same h.symm
    simp only [Update.apply, selected, Bool.false_eq_true, ↓reduceIte, apart, decide_false,
      Nat.add_zero]
    exact before

theorem unapprovedRow_exec {db : Db} {u : Update} (permitted : BudgetPermitted db u)
    {r : LoginChallenge} (hr : r ∈ db.challenges.rows) (ok : UnapprovedRow db r) :
    UnapprovedRow (db.exec u) (u.apply r) := by
  obtain ⟨status, attempts⟩ := unapproved_exec permitted ok.status
  have expires := expires_exec permitted hr ok.expires
  cases u with
  | countFailure read =>
    refine ⟨by simpa using ok.id, status, ?_, by simpa using ok.born, expires, ?_⟩
    · rw [Update.apply_id]
      exact row_failure ok permitted hr
    · rw [Update.apply_id, Update.apply_createdAt]
      intro g hg same
      rw [guesses_failure] at hg
      obtain rfl | hg := List.mem_cons.mp hg
      · exact (seen_row permitted.1.1 hr same.symm).1.symm
      · exact ok.created g hg same
  | approve | reject | reopenIfCodeExpired | requestRecovery | reserve | consumeCode
    | consumeFallback | claimRecovery | releaseRecoveryClaim | cancelRecoveries
    | invalidateChallenges =>
    obtain same | ⟨read, impossible, _⟩ := attempts
    · refine ⟨by simpa using ok.id, status, ?_, by simpa using ok.born, expires, ?_⟩
      · rw [same, Update.apply_id, guessesOn, guesses_exec (by intro read h; cases h)]
        exact ok.attempts
      · rw [Update.apply_id, Update.apply_createdAt, guesses_exec (by intro read h; cases h)]
        exact ok.created
    · cases impossible

theorem budgetInv_exec {db : Db} {u : Update} (inv : BudgetInv db)
    (permitted : BudgetPermitted db u) : BudgetInv (db.exec u) := by
  have rows : ∀ r ∈ (db.exec u).challenges.rows, UnapprovedRow (db.exec u) r := by
    intro r hr
    obtain ⟨old, hold, rfl⟩ := Db.mem_exec.mp hr
    exact unapprovedRow_exec permitted hold (inv.rows old hold)
  have kept : ∀ id, (∀ r ∈ (db.exec u).challenges.rows, r.id ≠ id) →
      ∀ r ∈ db.challenges.rows, r.id ≠ id := by
    intro id absent r hr same
    apply absent (u.apply r) (Db.mem_exec.mpr ⟨r, hr, rfl⟩)
    rw [Update.apply_id]
    exact same
  by_cases failure : ∃ read, u = .countFailure read
  · obtain ⟨read, rfl⟩ := failure
    obtain ⟨⟨seen, _⟩, budget⟩ := permitted
    refine ⟨rows, ?_, ?_, ?_⟩
    · intro g hg
      rw [guesses_failure] at hg
      obtain rfl | hg := List.mem_cons.mp hg
      · exact seen.1
      · exact inv.ids g hg
    · intro g hg absent
      rw [guesses_failure] at hg
      obtain rfl | hg := List.mem_cons.mp hg
      · obtain ⟨r, hr, same, _⟩ | ⟨_, old⟩ := seen.2
        · exact absurd same (kept _ absent r hr)
        · exact old
      · exact inv.gone g hg (kept _ absent)
    · rw [guesses_failure]
      exact .cons budget inv.limited
  · have silent : guesses (db.exec u).log = guesses db.log :=
      guesses_exec fun read h => failure ⟨read, h⟩
    refine ⟨rows, ?_, ?_, ?_⟩
    · rw [silent]
      exact inv.ids
    · rw [silent]
      intro g hg absent
      exact inv.gone g hg (kept _ absent)
    · rw [silent]
      exact inv.limited

/-! ## The other steps -/

theorem budgetInv_later {db db' : Db} (inv : BudgetInv db) (challenges : db'.challenges = db.challenges)
    (log : db'.log = db.log) (nextId : db'.nextId = db.nextId) (now : db.now ≤ db'.now) :
    BudgetInv db' := by
  refine ⟨?_, ?_, ?_, ?_⟩
  · intro r hr
    rw [challenges] at hr
    have ok := inv.rows r hr
    refine ⟨nextId ▸ ok.id, ok.status, ?_, Nat.le_trans ok.born now, ok.expires, ?_⟩
    · rw [log]
      exact ok.attempts
    · rw [log]
      exact ok.created
  · rw [log, nextId]
    exact inv.ids
  · rw [log, challenges]
    intro g hg absent
    exact Nat.lt_of_lt_of_le (inv.gone g hg absent) now
  · rw [log]
    exact inv.limited

theorem budgetInv_created {db created : Db} {k : DeviceKey} {context : SessionContext}
    (inv : BudgetInv db) (h : db.createChallenge k context = some created) : BudgetInv created := by
  obtain ⟨challenges, inserted, rfl⟩ := Db.created h
  refine ⟨?_, ?_, ?_, inv.limited⟩
  · intro r hr
    obtain hr | rfl := (Table.mem_insert inserted).mp hr
    · have ok := inv.rows r hr
      exact ⟨Nat.lt_succ_of_lt ok.id, ok.status, ok.attempts, ok.born, ok.expires, ok.created⟩
    · have unguessed : ∀ g ∈ guesses db.log, g.id ≠ db.nextId := by
        intro g hg same
        exact absurd (inv.ids g hg) (by rw [same]; exact Nat.lt_irrefl _)
      refine ⟨Nat.lt_succ_self _, nofun, ?_, Nat.le_refl _, Nat.le_add_right _ _, ?_⟩
      · have none : guessesOn db.log db.nextId = 0 :=
          List.countP_eq_zero.mpr fun g hg => by simpa using unguessed g hg
        exact congrArg Int.ofNat none.symm
      · intro g hg same
        exact absurd same (unguessed g hg)
  · intro g hg
    exact Nat.lt_succ_of_lt (inv.ids g hg)
  · intro g hg absent
    apply inv.gone g hg
    intro r hr
    exact absent r ((Table.mem_insert inserted).mpr (Or.inl hr))

/-- A clean-up that may run by the clock takes only challenges whose day is over. -/
theorem cleaned_up {db : Db} (inv : BudgetInv db) {reading : Time} (past : reading ≤ db.now)
    {candidates : Option (List ChallengeId)} {r : LoginChallenge} (hr : r ∈ db.challenges.rows)
    (taken : r ∉ (db.cleanup reading candidates).challenges.rows) :
    r.createdAt + loginChallengeRetentionMs < db.now := by
  have selected : r.expiresAt + loginChallengeRetentionMs < reading := by
    by_contra still
    apply taken
    refine Table.mem_deleteMany.mpr ⟨hr, ?_⟩
    simp [still]
  have age := (inv.rows r hr).expires
  exact Nat.lt_of_le_of_lt (Nat.add_le_add_right age _) (Nat.lt_of_lt_of_le selected past)

theorem budgetInv_cleanup {db : Db} (inv : BudgetInv db) {reading : Time} (past : reading ≤ db.now)
    (candidates : Option (List ChallengeId)) : BudgetInv (db.cleanup reading candidates) := by
  refine ⟨?_, inv.ids, ?_, inv.limited⟩
  · intro r hr
    have ok := inv.rows r (Table.mem_deleteMany.mp hr).1
    exact ⟨ok.id, ok.status, ok.attempts, ok.born, ok.expires, ok.created⟩
  · intro g hg absent
    by_cases present : ∃ r ∈ db.challenges.rows, r.id = g.id
    · obtain ⟨r, hr, same⟩ := present
      have taken : r ∉ (db.cleanup reading candidates).challenges.rows :=
        fun still => absent r still same
      rw [(inv.rows r hr).created g hg same.symm]
      exact cleaned_up inv past hr taken
    · exact inv.gone g hg fun r hr same => present ⟨r, hr, same⟩

theorem seen_later {db db' : Db} {read : LoginChallenge} (seen : Seen db read)
    (challenges : db'.challenges = db.challenges) (nextId : db'.nextId = db.nextId)
    (now : db.now ≤ db'.now) : Seen db' read := by
  obtain ⟨old, still | ⟨absent, gone⟩⟩ := seen
  · exact ⟨nextId ▸ old, Or.inl (challenges ▸ still)⟩
  · exact ⟨nextId ▸ old, Or.inr ⟨challenges ▸ absent, Nat.lt_of_lt_of_le gone now⟩⟩

theorem seen_cleanup {db : Db} (inv : BudgetInv db) {reading : Time} (past : reading ≤ db.now)
    {candidates : Option (List ChallengeId)} {read : LoginChallenge} (seen : Seen db read) :
    Seen (db.cleanup reading candidates) read := by
  obtain ⟨old, ⟨r, hr, same, age, attempts⟩ | ⟨absent, gone⟩⟩ := seen
  · refine ⟨old, ?_⟩
    by_cases still : r ∈ (db.cleanup reading candidates).challenges.rows
    · exact Or.inl ⟨r, still, same, age, attempts⟩
    · right
      constructor
      · intro other hother id
        have kept := (Table.mem_deleteMany.mp hother).1
        have this := db.challenges.row_unique kept hr (id.trans same.symm)
        exact still (this ▸ hother)
      · rw [← age]
        exact cleaned_up inv past hr still
  · refine ⟨old, Or.inr ⟨?_, gone⟩⟩
    intro r hr
    exact absent r (Table.mem_deleteMany.mp hr).1

theorem recent_later {log : List Guess} {now now' : Time} (h : now ≤ now') :
    log.countP (·.recent now') ≤ log.countP (·.recent now) := by
  apply List.countP_mono_left
  intro g _ later
  simp only [Guess.recent, decide_eq_true_eq] at later ⊢
  exact Nat.le_trans h later

theorem budgetHolder_later (db db' : Db) (challenges : db'.challenges = db.challenges)
    (log : db'.log = db.log) (nextId : db'.nextId = db.nextId) (now : db.now ≤ db'.now) {c : Call}
    (seen : BudgetHolder db c) : BudgetHolder db' c := by
  cases c with
  | checkFallback => exact seen_later seen challenges nextId now
  | checkBudget => exact ⟨seen_later seen.1 challenges nextId now, seen.2⟩
  | compareSecurityCode =>
    obtain ⟨⟨seen, left⟩, budget⟩ := seen
    refine ⟨⟨seen_later seen challenges nextId now, left⟩, ?_⟩
    rw [log]
    exact Nat.lt_of_le_of_lt (recent_later now) budget
  | extendForRecovery id deviceKey now' =>
    intro r hr
    exact seen r (challenges ▸ hr)
  | _ => trivial

theorem budgetHolder_cleanup {db : Db} (inv : BudgetInv db) {reading : Time}
    (past : reading ≤ db.now) {candidates : Option (List ChallengeId)} {c : Call}
    (seen : BudgetHolder db c) : BudgetHolder (db.cleanup reading candidates) c := by
  cases c with
  | checkFallback => exact seen_cleanup inv past seen
  | checkBudget => exact ⟨seen_cleanup inv past seen.1, seen.2⟩
  | compareSecurityCode => exact ⟨⟨seen_cleanup inv past seen.1.1, seen.1.2⟩, seen.2⟩
  | extendForRecovery => exact fun r hr => seen r (Table.mem_deleteMany.mp hr).1
  | _ => trivial

theorem unrefused_attempts {r : LoginChallenge} {now : Time} (h : r.refusal now = none) :
    r.attempts < loginChallengeMaxAttempts := by
  unfold LoginChallenge.refusal at h
  split at h
  · cases h
  · split at h
    · cases h
    · omega

/-- Where the budget is read, it bounds the recent guesses. -/
theorem budgetHolder_continues {db : Db} (inv : BudgetInv db) {c c' : Call}
    (covered : (∃ read correct, c = .checkBudget read correct) →
      ∀ g ∈ guesses db.log, g.recent db.now = true →
        db.now < g.createdAt + loginChallengeRetentionMs)
    (h : Continues db c c') (seen : BudgetHolder db c) : BudgetHolder db c' := by
  cases h with
  | fallback correct found =>
    have row := (Db.findForDevice_mem found).1
    exact ⟨(inv.rows _ row).id, Or.inl ⟨_, row, rfl, rfl, rfl⟩⟩
  | undecided correct unrefused => exact ⟨seen, unrefused_attempts unrefused⟩
  | @budget r correct left =>
    refine ⟨seen, ?_⟩
    have most := recent_le_budget inv (covered ⟨r, correct, rfl⟩)
    omega
  | extend r deviceKey => exact fun r hr => (inv.rows r hr).born
  | cancelRecoveries | unfamiliar | matured | immature | reusable | fresh | completing | resend
    | resendExpired | resendOpen | requestRecovery | consumeWithCode | approved | reject
    | revokeDevice | revokeOtherDevices => trivial

theorem budgetHolder_issues {argon2 : Argon2} {db db' : Db} {c c' : Call} {u : Update} {next}
    (issues : Issues argon2 db c u next) {count : Nat} (goes : next count = .call c') :
    BudgetHolder db' c' := by
  cases issues with
  | claim =>
    dsimp only at goes
    split at goes
    · cases goes
      trivial
    · cases goes
      trivial
  | completing => cases goes; trivial
  | reserve => cases (orElse_call goes).2; trivial
  | consume => cases (orElse_call goes).2; trivial
  | consumeFallback => cases (orElse_call goes).2; trivial
  | extend => cases (orElse_call goes).2
  | cancelRecoveries | reopen | release | countFailure | reject | refresh | invalidate => cases goes

theorem unapproved_step {argon2 : Argon2} {a b : Account} {e : Event} (h : Step argon2 a e b)
    (covered : Covered a e) (unapproved : e.approves = false) (sound : Unapproved a) :
    Unapproved b := by
  obtain ⟨approvals, inv, holder⟩ := sound
  cases step_moves h with
  | idle => exact ⟨approvals, inv, holder⟩
  | tick ms =>
    have now : a.db.now ≤ a.db.now + ms := Nat.le_add_right _ _
    refine ⟨approvals, budgetInv_later inv rfl rfl rfl now, ?_⟩
    intro c hc
    exact budgetHolder_later a.db { a.db with now := a.db.now + ms } rfl rfl rfl now (holder c hc)
  | request r free =>
    refine ⟨approvals, inv, ?_⟩
    intro c hc
    cases hc
    cases r <;> trivial
  | @proceed c devices next held act =>
    refine ⟨?_, ?_, ?_⟩
    · rw [Account.follow_approvals]
      exact approvals
    · rw [Account.follow_db]
      exact budgetInv_later inv rfl rfl rfl (Nat.le_refl _)
    · intro c' hc'
      rw [Account.follow_holder] at hc'
      subst hc'
      rw [Account.follow_db]
      have applies : (∃ read correct, c = .checkBudget read correct) → checksBudget a .advance = true := by
        rintro ⟨read, correct, rfl⟩
        simp [checksBudget, held]
      have next := budgetHolder_continues inv (fun reads => covered (applies reads))
        (continues_of_action act) (holder c held)
      exact budgetHolder_later _ _ rfl rfl rfl (Nat.le_refl _) next
  | update held act =>
    have issues := issues_of_action act
    have permitted := budgetPermitted_of_issues issues (holder _ held)
    refine ⟨?_, ?_, ?_⟩
    · rw [Account.follow_approvals]
      exact approvals
    · rw [Account.follow_db]
      exact budgetInv_later (budgetInv_exec inv permitted) rfl rfl rfl (Nat.le_refl _)
    · intro c' hc'
      rw [Account.follow_holder] at hc'
      exact budgetHolder_issues issues hc'
  | refused held =>
    refine ⟨approvals, inv, ?_⟩
    intro c' hc'
    cases hc'
  | insert held act created =>
    refine ⟨approvals, budgetInv_created inv created, ?_⟩
    intro c' hc'
    cases hc'
  | @throw c held =>
    refine ⟨?_, ?_, ?_⟩
    · rw [Account.follow_approvals]
      exact approvals
    · rw [Account.follow_db]
      exact inv
    · intro c' hc'
      rw [Account.follow_holder] at hc'
      cases c with
      | completeRecoveryLogin => cases hc'; trivial
      | _ => cases hc'
  | approving => cases unapproved
  | found drawn approvals' replies flight => simp [approvals] at flight
  | approve drawn approvals' replies flight => simp [approvals] at flight
  | cleanup reading candidates =>
    have past : min reading a.db.now ≤ a.db.now := Nat.min_le_right _ _
    refine ⟨approvals, budgetInv_cleanup inv past candidates, ?_⟩
    intro c hc
    exact budgetHolder_cleanup inv past (holder c hc)

theorem unapproved_initial {a : Account} (h : Initial a) : Unapproved a := by
  refine ⟨h.approvals, ⟨?_, ?_, ?_, ?_⟩, ?_⟩
  · simp [h.challenges]
  · simp [h.log, guesses]
  · simp [h.log, guesses]
  · rw [h.log]
    exact .nil
  · simp [h.holder]

theorem run_unapproved {argon2 : Argon2} {a b : Account} {events : List Event} (init : Initial a)
    (run : Run (Run.Where (Step argon2) Covered) a events b)
    (unapproved : ∀ e ∈ events, e.approves = false) : Unapproved b := by
  refine (run.restrict unapproved).preserves ?_ (unapproved_initial init)
  intro s e t step sound
  exact unapproved_step step.1.1 step.1.2 step.2 sound

/-- Without approvals, and while the budget misses no guess of the last day, no
day holds more wrong guesses than the limit. -/
theorem daily_failures_limited {argon2 : Argon2} {a b : Account} {events : List Event}
    (init : Initial a) (run : Run (Run.Where (Step argon2) Covered) a events b)
    (unapproved : ∀ e ∈ events, e.approves = false) (start : Time) :
    (guesses b.db.log).countP (fun g =>
      start ≤ g.time && g.time ≤ start + loginChallengeRetentionMs) ≤
        loginChallengeSecurityCodeDailyFailures :=
  Chronicle.window_le (run_unapproved init run unapproved).db.limited start

def wrongGuess (id : ChallengeId) (k : DeviceKey) : List Event :=
  (Request.verifySecurityCodeFallback id (some k) false).run 4

/-- Six wrong guesses on two challenges of the day. -/
def sixGuesses : List Event :=
  (Request.login (fromDevice [2]) false 1).run 4 ++
    (List.replicate 5 (wrongGuess 0 [2])).flatten ++
    (Request.login (fromDevice [3]) false 1).run 4 ++ wrongGuess 1 [3]

/-- The first challenge is kept open by a recovery; a day later five wrong
guesses are made on it and five on each of two new ones. -/
def fifteenGuesses : List Event :=
  (Request.login (fromDevice [2]) false 1).run 4 ++ (Request.requestRecovery 0 (some [2])).run 3 ++
    .tick loginChallengeRetentionMs :: (List.replicate 5 (wrongGuess 0 [2])).flatten ++
    (Request.login (fromDevice [3]) false 1).run 4 ++
    (List.replicate 5 (wrongGuess 1 [3])).flatten ++
    (Request.login (fromDevice [4]) false 1).run 4 ++
    (List.replicate 5 (wrongGuess 2 [4])).flatten

theorem daily_failures_limited_six :
    (guesses (Account.oneDevice.play .plain sixGuesses).db.log).countP (fun g =>
      0 ≤ g.time && g.time ≤ 0 + loginChallengeRetentionMs) ≤
        loginChallengeSecurityCodeDailyFailures := by
  have along : Run.Along Covered (Account.after .plain) Account.oneDevice sixGuesses := by decide
  have follows : ∀ a e, Covered a e →
      Run.Where (Step .plain) Covered a e (a.after .plain e) := fun _ _ ok => ⟨rfl, ok⟩
  have run := Run.of_along follows along
  exact daily_failures_limited ⟨rfl, rfl, rfl, rfl⟩ run (by decide) 0

/-- Fifteen wrong guesses within one day. -/
theorem daily_failures_exceeded :
    ∃ (a : Account) (events : List Event) (b : Account), Initial a ∧
      Run (Step .plain) a events b ∧ (∀ e ∈ events, e.approves = false) ∧
      ∃ start, loginChallengeSecurityCodeDailyFailures <
        (guesses b.db.log).countP fun g =>
          start ≤ g.time && g.time < start + loginChallengeRetentionMs := by
  refine ⟨Account.oneDevice, fifteenGuesses, _, ⟨rfl, rfl, rfl, rfl⟩, run_play .plain _ fifteenGuesses,
    ?_, loginChallengeRetentionMs, ?_⟩
  · decide +kernel
  · decide +kernel

end CircleBackend.Challenge
