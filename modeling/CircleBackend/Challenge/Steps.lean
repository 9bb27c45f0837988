import CircleBackend.Challenge.Calls

/-!
# What one event can do

`step_moves` lists everything an event may do to an account; the invariants of
the later modules are case splits over it. The effect of an update on the rows
and on the log is stated once, row by row.
-/

namespace CircleBackend.Challenge

open Library
open Session (DeviceKey SessionContext)

theorem live_iff {r : LoginChallenge} :
    r.live = true ↔ r.status = .pending ∨ r.status = .approved := by
  simp [LoginChallenge.live]

theorem live_eq_false {r : LoginChallenge} :
    r.live = false ↔ r.status = .rejected ∨ r.status = .consumed := by
  cases h : r.status <;> simp [LoginChallenge.live, h]

namespace Update

theorem apply_cases (u : Update) (r : LoginChallenge) :
    (u.selects r = true ∧ u.apply r = u.set r) ∨ (u.selects r = false ∧ u.apply r = r) := by
  cases h : u.selects r <;> simp [apply, h]

@[simp] theorem apply_deviceKey (u : Update) (r : LoginChallenge) :
    (u.apply r).deviceKey = r.deviceKey := by
  unfold apply
  split <;> simp

variable {r : LoginChallenge} {u : Update}

/-- A device is let in, or a challenge shut, only while it is undecided. -/
theorem live_of_logsIn (kind : u.logsIn = true) (h : u.selects r = true) : r.live = true := by
  cases u <;> simp_all [logsIn, selects, live_iff]

theorem live_of_shuts (kind : u.shuts = true) (h : u.selects r = true) : r.live = true := by
  cases u <;> simp_all [shuts, selects, live_iff]

theorem consumed_of_releases (kind : u.releases = true)
    (h : u.selects r = true) : r.status = .consumed := by
  cases u <;> simp_all [releases, selects]

theorem set_status_logsIn (kind : u.logsIn = true) (r : LoginChallenge) :
    (u.set r).status = .consumed := by
  cases u <;> first | rfl | cases kind

theorem set_status_shuts (kind : u.shuts = true) (r : LoginChallenge) :
    (u.set r).status = .rejected := by
  cases u <;> first | rfl | cases kind

theorem set_status_releases (kind : u.releases = true) (r : LoginChallenge) :
    (u.set r).status = .pending := by
  cases u <;> first | rfl | cases kind

/-- Every other update leaves an undecided challenge undecided, and one that is
decided as it is. -/
theorem set_live_other (logs : u.logsIn = false)
    (shuts : u.shuts = false) (releases : u.releases = false) (h : u.selects r = true) :
    (u.set r).status = r.status ∨ r.live = true ∧ (u.set r).live = true := by
  cases u <;> simp_all [logsIn, Update.shuts, Update.releases, selects, set, live_iff]

end Update

namespace Db

/-- What `exec` adds to the log. -/
def entry (db : Db) (u : Update) : Entry := ⟨db.now, u, db.challenges.select u.selects⟩

@[simp] theorem exec_log (db : Db) (u : Update) : (db.exec u).log = db.entry u :: db.log := rfl
@[simp] theorem exec_now (db : Db) (u : Update) : (db.exec u).now = db.now := rfl
@[simp] theorem exec_nextId (db : Db) (u : Update) : (db.exec u).nextId = db.nextId := rfl
@[simp] theorem entry_update (db : Db) (u : Update) : (db.entry u).update = u := rfl

variable {db : Db}

variable {r : LoginChallenge} {u : Update} {id : ChallengeId}

theorem mem_exec : r ∈ (db.exec u).challenges.rows ↔ ∃ old ∈ db.challenges.rows, r = u.apply old :=
  Table.mem_updateMany db.challenges u.selects u.set u.set_id

theorem entry_hits_iff :
    (db.entry u).hits id = true ↔ ∃ r ∈ db.challenges.rows, r.id = id ∧ u.selects r = true := by
  simp only [Entry.hits, entry, List.any_eq_true, Table.mem_select, decide_eq_true_eq]
  constructor
  · rintro ⟨r, ⟨hr, hs⟩, hid⟩
    exact ⟨r, hr, hid, hs⟩
  · rintro ⟨r, hr, hid, hs⟩
    exact ⟨r, ⟨hr, hs⟩, hid⟩

/-- A row is hit when the update selects it. -/
theorem entry_hits (u : Update) (hr : r ∈ db.challenges.rows) :
    (db.entry u).hits r.id = u.selects r := by
  rw [Bool.eq_iff_iff, entry_hits_iff]
  constructor
  · rintro ⟨other, hother, hid, hs⟩
    exact db.challenges.row_unique hother hr hid ▸ hs
  · intro hs
    exact ⟨r, hr, rfl, hs⟩

/-- An update that counts one row hits the row it names. -/
theorem hits_of_count (names : ∀ r, u.selects r = true → r.id = id)
    (h : db.challenges.count u.selects = 1) : (db.entry u).hits id = true := by
  have positive : 0 < db.challenges.count u.selects := by omega
  obtain ⟨r, hr, hs⟩ := List.countP_pos_iff.mp positive
  exact Db.entry_hits_iff.mpr ⟨r, hr, names r hs, hs⟩

theorem findForDevice_mem {deviceKey : Option DeviceKey}
    (h : db.findForDevice id deviceKey = some r) :
    r ∈ db.challenges.rows ∧ r.id = id ∧ deviceKey = some r.deviceKey := by
  unfold Db.findForDevice at h
  split at h
  · cases h
  · rename_i k hk
    obtain ⟨found, device⟩ := Option.filter_eq_some_iff.mp h
    obtain ⟨given, _⟩ := Option.filter_eq_some_iff.mp hk
    obtain ⟨hr, hid⟩ := Table.find_eq_some.mp found
    simp only [decide_eq_true_eq] at device
    exact ⟨hr, hid, by rw [given, device]⟩

/-- The row `createChallenge` adds, and that it changes nothing else. -/
theorem created {created : Db} {k : DeviceKey} {context : SessionContext}
    (h : db.createChallenge k context = some created) :
    ∃ challenges, db.challenges.insert (db.newChallenge k context) = some challenges ∧
      created = { db with
        challenges := challenges
        nextId := db.nextId + 1 } := by
  simp only [createChallenge] at h
  split at h
  · cases h
  · obtain ⟨challenges, hins, rfl⟩ := Option.map_eq_some_iff.mp h
    exact ⟨challenges, hins, rfl⟩

/-- The row an approval writes and the salt it has drawn. -/
def approve (argon2 : Argon2) (db : Db) (id : ChallengeId) (now : Time) (code : JsString) : Db :=
  { db.exec (.approve id now code (argon2.hash db.salts (id, code))) with salts := db.salts + 1 }

end Db

namespace Account

@[simp] theorem follow_db (a : Account) (db : Db) (next : Next) : (a.follow db next).db = db := by
  cases next <;> rfl

@[simp] theorem follow_approvals (a : Account) (db : Db) (next : Next) :
    (a.follow db next).approvals = a.approvals := by
  cases next <;> rfl

theorem follow_holder {a : Account} {db : Db} {next : Next} {c : Call} :
    (a.follow db next).holder = some c ↔ next = .call c := by
  cases next <;> simp [follow]

end Account

/-- Which call runs which update, and where it goes on. -/
inductive Issues (argon2 : Argon2) (db : Db) : Call → Update → (Nat → Next) → Prop
  | cancelRecoveries (k : DeviceKey) :
    Issues argon2 db (.cancelRecoveries k) (.cancelRecoveries k db.now) fun _ => .reply .trusted
  | claim (id k context now) :
    Issues argon2 db (.claim id k context now) (.claimRecovery id k now) fun count =>
      if count = 1 then .call (.completeRecoveryLogin id k .revokeOtherDevices)
      else .call (.findReusable k context now)
  | reopen (read : LoginChallenge) (now : Time) (reply : Reply) :
    Issues argon2 db (.reopenIfCodeExpired read now) (.reopenIfCodeExpired read.id now) fun _ =>
      .reply reply
  | completing (id k) :
    Issues argon2 db (.completeRecoveryLogin id k .invalidateChallenges)
      (.invalidateChallenges (some id) db.now) fun _ => .call (.completeRecoveryLogin id k .trust)
  | release (id : ChallengeId) :
    Issues argon2 db (.releaseRecoveryClaim id) (.releaseRecoveryClaim id) fun _ =>
      .reply .completed
  | extend (id : ChallengeId) (deviceKey : Option DeviceKey) (now : Time) (reply : Reply) :
    Issues argon2 db (.extendForRecovery id deviceKey now) (.requestRecovery id deviceKey now)
      (Call.orElse (.reply reply) .challengeExpired)
  | reserve (id k codeHash now code attempts) :
    Issues argon2 db (.reserve id k codeHash now code attempts) (.reserve id codeHash now)
      (Call.orElse (.call (.compareCode id k codeHash now code attempts)) .challengeLocked)
  | consume (id k codeHash now code attempts)
      (verified : argon2.verify codeHash (id, code) = true) :
    Issues argon2 db (.compareCode id k codeHash now code attempts)
      (.consumeCode id codeHash now code)
      (Call.orElse (.call (.trust k (.verified id))) .challengeExpired)
  | consumeFallback (read : LoginChallenge) :
    Issues argon2 db (.compareSecurityCode read true) (.consumeFallback read.id)
      (Call.orElse (.call (.trust read.deviceKey (.verified read.id))) .challengeInvalid)
  | countFailure (read : LoginChallenge) (next : Nat → Reply) :
    Issues argon2 db (.compareSecurityCode read false) (.countFailure read) fun count =>
      .reply (next count)
  | reject (id : ChallengeId) :
    Issues argon2 db (.rejectTrusted id) (.reject id db.now) fun _ => .reply .completed
  | refresh (deviceKey context trustFails cancelFails) (k : DeviceKey) :
    Issues argon2 db (.refresh deviceKey context trustFails cancelFails)
      (.cancelRecoveries k db.now) fun _ => .reply .completed
  | invalidate :
    Issues argon2 db .invalidateChallenges (.invalidateChallenges none db.now) fun _ =>
      .reply .completed

variable {c : Call}

variable {argon2 : Argon2} {db : Db}

theorem issues_of_action {u : Update} {devices next}
    (h : c.action argon2 db = .update u devices next) : Issues argon2 db c u next := by
  cases c with
  | login context bypass liveSessions =>
    simp only [Call.action, Call.startLogin] at h
    grind
  | cancelRecoveries k =>
    cases h
    exact .cancelRecoveries k
  | claimMaturedRecovery => cases h
  | claim id k context now =>
    cases h
    exact .claim id k context now
  | findReusable => cases h
  | reopenIfCodeExpired read now =>
    simp only [Call.action] at h
    split at h
    · cases h
      exact .reopen read now _
    · cases h
  | createChallenge => cases h
  | completeRecoveryLogin id k stage =>
    cases stage with
    | revokeOtherDevices => cases h
    | invalidateChallenges =>
      cases h
      exact .completing id k
    | trust => cases h
  | releaseRecoveryClaim id =>
    cases h
    exact .release id
  | resend => cases h
  | resendLocked => cases h
  | requestRecovery => cases h
  | requestRecoveryLocked => cases h
  | extendForRecovery id deviceKey now =>
    cases h
    exact .extend id deviceKey now _
  | consumeWithCode => cases h
  | checkApproved => cases h
  | reserve id k codeHash now code attempts =>
    cases h
    exact .reserve id k codeHash now code attempts
  | compareCode id k codeHash now code attempts =>
    simp only [Call.action] at h
    split at h
    · rename_i verified
      cases h
      exact .consume id k codeHash now code attempts verified
    · cases h
  | verifySecurityCodeFallback => cases h
  | checkFallback => cases h
  | checkBudget => cases h
  | compareSecurityCode read correct =>
    cases correct with
    | true =>
      cases h
      exact .consumeFallback read
    | false =>
      simp only [Call.action, Bool.false_eq_true, ↓reduceIte] at h
      cases h
      simpa only [apply_ite Next.reply] using Issues.countFailure read fun count =>
        if count ≠ 1 || (db.find read.id).any Call.reachesLimit then .failed .challengeLocked
        else .wrong
  | trust => cases h
  | reject => cases h
  | rejectTrusted id =>
    cases h
    exact .reject id
  | refresh deviceKey context trustFails cancelFails =>
    simp only [Call.action] at h
    split at h
    · cases h
    · split at h
      all_goals
        split at h
        · cases h
          exact .refresh deviceKey context trustFails cancelFails _
        · cases h
  | revokeDevice => cases h
  | revokeOtherDevices => cases h
  | invalidateChallenges =>
    cases h
    exact .invalidate

/-- Where a call goes on after a read: what it has seen. -/
inductive Continues (db : Db) : Call → Call → Prop
  | cancelRecoveries (context bypass liveSessions) (k : DeviceKey) :
    Continues db (.login context bypass liveSessions) (.cancelRecoveries k)
  | unfamiliar (context bypass liveSessions) (k : DeviceKey) :
    Continues db (.login context bypass liveSessions) (.claimMaturedRecovery k context db.now)
  | matured {k now} (context) {r : LoginChallenge} (found : db.maturedRecovery k now = some r) :
    Continues db (.claimMaturedRecovery k context now) (.claim r.id k context now)
  | immature (k context now) :
    Continues db (.claimMaturedRecovery k context now) (.findReusable k context now)
  | reusable {k now} (context) {r : LoginChallenge} (found : db.reusable k now = some r) :
    Continues db (.findReusable k context now) (.reopenIfCodeExpired r now)
  | fresh (k context now) :
    Continues db (.findReusable k context now) (.createChallenge k context)
  | completing (id k) :
    Continues db (.completeRecoveryLogin id k .revokeOtherDevices)
      (.completeRecoveryLogin id k .invalidateChallenges)
  | resend {id deviceKey} {r : LoginChallenge} (found : db.findForDevice id deviceKey = some r) :
    Continues db (.resend id deviceKey) (.resendLocked r)
  | resendExpired (r : LoginChallenge) (context) :
    Continues db (.resendLocked r) (.createChallenge r.deviceKey context)
  | resendOpen (r : LoginChallenge) :
    Continues db (.resendLocked r) (.reopenIfCodeExpired r db.now)
  | requestRecovery {id deviceKey} {r : LoginChallenge}
      (found : db.findForDevice id deviceKey = some r) :
    Continues db (.requestRecovery id deviceKey) (.requestRecoveryLocked r deviceKey)
  | extend (r : LoginChallenge) (deviceKey) :
    Continues db (.requestRecoveryLocked r deviceKey) (.extendForRecovery r.id deviceKey db.now)
  | consumeWithCode {id deviceKey} {r : LoginChallenge} (code)
      (found : db.findForDevice id deviceKey = some r) :
    Continues db (.consumeWithCode id deviceKey code) (.checkApproved r code)
  | approved {r : LoginChallenge} {codeHash} (code) (issued : r.codeHash = some codeHash) :
    Continues db (.checkApproved r code)
      (.reserve r.id r.deviceKey codeHash db.now code r.attempts)
  | fallback {id deviceKey} {r : LoginChallenge} (correct)
      (found : db.findForDevice id deviceKey = some r) :
    Continues db (.verifySecurityCodeFallback id deviceKey correct) (.checkFallback r correct)
  | undecided {r : LoginChallenge} (correct) (unrefused : r.refusal db.now = none) :
    Continues db (.checkFallback r correct) (.checkBudget r correct)
  | budget {r : LoginChallenge} (correct)
      (left : db.recentFailures < loginChallengeSecurityCodeDailyFailures) :
    Continues db (.checkBudget r correct) (.compareSecurityCode r correct)
  | reject (approver id) : Continues db (.reject approver id) (.rejectTrusted id)
  | revokeDevice (k : DeviceKey) : Continues db (.revokeDevice k) .invalidateChallenges
  | revokeOtherDevices (keep) : Continues db (.revokeOtherDevices keep) .invalidateChallenges

theorem orElse_call {found : Next} {refusal : TrustError} {count : Nat}
    (h : Call.orElse found refusal count = .call c) : count = 1 ∧ found = .call c := by
  unfold Call.orElse at h
  split at h
  · exact ⟨‹_›, h⟩
  · cases h

theorem afterRead_next {id : ChallengeId} {deviceKey : Option DeviceKey}
    {next : LoginChallenge → Call} {devices}
    (h : Call.afterRead db id deviceKey next = .proceed devices (.call c)) :
    ∃ r, db.findForDevice id deviceKey = some r ∧ c = next r := by
  unfold Call.afterRead at h
  cases found : db.findForDevice id deviceKey with
  | none => simp [found] at h
  | some r =>
    simp only [found, Action.proceed.injEq, Next.call.injEq] at h
    exact ⟨r, rfl, h.2.symm⟩

theorem continues_of_action {c' : Call} {devices}
    (h : c.action argon2 db = .proceed devices (.call c')) : Continues db c c' := by
  cases c with
  | login context bypass liveSessions =>
    simp only [Call.action, Call.startLogin] at h
    split at h
    · split at h
      · cases h
      · split at h
        · cases h
        · cases h
    · split at h
      · cases h
        exact .cancelRecoveries context bypass liveSessions _
      · split at h
        · cases h
          exact .cancelRecoveries context bypass liveSessions _
        · split at h
          · cases h
            exact .cancelRecoveries context bypass liveSessions _
          · split at h
            · cases h
            · cases h
              exact .unfamiliar context bypass liveSessions _
  | claimMaturedRecovery k context now =>
    cases found : db.maturedRecovery k now with
    | none =>
      simp only [Call.action, found] at h
      cases h
      exact .immature k context now
    | some r =>
      simp only [Call.action, found] at h
      cases h
      exact .matured context found
  | findReusable k context now =>
    cases found : db.reusable k now with
    | none =>
      simp only [Call.action, found] at h
      cases h
      exact .fresh k context now
    | some r =>
      simp only [Call.action, found] at h
      cases h
      exact .reusable context found
  | reopenIfCodeExpired =>
    simp only [Call.action] at h
    split at h
    · cases h
    · cases h
  | completeRecoveryLogin id k stage =>
    cases stage with
    | revokeOtherDevices =>
      cases h
      exact .completing id k
    | invalidateChallenges => cases h
    | trust => cases h
  | resend id deviceKey =>
    obtain ⟨r, found, rfl⟩ := afterRead_next h
    exact .resend found
  | resendLocked r =>
    simp only [Call.action, Call.resendRead] at h
    split at h
    · cases h
    · split at h
      · cases h
        exact .resendExpired r _
      · cases h
        exact .resendOpen r
  | requestRecovery id deviceKey =>
    obtain ⟨r, found, rfl⟩ := afterRead_next h
    exact .requestRecovery found
  | requestRecoveryLocked r deviceKey =>
    simp only [Call.action, Call.requestRead] at h
    split at h
    · cases h
    · split at h
      · cases h
      · split at h
        · cases h
        · cases h
          exact .extend r deviceKey
  | consumeWithCode id deviceKey code =>
    obtain ⟨r, found, rfl⟩ := afterRead_next h
    exact .consumeWithCode code found
  | checkApproved r code =>
    simp only [Call.action, Call.approvedRead, Call.approvedRead.refused] at h
    split at h
    · cases h
    · split at h
      · cases h
      · split at h
        · cases h
        · split at h
          · rename_i issued
            obtain ⟨issued, _⟩ := Option.filter_eq_some_iff.mp issued
            split at h
            · cases h
              exact .approved code issued
            · split at h <;> cases h
          · split at h <;> cases h
  | compareCode =>
    simp only [Call.action] at h
    split at h
    · cases h
    · cases h
  | verifySecurityCodeFallback id deviceKey correct =>
    obtain ⟨r, found, rfl⟩ := afterRead_next h
    exact .fallback correct found
  | checkFallback r correct =>
    cases unrefused : r.refusal db.now with
    | none =>
      simp only [Call.action, unrefused] at h
      cases h
      exact .undecided correct unrefused
    | some e =>
      simp only [Call.action, unrefused] at h
      cases h
  | checkBudget r correct =>
    simp only [Call.action] at h
    split at h
    · cases h
    · rename_i left
      cases h
      exact .budget correct (by omega)
  | compareSecurityCode r correct => cases correct <;> cases h
  | reject approver id =>
    simp only [Call.action] at h
    split at h
    · cases h
      exact .reject approver id
    · cases h
  | refresh =>
    simp only [Call.action] at h
    split at h
    · cases h
    · split at h
      all_goals
        split at h
        · cases h
        · cases h
  | revokeDevice k =>
    cases h
    exact .revokeDevice k
  | revokeOtherDevices keep =>
    cases h
    exact .revokeOtherDevices keep
  | cancelRecoveries => cases h
  | claim => cases h
  | createChallenge => cases h
  | releaseRecoveryClaim => cases h
  | extendForRecovery => cases h
  | reserve => cases h
  | trust => cases h
  | rejectTrusted => cases h
  | invalidateChallenges => cases h

/-- Everything an event may do. -/
inductive Moves (argon2 : Argon2) (a : Account) : Event → Account → Prop
  | idle (e : Event) : Moves argon2 a e a
  | tick (ms : Nat) :
    Moves argon2 a (.tick ms) { a with db := { a.db with now := a.db.now + ms } }
  | request (r : Request) (free : a.holder = none) :
    Moves argon2 a (.request r) { a with holder := some r.call }
  | proceed {c : Call} {devices next} (held : a.holder = some c)
      (act : c.action argon2 a.db = .proceed devices next) :
    Moves argon2 a .advance (a.follow { a.db with trustedDevices := devices } next)
  | update {c : Call} {u : Update} {devices next} (held : a.holder = some c)
      (act : c.action argon2 a.db = .update u devices next) :
    Moves argon2 a .advance (a.follow { a.db.exec u with trustedDevices := devices }
      (next (a.db.challenges.count u.selects)))
  | refused {c : Call} (held : a.holder = some c) :
    Moves argon2 a .advance (a.follow a.db (.reply (.failed .rateLimited)))
  | insert {c : Call} {k context db} (held : a.holder = some c)
      (act : c.action argon2 a.db = .insert k context)
      (created : a.db.createChallenge k context = some db) :
    Moves argon2 a .advance (a.follow db (.reply .created))
  | throw {c : Call} (held : a.holder = some c) : Moves argon2 a .throw (a.follow a.db c.thrown)
  | approving (approver : Option DeviceKey) (id : ChallengeId) (approvals replies) :
    Moves argon2 a (.approve approver id) { a with approvals := approvals, replies := replies }
  | found {i : Nat} (drawn : Fin 1000000) {id : ChallengeId} (approvals replies)
      (flight : a.approvals[i]? = some (.trusted id)) :
    Moves argon2 a (.approveNext i drawn) { a with approvals := approvals, replies := replies }
  | approve {i : Nat} (drawn : Fin 1000000) {id : ChallengeId} {now : Time} (approvals replies)
      (flight : a.approvals[i]? = some (.found id now)) :
    Moves argon2 a (.approveNext i drawn)
      { a with
        db := a.db.approve argon2 id now (sixDigits drawn)
        approvals := approvals
        replies := replies }
  | cleanup (reading : Time) (candidates : Option (List ChallengeId)) :
    Moves argon2 a (.cleanup reading candidates)
      { a with db := a.db.cleanup (min reading a.db.now) candidates }

theorem step_moves {a b : Account} {e : Event} (h : Step argon2 a e b) : Moves argon2 a e b := by
  subst h
  have idle : Moves argon2 a e a := .idle e
  cases e with
  | tick ms => exact .tick ms
  | request r =>
    cases held : a.holder with
    | none => simpa [Account.after, held] using Moves.request r held
    | some c => simpa [Account.after, held] using idle
  | advance =>
    cases held : a.holder with
    | none => simpa [Account.after, held] using idle
    | some c =>
      simp only [Account.after, held, Account.advance]
      cases act : c.action argon2 a.db with
      | proceed devices next => exact .proceed held act
      | update u devices next => exact .update held act
      | insert k context =>
        dsimp only
        cases created : a.db.createChallenge k context with
        | none => exact .refused held
        | some db => exact .insert held act created
  | throw =>
    cases held : a.holder with
    | none => simpa [Account.after, held] using idle
    | some c => simpa [Account.after, held] using Moves.throw held
  | approve approver id =>
    simp only [Account.after]
    split
    · exact .approving approver id _ _
    · exact .approving approver id _ _
  | approveNext i drawn =>
    cases flight : a.approvals[i]? with
    | none => simpa [Account.after, flight] using idle
    | some approval =>
      cases approval with
      | trusted id =>
        simp only [Account.after, flight, Account.approveNext]
        split
        · exact .found drawn _ _ flight
        · exact .found drawn _ _ flight
      | found id now =>
        simp only [Account.after, flight, Account.approveNext]
        exact .approve drawn _ _ flight
  | cleanup reading candidates => exact .cleanup reading candidates

end CircleBackend.Challenge
