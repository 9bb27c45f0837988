import CircleBackend.Challenge.Steps
import CircleBackend.Library.Chronicle

/-!
# One login per challenge

Each row is read together with the log: how often it was entered and released,
what approved the code it holds, whether it was shut. `Inv` says what the rows
and the log have to do with each other, `HolderOk` what the call under the lock
has seen, and `EntryOk` what each entry met when it was added.
-/

namespace CircleBackend.Challenge

open Library
open Session (DeviceKey SessionContext)

/-- How often a login succeeded on a challenge. -/
def logins (log : List Entry) (id : ChallengeId) : Nat :=
  log.countP fun e => e.update.logsIn && e.hits id

/-- How often a claimed recovery of a challenge was released. -/
def releases (log : List Entry) (id : ChallengeId) : Nat :=
  log.countP fun e => e.update.releases && e.hits id

/-- The newest entry that changed a challenge. -/
def lastHit (log : List Entry) (id : ChallengeId) : Option Entry := log.find? (·.hits id)

/-- The newest approval of a challenge. -/
def lastApproval (log : List Entry) (id : ChallengeId) : Option Entry :=
  log.find? fun e => e.update.approves && e.hits id

/-- The newest change to the challenge is that its recovery was claimed. -/
def Claimed (log : List Entry) (id : ChallengeId) : Prop :=
  ∃ e k now, lastHit log id = some e ∧ e.update = .claimRecovery id k now

/-- The newest approval of the challenge issued this code at this time. -/
def Issued (log : List Entry) (id : ChallengeId) (code codeHash : JsString) (now : Time) : Prop :=
  ∃ e, lastApproval log id = some e ∧ e.update = .approve id now code codeHash

/-- What holds of an entry on the log it was added to. -/
structure EntryOk (e : Entry) (older : List Entry) : Prop where
  code : ∀ id codeHash now code, e.update = .consumeCode id codeHash now code →
    e.hits id = true →
      ∃ issued, Issued older id code codeHash issued ∧ now < issued + loginChallengeCodeTtlMs
  released : ∀ id, e.update = .releaseRecoveryClaim id → e.hits id = true → Claimed older id
  shut : ∀ id, e.update.logsIn = true → e.hits id = true →
    ∀ s ∈ older, s.update.shuts = true → s.hits id = false

/-- A hash made with a salt already drawn. -/
def Salted (argon2 : Argon2) (salts : Nat) (codeHash : JsString) : Prop :=
  ∃ salt < salts, ∃ text, codeHash = argon2.hash salt text

structure RowOk (argon2 : Argon2) (log : List Entry) (salts : Nat) (r : LoginChallenge) :
    Prop where
  nonneg : 0 ≤ r.attempts
  limit : r.attempts ≤ loginChallengeMaxAttempts
  code : ∀ codeHash, r.codeHash = some codeHash → ∃ salt < salts, ∃ code now,
    codeHash = argon2.hash salt (r.id, code) ∧
      r.codeExpiresAt = some (now + loginChallengeCodeTtlMs) ∧ Issued log r.id code codeHash now
  logins : logins log r.id = releases log r.id + if r.status = .consumed then 1 else 0
  shut : ∀ s ∈ log, s.update.shuts = true → s.hits r.id = true → r.status = .rejected
  claimed : Claimed log r.id → r.status = .consumed

structure Inv (argon2 : Argon2) (db : Db) : Prop where
  ids : ∀ r ∈ db.challenges.rows, r.id < db.nextId
  hits : ∀ e ∈ db.log, ∀ id, e.hits id = true → id < db.nextId
  rows : ∀ r ∈ db.challenges.rows, RowOk argon2 db.log db.salts r
  logins : ∀ id, logins db.log id ≤ releases db.log id + 1
  log : Chronicle EntryOk db.log

/-- What the call under the lock has seen. -/
def HolderOk (argon2 : Argon2) (db : Db) : Call → Prop
  | .checkApproved read _ =>
    ∀ codeHash, read.codeHash = some codeHash → Salted argon2 db.salts codeHash
  | .reserve _ _ codeHash _ _ _ => Salted argon2 db.salts codeHash
  | .compareCode id _ codeHash _ _ _ =>
    Salted argon2 db.salts codeHash ∧
      ∀ r ∈ db.challenges.rows, r.id = id → r.codeHash = some codeHash → 1 ≤ r.attempts
  | .completeRecoveryLogin id _ _ | .releaseRecoveryClaim id => Claimed db.log id
  | _ => True

/-- What a call must have established before it runs an update. -/
def Permitted (argon2 : Argon2) (db : Db) : Update → Prop
  | .approve .. => False
  | .consumeCode id codeHash _ code =>
    argon2.verify codeHash (id, code) = true ∧
      ∀ r ∈ db.challenges.rows, r.id = id → r.codeHash = some codeHash → 1 ≤ r.attempts
  | .releaseRecoveryClaim id => Claimed db.log id
  | _ => True

theorem Update.status_cases (u : Update) (r : LoginChallenge) :
    (u.selects r = false ∧ u.apply r = r) ∨
    (u.selects r = true ∧ u.logsIn = true ∧ u.releases = false ∧ r.live = true ∧
      (u.apply r).status = .consumed) ∨
    (u.selects r = true ∧ u.shuts = true ∧ u.logsIn = false ∧ u.releases = false ∧
      r.live = true ∧ (u.apply r).status = .rejected) ∨
    (u.selects r = true ∧ u.releases = true ∧ u.logsIn = false ∧ u.shuts = false ∧
      r.status = .consumed ∧ (u.apply r).status = .pending) ∨
    (u.selects r = true ∧ u.logsIn = false ∧ u.shuts = false ∧ u.releases = false ∧
      ((u.apply r).status = r.status ∨ r.live = true ∧ (u.apply r).live = true)) := by
  obtain ⟨hs, happ⟩ | ⟨hs, happ⟩ := u.apply_cases r
  · rw [happ]
    cases logs : u.logsIn with
    | true =>
      have live := live_of_logsIn logs hs
      have status := set_status_logsIn logs r
      have apart : u.releases = false := by cases u <;> first | rfl | cases logs
      simp [hs, live, status, apart]
    | false =>
      cases shuts : u.shuts with
      | true =>
        have live := live_of_shuts shuts hs
        have status := set_status_shuts shuts r
        have apart : u.releases = false := by cases u <;> first | rfl | cases shuts
        simp [hs, live, status, apart]
      | false =>
        cases rel : u.releases with
        | true =>
          have consumed := consumed_of_releases rel hs
          have status := set_status_releases rel r
          simp [hs, consumed, status]
        | false =>
          have other := set_live_other logs shuts rel hs
          simp [hs, other]
  · exact Or.inl ⟨hs, happ⟩

/-! ## Reading the log after one more update -/

section
variable {db : Db} (u : Update) {r : LoginChallenge}

theorem logins_exec (hr : r ∈ db.challenges.rows) :
    logins (db.exec u).log r.id = logins db.log r.id + if u.logsIn && u.selects r then 1 else 0 := by
  simp only [logins, Db.exec_log, List.countP_cons, Db.entry_update, Db.entry_hits u hr]

theorem releases_exec (hr : r ∈ db.challenges.rows) :
    releases (db.exec u).log r.id =
      releases db.log r.id + if u.releases && u.selects r then 1 else 0 := by
  simp only [releases, Db.exec_log, List.countP_cons, Db.entry_update, Db.entry_hits u hr]

theorem lastHit_exec (hr : r ∈ db.challenges.rows) :
    lastHit (db.exec u).log r.id = if u.selects r then some (db.entry u) else lastHit db.log r.id := by
  simp only [lastHit, Db.exec_log, List.find?_cons, Db.entry_hits u hr]
  cases u.selects r <;> rfl

theorem lastApproval_exec (hr : r ∈ db.challenges.rows) :
    lastApproval (db.exec u).log r.id =
      if u.approves && u.selects r then some (db.entry u) else lastApproval db.log r.id := by
  simp only [lastApproval, Db.exec_log, List.find?_cons, Db.entry_update, Db.entry_hits u hr]
  cases u.approves && u.selects r <;> rfl

theorem not_hits_exec {id : ChallengeId} (absent : ∀ r ∈ db.challenges.rows, r.id ≠ id) :
    (db.entry u).hits id = false := by
  cases h : (db.entry u).hits id with
  | false => rfl
  | true =>
    obtain ⟨r, hr, hid, _⟩ := Db.entry_hits_iff.mp h
    exact absurd hid (absent r hr)

end

/-! ## The rows after one more update -/

variable {r : LoginChallenge} {u : Update} {argon2 : Argon2} {db : Db} {code : JsString}
variable {now : Time} {id : ChallengeId} {c : Call} {a : Account}

/-- An update that is not an approval leaves no new code behind. -/
theorem apply_codeHash (approves : u.approves = false)
    {codeHash : JsString} (h : (u.apply r).codeHash = some codeHash) :
    r.codeHash = some codeHash ∧ (u.apply r).codeExpiresAt = r.codeExpiresAt := by
  obtain ⟨_, happ⟩ | ⟨_, happ⟩ := u.apply_cases r
  · rw [happ] at h ⊢
    cases u <;> simp_all [Update.set, Update.approves]
  · rw [happ] at h ⊢
    exact ⟨h, rfl⟩

theorem apply_attempts
    (hr : r ∈ db.challenges.rows) (permitted : u.approves = true ∨ Permitted argon2 db u)
    (low : 0 ≤ r.attempts) (high : r.attempts ≤ loginChallengeMaxAttempts) :
    0 ≤ (u.apply r).attempts ∧ (u.apply r).attempts ≤ loginChallengeMaxAttempts := by
  obtain ⟨hs, happ⟩ | ⟨_, happ⟩ := u.apply_cases r
  · rw [happ]
    cases u with
    | approve => simp [Update.set]
    | reserve id codeHash now =>
      simp only [Update.selects, Bool.and_eq_true, decide_eq_true_eq] at hs
      simp only [Update.set]
      omega
    | countFailure read =>
      simp only [Update.selects, Bool.and_eq_true, decide_eq_true_eq] at hs
      simp only [Update.set]
      omega
    | consumeCode id codeHash now code =>
      obtain h | ⟨_, counted⟩ := permitted
      · cases h
      · simp only [Update.selects, Bool.and_eq_true, decide_eq_true_eq] at hs
        have reserved := counted r hr hs.1.1.1.1 hs.1.1.2
        simp only [Update.set]
        omega
    | reject | reopenIfCodeExpired | requestRecovery | consumeFallback | claimRecovery
      | releaseRecoveryClaim | cancelRecoveries | invalidateChallenges => exact ⟨low, high⟩
  · rw [happ]
    exact ⟨low, high⟩

theorem apply_logins (hr : r ∈ db.challenges.rows) (ok : RowOk argon2 db.log db.salts r) :
    logins (db.exec u).log r.id =
      releases (db.exec u).log r.id + if (u.apply r).status = .consumed then 1 else 0 := by
  have before := ok.logins
  rw [logins_exec u hr, releases_exec u hr]
  obtain ⟨hs, happ⟩ | ⟨hs, logs, rel, live, status⟩ | ⟨hs, _, logs, rel, live, status⟩ |
    ⟨hs, rel, logs, _, consumed, status⟩ | ⟨hs, logs, _, rel, status⟩ := u.status_cases r
  · simpa [hs, happ] using before
  · have undecided : r.status ≠ .consumed := by
      intro h
      simp [live_iff, h] at live
    simpa [hs, logs, rel, status, undecided] using before
  · have undecided : r.status ≠ .consumed := by
      intro h
      simp [live_iff, h] at live
    simpa [hs, logs, rel, status, undecided] using before
  · simpa [hs, logs, rel, status, consumed] using before
  · have same : (u.apply r).status = .consumed ↔ r.status = .consumed := by
      obtain same | ⟨live, live'⟩ := status
      · rw [same]
      · rw [live_iff] at live live'
        constructor
        · intro h
          simp [h] at live'
        · intro h
          simp [h] at live
    simpa [hs, logs, rel, same] using before

theorem apply_shut (hr : r ∈ db.challenges.rows)
    (before : ∀ s ∈ db.log, s.update.shuts = true → s.hits r.id = true → r.status = .rejected) :
    ∀ s ∈ (db.exec u).log, s.update.shuts = true → s.hits r.id = true →
      (u.apply r).status = .rejected := by
  intro s hs shuts hits
  rw [Db.exec_log] at hs
  obtain rfl | hs := List.mem_cons.mp hs
  · rw [Db.entry_hits u hr] at hits
    obtain ⟨_, happ⟩ | ⟨hn, _⟩ := u.apply_cases r
    · rw [happ]
      exact Update.set_status_shuts shuts r
    · simp [hn] at hits
  · have rejected := before s hs shuts hits
    have decided : r.live = false := live_eq_false.mpr (Or.inl rejected)
    obtain ⟨_, happ⟩ | ⟨_, _, _, live, _⟩ | ⟨_, _, _, _, live, _⟩ | ⟨_, _, _, _, consumed, _⟩ |
      ⟨_, _, _, _, status⟩ := u.status_cases r
    · rw [happ]
      exact rejected
    · simp [decided] at live
    · simp [decided] at live
    · simp [rejected] at consumed
    · obtain same | ⟨live, _⟩ := status
      · rw [same]
        exact rejected
      · simp [decided] at live

theorem apply_claimed (hr : r ∈ db.challenges.rows)
    (before : Claimed db.log r.id → r.status = .consumed) :
    Claimed (db.exec u).log r.id → (u.apply r).status = .consumed := by
  rintro ⟨e, k, now, newest, claim⟩
  rw [lastHit_exec u hr] at newest
  obtain ⟨hs, happ⟩ | ⟨hn, happ⟩ := u.apply_cases r
  · simp only [hs, ↓reduceIte, Option.some.injEq] at newest
    subst newest
    rw [Db.entry_update] at claim
    subst claim
    rw [happ]
    rfl
  · simp only [hn, Bool.false_eq_true, ↓reduceIte] at newest
    rw [happ]
    exact before ⟨e, k, now, newest, claim⟩

theorem issued_exec (hr : r ∈ db.challenges.rows) (other : (u.approves && u.selects r) = false)
    {codeHash : JsString} (h : Issued db.log r.id code codeHash now) :
    Issued (db.exec u).log r.id code codeHash now := by
  obtain ⟨e, newest, approves⟩ := h
  refine ⟨e, ?_, approves⟩
  rw [lastApproval_exec u hr, other]
  exact newest

theorem rowOk_exec (hr : r ∈ db.challenges.rows) (permitted : Permitted argon2 db u)
    (ok : RowOk argon2 db.log db.salts r) : RowOk argon2 (db.exec u).log db.salts (u.apply r) := by
  have other : u.approves = false := by cases u <;> first | rfl | exact permitted.elim
  have attempts := apply_attempts hr (Or.inr permitted) ok.nonneg ok.limit
  refine ⟨attempts.1, attempts.2, ?_, ?_, ?_, ?_⟩
  · intro codeHash h
    obtain ⟨held, expires⟩ := apply_codeHash other h
    obtain ⟨salt, drawn, code, now, hashed, lasts, issued⟩ := ok.code codeHash held
    have issued := issued_exec hr (u := u) (by simp [other]) issued
    exact ⟨salt, drawn, code, now, by simpa using hashed, expires.trans lasts, by simpa using issued⟩
  · rw [Update.apply_id]
    exact apply_logins hr ok
  · rw [Update.apply_id]
    exact apply_shut hr ok.shut
  · rw [Update.apply_id]
    exact apply_claimed hr ok.claimed

theorem rowOk_approve (hr : r ∈ db.challenges.rows) (ok : RowOk argon2 db.log db.salts r) :
    RowOk argon2 (db.approve argon2 id now code).log (db.salts + 1)
      ((Update.approve id now code (argon2.hash db.salts (id, code))).apply r) := by
  let u := Update.approve id now code (argon2.hash db.salts (id, code))
  change RowOk argon2 (db.exec u).log (db.salts + 1) (u.apply r)
  have may : u.approves = true ∨ Permitted argon2 db u := Or.inl rfl
  have attempts := apply_attempts hr may ok.nonneg ok.limit
  refine ⟨attempts.1, attempts.2, ?_, ?_, ?_, ?_⟩
  · intro codeHash h
    rw [Update.apply_id]
    obtain ⟨hs, happ⟩ | ⟨hn, happ⟩ := u.apply_cases r
    · rw [happ] at h ⊢
      cases h
      have same : r.id = id := by
        simp only [u, Update.selects, Bool.and_eq_true, decide_eq_true_eq] at hs
        exact hs.1.1
      refine ⟨db.salts, Nat.lt_succ_self _, code, now, by rw [same], rfl, db.entry u, ?_, ?_⟩
      · rw [lastApproval_exec u hr, hs]
        rfl
      · rw [Db.entry_update, same]
    · rw [happ] at h ⊢
      obtain ⟨salt, drawn, code', now', hashed, lasts, issued⟩ := ok.code codeHash h
      have issued := issued_exec hr (u := u) (by simp [hn]) issued
      exact ⟨salt, Nat.lt_succ_of_lt drawn, code', now', hashed, lasts, issued⟩
  · rw [Update.apply_id]
    exact apply_logins hr ok
  · rw [Update.apply_id]
    exact apply_shut hr ok.shut
  · rw [Update.apply_id]
    exact apply_claimed hr ok.claimed

/-! ## The invariant -/

theorem logins_bound_exec
    (rows : ∀ r ∈ db.challenges.rows, logins (db.exec u).log r.id ≤ releases (db.exec u).log r.id + 1)
    (before : ∀ id, logins db.log id ≤ releases db.log id + 1) (id : ChallengeId) :
    logins (db.exec u).log id ≤ releases (db.exec u).log id + 1 := by
  by_cases present : ∃ r ∈ db.challenges.rows, r.id = id
  · obtain ⟨r, hr, rfl⟩ := present
    exact rows r hr
  · have missed : (db.entry u).hits id = false :=
      not_hits_exec u fun r hr hid => present ⟨r, hr, hid⟩
    have bound := before id
    simpa [logins, releases, missed] using bound

theorem hits_exec {n : Nat} (ids : ∀ r ∈ db.challenges.rows, r.id < n)
    (before : ∀ e ∈ db.log, ∀ id, e.hits id = true → id < n) :
    ∀ e ∈ (db.exec u).log, ∀ id, e.hits id = true → id < n := by
  intro e he id hits
  rw [Db.exec_log] at he
  obtain rfl | he := List.mem_cons.mp he
  · obtain ⟨r, hr, rfl, _⟩ := Db.entry_hits_iff.mp hits
    exact ids r hr
  · exact before e he id hits

/-- What an update meets when a call that may run it does. -/
theorem entryOk_exec (lawful : argon2.Lawful) (inv : Inv argon2 db)
    (permitted : u.approves = true ∨ Permitted argon2 db u) : EntryOk (db.entry u) db.log := by
  refine ⟨?_, ?_, ?_⟩
  · intro id codeHash now code update hits
    obtain ⟨r, hr, rfl, hs⟩ := Db.entry_hits_iff.mp hits
    rw [Db.entry_update] at update
    subst update
    obtain h | ⟨verified, _⟩ := permitted
    · cases h
    · simp only [Update.selects, Bool.and_eq_true, decide_eq_true_eq] at hs
      obtain ⟨salt, _, code', issued, rfl, lasts, approved⟩ := (inv.rows r hr).code codeHash hs.1.1.2
      have same : code' = code := congrArg Prod.snd ((lawful.verify_hash _ _ _).mp verified)
      have inTime : now < issued + loginChallengeCodeTtlMs := by
        have expires := hs.1.2
        rw [lasts] at expires
        simpa using expires
      exact ⟨issued, same ▸ approved, inTime⟩
  · intro id update hits
    rw [Db.entry_update] at update
    subst update
    obtain h | claimed := permitted
    · cases h
    · exact claimed
  · intro id logs hits s hs shuts
    obtain ⟨r, hr, rfl, selected⟩ := Db.entry_hits_iff.mp hits
    have live := Update.live_of_logsIn logs selected
    cases h : s.hits r.id with
    | false => rfl
    | true =>
      have rejected := (inv.rows r hr).shut s hs shuts h
      simp [live_iff, rejected] at live

/-- An update keeps the invariant when it keeps every row and met what it must. -/
theorem inv_updated {salts : Nat} (inv : Inv argon2 db) (met : EntryOk (db.entry u) db.log)
    (rows : ∀ r ∈ db.challenges.rows, RowOk argon2 (db.exec u).log salts (u.apply r)) :
    Inv argon2 { db.exec u with salts := salts } := by
  refine ⟨?_, hits_exec inv.ids inv.hits, ?_, ?_, .cons met inv.log⟩
  · intro r hr
    obtain ⟨old, hold, rfl⟩ := Db.mem_exec.mp hr
    rw [Update.apply_id]
    exact inv.ids old hold
  · intro r hr
    obtain ⟨old, hold, rfl⟩ := Db.mem_exec.mp hr
    exact rows old hold
  · apply logins_bound_exec _ inv.logins
    intro r hr
    have counted := (rows r hr).logins
    rw [Update.apply_id] at counted
    split at counted <;> omega

theorem inv_exec (lawful : argon2.Lawful)
    (inv : Inv argon2 db) (permitted : Permitted argon2 db u) : Inv argon2 (db.exec u) :=
  inv_updated inv (entryOk_exec lawful inv (Or.inr permitted)) fun r hr =>
    rowOk_exec hr permitted (inv.rows r hr)

theorem inv_approve (lawful : argon2.Lawful) (inv : Inv argon2 db) :
    Inv argon2 (db.approve argon2 id now code) :=
  inv_updated inv (entryOk_exec lawful inv (Or.inl rfl)) fun r hr => rowOk_approve hr (inv.rows r hr)

theorem rowOk_new (inv : Inv argon2 db) (k : DeviceKey)
    (context : SessionContext) : RowOk argon2 db.log db.salts (db.newChallenge k context) := by
  have unused : ∀ e ∈ db.log, e.hits db.nextId = false := by
    intro e he
    cases h : e.hits db.nextId with
    | false => rfl
    | true => exact absurd (inv.hits e he _ h) (Nat.lt_irrefl _)
  have noLogin : logins db.log db.nextId = 0 :=
    List.countP_eq_zero.mpr fun e he => by simp [unused e he]
  have noRelease : releases db.log db.nextId = 0 :=
    List.countP_eq_zero.mpr fun e he => by simp [unused e he]
  refine ⟨Int.le_refl 0, Int.natCast_nonneg _, nofun, ?_, ?_, ?_⟩
  · simp [Db.newChallenge, noLogin, noRelease]
  · intro s hs _ hits
    simp [Db.newChallenge, unused s hs] at hits
  · rintro ⟨e, _, _, newest, _⟩
    have hits := List.find?_some newest
    simp [Db.newChallenge, unused e (List.mem_of_find?_eq_some newest)] at hits

theorem inv_created {created : Db} {k : DeviceKey} {context : SessionContext} (inv : Inv argon2 db)
    (h : db.createChallenge k context = some created) : Inv argon2 created := by
  obtain ⟨challenges, inserted, rfl⟩ := Db.created h
  refine ⟨?_, ?_, ?_, inv.logins, inv.log⟩
  · intro r hr
    obtain hr | rfl := (Table.mem_insert inserted).mp hr
    · exact Nat.lt_succ_of_lt (inv.ids r hr)
    · exact Nat.lt_succ_self _
  · intro e he id hits
    exact Nat.lt_succ_of_lt (inv.hits e he id hits)
  · intro r hr
    obtain hr | rfl := (Table.mem_insert inserted).mp hr
    · exact inv.rows r hr
    · exact rowOk_new inv k context

theorem inv_cleanup (inv : Inv argon2 db) (reading : Time)
    (candidates : Option (List ChallengeId)) : Inv argon2 (db.cleanup reading candidates) := by
  refine ⟨?_, inv.hits, ?_, inv.logins, inv.log⟩
  · intro r hr
    exact inv.ids r (Table.mem_deleteMany.mp hr).1
  · intro r hr
    exact inv.rows r (Table.mem_deleteMany.mp hr).1

/-! ## The call under the lock -/

theorem permitted_of_issues {next}
    (issues : Issues argon2 db c u next) (seen : HolderOk argon2 db c) : Permitted argon2 db u := by
  cases issues with
  | consume id k codeHash now code attempts verified => exact ⟨verified, seen.2⟩
  | release => exact seen
  | cancelRecoveries | claim | reopen | completing | extend | reserve | consumeFallback
    | countFailure | reject | refresh | invalidate => trivial

theorem claimed_exec (inv : Inv argon2 db) (needs : ∀ r, u.selects r = true → r.live = true)
    (claimed : Claimed db.log id) : Claimed (db.exec u).log id := by
  obtain ⟨e, k, now, newest, claim⟩ := claimed
  have missed : (db.entry u).hits id = false := by
    cases h : (db.entry u).hits id with
    | false => rfl
    | true =>
      obtain ⟨r, hr, rfl, hs⟩ := Db.entry_hits_iff.mp h
      have consumed := (inv.rows r hr).claimed ⟨e, k, now, newest, claim⟩
      have live := needs r hs
      simp [live_iff, consumed] at live
  refine ⟨e, k, now, ?_, claim⟩
  simp only [lastHit, Db.exec_log, List.find?_cons, missed]
  exact newest

theorem holderOk_approve (lawful : argon2.Lawful) (inv : Inv argon2 db)
    (seen : HolderOk argon2 db c) : HolderOk argon2 (db.approve argon2 id now code) c := by
  have salted : ∀ h, Salted argon2 db.salts h → Salted argon2 (db.salts + 1) h := by
    rintro h ⟨salt, drawn, text, hashed⟩
    exact ⟨salt, Nat.lt_succ_of_lt drawn, text, hashed⟩
  have claimed : ∀ claim, Claimed db.log claim →
      Claimed (db.approve argon2 id now code).log claim := by
    intro claim hc
    apply claimed_exec inv _ hc
    intro r hs
    simp only [Update.selects, Bool.and_eq_true] at hs
    exact hs.1.2
  cases c with
  | checkApproved read _ => exact fun h held => salted h (seen h held)
  | reserve => exact salted _ seen
  | compareCode other k codeHash now' code' attempts =>
    refine ⟨salted _ seen.1, ?_⟩
    intro r hr same held
    obtain ⟨old, hold, rfl⟩ := Db.mem_exec.mp hr
    rw [Update.apply_id] at same
    obtain ⟨_, happ⟩ | ⟨_, happ⟩ := Update.apply_cases _ old
    · -- The approval drew a new salt, so it cannot have written this hash again.
      rw [happ] at held
      obtain ⟨salt, drawn, text, rfl⟩ := seen.1
      have reused := lawful.salted _ _ _ _ (Option.some.inj held)
      omega
    · rw [happ] at held ⊢
      exact seen.2 old hold same held
  | completeRecoveryLogin => exact claimed _ seen
  | releaseRecoveryClaim => exact claimed _ seen
  | _ => trivial

theorem holderOk_cleanup (reading : Time) (candidates : Option (List ChallengeId))
    (seen : HolderOk argon2 db c) : HolderOk argon2 (db.cleanup reading candidates) c := by
  cases c with
  | compareCode =>
    refine ⟨seen.1, ?_⟩
    intro r hr
    exact seen.2 r (Table.mem_deleteMany.mp hr).1
  | _ => exact seen

theorem salted_row (inv : Inv argon2 db) (hr : r ∈ db.challenges.rows) {codeHash : JsString}
    (held : r.codeHash = some codeHash) : Salted argon2 db.salts codeHash := by
  obtain ⟨salt, drawn, code, _, hashed, _⟩ := (inv.rows r hr).code codeHash held
  exact ⟨salt, drawn, _, hashed⟩

theorem holderOk_continues (inv : Inv argon2 db) {c' : Call}
    (h : Continues db c c') (seen : HolderOk argon2 db c) : HolderOk argon2 db c' := by
  cases h with
  | consumeWithCode code found => exact fun h held => salted_row inv (Db.findForDevice_mem found).1 held
  | approved code issued => exact seen _ issued
  | completing => exact seen
  | cancelRecoveries | unfamiliar | matured | immature | reusable | fresh | resend | resendExpired
    | resendOpen | requestRecovery | extend | fallback | undecided | budget | reject | revokeDevice
    | revokeOtherDevices => trivial

theorem holderOk_issues (inv : Inv argon2 db) {c' : Call}
    {next} (issues : Issues argon2 db c u next) (seen : HolderOk argon2 db c)
    (goes : next (db.challenges.count u.selects) = .call c') : HolderOk argon2 (db.exec u) c' := by
  cases issues with
  | claim id k context now =>
    dsimp only at goes
    split at goes
    · rename_i one
      cases goes
      have hit : (db.entry (.claimRecovery id k now)).hits id = true := by
        apply Db.hits_of_count _ one
        intro r hs
        simp only [Update.selects, Bool.and_eq_true, decide_eq_true_eq] at hs
        exact hs.1.1.1
      refine ⟨db.entry (.claimRecovery id k now), k, now, ?_, rfl⟩
      simp only [lastHit, Db.exec_log, List.find?_cons, hit]
    · cases goes
      trivial
  | completing id k =>
    cases goes
    refine claimed_exec inv ?_ seen
    exact fun r hs => hs
  | reserve id k codeHash now code attempts =>
    obtain ⟨one, goes⟩ := orElse_call goes
    cases goes
    refine ⟨seen, ?_⟩
    intro r hr same held
    obtain ⟨old, hold, rfl⟩ := Db.mem_exec.mp hr
    have low := (inv.rows old hold).nonneg
    rw [Update.apply_id] at same
    have hit : (db.entry (.reserve id codeHash now)).hits id = true := by
      apply Db.hits_of_count _ one
      intro r hs
      simp only [Update.selects, Bool.and_eq_true, decide_eq_true_eq] at hs
      exact hs.1.1.1.1
    have selected : (Update.reserve id codeHash now).selects old = true := by
      rw [← Db.entry_hits _ hold, same]
      exact hit
    obtain ⟨_, happ⟩ | ⟨hn, _⟩ := Update.apply_cases (.reserve id codeHash now) old
    · rw [happ]
      simp only [Update.set]
      omega
    · rw [hn] at selected
      cases selected
  | consume => cases (orElse_call goes).2; trivial
  | consumeFallback => cases (orElse_call goes).2; trivial
  | extend => cases (orElse_call goes).2
  | cancelRecoveries | reopen | release | countFailure | reject | refresh | invalidate => cases goes

theorem holderOk_thrown {c' : Call} (seen : HolderOk argon2 db c)
    (h : c.thrown = .call c') : HolderOk argon2 db c' := by
  cases c with
  | completeRecoveryLogin id k stage =>
    cases h
    exact seen
  | _ => cases h

theorem holderOk_request (argon2 : Argon2) (db : Db) (r : Request) : HolderOk argon2 db r.call := by
  cases r <;> trivial

/-- The invariant of an account. -/
structure Sound (argon2 : Argon2) (a : Account) : Prop where
  db : Inv argon2 a.db
  holder : ∀ c, a.holder = some c → HolderOk argon2 a.db c

theorem sound_step (lawful : argon2.Lawful) {b : Account} {e : Event}
    (h : Step argon2 a e b) (sound : Sound argon2 a) : Sound argon2 b := by
  obtain ⟨inv, holder⟩ := sound
  cases step_moves h with
  | idle => exact ⟨inv, holder⟩
  | tick ms => exact ⟨⟨inv.ids, inv.hits, inv.rows, inv.logins, inv.log⟩, holder⟩
  | request r free =>
    refine ⟨inv, ?_⟩
    intro c hc
    cases hc
    exact holderOk_request argon2 a.db r
  | proceed held act =>
    refine ⟨?_, ?_⟩
    · rw [Account.follow_db]
      exact ⟨inv.ids, inv.hits, inv.rows, inv.logins, inv.log⟩
    · intro c' hc'
      rw [Account.follow_holder] at hc'
      subst hc'
      rw [Account.follow_db]
      exact holderOk_continues inv (continues_of_action act) (holder _ held)
  | update held act =>
    have issues := issues_of_action act
    have next := inv_exec lawful inv (permitted_of_issues issues (holder _ held))
    refine ⟨?_, ?_⟩
    · rw [Account.follow_db]
      exact ⟨next.ids, next.hits, next.rows, next.logins, next.log⟩
    · intro c' hc'
      rw [Account.follow_holder] at hc'
      rw [Account.follow_db]
      exact holderOk_issues inv issues (holder _ held) hc'
  | refused held =>
    refine ⟨by rw [Account.follow_db]; exact inv, ?_⟩
    intro c' hc'
    cases hc'
  | insert held act created =>
    refine ⟨by rw [Account.follow_db]; exact inv_created inv created, ?_⟩
    intro c' hc'
    cases hc'
  | throw held =>
    refine ⟨by rw [Account.follow_db]; exact inv, ?_⟩
    intro c' hc'
    rw [Account.follow_holder] at hc'
    rw [Account.follow_db]
    exact holderOk_thrown (holder _ held) hc'
  | approving => exact ⟨inv, holder⟩
  | found => exact ⟨inv, holder⟩
  | approve drawn approvals replies flight =>
    refine ⟨inv_approve lawful inv, ?_⟩
    intro c hc
    exact holderOk_approve lawful inv (holder c hc)
  | cleanup reading candidates =>
    refine ⟨inv_cleanup inv _ candidates, ?_⟩
    intro c hc
    exact holderOk_cleanup _ candidates (holder c hc)

theorem sound_initial (h : Initial a) : Sound argon2 a := by
  refine ⟨⟨?_, ?_, ?_, ?_, ?_⟩, ?_⟩
  · simp [h.challenges]
  · simp [h.log]
  · simp [h.challenges]
  · simp [h.log, logins]
  · rw [h.log]
    exact .nil
  · simp [h.holder]

theorem reachable_sound (lawful : argon2.Lawful) (h : Reachable argon2 a) : Sound argon2 a := by
  refine Library.Reachable.invariant ?_ ?_ h
  · exact fun _ => sound_initial
  · exact fun _ _ _ => sound_step lawful

/-- A decided challenge stays as it was decided, but for the release of a claimed
recovery by the call that claimed it. -/
theorem decided_step {b : Account} {e : Event} (h : Step argon2 a e b)
    (sound : Sound argon2 a) {r' : LoginChallenge} (hr : r ∈ a.db.challenges.rows)
    (hr' : r' ∈ b.db.challenges.rows) (same : r'.id = r.id) (decided : r.live = false) :
    r'.status = r.status ∨
      r.status = .consumed ∧ a.holder = some (.releaseRecoveryClaim r.id) ∧
        Claimed a.db.log r.id := by
  have kept : r' ∈ a.db.challenges.rows → r'.status = r.status := by
    intro stays
    rw [a.db.challenges.row_unique stays hr same]
  cases step_moves h with
  | idle => exact Or.inl (kept hr')
  | tick => exact Or.inl (kept hr')
  | request => exact Or.inl (kept hr')
  | proceed =>
    rw [Account.follow_db] at hr'
    exact Or.inl (kept hr')
  | @update c u devices next held act =>
    rw [Account.follow_db] at hr'
    obtain ⟨old, hold, rfl⟩ := Db.mem_exec.mp hr'
    rw [Update.apply_id] at same
    have this : old = r := a.db.challenges.row_unique hold hr same
    subst this
    obtain ⟨_, happ⟩ | ⟨_, _, _, live, _⟩ | ⟨_, _, _, _, live, _⟩ | ⟨hs, rel, _, _, consumed, _⟩ |
      ⟨_, _, _, _, kept | ⟨live, _⟩⟩ := u.status_cases old
    · rw [happ]
      exact Or.inl rfl
    · simp [decided] at live
    · simp [decided] at live
    · right
      cases issues_of_action act with
      | release id =>
        simp only [Update.selects, Bool.and_eq_true, decide_eq_true_eq] at hs
        obtain ⟨⟨rfl, _⟩, _⟩ := hs
        exact ⟨consumed, held, sound.holder _ held⟩
      | cancelRecoveries | claim | reopen | completing | extend | reserve | consume
        | consumeFallback | countFailure | reject | refresh | invalidate => cases rel
    · exact Or.inl kept
    · simp [decided] at live
  | refused =>
    rw [Account.follow_db] at hr'
    exact Or.inl (kept hr')
  | insert held act created =>
    rw [Account.follow_db] at hr'
    obtain ⟨challenges, inserted, rfl⟩ := Db.created created
    obtain stays | rfl := (Table.mem_insert inserted).mp hr'
    · exact Or.inl (kept stays)
    · have small := sound.db.ids r hr
      rw [← same] at small
      exact absurd small (Nat.lt_irrefl _)
  | throw =>
    rw [Account.follow_db] at hr'
    exact Or.inl (kept hr')
  | approving => exact Or.inl (kept hr')
  | found => exact Or.inl (kept hr')
  | @approve _ drawn id now approvals replies flight =>
    let u := Update.approve id now (sixDigits drawn) (argon2.hash a.db.salts (id, sixDigits drawn))
    obtain ⟨old, hold, rfl⟩ := Db.mem_exec.mp hr'
    rw [Update.apply_id] at same
    have this : old = r := a.db.challenges.row_unique hold hr same
    subst this
    obtain ⟨hs, _⟩ | ⟨_, happ⟩ := u.apply_cases old
    · simp [u, Update.selects, decided] at hs
    · rw [happ]
      exact Or.inl rfl
  | cleanup => exact Or.inl (kept (Table.mem_deleteMany.mp hr').1)

/-- The life of every challenge of an account, whatever runs on it. -/
theorem challenge_lifecycle {argon2 : Argon2} (lawful : argon2.Lawful) {a : Account}
    (reach : Reachable argon2 a) :
    (∀ e b, Step argon2 a e b → ∀ r ∈ a.db.challenges.rows, ∀ r' ∈ b.db.challenges.rows,
      r'.id = r.id → r.live = false → r'.status = r.status ∨
        r.status = .consumed ∧ a.holder = some (.releaseRecoveryClaim r.id) ∧
          Claimed a.db.log r.id) ∧
    (∀ r ∈ a.db.challenges.rows, 0 ≤ r.attempts ∧ r.attempts ≤ loginChallengeMaxAttempts) ∧
    (∀ id, logins a.db.log id ≤ releases a.db.log id + 1) ∧
    ∀ newer e older, a.db.log = newer ++ e :: older → EntryOk e older := by
  have sound := reachable_sound lawful reach
  refine ⟨?_, ?_, sound.db.logins, ?_⟩
  · intro e b h r hr r' hr' same decided
    exact decided_step h sound hr hr' same decided
  · intro r hr
    exact ⟨(sound.db.rows r hr).nonneg, (sound.db.rows r hr).limit⟩
  · intro newer e older cut
    have log := sound.db.log
    rw [cut] at log
    exact log.split

/-- Device `[2]` asks to come in and asks for a recovery. -/
def recoveryRequested : List Event :=
  (Request.login (fromDevice [2]) false 1).run 4 ++ (Request.requestRecovery 0 (some [2])).run 3

/-- A day later it claims the recovery, the completion fails, and it claims again. -/
def claimedTwice : List Event :=
  recoveryRequested ++ .tick loginRecoveryDelayMs ::
    (Request.login (fromDevice [2]) false 1).run 3 ++ .throw :: .advance ::
    (Request.login (fromDevice [2]) false 1).run 3

/-- The trusted device approves at once; the code is entered in time, but the
call stalls before the update that consumes it. -/
def consumedLate : List Event :=
  (Request.login (fromDevice [2]) false 1).run 4 ++
    .approve (some [1]) 0 :: .approveNext 0 7 :: .approveNext 0 7 ::
    (Request.consumeWithCode 0 (some [2]) (sixDigits 7)).run 3 ++ [.tick 60001, .advance]

theorem challenge_lifecycle_claimed :
    logins (Account.oneDevice.play .plain claimedTwice).db.log 0 ≤
      releases (Account.oneDevice.play .plain claimedTwice).db.log 0 + 1 :=
  (challenge_lifecycle plain_lawful (reachable_play .plain claimedTwice)).2.2.1 0

/-- Two logins succeed on one challenge, and one on a code issued more than its
lifetime ago. -/
theorem challenge_entered_twice_or_late :
    (∃ a, Reachable .plain a ∧ ∃ id, 1 < logins a.db.log id) ∧
    ∃ a, Reachable .plain a ∧ ∃ issued ∈ a.db.log, ∃ e ∈ a.db.log,
      (issued.update.approves = true ∧ issued.hits 0 = true) ∧
      (e.update.logsIn = true ∧ e.hits 0 = true) ∧
      issued.time + loginChallengeCodeTtlMs < e.time := by
  refine ⟨⟨_, reachable_play .plain claimedTwice, 0, ?_⟩, _, reachable_play .plain consumedLate, ?_⟩
  · decide
  · decide

end CircleBackend.Challenge
