import CircleBackend.Challenge.Lifecycle

/-!
# Recovery against an active owner

A recovery that can still be claimed was asked for by its own device a full
delay before it matures, and nothing has disturbed it since: a write that
disturbs it also shuts it, except while it is claimed, when only the completion
that claimed it runs.
-/

namespace CircleBackend.Challenge

open Library
open Session (DeviceKey SessionContext)

/-- The writes that tell of an owner at work: a trusted device other than `k` in
use, a rejection of the challenge, an invalidation of all of them. The one a
completion of this very recovery runs is its own. -/
def Update.disturbs (id : ChallengeId) (k : DeviceKey) : Update → Bool
  | .cancelRecoveries activeDeviceKey _ => activeDeviceKey ≠ k
  | .reject other _ => other = id
  | .invalidateChallenges completing _ => completing ≠ some id
  | _ => false

/-- Device `k` asked for the recovery of a challenge at `asked`. -/
def Requested (id : ChallengeId) (k : DeviceKey) (asked : Time) (e : Entry) : Prop :=
  e.update = .requestRecovery id (some k) asked ∧ e.hits id = true

/-- Asked for at `asked`, and not disturbed since. -/
def Undisturbed (log : List Entry) (id : ChallengeId) (k : DeviceKey) (asked : Time) : Prop :=
  Since (Requested id k asked) (fun e => e.update.disturbs id k = false) log

/-- The recovery a row carries has not been disturbed. -/
def Clean (log : List Entry) (r : LoginChallenge) : Prop :=
  ∀ available, r.recoveryAvailableAt = some available →
    ∃ asked, available = asked + loginRecoveryDelayMs ∧ Undisturbed log r.id r.deviceKey asked

/-- What the call under the lock knows of the recovery it works on. -/
def RecoveryHolder (db : Db) : Call → Prop
  | .claimMaturedRecovery _ _ now => now ≤ db.now
  | .claim id k _ now => now ≤ db.now ∧ ∀ r ∈ db.challenges.rows, r.id = id → r.deviceKey = k
  | .completeRecoveryLogin id _ _ | .releaseRecoveryClaim id =>
    ∀ r ∈ db.challenges.rows, r.id = id → Clean db.log r
  | .requestRecoveryLocked read deviceKey =>
    ∀ r ∈ db.challenges.rows, r.id = read.id → deviceKey = some r.deviceKey
  | .extendForRecovery id deviceKey _ =>
    ∀ r ∈ db.challenges.rows, r.id = id → deviceKey = some r.deviceKey
  | _ => True

/-- What a claim met when it was added to the log. -/
def ClaimOk (e : Entry) (older : List Entry) : Prop :=
  ∀ id k now, e.update = .claimRecovery id k now → e.hits id = true →
    ∃ asked, asked + loginRecoveryDelayMs ≤ e.time ∧ Undisturbed older id k asked

structure RecoveryInv (a : Account) : Prop where
  ids : ∀ r ∈ a.db.challenges.rows, r.id < a.db.nextId
  rows : ∀ r ∈ a.db.challenges.rows, r.live = true → Clean a.db.log r
  holder : ∀ c, a.holder = some c → RecoveryHolder a.db c
  log : Chronicle ClaimOk a.db.log

variable {u : Update} {db : Db} {argon2 : Argon2} {c : Call}

theorem disturbs_selects {r : LoginChallenge} (h : u.disturbs r.id r.deviceKey = true)
    (live : r.live = true) (asked : r.recoveryAvailableAt.isSome = true) :
    u.selects r = true ∧ u.shuts = true := by
  cases u with
  | cancelRecoveries activeDeviceKey now =>
    have other : activeDeviceKey ≠ r.deviceKey := by simpa [Update.disturbs] using h
    simp [Update.selects, Update.shuts, other.symm, asked, live]
  | reject id now =>
    have same : id = r.id := by simpa [Update.disturbs] using h
    simp [Update.selects, Update.shuts, same, live]
  | invalidateChallenges completing now => simp [Update.selects, Update.shuts, live]
  | approve | reopenIfCodeExpired | requestRecovery | reserve | consumeCode | countFailure
    | consumeFallback | claimRecovery | releaseRecoveryClaim => cases h

/-- Only a request changes when a recovery matures. -/
theorem apply_recoveryAvailableAt (u : Update) (r : LoginChallenge) :
    (u.apply r).recoveryAvailableAt = r.recoveryAvailableAt ∨
      ∃ deviceKey now, u = .requestRecovery r.id deviceKey now ∧ u.selects r = true ∧
        (u.apply r).recoveryAvailableAt = some (now + loginRecoveryDelayMs) := by
  obtain ⟨hs, happ⟩ | ⟨_, happ⟩ := u.apply_cases r
  · rw [happ]
    cases u with
    | requestRecovery id deviceKey now =>
      right
      have same : r.id = id := by
        simp only [Update.selects, Bool.and_eq_true, decide_eq_true_eq] at hs
        exact hs.1.1.1.1
      subst same
      exact ⟨deviceKey, now, rfl, hs, rfl⟩
    | approve | reject | reopenIfCodeExpired | reserve | consumeCode | countFailure
      | consumeFallback | claimRecovery | releaseRecoveryClaim | cancelRecoveries
      | invalidateChallenges => exact Or.inl rfl
  · rw [happ]
    exact Or.inl rfl

/-- An update that does not disturb a clean row leaves it clean, and a request
makes it so. -/
theorem clean_exec {r : LoginChallenge} (hr : r ∈ db.challenges.rows) (clean : Clean db.log r)
    (calm : r.recoveryAvailableAt.isSome = true → u.disturbs r.id r.deviceKey = false)
    (asks : ∀ deviceKey now, u = .requestRecovery r.id deviceKey now →
      deviceKey = some r.deviceKey) :
    Clean (db.exec u).log (u.apply r) := by
  intro available held
  rw [Update.apply_id, Update.apply_deviceKey]
  obtain same | ⟨deviceKey, now, rfl, hs, set⟩ := apply_recoveryAvailableAt u r
  · rw [same] at held
    obtain ⟨asked, rfl, undisturbed⟩ := clean available held
    exact ⟨asked, rfl, .later (calm (by simp [held])) undisturbed⟩
  · rw [set] at held
    cases held
    obtain rfl := asks deviceKey now rfl
    exact ⟨now, rfl, .here ⟨rfl, (Db.entry_hits _ hr).trans hs⟩⟩

/-- Live rows stay clean: a write that disturbs one shuts it, and one that is
released was clean while it was claimed. -/
theorem rows_exec (u : Update) (asks : ∀ r ∈ db.challenges.rows, ∀ deviceKey now,
      u = .requestRecovery r.id deviceKey now → deviceKey = some r.deviceKey)
    (released : ∀ r ∈ db.challenges.rows, u = .releaseRecoveryClaim r.id → Clean db.log r)
    (rows : ∀ r ∈ db.challenges.rows, r.live = true → Clean db.log r) :
    ∀ r ∈ (db.exec u).challenges.rows, r.live = true → Clean (db.exec u).log r := by
  intro r' hr' live'
  obtain ⟨r, hr, rfl⟩ := Db.mem_exec.mp hr'
  cases live : r.live with
  | true =>
    apply clean_exec hr (rows r hr live) _ (asks r hr)
    intro asked
    cases h : u.disturbs r.id r.deviceKey with
    | false => rfl
    | true =>
      obtain ⟨hs, shuts⟩ := disturbs_selects h live asked
      have rejected := Update.set_status_shuts shuts r
      simp [Update.apply, hs, live_iff, rejected] at live'
  | false =>
    obtain ⟨_, happ⟩ | ⟨_, _, _, wasLive, _⟩ | ⟨_, _, _, _, wasLive, _⟩ | ⟨hs, rel, _, _, _, _⟩ |
      ⟨_, _, _, _, same | ⟨wasLive, _⟩⟩ := u.status_cases r
    · rw [happ, live] at live'
      cases live'
    · simp [live] at wasLive
    · simp [live] at wasLive
    · cases u with
      | releaseRecoveryClaim id =>
        simp only [Update.selects, Bool.and_eq_true, decide_eq_true_eq] at hs
        obtain ⟨⟨rfl, _⟩, _⟩ := hs
        exact clean_exec hr (released r hr rfl) (fun _ => rfl) (asks r hr)
      | approve | reject | reopenIfCodeExpired | requestRecovery | reserve | consumeCode
        | countFailure | consumeFallback | claimRecovery | cancelRecoveries
        | invalidateChallenges => cases rel
    · rw [live_iff, same, ← live_iff, live] at live'
      cases live'
    · simp [live] at wasLive

theorem rows_approve {id : ChallengeId} {now : Time} {code : JsString}
    (rows : ∀ r ∈ db.challenges.rows, r.live = true → Clean db.log r) :
    ∀ r ∈ (db.approve argon2 id now code).challenges.rows, r.live = true →
      Clean (db.approve argon2 id now code).log r := by
  apply rows_exec (.approve id now code (argon2.hash db.salts (id, code))) _ _ rows
  · intro r _ deviceKey asked asks
    cases asks
  · intro r _ releases
    cases releases

/-! ## The call under the lock -/

theorem recoveryHolder_later (db db' : Db) (rows : db'.challenges.rows ⊆ db.challenges.rows)
    (log : db'.log = db.log) (now : db.now ≤ db'.now) (seen : RecoveryHolder db c) :
    RecoveryHolder db' c := by
  cases c with
  | claimMaturedRecovery => exact Nat.le_trans seen now
  | claim => exact ⟨Nat.le_trans seen.1 now, fun r hr => seen.2 r (rows hr)⟩
  | completeRecoveryLogin => exact fun r hr same => log ▸ seen r (rows hr) same
  | releaseRecoveryClaim => exact fun r hr same => log ▸ seen r (rows hr) same
  | requestRecoveryLocked => exact fun r hr => seen r (rows hr)
  | extendForRecovery => exact fun r hr => seen r (rows hr)
  | _ => trivial

theorem recoveryHolder_approve {id : ChallengeId} {now : Time} {code : JsString}
    (seen : RecoveryHolder db c) : RecoveryHolder (db.approve argon2 id now code) c := by
  have clean : ∀ claim, (∀ r ∈ db.challenges.rows, r.id = claim → Clean db.log r) →
      ∀ r ∈ (db.approve argon2 id now code).challenges.rows, r.id = claim →
        Clean (db.approve argon2 id now code).log r := by
    intro claim before r hr same
    obtain ⟨old, hold, rfl⟩ := Db.mem_exec.mp hr
    rw [Update.apply_id] at same
    exact clean_exec hold (before old hold same) (fun _ => rfl) nofun
  have keyed : ∀ (P : DeviceKey → Prop) claim,
      (∀ r ∈ db.challenges.rows, r.id = claim → P r.deviceKey) →
      ∀ r ∈ (db.approve argon2 id now code).challenges.rows, r.id = claim → P r.deviceKey := by
    intro P claim before r hr same
    obtain ⟨old, hold, rfl⟩ := Db.mem_exec.mp hr
    rw [Update.apply_id] at same
    rw [Update.apply_deviceKey]
    exact before old hold same
  cases c with
  | claimMaturedRecovery => exact seen
  | claim id k => exact ⟨seen.1, keyed (· = k) id seen.2⟩
  | completeRecoveryLogin => exact clean _ seen
  | releaseRecoveryClaim => exact clean _ seen
  | requestRecoveryLocked read deviceKey => exact keyed (deviceKey = some ·) read.id seen
  | extendForRecovery id deviceKey => exact keyed (deviceKey = some ·) id seen
  | _ => trivial

theorem recoveryHolder_continues {c' : Call} (h : Continues db c c')
    (seen : RecoveryHolder db c) : RecoveryHolder db c' := by
  cases h with
  | unfamiliar => exact Nat.le_refl db.now
  | @matured k now context r found =>
    obtain ⟨hr, hs⟩ := Table.findFirst_some found
    simp only [Bool.and_eq_true, decide_eq_true_eq] at hs
    refine ⟨seen, ?_⟩
    intro other hother same
    rw [db.challenges.row_unique hother hr same]
    exact hs.1.1.1.1
  | completing => exact seen
  | requestRecovery found =>
    obtain ⟨hr, _, given⟩ := Db.findForDevice_mem found
    intro other hother same
    rw [db.challenges.row_unique hother hr same]
    exact given
  | extend => exact seen
  | cancelRecoveries | immature | reusable | fresh | resend | resendExpired | resendOpen
    | consumeWithCode | approved | fallback | undecided | budget | reject | revokeDevice
    | revokeOtherDevices => trivial

theorem recoveryHolder_issues {c' : Call} {next}
    (rows : ∀ r ∈ db.challenges.rows, r.live = true → Clean db.log r)
    (issues : Issues argon2 db c u next) (seen : RecoveryHolder db c)
    (goes : next (db.challenges.count u.selects) = .call c') : RecoveryHolder (db.exec u) c' := by
  cases issues with
  | claim id k context now =>
    dsimp only at goes
    split at goes
    · rename_i one
      cases goes
      intro r hr same
      obtain ⟨old, hold, rfl⟩ := Db.mem_exec.mp hr
      rw [Update.apply_id] at same
      have hit : (db.entry (.claimRecovery id k now)).hits id = true := by
        apply Db.hits_of_count _ one
        intro r hs
        simp only [Update.selects, Bool.and_eq_true, decide_eq_true_eq] at hs
        exact hs.1.1.1
      have selected : (Update.claimRecovery id k now).selects old = true := by
        rw [← Db.entry_hits _ hold, same]
        exact hit
      have live := Update.live_of_logsIn rfl selected
      exact clean_exec hold (rows old hold live) (fun _ => rfl) (by intros; contradiction)
    · cases goes
      trivial
  | completing id k =>
    cases goes
    intro r hr same
    obtain ⟨old, hold, rfl⟩ := Db.mem_exec.mp hr
    rw [Update.apply_id] at same
    subst same
    apply clean_exec hold (seen old hold rfl)
    · intro _
      simp [Update.disturbs]
    · intros
      contradiction
  | reserve => cases (orElse_call goes).2; trivial
  | consume => cases (orElse_call goes).2; trivial
  | consumeFallback => cases (orElse_call goes).2; trivial
  | extend => cases (orElse_call goes).2
  | cancelRecoveries | reopen | release | countFailure | reject | refresh | invalidate => cases goes

theorem recoveryHolder_thrown {c' : Call} (seen : RecoveryHolder db c)
    (h : c.thrown = .call c') : RecoveryHolder db c' := by
  cases c with
  | completeRecoveryLogin =>
    cases h
    exact seen
  | _ => cases h

/-- A claim meets a clean row that has matured. -/
theorem claimOk_exec {next} (rows : ∀ r ∈ db.challenges.rows, r.live = true → Clean db.log r)
    (issues : Issues argon2 db c u next) (seen : RecoveryHolder db c) :
    ClaimOk (db.entry u) db.log := by
  intro id k now update hits
  rw [Db.entry_update] at update
  subst update
  obtain ⟨r, hr, rfl, hs⟩ := Db.entry_hits_iff.mp hits
  have live := Update.live_of_logsIn rfl hs
  cases issues with
  | claim _ _ context _ =>
    simp only [Update.selects, Bool.and_eq_true, decide_eq_true_eq] at hs
    have matured := hs.1.2
    cases held : r.recoveryAvailableAt with
    | none => simp [held] at matured
    | some available =>
      obtain ⟨asked, delayed, undisturbed⟩ := rows r hr live available held
      rw [seen.2 r hr rfl] at undisturbed
      have early : available ≤ now := by simpa [held] using matured
      refine ⟨asked, ?_, undisturbed⟩
      rw [← delayed]
      exact Nat.le_trans early seen.1

theorem clean_new (db : Db) (k : DeviceKey) (context : SessionContext) (log : List Entry) :
    Clean log (db.newChallenge k context) := by
  intro available held
  cases held

theorem recoveryInv_step {a b : Account} {e : Event} (h : Step argon2 a e b)
    (inv : RecoveryInv a) : RecoveryInv b := by
  obtain ⟨ids, rows, holder, log⟩ := inv
  cases step_moves h with
  | idle => exact ⟨ids, rows, holder, log⟩
  | tick ms =>
    refine ⟨ids, rows, ?_, log⟩
    intro c hc
    have later : a.db.now ≤ a.db.now + ms := Nat.le_add_right _ _
    exact recoveryHolder_later a.db { a.db with now := a.db.now + ms } (List.Subset.refl _) rfl
      later (holder c hc)
  | request r free =>
    refine ⟨ids, rows, ?_, log⟩
    intro c hc
    cases hc
    cases r <;> trivial
  | proceed held act =>
    refine ⟨?_, ?_, ?_, ?_⟩
    · rw [Account.follow_db]
      exact ids
    · rw [Account.follow_db]
      exact rows
    · intro c' hc'
      rw [Account.follow_holder] at hc'
      subst hc'
      rw [Account.follow_db]
      have next := recoveryHolder_continues (continues_of_action act) (holder _ held)
      exact recoveryHolder_later _ _ (List.Subset.refl _) rfl (Nat.le_refl _) next
    · rw [Account.follow_db]
      exact log
  | @update c u devices next held act =>
    have issues := issues_of_action act
    have seen := holder c held
    refine ⟨?_, ?_, ?_, ?_⟩
    · rw [Account.follow_db]
      intro r hr
      obtain ⟨old, hold, rfl⟩ := Db.mem_exec.mp hr
      rw [Update.apply_id]
      exact ids old hold
    · rw [Account.follow_db]
      apply rows_exec u _ _ rows
      · rintro r hr deviceKey now rfl
        cases issues with
        | extend => exact seen r hr rfl
      · rintro r hr rfl
        cases issues with
        | release => exact seen r hr rfl
    · intro c' hc'
      rw [Account.follow_holder] at hc'
      rw [Account.follow_db]
      have next := recoveryHolder_issues rows issues seen hc'
      exact recoveryHolder_later _ _ (List.Subset.refl _) rfl (Nat.le_refl _) next
    · rw [Account.follow_db]
      exact .cons (claimOk_exec rows issues seen) log
  | refused held =>
    refine ⟨ids, rows, ?_, log⟩
    intro c' hc'
    cases hc'
  | insert held act created =>
    obtain ⟨challenges, inserted, rfl⟩ := Db.created created
    refine ⟨?_, ?_, ?_, log⟩
    · intro r hr
      obtain hr | rfl := (Table.mem_insert inserted).mp hr
      · exact Nat.lt_succ_of_lt (ids r hr)
      · exact Nat.lt_succ_self _
    rotate_left
    · intro c' hc'
      cases hc'
    · intro r hr live
      obtain hr | rfl := (Table.mem_insert inserted).mp hr
      · exact rows r hr live
      · exact clean_new _ _ _ _
  | throw held =>
    refine ⟨?_, ?_, ?_, ?_⟩
    · rw [Account.follow_db]
      exact ids
    · rw [Account.follow_db]
      exact rows
    · intro c' hc'
      rw [Account.follow_holder] at hc'
      rw [Account.follow_db]
      exact recoveryHolder_thrown (holder _ held) hc'
    · rw [Account.follow_db]
      exact log
  | approving => exact ⟨ids, rows, holder, log⟩
  | found => exact ⟨ids, rows, holder, log⟩
  | @approve _ drawn id now approvals replies flight =>
    refine ⟨?_, ?_, ?_, ?_⟩
    · intro r hr
      obtain ⟨old, hold, rfl⟩ := Db.mem_exec.mp hr
      rw [Update.apply_id]
      exact ids old hold
    · exact rows_approve rows
    · intro c hc
      exact recoveryHolder_approve (holder c hc)
    · exact .cons nofun log
  | cleanup reading candidates =>
    refine ⟨?_, ?_, ?_, log⟩
    · intro r hr
      exact ids r (Table.mem_deleteMany.mp hr).1
    · intro r hr
      exact rows r (Table.mem_deleteMany.mp hr).1
    · intro c hc
      have fewer : (a.db.cleanup (min reading a.db.now) candidates).challenges.rows ⊆
          a.db.challenges.rows := fun r hr => (Table.mem_deleteMany.mp hr).1
      exact recoveryHolder_later a.db _ fewer rfl (Nat.le_refl _) (holder c hc)

theorem recoveryInv_initial {a : Account} (h : Initial a) : RecoveryInv a := by
  refine ⟨?_, ?_, ?_, ?_⟩
  · simp [h.challenges]
  · simp [h.challenges]
  · simp [h.holder]
  · rw [h.log]
    exact .nil

theorem reachable_recoveryInv {a : Account} (h : Reachable argon2 a) : RecoveryInv a := by
  refine Library.Reachable.invariant ?_ ?_ h
  · exact fun _ => recoveryInv_initial
  · exact fun _ _ _ => recoveryInv_step

/-- Whoever gets in by a recovery asked for it a full delay ago, and since then
no write told of an owner at work. -/
theorem recovery_undisturbed {argon2 : Argon2} {a : Account} (reach : Reachable argon2 a)
    {newer older : List Entry} {e : Entry} (cut : a.db.log = newer ++ e :: older)
    {id : ChallengeId} {k : DeviceKey} {now : Time} (claims : e.update = .claimRecovery id k now)
    (claimed : e.hits id = true) :
    ∃ asked between request before, older = between ++ request :: before ∧
      request.update = .requestRecovery id (some k) asked ∧ request.hits id = true ∧
      asked + loginRecoveryDelayMs ≤ e.time ∧
      ∀ x ∈ between, x.update.disturbs id k = false := by
  have log := (reachable_recoveryInv reach).log
  rw [cut] at log
  obtain ⟨asked, delayed, undisturbed⟩ := log.split id k now claims claimed
  obtain ⟨between, request, before, rfl, ⟨requests, hit⟩, calm⟩ := undisturbed.split
  exact ⟨asked, between, request, before, rfl, requests, hit, delayed, calm⟩

/-- The completion runs up to its own invalidation, fails before it trusts the
device, and is released; the next login recovers all the same. -/
def recoveredAgain : List Event :=
  recoveryRequested ++ .tick loginRecoveryDelayMs ::
    (Request.login (fromDevice [2]) false 1).run 3 ++ .advance :: .advance :: .throw :: .advance ::
    (Request.login (fromDevice [2]) false 1).run 3

/-- The request reads the clock, its update commits five milliseconds later, and
the login comes a full delay after the reading. -/
def recoveredEarly : List Event :=
  (Request.login (fromDevice [2]) false 1).run 4 ++ (Request.requestRecovery 0 (some [2])).run 2 ++
    .tick 5 :: .advance :: .tick (loginRecoveryDelayMs - 5) ::
    (Request.login (fromDevice [2]) false 1).run 3

theorem recovery_undisturbed_recovered :
    ∃ e older, (Account.oneDevice.play .plain recoveredAgain).db.log = [] ++ e :: older ∧
      ∃ asked between request before, older = between ++ request :: before ∧
        request.update = .requestRecovery 0 (some [2]) asked ∧ request.hits 0 = true ∧
        asked + loginRecoveryDelayMs ≤ e.time ∧
        ∀ x ∈ between, x.update.disturbs 0 [2] = false := by
  have newest : (Account.oneDevice.play .plain recoveredAgain).db.log.head?.any (fun e =>
      e.update = .claimRecovery 0 [2] loginRecoveryDelayMs && e.hits 0) = true := by
    decide
  cases log : (Account.oneDevice.play .plain recoveredAgain).db.log with
  | nil => simp [log] at newest
  | cons e older =>
    simp only [log, List.head?_cons, Option.any_some, Bool.and_eq_true, decide_eq_true_eq] at newest
    have cut : (Account.oneDevice.play .plain recoveredAgain).db.log = [] ++ e :: older := log
    refine ⟨e, older, rfl, ?_⟩
    exact recovery_undisturbed (reachable_play .plain recoveredAgain) cut newest.1 newest.2

/-- An invalidation ran between the request and the recovery; and a recovery
came less than the delay after its request committed. -/
theorem recovery_disturbed_or_early :
    (∃ a, Reachable .plain a ∧
      a.db.log.map (·.update) =
        [.claimRecovery 0 [2] loginRecoveryDelayMs, .releaseRecoveryClaim 0,
          .invalidateChallenges (some 0) loginRecoveryDelayMs,
          .claimRecovery 0 [2] loginRecoveryDelayMs, .requestRecovery 0 (some [2]) 0] ∧
      a.db.log.head?.any (·.hits 0) = true) ∧
    ∃ a, Reachable .plain a ∧
      a.db.log.map (·.update) =
        [.claimRecovery 0 [2] loginRecoveryDelayMs, .requestRecovery 0 (some [2]) 0] ∧
      a.db.log.all (·.hits 0) = true ∧
      ∃ claim ∈ a.db.log.head?, ∃ request ∈ a.db.log.getLast?,
        claim.time < request.time + loginRecoveryDelayMs := by
  refine ⟨⟨_, reachable_play .plain recoveredAgain, ?_, ?_⟩, _,
    reachable_play .plain recoveredEarly, ?_, ?_, ?_⟩
  · decide
  · decide
  · decide
  · decide
  · decide

end CircleBackend.Challenge
