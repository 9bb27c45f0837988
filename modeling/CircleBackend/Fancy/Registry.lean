import CircleBackend.Fancy.Market
import CircleBackend.Fancy.Triggers
import CircleBackend.Library.Transition

/-!
# The registry of account identifiers

Each transaction of the marketplace changes the market in one of the ways that keep
it sound, so every state of a run is sound.
-/

namespace CircleBackend.Fancy

open Library
open Session (UserId UserStatus)

namespace Db

def market (casing : Casing) (db : Db) : Market where
  account := Option.map (·.accountId) ∘ db.users.find
  code := Option.map (fun u => casing.lower u.inviteCode) ∘ db.users.find
  row := db.identifiers.find
  number := Option.map (fun n => (n.value, n.status)) ∘ db.numbers.find
  lease := Option.filter (·.active) ∘ db.leases.find

structure Sound (casing : Casing) (db : Db) : Prop where
  market : (db.market casing).Sound casing.lower
  upper : ∀ uid u, db.users.find uid = some u → casing.upper u.inviteCode = u.inviteCode

variable {casing : Casing} {db db' : Db}

theorem market_account (casing : Casing) {uid : UserId} {u : User} (h : db.users.find uid = some u) :
    (db.market casing).account uid = some u.accountId := by
  simp [market, h]

variable {n : FancyNumber} {v : JsString} {values : List JsString}

theorem market_number (casing : Casing) {nid : NumberId} (h : db.numbers.find nid = some n) :
    (db.market casing).number nid = some (n.value, n.status) := by
  simp [market, h]

theorem market_lease {lid : LeaseId} {l : FancyNumberLease} :
    (db.market casing).lease lid = some l ↔ db.leases.find lid = some l ∧ l.active = true := by
  simp [market]

theorem market_number_some {nid : NumberId} {s : NumberStatus} :
    (db.market casing).number nid = some (v, s) ↔
      ∃ n, db.numbers.find nid = some n ∧ n.value = v ∧ n.status = s := by
  simp [market]

theorem numberOf_market (casing : Casing) :
    db.numberOf v = none ↔ ∀ nid s, (db.market casing).number nid ≠ some (v, s) := by
  rw [numberOf_none]
  constructor
  · intro absent nid s listed
    obtain ⟨n, found, value, -⟩ := market_number_some.mp listed
    exact absent nid n found value
  · intro absent nid n found value
    exact absent nid n.status (value ▸ market_number casing found)

/-- What the market does not see may change. -/
theorem Sound.congr (sound : Sound casing db) (same : db'.market casing = db.market casing)
    (upper : ∀ uid u, db'.users.find uid = some u → casing.upper u.inviteCode = u.inviteCode) :
    Sound casing db' :=
  ⟨same ▸ sound.market, upper⟩

/-! ## The inventory -/

theorem createIdentifier_ok (h : db.createIdentifier casing v = .ok db') :
    db.identifiers.find (casing.lower v) = none ∧
      ∃ identifiers, db' = { db with identifiers := identifiers } ∧ identifiers.find =
        Function.update db.identifiers.find (casing.lower v)
          (some ⟨casing.lower v, none, none, none⟩) := by
  unfold createIdentifier at h
  split at h
  · cases h
  · rename_i identifiers inserted
    cases h
    exact ⟨Table.insert_fresh inserted, identifiers, rfl, Table.insert_update inserted⟩

theorem createNumber_ok (h : db.createNumber casing n = .ok db') :
    db.numberOf n.value = none ∧ casing.lower n.value = n.value ∧ db.numbers.find n.id = none ∧
      ∃ numbers, db' = { db with numbers := numbers } ∧
        numbers.find = Function.update db.numbers.find n.id (some n) := by
  unfold createNumber at h
  split at h
  · cases h
  · rename_i absent
    split at h
    · cases h
    · rename_i valid
      rw [not_or, not_not] at valid
      split at h
      · cases h
      · rename_i numbers inserted
        cases h
        exact ⟨by simpa using absent, valid.1, Table.insert_fresh inserted, numbers, rfl,
          Table.insert_update inserted⟩

theorem Sound.createIdentifier (sound : Sound casing db)
    (h : db.createIdentifier casing v = .ok db') : Sound casing db' := by
  obtain ⟨absent, identifiers, rfl, rows⟩ := createIdentifier_ok h
  have registered := sound.market.register (casing.lower v) absent
  have same : ({ db with identifiers := identifiers } : Db).market casing =
      (db.market casing).register (casing.lower v) := by
    simp only [Db.market, Market.register, rows]
  exact ⟨same ▸ registered, sound.upper⟩

theorem Sound.createNumber {ai : AccountIdentifier} (sound : Sound casing db)
    (available : n.status = .available) (row : db.identifiers.find n.value = some ai)
    (unclaimed : ai.claimed = false) (h : db.createNumber casing n = .ok db') :
    Sound casing db' := by
  obtain ⟨other, folds, fresh, numbers, rfl, rows⟩ := createNumber_ok h
  have listed := sound.market.list n.id (by simp [Db.market, fresh]) folds row unclaimed
    ((numberOf_market casing).mp other)
  have same : ({ db with numbers := numbers } : Db).market casing =
      (db.market casing).list n.id n.value := by
    simp only [Db.market, Market.list, rows, Function.comp_update, Option.map_some, available]
  exact ⟨same ▸ listed, sound.upper⟩

theorem value_update {t u : Table FancyNumber NumberId (·.id)} {id : NumberId}
    {m m' : FancyNumber} (rows : u.find = Function.update t.find id (some m'))
    (stored : t.find id = some m) (value : m'.value = m.value) (nid : NumberId) (n : FancyNumber)
    (found : t.find nid = some n) : ∃ n', u.find nid = some n' ∧ n'.value = n.value := by
  by_cases own : nid = id
  · rw [own, stored] at found
    cases found
    exact ⟨m', by rw [rows, own, Function.update_self], value⟩
  · exact ⟨n, by rw [rows, Function.update_of_ne own, found], rfl⟩

/-- Only the inventory changes, and no number loses its value. -/
structure Stocked (db db' : Db) : Prop where
  rest : ∃ identifiers numbers, db' = { db with identifiers := identifiers, numbers := numbers }
  values : ∀ nid n, db.numbers.find nid = some n →
    ∃ n', db'.numbers.find nid = some n' ∧ n'.value = n.value

theorem Stocked.trans {mid : Db} (first : Stocked db mid) (second : Stocked mid db') :
    Stocked db db' := by
  obtain ⟨⟨_, _, rfl⟩, kept⟩ := first
  obtain ⟨⟨identifiers, numbers, rfl⟩, kept'⟩ := second
  refine ⟨⟨identifiers, numbers, rfl⟩, fun nid n found => ?_⟩
  obtain ⟨n', found', value⟩ := kept nid n found
  obtain ⟨n'', found'', value'⟩ := kept' nid n' found'
  exact ⟨n'', found'', value'.trans value⟩

theorem Stocked.register (db : Db) (identifiers : Table AccountIdentifier JsString (·.value)) :
    Stocked db { db with identifiers := identifiers } :=
  ⟨⟨_, _, rfl⟩, fun _ n found => ⟨n, found, rfl⟩⟩

theorem Stocked.number {numbers : Table FancyNumber NumberId (·.id)}
    (fresh : db.numbers.find n.id = none)
    (rows : numbers.find = Function.update db.numbers.find n.id (some n)) :
    Stocked db { db with numbers := numbers } := by
  refine ⟨⟨_, _, rfl⟩, fun nid m found => ⟨m, ?_, rfl⟩⟩
  have apart : nid ≠ n.id := by
    rintro rfl
    rw [fresh] at found
    cases found
  exact (congrFun rows nid).trans ((Function.update_of_ne apart ..).trans found)

theorem createIdentifiers_ok (sound : Sound casing db)
    (h : values.foldlM (fun db v => db.createIdentifier casing v) db = .ok db') :
    Sound casing db' ∧ Stocked db db' ∧
      (∀ v ai, db.identifiers.find v = some ai → db'.identifiers.find v = some ai) ∧
      ∀ v ∈ values, ∃ ai, db'.identifiers.find (casing.lower v) = some ai ∧ ai.claimed = false := by
  induction values generalizing db with
  | nil =>
    cases h
    exact ⟨sound, .register _ _, fun _ _ found => found, by simp⟩
  | cons v rest ih =>
    rw [List.foldlM_cons] at h
    obtain ⟨mid, one, others⟩ := bind_ok h
    obtain ⟨sound', stocked, kept, rows⟩ := ih (sound.createIdentifier one) others
    obtain ⟨absent, identifiers, rfl, here⟩ := createIdentifier_ok one
    refine ⟨sound', (Stocked.register _ _).trans stocked, fun w ai found => kept w ai ?_, ?_⟩
    · have apart : w ≠ casing.lower v := by
        rintro rfl
        rw [absent] at found
        cases found
      rw [here, Function.update_of_ne apart, found]
    · intro w member
      rcases List.mem_cons.mp member with rfl | tail
      · exact ⟨_, kept _ _ (by rw [here, Function.update_self]), rfl⟩
      · exact rows w tail

theorem createNumbers_ok {number : JsString → FancyNumber} (sound : Sound casing db)
    (value : ∀ v, (number v).value = v) (available : ∀ v, (number v).status = .available)
    (rows : ∀ v ∈ values, casing.lower v = v →
      ∃ ai, db.identifiers.find v = some ai ∧ ai.claimed = false)
    (h : values.foldlM (fun db v => db.createNumber casing (number v)) db = .ok db') :
    Sound casing db' ∧ Stocked db db' := by
  induction values generalizing db with
  | nil =>
    cases h
    exact ⟨sound, .register _ _⟩
  | cons v rest ih =>
    rw [List.foldlM_cons] at h
    obtain ⟨mid, one, others⟩ := bind_ok h
    obtain ⟨-, folds, fresh, numbers, moved, added⟩ := createNumber_ok one
    rw [value] at folds
    obtain ⟨ai, row, unclaimed⟩ := rows v List.mem_cons_self folds
    have next := sound.createNumber (available v) ((value v).symm ▸ row) unclaimed one
    have rest_rows : ∀ w ∈ rest, casing.lower w = w →
        ∃ ai, mid.identifiers.find w = some ai ∧ ai.claimed = false := by
      intro w member folds
      rw [moved]
      exact rows w (List.mem_cons_of_mem v member) folds
    obtain ⟨sound', stocked⟩ := ih next rest_rows others
    exact ⟨sound', (moved ▸ Stocked.number fresh added).trans stocked⟩

/-- The identifiers are new, so nobody has a claim on them when the numbers follow. -/
theorem enlist_ok {number : JsString → FancyNumber} (sound : Sound casing db)
    (value : ∀ v, (number v).value = v) (available : ∀ v, (number v).status = .available)
    (h : db.enlist casing values number = .ok db') : Sound casing db' ∧ Stocked db db' := by
  obtain ⟨registered, first, second⟩ := bind_ok h
  obtain ⟨sound', stocked, -, rows⟩ := createIdentifiers_ok sound first
  obtain ⟨sound'', numbered⟩ := createNumbers_ok sound' value available
    (fun v member folds => folds ▸ rows v member) second
  exact ⟨sound'', stocked.trans numbered⟩

theorem adminBatchCreate_ok {mint : JsString → NumberId} (sound : Sound casing db)
    (h : db.adminBatchCreate casing values mint = .ok db') : Sound casing db' ∧ Stocked db db' := by
  unfold adminBatchCreate at h
  obtain ⟨_, -, h⟩ := bind_ok h
  split at h
  · cases h
  · exact enlist_ok sound (fun _ => rfl) (fun _ => rfl) (mapError_ok h)

theorem Sound.recommend (sound : Sound casing db) (p : FancyNumber → Bool) : let flagged : Db :=
      { db with
        numbers := db.numbers.updateMany p (fun n => { n with isRecommended := true }) fun _ => rfl }
    Sound casing flagged ∧ Stocked db flagged := by
  have rows : ∀ nid, (db.numbers.updateMany p (fun n => { n with isRecommended := true })
      fun _ => rfl).find nid = (db.numbers.find nid).map fun n =>
        if p n then { n with isRecommended := true } else n :=
    fun nid => Table.find_updateMany ..
  refine ⟨sound.congr ?_ sound.upper, ⟨_, _, rfl⟩, fun nid n found => ?_⟩
  · simp only [Db.market, Market.mk.injEq, true_and, and_true]
    funext nid
    rw [Function.comp_apply, rows, Option.map_map]
    congr 1
    funext n
    dsimp only [Function.comp_apply]
    split <;> rfl
  · refine ⟨_, (rows nid).trans (congrArg _ found), ?_⟩
    dsimp only
    split <;> rfl

theorem adminAddRecommendations_ok {mint : JsString → NumberId}
    (sound : Sound casing db) (h : db.adminAddRecommendations casing values mint = .ok db') :
    Sound casing db' ∧ Stocked db db' := by
  unfold adminAddRecommendations at h
  obtain ⟨normalized, -, h⟩ := bind_ok h
  obtain ⟨_, -, h⟩ := bind_ok h
  split at h
  · cases h
  · obtain ⟨_, -, h⟩ := bind_ok h
    obtain ⟨recommended, flagged⟩ := sound.recommend _
    obtain ⟨sound', stocked⟩ :=
      enlist_ok recommended (fun _ => rfl) (fun _ => rfl) (mapError_ok h)
    exact ⟨sound', flagged.trans stocked⟩

theorem adminSetAvailability_ok {nid : NumberId} {enabled : Bool} (sound : Sound casing db)
    (h : db.adminSetAvailability nid enabled = .ok db') : Sound casing db' ∧ Stocked db db' := by
  obtain ⟨current, found, h⟩ := bind_ok h
  obtain ⟨_, free, h⟩ := bind_ok h
  obtain ⟨_, -, h⟩ := bind_ok h
  cases h
  have stored := orThrow_ok found
  obtain rfl : current.id = nid := Table.find_key stored
  have before := throwIf_ok free
  let marked : FancyNumber :=
    { current with status := if enabled then .available else .disabled }
  have numbers := Table.put_update (show db.numbers.find marked.id = some current from stored)
  have sound' := sound.market.mark (t := marked.status) (market_number casing stored)
    (by simpa using before) (by cases enabled <;> simp [marked])
  have same : ({ db with numbers := db.numbers.put marked } : Db).market casing =
      (db.market casing).mark current.id current.value marked.status := by
    simp only [market, Market.mark, numbers, Function.comp_update, Option.map_some]
    rfl
  exact ⟨⟨same ▸ sound', sound.upper⟩, ⟨_, _, rfl⟩, value_update numbers stored rfl⟩

/-! ## Users -/

theorem fold_upper (casing : Casing) (u : User) :
    casing.upper (fold casing u).inviteCode = (fold casing u).inviteCode :=
  casing.upper_upper u.inviteCode

theorem free_market (free : db.Free v) : (db.market casing).Free v := by
  intro ai row
  obtain ⟨unclaimed, absent⟩ := free ai row
  exact ⟨unclaimed, (numberOf_market casing).mp absent⟩

theorem Sound.createUser {new : User} (sound : Sound casing db)
    (h : db.createUser casing new = .ok db') : Sound casing db' := by
  obtain ⟨account, code, users, identifiers, inserted, rfl, rows⟩ := createUser_ok h
  have absent : db.users.find (fold casing new).id = none := Table.insert_fresh inserted
  have fresh : db.users.find new.id = none := absent
  have joined := sound.market.join new.id (fold casing new).accountId
    (casing.lower (fold casing new).inviteCode) (by simp [Db.market, fresh])
    (by simp [Db.market, fresh]) (casing.lower_lower new.accountId) (free_market account)
    (free_market code)
  have same : ({ db with users := users, identifiers := identifiers } : Db).market casing =
      (db.market casing).join new.id (fold casing new).accountId
        (casing.lower (fold casing new).inviteCode) := by
    simp only [Db.market, Market.join, Table.insert_update inserted, Function.comp_update,
      Option.map_some, Market.mk.injEq, and_true]
    refine ⟨rfl, rfl, ?_⟩
    funext v
    exact rows v
  refine ⟨same ▸ joined, ?_⟩
  intro uid u found
  rw [Table.find_insert inserted] at found
  split at found
  · cases found
    exact fold_upper casing new
  · exact sound.upper uid u found

theorem Sound.changeInviteCode {uid : UserId} {code : JsString} (sound : Sound casing db)
    (h : db.changeInviteCode casing uid code = .ok db') :
    Sound casing db' ∧
      ∃ users identifiers, db' = { db with users := users, identifiers := identifiers } := by
  have account : ∀ u, db.users.find uid = some u → casing.lower u.accountId = u.accountId ∧
      ∀ ai, db.identifiers.find u.accountId = some ai → ai.currentUserID = some uid := by
    intro u found
    obtain ⟨row, stored, own⟩ := sound.market.account uid _ (market_account casing found)
    refine ⟨sound.market.folded uid _ (market_account casing found), ?_⟩
    intro ai row'
    rw [show db.identifiers.find u.accountId = some row from stored] at row'
    cases row'
    exact own
  have owner : ∀ u v ai, db.users.find uid = some u → db.identifiers.find v = some ai →
      ai.inviteOwnerUserID = some uid → casing.lower u.inviteCode = v := by
    intro u v ai found row own
    have coded := sound.market.owner v ai uid row own
    simpa [Db.market, found] using coded
  obtain ⟨u, identifiers, found, rfl, effect⟩ := changeInviteCode_ok account owner h
  have own : u.id = uid := Table.find_key found
  have stored : db.users.find ({ u with inviteCode := casing.upper code } : User).id = some u := own ▸ found
  have users := Table.put_update stored
  have upper : ∀ v w, (db.users.put { u with inviteCode := casing.upper code }).find v = some w →
      casing.upper w.inviteCode = w.inviteCode := by
    intro v w there
    rw [Table.find_put_of_find stored] at there
    split at there
    · cases there
      exact casing.upper_upper code
    · exact sound.upper v w there
  have coded : (db.market casing).code uid = some (casing.lower u.inviteCode) := by
    simp [Db.market, found]
  have accountSame : Option.map (·.accountId) ∘
      (db.users.put { u with inviteCode := casing.upper code }).find =
        (db.market casing).account := by
    rw [users, Function.comp_update]
    refine Function.update_eq_self_iff.mpr ?_
    simp [stored]
  have codeSame : Option.map (fun u => casing.lower u.inviteCode) ∘
      (db.users.put { u with inviteCode := casing.upper code }).find =
        Function.update (db.market casing).code uid (some (casing.lower (casing.upper code))) := by
    rw [users, Function.comp_update, own]
    rfl
  refine ⟨?_, _, _, rfl⟩
  rcases effect with ⟨same, rfl⟩ | ⟨apart, free, rows⟩
  · refine sound.congr ?_ upper
    have kept : Function.update (db.market casing).code uid (some (casing.lower (casing.upper code))) =
        (db.market casing).code := by
      refine Function.update_eq_self_iff.mpr ?_
      rw [coded, same]
    unfold Db.market at accountSame codeSame kept ⊢
    rw [accountSame, codeSame, kept]
  · obtain ⟨old, row, owned⟩ := sound.market.code uid _ coded
    have unlisted : db.numberOf (casing.lower u.inviteCode) = none := by
      refine (numberOf_market casing).mpr fun nid s listed => ?_
      obtain ⟨-, ai, row', -, unowned, -⟩ := sound.market.listed nid _ s listed
      rw [row] at row'
      cases row'
      rw [unowned] at owned
      cases owned
    let cleared : AccountIdentifier := { old with inviteOwnerUserID := none }
    have free' : ∀ ai, (db.market casing).row (casing.lower (casing.upper code)) = some ai →
        (∀ w ∈ ai.currentUserID, w = uid) ∧ ai.reservedForUserID = none ∧
          ai.inviteOwnerUserID = none ∧ ∀ nid s,
            (db.market casing).number nid ≠ some (casing.lower (casing.upper code), s) := by
      intro ai stored'
      obtain ⟨current, unreserved, owner', absent⟩ := free ai stored'
      refine ⟨current, unreserved, ?_, (numberOf_market casing).mp absent⟩
      by_contra owned'
      obtain ⟨w, owned'⟩ := Option.ne_none_iff_exists'.mp owned'
      have codes := sound.market.owner _ ai w stored' owned'
      rw [owner' w owned', coded] at codes
      exact apart (Option.some.inj codes).symm
    have dropped : (if cleared.claimed then some cleared else none) = some cleared ∨
        (if cleared.claimed then some cleared else none) = none ∧ old.currentUserID = none ∧
          old.reservedForUserID = none := by
      cases kept : cleared.claimed with
      | true => exact Or.inl rfl
      | false =>
        obtain ⟨current, reserved, -⟩ := AccountIdentifier.unclaimed kept
        exact Or.inr ⟨rfl, current, reserved⟩
    have recoded := sound.market.recode coded row free' dropped
    refine ⟨?_, upper⟩
    convert recoded using 1
    unfold Db.market at accountSame codeSame ⊢
    simp only [Market.recode, Market.mk.injEq, and_true]
    refine ⟨accountSame, codeSame, ?_⟩
    funext v
    rw [rows]
    by_cases new : v = casing.lower (casing.upper code)
    · rw [if_pos new, if_pos new]
      rfl
    · rw [if_neg new, if_neg new]
      by_cases left : v = casing.lower u.inviteCode
      · rw [if_pos left, if_pos left, left, unlisted]
        have row' : db.identifiers.find (casing.lower u.inviteCode) = some old := row
        rw [row', Option.map_some, if_pos owned]
        simp only [Option.filter, Option.isSome_none, Bool.or_false]
        rfl
      · rw [if_neg left, if_neg left]

end Db

end CircleBackend.Fancy
