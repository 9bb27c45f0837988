import CircleBackend.Fancy.Operations

/-!
# What a write of a user does to the registry

The effect of `createUser`, of a change of the invite code, and of a change of the
account to an identifier that the user already holds: the whole of it, from which
the invariants are read.
-/

namespace CircleBackend.Fancy

open Library
open Session (UserId)

namespace Db

variable {casing : Casing} {db db' : Db}

variable {v : JsString} {new : User}

theorem numberOf_some {n : FancyNumber} (h : db.numberOf v = some n) :
    db.numbers.find n.id = some n ∧ n.value = v := by
  refine ⟨Table.mem_find (List.mem_of_find?_eq_some h), ?_⟩
  simpa using List.find?_some h

theorem numberOf_none :
    db.numberOf v = none ↔ ∀ nid n, db.numbers.find nid = some n → n.value ≠ v := by
  rw [numberOf, List.find?_eq_none]
  constructor
  · intro absent nid n found
    simpa using absent n (Table.find_mem found)
  · intro absent n member
    simpa using absent n.id n (Table.mem_find member)

theorem find_ensureIdentifier (db : Db) (v k : JsString) :
    (db.ensureIdentifier v).identifiers.find k =
      if v = k then some ((db.identifiers.find k).getD ⟨v, none, none, none⟩)
      else db.identifiers.find k := by
  unfold ensureIdentifier
  cases old : db.identifiers.insert ⟨v, none, none, none⟩ with
  | some t =>
    dsimp only [Option.getD_some]
    rw [Table.find_insert old]
    split
    · rename_i own
      have fresh : db.identifiers.find v = none := Table.insert_fresh old
      rw [← own, fresh]
      rfl
    · rfl
  | none =>
    dsimp only [Option.getD_none]
    split
    · rename_i own
      cases found : db.identifiers.find k with
      | some ai => rfl
      | none =>
        have absent : db.identifiers.find v = none := by rw [own, found]
        obtain ⟨t, fresh⟩ :=
          Table.insert_of_fresh (a := (⟨v, none, none, none⟩ : AccountIdentifier)) absent
        rw [fresh] at old
        cases old
    · rfl

theorem dropIdentifier_kept
    (h : (∀ ai, db.identifiers.find v = some ai → ai.claimed = true) ∨ (db.numberOf v).isSome) :
    db.dropIdentifier v = db := by
  have none_dropped : ∀ ai ∈ db.identifiers.rows,
      (decide (ai.value = v) && !ai.claimed && (db.numberOf v).isNone) = false := by
    intro ai member
    rcases h with claimed | number
    · by_cases own : ai.value = v
      · simp [claimed ai (own ▸ Table.mem_find member)]
      · simp [own]
    · cases found : db.numberOf v with
      | none => simp [found] at number
      | some n => simp
  unfold dropIdentifier
  rw [Table.deleteMany_none none_dropped]

/-- The account moves to an identifier that is the user's already; the one it leaves
is still claimed, or a number. -/
theorem updateUser_current {old : User} {ai : AccountIdentifier} (folded : fold casing new = new)
    (before : casing.lower old.accountId = old.accountId) (code : new.inviteCode = old.inviteCode)
    (moved : new.accountId ≠ old.accountId) (found : db.identifiers.find new.accountId = some ai)
    (own : ai.currentUserID = some new.id)
    (left : (∀ ai, db.identifiers.find old.accountId = some ai → ai.claimed = true) ∨
      (db.numberOf old.accountId).isSome) :
    db.updateUser casing old new = .ok { db with users := db.users.put new } := by
  have account : db.moveAccount casing old new = .ok db := by
    unfold moveAccount
    dsimp only
    rw [before, if_neg moved, if_neg (by simp [occupied, found, own]), if_pos (by simp [found, own])]
  have invite : db.moveInvite casing old new = .ok db := by
    unfold moveInvite
    dsimp only
    rw [code, if_pos rfl]
  have tidy : ({ db with users := db.users.put new } : Db).cleanup casing old new =
      { db with users := db.users.put new } := by
    unfold cleanup
    dsimp only
    rw [code, if_pos (Or.inl rfl), before]
    split
    · rfl
    · exact dropIdentifier_kept left
  unfold updateUser
  rw [folded]
  dsimp only [bind, Except.bind, pure, Except.pure]
  rw [account]
  dsimp only
  rw [invite]
  dsimp only
  rw [tidy]

/-- Nothing holds on to the identifier. -/
def Free (db : Db) (v : JsString) : Prop :=
  ∀ ai, db.identifiers.find v = some ai → ai.claimed = false ∧ db.numberOf v = none

theorem free_of_occupied (h : db.occupied v (fun ai =>
    ai.claimed || (db.numberOf v).isSome) = false) : db.Free v := by
  intro ai found
  simpa [occupied, found] using h

def rowAt (db : Db) (v : JsString) : AccountIdentifier :=
  (db.identifiers.find v).getD ⟨v, none, none, none⟩

theorem rowAt_value (db : Db) (v : JsString) : (db.rowAt v).value = v := by
  unfold rowAt
  cases found : db.identifiers.find v with
  | none => rfl
  | some ai => exact Table.find_key (t := db.identifiers) found

theorem prepareInsert_ok (h : db.prepareInsert casing new = .ok db') :
    db.Free new.accountId ∧ db.Free (casing.lower new.inviteCode) ∧
      ∃ identifiers, db' = { db with identifiers := identifiers } ∧ ∀ k,
        identifiers.find k =
          if k = new.accountId ∨ k = casing.lower new.inviteCode then some (db.rowAt k)
          else db.identifiers.find k := by
  unfold prepareInsert at h
  dsimp only at h
  split at h
  · cases h
  · rename_i account
    have free := free_of_occupied (Bool.eq_false_iff.mpr account)
    split at h
    · rename_i same
      cases h
      refine ⟨free, same ▸ free, (db.ensureIdentifier new.accountId).identifiers, rfl, fun k => ?_⟩
      have ensured := db.find_ensureIdentifier new.accountId k
      by_cases own : k = new.accountId
      · subst own
        simpa [rowAt] using ensured
      · rw [if_neg (Ne.symm own)] at ensured
        rw [if_neg (by simp [same, own])]
        exact ensured
    · rename_i apart
      split at h
      · cases h
      · rename_i invite
        have freed := free_of_occupied (Bool.eq_false_iff.mpr invite)
        cases h
        have before : ∀ k, (db.ensureIdentifier new.accountId).identifiers.find k =
            if k = new.accountId then some (db.rowAt k) else db.identifiers.find k := by
          intro k
          rw [find_ensureIdentifier]
          by_cases own : k = new.accountId
          · subst own
            simp [rowAt]
          · rw [if_neg (Ne.symm own), if_neg own]
        refine ⟨free, ?_, _, rfl, fun k => ?_⟩
        · intro ai found
          have kept := (before (casing.lower new.inviteCode)).trans (if_neg apart)
          exact freed ai (kept.trans found)
        · have ensured :=
            (db.ensureIdentifier new.accountId).find_ensureIdentifier (casing.lower new.inviteCode) k
          rw [before] at ensured
          refine ensured.trans ?_
          by_cases own : k = new.accountId
          · subst own
            simp [apart]
          · by_cases code : k = casing.lower new.inviteCode
            · subst code
              simp [own, rowAt]
            · simp [own, code, Ne.symm code]

theorem assign_eq (db : Db) (new : User) :
    ∃ identifiers, db.assign casing new = { db with identifiers := identifiers } ∧ ∀ k,
      identifiers.find k = (db.identifiers.find k).map fun ai =>
        { ai with
          currentUserID := if k = new.accountId then some new.id else ai.currentUserID
          inviteOwnerUserID :=
            if k = casing.lower new.inviteCode then some new.id else ai.inviteOwnerUserID } := by
  unfold assign
  dsimp only
  split
  · rename_i same
    refine ⟨_, rfl, fun k => ?_⟩
    rw [Table.find_updateMany]
    cases found : db.identifiers.find k with
    | none => rfl
    | some ai =>
      obtain ⟨value, current, reserved, owner⟩ := ai
      obtain rfl : value = k := Table.find_key found
      by_cases own : value = new.accountId <;> simp [same, own]
  · rename_i apart
    refine ⟨_, rfl, fun k => ?_⟩
    rw [Table.find_updateMany, Table.find_updateMany]
    cases found : db.identifiers.find k with
    | none => rfl
    | some ai =>
      obtain ⟨value, current, reserved, owner⟩ := ai
      obtain rfl : value = k := Table.find_key found
      by_cases own : value = new.accountId
      · simp [own, Ne.symm apart]
      · by_cases code : value = casing.lower new.inviteCode
        · simp [code, apart]
        · simp [own, code]

theorem createUser_ok (h : db.createUser casing new = .ok db') : let folded := fold casing new
    let invite := casing.lower folded.inviteCode
    db.Free folded.accountId ∧ db.Free invite ∧
      ∃ users identifiers, db.users.insert folded = some users ∧
        db' = { db with users := users, identifiers := identifiers } ∧ ∀ k,
          identifiers.find k =
            if k = folded.accountId ∨ k = invite then
              some { db.rowAt k with
                currentUserID :=
                  if k = folded.accountId then some new.id else (db.rowAt k).currentUserID
                inviteOwnerUserID :=
                  if k = invite then some new.id else (db.rowAt k).inviteOwnerUserID }
            else db.identifiers.find k := by
  intro folded invite
  unfold createUser at h
  obtain ⟨prepared, ready, h⟩ := bind_ok h
  obtain ⟨account, code, prepared, rfl, rows⟩ := prepareInsert_ok ready
  split at h
  · cases h
  · split at h
    · cases h
    · rename_i users inserted
      cases h
      let free : Db := { db with users := users, identifiers := prepared }
      obtain ⟨identifiers, assigned, after⟩ : ∃ identifiers,
          free.assign casing folded = { free with identifiers := identifiers } ∧ _ :=
        assign_eq free folded
      refine ⟨account, code, users, identifiers, inserted, assigned, fun k => ?_⟩
      rw [after, rows]
      by_cases chosen : k = folded.accountId ∨ k = invite
      · rw [if_pos chosen, if_pos chosen]
        rfl
      · rw [if_neg chosen, if_neg chosen]
        rw [not_or] at chosen
        cases found : db.identifiers.find k with
        | none => rfl
        | some ai => simp [chosen.1, chosen.2, invite]

/-- Where the code changes, its row is taken from nobody else and is no number's. -/
theorem moveInvite_ok {old : User} (h : db.moveInvite casing old new = .ok db') :
    let before := casing.lower old.inviteCode
    let after := casing.lower new.inviteCode
    after = before ∧ db' = db ∨
      after ≠ before ∧
        (∀ ai, db.identifiers.find after = some ai →
          (∀ u ∈ ai.currentUserID, u = new.id) ∧ ai.reservedForUserID = none ∧
            (∀ u ∈ ai.inviteOwnerUserID, u = new.id) ∧ db.numberOf after = none) ∧
        ((∃ ai, db.identifiers.find after = some ai ∧ ai.inviteOwnerUserID = some new.id) ∨
          ∃ identifiers, db' = { db with identifiers := identifiers } ∧ ∀ k,
            identifiers.find k =
              if k = after then some { db.rowAt k with inviteOwnerUserID := some new.id }
              else (db.identifiers.find k).map fun ai =>
                if k = before ∧ ai.inviteOwnerUserID = some new.id then
                  { ai with inviteOwnerUserID := none }
                else ai) := by
  intro before after
  unfold moveInvite at h
  dsimp only at h
  split at h
  · rename_i same
    cases h
    exact Or.inl ⟨same, rfl⟩
  · rename_i apart
    split at h
    · cases h
    · rename_i untaken
      have free : ∀ ai, db.identifiers.find after = some ai →
          (∀ u ∈ ai.currentUserID, u = new.id) ∧ ai.reservedForUserID = none ∧
            (∀ u ∈ ai.inviteOwnerUserID, u = new.id) ∧ db.numberOf after = none := by
        intro ai found
        simpa [occupied, found, after, and_assoc, Option.any_eq_false] using untaken
      refine Or.inr ⟨apart, free, ?_⟩
      split at h
      · rename_i own
        cases found : db.identifiers.find after with
        | none => simp [found, after] at own
        | some ai => exact Or.inl ⟨ai, rfl, by simpa [found, after] using own⟩
      · right
        split at h
        · cases h
        · rename_i moved
          cases h
          obtain ⟨ai, found, unowned, rows⟩ := Table.updateOne_some moved fun _ => rfl
          refine ⟨_, rfl, fun k => ?_⟩
          have row : ai = db.rowAt after := by
            rw [Table.find_updateMany, find_ensureIdentifier, if_pos rfl] at found
            have other : (db.rowAt after).value ≠ before := by
              rw [rowAt_value]
              exact apart
            refine (Option.some.inj found).symm.trans (if_neg fun chosen => other ?_)
            simp only [Bool.and_eq_true, decide_eq_true_eq] at chosen
            exact chosen.1
          rw [rows, Table.find_updateMany, find_ensureIdentifier]
          by_cases own : k = after
          · rw [if_pos own, if_pos own, own, row]
          · rw [if_neg own, if_neg own, if_neg (Ne.symm own)]
            cases stored : db.identifiers.find k with
            | none => rfl
            | some ai =>
              have value : ai.value = k := Table.find_key stored
              simp [value, before]

theorem find_dropIdentifier (db : Db) (v k : JsString) :
    (db.dropIdentifier v).identifiers.find k =
      if k = v then (db.identifiers.find k).filter fun ai => ai.claimed || (db.numberOf v).isSome
      else db.identifiers.find k := by
  have dropped := db.identifiers.find_deleteMany
    (fun ai => ai.value = v && !ai.claimed && (db.numberOf v).isNone) k
  refine dropped.trans ?_
  cases found : db.identifiers.find k with
  | none => simp
  | some ai =>
    obtain rfl : ai.value = k := Table.find_key found
    by_cases own : ai.value = v
    · cases number : db.numberOf v with
      | none => by_cases held : ai.claimed <;> simp [own, held, Option.filter]
      | some n => simp [own, Option.filter]
    · simp [own, Option.filter]

/-- The row of the old code goes when nothing else holds on to it. -/
theorem changeInviteCode_ok {uid : UserId} {code : JsString}
    (account : ∀ u, db.users.find uid = some u →
      casing.lower u.accountId = u.accountId ∧
        ∀ ai, db.identifiers.find u.accountId = some ai → ai.currentUserID = some uid)
    (owner : ∀ u v ai, db.users.find uid = some u → db.identifiers.find v = some ai →
      ai.inviteOwnerUserID = some uid → casing.lower u.inviteCode = v)
    (h : db.changeInviteCode casing uid code = .ok db') :
    ∃ u identifiers, db.users.find uid = some u ∧
      db' = { db with
        users := db.users.put { u with inviteCode := casing.upper code }
        identifiers := identifiers } ∧
      let before := casing.lower u.inviteCode
      let after := casing.lower (casing.upper code)
      (after = before ∧ identifiers = db.identifiers ∨
        after ≠ before ∧
          (∀ ai, db.identifiers.find after = some ai →
            (∀ u ∈ ai.currentUserID, u = uid) ∧ ai.reservedForUserID = none ∧
              (∀ u ∈ ai.inviteOwnerUserID, u = uid) ∧ db.numberOf after = none) ∧
          ∀ k, identifiers.find k =
            if k = after then some { db.rowAt k with inviteOwnerUserID := some uid }
            else if k = before then
              ((db.identifiers.find k).map fun ai =>
                if ai.inviteOwnerUserID = some uid then { ai with inviteOwnerUserID := none } else ai
                ).filter fun ai => ai.claimed || (db.numberOf before).isSome
            else db.identifiers.find k) := by
  unfold changeInviteCode at h
  split at h
  · cases h
  · rename_i u found
    obtain ⟨lower, current⟩ := account u found
    have uid' : u.id = uid := Table.find_key found
    let folded : User := { u with inviteCode := casing.upper code }
    have folds : fold casing { u with inviteCode := code } = folded := by
      simp only [fold, folded, lower]
    unfold updateUser at h
    rw [folds] at h
    dsimp only at h
    obtain ⟨moved, first, h⟩ := bind_ok h
    have stays : db.moveAccount casing u folded = .ok db := by
      unfold moveAccount
      dsimp only
      rw [if_pos lower.symm]
    rw [stays] at first
    cases first
    obtain ⟨prepared, second, h⟩ := bind_ok h
    cases h
    refine ⟨u, ?_⟩
    rcases moveInvite_ok second with ⟨same, kept⟩ | ⟨apart, free, held | ⟨identifiers, moved, rows⟩⟩
    · refine ⟨db.identifiers, found, ?_, Or.inl ⟨same, rfl⟩⟩
      unfold cleanup
      dsimp only
      rw [kept, if_pos rfl, if_pos (Or.inl same.symm)]
    · obtain ⟨ai, stored, own⟩ := held
      rw [← uid'] at owner found
      exact absurd (owner u _ ai found stored own).symm apart
    · rw [← uid']
      let written : Db :=
        { db with users := db.users.put folded, identifiers := identifiers }
      have tidied : ({ prepared with users := prepared.users.put folded } : Db).cleanup casing u folded =
          if casing.lower u.inviteCode = u.accountId then written
          else written.dropIdentifier (casing.lower u.inviteCode) := by
        unfold cleanup
        dsimp only
        rw [moved, lower, if_pos rfl]
        by_cases shared : casing.lower u.inviteCode = u.accountId
        · rw [if_pos (Or.inr shared), if_pos shared]
        · rw [if_neg (by simp [shared, Ne.symm apart]), if_neg shared]
      have elsewhere : ∀ k, k ≠ casing.lower folded.inviteCode → k ≠ casing.lower u.inviteCode →
          identifiers.find k = db.identifiers.find k := by
        intro k other apart'
        rw [rows, if_neg other]
        cases stored : db.identifiers.find k with
        | none => rfl
        | some ai => simp [apart']
      have cleared : identifiers.find (casing.lower u.inviteCode) =
          (db.identifiers.find (casing.lower u.inviteCode)).map fun ai =>
            if ai.inviteOwnerUserID = some u.id then { ai with inviteOwnerUserID := none }
            else ai := by
        rw [rows, if_neg (Ne.symm apart)]
        simp [folded]
      rw [tidied]
      by_cases shared : casing.lower u.inviteCode = u.accountId
      · rw [if_pos shared]
        refine ⟨identifiers, uid' ▸ found, rfl, Or.inr ⟨apart, free, fun k => ?_⟩⟩
        by_cases here : k = casing.lower folded.inviteCode
        · rw [rows, if_pos here, if_pos here]
        · rw [if_neg here]
          by_cases left : k = casing.lower u.inviteCode
          · rw [if_pos left, left, cleared]
            cases stored : db.identifiers.find (casing.lower u.inviteCode) with
            | none => rfl
            | some ai =>
              have holds : ai.currentUserID = some uid := current ai (shared ▸ stored)
              by_cases own : ai.inviteOwnerUserID = some u.id <;>
                simp [own, holds, Option.filter, AccountIdentifier.claimed]
          · rw [if_neg left, elsewhere k here left]
      · rw [if_neg shared]
        refine ⟨(written.dropIdentifier (casing.lower u.inviteCode)).identifiers, uid' ▸ found, rfl,
          Or.inr ⟨apart, free, fun k => ?_⟩⟩
        rw [find_dropIdentifier]
        by_cases here : k = casing.lower folded.inviteCode
        · rw [if_neg (here.trans_ne apart), if_pos here]
          exact (rows k).trans (if_pos here)
        · rw [if_neg here]
          by_cases left : k = casing.lower u.inviteCode
          · rw [if_pos left, if_pos left, left]
            exact congrArg (Option.filter _) cleared
          · rw [if_neg left, if_neg left]
            exact elsewhere k here left

end Db

end CircleBackend.Fancy
