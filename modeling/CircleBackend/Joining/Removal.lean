import CircleBackend.Joining.Statuses
import CircleBackend.Joining.Accounting

/-!
# Removals

`PENDING` rows are cancelled when a user leaves or is removed, `INVITED` ones are not.
Where there are none, the rows from before the removal are closed, and stay so: only a
new row brings the user in again.
-/

namespace CircleBackend.Joining

open Library Memberships
open CircleBackend.Circle (CircleMemberRole CircleMemberStatus)
open Session (UserId)

/-- Whom an act takes out of which circle. -/
def Act.removes : Act → Option (UserId × CircleId)
  | .leaveCircle userId circleId => some (userId, circleId)
  | .leaveGroup userId circleId => some (userId, circleId)
  | .removeGroupMember _ circleId targetUserId _ => some (targetUserId, circleId)
  | _ => none

namespace Db

variable {db db' : Db}

/-- An offer to the user is open. -/
def offered (db : Db) (u : UserId) (c : CircleId) : Bool :=
  db.invitations.rows.any fun i => i.circleID = c && i.applicantID = u && i.status = .invited

variable {act : Act} {c : CircleId} {u : UserId}

/-- The rows are those of before, without what was pending of the user. -/
theorem removed_rows (removal : act.removes = some (u, c)) (step : Step db act db') :
    db'.invitations = (db.cancelPendingInvitations c [u]).invitations := by
  have drops : Drops db u c db' := by
    cases act with
    | leaveCircle userId circleId => cases removal; exact leaveCircle_drops step
    | leaveGroup userId circleId => cases removal; exact leaveGroup_drops step
    | removeGroupMember actorId circleId targetUserId console =>
      cases removal
      exact removeGroupMember_drops step
    | _ => cases removal
  cases drops with
  | absent cancelled => rw [cancelled]
  | deleted m member h => exact (deleteMember_ballots h).1

/-- Where no offer is open, a removal leaves nothing open. -/
theorem removed_closed {i : CircleInvitation}
    (removal : act.removes = some (u, c)) (step : Step db act db') (clear : db.offered u c = false)
    (found : db'.invitations.find i.id = some i) (circle : i.circleID = c)
    (applicant : i.applicantID = u) : i.status.isOpen = false := by
  rw [removed_rows removal step, cancelPendingInvitations_find] at found
  obtain ⟨j, there, same⟩ := Option.map_eq_some_iff.mp found
  split at same
  · rw [← same]
    rfl
  · rename_i kept
    subst same
    have not_pending : j.status ≠ .pending := by
      intro pending
      exact kept ⟨circle, by simp [applicant], pending⟩
    have not_invited : j.status ≠ .invited := by
      intro invited
      have idle := List.any_eq_false.mp clear j (Table.find_mem there)
      simp [circle, applicant, invited] at idle
    cases status : j.status with
    | invited => exact absurd status not_invited
    | pending => exact absurd status not_pending
    | approved | rejected | adminApproved | cancelled => rfl

theorem run_follows {acts : List Act} (run : Run Step db acts db') : RowsFollow db db' :=
  run.preserves (P := fun after => RowsFollow db after)
    (fun _ _ _ step so_far => so_far.trans (commit_turns step).rowsFollow) (rowsFollow_of_same rfl)

/-- A row that brings a user in was not there, or was open, in every earlier state. -/
theorem Admits.was_open {acts : List Act} {before after : Db} {i old : CircleInvitation}
    (run : Run Step db acts before) (step : Step before act after)
    (admits : Admits before after u c i) (found : db.invitations.find i.id = some old) :
    old.circleID = c ∧ old.applicantID = u ∧ old.status.isOpen = true := by
  obtain ⟨mid, there, follows⟩ := run_follows run i.id old found
  obtain ⟨last, here, follows'⟩ := (commit_turns step).rowsFollow i.id mid there
  rw [admits.found] at here
  cases here
  refine ⟨?_, ?_, ?_⟩
  · rw [← follows.circle, ← follows'.circle, admits.circle]
  · rw [← follows.applicant, ← follows'.applicant, admits.applicant]
  · by_contra closed
    have closed := Bool.not_eq_true _ ▸ closed
    obtain rfl := follows.closed closed
    obtain rfl := follows'.closed closed
    exact admits.changed _ there rfl

/-! ## Circles stay -/

theorem Moves.circle_kept {now : Time} (h : Moves db now db')
    (there : (db.circles.find c).isSome = true) : (db'.circles.find c).isSome = true := by
  have updated : ∀ (id : CircleId) (circle : Circle),
      db'.circles.find = Function.update db.circles.find id (some circle) →
        (db'.circles.find c).isSome = true := by
    intro id circle rows
    rw [rows]
    by_cases here : c = id
    · rw [here, Function.update_self]
      rfl
    · rw [Function.update_of_ne here]
      exact there
  cases h with
  | still h =>
    have same := congrArg Option.isSome (h.counts c)
    rw [Option.isSome_map, Option.isSome_map] at same
    rw [same]
    exact there
  | activates before members circles users program h =>
    rw [← circles] at updated there
    rcases h.seats with ⟨-, same⟩ | ⟨circle, -, -, -, -, rows⟩
    · rw [same]
      exact there
    · exact updated _ _ rows
  | founds circle fresh alive one max members circles => exact updated _ _ circles
  | loses m circle member active found members circles => exact updated _ _ circles

theorem removed_circle (fit : Accounted db) (removal : act.removes = some (u, c))
    (step : Step db act db') : (db.circles.find c).isSome = true := by
  cases act with
  | leaveCircle userId circleId =>
    cases removal
    obtain ⟨m, member, -⟩ := bind_ok step
    exact fit.housed u c (Option.isSome_of_eq_some (orThrow_ok member))
  | leaveGroup userId circleId =>
    cases removal
    obtain ⟨circle, found, -⟩ := bind_ok step
    exact Option.isSome_of_eq_some (orThrow_ok found)
  | removeGroupMember actorId circleId targetUserId console =>
    cases removal
    obtain ⟨circle, found, -⟩ := bind_ok step
    exact Option.isSome_of_eq_some (orThrow_ok found)
  | _ => cases removal

/-- Nobody creates a circle that is there. -/
theorem not_founded {userId : UserId} {dto : CreateCircleDto} {now : Time}
    (there : (db.circles.find c).isSome = true) (h : db.createCircle userId dto c now = .ok db') :
    False := by
  obtain ⟨_, -, h⟩ := bind_ok h
  obtain ⟨_, -, h⟩ := bind_ok h
  obtain ⟨_, -, h⟩ := bind_ok h
  obtain ⟨_, -, h⟩ := bind_ok h
  obtain ⟨_, -, h⟩ := bind_ok h
  obtain ⟨circles, inserted, -⟩ := bind_ok h
  have fresh := Table.insert_fresh (orThrow_ok inserted)
  dsimp only at fresh
  rw [fresh] at there
  cases there

end Db

/-- Where no offer to the user is open when the user is removed, whatever happens
afterwards: the user comes in again on a row of after the removal only. -/
theorem removal_final {before after : List Act} {s removed t t' : Db} {removal act : Act}
    {u : UserId} {c : CircleId} (run : Run Step Db.empty before s)
    (removes : removal.removes = some (u, c)) (step : Step s removal removed)
    (clear : s.offered u c = false) (later : Run Step removed after t) (admission : Step t act t')
    (outside : t.isActive u c = false) (inside : t'.isActive u c = true) :
    (∃ i, Db.Admits t t' u c i) ∧
      ∀ i, Db.Admits t t' u c i → removed.invitations.find i.id = none := by
  constructor
  · rcases (Db.commit_turns admission).admits outside inside with ⟨dto, now, rfl⟩ | admits
    · have there := (Db.commit_moves step).circle_kept
        (Db.removed_circle (accounted run) removes step)
      have kept : (t.circles.find c).isSome = true :=
        later.preserves (P := fun db => (db.circles.find c).isSome = true)
          (fun _ _ _ next => (Db.commit_moves next).circle_kept) there
      exact (Db.not_founded kept admission).elim
    · exact admits
  · intro i admits
    cases found : removed.invitations.find i.id with
    | none => rfl
    | some old =>
      have own : old.id = i.id := Table.find_key found
      obtain ⟨circle, applicant, isOpen⟩ := admits.was_open later admission found
      have closed := Db.removed_closed removes step clear (own ▸ found) circle applicant
      rw [closed] at isOpen
      cases isOpen

/-! ## Two removals -/

/-- The owner removes user 2, who applies again. -/
def removedDb : Db := (admitted.after [.removeGroupMember 1 10 2 false]).getD admitted

def reapplied : Db := (removedDb.after [.joinCircle 2 10 (callAt 3 1)]).getD removedDb

def readmitted : Db := (reapplied.after [.adminApprove 1 1 (callAt 4 1)]).getD reapplied

theorem removal_final_reapplied :
    (∃ i, Db.Admits reapplied readmitted 2 10 i) ∧
      ∀ i, Db.Admits reapplied readmitted 2 10 i → removedDb.invitations.find i.id = none := by
  have run : Run Step Db.empty (applyingActs ++ [.adminApprove 1 0 (callAt 2 0)]) admitted :=
    run_of_after rfl
  have removal : Step admitted (.removeGroupMember 1 10 2 false) removedDb := rfl
  have later : Run Step removedDb [.joinCircle 2 10 (callAt 3 1)] reapplied := run_of_after rfl
  have admission : Step reapplied (.adminApprove 1 1 (callAt 4 1)) readmitted := rfl
  exact removal_final run rfl removal (by decide) later admission (by decide) (by decide)

/-- User 2 has an offer, applies, is admitted by the owner and removed again. -/
def offeredActs : List Act :=
  foundingActs ++ [.invite 1 2 10 (callAt 1 0), .joinCircle 2 10 (callAt 2 1),
    .adminApprove 1 1 (callAt 3 0)]

def offeredDb : Db := (Db.empty.after offeredActs).getD Db.empty

def expelled : Db := (offeredDb.after [.removeGroupMember 1 10 2 false]).getD offeredDb

/-- The offer as it has been all along. -/
def standingOffer : CircleInvitation :=
  { id := 0
    circleID := 10
    applicantID := 2
    inviterID := 1
    source := .invite
    requiredCount := ⟨1, one_verifier⟩
    approvedCount := 1
    status := .invited
    consentNoticeRequired := true
    createdAt := 1 }

def offerLoaded : Db := (expelled.after [.loadInvitation 0]).getD expelled

def offerAccepted : Db :=
  (offerLoaded.after [.respondToInvitation 2 standingOffer true (callAt 4 0)]).getD offerLoaded

/-- The offer from before the removal brings the user in after it. -/
theorem offer_survives_removal :
    Run Step Db.empty offeredActs offeredDb ∧
    Step offeredDb (.removeGroupMember 1 10 2 false) expelled ∧
    Run Step expelled [.loadInvitation 0] offerLoaded ∧
    Step offerLoaded (.respondToInvitation 2 standingOffer true (callAt 4 0)) offerAccepted ∧
    offerLoaded.isActive 2 10 = false ∧ offerAccepted.isActive 2 10 = true ∧
    offeredDb.invitations.find 0 = some standingOffer ∧
    expelled.invitations.find 0 = some standingOffer ∧
    Db.Admits offerLoaded offerAccepted 2 10 { standingOffer with status := .approved } := by
  refine ⟨run_of_after rfl, rfl, run_of_after rfl, rfl, by decide, by decide, by decide, by decide,
    by decide, rfl, rfl, Or.inl rfl, fun old found => ?_⟩
  have here : offerLoaded.invitations.find 0 = some standingOffer := by decide
  rw [show ({ standingOffer with status := .approved } : CircleInvitation).id = 0 from rfl,
    here] at found
  cases found
  decide

end CircleBackend.Joining
