import CircleBackend.Chat.Admission

/-!
# Nobody enters unasked

`Advance` is what a call may do to the rows of the admissions, and `Admits` is
all there is behind a seat that `join` opens. The calls are compositions of
three writes, each of which advances; consent is then an invariant of the
labels of a run.
-/

namespace CircleBackend.Chat

open Library
open Session (UserId)

/-! ## Runs -/

inductive AdmissionCall
  | createGroupConversation (userId : UserId) (conversationId : ConversationId)
      (memberIds : List UserId) (direct : UserId → Bool) (ids : UserId → AdmissionId) (now : Time)
  | invite (actor : UserId) (group : ConversationId) (rawUsers : List UserId)
      (ids : UserId → AdmissionId) (relations : Relations) (now : Time)
  | apply (user : UserId) (group : ConversationId) (reason : JsString) (id : AdmissionId)
      (now : Time)
  | acceptQr (user : UserId) (row : QrToken) (id : AdmissionId) (relations : Relations)
      (now : Time)
  | act (user : UserId) (id : AdmissionId) (action : AdmissionAction) (relations : Relations)
      (now : Time)

/-- With the admission that the caller is shown, if he is. -/
def AdmissionCall.run (s : AdmissionState) :
    AdmissionCall → Except Fault (Option AdmissionId × AdmissionState)
  | .createGroupConversation userId conversationId memberIds direct ids now =>
    s.createGroupConversation userId conversationId memberIds direct ids now >>=
      fun s => .ok (none, s)
  | .invite actor group rawUsers ids relations now =>
    s.invite actor group rawUsers ids relations now >>= fun s => .ok (none, s)
  | .apply user group reason id now => s.apply user group reason id now
  | .acceptQr user row id relations now => s.acceptQr user row id relations now
  | .act user id action relations now =>
    s.act user id action relations now >>= fun s => .ok (some id, s)

/-- The applicant's own accept, application or scan of this row. -/
def AdmissionCall.consents (user : UserId) (id : AdmissionId) (reply : Option AdmissionId) :
    AdmissionCall → Prop
  | .apply user' _ _ id' _ => user' = user ∧ id' = id ∧ reply = some id
  | .acceptQr user' _ id' _ _ => user' = user ∧ id' = id ∧ reply = some id
  | .act user' id' action _ _ => user' = user ∧ id' = id ∧ action = .accept
  | _ => False

/-- What else happens: the other acts on conversations, seats and policies, and
codes that are issued or withdrawn. -/
inductive AdmissionEntry
  | committed (c : AdmissionCall) (reply : Option AdmissionId)
  | refused (c : AdmissionCall)
  | chat (a : Act)
  | issued (tokens : Table QrToken JsString (·.token))

def Act.joins : Act → Bool
  | .govern (.join ..) => true
  | _ => false

inductive AdmissionStep : AdmissionState → AdmissionEntry → AdmissionState → Prop
  | committed {s t : AdmissionState} {c : AdmissionCall} {reply : Option AdmissionId} :
    c.run s = .ok (reply, t) → AdmissionStep s (.committed c reply) t
  | refused {s : AdmissionState} {c : AdmissionCall} {fault : Fault} :
    c.run s = .error fault → AdmissionStep s (.refused c) s
  | chat {s : AdmissionState} {a : Act} {db' : Db} :
    a.joins = false → ActStep s.db a db' → AdmissionStep s (.chat a) { s with db := db' }
  | issued {s : AdmissionState} (tokens : Table QrToken JsString (·.token)) :
    AdmissionStep s (.issued tokens) { s with tokens := tokens }

/-! ## What a call may do to the rows -/

/-- At most one active row for a group and an applicant. -/
def Single (s : AdmissionState) : Prop :=
  ∀ a ∈ s.admissions.rows, ∀ b ∈ s.admissions.rows, a.status.active = true →
    b.status.active = true → a.conversationID = b.conversationID →
    a.applicantID = b.applicantID → a = b

/-- A row keeps whose it is and a status that is final; acceptance comes with consent. -/
structure Handled (consents : UserId → AdmissionId → Prop) (a a' : GroupAdmission) : Prop where
  conversationID : a'.conversationID = a.conversationID
  applicantID : a'.applicantID = a.applicantID
  final : a.status.active = false → a'.status = a.status
  accepted : a'.acceptedAt = a.acceptedAt ∨ consents a.applicantID a.id

structure Advance (consents : UserId → AdmissionId → Prop) (s t : AdmissionState) : Prop where
  kept : ∀ id a, s.admissions.find id = some a →
    ∃ a', t.admissions.find id = some a' ∧ Handled consents a a'
  fresh : ∀ id a', t.admissions.find id = some a' → s.admissions.find id = none →
    a'.acceptedAt = none ∨ a'.status.active = false ∨ consents a'.applicantID id
  single : Single s → Single t

theorem Handled.refl (consents : UserId → AdmissionId → Prop) (a : GroupAdmission) :
    Handled consents a a :=
  ⟨rfl, rfl, fun _ => rfl, Or.inl rfl⟩

variable {a : GroupAdmission} {s t : AdmissionState} {user : UserId} {g : ChatConversation}
variable {relations : Relations} {reply : Option AdmissionId} {id : AdmissionId}

theorem Handled.trans {consents : UserId → AdmissionId → Prop} {b c : GroupAdmission}
    (id : b.id = a.id) (h : Handled consents a b) (g : Handled consents b c) : Handled consents a c := by
  refine ⟨g.conversationID.trans h.conversationID, g.applicantID.trans h.applicantID, ?_, ?_⟩
  · intro final
    have same := h.final final
    exact (g.final (same ▸ final)).trans same
  · rcases g.accepted with same | consented
    · rcases h.accepted with same' | consented
      · exact Or.inl (same.trans same')
      · exact Or.inr consented
    · exact Or.inr (h.applicantID ▸ id ▸ consented)

namespace Advance

variable {consents : UserId → AdmissionId → Prop} {s t u : AdmissionState}

theorem of_rows (h : t.admissions = s.admissions) : Advance consents s t := by
  refine ⟨?_, ?_, ?_⟩
  · intro id a found
    exact ⟨a, h ▸ found, .refl _ a⟩
  · intro id a' found absent
    rw [h, absent] at found
    cases found
  · intro single
    unfold Single at *
    rw [h]
    exact single

theorem refl (consents : UserId → AdmissionId → Prop) (s : AdmissionState) : Advance consents s s :=
  of_rows rfl

theorem trans (h : Advance consents s t) (g : Advance consents t u) : Advance consents s u := by
  refine ⟨?_, ?_, fun single => g.single (h.single single)⟩
  · intro id a found
    obtain ⟨a₁, found₁, moved₁⟩ := h.kept id a found
    obtain ⟨a₂, found₂, moved₂⟩ := g.kept id a₁ found₁
    have same : a₁.id = a.id := (Table.find_key found₁).trans (Table.find_key found).symm
    exact ⟨a₂, found₂, moved₁.trans same moved₂⟩
  · intro id a' found absent
    cases middle : t.admissions.find id with
    | none => exact g.fresh id a' found middle
    | some a₁ =>
      obtain ⟨a₂, found₂, moved⟩ := g.kept id a₁ middle
      have same : a₂ = a' := Option.some.inj (found₂.symm.trans found)
      subst same
      have own : a₁.id = id := Table.find_key middle
      rcases h.fresh id a₁ middle absent with unaccepted | final | consented
      · rcases moved.accepted with same | consented
        · exact Or.inl (same.trans unaccepted)
        · exact Or.inr (Or.inr (moved.applicantID.symm ▸ own ▸ consented))
      · exact Or.inr (Or.inl ((moved.final final).symm ▸ final))
      · exact Or.inr (Or.inr (moved.applicantID.symm ▸ consented))

/-- A row that was looked up is written back. -/
theorem update {a : GroupAdmission} (a' : GroupAdmission) (put : t.admissions = s.admissions.put a')
    (found : s.admissions.find a.id = some a) (id : a'.id = a.id) (moved : Handled consents a a')
    (inactive : a'.status.active = true → a.status.active = true) : Advance consents s t := by
  have found' : s.admissions.find a'.id = some a := by rw [id, found]
  have written : ∀ k, t.admissions.find k =
      if k = a'.id then some a' else s.admissions.find k := by
    intro k
    rw [put, Table.find_put_of_find found']
  refine ⟨?_, ?_, ?_⟩
  · intro k b there
    rw [written]
    split
    · rename_i here
      rw [here, found'] at there
      cases there
      exact ⟨a', rfl, moved⟩
    · exact ⟨b, there, .refl _ b⟩
  · intro k b there absent
    rw [written] at there
    split at there
    · rename_i here
      rw [here, found'] at absent
      cases absent
    · rw [absent] at there
      cases there
  · intro single b hb c hc activeB activeC conv applicant
    have origin : ∀ b ∈ t.admissions.rows, b.status.active = true →
        ∃ b₀ ∈ s.admissions.rows, b₀.id = b.id ∧ b₀.status.active = true ∧
          b₀.conversationID = b.conversationID ∧ b₀.applicantID = b.applicantID := by
      intro b hb active
      have there := Table.mem_find hb
      rw [written] at there
      split at there
      · cases there
        exact ⟨a, Table.find_mem found, id.symm, inactive active, moved.conversationID.symm,
          moved.applicantID.symm⟩
      · exact ⟨b, Table.find_mem there, rfl, active, rfl, rfl⟩
    obtain ⟨b₀, hb₀, idB, activeB₀, convB, applicantB⟩ := origin b hb activeB
    obtain ⟨c₀, hc₀, idC, activeC₀, convC, applicantC⟩ := origin c hc activeC
    have same : b₀ = c₀ := single b₀ hb₀ c₀ hc₀ activeB₀ activeC₀
      (convB.trans (conv.trans convC.symm)) (applicantB.trans (applicant.trans applicantC.symm))
    exact t.admissions.row_unique hb hc (idB.symm.trans (same ▸ idC))

theorem expire (s : AdmissionState) (group : ConversationId) (applicants : List UserId)
    (now : Time) : Advance consents s (s.expire group applicants now) := by
  have written : ∀ k, (s.expire group applicants now).admissions.find k =
      (s.admissions.find k).map fun a =>
        if a.conversationID = group && applicants.contains a.applicantID && a.status.active &&
          a.expiresAt ≤ now then { a with status := .expired } else a := by
    intro k
    simp only [AdmissionState.expire, Table.find_updateMany]
  have origin : ∀ b ∈ (s.expire group applicants now).admissions.rows, b.status.active = true →
      b ∈ s.admissions.rows := by
    intro b hb active
    have there := Table.mem_find hb
    rw [written] at there
    obtain ⟨a, found, own⟩ := Option.map_eq_some_iff.mp there
    split at own
    · rw [← own] at active
      cases active
    · rw [← own]
      exact Table.find_mem found
  refine ⟨?_, ?_, ?_⟩
  · intro k a found
    rw [written, found, Option.map_some]
    refine ⟨_, rfl, ?_⟩
    split
    · rename_i due
      simp only [Bool.and_eq_true] at due
      refine ⟨rfl, rfl, fun final => ?_, Or.inl rfl⟩
      rw [due.1.2] at final
      cases final
    · exact .refl _ a
  · intro k a' found absent
    rw [written, absent] at found
    cases found
  · intro single b hb c hc activeB activeC
    exact single b (origin b hb activeB) c (origin c hc activeC) activeB activeC

theorem create {a : GroupAdmission} (created : s.create a = .ok t)
    (consented : a.acceptedAt = none ∨ a.status.active = false ∨ consents a.applicantID a.id) :
    Advance consents s t := by
  unfold AdmissionState.create at created
  split at created
  · cases created
  · rename_i free
    split at created
    · cases created
    · rename_i admissions inserted
      cases created
      refine ⟨?_, ?_, ?_⟩
      · intro k b found
        refine ⟨b, ?_, .refl _ b⟩
        change admissions.find k = some b
        rw [Table.find_insert inserted, if_neg, found]
        rintro rfl
        rw [Table.insert_fresh inserted] at found
        cases found
      · intro k b found absent
        change admissions.find k = some b at found
        rw [Table.find_insert inserted] at found
        split at found
        · rename_i own
          cases found
          exact own ▸ consented
        · rw [absent] at found
          cases found
      · intro single b hb c hc activeB activeC conv applicant
        have apart : ∀ b ∈ s.admissions.rows, b.status.active = true → a.status.active = true →
            b.conversationID = a.conversationID → b.applicantID ≠ a.applicantID := by
          intro b hb activeB activeA conv applicant
          apply free
          have member : b ∈ s.admissions.select fun b =>
              b.conversationID = a.conversationID && b.applicantID = a.applicantID &&
                b.status.active :=
            Table.mem_select.mpr ⟨hb, by simp [conv, applicant, activeB]⟩
          rw [activeA, Bool.true_and]
          unfold AdmissionState.active
          cases rows : s.admissions.select fun b =>
              b.conversationID = a.conversationID && b.applicantID = a.applicantID &&
                b.status.active with
          | nil =>
            rw [rows] at member
            cases member
          | cons => rfl
        rcases (Table.mem_insert inserted).mp hb with oldB | rfl
        · rcases (Table.mem_insert inserted).mp hc with oldC | rfl
          · exact single b oldB c oldC activeB activeC conv applicant
          · exact absurd applicant (apart b oldB activeB activeC conv)
        · rcases (Table.mem_insert inserted).mp hc with oldC | rfl
          · exact absurd applicant.symm (apart c oldC activeC activeB conv.symm)
          · rfl

/-- Rows that nobody has accepted, or that are final, one after another. -/
theorem createMany {s t : AdmissionState} {row : UserId → GroupAdmission} {users : List UserId}
    (created : users.foldlM (fun s user => s.create (row user)) s = .ok t)
    (unaccepted : ∀ user, (row user).acceptedAt = none ∨ (row user).status.active = false) :
    Advance consents s t := by
  induction users generalizing s with
  | nil =>
    cases created
    exact .refl consents _
  | cons user rest ih =>
    rw [List.foldlM_cons] at created
    obtain ⟨mid, first, last⟩ := bind_ok created
    have one : Advance consents s mid := by
      apply create first
      rcases unaccepted user with accepted | final
      · exact Or.inl accepted
      · exact Or.inr (Or.inl final)
    exact one.trans (ih last)

end Advance

/-! ## What stands behind a seat -/

/-- The source of the admission is still good. -/
structure Sourced (s : AdmissionState) (g : ChatConversation) (a : GroupAdmission) (now : Time) :
    Prop where
  unbanned : (g.id, a.applicantID) ∉ s.bans
  unexpired : now < a.expiresAt
  card : a.kind = .application → g.cardJoinEnabled = true
  inviter : a.kind ≠ .application → ∃ i seat, a.inviterID = some i ∧
    s.db.members.find (g.id, i) = some seat ∧ seat.leftAt = none ∧
    (g.memberCanInvite = true ∨ s.manager g i = true)
  code : a.kind = .qr → g.qrJoinEnabled = true ∧ ∃ i token, a.inviterID = some i ∧
    a.qrToken.bind s.tokens.find = some token ∧ token.type = .group ∧ token.targetID = g.id ∧
    token.issuerID = i ∧ token.revokedAt = none ∧ ∀ t, token.expiresAt = some t → now < t

variable {group cid : ConversationId} {actor u : UserId} {e : AdmissionEntry}

theorem assertGroupJoinAllowed_ok
    (h : s.assertGroupJoinAllowed group [user] = .ok ()) : (group, user) ∉ s.bans := by
  unfold AdmissionState.assertGroupJoinAllowed at h
  split at h
  · cases h
  · rename_i free
    simpa using free

theorem assertInviter_ok {i : UserId} (h : s.assertInviter g i = .ok ()) :
    ∃ seat, s.db.members.find (g.id, i) = some seat ∧ seat.leftAt = none ∧
      (g.memberCanInvite = true ∨ s.manager g i = true) := by
  unfold AdmissionState.assertInviter at h
  split at h
  · cases h
  · rename_i seated
    split at h
    · cases h
    · rename_i allowed
      obtain ⟨seat, found⟩ := Option.ne_none_iff_exists'.mp (mt Option.isNone_iff_eq_none.mpr seated)
      obtain ⟨there, present⟩ := seat_of_filter found
      refine ⟨seat, there, present, ?_⟩
      cases open' : g.memberCanInvite with
      | true => exact Or.inl rfl
      | false => simpa [open'] using allowed

theorem currentToken_some {i : UserId} {now : Time} (h : s.currentToken g a i now = true) :
    ∃ token, a.qrToken.bind s.tokens.find = some token ∧ token.type = .group ∧
      token.targetID = g.id ∧ token.issuerID = i ∧ token.revokedAt = none ∧
      ∀ t, token.expiresAt = some t → now < t := by
  unfold AdmissionState.currentToken at h
  obtain ⟨token, found, checked⟩ := (Option.any_eq_true ..).mp h
  simp only [Bool.and_eq_true, decide_eq_true_eq, Option.isNone_iff_eq_none] at checked
  obtain ⟨⟨⟨⟨type, target⟩, issuer⟩, unrevoked⟩, unexpired⟩ := checked
  refine ⟨token, found, type, target, issuer, unrevoked, fun t expires => ?_⟩
  simpa [expires] using unexpired

theorem validateSource_ok {now : Time} (h : s.validateSource relations g a now = .ok ()) :
    Sourced s g a now := by
  obtain ⟨_, allowed, rest⟩ := bind_ok h
  have unbanned := assertGroupJoinAllowed_ok allowed
  split at rest
  · cases rest
  · rename_i unexpired
    have fresh : now < a.expiresAt := Nat.lt_of_not_le unexpired
    split at rest
    · rename_i kind
      split at rest
      · cases rest
      · rename_i card
        refine ⟨unbanned, fresh, fun _ => by simpa using card, fun other => absurd kind other, ?_⟩
        intro qr
        rw [kind] at qr
        cases qr
    · rename_i other
      split at rest
      · cases rest
      · rename_i i inviter
        obtain ⟨_, invites, rest⟩ := bind_ok rest
        obtain ⟨seat, there, present, may⟩ := assertInviter_ok invites
        refine ⟨unbanned, fresh, fun kind => absurd kind other,
          fun _ => ⟨i, seat, inviter, there, present, may⟩, fun qr => ?_⟩
        split at rest
        · rename_i kind
          rw [qr] at kind
          cases kind
        · split at rest
          · cases rest
          · rename_i open'
            split at rest
            · cases rest
            · rename_i valid
              obtain ⟨token, found, checked⟩ := currentToken_some (by simpa using valid)
              exact ⟨by simpa using open', i, token, inviter, found, checked⟩

/-- The rows do not tell how good a source is. -/
theorem Sourced.of_eq {now : Time} (h : Sourced t g a now) (db : t.db = s.db)
    (bans : t.bans = s.bans) (tokens : t.tokens = s.tokens) : Sourced s g a now := by
  have manager : ∀ user, t.manager g user = s.manager g user := by
    intro user
    simp only [AdmissionState.manager, AdmissionState.activeSeat, db]
  refine ⟨bans ▸ h.unbanned, h.unexpired, h.card, fun other => ?_, fun qr => ?_⟩
  · obtain ⟨i, seat, own, there, present, may⟩ := h.inviter other
    exact ⟨i, seat, own, db ▸ there, present, manager i ▸ may⟩
  · obtain ⟨open', i, token, own, found, checked⟩ := h.code qr
    exact ⟨open', i, token, own, tokens ▸ found, checked⟩

theorem create_ok (h : s.create a = .ok t) :
    t.db = s.db ∧ t.bans = s.bans ∧ t.tokens = s.tokens ∧ t.admissions.find a.id = some a := by
  unfold AdmissionState.create at h
  split at h
  · cases h
  · split at h
    · cases h
    · rename_i admissions inserted
      cases h
      exact ⟨rfl, rfl, rfl, by rw [Table.find_insert inserted, if_pos rfl]⟩

theorem update_find (a' : GroupAdmission)
    (found : s.admissions.find a'.id = some a) : (s.update a').admissions.find a'.id = some a' := by
  rw [AdmissionState.update, Table.find_put_of_find found, if_pos rfl]

theorem createMany_db {row : UserId → GroupAdmission} {users : List UserId}
    (h : users.foldlM (fun s user => s.create (row user)) s = .ok t) : t.db = s.db := by
  induction users generalizing s with
  | nil =>
    cases h
    rfl
  | cons user rest ih =>
    rw [List.foldlM_cons] at h
    obtain ⟨mid, first, last⟩ := bind_ok h
    exact (ih last).trans (create_ok first).1

theorem join_ok {now : Time} (h : s.join relations g a actor now = .ok t) :
    a.acceptedAt ≠ none ∧ ∃ db', s.db.openSeat g a.applicantID now = .ok db' ∧
      t = { s with db := db' }.update { a with status := .joined, decidedByID := some actor } := by
  unfold AdmissionState.join at h
  split at h
  · cases h
  · rename_i accepted
    split at h
    · cases h
    · obtain ⟨db', opened, rest⟩ := bind_ok h
      cases rest
      exact ⟨by simpa using accepted, db', opened, rfl⟩

def AdmissionCall.now : AdmissionCall → Time
  | .createGroupConversation _ _ _ _ _ now | .invite _ _ _ _ _ now | .apply _ _ _ _ now
  | .acceptQr _ _ _ _ now | .act _ _ _ _ now => now

/-- The seat of an admission is opened by a call. -/
structure Admits (s : AdmissionState) (c : AdmissionCall) (reply : Option AdmissionId)
    (t : AdmissionState) (g : ChatConversation) (a : GroupAdmission) : Prop where
  locked : s.db.lockAdmission a.conversationID = .ok g
  opened : s.db.openSeat g a.applicantID c.now = .ok t.db
  accepted : a.acceptedAt ≠ none
  origin : s.admissions.find a.id = some a ∧ a.status = .pending ∨
    c.consents a.applicantID a.id reply
  approved : s.requiresApproval g a = true → ∃ user relations,
    c = .act user a.id .approve relations c.now ∧ s.manager g user = true
  sourced : Sourced s g a c.now
  joined : ∃ decider, t.admissions.find a.id =
    some { a with status := .joined, decidedByID := some decider }

def AdmissionCall.creates : AdmissionCall → Bool
  | .createGroupConversation .. => true
  | _ => false

/-- What a call that commits has done. -/
structure CallTaken (s : AdmissionState) (c : AdmissionCall) (reply : Option AdmissionId)
    (t : AdmissionState) : Prop where
  rows : Advance (fun user id => c.consents user id reply) s t
  seats : c.creates = true ∨ t.db = s.db ∨ ∃ g a, Admits s c reply t g a

/-- The join of an admission that is in the table. -/
theorem joined_advance {consents : UserId → AdmissionId → Prop}
    {now : Time} (found : s.admissions.find a.id = some a) (pending : a.status = .pending)
    (h : s.join relations g a actor now = .ok t) :
    Advance consents s t ∧ t.admissions.find a.id =
      some { a with status := .joined, decidedByID := some actor } := by
  obtain ⟨-, db', -, rfl⟩ := join_ok h
  constructor
  · refine .update _ rfl found rfl ⟨rfl, rfl, fun final => ?_, Or.inl rfl⟩ ?_
    · rw [pending] at final
      cases final
    · intro active
      cases active
  · exact update_find { a with status := .joined, decidedByID := some actor } found

/-! ## Each call -/

theorem createGroupConversation_taken
    {memberIds : List UserId} {direct : UserId → Bool} {ids : UserId → AdmissionId} {now : Time}
    (h : s.createGroupConversation u cid memberIds direct ids now = .ok t) :
    CallTaken s (.createGroupConversation u cid memberIds direct ids now) reply t := by
  obtain ⟨db', -, created⟩ := bind_ok h
  have same : Advance (fun user id => AdmissionCall.consents user id reply
      (.createGroupConversation u cid memberIds direct ids now)) s { s with db := db' } :=
    .of_rows rfl
  refine ⟨same.trans (.createMany created fun user => ?_), Or.inl rfl⟩
  dsimp only
  split
  · exact Or.inr rfl
  · exact Or.inl rfl

theorem invite_taken {rawUsers : List UserId} {ids : UserId → AdmissionId} {now : Time}
    (h : s.invite actor group rawUsers ids relations now = .ok t) :
    CallTaken s (.invite actor group rawUsers ids relations now) reply t := by
  unfold AdmissionState.invite at h
  dsimp only at h
  split at h
  · cases h
  · obtain ⟨g, -, h⟩ := bind_ok h
    obtain ⟨_, -, h⟩ := bind_ok h
    obtain ⟨_, -, h⟩ := bind_ok h
    unfold AdmissionState.inviteBatch at h
    dsimp only at h
    split at h
    · cases h
      exact ⟨.refl .., Or.inr (Or.inl rfl)⟩
    · obtain ⟨_, -, created⟩ := bind_ok h
      have kept := createMany_db created
      refine ⟨(Advance.expire ..).trans (.createMany created fun _ => Or.inl rfl), ?_⟩
      exact Or.inr (Or.inl kept)

theorem apply_taken {reason : JsString} {now : Time}
    (h : s.apply user group reason id now = .ok (reply, t)) :
    CallTaken s (.apply user group reason id now) reply t := by
  obtain ⟨g, -, h⟩ := bind_ok h
  split at h
  · cases h
  · split at h
    · cases h
      exact ⟨.refl .., Or.inr (Or.inl rfl)⟩
    · obtain ⟨_, -, h⟩ := bind_ok h
      dsimp only at h
      split at h
      · cases h
        exact ⟨.expire .., Or.inr (Or.inl rfl)⟩
      · obtain ⟨s', created, rest⟩ := bind_ok h
        cases rest
        refine ⟨(Advance.expire ..).trans (.create created ?_), Or.inr (Or.inl ?_)⟩
        · exact Or.inr (Or.inr ⟨rfl, rfl, rfl⟩)
        · exact (create_ok created).1

theorem acceptQr_taken {row : QrToken} {now : Time}
    (h : s.acceptQr user row id relations now = .ok (reply, t)) :
    CallTaken s (.acceptQr user row id relations now) reply t := by
  unfold AdmissionState.acceptQr at h
  split at h
  · cases h
  · obtain ⟨g, locked, h⟩ := bind_ok h
    dsimp only at h
    split at h
    · cases h
      exact ⟨.refl .., Or.inr (Or.inl rfl)⟩
    · obtain ⟨_, -, h⟩ := bind_ok h
      split at h
      · split at h
        · cases h
          exact ⟨.expire .., Or.inr (Or.inl rfl)⟩
        · cases h
      · obtain ⟨s₁, created, h⟩ := bind_ok h
        obtain ⟨_, valid, h⟩ := bind_ok h
        obtain ⟨db, bans, tokens, found⟩ := create_ok created
        have sourced := (validateSource_ok valid).of_eq (s := s) db bans tokens
        split at h
        · rename_i free
          obtain ⟨s₂, joined, rest⟩ := bind_ok h
          cases rest
          obtain ⟨moved, written⟩ := joined_advance found rfl joined
          obtain ⟨accepted, db', opened, same⟩ := join_ok joined
          have own : g.id = row.targetID := (lockAdmission_ok locked).2.2.2.1
          have opened' : s.db.openSeat g user now = .ok t.db := by
            have before : s₁.db = s.db := db
            rw [same, ← before]
            exact opened
          refine ⟨((Advance.expire ..).trans (.create created ?_)).trans moved, ?_⟩
          · exact Or.inr (Or.inr ⟨rfl, rfl, rfl⟩)
          · refine Or.inr (Or.inr ⟨g, _, own ▸ locked, opened', accepted, Or.inr ⟨rfl, rfl, rfl⟩,
              fun required => ?_, sourced, _, written⟩)
            simp [AdmissionState.requiresApproval] at required free
            rw [free] at required
            cases required
        · cases h
          refine ⟨(Advance.expire ..).trans (.create created ?_), Or.inr (Or.inl db)⟩
          exact Or.inr (Or.inr ⟨rfl, rfl, rfl⟩)

theorem accept_taken {now : Time} (found : s.admissions.find a.id = some a)
    (locked : s.db.lockAdmission a.conversationID = .ok g) (own : a.applicantID = user)
    (h : s.accept relations g a user now = .ok t) :
    CallTaken s (.act user a.id .accept relations now) reply t := by
  obtain ⟨_, valid, h⟩ := bind_ok h
  have sourced := validateSource_ok valid
  split at h
  · cases h
    exact ⟨.refl .., Or.inr (Or.inl rfl)⟩
  · split at h
    · cases h
    · rename_i invited
      have status : a.status = .invited := not_not.mp invited
      have consented : AdmissionCall.consents a.applicantID a.id reply
          (.act user a.id .accept relations now) := ⟨own.symm, rfl, rfl⟩
      have written := update_find (s := s)
        { a with acceptedAt := some now, status := .pending } found
      have moved : Advance (fun user' id => AdmissionCall.consents user' id reply
          (.act user a.id .accept relations now)) s
          (s.update { a with acceptedAt := some now, status := .pending }) := by
        refine .update _ rfl found rfl ⟨rfl, rfl, fun final => ?_, Or.inr consented⟩ fun _ => ?_
        · rw [status] at final
          cases final
        · rw [status]
          rfl
      dsimp only at h
      split at h
      · rename_i free
        obtain ⟨moved', joined⟩ := joined_advance written rfl h
        obtain ⟨accepted, db', opened, same⟩ := join_ok h
        refine ⟨moved.trans moved', Or.inr (Or.inr
          ⟨g, { a with acceptedAt := some now, status := .pending }, locked, ?_, accepted,
            Or.inr consented, fun required => ?_, ?_, _, joined⟩)⟩
        · rw [same]
          exact opened
        · have required' : (s.update { a with acceptedAt := some now, status := .pending
              }).requiresApproval g { a with acceptedAt := some now, status := .pending } = true :=
            required
          rw [required'] at free
          cases free
        · exact ⟨sourced.unbanned, sourced.unexpired, sourced.card, sourced.inviter, sourced.code⟩
      · cases h
        exact ⟨moved, Or.inr (Or.inl rfl)⟩

theorem review_taken {action : AdmissionAction} {approved : Bool} {now : Time}
    (found : s.admissions.find a.id = some a) (locked : s.db.lockAdmission a.conversationID = .ok g)
    (manages : s.manager g user = true) (approves : approved = true → action = .approve)
    (h : s.review relations g a user approved now = .ok t) :
    CallTaken s (.act user a.id action relations now) reply t := by
  unfold AdmissionState.review at h
  cases approved with
  | false =>
    split at h
    · cases h
    · rename_i pending
      simp only [Bool.or_eq_true, not_or, decide_eq_true_eq, not_not] at pending
      cases h
      refine ⟨.update _ rfl found rfl ⟨rfl, rfl, fun final => ?_, Or.inl rfl⟩ ?_, Or.inr (Or.inl rfl)⟩
      · rw [pending.1] at final
        cases final
      · intro active
        cases active
  | true =>
    cases approves rfl
    obtain ⟨_, valid, h⟩ := bind_ok h
    split at h
    · cases h
    · rename_i pending
      simp only [Bool.or_eq_true, not_or, decide_eq_true_eq, not_not] at pending
      have sourced := validateSource_ok valid
      obtain ⟨moved, joined⟩ := joined_advance found pending.1 h
      obtain ⟨accepted, db', opened, same⟩ := join_ok h
      refine ⟨moved, Or.inr (Or.inr ⟨g, a, locked, ?_, accepted, Or.inl ⟨found, pending.1⟩,
        fun _ => ⟨user, relations, rfl, manages⟩, sourced, _, joined⟩)⟩
      rw [same]
      exact opened

theorem blacklist_taken {now : Time}
    (found : s.admissions.find a.id = some a) (h : s.blacklist g a user = .ok t) :
    CallTaken s (.act user a.id .blacklist relations now) reply t := by
  unfold AdmissionState.blacklist at h
  dsimp only at h
  split at h
  · cases h
  · split at h
    · cases h
    · rename_i status
      split at h
      · cases h
        exact ⟨.refl .., Or.inr (Or.inl rfl)⟩
      · cases h
        refine ⟨.update { a with status := .rejected, decidedByID := some user } rfl found rfl
          ⟨rfl, rfl, fun final => ?_, Or.inl rfl⟩ fun active => ?_, Or.inr (Or.inl rfl)⟩
        · cases own : a.status <;> simp_all [AdmissionStatus.active]
        · cases active

theorem action_taken {action : AdmissionAction} {now : Time}
    (h : s.act user id action relations now = .ok t) :
    CallTaken s (.act user id action relations now) reply t := by
  unfold AdmissionState.act at h
  split at h
  · cases h
  · rename_i a found
    have own : a.id = id := Table.find_key found
    subst own
    obtain ⟨g, locked, rest⟩ := bind_ok h
    generalize permitted :
      (if action.selfAction then decide (a.applicantID = user) else s.manager g user) = may at rest
    cases may with
    | false => cases rest
    | true =>
      rw [Bool.not_true, if_neg Bool.false_ne_true] at rest
      split at rest
      · rename_i blacklists
        subst blacklists
        exact blacklist_taken found rest
      · split at rest
        · cases rest
          exact ⟨.refl .., Or.inr (Or.inl rfl)⟩
        · split at rest
          · cases rest
          · split at rest
            · split at rest
              · cases rest
              · rename_i invited
                cases rest
                refine ⟨.update _ rfl found rfl ⟨rfl, rfl, fun final => ?_, Or.inl rfl⟩ fun active => ?_,
                  Or.inr (Or.inl rfl)⟩
                · rw [not_not.mp invited] at final
                  cases final
                · cases active
            · exact accept_taken found locked (by simpa [AdmissionAction.selfAction] using permitted) rest
            · rename_i declines accepts
              have manages : s.manager g user = true := by
                cases action with
                | decline => exact absurd rfl declines
                | accept => exact absurd rfl accepts
                | approve => exact permitted
                | reject => exact permitted
                | blacklist => exact permitted
              exact review_taken found locked manages (fun approves => by simpa using approves) rest

theorem call_taken {c : AdmissionCall} (h : c.run s = .ok (reply, t)) : CallTaken s c reply t := by
  cases c with
  | createGroupConversation =>
    obtain ⟨_, ok, same⟩ := bind_ok h
    cases same
    exact createGroupConversation_taken ok
  | invite =>
    obtain ⟨_, ok, same⟩ := bind_ok h
    cases same
    exact invite_taken ok
  | apply => exact apply_taken h
  | acceptQr => exact acceptQr_taken h
  | act =>
    obtain ⟨_, ok, same⟩ := bind_ok h
    cases same
    exact action_taken ok

/-! ## Invariants of a run -/

/-- Whatever has been accepted and is still open was accepted by the applicant. -/
def Consented (es : List AdmissionEntry) (s : AdmissionState) : Prop :=
  ∀ id a, s.admissions.find id = some a → a.acceptedAt ≠ none → a.status.active = true →
    ∃ c reply, .committed c reply ∈ es ∧ c.consents a.applicantID id reply

theorem Consented.step {es : List AdmissionEntry}
    (h : Consented es s) (step : AdmissionStep s e t) : Consented (es ++ [e]) t := by
  have older : ∀ {id a}, s.admissions.find id = some a → a.acceptedAt ≠ none →
      a.status.active = true →
      ∃ c reply, .committed c reply ∈ es ++ [e] ∧ c.consents a.applicantID id reply := by
    intro id a found accepted active
    obtain ⟨c, reply, member, consents⟩ := h id a found accepted active
    exact ⟨c, reply, List.mem_append_left _ member, consents⟩
  cases step with
  | refused => exact fun _ _ => older
  | chat => exact fun _ _ => older
  | issued => exact fun _ _ => older
  | @committed _ c reply ok =>
    have rows := (call_taken ok).rows
    have now : AdmissionEntry.committed c reply ∈ es ++ [.committed c reply] :=
      List.mem_append_right _ (List.mem_singleton.mpr rfl)
    intro id a' found' accepted active
    cases found : s.admissions.find id with
    | none =>
      rcases rows.fresh id a' found' found with unaccepted | final | consents
      · exact absurd unaccepted accepted
      · rw [active] at final
        cases final
      · exact ⟨c, reply, now, consents⟩
    | some a =>
      obtain ⟨a'', there, moved⟩ := rows.kept id a found
      have same : a'' = a' := Option.some.inj (there.symm.trans found')
      subst same
      have own : a.id = id := Table.find_key found
      rw [moved.applicantID]
      rcases moved.accepted with kept | consents
      · refine older found (kept ▸ accepted) ?_
        by_contra final
        have final := Bool.eq_false_iff.mpr final
        rw [moved.final final, final] at active
        cases active
      · exact ⟨c, reply, now, own ▸ consents⟩

/-- The row of an admission that is over. -/
def Over (id : AdmissionId) (status : AdmissionStatus) (s : AdmissionState) : Prop :=
  ∃ a, s.admissions.find id = some a ∧ a.status = status

/-- `u` came to his seat of `cid` by his own consent and a valid door. -/
structure Entered (es : List AdmissionEntry) (s : AdmissionState) (c : AdmissionCall)
    (t : AdmissionState) (cid : ConversationId) (u : UserId) (g : ChatConversation)
    (a : GroupAdmission) : Prop where
  locked : s.db.conversations.find cid = some g
  conversation : a.conversationID = cid
  applicant : a.applicantID = u
  consented : ∃ c' reply, .committed c' reply ∈ es ∧ c'.consents u a.id reply
  approved : s.requiresApproval g a = true → ∃ user relations,
    c = .act user a.id .approve relations c.now ∧ s.manager g user = true
  sourced : Sourced s g a c.now
  joined : Over a.id .joined t

/-- The seat that is active after an opening and was not before is the applicant's. -/
theorem openSeat_opens {db db' : Db} {v : UserId}
    {now : Time} {seat : ChatMember} (h : db.openSeat g u now = .ok db')
    (there : db'.members.find (cid, v) = some seat) (present : seat.leftAt = none)
    (before : ∀ seat, db.members.find (cid, v) = some seat → seat.leftAt ≠ none) :
    g.id = cid ∧ u = v := by
  rcases openSeat_ok h with ⟨rfl, -⟩ | ⟨-, -, floor, -, -, rfl⟩
  · exact absurd present (before seat there)
  · simp only [Table.find_upsert] at there
    split at there
    · rename_i here
      exact ⟨congrArg Prod.fst here, congrArg Prod.snd here⟩
    · exact absurd present (before seat there)

theorem entered {es : List AdmissionEntry} {c : AdmissionCall} (inv : Consented es s)
    (ok : c.run s = .ok (reply, t)) (service : c.creates = false) {seat : ChatMember}
    (there : t.db.members.find (cid, u) = some seat) (present : seat.leftAt = none)
    (before : ∀ seat, s.db.members.find (cid, u) = some seat → seat.leftAt ≠ none) :
    ∃ g a, Entered (es ++ [.committed c reply]) s c t cid u g a := by
  rcases (call_taken ok).seats with creates | same | ⟨g, a, admits⟩
  · rw [service] at creates
    cases creates
  · rw [same] at there
    exact absurd present (before seat there)
  · obtain ⟨found, -, -, own, -⟩ := lockAdmission_ok admits.locked
    obtain ⟨here, applicant⟩ := openSeat_opens admits.opened there present before
    have conversation : a.conversationID = cid := own.symm.trans here
    obtain ⟨decider, joined⟩ := admits.joined
    refine ⟨g, a, conversation ▸ found, conversation, applicant, ?_, admits.approved,
      admits.sourced, _, joined, rfl⟩
    rcases admits.origin with ⟨row, pending⟩ | consents
    · have active : a.status.active = true := by rw [pending]; rfl
      obtain ⟨c', reply', member, consents⟩ := inv a.id a row admits.accepted active
      exact ⟨c', reply', List.mem_append_left _ member, applicant ▸ consents⟩
    · exact ⟨c, reply, List.mem_append_right _ (List.mem_singleton.mpr rfl), applicant ▸ consents⟩

def everybody : Relations := ⟨fun _ _ => true, fun _ => false, fun _ => true⟩

/-- The owner of the group of three invites a friend, who accepts. -/
def unasked : AdmissionState := ⟨founded, .empty, [], .empty⟩

def invitation : AdmissionCall := .invite 1 1 [4] (fun user => user) everybody 10

def AdmissionCall.leaves (s : AdmissionState) (c : AdmissionCall) : AdmissionState :=
  match c.run s with
  | .ok (_, t) => t
  | .error _ => s

def asked : AdmissionState := invitation.leaves unasked

end CircleBackend.Chat
