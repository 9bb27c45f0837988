import CircleBackend.Chat.Revision

/-!
# What an operation does to the rows

Said once: an operation either amends messages that exist (`Rewrites`) or adds
one message at the next height of its conversation (`Adds`). What a message was
created with never changes, what was deleted, revoked or given an expiry stays
so, and the seats are written by the operations on seats alone.
-/

namespace CircleBackend.Chat

open Library
open Session (UserId)

/-- A message as it was created, and what can only move one way. -/
structure Amended (m m' : ChatMessage) : Prop where
  id : m'.id = m.id
  conversationID : m'.conversationID = m.conversationID
  height : m'.height = m.height
  senderID : m'.senderID = m.senderID
  type : m'.type = m.type
  clientMessageId : m'.clientMessageId = m.clientMessageId
  requestHash : m'.requestHash = m.requestHash
  replyToID : m'.replyToID = m.replyToID
  burnDurationSec : m'.burnDurationSec = m.burnDurationSec
  createdAt : m'.createdAt = m.createdAt
  deleted : m.deleted = true → m'.deleted = true
  revoked : m.revokedAt.isSome → m'.revokedAt = m.revokedAt ∧ m'.revokedBy = m.revokedBy
  unrevoked : m'.revokedAt = none → m'.revokedBy = m.revokedBy
  burning : m.burnExpiresAt.isSome → m'.burnExpiresAt = m.burnExpiresAt

theorem Amended.refl (m : ChatMessage) : Amended m m := by
  constructor <;> simp

variable {m m' : ChatMessage} {s : SendResult} {messageId : MessageId}
variable {clock : MessageId → Time}

theorem Amended.trans {m₁ m₂ : ChatMessage} (h : Amended m m₁) (g : Amended m₁ m₂) :
    Amended m m₂ where
  id := g.id.trans h.id
  conversationID := g.conversationID.trans h.conversationID
  height := g.height.trans h.height
  senderID := g.senderID.trans h.senderID
  type := g.type.trans h.type
  clientMessageId := g.clientMessageId.trans h.clientMessageId
  requestHash := g.requestHash.trans h.requestHash
  replyToID := g.replyToID.trans h.replyToID
  burnDurationSec := g.burnDurationSec.trans h.burnDurationSec
  createdAt := g.createdAt.trans h.createdAt
  deleted := fun gone => g.deleted (h.deleted gone)
  revoked := fun gone => by
    have first := h.revoked gone
    have second := g.revoked (first.1 ▸ gone)
    exact ⟨second.1.trans first.1, second.2.trans first.2⟩
  unrevoked := fun none₂ => by
    have none₁ : m₁.revokedAt = none := by
      cases h₁ : m₁.revokedAt with
      | none => rfl
      | some t => cases none₂.symm.trans ((g.revoked (by rw [h₁]; rfl)).1.trans h₁)
    exact (g.unrevoked none₂).trans (h.unrevoked none₁)
  burning := fun lit => by
    have first := h.burning lit
    exact (g.burning (first ▸ lit)).trans first

/-- A message under another number. -/
theorem Amended.renumber (h : Amended m m') (n : Nat) : Amended m { m' with revision := n } :=
  ⟨h.id, h.conversationID, h.height, h.senderID, h.type, h.clientMessageId, h.requestHash,
    h.replyToID, h.burnDurationSec, h.createdAt, h.deleted, h.revoked, h.unrevoked, h.burning⟩

/-- Messages were amended, none was added. -/
structure Rewrites (db db' : Db) : Prop where
  height : ∀ k, db'.heightOf k = db.heightOf k
  absent : ∀ id, db.messages.find id = none → db'.messages.find id = none
  found : ∀ id m, db.messages.find id = some m →
    ∃ m', db'.messages.find id = some m' ∧ Amended m m'

theorem Rewrites.refl (db : Db) : Rewrites db db :=
  ⟨fun _ => rfl, fun _ h => h, fun _ m h => ⟨m, h, .refl m⟩⟩

variable {db db' : Db} {f : ChatMessage → ChatMessage} {id : MessageId} {p : ChatMessage → Bool}
variable {scan : Scan} {c : ChatConversation} {row : ChatMessage} {counterFirst : Bool}
variable {content : Content} {now : Time} {conversationId : ConversationId} {userId : UserId}

theorem Rewrites.trans {db₁ db₂ : Db} (h : Rewrites db db₁) (g : Rewrites db₁ db₂) :
    Rewrites db db₂ where
  height k := (g.height k).trans (h.height k)
  absent id none := g.absent id (h.absent id none)
  found id m found := by
    obtain ⟨m₁, found₁, amended₁⟩ := h.found id m found
    obtain ⟨m₂, found₂, amended₂⟩ := g.found id m₁ found₁
    exact ⟨m₂, found₂, amended₁.trans amended₂⟩

/-- The rows `ids` were written by `f`, each under some number; nothing else was. -/
structure Writes (f : ChatMessage → ChatMessage) (ids : List MessageId) (db db' : Db) : Prop where
  beside : Beside db db'
  height : ∀ k, db'.heightOf k = db.heightOf k
  absent : ∀ k, db.messages.find k = none → db'.messages.find k = none
  written : ∀ k m, db.messages.find k = some m → k ∈ ids →
    ∃ n, db'.messages.find k = some { f m with revision := n }
  other : ∀ k m, db.messages.find k = some m → k ∉ ids → db'.messages.find k = some m

theorem updateRow_writes (h : db.updateRow f id = .ok db') : Writes f [id] db db' := by
  unfold Db.updateRow at h
  split at h
  · rename_i absent
    cases h
    refine ⟨.refl _, fun _ => rfl, fun _ none => none, ?_, fun _ _ found _ => found⟩
    intro k m found member
    cases List.mem_singleton.mp member
    cases absent.symm.trans found
  · rename_i old found
    have key : old.id = id := Table.find_key found
    split at h
    · cases h
    · rename_i row mid assigned
      cases h
      obtain ⟨sameId, -, -, cases⟩ := assignRevision_ok assigned
      have written : ∃ n, row = { f old with revision := n } ∧ Beside db mid ∧
          (∀ k, mid.heightOf k = db.heightOf k) ∧ mid.messages = db.messages := by
        rcases cases with ⟨rfl, rfl, -⟩ | ⟨-, -, n, rfl, allocated⟩
        · exact ⟨_, rfl, .refl _, fun _ => rfl, rfl⟩
        · exact ⟨n, rfl, allocated.beside, allocated.height, allocated.messages⟩
      obtain ⟨n, rfl, beside, height, messages⟩ := written
      have own : ({ f old with revision := n } : ChatMessage).id = id := sameId.trans key
      have held : mid.messages.find ({ f old with revision := n } : ChatMessage).id = some old := by
        rw [own, messages]
        exact found
      have put := Table.find_put_of_find held
      rw [own, messages] at put
      refine ⟨⟨beside.members, beside.circleMembers, beside.blocks, beside.settings⟩, height,
        ?_, ?_, ?_⟩ <;> simp only [messages, put, List.mem_singleton]
      · intro k none
        rw [if_neg]
        · exact none
        · rintro rfl
          cases none.symm.trans found
      · rintro k m found' rfl
        cases found'.symm.trans found
        exact ⟨n, if_pos rfl⟩
      · intro k m found' other
        rw [if_neg other]
        exact found'

theorem updateRows_writes {ids : List MessageId} (nodup : ids.Nodup)
    (h : ids.foldlM (fun (db : Db) id => db.updateRow f id) db = .ok db') :
    Writes f ids db db' := by
  induction ids generalizing db with
  | nil =>
    cases h
    exact ⟨.refl _, fun _ => rfl, fun _ none => none, fun _ _ _ member => (List.not_mem_nil member).elim,
      fun _ _ found _ => found⟩
  | cons id rest ih =>
    rw [List.foldlM_cons] at h
    obtain ⟨mid, first, last⟩ := bind_ok h
    obtain ⟨apart, nodup⟩ := List.nodup_cons.mp nodup
    have one := updateRow_writes first
    have more := ih nodup last
    refine ⟨one.beside.trans more.beside, fun k => (more.height k).trans (one.height k),
      fun k none => more.absent k (one.absent k none), ?_, ?_⟩
    · intro k m found member
      by_cases hk : k = id
      · obtain ⟨n, now⟩ := one.written k m found (hk ▸ List.mem_singleton.mpr rfl)
        exact ⟨n, more.other k _ now (hk ▸ apart)⟩
      · have still := one.other k m found (List.mem_singleton.not.mpr hk)
        exact more.written k m still ((List.mem_cons.mp member).resolve_left hk)
    · intro k m found outside
      simp only [List.mem_cons, not_or] at outside
      have still := one.other k m found (List.mem_singleton.not.mpr outside.1)
      exact more.other k m still outside.2

/-- An update writes exactly the rows it selects. -/
theorem updateMessages_writes (h : db.updateMessages scan p f = .ok db') :
    ∃ ids, Writes f ids db db' ∧ ∀ k m, db.messages.find k = some m → (k ∈ ids ↔ p m = true) := by
  refine ⟨_, updateRows_writes (ids_nodup db scan p) h, fun k m found => ?_⟩
  rw [(scan.perm _).mem_iff, List.mem_map]
  constructor
  · rintro ⟨n, selected, key⟩
    obtain ⟨member, chosen⟩ := Table.mem_select.mp selected
    have same := Table.mem_find member
    rw [key, found] at same
    cases same
    exact chosen
  · intro chosen
    exact ⟨m, Table.mem_select.mpr ⟨Table.find_mem found, chosen⟩, Table.find_key found⟩

theorem updateMessages_rewrites (h : db.updateMessages scan p f = .ok db')
    (amends : ∀ m, p m = true → Amended m (f m)) : Rewrites db db' := by
  obtain ⟨ids, writes, selected⟩ := updateMessages_writes h
  refine ⟨writes.height, writes.absent, fun k m found => ?_⟩
  by_cases member : k ∈ ids
  · obtain ⟨n, now⟩ := writes.written k m found member
    exact ⟨_, now, (amends m ((selected k m found).mp member)).renumber n⟩
  · exact ⟨m, writes.other k m found member, .refl m⟩

theorem updateMessages_beside (h : db.updateMessages scan p f = .ok db') : Beside db db' := by
  obtain ⟨ids, writes, -⟩ := updateMessages_writes h
  exact writes.beside

/-- The messages and the counters of heights are the same. -/
theorem Rewrites.of_eq (messages : db'.messages = db.messages)
    (height : ∀ k, db'.heightOf k = db.heightOf k) : Rewrites db db' := by
  refine ⟨height, fun id none => ?_, fun id m found => ⟨m, ?_, .refl m⟩⟩ <;> rw [messages] <;> assumption

theorem bumpRevision_rewrites (h : db.bumpRevision id = .ok db') :
    Rewrites db db' ∧ Beside db db' := by
  unfold Db.bumpRevision at h
  split at h
  · cases h
    exact ⟨.refl _, .refl _⟩
  · rename_i m found
    split at h
    · cases h
    · rename_i n mid allocated
      have count := allocate_ok allocated
      have writes := updateRow_writes h
      refine ⟨(Rewrites.of_eq count.messages count.height).trans
        ⟨writes.height, writes.absent, fun k m found => ?_⟩, count.beside.trans writes.beside⟩
      by_cases member : k ∈ [id]
      · obtain ⟨n, now⟩ := writes.written k m found member
        exact ⟨_, now, (Amended.refl m).renumber n⟩
      · exact ⟨m, writes.other k m found member, .refl m⟩

/-- Only the reactions differ, and no message reads them. -/
theorem Rewrites.reactions (db : Db)
    (reactions : Table ChatMessageReaction (MessageId × UserId × JsString) ChatMessageReaction.key) :
    Rewrites db { db with reactions := reactions } ∧ Beside db { db with reactions := reactions } :=
  ⟨.of_eq rfl fun _ => rfl, rfl, rfl, rfl, fun _ => rfl⟩

theorem createReaction_rewrites {reaction : ChatMessageReaction}
    (h : db.createReaction reaction = .ok db') : Rewrites db db' ∧ Beside db db' := by
  unfold Db.createReaction at h
  split at h
  · cases h
    exact ⟨.refl _, .refl _⟩
  · rename_i reactions _
    have written := Rewrites.reactions db reactions
    have bumped := bumpRevision_rewrites h
    exact ⟨written.1.trans bumped.1, written.2.trans bumped.2⟩

theorem bumpRevisions_rewrites {gone : List ChatMessageReaction}
    (h : gone.foldlM (fun (db : Db) r => db.bumpRevision r.messageID) db = .ok db') :
    Rewrites db db' ∧ Beside db db' := by
  induction gone generalizing db with
  | nil =>
    cases h
    exact ⟨.refl _, .refl _⟩
  | cons r rest ih =>
    rw [List.foldlM_cons] at h
    obtain ⟨mid, first, last⟩ := bind_ok h
    have one := bumpRevision_rewrites first
    have more := ih last
    exact ⟨one.1.trans more.1, one.2.trans more.2⟩

theorem deleteReaction_rewrites {reaction : ChatMessageReaction}
    (h : db.deleteReaction reaction = .ok db') : Rewrites db db' ∧ Beside db db' := by
  have written := Rewrites.reactions db
    (db.reactions.deleteMany fun r => decide (r.key = reaction.key))
  have bumped := bumpRevisions_rewrites h
  exact ⟨written.1.trans bumped.1, written.2.trans bumped.2⟩

/-! ## One message more -/

/-- `row` is new, at the height after the last of the conversation `c`. -/
structure Adds (db : Db) (c : ChatConversation) (row : ChatMessage) (db' : Db) : Prop where
  locked : db.heightOf c.id = some c.nextHeight
  height : row.height = c.nextHeight + 1
  fresh : db.messages.find row.id = none
  free : ∀ m ∈ db.messages.rows, m.collides row = false
  rows : db'.messages.rows = db.messages.rows ++ [row]
  heightOf : ∀ k, db'.heightOf k = if k = c.id then some (c.nextHeight + 1) else db.heightOf k

theorem Adds.find (h : Adds db c row db')
    (k : MessageId) : db'.messages.find k = if k = row.id then some row else db.messages.find k := by
  have before := h.fresh
  simp only [Table.find] at before ⊢
  rw [h.rows, List.find?_append]
  by_cases hk : k = row.id
  · subst hk
    simp [before]
  · simp [hk, Ne.symm hk]

theorem createMessage_adds {new : ChatMessage} (h : db.createMessage new = .ok (row, db')) :
    (∃ n, row = { new with revision := n }) ∧ Beside db db' ∧
      (∀ k, db'.heightOf k = db.heightOf k) ∧ db.messages.find row.id = none ∧
      (∀ m ∈ db.messages.rows, m.collides row = false) ∧
      db'.messages.rows = db.messages.rows ++ [row] := by
  unfold Db.createMessage at h
  split at h
  · cases h
  · rename_i numbered mid assigned
    obtain ⟨n, rfl, count⟩ := number_ok assigned
    split at h
    · cases h
    · rename_i free
      split at h
      · cases h
      · rename_i messages inserted
        cases h
        have absent := Table.insert_fresh inserted
        rw [count.messages] at absent free
        refine ⟨⟨n, rfl⟩, ⟨count.beside.members, count.beside.circleMembers, count.beside.blocks,
          count.beside.settings⟩, count.height, absent, ?_, ?_⟩
        · simpa using free
        · rw [Table.insert_rows inserted, count.messages]

theorem advanceConversation_ok {height : Nat} (h : db.advanceConversation c height = .ok db') :
    Beside db db' ∧ db'.messages = db.messages ∧
      ∀ k, db'.heightOf k = if k = c.id then (db.heightOf k).map fun _ => height
        else db.heightOf k := by
  unfold Db.advanceConversation at h
  split at h
  · cases h
  · cases h
    refine ⟨⟨rfl, rfl, rfl, fun k => ?_⟩, rfl, fun k => ?_⟩
    · rw [Table.find_updateMany]
      cases db.conversations.find k with
      | none => rfl
      | some row =>
        simp only [Option.map_some]
        split <;> rfl
    · simp only [Db.heightOf, Table.find_updateMany]
      cases found : db.conversations.find k with
      | none => simp
      | some row =>
        have key : row.id = k := Table.find_key found
        simp only [Option.map_some, key]
        split <;> simp_all

theorem appendMessage_adds {d : Draft} (h : db.appendMessage counterFirst c d = .ok (row, db'))
    (locked : db.heightOf c.id = some c.nextHeight) :
    Adds db c row db' ∧ Beside db db' ∧
      ∃ n, row = { d.row (c.nextHeight + 1) with revision := n } := by
  have counted : ∀ (mid : Db) k, (∀ k, mid.heightOf k = db.heightOf k) →
      (if k = c.id then (mid.heightOf k).map fun _ => c.nextHeight + 1 else mid.heightOf k) =
        if k = c.id then some (c.nextHeight + 1) else db.heightOf k := by
    intro mid k same
    split
    · rename_i hk
      rw [same, hk, locked]
      rfl
    · exact same k
  unfold Db.appendMessage at h
  split at h
  · obtain ⟨mid, advanced, created⟩ := bind_ok h
    obtain ⟨beside, messages, height⟩ := advanceConversation_ok advanced
    obtain ⟨⟨n, rfl⟩, beside', height', absent, free, rows⟩ := createMessage_adds created
    refine ⟨⟨locked, rfl, messages ▸ absent, messages ▸ free, messages ▸ rows, fun k => ?_⟩,
      beside.trans beside', n, rfl⟩
    rw [height', height]
    exact counted db k fun _ => rfl
  · obtain ⟨⟨row', mid⟩, created, rest⟩ := bind_ok h
    obtain ⟨last, advanced, done⟩ := bind_ok rest
    cases done
    obtain ⟨⟨n, rfl⟩, beside, height, absent, free, rows⟩ := createMessage_adds created
    obtain ⟨beside', messages, height'⟩ := advanceConversation_ok advanced
    refine ⟨⟨locked, rfl, absent, free, messages ▸ rows, fun k => ?_⟩, beside.trans beside', n, rfl⟩
    rw [height']
    exact counted mid k height

/-! ## What an operation does -/

/-- The messages of two states, whatever became of the seats. -/
inductive Effect (db db' : Db) : Prop
  | rewrites : Rewrites db db' → Effect db db'
  | adds (c : ChatConversation) (row : ChatMessage) : row.conversationID = c.id →
      row.deleted = false → row.revokedAt = none → Adds db c row db' → Effect db db'

theorem Effect.after {mid : Db} (h : Effect mid db') (messages : mid.messages = db.messages)
    (height : ∀ k, mid.heightOf k = db.heightOf k) : Effect db db' := by
  cases h with
  | rewrites h => exact .rewrites ((Rewrites.of_eq messages height).trans h)
  | adds c row own live shown h =>
    refine .adds c row own live shown ⟨height _ ▸ h.locked, h.height, messages ▸ h.fresh,
      messages ▸ h.free, messages ▸ h.rows, fun k => ?_⟩
    rw [h.heightOf, height]

/-- A message that was there stays, amended. -/
theorem Effect.kept (h : Effect db db')
    (found : db.messages.find id = some m) : ∃ m', db'.messages.find id = some m' ∧ Amended m m' := by
  cases h with
  | rewrites h => exact h.found id m found
  | adds c row _ _ _ h =>
    refine ⟨m, ?_, .refl m⟩
    rw [h.find, if_neg]
    · exact found
    · rintro rfl
      cases h.fresh.symm.trans found

theorem Rewrites.origin (h : Rewrites db db')
    (hm : m' ∈ db'.messages.rows) : ∃ m ∈ db.messages.rows, Amended m m' := by
  cases found : db.messages.find m'.id with
  | none => cases (h.absent _ found).symm.trans (Table.mem_find hm)
  | some m =>
    obtain ⟨n, found', amended⟩ := h.found _ m found
    cases found'.symm.trans (Table.mem_find hm)
    exact ⟨m, Table.find_mem found, amended⟩

/-- A message of the state after is an old one, or the next of its conversation. -/
theorem Effect.origin (h : Effect db db')
    (hm : m' ∈ db'.messages.rows) : (∃ m ∈ db.messages.rows, Amended m m') ∨
      ∃ n, db.heightOf m'.conversationID = some n ∧ m'.height = n + 1 := by
  cases h with
  | rewrites h => exact Or.inl (h.origin hm)
  | adds c row own _ _ h =>
    rw [h.rows, List.mem_append, List.mem_singleton] at hm
    rcases hm with old | rfl
    · exact Or.inl ⟨m', old, .refl m'⟩
    · exact Or.inr ⟨_, own ▸ h.locked, h.height⟩

theorem Effect.height (h : Effect db db') {k : ConversationId} {n : Nat}
    (counted : db.heightOf k = some n) : ∃ n', db'.heightOf k = some n' ∧ n ≤ n' := by
  cases h with
  | rewrites h => exact ⟨n, (h.height k).trans counted, Nat.le_refl _⟩
  | adds c row _ _ _ h =>
    rw [h.heightOf]
    split
    · rename_i here
      rw [here, h.locked] at counted
      cases counted
      exact ⟨_, rfl, Nat.le_succ _⟩
    · exact ⟨n, counted, Nat.le_refl _⟩

theorem appendMessage_effect {d : Draft} (h : db.appendMessage counterFirst c d = .ok (row, db'))
    (locked : db.heightOf c.id = some c.nextHeight) (own : d.conversationID = c.id) :
    Effect db db' ∧ Beside db db' := by
  obtain ⟨adds, beside, n, rfl⟩ := appendMessage_adds h locked
  exact ⟨.adds c _ own rfl rfl adds, beside⟩

theorem insertSystemMessage_beside (h : db.insertSystemMessage c id content now = .ok db') :
    Beside db db' := by
  obtain ⟨⟨row, mid⟩, appended, done⟩ := bind_ok h
  cases done
  simp only [Db.appendMessage, Bool.false_eq_true, ↓reduceIte] at appended
  obtain ⟨⟨row', mid'⟩, created, rest⟩ := bind_ok appended
  obtain ⟨last, advanced, done⟩ := bind_ok rest
  cases done
  exact (createMessage_adds created).2.1.trans (advanceConversation_ok advanced).1

theorem insertSystemMessage_effect (h : db.insertSystemMessage c id content now = .ok db')
    (locked : db.heightOf c.id = some c.nextHeight) : Effect db db' ∧ Beside db db' := by
  obtain ⟨⟨row, mid⟩, appended, done⟩ := bind_ok h
  cases done
  exact appendMessage_effect appended locked rfl

/-- The successful branches of `sendMessage`. -/
theorem sendMessage_ok {r : SendRequest} (h : db.sendMessage counterFirst r = .ok (s, db')) :
    ∃ c seat, db.conversations.find r.conversationId = some c ∧
      db.assertStillSendable c r.senderUserId r.roomActive r.now = .ok seat ∧
      ((∃ row, db.sentAs r.conversationId r.senderUserId r.d = some row ∧
          row.sameSendRequest r.requestHash = true ∧ s = ⟨row, true⟩ ∧ db' = db) ∨
        db.sentAs r.conversationId r.senderUserId r.d = none ∧ s.reused = false ∧
          Adds db c s.row db' ∧ Beside db db' ∧
          ∃ n, s.row = { (r.draft c seat).row (c.nextHeight + 1) with revision := n }) := by
  unfold Db.sendMessage at h
  split at h
  · cases h
  · rename_i c found
    obtain ⟨seat, seated, h⟩ := bind_ok h
    refine ⟨c, seat, found, seated, ?_⟩
    split at h
    · rename_i row sent
      obtain ⟨result, replayed, done⟩ := bind_ok h
      cases done
      unfold ChatMessage.replayed at replayed
      split at replayed
      · rename_i same
        cases replayed
        exact Or.inl ⟨row, sent, same, rfl, rfl⟩
      · cases replayed
    · rename_i sent
      obtain ⟨⟨row, mid⟩, appended, done⟩ := bind_ok h
      cases done
      obtain ⟨adds, beside, made⟩ := appendMessage_adds appended (heightOf_found found)
      exact Or.inr ⟨sent, rfl, adds, beside, made⟩

theorem sendMessage_effect {r : SendRequest}
    (h : db.sendMessage counterFirst r = .ok (s, db')) : Effect db db' ∧ Beside db db' := by
  obtain ⟨c, seat, found, -, ⟨row, -, -, -, rfl⟩ | ⟨-, -, adds, beside, n, made⟩⟩ := sendMessage_ok h
  · exact ⟨.rewrites (.refl _), .refl _⟩
  · have own : s.row.conversationID = c.id := by
      rw [made]
      exact (Table.find_key found).symm
    exact ⟨.adds c s.row own (by rw [made]; rfl) (by rw [made]; rfl) adds, beside⟩

theorem Db.Appends.effect (h : db.Appends db' counterFirst conversationId) :
    Effect db db' ∧ Beside db db' := by
  obtain rfl | ⟨c, d, row, found, own, appended⟩ := h
  · exact ⟨.rewrites (.refl _), .refl _⟩
  · have same : d.conversationID = c.id := own.trans (Table.find_key found).symm
    exact appendMessage_effect appended (heightOf_found found) same

theorem updateMessages_effect (h : db.updateMessages scan p f = .ok db')
    (amends : ∀ m, p m = true → Amended m (f m)) : Effect db db' ∧ Beside db db' :=
  ⟨.rewrites (updateMessages_rewrites h amends), updateMessages_beside h⟩

theorem revokeMessage_effect {moderator : Bool}
    (h : db.revokeMessage userId moderator conversationId messageId now = .ok db') :
    Effect db db' ∧ Beside db db' := by
  obtain ⟨row, -, h⟩ := bind_ok h
  split at h
  · cases h
  · refine updateMessages_effect h fun m selected => ?_
    simp only [Bool.and_eq_true, Option.isNone_iff_eq_none] at selected
    constructor <;> simp [selected.2]

theorem editMessage_effect {text : JsString} {roomActive : Bool}
    (h : db.editMessage userId conversationId messageId text roomActive now = .ok db') :
    Effect db db' ∧ Beside db db' := by
  obtain ⟨current, updated⟩ := editMessage_ok h
  refine updateMessages_effect updated fun m _ => ?_
  constructor <;> simp

theorem sweepConversation_effect {messageIds : List MessageId}
    (h : db.sweepConversation scan messageIds now = .ok db') : Effect db db' ∧ Beside db db' := by
  refine updateMessages_effect h fun m _ => ?_
  constructor <;> simp

theorem toggleReaction_effect {emoji : JsString} {add roomActive : Bool}
    (h : db.toggleReaction userId conversationId messageId emoji add roomActive now = .ok db') :
    Effect db db' ∧ Beside db db' := by
  obtain rfl | created | deleted := toggleReaction_ok h
  · exact ⟨.rewrites (.refl _), .refl _⟩
  · exact (createReaction_rewrites created).imp_left .rewrites
  · exact (deleteReaction_rewrites deleted).imp_left .rewrites

theorem startReadBurnTimers_effect {height : Nat}
    (h : db.startReadBurnTimers scan conversationId userId height clock = .ok db') :
    Rewrites db db' ∧ Beside db db' := by
  unfold Db.startReadBurnTimers at h
  split at h
  · refine ⟨updateMessages_rewrites h fun m pending => ?_, updateMessages_beside h⟩
    simp only [ChatMessage.pendingReadBurn, Bool.and_eq_true, Option.isNone_iff_eq_none] at pending
    constructor <;> simp [pending.1.1.2]
  · cases h
    exact ⟨.refl _, .refl _⟩

/-! ## What an operation does to the seats -/

structure SeatAdvanced (s s' : ChatMember) : Prop where
  role : s'.role = s.role
  silencedAt : s'.silencedAt = s.silencedAt
  silencedUntil : s'.silencedUntil = s.silencedUntil
  joinedAt : s'.joinedAt = s.joinedAt
  leftAt : s'.leftAt = s.leftAt
  lastReadHeight : s.lastReadHeight ≤ s'.lastReadHeight
  clearedBeforeHeight : s.clearedBeforeHeight ≤ s'.clearedBeforeHeight

theorem SeatAdvanced.refl (s : ChatMember) : SeatAdvanced s s :=
  ⟨rfl, rfl, rfl, rfl, rfl, Nat.le_refl _, Nat.le_refl _⟩

theorem SeatAdvanced.trans {s s₁ s₂ : ChatMember} (h : SeatAdvanced s s₁) (g : SeatAdvanced s₁ s₂) :
    SeatAdvanced s s₂ :=
  ⟨g.role.trans h.role, g.silencedAt.trans h.silencedAt, g.silencedUntil.trans h.silencedUntil,
    g.joinedAt.trans h.joinedAt, g.leftAt.trans h.leftAt,
    Nat.le_trans h.lastReadHeight g.lastReadHeight,
    Nat.le_trans h.clearedBeforeHeight g.clearedBeforeHeight⟩

/-- Of a conversation only the counters and the floor moved, the floor up. -/
structure Settled (c c' : ChatConversation) : Prop where
  settings : c'.settings = { c.settings with clearedBeforeHeight := c'.clearedBeforeHeight }
  clearedBeforeHeight : c.clearedBeforeHeight ≤ c'.clearedBeforeHeight

theorem Settled.of_settings {c' : ChatConversation} (h : c'.settings = c.settings) :
    Settled c c' := by
  have floor : c'.settings.clearedBeforeHeight = c.settings.clearedBeforeHeight := by rw [h]
  change c'.clearedBeforeHeight = c.clearedBeforeHeight at floor
  refine ⟨?_, Nat.le_of_eq floor.symm⟩
  rw [h, floor]
  rfl

theorem Settled.trans {c₁ c₂ : ChatConversation} (h : Settled c c₁) (g : Settled c₁ c₂) :
    Settled c c₂ :=
  ⟨by rw [g.settings, h.settings], Nat.le_trans h.clearedBeforeHeight g.clearedBeforeHeight⟩

/-- The settings that say who may speak. -/
theorem Settled.judges {c' : ChatConversation} (h : Settled c c') :
    c'.type = c.type ∧ c'.muteAllAt = c.muteAllAt ∧ c'.circleID = c.circleID ∧
      c'.ownerID = c.ownerID := by
  have same := h.settings
  simp only [ChatConversation.settings, ChatConversation.mk.injEq] at same
  tauto

/-- No seat was opened, closed or judged, and no floor or watermark went down. -/
structure Advances (db db' : Db) : Prop where
  circleMembers : db'.circleMembers = db.circleMembers
  blocks : db'.blocks = db.blocks
  seatless : ∀ k, db.members.find k = none → db'.members.find k = none
  seat : ∀ k s, db.members.find k = some s → ∃ s', db'.members.find k = some s' ∧ SeatAdvanced s s'
  absent : ∀ k, db.conversations.find k = none → db'.conversations.find k = none
  conversation : ∀ k c, db.conversations.find k = some c →
    ∃ c', db'.conversations.find k = some c' ∧ Settled c c'

theorem Advances.trans {db₁ db₂ : Db} (h : Advances db db₁) (g : Advances db₁ db₂) :
    Advances db db₂ where
  circleMembers := g.circleMembers.trans h.circleMembers
  blocks := g.blocks.trans h.blocks
  seatless k none := g.seatless k (h.seatless k none)
  seat k s found := by
    obtain ⟨s₁, found₁, moved₁⟩ := h.seat k s found
    obtain ⟨s₂, found₂, moved₂⟩ := g.seat k s₁ found₁
    exact ⟨s₂, found₂, moved₁.trans moved₂⟩
  absent k none := g.absent k (h.absent k none)
  conversation k c found := by
    obtain ⟨c₁, found₁, moved₁⟩ := h.conversation k c found
    obtain ⟨c₂, found₂, moved₂⟩ := g.conversation k c₁ found₁
    exact ⟨c₂, found₂, moved₁.trans moved₂⟩

theorem Beside.advances (h : Beside db db') : Advances db db' := by
  refine ⟨h.circleMembers, h.blocks, ?_, ?_, ?_, ?_⟩
  · intro k none
    rw [h.members, none]
  · intro k s found
    exact ⟨s, by rw [h.members, found], .refl s⟩
  · intro k none
    have := h.settings k
    rw [none] at this
    exact Option.map_eq_none_iff.mp this
  · intro k c found
    have := h.settings k
    rw [found] at this
    obtain ⟨c', found', same⟩ := Option.map_eq_some_iff.mp this
    exact ⟨c', found', .of_settings same⟩

theorem Advances.refl (db : Db) : Advances db db := (Beside.refl db).advances

/-- An update of the seats by a function that only moves them on. -/
theorem Advances.members (db : Db) (p : ChatMember → Bool) (f : ChatMember → ChatMember)
    (hf : ∀ m, ((f m).conversationID, (f m).userID) = (m.conversationID, m.userID))
    (moves : ∀ m, p m = true → SeatAdvanced m (f m)) :
    Advances db { db with members := db.members.updateMany p f hf } := by
  refine ⟨rfl, rfl, fun k none => ?_, fun k s found => ?_, fun _ none => none,
    fun k c found => ⟨c, found, .of_settings rfl⟩⟩
  · rw [Table.find_updateMany, none]
    rfl
  · rw [Table.find_updateMany, found]
    refine ⟨_, rfl, ?_⟩
    by_cases chosen : p s = true
    · simpa only [chosen, ↓reduceIte] using moves s chosen
    · simpa only [chosen, Bool.false_eq_true, ↓reduceIte] using SeatAdvanced.refl s

theorem advanceRead_advances (db : Db) (conversationId : ConversationId)
    (selected : ChatMember → Bool) (height : Nat) :
    Advances db (db.advanceRead conversationId selected height) := by
  refine Advances.members db _ _ _ fun m chosen => ?_
  simp only [Bool.and_eq_true, decide_eq_true_eq] at chosen
  exact ⟨rfl, rfl, rfl, rfl, rfl, Nat.le_of_lt chosen.2, Nat.le_refl _⟩

theorem raiseFloors_advances (db : Db) (selected : ChatMember → Bool) (height : Nat) :
    Advances db (db.raiseFloors selected height) := by
  refine Advances.members db _ _ _ fun m chosen => ?_
  simp only [Bool.and_eq_true, decide_eq_true_eq] at chosen
  exact ⟨rfl, rfl, rfl, rfl, rfl, Nat.le_refl _, Nat.le_of_lt chosen.2⟩

theorem raiseConversationFloor_advances (db : Db) (c : ChatConversation) (height : Nat) :
    Advances db (db.raiseConversationFloor c height) := by
  refine ⟨rfl, rfl, fun _ none => none, fun k s found => ⟨s, found, .refl s⟩, fun k none => ?_,
    fun k row found => ?_⟩
  · simp only [Db.raiseConversationFloor, Table.find_updateMany, none, Option.map_none]
  · simp only [Db.raiseConversationFloor, Table.find_updateMany, found, Option.map_some]
    refine ⟨_, rfl, ?_⟩
    split
    · rename_i chosen
      simp only [Bool.and_eq_true, decide_eq_true_eq] at chosen
      exact ⟨rfl, Nat.le_of_lt chosen.2⟩
    · exact .of_settings rfl

/-- The operations on messages: all but those that stand for the rows around them. -/
def Op.onMessages : Op → Bool
  | .seats .. | .configure .. => false
  | _ => true

/-- What `clearHistory` does once it is allowed. -/
theorem clearHistory_ok {r : ClearRequestArgs} (h : db.clearHistory scan r clock = .ok db') :
    ∃ c seat, db.conversations.find r.conversationId = some c ∧
      db.members.find (r.conversationId, r.userId) = some seat ∧ seat.leftAt = none ∧
      (min c.nextHeight (r.targetHeight.getD c.nextHeight) = 0 ∧ db' = db ∨
        ∃ timed, Beside db timed ∧ Rewrites db timed ∧
        (c.type = .direct → db.startReadBurnTimers scan r.conversationId r.userId
          (min c.nextHeight (r.targetHeight.getD c.nextHeight)) clock = .ok timed) ∧
        (c.type ≠ .direct → timed = db) ∧
        ∃ cleared, cleared = (timed.raiseFloors (r.targets (r.forEveryone && c.type = .group))
            (min c.nextHeight (r.targetHeight.getD c.nextHeight))).advanceRead r.conversationId
            (r.targets (r.forEveryone && c.type = .group))
            (min c.nextHeight (r.targetHeight.getD c.nextHeight)) ∧
          ((r.forEveryone && c.type = .group) = false ∧ db' = cleared ∨
            c.type = .group ∧ ∃ floored, floored = cleared.raiseConversationFloor c
                (min c.nextHeight (r.targetHeight.getD c.nextHeight)) ∧
              (db' = floored ∨ floored.insertSystemMessage c r.noticeId r.notice r.now = .ok db'))) := by
  simp only [Db.clearHistory] at h
  split at h
  · rename_i c seat found seated
    obtain ⟨seat_found, present⟩ := seat_of_filter seated
    refine ⟨c, seat, found, seat_found, present, ?_⟩
    split at h
    · cases h
    · split at h
      · rename_i nothing
        cases h
        exact Or.inl ⟨nothing, rfl⟩
      · obtain ⟨timed, started, h⟩ := bind_ok h
        refine Or.inr ⟨timed, ?_⟩
        have effect : Beside db timed ∧ Rewrites db timed ∧ (c.type = .direct →
            db.startReadBurnTimers scan r.conversationId r.userId
              (min c.nextHeight (r.targetHeight.getD c.nextHeight)) clock = .ok timed) ∧
            (c.type ≠ .direct → timed = db) := by
          by_cases direct : c.type = .direct
          · have alone : (r.forEveryone && decide (c.type = .group)) = false := by simp [direct]
            rw [if_pos direct, alone, seat_targets seat_found] at started
            obtain ⟨last, begun, done⟩ := bind_ok started
            cases done
            have key : seat.userID = r.userId := congrArg Prod.snd (Table.find_key seat_found)
            simp only [key] at begun
            have effect := startReadBurnTimers_effect begun
            exact ⟨effect.2, effect.1, fun _ => begun, fun no => absurd direct no⟩
          · rw [if_neg direct] at started
            cases started
            exact ⟨.refl _, .refl _, fun yes => absurd yes direct, fun _ => rfl⟩
        refine ⟨effect.1, effect.2.1, effect.2.2.1, effect.2.2.2, _, rfl, ?_⟩
        split at h
        · rename_i single
          cases h
          exact Or.inl ⟨by rwa [Bool.not_eq_true'] at single, rfl⟩
        · rename_i everyone
          have group : c.type = .group := by simp at everyone; exact everyone.2
          refine Or.inr ⟨group, _, rfl, ?_⟩
          split at h
          · exact Or.inr h
          · cases h
            exact Or.inl rfl
  · cases h

theorem clearHistory_effect {r : ClearRequestArgs} (h : db.clearHistory scan r clock = .ok db') :
    Effect db db' ∧ Advances db db' := by
  obtain ⟨c, seat, found, -, -,
    ⟨-, rfl⟩ | ⟨timed, beside, rewrites, -, untimed, cleared, hcleared, rest⟩⟩ := clearHistory_ok h
  · exact ⟨.rewrites (.refl _), .refl _⟩
  · have messages : cleared.messages = timed.messages := by rw [hcleared]; rfl
    have conversations : cleared.conversations = timed.conversations := by rw [hcleared]; rfl
    have moved : Advances db cleared := by
      rw [hcleared]
      exact beside.advances.trans ((raiseFloors_advances timed _ _).trans (advanceRead_advances _ _ _ _))
    rcases rest with ⟨-, rfl⟩ | ⟨group, floored, hfloored, rest⟩
    · refine ⟨.rewrites (rewrites.trans (.of_eq messages fun k => ?_)), moved⟩
      rw [Db.heightOf, conversations]
      rfl
    · cases untimed (by simp [group])
      have kept : floored.messages = db.messages := by rw [hfloored]; exact messages
      have height : ∀ k, floored.heightOf k = db.heightOf k := by
        intro k
        rw [hfloored, (raiseConversationFloor_sync cleared c _ k).2, Db.heightOf, conversations]
        rfl
      have raised : Advances db floored := by
        rw [hfloored]
        exact moved.trans (raiseConversationFloor_advances cleared c _)
      rcases rest with rfl | added
      · exact ⟨.rewrites (.of_eq kept height), raised⟩
      · have locked : floored.heightOf c.id = some c.nextHeight :=
          (height c.id).trans (heightOf_found found)
        obtain ⟨effect, beside⟩ := insertSystemMessage_effect added locked
        exact ⟨effect.after kept height, raised.trans beside.advances⟩

/-- The operations that write no seat. -/
def Op.besideSeats : Op → Bool
  | .sendMessage .. | .insertServerMessage .. | .autoReply .. | .revokeMessage .. | .editMessage ..
  | .sweepConversation .. | .toggleReaction .. => true
  | _ => false

theorem perform_beside {op : Op} (h : perform db op = .ok db')
    (own : op.besideSeats = true) : Effect db db' ∧ Beside db db' := by
  cases op with
  | sendMessage =>
    obtain ⟨⟨s, mid⟩, sent, done⟩ := bind_ok h
    cases done
    exact sendMessage_effect sent
  | insertServerMessage =>
    obtain ⟨⟨s, mid⟩, sent, done⟩ := bind_ok h
    cases done
    exact (insertServerMessage_ok sent).effect
  | autoReply => exact (autoReply_ok h).effect
  | revokeMessage => exact revokeMessage_effect h
  | editMessage => exact editMessage_effect h
  | sweepConversation => exact sweepConversation_effect h
  | toggleReaction => exact toggleReaction_effect h
  | _ => cases own

theorem setBurnDuration_ok {seconds : Option Nat} {noticeId : MessageId} {notice : Content}
    (h : db.setBurnDuration userId conversationId seconds noticeId notice now = .ok db') :
    Effect db db' ∧ ∃ mid, Beside mid db' ∧ Advances db mid ∧ ∀ k,
      mid.members.find k = (db.members.find k).map fun m =>
        if m.conversationID = conversationId && m.userID = userId then
          { m with
            burnDurationSec := seconds.filter (0 < ·)
            burnStartedAt := (seconds.filter (0 < ·)).map fun _ => now }
        else m := by
  simp only [Db.setBurnDuration] at h
  split at h
  · cases h
  · rename_i c found
    split at h
    · cases h
    · obtain ⟨effect, beside⟩ := insertSystemMessage_effect h (heightOf_found found)
      refine ⟨effect.after rfl fun _ => rfl, _, beside, ?_, fun k => by simp only [Table.find_updateMany]⟩
      exact Advances.members db _ _ _ fun m _ =>
        ⟨rfl, rfl, rfl, rfl, rfl, Nat.le_refl _, Nat.le_refl _⟩

theorem perform_effect {op : Op} (h : perform db op = .ok db')
    (own : op.onMessages = true) : Effect db db' ∧ Advances db db' := by
  cases op with
  | markReadLocked =>
    simp only [perform, Db.markReadLocked] at h
    split at h
    · cases h
    · obtain ⟨rewrites, beside⟩ := startReadBurnTimers_effect h
      exact ⟨(Effect.rewrites rewrites).after rfl fun _ => rfl,
        (advanceRead_advances db _ _ _).trans beside.advances⟩
  | advanceDirectReadWithoutTimers =>
    simp only [perform, Db.advanceDirectReadWithoutTimers] at h
    split at h
    · cases h
    · cases h
      exact ⟨.rewrites (.of_eq rfl fun _ => rfl), advanceRead_advances db _ _ _⟩
  | clearHistory => exact clearHistory_effect h
  | setBurnDuration =>
    obtain ⟨effect, mid, beside, advances, -⟩ := setBurnDuration_ok h
    exact ⟨effect, advances.trans beside.advances⟩
  | seats => cases own
  | configure => cases own
  | _ => exact (perform_beside h rfl).imp_right Beside.advances

end CircleBackend.Chat
