import CircleBackend.Chat.Operations
import CircleBackend.Library.ChangeLog
import CircleBackend.Library.Checked
import CircleBackend.Library.Transition

/-!
# The revisions of a conversation

What a client sees of the messages of one conversation, under their revisions,
is a change log whose mark is `conversationSyncRevision`: `Db.Logs`. Each
statement extends that log by the messages it changes (`Extends`), so a whole
operation does, and the log's own laws give what a run keeps.
-/

namespace CircleBackend.Chat

open Library
open Session (UserId)

/-! ## The change log of a conversation -/

/-- What a client sees of a message. -/
structure Shown where
  columns : Columns
  reactions : List ChatMessageReaction
  deriving DecidableEq, Repr

def Db.reactionsOf (db : Db) (id : MessageId) : List ChatMessageReaction :=
  db.reactions.select fun r => r.messageID = id

def Db.shown (db : Db) (m : ChatMessage) : Shown := ⟨m.columns, db.reactionsOf m.id⟩

/-- `conversationSyncRevision` of the row; no row, no revision. -/
def Db.syncRevision (db : Db) (cid : ConversationId) : Nat :=
  ((db.conversations.find cid).map conversationSyncRevision).getD 0

def Db.heightOf (db : Db) (cid : ConversationId) : Option Nat :=
  (db.conversations.find cid).map (·.nextHeight)

def Db.entry (db : Db) (cid : ConversationId) (id : MessageId) : Option (Nat × Shown) :=
  ((db.messages.find id).filter (·.conversationID = cid)).map fun m => (m.revision, db.shown m)

variable {db db' : Db} {id : MessageId} {cid conversationId : ConversationId}
variable {c : ChatConversation} {counterFirst : Bool} {now : Time} {userId : UserId}

theorem Db.entry_own {m : ChatMessage} (found : db.messages.find id = some m) :
    db.entry m.conversationID id = some (m.revision, db.shown m) := by
  simp [Db.entry, found, Option.filter]

theorem Db.entry_apart (apart : ∀ m, db.messages.find id = some m → m.conversationID ≠ cid) :
    db.entry cid id = none := by
  cases h : db.messages.find id with
  | none => simp [Db.entry, h]
  | some m => simp [Db.entry, h, Option.filter, apart m h]

structure Db.Logs (db : Db) (cid : ConversationId) (log : ChangeLog MessageId Shown) : Prop where
  entry : ∀ id, log.entry id = db.entry cid id
  mark : log.mark = db.syncRevision cid

/-- Every conversation's log grew by changes of some of the messages `ids`, in
that order. -/
def Extends (db : Db) (ids : List MessageId) (db' : Db) : Prop :=
  ∀ cid log, db.Logs cid log →
    ∃ ks later, ks.Sublist ids ∧ log.Grows ks later ∧ db'.Logs cid later

namespace Extends

theorem refl (db : Db) : Extends db [] db :=
  fun _ log h => ⟨[], log, .refl [], .refl log, h⟩

variable {db : Db}

theorem trans {db₁ db₂ : Db} {ids ids' : List MessageId} (h : Extends db ids db₁)
    (g : Extends db₁ ids' db₂) : Extends db (ids ++ ids') db₂ := by
  intro cid log logs
  obtain ⟨ks, mid, hks, grown, logs⟩ := h cid log logs
  obtain ⟨ls, later, hls, grown', logs⟩ := g cid mid logs
  exact ⟨ks ++ ls, later, hks.append hls, grown.trans grown', logs⟩

theorem weaken {db' : Db} {ids ids' : List MessageId} (h : Extends db ids db')
    (sub : ids.Sublist ids') : Extends db ids' db' := by
  intro cid log logs
  obtain ⟨ks, later, hks, rest⟩ := h cid log logs
  exact ⟨ks, later, hks.trans sub, rest⟩

/-- Nothing shown changed; the counters may have moved up. -/
theorem frame {db' : Db} (entry : ∀ cid id, db'.entry cid id = db.entry cid id)
    (mark : ∀ cid, db.syncRevision cid ≤ db'.syncRevision cid) : Extends db [] db' := by
  intro cid log logs
  have up : log.mark ≤ db'.syncRevision cid := logs.mark ▸ mark cid
  refine ⟨[], log.advance (db'.syncRevision cid) up, .refl [], .advance _ up (.refl log), ?_, rfl⟩
  intro id
  rw [entry]
  exact logs.entry id

/-- The message `m` is new or reads differently, under a number above its
conversation's mark; nothing else changed. -/
theorem row (db db' : Db) {m : ChatMessage}
    (found : ∀ id, db'.messages.find id = if id = m.id then some m else db.messages.find id)
    (reactions : ∀ id, id ≠ m.id → db'.reactionsOf id = db.reactionsOf id)
    (mark : ∀ cid, db.syncRevision cid ≤ db'.syncRevision cid)
    (above : db.syncRevision m.conversationID < m.revision)
    (below : m.revision ≤ db'.syncRevision m.conversationID)
    (same : ∀ old, db.messages.find m.id = some old → old.conversationID = m.conversationID)
    (changed : ∀ old, db.messages.find m.id = some old → db'.shown m ≠ db.shown old) :
    Extends db [m.id] db' := by
  have others : ∀ cid id, id ≠ m.id → db'.entry cid id = db.entry cid id := by
    intro cid id hid
    simp only [Db.entry, found, if_neg hid]
    cases h : db.messages.find id with
    | none => rfl
    | some old =>
      have hold : old.id ≠ m.id := (Table.find_key h).trans_ne hid
      simp only [Option.filter]
      split <;> simp [Db.shown, reactions old.id hold]
  have here : db'.messages.find m.id = some m := by rw [found, if_pos rfl]
  intro cid log logs
  by_cases hc : m.conversationID = cid
  · subst hc
    have fresh : log.mark < m.revision := logs.mark ▸ above
    have unlike : log.reads m.id ≠ some (db'.shown m) := by
      rw [ChangeLog.reads, logs.entry]
      cases h : db.messages.find m.id with
      | none => simp [Db.entry, h]
      | some old =>
        rw [← same old h, Db.entry_own h]
        exact fun eq => changed old h (Option.some.inj eq).symm
    let noted := log.record m.id m.revision (db'.shown m) fresh
    refine ⟨[m.id], noted.advance _ below, .refl _,
      .advance _ below (.record m.id m.revision _ fresh unlike (.refl log)), ?_, rfl⟩
    intro id
    change noted.entry id = _
    rw [ChangeLog.entry_record]
    by_cases hid : id = m.id
    · rw [if_pos hid, hid, Db.entry_own here]
    · rw [if_neg hid, others _ _ hid]
      exact logs.entry id
  · have up : log.mark ≤ db'.syncRevision cid := logs.mark ▸ mark cid
    refine ⟨[], log.advance _ up, List.nil_sublist _, .advance _ up (.refl log), ?_, rfl⟩
    intro id
    change log.entry id = _
    rw [logs.entry]
    by_cases hid : id = m.id
    · have before : db.entry cid m.id = none :=
        Db.entry_apart fun old h => (same old h).trans_ne hc
      have after : db'.entry cid m.id = none := by
        refine Db.entry_apart fun old h => ?_
        cases here.symm.trans h
        exact hc
      rw [hid, before, after]
    · exact (others cid id hid).symm

end Extends

/-! ## What a statement does to the log -/

/-- The columns of a conversation beside its counters. -/
def ChatConversation.settings (c : ChatConversation) : ChatConversation :=
  { c with nextHeight := 0, nextRevision := 0 }

/-- No seat and no setting was written. -/
structure Beside (db db' : Db) : Prop where
  members : db'.members = db.members
  circleMembers : db'.circleMembers = db.circleMembers
  blocks : db'.blocks = db.blocks
  settings : ∀ k, (db'.conversations.find k).map (·.settings) =
    (db.conversations.find k).map (·.settings)

theorem Beside.refl (db : Db) : Beside db db := ⟨rfl, rfl, rfl, fun _ => rfl⟩

theorem Beside.trans {db₁ db₂ : Db} (h : Beside db db₁) (g : Beside db₁ db₂) : Beside db db₂ :=
  ⟨g.members.trans h.members, g.circleMembers.trans h.circleMembers, g.blocks.trans h.blocks,
    fun k => (g.settings k).trans (h.settings k)⟩

/-- A number of its own from the counter of `cid`. -/
structure Allocated (db : Db) (cid : ConversationId) (n : Nat) (db' : Db) : Prop where
  number : n = db.syncRevision cid + 1
  sync : ∀ k, db'.syncRevision k = if k = cid then n else db.syncRevision k
  height : ∀ k, db'.heightOf k = db.heightOf k
  beside : Beside db db'
  messages : db'.messages = db.messages
  reactions : db'.reactions = db.reactions

theorem allocate_ok {missing : Fault} {n : Nat}
    (h : db.allocate missing cid = .ok (n, db')) : Allocated db cid n db' := by
  simp only [Db.allocate] at h
  split at h
  · cases h
  · rename_i c found
    split at h
    · cases h
    · cases h
      have own : c.id = cid := Table.find_key found
      have moved : ∀ k, (db.conversations.put
          { c with nextRevision := max c.nextRevision c.nextHeight + 1 }).find k =
          if k = cid then some { c with nextRevision := max c.nextRevision c.nextHeight + 1 }
          else db.conversations.find k := by
        subst own
        exact Table.find_put_of_find found
      constructor
      · simp [Db.syncRevision, found, conversationSyncRevision]
      · intro k
        simp only [Db.syncRevision, moved]
        split
        · simp only [Option.map_some, Option.getD_some, conversationSyncRevision]
          omega
        · rfl
      · intro k
        simp only [Db.heightOf, moved]
        split
        · rename_i hk
          rw [hk, found]
          rfl
        · rfl
      · refine ⟨rfl, rfl, rfl, fun k => ?_⟩
        rw [moved]
        split
        · rename_i hk
          rw [hk, found]
          rfl
        · rfl
      · rfl
      · rfl

theorem Allocated.mono {k : ConversationId} {n : Nat}
    (h : Allocated db cid n db') : db.syncRevision k ≤ db'.syncRevision k := by
  have := h.number
  rw [h.sync]
  split
  · rename_i hk
    rw [hk]
    omega
  · exact Nat.le_refl _

theorem number_ok {new row : ChatMessage} (h : db.number new = .ok (row, db')) :
    ∃ n, row = { new with revision := n } ∧ Allocated db new.conversationID n db' := by
  simp only [Db.number] at h
  split at h
  · cases h
  · rename_i n _ allocated
    cases h
    exact ⟨n, rfl, allocate_ok allocated⟩

/-- What the trigger lets through: the row as it is, or under a new number. -/
theorem assignRevision_ok {old new row : ChatMessage}
    (h : db.assignRevision old new = .ok (row, db')) :
    new.id = old.id ∧ new.conversationID = old.conversationID ∧ new.height = old.height ∧
      (row = new ∧ db' = db ∧ (new.revision ≠ old.revision ∨ new.columns = old.columns) ∨
        new.revision = old.revision ∧ new.columns ≠ old.columns ∧
          ∃ n, row = { new with revision := n } ∧ Allocated db new.conversationID n db') := by
  unfold Db.assignRevision at h
  split at h
  · cases h
  · rename_i identity
    simp only [ne_eq, not_or, not_not] at identity
    refine ⟨identity.1, identity.2.1, identity.2.2, ?_⟩
    split at h
    · cases h
    · split at h
      · cases h
      · split at h
        · rename_i explicit
          cases h
          exact Or.inl ⟨rfl, rfl, Or.inl explicit⟩
        · rename_i kept
          split at h
          · rename_i unseen
            cases h
            exact Or.inl ⟨rfl, rfl, Or.inr unseen⟩
          · rename_i seen
            exact Or.inr ⟨not_not.mp kept, seen, number_ok h⟩

variable {f : ChatMessage → ChatMessage} {scan : Scan} {content : Content}
variable {messageId : MessageId} {op : Op}

/-- A statement that does not set the revision itself. -/
theorem updateRow_extends (keeps : ∀ m, (f m).revision = m.revision)
    (h : db.updateRow f id = .ok db') : Extends db [id] db' := by
  unfold Db.updateRow at h
  split at h
  · cases h
    exact (Extends.refl db).weaken (List.nil_sublist _)
  · rename_i old found
    have key : old.id = id := Table.find_key found
    split at h
    · cases h
    · rename_i row mid assigned
      cases h
      obtain ⟨sameId, sameConv, -, cases⟩ := assignRevision_ok assigned
      rcases cases with ⟨rfl, rfl, plain⟩ | ⟨-, changed, n, rfl, allocated⟩
      · have unseen : (f old).columns = old.columns :=
          plain.resolve_left fun h => h (keeps old)
        have found' : mid.messages.find (f old).id = some old := by
          rw [sameId, key]
          exact found
        have entry : ∀ cid k, Db.entry { mid with messages := mid.messages.put (f old) } cid k =
            mid.entry cid k := by
          intro cid k
          simp only [Db.entry, Table.find_put_of_find found' k]
          by_cases hk : k = (f old).id
          · rw [if_pos hk, hk, found']
            simp only [Option.filter, sameConv]
            split <;> simp [keeps, Db.shown, unseen, Db.reactionsOf, sameId]
          · rw [if_neg hk]
            rfl
        exact (Extends.frame entry fun _ => Nat.le_refl _).weaken (List.nil_sublist _)
      · have own : ({ f old with revision := n } : ChatMessage).id = id := sameId.trans key
        have found' : mid.messages.find ({ f old with revision := n } : ChatMessage).id = some old := by
          rw [own, allocated.messages]
          exact found
        have number := allocated.number
        have row := Extends.row db
          { mid with messages := mid.messages.put { f old with revision := n } }
          (m := { f old with revision := n })
          (fun k => by rw [Table.find_put_of_find found', allocated.messages])
          (fun k _ => by simp only [Db.reactionsOf, allocated.reactions])
          (fun k => allocated.mono)
          (by simp only; omega)
          (Nat.le_of_eq ((allocated.sync _).trans (if_pos rfl)).symm)
          (by
            intro o ho
            cases (own ▸ ho).symm.trans found
            exact sameConv.symm)
          (by
            intro o ho same
            cases (own ▸ ho).symm.trans found
            exact changed (congrArg Shown.columns same))
        exact own ▸ row

theorem updateRows_extends (keeps : ∀ m, (f m).revision = m.revision) {ids : List MessageId}
    (h : ids.foldlM (fun (db : Db) id => db.updateRow f id) db = .ok db') : Extends db ids db' := by
  induction ids generalizing db with
  | nil =>
    cases h
    exact .refl _
  | cons id rest ih =>
    rw [List.foldlM_cons] at h
    obtain ⟨mid, first, last⟩ := bind_ok h
    exact (updateRow_extends keeps first).trans (ih last)

/-- One operation changes a message at most once. -/
def Amends (db db' : Db) : Prop := ∃ ids, ids.Nodup ∧ Extends db ids db'

theorem Extends.once (h : Extends db [id] db') : Amends db db' :=
  ⟨[id], List.nodup_singleton id, h⟩

theorem Extends.quiet (h : Extends db [] db') : Amends db db' :=
  ⟨[], List.nodup_nil, h⟩

theorem Amends.then {mid : Db} (h : Amends db mid) (g : Extends mid [] db') : Amends db db' := by
  obtain ⟨ids, nodup, grown⟩ := h
  have := grown.trans g
  rw [List.append_nil] at this
  exact ⟨ids, nodup, this⟩

theorem Amends.after {mid : Db} (g : Extends db [] mid) (h : Amends mid db') : Amends db db' := by
  obtain ⟨ids, nodup, grown⟩ := h
  exact ⟨ids, nodup, g.trans grown⟩

theorem ids_nodup (db : Db) (scan : Scan) (p : ChatMessage → Bool) :
    (scan.order ((db.messages.select p).map (·.id))).Nodup := by
  have stored : ((db.messages.select p).map (·.id)).Nodup :=
    db.messages.unique.sublist (List.filter_sublist.map _)
  exact (scan.perm _).nodup_iff.mpr stored

theorem updateMessages_amends {p : ChatMessage → Bool} (h : db.updateMessages scan p f = .ok db')
    (keeps : ∀ m, (f m).revision = m.revision) : Amends db db' :=
  ⟨_, ids_nodup db scan p, updateRows_extends keeps h⟩

/-- The reactions of one message changed, and the trigger ran for it. -/
theorem bumpRevision_extends (db : Db)
    (reactions : Table ChatMessageReaction (MessageId × UserId × JsString) ChatMessageReaction.key)
    (others : ∀ k, k ≠ id → reactions.select (fun r => decide (r.messageID = k)) = db.reactionsOf k)
    (changed : reactions.select (fun r => decide (r.messageID = id)) ≠ db.reactionsOf id)
    (h : { db with reactions := reactions }.bumpRevision id = .ok db') : Extends db [id] db' := by
  unfold Db.bumpRevision at h
  split at h
  · rename_i absent
    cases h
    have entry : ∀ cid k, Db.entry { db with reactions := reactions } cid k = db.entry cid k := by
      intro cid k
      simp only [Db.entry]
      cases found : db.messages.find k with
      | none => rfl
      | some m =>
        have hk : m.id ≠ id := by
          rintro rfl
          rw [Table.find_key found, found] at absent
          cases absent
        simp only [Option.filter]
        split
        · exact congrArg (fun l => some (m.revision, Shown.mk m.columns l)) (others m.id hk)
        · rfl
    exact (Extends.frame entry fun cid => Nat.le_refl _).weaken (List.nil_sublist _)
  · rename_i m found
    split at h
    · cases h
    · rename_i n counted allocated
      have count := allocate_ok allocated
      have numbered : n = db.syncRevision m.conversationID + 1 := count.number
      have key : m.id = id := Table.find_key found
      have found' : counted.messages.find id = some m := by
        rw [count.messages]
        exact found
      simp only [Db.updateRow, found'] at h
      split at h
      · cases h
      · rename_i row last assigned
        cases h
        obtain ⟨-, -, -, cases⟩ := assignRevision_ok assigned
        -- the number is already in place, so the first trigger hands out no other
        have explicit : row = { m with revision := n } ∧ last = counted := by
          rcases cases with ⟨rfl, rfl, -⟩ | ⟨-, seen, -⟩
          · exact ⟨rfl, rfl⟩
          · exact absurd rfl seen
        obtain ⟨rfl, rfl⟩ := explicit
        subst key
        have rows : ∀ k, (last.messages.put { m with revision := n }).find k =
            if k = m.id then some { m with revision := n } else db.messages.find k := by
          intro k
          have put := Table.find_put_of_find (a := { m with revision := n }) found' k
          rw [count.messages] at put ⊢
          exact put
        refine Extends.row _ _ (m := { m with revision := n }) rows ?_ (fun k => count.mono) ?_
          (Nat.le_of_eq ((count.sync _).trans (if_pos rfl)).symm) ?_ ?_
        · intro k hk
          simp only [Db.reactionsOf, count.reactions]
          exact others k hk
        · simp only
          omega
        · intro old before
          cases found.symm.trans before
          rfl
        · intro old before same
          cases found.symm.trans before
          have reactions := congrArg Shown.reactions same
          simp only [Db.shown, Db.reactionsOf, count.reactions] at reactions
          exact changed reactions

theorem createReaction_amends {reaction : ChatMessageReaction}
    (h : db.createReaction reaction = .ok db') : Amends db db' := by
  unfold Db.createReaction at h
  split at h
  · cases h
    exact (Extends.refl db).quiet
  · rename_i reactions inserted
    have rows := Table.insert_rows inserted
    refine (bumpRevision_extends db reactions ?_ ?_ h).once
    · intro k hk
      simp [Db.reactionsOf, Table.select, rows, List.filter_append, Ne.symm hk]
    · intro same
      have := congrArg List.length same
      simp [Db.reactionsOf, Table.select, rows, List.filter_append] at this

theorem deleteReaction_amends {reaction : ChatMessageReaction}
    (h : db.deleteReaction reaction = .ok db') : Amends db db' := by
  simp only [Db.deleteReaction, Table.select_key] at h
  cases found : db.reactions.find reaction.key with
  | none =>
    have gone : (db.reactions.deleteMany fun r => decide (r.key = reaction.key)).rows =
        db.reactions.rows := by
      simp only [Table.deleteMany, List.filter_eq_self]
      intro r hr
      simpa using Table.find_eq_none.mp found r hr
    rw [found] at h
    cases h
    have entry : ∀ cid k, Db.entry { db with reactions := db.reactions.deleteMany (fun r =>
        decide (r.key = reaction.key)) } cid k = db.entry cid k := by
      intro cid k
      simp only [Db.entry, Db.shown, Db.reactionsOf, Table.select, gone]
    exact (Extends.frame entry fun _ => Nat.le_refl _).quiet
  | some r =>
    obtain ⟨member, key⟩ := Table.find_eq_some.mp found
    have target : r.messageID = reaction.messageID := congrArg Prod.fst key
    rw [found] at h
    simp only [Option.toList_some, List.foldlM_cons, List.foldlM_nil] at h
    obtain ⟨last, bumped, rest⟩ := bind_ok h
    cases rest
    refine (bumpRevision_extends db _ ?_ ?_ bumped).once
    · intro k hk
      simp only [Db.reactionsOf, Table.select, Table.deleteMany, List.filter_filter]
      apply List.filter_congr
      intro a _
      by_cases ha : a.messageID = k
      · have apart : a.key ≠ reaction.key := by
          intro same
          exact hk (ha.symm.trans ((congrArg Prod.fst same).trans target.symm))
        simp [ha, apart]
      · simp [ha]
    · intro same
      have before : r ∈ db.reactionsOf r.messageID :=
        Table.mem_select.mpr ⟨member, by simp⟩
      rw [← same] at before
      have after := (Table.mem_deleteMany.mp (Table.mem_select.mp before).1).2
      simp [key] at after

theorem createMessage_ok {new row : ChatMessage} (h : db.createMessage new = .ok (row, db')) :
    Extends db [new.id] db' ∧ ∀ k, db'.heightOf k = db.heightOf k := by
  unfold Db.createMessage at h
  split at h
  · cases h
  · rename_i numbered mid assigned
    obtain ⟨n, rfl, count⟩ := number_ok assigned
    have above := count.number
    split at h
    · cases h
    · split at h
      · cases h
      · rename_i messages inserted
        cases h
        have fresh : db.messages.find new.id = none := by
          have absent := Table.insert_fresh inserted
          rw [count.messages] at absent
          exact absent
        have rows : ∀ k, messages.find k =
            if k = new.id then some { new with revision := n } else db.messages.find k := by
          intro k
          rw [Table.find_insert inserted, count.messages]
          simp only [eq_comm]
        refine ⟨Extends.row _ _ (m := { new with revision := n }) rows ?_ (fun k => count.mono) ?_
          (Nat.le_of_eq ((count.sync _).trans (if_pos rfl)).symm) ?_ ?_, count.height⟩
        · intro k _
          simp only [Db.reactionsOf, count.reactions]
        · simp only
          omega
        · intro old before
          cases fresh.symm.trans before
        · intro old before
          cases fresh.symm.trans before

theorem advanceConversation_extends {height : Nat}
    (up : ∀ k, db.heightOf c.id = some k → k ≤ height)
    (h : db.advanceConversation c height = .ok db') : Extends db [] db' := by
  unfold Db.advanceConversation at h
  split at h
  · cases h
  · cases h
    refine Extends.frame (fun _ _ => rfl) fun cid => ?_
    simp only [Db.syncRevision, Table.find_updateMany]
    cases found : db.conversations.find cid with
    | none => exact Nat.le_refl _
    | some row =>
      by_cases own : row.id = c.id
      · have := up row.nextHeight (by
          rw [Db.heightOf, ← own, Table.find_key found, found]
          rfl)
        simp only [Option.map_some, own, decide_true, ↓reduceIte, Option.getD_some,
          conversationSyncRevision]
        omega
      · simp [own]

/-- The locked row still holds the counter it was read with. -/
theorem appendMessage_amends {d : Draft}
    {row : ChatMessage} (locked : db.heightOf c.id = some c.nextHeight)
    (h : db.appendMessage counterFirst c d = .ok (row, db')) : Amends db db' := by
  have up : ∀ k, db.heightOf c.id = some k → k ≤ c.nextHeight + 1 := by
    intro k hk
    cases locked.symm.trans hk
    omega
  unfold Db.appendMessage at h
  split at h
  · obtain ⟨mid, advanced, created⟩ := bind_ok h
    exact .after (advanceConversation_extends up advanced) (createMessage_ok created).1.once
  · obtain ⟨⟨row', mid⟩, created, rest⟩ := bind_ok h
    obtain ⟨last, advanced, done⟩ := bind_ok rest
    cases done
    obtain ⟨grown, height⟩ := createMessage_ok created
    exact grown.once.then (advanceConversation_extends (fun k hk => up k (height c.id ▸ hk)) advanced)

/-! ## What an operation does to the log -/

theorem heightOf_found
    (h : db.conversations.find cid = some c) : db.heightOf c.id = some c.nextHeight := by
  rw [Db.heightOf, Table.find_key h, h]
  rfl

theorem insertSystemMessage_amends (h : db.insertSystemMessage c id content now = .ok db')
    (locked : db.heightOf c.id = some c.nextHeight) : Amends db db' := by
  obtain ⟨⟨row, mid⟩, appended, done⟩ := bind_ok h
  cases done
  exact appendMessage_amends locked appended

theorem sendMessage_amends {r : SendRequest} {s : SendResult}
    (h : db.sendMessage counterFirst r = .ok (s, db')) : Amends db db' := by
  unfold Db.sendMessage at h
  split at h
  · cases h
  · rename_i c found
    obtain ⟨seat, -, h⟩ := bind_ok h
    split at h
    · obtain ⟨_, -, done⟩ := bind_ok h
      cases done
      exact (Extends.refl _).quiet
    · obtain ⟨⟨row, mid⟩, appended, done⟩ := bind_ok h
      cases done
      exact appendMessage_amends (heightOf_found found) appended

/-- Nothing, or one message of the server in the conversation. -/
def Db.Appends (db db' : Db) (counterFirst : Bool) (conversationId : ConversationId) : Prop :=
  db' = db ∨ ∃ c d row, db.conversations.find conversationId = some c ∧
    d.conversationID = conversationId ∧ db.appendMessage counterFirst c d = .ok (row, db')

theorem insertServerMessage_ok {senderID : Option UserId} {type : MessageType}
    {key : Option JsString} {s : SendResult}
    (h : db.insertServerMessage counterFirst id conversationId senderID type content key now =
      .ok (s, db')) : db.Appends db' counterFirst conversationId := by
  simp only [Db.insertServerMessage] at h
  split at h
  · cases h
  · rename_i c found
    split at h
    · cases h
      exact .inl rfl
    · obtain ⟨⟨row, mid⟩, appended, done⟩ := bind_ok h
      cases done
      exact .inr ⟨c, _, row, found, rfl, appended⟩

theorem autoReply_ok {responderID : UserId} {key : JsString} {policySec : Nat}
    (h : db.autoReply counterFirst id conversationId responderID content key policySec now =
      .ok db') : db.Appends db' counterFirst conversationId := by
  simp only [Db.autoReply] at h
  split at h
  · cases h
    exact .inl rfl
  · rename_i c found
    split at h
    · cases h
      exact .inl rfl
    · obtain ⟨⟨row, mid⟩, appended, done⟩ := bind_ok h
      cases done
      exact .inr ⟨c, _, row, found, rfl, appended⟩

theorem Db.Appends.amends (h : db.Appends db' counterFirst conversationId) : Amends db db' := by
  obtain rfl | ⟨c, d, row, found, -, appended⟩ := h
  · exact (Extends.refl _).quiet
  · exact appendMessage_amends (heightOf_found found) appended

theorem revokeMessage_amends {moderator : Bool}
    (h : db.revokeMessage userId moderator conversationId messageId now = .ok db') :
    Amends db db' := by
  obtain ⟨row, -, h⟩ := bind_ok h
  split at h
  · cases h
  · exact updateMessages_amends h fun _ => rfl

theorem editMessage_ok {text : JsString} {roomActive : Bool}
    (h : db.editMessage userId conversationId messageId text roomActive now = .ok db') :
    ∃ current : ChatMessage, db.updateMessages .asStored
      (fun m => m.id = messageId && m.revokedAt.isNone && !m.deleted)
      (fun m =>
        { m with
          content := current.content.withText text
          editedAt := some now
          contentHistory := some (current.contentHistory.getD [] ++ [current.content]) }) =
        .ok db' := by
  unfold Db.editMessage at h
  split at h
  · cases h
  · obtain ⟨_, -, h⟩ := bind_ok h
    obtain ⟨current, -, h⟩ := bind_ok h
    split at h
    · cases h
    · split at h
      · cases h
      · exact ⟨current, h⟩

theorem toggleReaction_ok {emoji : JsString} {add roomActive : Bool}
    (h : db.toggleReaction userId conversationId messageId emoji add roomActive now = .ok db') :
    db' = db ∨ db.createReaction ⟨messageId, userId, emoji⟩ = .ok db' ∨
      db.deleteReaction ⟨messageId, userId, emoji⟩ = .ok db' := by
  unfold Db.toggleReaction at h
  split at h
  · cases h
  · obtain ⟨_, -, h⟩ := bind_ok h
    obtain ⟨row, -, h⟩ := bind_ok h
    split at h
    · cases h
    · split at h
      · cases h
        exact .inl rfl
      · split at h
        · exact .inr (.inl h)
        · exact .inr (.inr h)

theorem toggleReaction_amends {emoji : JsString} {add roomActive : Bool}
    (h : db.toggleReaction userId conversationId messageId emoji add roomActive now = .ok db') :
    Amends db db' := by
  obtain rfl | created | deleted := toggleReaction_ok h
  · exact (Extends.refl _).quiet
  · exact createReaction_amends created
  · exact deleteReaction_amends deleted

theorem startReadBurnTimers_amends {height : Nat} {clock : MessageId → Time}
    (h : db.startReadBurnTimers scan conversationId userId height clock = .ok db') :
    Amends db db' := by
  unfold Db.startReadBurnTimers at h
  split at h
  · exact updateMessages_amends h fun _ => rfl
  · cases h
    exact (Extends.refl _).quiet

/-- Only seats and the columns of a conversation beside its counters differ. -/
theorem Extends.around (messages : db'.messages = db.messages)
    (reactions : db'.reactions = db.reactions)
    (sync : ∀ cid, db'.syncRevision cid = db.syncRevision cid) : Extends db [] db' := by
  refine Extends.frame (fun cid id => ?_) fun cid => Nat.le_of_eq (sync cid).symm
  simp only [Db.entry, Db.shown, Db.reactionsOf, messages, reactions]

theorem raiseConversationFloor_sync (db : Db) (c : ChatConversation) (height : Nat)
    (cid : ConversationId) :
    (db.raiseConversationFloor c height).syncRevision cid = db.syncRevision cid ∧
      (db.raiseConversationFloor c height).heightOf cid = db.heightOf cid := by
  simp only [Db.syncRevision, Db.heightOf, Db.raiseConversationFloor, Table.find_updateMany]
  cases db.conversations.find cid with
  | none => exact ⟨rfl, rfl⟩
  | some row =>
    simp only [Option.map_some]
    split <;> exact ⟨rfl, rfl⟩

theorem seat_targets {r : ClearRequestArgs} {seat : ChatMember}
    (found : db.members.find (r.conversationId, r.userId) = some seat) :
    db.members.select (r.targets false) = [seat] := by
  have same : r.targets false = fun m =>
      decide ((m.conversationID, m.userID) = (r.conversationId, r.userId)) := by
    funext m
    simp [ClearRequestArgs.targets, Bool.decide_and]
  rw [same, Table.select_key, found]
  rfl

theorem seat_of_filter {k : ConversationId × UserId} {seat : ChatMember}
    (h : (db.members.find k).filter (·.leftAt.isNone) = some seat) :
    db.members.find k = some seat ∧ seat.leftAt = none := by
  obtain ⟨found, seated⟩ := Option.filter_eq_some_iff.mp h
  exact ⟨found, by simpa using seated⟩

theorem clearHistory_amends {r : ClearRequestArgs}
    {clock : MessageId → Time} (h : db.clearHistory scan r clock = .ok db') : Amends db db' := by
  simp only [Db.clearHistory] at h
  split at h
  · rename_i c seat found seated
    split at h
    · cases h
    · split at h
      · cases h
        exact (Extends.refl _).quiet
      · obtain ⟨timed, started, h⟩ := bind_ok h
        by_cases direct : c.type = .direct
        · -- a direct chat is never cleared for everyone, so one reader starts timers
          have alone : (r.forEveryone && decide (c.type = .group)) = false := by simp [direct]
          rw [if_pos direct, alone, seat_targets (seat_of_filter seated).1] at started
          obtain ⟨last, begun, done⟩ := bind_ok started
          cases done
          rw [alone] at h
          cases h
          refine (startReadBurnTimers_amends begun).then ?_
          exact Extends.around rfl rfl fun _ => rfl
        · rw [if_neg direct] at started
          cases started
          split at h
          · cases h
            exact Extends.quiet (Extends.around rfl rfl fun _ => rfl)
          · have floored : ∀ mid : Db, mid.messages = db.messages → mid.reactions = db.reactions →
                mid.conversations = db.conversations → ∀ height,
                Extends db [] (mid.raiseConversationFloor c height) ∧
                  (mid.raiseConversationFloor c height).heightOf c.id = some c.nextHeight := by
              intro mid messages reactions conversations height
              have raised := raiseConversationFloor_sync mid c height
              constructor
              · refine Extends.around messages reactions fun cid => (raised cid).1.trans ?_
                simp only [Db.syncRevision, conversations]
              · rw [(raised c.id).2, Db.heightOf, conversations]
                exact heightOf_found found
            split at h
            · refine Amends.after (floored _ ?_ ?_ ?_ _).1
                (insertSystemMessage_amends h (floored _ ?_ ?_ ?_ _).2) <;> rfl
            · cases h
              refine Extends.quiet (floored _ ?_ ?_ ?_ _).1 <;> rfl
  · cases h

theorem perform_amends (h : perform db op = .ok db') : Amends db db' := by
  cases op with
  | sendMessage =>
    obtain ⟨⟨s, mid⟩, sent, done⟩ := bind_ok h
    cases done
    exact sendMessage_amends sent
  | insertServerMessage =>
    obtain ⟨⟨s, mid⟩, sent, done⟩ := bind_ok h
    cases done
    exact (insertServerMessage_ok sent).amends
  | autoReply => exact (autoReply_ok h).amends
  | revokeMessage => exact revokeMessage_amends h
  | editMessage =>
    obtain ⟨current, updated⟩ := editMessage_ok h
    exact updateMessages_amends updated fun _ => rfl
  | sweepConversation => exact updateMessages_amends h fun _ => rfl
  | toggleReaction => exact toggleReaction_amends h
  | markReadLocked =>
    simp only [perform, Db.markReadLocked] at h
    split at h
    · cases h
    · refine Amends.after ?_ (startReadBurnTimers_amends h)
      exact Extends.around rfl rfl fun _ => rfl
  | advanceDirectReadWithoutTimers =>
    simp only [perform, Db.advanceDirectReadWithoutTimers] at h
    split at h
    · cases h
    · cases h
      exact Extends.quiet (Extends.around rfl rfl fun _ => rfl)
  | clearHistory => exact clearHistory_amends h
  | setBurnDuration =>
    simp only [perform, Db.setBurnDuration] at h
    split at h
    · cases h
    · rename_i c found
      split at h
      · cases h
      · refine Amends.after ?_ (insertSystemMessage_amends h (heightOf_found found))
        exact Extends.around rfl rfl fun _ => rfl
  | seats =>
    cases h
    exact Extends.quiet (Extends.around rfl rfl fun _ => rfl)
  | configure settings =>
    simp only [perform] at h
    split at h
    · cases h
      exact (Extends.refl _).quiet
    · rename_i c found
      cases h
      refine Extends.quiet (Extends.around rfl rfl fun cid => ?_)
      have own : c.id = settings.id := Table.find_key found
      have moved := Table.find_put_of_find
        (a := { settings with nextHeight := c.nextHeight, nextRevision := c.nextRevision }) found cid
      simp only [Db.syncRevision, moved]
      split
      · rename_i hk
        rw [hk, found]
        rfl
      · rfl

/-! ## Runs -/

/-- After the backfill: every message under its height, whatever the counter of
its conversation. The indexes and the foreign key hold of the rows. -/
structure Backfilled (db : Db) : Prop where
  revision : ∀ m ∈ db.messages.rows, m.revision = m.height
  height : ∀ m ∈ db.messages.rows, ∃ c,
    db.conversations.find m.conversationID = some c ∧ m.height ≤ c.nextHeight
  heights : ∀ m ∈ db.messages.rows, ∀ n ∈ db.messages.rows,
    m.conversationID = n.conversationID → m.height = n.height → m = n

def Reachable : Db → Prop := Library.Reachable Backfilled Step

theorem Db.entry_some {e : Nat × Shown} (h : db.entry cid id = some e) :
    ∃ m, db.messages.find id = some m ∧ m.conversationID = cid ∧ e = (m.revision, db.shown m) := by
  obtain ⟨m, hm, rfl⟩ := Option.map_eq_some_iff.mp h
  obtain ⟨found, own⟩ := Option.filter_eq_some_iff.mp hm
  exact ⟨m, found, by simpa using own, rfl⟩

theorem backfilled_logs (h : Backfilled db) (cid : ConversationId) : ∃ log, db.Logs cid log := by
  refine ⟨⟨db.entry cid, db.syncRevision cid, ?_, ?_⟩, fun _ => rfl, rfl⟩
  · intro id e he
    obtain ⟨m, found, own, rfl⟩ := Db.entry_some he
    have member := Table.find_mem found
    obtain ⟨c, hc, low⟩ := h.height m member
    rw [own] at hc
    have := h.revision m member
    simp only [Db.syncRevision, hc, Option.map_some, Option.getD_some, conversationSyncRevision]
    omega
  · intro id id' e f he hf same
    obtain ⟨m, found, own, rfl⟩ := Db.entry_some he
    obtain ⟨n, found', own', rfl⟩ := Db.entry_some hf
    have hm := Table.find_mem found
    have hn := Table.find_mem found'
    have heights : m.height = n.height := by
      rw [← h.revision m hm, ← h.revision n hn]
      exact same
    have alike := h.heights m hm n hn (own.trans own'.symm) heights
    rw [← Table.find_key found, ← Table.find_key found', alike]

theorem step_amends (h : Step db op db') : Amends db db' := by
  cases h with
  | committed ok => exact perform_amends ok
  | rolledBack => exact (Extends.refl db).quiet

def Logged (db : Db) : Prop := ∀ cid, ∃ log, db.Logs cid log

theorem logged_step (h : Step db op db') (logged : Logged db) : Logged db' := by
  intro cid
  obtain ⟨ids, -, grown⟩ := step_amends h
  obtain ⟨log, logs⟩ := logged cid
  obtain ⟨_, later, -, -, logs'⟩ := grown cid log logs
  exact ⟨later, logs'⟩

theorem reachable_logged (h : Reachable db) : Logged db := by
  apply h.invariant
  · intro start backfilled
    exact backfilled_logs backfilled
  · intro before op after step
    exact logged_step step

/-- What a reader of the revisions may rely on between two states: a message
stays where it is, keeps its revision while it reads the same and takes one
above the old mark when it does not; a new one comes in above the mark. -/
structure Faithful (db db' : Db) : Prop where
  kept : ∀ id m, db.messages.find id = some m → ∃ m', db'.messages.find id = some m' ∧
    m'.conversationID = m.conversationID ∧
    if db'.shown m' = db.shown m then m'.revision = m.revision
    else db.syncRevision m.conversationID < m'.revision
  new : ∀ id m', db.messages.find id = none → db'.messages.find id = some m' →
    db.syncRevision m'.conversationID < m'.revision

theorem Amends.faithful (logged : Logged db) (h : Amends db db') : Faithful db db' := by
  obtain ⟨ids, nodup, grown⟩ := h
  constructor
  · intro id m found
    obtain ⟨log, logs⟩ := logged m.conversationID
    obtain ⟨ks, later, sub, grew, logs'⟩ := grown m.conversationID log logs
    have before : log.entry id = some (m.revision, db.shown m) :=
      (logs.entry id).trans (Db.entry_own found)
    rcases grew.faithful (nodup.sublist sub) id with same | ⟨unlike, e, now, above⟩
    · rw [before] at same
      obtain ⟨m', found', own, he⟩ := Db.entry_some ((logs'.entry id).symm.trans same)
      have shown : db.shown m = db'.shown m' := congrArg Prod.snd he
      have revision : m.revision = m'.revision := congrArg Prod.fst he
      exact ⟨m', found', own, by rw [if_pos shown.symm, revision]⟩
    · obtain ⟨m', found', own, rfl⟩ := Db.entry_some ((logs'.entry id).symm.trans now)
      have differs : db'.shown m' ≠ db.shown m := by
        intro same
        simp only [ChangeLog.reads, now, before, Option.map_some, same] at unlike
        exact unlike rfl
      exact ⟨m', found', own, by rw [if_neg differs, ← logs.mark]; exact above⟩
  · intro id m' absent found'
    obtain ⟨log, logs⟩ := logged m'.conversationID
    obtain ⟨ks, later, sub, grew, logs'⟩ := grown m'.conversationID log logs
    have before : log.entry id = none := by rw [logs.entry, Db.entry, absent]; rfl
    have now : later.entry id = some (m'.revision, db'.shown m') :=
      (logs'.entry id).trans (Db.entry_own found')
    rcases grew.faithful (nodup.sublist sub) id with same | ⟨-, e, now', above⟩
    · rw [before, now] at same
      cases same
    · rw [← logs.mark]
      cases now.symm.trans now'
      exact above

theorem revision_stream {db : Db} (h : Reachable db) :
    (∀ m ∈ db.messages.rows, ∀ n ∈ db.messages.rows, m.conversationID = n.conversationID →
      m.revision = n.revision → m = n) ∧
    (∀ m ∈ db.messages.rows, m.revision ≤ db.syncRevision m.conversationID) ∧
    ∀ op db', Step db op db' → Faithful db db' := by
  have logged := reachable_logged h
  refine ⟨?_, ?_, fun op db' step => (step_amends step).faithful logged⟩
  · intro m hm n hn own same
    obtain ⟨log, logs⟩ := logged m.conversationID
    have first := (logs.entry m.id).trans (Db.entry_own (Table.mem_find hm))
    have second := (logs.entry n.id).trans (own ▸ Db.entry_own (Table.mem_find hn))
    exact db.messages.row_unique hm hn (log.distinct _ _ _ _ first second same)
  · intro m hm
    obtain ⟨log, logs⟩ := logged m.conversationID
    rw [← logs.mark]
    exact log.bounded _ _ ((logs.entry m.id).trans (Db.entry_own (Table.mem_find hm)))

/-- A group whose two messages are from before the counter. -/
def legacy : Db where
  conversations :=
    ⟨[{ id := 1, type := .group, directKey := none, circleID := none, ownerID := some 1,
        muteAllAt := none, memberCanInvite := true, qrJoinEnabled := true, cardJoinEnabled := true,
        joinApprovalRequired := false, nextHeight := 2, nextRevision := 0,
        clearedBeforeHeight := 0 }], by decide⟩
  members :=
    ⟨[{ conversationID := 1, userID := 1, role := .member, silencedAt := none,
        silencedUntil := none, burnDurationSec := none, burnStartedAt := none, lastReadHeight := 0,
        clearedBeforeHeight := 0, joinedAt := 0, leftAt := none }], by decide⟩
  circleMembers := .empty
  blocks := []
  messages :=
    ⟨[1, 2].map fun height =>
      { id := height, conversationID := 1, height := height, senderID := some 1, type := .text,
        content := [(textField, .string [104])], clientMessageId := none, requestHash := none,
        replyToID := none, burnDurationSec := none, burnExpiresAt := none, deleted := false,
        deletedAt := none, revokedAt := none, revokedBy := none, editedAt := none,
        contentHistory := none, revision := height, createdAt := height }, by decide⟩
  reactions := .empty

theorem legacy_backfilled : Backfilled legacy := by
  constructor
  · decide
  · have low : ∀ m ∈ legacy.messages.rows, m.conversationID = 1 ∧ m.height ≤ 2 := by decide
    intro m hm
    rw [(low m hm).1]
    exact ⟨_, rfl, (low m hm).2⟩
  · decide

theorem reachable_after (h : Reachable db) (op : Op) : Reachable (after db op) :=
  h.run (.single (step_after db op))

/-- A reaction to the first message, then the second one revoked. -/
theorem revision_stream_legacy :
    let db := after (after legacy (.toggleReaction 1 1 1 [128077] true true 5))
      (.revokeMessage 1 false 1 2 5)
    db.messages.rows.map (·.revision) = [3, 4] ∧
      ∀ m ∈ db.messages.rows, m.revision ≤ db.syncRevision m.conversationID := by
  refine ⟨by decide, (revision_stream ?_).2.1⟩
  exact reachable_after (reachable_after ⟨legacy, [], legacy_backfilled, .nil legacy⟩ _) _

end CircleBackend.Chat
