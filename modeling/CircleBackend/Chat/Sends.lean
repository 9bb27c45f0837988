import CircleBackend.Chat.Groups
import Mathlib.Data.List.Range

/-!
# Sending a message once

Whatever is sent, retried and moderated, the heights of a conversation are those
from one to its counter, and a key of a sender names one message. `Dense` is the
invariant; `barred` is what a silence, a removal or a silence of everybody
leaves behind for the sends that lock the conversation after it.
-/

namespace CircleBackend.Chat

open Library
open Session (UserId)

/-! ## Runs -/

inductive Act
  | op (op : Op)
  | govern (g : Governance)

def Act.run (db : Db) : Act → Except Fault Db
  | .op o => perform db o
  | .govern g => Chat.govern db g

inductive ActStep : Db → Act → Db → Prop
  | committed {db db' : Db} {a : Act} : a.run db = .ok db' → ActStep db a db'
  | rolledBack {db : Db} {a : Act} {fault : Fault} : a.run db = .error fault → ActStep db a db

/-- The state an act leaves, whether it commits or not. -/
def settle (db : Db) (a : Act) : Db :=
  match a.run db with
  | .ok db' => db'
  | .error _ => db

theorem step_settle (db : Db) (a : Act) : ActStep db a (settle db a) := by
  unfold settle
  cases h : a.run db with
  | ok db' => exact .committed h
  | error fault => exact .rolledBack h

variable {a : Act} {db db' : Db} {m : ChatMessage} {r : SendRequest} {cid : ConversationId}

theorem step_settled (h : ActStep db a db') : db' = settle db a := by
  unfold settle
  cases h with
  | committed ok => rw [ok]
  | rolledBack error => rw [error]

/-- Before the first message. -/
structure Unwritten (db : Db) : Prop where
  messages : db.messages.rows = []
  counters : ∀ c ∈ db.conversations.rows, c.nextHeight = 0

/-- What a forward reads under its key before it takes the lock. -/
def Db.replayForward (db : Db) (r : SendRequest) : Option (Except Fault SendResult) :=
  (db.sentAs r.conversationId r.senderUserId r.d).map (·.replayed r.requestHash)

/-- The message is the one of the request's key. -/
def SendRequest.names (r : SendRequest) (m : ChatMessage) : Prop :=
  m.conversationID = r.conversationId ∧ m.senderID = some r.senderUserId ∧
    m.clientMessageId = some r.d

/-! ## The log -/

structure Dense (db : Db) : Prop where
  homed : ∀ m ∈ db.messages.rows,
    ∃ n, db.heightOf m.conversationID = some n ∧ 1 ≤ m.height ∧ m.height ≤ n
  filled : ∀ cid n, db.heightOf cid = some n → ∀ k, 1 ≤ k → k ≤ n →
    ∃ m ∈ db.messages.rows, m.conversationID = cid ∧ m.height = k
  apart : ∀ m ∈ db.messages.rows, ∀ n ∈ db.messages.rows,
    m.conversationID = n.conversationID → m.height = n.height → m = n
  keyed : ∀ m ∈ db.messages.rows, ∀ n ∈ db.messages.rows, ∀ r : SendRequest,
    r.names m → r.names n → m = n

theorem Amended.names {m' : ChatMessage} (h : Amended m m') : r.names m' ↔ r.names m := by
  simp only [SendRequest.names, h.conversationID, h.senderID, h.clientMessageId]

theorem Dense.rewrites (inv : Dense db) (h : Rewrites db db') : Dense db' := by
  constructor
  · intro m' hm'
    obtain ⟨m, hm, amended⟩ := h.origin hm'
    rw [amended.conversationID, amended.height, h.height]
    exact inv.homed m hm
  · intro cid n counted k low high
    rw [h.height] at counted
    obtain ⟨m, hm, own, height⟩ := inv.filled cid n counted k low high
    obtain ⟨m', found, amended⟩ := h.found m.id m (Table.mem_find hm)
    exact ⟨m', Table.find_mem found, amended.conversationID.trans own, amended.height.trans height⟩
  · intro m' hm' n' hn' own height
    obtain ⟨m, hm, am⟩ := h.origin hm'
    obtain ⟨n, hn, an⟩ := h.origin hn'
    have same : m = n := inv.apart m hm n hn
      (am.conversationID.symm.trans (own.trans an.conversationID))
      (am.height.symm.trans (height.trans an.height))
    subst same
    exact db'.messages.row_unique hm' hn' (am.id.trans an.id.symm)
  · intro m' hm' n' hn' r first second
    obtain ⟨m, hm, am⟩ := h.origin hm'
    obtain ⟨n, hn, an⟩ := h.origin hn'
    have same : m = n := inv.keyed m hm n hn r (am.names.mp first) (an.names.mp second)
    subst same
    exact db'.messages.row_unique hm' hn' (am.id.trans an.id.symm)

theorem Dense.adds {c : ChatConversation} {row : ChatMessage} (inv : Dense db)
    (h : Adds db c row db') (own : row.conversationID = c.id) : Dense db' := by
  have member : ∀ m, m ∈ db'.messages.rows ↔ m ∈ db.messages.rows ∨ m = row := by
    intro m
    rw [h.rows, List.mem_append, List.mem_singleton]
  have unlike : ∀ m ∈ db.messages.rows, m.conversationID = row.conversationID →
      m.height ≠ row.height ∧ ∀ r : SendRequest, r.names m → ¬r.names row := by
    intro m hm same
    have free := h.free m hm
    simp only [ChatMessage.collides, same, decide_true, Bool.true_and, Bool.or_eq_false_iff,
      decide_eq_false_iff_not] at free
    refine ⟨free.1, ?_⟩
    rintro r ⟨-, sender, key⟩ ⟨-, sender', key'⟩
    simp [sender, key, sender', key'] at free
  constructor
  · intro m hm
    rw [h.heightOf]
    rcases (member m).mp hm with old | rfl
    · obtain ⟨n, counted, low, high⟩ := inv.homed m old
      split
      · rename_i here
        rw [here, h.locked] at counted
        cases counted
        exact ⟨_, rfl, low, Nat.le_succ_of_le high⟩
      · exact ⟨n, counted, low, high⟩
    · exact ⟨_, if_pos own, by rw [h.height]; omega, Nat.le_of_eq h.height⟩
  · intro cid n counted k low high
    rw [h.heightOf] at counted
    split at counted
    · rename_i here
      cases counted
      by_cases last : k = c.nextHeight + 1
      · exact ⟨row, (member row).mpr (Or.inr rfl), own.trans here.symm, h.height.trans last.symm⟩
      · obtain ⟨m, hm, conv, height⟩ := inv.filled c.id _ h.locked k low (by omega)
        exact ⟨m, (member m).mpr (Or.inl hm), conv.trans here.symm, height⟩
    · obtain ⟨m, hm, rest⟩ := inv.filled cid n counted k low high
      exact ⟨m, (member m).mpr (Or.inl hm), rest⟩
  · intro m hm n hn conv height
    rcases (member m).mp hm with oldM | rfl <;> rcases (member n).mp hn with oldN | rfl
    · exact inv.apart m oldM n oldN conv height
    · exact absurd height (unlike m oldM conv).1
    · exact absurd height.symm (unlike n oldN conv.symm).1
    · rfl
  · intro m hm n hn r first second
    have conv : m.conversationID = n.conversationID := first.1.trans second.1.symm
    rcases (member m).mp hm with oldM | rfl <;> rcases (member n).mp hn with oldN | rfl
    · exact inv.keyed m oldM n oldN r first second
    · exact absurd second ((unlike m oldM conv).2 r first)
    · exact absurd first ((unlike n oldN conv.symm).2 r second)
    · rfl

theorem Dense.opens (inv : Dense db) (h : Opens db db' cid) : Dense db' := by
  refine ⟨fun m hm => ?_, fun k n counted => ?_, ?_, ?_⟩
  · rw [h.messages] at hm
    obtain ⟨n, counted, low, high⟩ := inv.homed m hm
    refine ⟨n, ?_, low, high⟩
    rw [h.height, if_neg]
    · exact counted
    · intro here
      cases h.fresh.symm.trans (here ▸ counted)
  · rw [h.height] at counted
    rw [h.messages]
    split at counted
    · cases counted
      intro i low high
      omega
    · exact inv.filled k n counted
  · rw [h.messages]
    exact inv.apart
  · rw [h.messages]
    exact inv.keyed

theorem act_effect (h : a.run db = .ok db') : Effect db db' ∨ ∃ cid, Opens db db' cid := by
  cases a with
  | govern g => exact govern_effect h
  | op op =>
    left
    cases own : op.onMessages with
    | true => exact (perform_effect h own).1
    | false =>
      cases op with
      | seats =>
        cases h
        exact .rewrites (.of_eq rfl fun _ => rfl)
      | configure settings =>
        simp only [Act.run, perform] at h
        split at h
        · cases h
          exact .rewrites (.refl _)
        · rename_i c found
          cases h
          exact .rewrites (.of_eq rfl (updateConversation_height
            { settings with nextHeight := c.nextHeight, nextRevision := c.nextRevision } found rfl))
      | _ => cases own

theorem dense_step (h : ActStep db a db') (inv : Dense db) : Dense db' := by
  cases h with
  | rolledBack => exact inv
  | committed ok =>
    rcases act_effect ok with (rewrites | ⟨c, row, own, -, -, adds⟩) | ⟨cid, opens⟩
    · exact inv.rewrites rewrites
    · exact inv.adds adds own
    · exact inv.opens opens

theorem unwritten_dense (h : Unwritten db) : Dense db := by
  have none : ∀ m, m ∉ db.messages.rows := fun m hm => by
    rw [h.messages] at hm
    cases hm
  refine ⟨fun m hm => absurd hm (none m), fun cid n counted k low high => ?_,
    fun m hm => absurd hm (none m), fun m hm => absurd hm (none m)⟩
  obtain ⟨c, found, rfl⟩ := Option.map_eq_some_iff.mp counted
  have zero := h.counters c (Table.find_mem found)
  omega

theorem reachable_dense (h : Library.Reachable Unwritten ActStep db) : Dense db :=
  h.invariant (P := Dense) (fun _ => unwritten_dense) fun _ _ _ => dense_step

/-- Exactly the heights from one to the counter, each once. -/
theorem Dense.heights (inv : Dense db) {n : Nat} (counted : db.heightOf cid = some n) :
    ((db.messages.select fun m => m.conversationID = cid).map (·.height)).Perm (List.range' 1 n) := by
  have inside : ∀ m, m ∈ (db.messages.select fun m => m.conversationID = cid) ↔
      m ∈ db.messages.rows ∧ m.conversationID = cid := by
    intro m
    rw [Table.mem_select, decide_eq_true_eq]
  rw [List.perm_ext_iff_of_nodup]
  · intro k
    rw [List.mem_map, List.mem_range'_1]
    constructor
    · rintro ⟨m, selected, rfl⟩
      obtain ⟨hm, rfl⟩ := (inside m).mp selected
      obtain ⟨n', counted', low, high⟩ := inv.homed m hm
      cases counted.symm.trans counted'
      omega
    · rintro ⟨low, high⟩
      obtain ⟨m, hm, own, height⟩ := inv.filled cid n counted k low (by omega)
      exact ⟨m, (inside m).mpr ⟨hm, own⟩, height⟩
  · refine List.Nodup.map_on ?_ ((List.Nodup.of_map _ db.messages.unique).filter _)
    intro m selected m' selected' same
    obtain ⟨hm, own⟩ := (inside m).mp selected
    obtain ⟨hm', own'⟩ := (inside m').mp selected'
    exact inv.apart m hm m' hm' (own.trans own'.symm) same
  · exact List.nodup_range'

/-! ## Retries -/

theorem sentAs_some (h : db.sentAs r.conversationId r.senderUserId r.d = some m) :
    m ∈ db.messages.rows ∧ r.names m := by
  have own := List.find?_some h
  simp only [Bool.and_eq_true, decide_eq_true_eq] at own
  exact ⟨List.mem_of_find?_eq_some h, own.1.1, own.1.2, own.2⟩

/-- The key of a row finds it. -/
theorem Dense.sentAs (inv : Dense db) (hm : m ∈ db.messages.rows) (names : r.names m) :
    db.sentAs r.conversationId r.senderUserId r.d = some m := by
  cases found : db.sentAs r.conversationId r.senderUserId r.d with
  | none =>
    have none := List.find?_eq_none.mp found m hm
    obtain ⟨conv, sender, key⟩ := names
    simp [conv, sender, key] at none
  | some n =>
    obtain ⟨hn, names'⟩ := sentAs_some found
    rw [inv.keyed m hm n hn r names names']

/-- A call that succeeds answers with the row of its key. -/
theorem sendMessage_names {counterFirst : Bool} {s : SendResult}
    (h : db.sendMessage counterFirst r = .ok (s, db')) :
    s.row ∈ db'.messages.rows ∧ r.names s.row ∧ (s.reused = true → db' = db) := by
  obtain ⟨c, seat, found, -, ⟨row, sent, -, rfl, rfl⟩ | ⟨-, fresh, adds, -, n, made⟩⟩ :=
    sendMessage_ok h
  · obtain ⟨member, names⟩ := sentAs_some sent
    exact ⟨member, names, fun _ => rfl⟩
  · refine ⟨?_, ?_, fun reused => ?_⟩
    · rw [adds.rows]
      exact List.mem_append_right _ (List.mem_singleton.mpr rfl)
    · rw [made]
      exact ⟨rfl, rfl, rfl⟩
    · cases fresh.symm.trans reused

/-- A call under the key of a row answers with it or fails. -/
theorem Dense.retried (inv : Dense db) {counterFirst : Bool}
    (hm : m ∈ db.messages.rows) (names : r.names m) {s : SendResult}
    (h : db.sendMessage counterFirst r = .ok (s, db')) : s = ⟨m, true⟩ ∧ db' = db := by
  obtain ⟨c, seat, -, -, ⟨row, sent, -, rfl, rfl⟩ | ⟨none, -⟩⟩ := sendMessage_ok h
  · cases (inv.sentAs hm names).symm.trans sent
    exact ⟨rfl, rfl⟩
  · cases (inv.sentAs hm names).symm.trans none

theorem Dense.conflict (inv : Dense db) (hm : m ∈ db.messages.rows) (names : r.names m)
    (differs : m.sameSendRequest r.requestHash = false) :
    (∀ counterFirst c seat, db.conversations.find r.conversationId = some c →
      db.assertStillSendable c r.senderUserId r.roomActive r.now = .ok seat →
      db.sendMessage counterFirst r =
        .error (.refused "这个消息标识已经用于另一条内容" .deliveryIdConflict)) ∧
    (∀ counterFirst, ∃ fault, db.sendMessage counterFirst r = .error fault) ∧
    db.replayForward r =
      some (.error (.refused "这个消息标识已经用于另一条内容" .deliveryIdConflict)) := by
  have replayed : m.replayed r.requestHash =
      .error (.refused "这个消息标识已经用于另一条内容" .deliveryIdConflict) := by
    simp [ChatMessage.replayed, differs]
  have sent := inv.sentAs hm names
  have sendable : ∀ counterFirst c seat, db.conversations.find r.conversationId = some c →
      db.assertStillSendable c r.senderUserId r.roomActive r.now = .ok seat →
      db.sendMessage counterFirst r =
        .error (.refused "这个消息标识已经用于另一条内容" .deliveryIdConflict) := by
    intro counterFirst c seat found seated
    simp only [Db.sendMessage, found, seated, sent, replayed]
    rfl
  refine ⟨sendable, fun counterFirst => ?_, by simp [Db.replayForward, sent, replayed]⟩
  cases answer : db.sendMessage counterFirst r with
  | error fault => exact ⟨fault, rfl⟩
  | ok result =>
    obtain ⟨c, seat, found, seated, -⟩ := sendMessage_ok answer
    cases (sendable counterFirst c seat found seated).symm.trans answer

theorem act_kept (h : ActStep db a db') {id : MessageId} (found : db.messages.find id = some m) :
    ∃ m', db'.messages.find id = some m' ∧ Amended m m' := by
  cases h with
  | rolledBack => exact ⟨m, found, .refl m⟩
  | committed ok =>
    rcases act_effect ok with effect | ⟨cid, opens⟩
    · exact effect.kept found
    · exact ⟨m, by rw [opens.messages, found], .refl m⟩

theorem run_kept {acts : List Act} (h : Run ActStep db acts db') {id : MessageId}
    (found : db.messages.find id = some m) :
    ∃ m', db'.messages.find id = some m' ∧ Amended m m' := by
  induction h with
  | nil => exact ⟨m, found, .refl m⟩
  | snoc _ last ih =>
    obtain ⟨m₁, found₁, amended₁⟩ := ih
    obtain ⟨m₂, found₂, amended₂⟩ := act_kept last found₁
    exact ⟨m₂, found₂, amended₁.trans amended₂⟩

/-! ## Moderation -/

/-- The sender may not speak in the conversation at the time `now`. -/
def Db.barred (db : Db) (cid : ConversationId) (uid : UserId) (now : Time) : Bool :=
  match db.conversations.find cid, (db.members.find (cid, uid)).filter (·.leftAt.isNone) with
  | some c, some seat => (db.speechRefusal c seat now).isSome
  | _, _ => true

theorem barred_refused (h : db.barred r.conversationId r.senderUserId r.now = true)
    (counterFirst : Bool) : ∃ fault, db.sendMessage counterFirst r = .error fault := by
  cases answer : db.sendMessage counterFirst r with
  | error fault => exact ⟨fault, rfl⟩
  | ok result =>
    obtain ⟨c, seat, found, seated, -⟩ := sendMessage_ok answer
    have own : c.id = r.conversationId := Table.find_key found
    unfold Db.assertStillSendable at seated
    rw [own] at seated
    split at seated
    · cases seated
    · rename_i present
      split at seated
      · cases seated
      · rename_i allowed
        simp [Db.barred, found, present, allowed] at h

variable {uid a t : UserId} {notice : Notice}

theorem barred_of {now : Time}
    (h : ∀ c seat, db.conversations.find cid = some c → db.members.find (cid, uid) = some seat →
      seat.leftAt = none → (db.speechRefusal c seat now).isSome) : db.barred cid uid now = true := by
  unfold Db.barred
  split
  · rename_i c seat found present
    obtain ⟨seated, present⟩ := seat_of_filter present
    exact h c seat found seated present
  · rfl

/-- Only what judges a seat and its conversation counts for who may speak. -/
theorem speechRefusal_congr {c c' : ChatConversation} {seat seat' : ChatMember}
    (settled : Settled c c') (moved : SeatAdvanced seat seat')
    (user : seat'.userID = seat.userID) (circles : db'.circleMembers = db.circleMembers)
    (now : Time) : db'.speechRefusal c' seat' now = db.speechRefusal c seat now := by
  obtain ⟨type, mute, circle, owner⟩ := settled.judges
  simp only [Db.speechRefusal, Db.speechRole, isSeatSilenced, standaloneGroupRole, type, mute,
    circle, owner, circles, user, moved.silencedAt, moved.silencedUntil, moved.role, moved.leftAt]
  rfl

theorem Advances.barred (h : Advances db db') (cid : ConversationId) (uid : UserId)
    (now : Time) : db'.barred cid uid now = db.barred cid uid now := by
  unfold Db.barred
  cases found : db.conversations.find cid with
  | none => rw [h.absent cid found]
  | some c =>
    obtain ⟨c', found', settled⟩ := h.conversation cid c found
    rw [found']
    cases seated : db.members.find (cid, uid) with
    | none =>
      rw [h.seatless _ seated]
      rfl
    | some seat =>
      obtain ⟨seat', seated', moved⟩ := h.seat _ seat seated
      have user : seat'.userID = seat.userID :=
        (congrArg Prod.snd (Table.find_key seated')).trans
          (congrArg Prod.snd (Table.find_key seated)).symm
      have refusal := speechRefusal_congr settled moved user h.circleMembers now
      rw [seated']
      cases present : seat.leftAt.isNone <;>
        simp [Option.filter, moved.leftAt, present, refusal]

/-- An act that does not let the sender speak again. -/
def Act.leavesBarred (cid : ConversationId) (uid : UserId) (now : Time) (db : Db) : Act → Prop
  | .op o => o.onMessages = true ∨ (settle db (.op o)).barred cid uid now = true
  | .govern g => (settle db (.govern g)).barred cid uid now = true

theorem run_barred {acts : List Act} {now : Time}
    (h : Run (Run.Where ActStep (Act.leavesBarred cid uid now)) db acts db')
    (barred : db.barred cid uid now = true) : db'.barred cid uid now = true := by
  refine h.preserves (P := fun db => db.barred cid uid now = true) ?_ barred
  rintro db a db' ⟨step, leaves⟩ barred
  have settled := step_settled step
  cases a with
  | govern g => exact settled ▸ leaves
  | op o =>
    rcases leaves with own | leaves
    · cases step with
      | committed ok => exact ((perform_effect ok own).2.barred cid uid now).trans barred
      | rolledBack => exact barred
    · exact settled ▸ leaves

/-- The seat and the conversation after a change that was announced. -/
theorem Retouched.after {locked : ChatConversation} {seat seat' : ChatMember}
    (h : Retouched db a cid t locked seat seat' db') :
    db'.members.find (cid, t) = some seat' ∧ db'.circleMembers = db.circleMembers ∧
      ∃ c', db'.conversations.find cid = some c' ∧ c'.settings = locked.settings := by
  obtain ⟨notice, announced⟩ := h.written
  have own : locked.id = cid := Table.find_key h.found
  have found := h.found
  rw [← own] at found
  have beside := (announce_effect found announced (fun _ => rfl) rfl).2
  refine ⟨?_, beside.circleMembers, ?_⟩
  · rw [beside.members, Db.updateSeat, Table.find_put_own h.seated h.key, if_pos rfl]
  · have settings := beside.settings cid
    change _ = (db.conversations.find cid).map _ at settings
    rw [h.found] at settings
    exact Option.map_eq_some_iff.mp settings

theorem silenceMember_bars {durationSec : Option Nat}
    (h : db.silenceMember a cid t durationSec notice = .ok db') {now : Time}
    (lasts : ∀ sec, durationSec = some sec → now < notice.now + sec * 1000) :
    db'.barred cid t now = true := by
  obtain ⟨locked, seat, -, retouched⟩ := silenceMember_ok h
  obtain ⟨seated, -, c', found, settings⟩ := retouched.after
  refine barred_of fun c seat' found' seated' _ => ?_
  cases found.symm.trans found'
  cases seated.symm.trans seated'
  have group : c'.type = .group := (Settled.of_settings settings).judges.1.trans retouched.group
  have silenced : isSeatSilenced
      { seat with
        silencedAt := some notice.now
        silencedUntil := durationSec.map fun sec => notice.now + sec * 1000 } now = true := by
    cases durationSec with
    | none => rfl
    | some sec => simpa [isSeatSilenced] using lasts sec rfl
  simp [Db.speechRefusal, group, silenced]

theorem removeStandaloneMember_bars (h : db.removeStandaloneMember a cid t notice = .ok db')
    (now : Time) : db'.barred cid t now = true := by
  obtain ⟨locked, seat, -, -, retouched⟩ := removeStandaloneMember_ok h
  refine barred_of fun c seat' _ seated' present => ?_
  cases retouched.after.1.symm.trans seated'
  cases present

/-- Everybody but the managers. -/
theorem setMuteAll_bars (h : db.setMuteAll a cid true notice = .ok db') (now : Time)
    (member : ∀ c seat, db'.conversations.find cid = some c →
      db'.members.find (cid, uid) = some seat → isGroupManager (db'.speechRole c seat) = false) :
    db'.barred cid uid now = true := by
  obtain ⟨locked, found, group, outcome⟩ := setMuteAll_ok h
  have muted : ∃ c, db'.conversations.find cid = some c ∧ c.type = .group ∧
      c.muteAllAt.isSome = true := by
    rcases outcome with ⟨rfl, already⟩ | announced
    · exact ⟨locked, found, group, already⟩
    · have own : locked.id = cid := Table.find_key found
      rw [← own] at found
      have height := updateConversation_height
        { locked with muteAllAt := if true then some notice.now else none } found rfl
      have settings := (announce_effect found announced height rfl).2.settings locked.id
      have put := updateConversation_find
        { locked with muteAllAt := if true then some notice.now else none } found
      rw [put] at settings
      obtain ⟨c, now, same⟩ := Option.map_eq_some_iff.mp settings
      obtain ⟨type, mute, -⟩ := (Settled.of_settings same).judges
      exact ⟨c, own ▸ now, type.trans group, by rw [mute]; rfl⟩
  obtain ⟨c, found', group', muted⟩ := muted
  refine barred_of fun c' seat found'' seated _ => ?_
  cases found'.symm.trans found''
  have plain := member c seat found' seated
  simp only [Db.speechRefusal, group', ne_eq, not_true_eq_false, ↓reduceIte, plain]
  split
  · rfl
  · simp [Option.isNone_iff_eq_none, Option.isSome_iff_ne_none.mp muted]

/-! ## Exactly once -/

theorem exactly_once {db : Db} (h : Library.Reachable Unwritten ActStep db) :
    (∀ cid n, db.heightOf cid = some n →
      ((db.messages.select fun m => m.conversationID = cid).map (·.height)).Perm
        (List.range' 1 n)) ∧
    (∀ m ∈ db.messages.rows, ∀ n ∈ db.messages.rows, ∀ r : SendRequest,
      r.names m → r.names n → m = n) ∧
    (∀ counterFirst r s db', db.sendMessage counterFirst r = .ok (s, db') →
      (s.row ∈ db'.messages.rows ∧ r.names s.row ∧ (s.reused = true → db' = db)) ∧
      ∀ acts t, Run ActStep db' acts t → ∀ r' : SendRequest, r'.names s.row →
        (∀ counterFirst' s' t', t.sendMessage counterFirst' r' = .ok (s', t') →
          s'.row.id = s.row.id ∧ t' = t) ∧
        ∀ s', t.replayForward r' = some (.ok s') → s'.row.id = s.row.id) ∧
    (∀ m ∈ db.messages.rows, ∀ r : SendRequest, r.names m → ∀ hash, m.requestHash = some hash →
      hash ≠ r.requestHash →
      (∀ counterFirst c seat, db.conversations.find r.conversationId = some c →
        db.assertStillSendable c r.senderUserId r.roomActive r.now = .ok seat →
        db.sendMessage counterFirst r =
          .error (.refused "这个消息标识已经用于另一条内容" .deliveryIdConflict)) ∧
      (∀ counterFirst, ∃ fault, db.sendMessage counterFirst r = .error fault) ∧
      db.replayForward r =
        some (.error (.refused "这个消息标识已经用于另一条内容" .deliveryIdConflict))) ∧
    (∀ a cid t durationSec notice db', db.silenceMember a cid t durationSec notice = .ok db' →
      ∀ now, (∀ sec, durationSec = some sec → now < notice.now + sec * 1000) →
        db'.barred cid t now = true) ∧
    (∀ a cid t notice db', db.removeStandaloneMember a cid t notice = .ok db' →
      ∀ now, db'.barred cid t now = true) ∧
    (∀ a cid notice db', db.setMuteAll a cid true notice = .ok db' → ∀ uid now,
      (∀ c seat, db'.conversations.find cid = some c → db'.members.find (cid, uid) = some seat →
        isGroupManager (db'.speechRole c seat) = false) → db'.barred cid uid now = true) ∧
    ∀ r : SendRequest, db.barred r.conversationId r.senderUserId r.now = true → ∀ acts t,
      Run (Run.Where ActStep (Act.leavesBarred r.conversationId r.senderUserId r.now)) db acts t →
        ∀ counterFirst, ∃ fault, t.sendMessage counterFirst r = .error fault := by
  have inv := reachable_dense h
  refine ⟨fun cid n => inv.heights, inv.keyed, ?_, ?_, ?_, ?_, ?_, ?_⟩
  · intro counterFirst r s db' sent
    refine ⟨sendMessage_names sent, fun acts t run r' names => ?_⟩
    have member := (sendMessage_names sent).1
    have step : ActStep db (.op (.sendMessage counterFirst r)) db' :=
      .committed (by simp only [Act.run, perform, sent]; rfl)
    have inv' := reachable_dense ((h.run (.single step)).run run)
    obtain ⟨m, found, amended⟩ := run_kept run (Table.mem_find member)
    have names' := amended.names.mpr names
    constructor
    · intro counterFirst' s' t' again
      obtain ⟨rfl, same⟩ := inv'.retried (Table.find_mem found) names' again
      exact ⟨amended.id, same⟩
    · intro s' replay
      rw [Db.replayForward, inv'.sentAs (Table.find_mem found) names', Option.map_some,
        Option.some_inj] at replay
      unfold ChatMessage.replayed at replay
      split at replay
      · cases replay
        exact amended.id
      · cases replay
  · intro m hm r names hash stored differs
    apply inv.conflict hm names
    simpa [ChatMessage.sameSendRequest, stored] using differs
  · intro a cid t durationSec notice db' done now lasts
    exact silenceMember_bars done lasts
  · intro a cid t notice db' done now
    exact removeStandaloneMember_bars done now
  · intro a cid notice db' done uid now member
    exact setMuteAll_bars done now member
  · intro r barred acts t run counterFirst
    exact barred_refused (run_barred run barred) counterFirst

/-! ## A silenced retry -/

theorem reachable_settle (h : Library.Reachable Unwritten ActStep db) (a : Act) :
    Library.Reachable Unwritten ActStep (settle db a) :=
  h.run (.single (step_settle db a))

def unwritten : Db where
  conversations := .empty
  members := .empty
  circleMembers := .empty
  blocks := []
  messages := .empty
  reactions := .empty

theorem reachable_unwritten : Library.Reachable Unwritten ActStep unwritten :=
  ⟨unwritten, [], ⟨rfl, fun _ hc => absurd hc List.not_mem_nil⟩, .nil _⟩

/-- A group of three. -/
def founded : Db :=
  settle unwritten (.govern (.createGroupConversation 1 1 [2, 3] (fun _ => true) 0))

theorem reachable_founded : Library.Reachable Unwritten ActStep founded :=
  reachable_settle reachable_unwritten _

/-- What the second member sends under one key. -/
def requestOf (requestHash : JsString) (now : Time) : SendRequest where
  id := 1
  conversationId := 1
  senderUserId := 2
  type := .text
  content := []
  d := [100]
  requestHash := requestHash
  replyToID := none
  policySec := 0
  roomActive := true
  now := now

/-- It has sent a message and was silenced then. -/
def silenced : Db :=
  settle (settle founded (.op (.sendMessage false (requestOf [1] 5))))
    (.govern (.silenceMember 1 1 2 none ⟨2, [], 6⟩))

theorem reachable_silenced : Library.Reachable Unwritten ActStep silenced :=
  reachable_settle (reachable_settle reachable_founded _) _

/-- Who may not speak is told so before the key is looked at. -/
theorem silenced_before_conflict :
    Library.Reachable Unwritten ActStep silenced ∧
      (∃ m, silenced.messages.find 1 = some m ∧ (requestOf [2] 7).names m ∧
        m.requestHash = some [1]) ∧
      silenced.sendMessage false (requestOf [2] 7) ≠
        .error (.refused "这个消息标识已经用于另一条内容" .deliveryIdConflict) := by
  have refused : silenced.sendMessage false (requestOf [2] 7) =
      .error (.refused "你已被禁言" .memberSilenced) := by rfl
  refine ⟨reachable_silenced, ⟨_, rfl, ⟨rfl, rfl, rfl⟩, rfl⟩, ?_⟩
  rw [refused]
  simp

theorem exactly_once_silenced :
    ((silenced.messages.select fun m => m.conversationID = 1).map (·.height)).Perm
      (List.range' 1 2) ∧
    ∀ counterFirst, ∃ fault, silenced.sendMessage counterFirst (requestOf [1] 7) = .error fault := by
  have once := exactly_once reachable_silenced
  refine ⟨once.1 1 2 (by decide), ?_⟩
  exact once.2.2.2.2.2.2.2 (requestOf [1] 7) (by decide) [] silenced (.nil _)

/-! ## The past -/

/-- A run writes after the past: every message stays with what it was created with, and at a
height that was taken there is never another. -/
theorem past_stands {acts : List Act} (h : Library.Reachable Unwritten ActStep db)
    (run : Run ActStep db acts db') :
    (∀ m ∈ db.messages.rows, ∃ m' ∈ db'.messages.rows, Amended m m') ∧
      ∀ cid n, db.heightOf cid = some n → ∀ m' ∈ db'.messages.rows, m'.conversationID = cid →
        m'.height ≤ n → ∃ m ∈ db.messages.rows, Amended m m' := by
  have kept : ∀ m ∈ db.messages.rows, ∃ m' ∈ db'.messages.rows, Amended m m' := by
    intro m hm
    obtain ⟨m', found, amended⟩ := run_kept run (Table.mem_find hm)
    exact ⟨m', Table.find_mem found, amended⟩
  refine ⟨kept, fun cid n counted m' hm' own taken => ?_⟩
  have dense := reachable_dense (h.run run)
  obtain ⟨-, -, positive, -⟩ := dense.homed m' hm'
  obtain ⟨m, hm, conv, height⟩ := (reachable_dense h).filled cid n counted _ positive taken
  obtain ⟨m'', hm'', amended⟩ := kept m hm
  cases dense.apart m'' hm'' m' hm' (amended.conversationID.trans (conv.trans own.symm))
    (amended.height.trans height)
  exact ⟨m, hm, amended⟩

theorem past_stands_silenced : ∃ m' ∈ silenced.messages.rows, m'.height = 1 ∧
    ∃ m ∈ (settle founded (.op (.sendMessage false (requestOf [1] 5)))).messages.rows,
      Amended m m' := by
  have run : Run ActStep _ _ silenced := .single (step_settle _ _)
  have stand := (past_stands (reachable_settle reachable_founded _) run).2 1 1 (by decide)
  have there : silenced.messages.find 1 = some _ := rfl
  have kept := Table.find_mem there
  exact ⟨_, kept, rfl, stand _ kept rfl (by decide)⟩

end CircleBackend.Chat
