import CircleBackend.TempChat.Renamed

/-!
# What guests learn of the host

The keys of objects carry the id of their owner, and a message carries its keys to everybody.
Where the host sends none, guests are sent the same by the room of any other host.
-/

namespace CircleBackend.TempChat

open Library
open Chat (MessageId)

variable {υ : Type}

/-- Its keys are those of guests. -/
def Content.Hidden (content : Content (ObjectKey υ)) : Prop :=
  ∀ key ∈ content.keys, ∃ n, key.owner = .guest n

def Payload.content {ι κ : Type} : Payload ι κ → Content κ
  | .msg message => message.content
  | .edit broadcast => broadcast.content

structure Hidden (s : State υ) : Prop where
  messages : ∀ row ∈ s.messages, row.content.Hidden
  outgoing : ∀ payload ∈ s.outgoing, payload.content.Hidden
  delivered : ∀ sent ∈ s.delivered, sent.2.content.Hidden

theorem mem_keys {κ : Type} {content : Content κ} {key : κ} : key ∈ content.keys ↔
    content.key = some key ∨ content.thumbKey = some key ∨ content.url = some key ∨
      content.thumbUrl = some key := by
  simp [Content.keys]

theorem hidden_of_sub {a b : Content (ObjectKey υ)} (hidden : a.Hidden)
    (sub : ∀ key ∈ b.keys, key ∈ a.keys) : b.Hidden :=
  fun key member => hidden key (sub key member)

theorem hidden_empty : (Content.empty : Content (ObjectKey υ)).Hidden := by
  intro key member
  cases member

section

variable {f : υ → υ}

theorem key_fixed {key : ObjectKey υ} (owned : ∃ n, key.owner = .guest n) : key.map f = key := by
  obtain ⟨n, owned⟩ := owned
  obtain ⟨owner, file⟩ := key
  cases owned
  rfl

theorem content_fixed {content : Content (ObjectKey υ)} (hidden : content.Hidden) :
    content.map (ObjectKey.map f) = content := by
  have fixed : ∀ key : Option (ObjectKey υ), (∀ k, key = some k → k ∈ content.keys) →
      key.map (ObjectKey.map f) = key := by
    intro key member
    cases key with
    | none => rfl
    | some k => exact congrArg some (key_fixed (hidden k (member k rfl)))
  obtain ⟨text, quotedText, key, thumbKey, url, thumbUrl⟩ := content
  simp only [Content.map, Content.mk.injEq, true_and]
  refine ⟨fixed key ?_, fixed thumbKey ?_, fixed url ?_, fixed thumbUrl ?_⟩
  · exact fun k own => mem_keys.mpr (.inl own)
  · exact fun k own => mem_keys.mpr (.inr (.inl own))
  · exact fun k own => mem_keys.mpr (.inr (.inr (.inl own)))
  · exact fun k own => mem_keys.mpr (.inr (.inr (.inr own)))

theorem message_fixed {ι : Type} {message : ChatMessageDto ι (ObjectKey υ)}
    (hidden : message.content.Hidden) : message.map id (ObjectKey.map f) = message := by
  have content := content_fixed (f := f) hidden
  have sender : message.sender.map (ChatSenderInfo.map id) = message.sender := by
    cases message.sender <;> rfl
  have revokedBy : message.revokedBy.map id = message.revokedBy := by
    cases message.revokedBy <;> rfl
  have reactions : (message.reactions.map fun reactions =>
      reactions.map (ChatReactionSummary.map id)) = message.reactions := by
    have same : ∀ reaction : ChatReactionSummary ι, reaction.map id = reaction := by
      intro reaction
      simp [ChatReactionSummary.map]
    cases message.reactions with
    | none => rfl
    | some reactions =>
      rw [Option.map_some, List.map_congr_left fun reaction _ => same reaction, List.map_id']
  unfold ChatMessageDto.map
  rw [content, sender, revokedBy, reactions]

theorem payload_fixed {ι : Type} {payload : Payload ι (ObjectKey υ)}
    (hidden : payload.content.Hidden) : payload.map id (ObjectKey.map f) = payload := by
  cases payload with
  | msg message => exact congrArg Payload.msg (message_fixed hidden)
  | edit edit =>
    have content : edit.content.map (ObjectKey.map f) = edit.content := content_fixed hidden
    simp only [Payload.map, ChatEditBroadcast.map, content]

end

variable {s t : State υ} {act : Act υ}

theorem attachMediaUrls_keys {message : ChatMessageDto (UserId υ) (ObjectKey υ)} :
    ∀ key ∈ (State.attachMediaUrls message).content.keys, key ∈ message.content.keys := by
  intro key member
  rw [mem_keys] at member ⊢
  simp only [State.attachMediaUrls] at member
  rcases member with here | here | here | here
  · exact .inl here
  · exact .inr (.inl here)
  · split at here
    · exact .inl here
    · exact .inr (.inr (.inl here))
  · split at here
    · exact .inr (.inl here)
    · exact .inr (.inr (.inr here))

theorem attachReactions_content {message : ChatMessageDto (UserId υ) (ObjectKey υ)} :
    (s.attachReactions message).content = message.content := by
  unfold State.attachReactions
  dsimp only
  split <;> rfl

theorem Hidden.bump (hidden : Hidden s) : Hidden s.bump :=
  ⟨hidden.messages, hidden.outgoing, hidden.delivered⟩

theorem Hidden.announce {payload : Payload (UserId υ) (ObjectKey υ)} (hidden : Hidden s)
    (own : payload.content.Hidden) : Hidden (s.announce payload) where
  messages := hidden.messages
  outgoing other member := by
    rcases List.mem_append.mp member with before | last
    · exact hidden.outgoing other before
    · rw [List.mem_singleton.mp last]
      exact own
  delivered := hidden.delivered

theorem Hidden.setRow {g : ChatMessage υ → ChatMessage υ} (hidden : Hidden s) (id : MessageId)
    (own : ∀ row ∈ s.messages, (g row).content.Hidden) : Hidden (s.setRow id g) where
  messages row member := by
    obtain ⟨before, there, rfl⟩ := List.mem_map.mp member
    split
    · exact own before there
    · exact hidden.messages before there
  outgoing := hidden.outgoing
  delivered := hidden.delivered

theorem copied_hidden {content : Content (ObjectKey υ)} {n file thumbFile : Nat} :
    (State.copied (.guest n) content file thumbFile).Hidden := by
  intro key member
  rw [mem_keys] at member
  simp only [State.copied, Option.map_eq_some_iff] at member
  rcases member with ⟨_, -, own⟩ | ⟨_, -, own⟩ | other | other
  · exact ⟨n, by rw [← own]⟩
  · exact ⟨n, by rw [← own]⟩
  · cases other
  · cases other

/-- A room in which nothing has been said. -/
structure Start (s : State υ) : Prop where
  messages : s.messages = []
  outgoing : s.outgoing = []
  delivered : s.delivered = []

theorem Start.hidden (start : Start s) : Hidden s where
  messages row member := by
    rw [start.messages] at member
    cases member
  outgoing payload member := by
    rw [start.outgoing] at member
    cases member
  delivered sent member := by
    rw [start.delivered] at member
    cases member

section

variable [DecidableEq υ]

/-! ## What is shown -/

theorem attachReplyTo_keys {floor : Nat} {message : ChatMessageDto (UserId υ) (ObjectKey υ)} :
    (s.attachReplyTo floor message).content.keys = message.content.keys := by
  unfold State.attachReplyTo
  split
  · rfl
  · dsimp only
    split <;> rfl

theorem presentSentMessage_hidden {row : ChatMessage υ} (hidden : row.content.Hidden) :
    (s.presentSentMessage row).content.Hidden := by
  apply hidden_of_sub hidden
  intro key member
  have shown := attachMediaUrls_keys key member
  rw [attachReplyTo_keys] at shown
  exact shown

theorem history_hidden (hidden : Hidden s) {n : Nat} {query : State.HistoryQuery}
    {messages : List (ChatMessageDto GuestSeen (ObjectKey υ))}
    (found : s.getGuestHistory n query = some messages) :
    ∀ message ∈ messages, message.content.Hidden := by
  simp only [State.getGuestHistory, State.getHistory, Option.map_map, Option.map_eq_some_iff] at found
  obtain ⟨seat, -, found⟩ := found
  intro message member
  rw [← found] at member
  simp only [Function.comp_apply, List.map_map, List.mem_map] at member
  obtain ⟨row, there, rfl⟩ := member
  have stored : row ∈ s.messages := by
    unfold State.historyRows at there
    dsimp only at there
    split at there
    · have sorted := List.mem_of_mem_take there
      rw [List.mem_insertionSort] at sorted
      exact List.mem_of_mem_filter sorted
    · have sorted := List.mem_of_mem_take (List.mem_reverse.mp there)
      rw [List.mem_insertionSort] at sorted
      exact List.mem_of_mem_filter sorted
  apply hidden_of_sub (hidden.messages row stored)
  intro key shown
  have shown := attachMediaUrls_keys key shown
  rw [attachReactions_content, attachReplyTo_keys] at shown
  exact shown

/-! ## Changes -/

theorem Hidden.append {row : ChatMessage υ} (hidden : Hidden s) (own : row.content.Hidden) :
    Hidden (s.append row) := by
  have pushed : Hidden (s.push row).bump := by
    refine ⟨fun other member => ?_, hidden.outgoing, hidden.delivered⟩
    rcases List.mem_append.mp member with before | last
    · exact hidden.messages other before
    · rw [List.mem_singleton.mp last]
      exact own
  have shown : ((s.push row).bump.presentSentMessage row).content.Hidden :=
    presentSentMessage_hidden own
  exact pushed.announce shown

theorem Hidden.send {u : UserId υ} {type : MessageType} {content : Content (ObjectKey υ)}
    {d : JsString} {replyToId : Option MessageId} (hidden : Hidden s) (own : content.Hidden)
    (step : s.sendMessage u type content d replyToId = some t) : Hidden t := by
  unfold State.sendMessage at step
  split at step
  · cases step
    exact hidden
  · cases step
    exact hidden.append own

/-- What may be sent is without keys or with keys of one's own. -/
theorem acceptable_hidden {n : Nat} {u : UserId υ} {type : MessageType} {content : Content (ObjectKey υ)}
    (accepted : State.acceptable u type content = true)
    (plain : u = .guest n ∨ content.key = none ∧ content.thumbKey = none) : content.Hidden := by
  simp only [State.acceptable, Bool.and_eq_true, Option.isNone_iff_eq_none] at accepted
  obtain ⟨⟨⟨⟨⟨-, -⟩, url⟩, thumbUrl⟩, key⟩, thumbKey⟩ := accepted
  intro k member
  rw [mem_keys, url, thumbUrl] at member
  rcases plain with guest | ⟨noKey, noThumb⟩
  · rcases member with here | here | here | here
    · rw [here] at key
      exact ⟨n, (of_decide_eq_true key).trans guest⟩
    · rw [here] at thumbKey
      exact ⟨n, (of_decide_eq_true thumbKey).trans guest⟩
    · cases here
    · cases here
  · rw [noKey, noThumb] at member
    rcases member with here | here | here | here <;> cases here

theorem Hidden.step (hidden : Hidden s) (keyless : act.keyless = true) (step : Step s act t) :
    Hidden t := by
  unfold Step at step
  cases act with
  | wait ms =>
    cases step
    exact ⟨hidden.messages, hidden.outgoing, hidden.delivered⟩
  | join guest displayName =>
    simp only [State.next] at step
    split at step
    · cases step
    · cases step
      exact ⟨hidden.messages, hidden.outgoing, hidden.delivered⟩
  | leave u | clear u height =>
    cases step
    exact ⟨hidden.messages, hidden.outgoing, hidden.delivered⟩
  | send u type content d replyToId =>
    simp only [State.next] at step
    obtain ⟨seat, -, step⟩ := Option.bind_eq_some_iff.mp step
    split at step
    case isFalse => cases step
    case isTrue accepted =>
      refine hidden.send ?_ step
      cases u with
      | account uuid =>
        simp only [Act.keyless, Bool.and_eq_true, Option.isNone_iff_eq_none] at keyless
        exact acceptable_hidden (n := 0) accepted (.inr keyless)
      | guest n => exact acceptable_hidden accepted (.inl rfl)
  | forward u source d file thumbFile =>
    simp only [State.next] at step
    obtain ⟨seat, -, step⟩ := Option.bind_eq_some_iff.mp step
    obtain ⟨row, -, step⟩ := Option.bind_eq_some_iff.mp step
    cases u with
    | account uuid => cases keyless
    | guest n =>
      simp only [State.forwardMessage] at step
      split at step
      · exact hidden.send copied_hidden step
      · cases step
  | edit u messageId text =>
    simp only [State.next] at step
    obtain ⟨seat, -, step⟩ := Option.bind_eq_some_iff.mp step
    obtain ⟨row, found, step⟩ := Option.bind_eq_some_iff.mp step
    have own : row.content.Hidden := hidden.messages row (List.mem_of_find?_eq_some found)
    simp only [State.editMessage] at step
    split at step
    · cases step
      have edited : (row.edited text s.now (s.nextRevision + 1)).content.Hidden := own
      have rows := (hidden.setRow row.id fun _ _ => edited).bump
      exact rows.announce (presentSentMessage_hidden edited)
    · cases step
  | revoke u messageId =>
    simp only [State.next] at step
    obtain ⟨seat, -, step⟩ := Option.bind_eq_some_iff.mp step
    obtain ⟨row, -, step⟩ := Option.bind_eq_some_iff.mp step
    simp only [State.revokeMessage] at step
    split at step
    · cases step
      exact (hidden.setRow _ fun _ _ => hidden_empty).bump
    · cases step
  | react u messageId emoji add =>
    simp only [State.next] at step
    obtain ⟨seat, -, step⟩ := Option.bind_eq_some_iff.mp step
    obtain ⟨row, -, step⟩ := Option.bind_eq_some_iff.mp step
    simp only [State.toggleReaction] at step
    split at step
    · cases step
      exact hidden
    · cases step
      have rows := hidden.setRow row.id
        (g := fun row => { row with revision := s.nextRevision + 1 }) hidden.messages
      exact ⟨rows.messages, rows.outgoing, rows.delivered⟩
  | emit =>
    simp only [State.next, State.emitContentToAuthorizedUsers] at step
    split at step
    · cases step
    · rename_i payload outgoing waiting
      cases step
      have first := hidden.outgoing payload (by rw [waiting]; exact List.mem_cons_self)
      refine ⟨hidden.messages, fun other member => ?_, fun sent member => ?_⟩
      · exact hidden.outgoing other (by rw [waiting]; exact List.mem_cons_of_mem _ member)
      · rcases List.mem_append.mp member with before | now
        · exact hidden.delivered sent before
        · obtain ⟨n, -, rfl⟩ := List.mem_map.mp now
          cases payload with
          | msg message => exact first
          | edit edit => exact first

/-! ## Two hosts -/

/-- Where the host sends no objects, the room of another host, with the same steps, sends its
guests the same and answers them the same. -/
theorem guests_learn_nothing {s₀ : State υ} {acts : List (Act υ)} {f : υ → υ}
    (injective : Function.Injective f) (start : Start s₀)
    (run : Run (Run.Where Step fun _ act => act.keyless = true) s₀ acts s) :
    Run Step (s₀.map f) (acts.map (Act.map f)) (s.map f) ∧ (s.map f).delivered = s.delivered ∧
      ∀ n, (∀ query, (s.map f).getGuestHistory n query = s.getGuestHistory n query) ∧
        (s.map f).listGuestMembers n = s.listGuestMembers n := by
  have hidden : Hidden s := by
    apply run.preserves _ start.hidden
    intro s act t step hidden
    exact hidden.step step.2 step.1
  refine ⟨run_map injective (run.mono fun _ _ _ step => step.1), ?_, fun n => ⟨fun query => ?_, ?_⟩⟩
  · have same : ∀ sent ∈ s.delivered,
        (sent.1, sent.2.map id (ObjectKey.map f)) = sent := by
      intro sent member
      rw [payload_fixed (hidden.delivered sent member)]
    exact (List.map_congr_left same).trans (List.map_id' _)
  · rw [getGuestHistory_map injective]
    cases found : s.getGuestHistory n query with
    | none => rfl
    | some messages =>
      have same : ∀ message ∈ messages, message.map id (ObjectKey.map f) = message := by
        intro message member
        exact message_fixed (history_hidden hidden found message member)
      rw [Option.map_some, List.map_congr_left same, List.map_id']
  · exact listGuestMembers_map injective n

/-- Host 1 in a room without guests. -/
def newRoom : State Nat where
  now := 0
  hostUserId := 1
  hostNickname := [104]
  guests := []
  seats := [⟨.account 1, none, none, 0⟩]
  messages := []
  reactions := []
  nextHeight := 0
  nextRevision := 0
  outgoing := []
  delivered := []

theorem newRoom_start : Start newRoom := ⟨rfl, rfl, rfl⟩

/-- A guest sends an image, which the host answers, a reaction and a revocation. -/
def talk : List (Act Nat) :=
  [.join 5 [103], .send (.guest 5) .image ⟨none, none, some ⟨.guest 5, 0⟩, none, none, none⟩ [1] none,
    .send (.account 1) .quote ⟨some [97], some [], none, none, none, none⟩ [2] (some 1), .emit, .emit,
    .react (.account 1) 1 [98] true, .edit (.account 1) 2 [99], .emit, .revoke (.account 1) 2]

theorem guests_learn_nothing_talk : ∃ s, Run Step newRoom talk s ∧
    (s.map (· + 1)).getGuestHistory 5 ⟨none, none, 50⟩ = s.getGuestHistory 5 ⟨none, none, 50⟩ ∧
      s.delivered.length = 3 := by
  have played : talk.foldlM (Run.whenever (fun _ act => act.keyless) State.next) newRoom = some _ :=
    rfl
  have run := Run.where_of_foldlM played
  have same := guests_learn_nothing (f := (· + 1)) (fun _ _ => Nat.succ.inj) newRoom_start run
  exact ⟨_, run.mono fun _ _ _ step => step.1, (same.2.2 5).1 _, by decide⟩

/-- The host sends an image. -/
def pictured : List (Act Nat) :=
  [.join 5 [103], .send (.account 1) .image ⟨none, none, some ⟨.account 1, 0⟩, none, none, none⟩ [1]
    none, .emit]

theorem guests_learn_host : Start newRoom ∧ ∃ s, Run Step newRoom pictured s ∧
    Run Step (newRoom.map (· + 1)) (pictured.map (Act.map (· + 1))) (s.map (· + 1)) ∧
      (s.map (· + 1)).delivered ≠ s.delivered ∧
        (s.map (· + 1)).getGuestHistory 5 ⟨none, none, 50⟩ ≠
          s.getGuestHistory 5 ⟨none, none, 50⟩ := by
  have played : pictured.foldlM State.next newRoom = some _ := rfl
  have run := Run.of_foldlM played
  exact ⟨newRoom_start, _, run, run_map (fun _ _ => Nat.succ.inj) run, by decide, by decide⟩

end

end CircleBackend.TempChat
