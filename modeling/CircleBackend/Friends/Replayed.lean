import CircleBackend.Friends.Replay
import CircleBackend.Library.Plan

/-!
# What a replay has told

The lines of a replay are told under keys that the conversation takes once. A worker may
be any number of steps behind, but never ahead of what the conversation has, so that the
conversation holds a beginning of the replay at any time and all of it at the end
(`replayed_once`).
-/

namespace CircleBackend.Friends.Replay

open Library
open Session (UserId)
open Chat (jsString)

section Told

variable (blocked : JsString → Bool)

/-! ## The plan of a replay -/

def ReplayJob.opening (job : ReplayJob) (dropped : Bool) (thread : List FriendRequestMessage) :
    List ClientMessageId :=
  if thread.isEmpty then if dropped then [] else [.greeting job.requestId]
  else (thread.filter fun message => !blocked message.content).map fun message =>
    .thread job.requestId message.id

def ReplayJob.plan (job : ReplayJob) (dropped : Bool) (thread : List FriendRequestMessage) :
    List ClientMessageId :=
  job.opening blocked dropped thread ++ [.accepted job.requestId]

/-- How many lines the first messages of a thread come to. -/
def told (thread : List FriendRequestMessage) (index : Nat) : Nat :=
  (thread.take index).countP fun message => !blocked message.content

/-- How many lines a row says that the conversation has. -/
def ReplayJob.reached (job : ReplayJob) (dropped : Bool) (thread : List FriendRequestMessage) : Nat :=
  if job.status = .completed then (job.plan blocked dropped thread).length
  else if 3 ≤ job.stage then (job.opening blocked dropped thread).length
  else told blocked thread job.messageIndex

/-- How many lines a worker goes by. -/
def Worker.reached (w : Worker) (dropped : Bool) (thread : List FriendRequestMessage) : Nat :=
  match w.stage with
  | .claiming | .first | .second | .reading => w.job.reached blocked dropped thread
  | .message _ index => told blocked thread index
  | .persisting _ index => told blocked thread (index + 1)
  | .closing | .accepting => (w.job.opening blocked dropped thread).length
  | .completing => (w.job.plan blocked dropped thread).length
  | .greeting _ | .failing | .ended => 0

/-! ## The lines about a request -/

def State.lines (s : State) (r : RequestId) : List ChatMessage :=
  s.chat.filter (·.clientMessageId.about r)

def State.keys (s : State) (r : RequestId) : List ClientMessageId :=
  (s.lines r).map (·.clientMessageId)

def State.greets (s : State) (job : ReplayJob) (text : JsString) : Prop :=
  s.thread job.requestId = [] ∧ blocked text = false ∧ ∃ name,
    text = greetingOf ((s.requests.find job.requestId).bind (·.message)) name

/-- A line says what its key stands for. -/
def State.words (s : State) (job : ReplayJob) (line : ChatMessage) : Prop :=
  match line.clientMessageId with
  | .thread _ _ => ∃ message ∈ s.thread job.requestId,
    blocked message.content = false ∧ line = job.line message
  | .greeting _ => ∃ text, s.greets blocked job text ∧ line = job.greetingLine text
  | .accepted _ => line = job.acceptedLine
  | .other _ => False

/-- All workers that judged the greeting of a request found the same. -/
def State.judged (s : State) (r : RequestId) (dropped : Bool) : Prop :=
  ∀ found, (r, found) ∈ s.verdicts → found = dropped

def ReplayJob.same (a b : ReplayJob) : Prop :=
  a.requestId = b.requestId ∧ a.requesterUserID = b.requesterUserID ∧
    a.accepterUserID = b.accepterUserID

/-- What a worker has read is so. -/
def Worker.knows (w : Worker) (s : State) : Prop :=
  match w.stage with
  | .message thread _ | .persisting thread _ => thread = s.thread w.job.requestId ∧ thread ≠ []
  | .greeting text => s.greets blocked w.job text ∧ (w.job.requestId, false) ∈ s.verdicts
  | .completing => w.job.acceptedLine ∈ s.lines w.job.requestId
  | _ => True

structure Sound (s : State) : Prop where
  accepted : ∀ r job, s.outbox.find r = some job → ∃ request, s.requests.find r = some request ∧
    request.state = .accepted ∧ job.requesterUserID = request.userID ∧
      job.accepterUserID = request.friendID
  unborn : ∀ r, s.outbox.find r = none → s.lines r = [] ∧ (∀ found, (r, found) ∉ s.verdicts) ∧
    ∀ id w, s.workers.find id = some w → w.job.requestId ≠ r
  snapshot : ∀ id w job, s.workers.find id = some w →
    s.outbox.find w.job.requestId = some job → w.job.same job
  words : ∀ r job, s.outbox.find r = some job → ∀ line ∈ s.lines r, s.words blocked job line
  single : ∀ r, (s.keys r).Nodup
  knows : ∀ id w, s.workers.find id = some w → w.knows blocked s
  empty : ∀ r found, (r, found) ∈ s.verdicts → s.thread r = []
  answered : ∀ r job, s.outbox.find r = some job → job.status = .completed →
    job.acceptedLine ∈ s.lines r
  plan : ∀ r job dropped, s.outbox.find r = some job → s.judged r dropped →
    s.keys r <+: job.plan blocked dropped (s.thread r)
  row : ∀ r job dropped, s.outbox.find r = some job → s.judged r dropped →
    job.reached blocked dropped (s.thread r) ≤ (s.keys r).length
  worker : ∀ id w dropped, s.workers.find id = some w → s.judged w.job.requestId dropped →
    w.reached blocked dropped (s.thread w.job.requestId) ≤ (s.keys w.job.requestId).length

variable {blocked} {s t : State} {job job' : ReplayJob} {w : Worker} {r : RequestId}
  {dropped : Bool} {thread : List FriendRequestMessage}

theorem opening_same (same : job.same job') :
    job.opening blocked dropped thread = job'.opening blocked dropped thread := by
  unfold ReplayJob.opening
  rw [same.1]

theorem plan_same (same : job.same job') :
    job.plan blocked dropped thread = job'.plan blocked dropped thread := by
  unfold ReplayJob.plan
  rw [opening_same same, same.1]

theorem told_le (index : Nat) (fit : thread ≠ [] ∨ index = 0) :
    told blocked thread index ≤ (job.opening blocked dropped thread).length := by
  unfold told ReplayJob.opening
  cases thread with
  | nil => simp
  | cons message rest =>
    rw [List.isEmpty_cons, if_neg Bool.false_ne_true, List.length_map]
    exact countP_take_le

theorem told_le_reached (job : ReplayJob) :
    told blocked thread job.messageIndex ≤ job.reached blocked dropped thread := by
  have opening : told blocked thread job.messageIndex ≤
      (job.opening blocked dropped thread).length := by
    cases thread with
    | nil => simp [told]
    | cons => exact told_le _ (.inl (List.cons_ne_nil _ _))
  unfold ReplayJob.reached
  split
  · exact Nat.le_trans opening (by simp [ReplayJob.plan])
  · split
    · exact opening
    · exact Nat.le_refl _

theorem opening_le_reached (late : 3 ≤ job.stage) :
    (job.opening blocked dropped thread).length ≤ job.reached blocked dropped thread := by
  unfold ReplayJob.reached
  rw [if_pos late]
  split
  · simp [ReplayJob.plan]
  · exact Nat.le_refl _

theorem plan_nodup : (job.plan blocked dropped (s.thread r)).Nodup := by
  have distinct : ((s.thread r).map (·.id)).Nodup := by
    refine ((List.perm_insertionSort _ _).map _).nodup_iff.mpr ?_
    exact (s.messages.unique).sublist (List.filter_sublist.map _)
  unfold ReplayJob.plan
  refine List.nodup_append.mpr ⟨?_, by simp, ?_⟩
  · unfold ReplayJob.opening
    split
    · split
      · exact List.nodup_nil
      · exact List.nodup_singleton _
    · have chosen : (((s.thread r).filter fun message => !blocked message.content).map
          (·.id)).Nodup := distinct.sublist (List.filter_sublist.map _)
      have injective : Function.Injective (ClientMessageId.thread job.requestId) := by
        intro a b same
        cases same
        rfl
      have keys := chosen.map injective
      rw [List.map_map] at keys
      exact keys
  · intro key inside last there
    rw [List.mem_singleton] at there
    subst there
    rintro rfl
    unfold ReplayJob.opening at inside
    split at inside
    · split at inside
      · cases inside
      · simp at inside
    · simp at inside

/-! ## A line is told -/

def State.tells (s : State) (line : ChatMessage) : State :=
  { s with chat := insertServerMessage s.chat line }

variable {line : ChatMessage} {message : FriendRequestMessage} {request : Request} {index : Nat}

theorem mem_lines : line ∈ s.lines r ↔ line ∈ s.chat ∧ line.clientMessageId.about r = true :=
  List.mem_filter

theorem about_unique {key : ClientMessageId} {r' : RequestId} (first : key.about r = true)
    (second : key.about r' = true) : r = r' := by
  cases key with
  | other => cases first
  | thread | greeting | accepted =>
    simp only [ClientMessageId.about, decide_eq_true_eq] at first second
    exact first.symm.trans second

theorem words_about (words : s.words blocked job line) :
    line.clientMessageId.about job.requestId = true := by
  unfold State.words at words
  split at words
  case h_1 =>
    obtain ⟨message, -, -, rfl⟩ := words
    simp [ReplayJob.line, ClientMessageId.about]
  case h_2 =>
    obtain ⟨text, -, rfl⟩ := words
    simp [ReplayJob.greetingLine, ClientMessageId.about]
  case h_3 =>
    cases words
    simp [ReplayJob.acceptedLine, ClientMessageId.about]
  case h_4 => exact words.elim

theorem words_line (inside : message ∈ s.thread job.requestId)
    (allowed : blocked message.content = false) : s.words blocked job (job.line message) :=
  ⟨message, inside, allowed, rfl⟩

theorem words_greeting {text : JsString} (greets : s.greets blocked job text) :
    s.words blocked job (job.greetingLine text) :=
  ⟨text, greets, rfl⟩

theorem words_accepted : s.words blocked job job.acceptedLine := rfl

theorem mem_thread : message ∈ s.thread r ↔ message ∈ s.messages.rows ∧ message.requestId = r := by
  unfold State.thread
  rw [List.mem_insertionSort, List.mem_filter, decide_eq_true_eq]

/-- Two lines with one key are one line, but for the text of a greeting. -/
theorem words_same {a b : ChatMessage} (first : s.words blocked job a)
    (second : s.words blocked job b) (key : a.clientMessageId = b.clientMessageId) :
    a.conversation = b.conversation ∧ a.senderID = b.senderID ∧
      (a.clientMessageId ≠ .greeting job.requestId → a = b) := by
  unfold State.words at first second
  rw [key] at first
  split at first
  case h_1 said =>
    rw [said] at second
    obtain ⟨m, inside, -, rfl⟩ := first
    obtain ⟨n, inside', -, rfl⟩ := second
    have one : m.id = n.id := by
      simp only [ReplayJob.line, ClientMessageId.thread.injEq] at key
      exact key.2
    obtain rfl := s.messages.row_unique (mem_thread.mp inside).1 (mem_thread.mp inside').1 one
    exact ⟨rfl, rfl, fun _ => rfl⟩
  case h_2 said =>
    rw [said] at second
    obtain ⟨text, -, rfl⟩ := first
    obtain ⟨text', -, rfl⟩ := second
    exact ⟨rfl, rfl, fun not => absurd rfl not⟩
  case h_3 said =>
    rw [said] at second
    cases first
    cases second
    exact ⟨rfl, rfl, fun _ => rfl⟩
  case h_4 => exact first.elim

theorem lines_tells (about : line.clientMessageId.about r = true) :
    (s.tells line).lines r = s.lines r ∧ (∃ other ∈ s.chat,
        other.conversation = line.conversation ∧ other.senderID = line.senderID ∧
          other.clientMessageId = line.clientMessageId) ∨
      (s.tells line).lines r = s.lines r ++ [line] ∧ ¬ ∃ other ∈ s.chat,
        other.conversation = line.conversation ∧ other.senderID = line.senderID ∧
          other.clientMessageId = line.clientMessageId := by
  unfold State.tells State.lines insertServerMessage
  dsimp only
  split
  case isTrue dup =>
    refine .inl ⟨rfl, ?_⟩
    simpa [List.any_eq_true, and_assoc] using dup
  case isFalse dup =>
    refine .inr ⟨?_, ?_⟩
    · rw [List.filter_append]
      simp [about]
    · simpa [List.any_eq_true, and_assoc] using dup

theorem lines_tells_apart (about : line.clientMessageId.about r = false) :
    (s.tells line).lines r = s.lines r := by
  unfold State.tells State.lines insertServerMessage
  dsimp only
  split
  · rfl
  · rw [List.filter_append]
    simp [about]

section Line

variable {line : ChatMessage} (sound : Sound blocked s) (found : s.outbox.find r = some job)
  (words : s.words blocked job line)

include found words

theorem mem_lines_tells {other : ChatMessage} (inside : other ∈ (s.tells line).lines r) :
    other ∈ s.lines r ∨ other = line := by
  have about := words_about words
  rw [(Table.find_key found : job.requestId = r)] at about
  rcases lines_tells (s := s) about with ⟨lines, -⟩ | ⟨lines, -⟩
  · exact .inl (lines ▸ inside)
  · rw [lines] at inside
    simpa using inside

include sound

theorem keys_tells : (s.tells line).keys r = Library.tell (s.keys r) line.clientMessageId := by
  have own : job.requestId = r := Table.find_key found
  have about := words_about words
  rw [own] at about
  unfold State.keys Library.tell
  rcases lines_tells (s := s) about with ⟨lines, other, inside, -, -, key⟩ | ⟨lines, fresh⟩
  · have there : line.clientMessageId ∈ (s.lines r).map (·.clientMessageId) :=
      List.mem_map.mpr ⟨other, mem_lines.mpr ⟨inside, key ▸ about⟩, key⟩
    rw [lines, if_pos there]
  · have absent : line.clientMessageId ∉ (s.lines r).map (·.clientMessageId) := by
      intro there
      obtain ⟨other, inside, key⟩ := List.mem_map.mp there
      obtain ⟨conversation, sender, -⟩ :=
        words_same (sound.words r job found other inside) words key
      exact fresh ⟨other, (mem_lines.mp inside).1, conversation, sender, key⟩
    rw [lines, if_neg absent, List.map_append, List.map_singleton]

theorem told_line (plain : line.clientMessageId ≠ .greeting job.requestId) :
    line ∈ (s.tells line).lines r := by
  have about := words_about words
  rw [(Table.find_key found : job.requestId = r)] at about
  rcases lines_tells (s := s) about with ⟨lines, other, inside, -, -, key⟩ | ⟨lines, -⟩
  · have there : other ∈ s.lines r := mem_lines.mpr ⟨inside, key ▸ about⟩
    have one := (words_same (sound.words r job found other there) words key).2.2
    rw [lines, ← one (key ▸ plain)]
    exact there
  · simp [lines]

end Line

/-! ## What a statement keeps -/

theorem same_symm (same : job.same job') : job'.same job :=
  ⟨same.1.symm, same.2.1.symm, same.2.2.symm⟩

theorem same_trans {job'' : ReplayJob} (first : job.same job') (second : job'.same job'') :
    job.same job'' :=
  ⟨first.1.trans second.1, first.2.1.trans second.2.1, first.2.2.trans second.2.2⟩

theorem line_same (same : job.same job') : job.line = job'.line := by
  funext message
  simp [ReplayJob.line, ReplayJob.conversation, same.1, same.2.1, same.2.2]

theorem greetingLine_same (same : job.same job') : job.greetingLine = job'.greetingLine := by
  funext text
  simp [ReplayJob.greetingLine, ReplayJob.conversation, same.1, same.2.1, same.2.2]

theorem acceptedLine_same (same : job.same job') : job.acceptedLine = job'.acceptedLine := by
  simp [ReplayJob.acceptedLine, ReplayJob.conversation, same.1, same.2.1, same.2.2]

theorem words_of_same (same : job.same job')
    (words : s.words blocked job line) : s.words blocked job' line := by
  unfold State.words State.greets at words ⊢
  rw [line_same same, greetingLine_same same, acceptedLine_same same, same.1] at words
  exact words

theorem sound_goto {stage : Stage} (sound : Sound blocked s)
    (calling : s.workers.find w.id = some w) (knows : ({ w with stage := stage } : Worker).knows blocked s)
    (bound : ∀ dropped, s.judged w.job.requestId dropped →
      ({ w with stage := stage } : Worker).reached blocked dropped (s.thread w.job.requestId) ≤
        (s.keys w.job.requestId).length) : Sound blocked (s.goto w stage) := by
  have at' (id : WorkerId) (w' : Worker) (after : (s.goto w stage).workers.find id = some w') :
      w' = { w with stage := stage } ∨ s.workers.find id = some w' := by
    have there : s.workers.find ({ w with stage := stage } : Worker).id = some w := calling
    dsimp only [State.goto] at after
    rw [Table.find_put_of_find there] at after
    split at after
    · exact .inl (Option.some.inj after).symm
    · exact .inr after
  constructor
  case accepted => exact sound.accepted
  case unborn =>
    intro r free
    obtain ⟨lines, verdicts, workers⟩ := sound.unborn r free
    refine ⟨lines, verdicts, fun id w' after => ?_⟩
    rcases at' id w' after with rfl | old
    · exact workers w.id w calling
    · exact workers id w' old
  case snapshot =>
    intro id w' job after found
    rcases at' id w' after with rfl | old
    · exact sound.snapshot w.id w job calling found
    · exact sound.snapshot id w' job old found
  case words => exact sound.words
  case single => exact sound.single
  case knows =>
    intro id w' after
    rcases at' id w' after with rfl | old
    · exact knows
    · exact sound.knows id w' old
  case empty => exact sound.empty
  case answered => exact sound.answered
  case plan => exact sound.plan
  case row => exact sound.row
  case worker =>
    intro id w' dropped after judged
    rcases at' id w' after with rfl | old
    · exact bound dropped judged
    · exact sound.worker id w' dropped old judged

theorem sound_row (sound : Sound blocked s) (found : s.outbox.find r = some job)
    (same : job'.same job) (done : job'.status = .completed → job.acceptedLine ∈ s.lines r)
    (bound : ∀ dropped, s.judged r dropped →
      job'.reached blocked dropped (s.thread r) ≤ (s.keys r).length) :
    Sound blocked { s with outbox := s.outbox.put job' } := by
  have at' (r' : RequestId) (job'' : ReplayJob) (after : (s.outbox.put job').find r' = some job'') :
      r' = r ∧ job'' = job' ∨ s.outbox.find r' = some job'' := by
    rw [Table.find_put_own found same.1] at after
    split at after
    case isTrue here => exact .inl ⟨here, (Option.some.inj after).symm⟩
    case isFalse => exact .inr after
  constructor
  case accepted =>
    intro r' job'' after
    rcases at' r' job'' after with ⟨rfl, rfl⟩ | old
    · obtain ⟨request, row, state, first, second⟩ := sound.accepted r' job found
      exact ⟨request, row, state, same.2.1.trans first, same.2.2.trans second⟩
    · exact sound.accepted r' job'' old
  case unborn =>
    intro r' free
    refine sound.unborn r' ?_
    dsimp only at free
    rw [Table.find_put_own found same.1] at free
    split at free
    · cases free
    · exact free
  case snapshot =>
    intro id w job'' calling after
    rcases at' _ job'' after with ⟨here, rfl⟩ | old
    · exact same_trans (sound.snapshot id w job calling (here ▸ found)) (same_symm same)
    · exact sound.snapshot id w job'' calling old
  case words =>
    intro r' job'' after line inside
    rcases at' r' job'' after with ⟨rfl, rfl⟩ | old
    · exact words_of_same (same_symm same) (sound.words r' job found line inside)
    · exact sound.words r' job'' old line inside
  case single => exact sound.single
  case knows => exact sound.knows
  case empty => exact sound.empty
  case answered =>
    intro r' job'' after completed
    rcases at' r' job'' after with ⟨rfl, rfl⟩ | old
    · rw [acceptedLine_same same]
      exact done completed
    · exact sound.answered r' job'' old completed
  case plan =>
    intro r' job'' dropped after judged
    rcases at' r' job'' after with ⟨rfl, rfl⟩ | old
    · rw [plan_same same]
      exact sound.plan r' job dropped found judged
    · exact sound.plan r' job'' dropped old judged
  case row =>
    intro r' job'' dropped after judged
    rcases at' r' job'' after with ⟨rfl, rfl⟩ | old
    · exact bound dropped judged
    · exact sound.row r' job'' dropped old judged
  case worker => exact sound.worker

/-- A line may be told by whoever is not ahead. -/
theorem sound_tells (sound : Sound blocked s)
    (found : s.outbox.find r = some job) (words : s.words blocked job line)
    (next : ∀ dropped, s.judged r dropped → ∃ i ≤ (s.keys r).length,
      (job.plan blocked dropped (s.thread r))[i]? = some line.clientMessageId) :
    Sound blocked (s.tells line) := by
  have own : job.requestId = r := Table.find_key found
  have keys := keys_tells sound found words
  have apart (r' : RequestId) (other : r' ≠ r) : (s.tells line).lines r' = s.lines r' := by
    refine lines_tells_apart (Bool.eq_false_iff.mpr fun about => other ?_)
    exact (about_unique about (own ▸ words_about words)).trans rfl
  have keys_apart (r' : RequestId) (other : r' ≠ r) : (s.tells line).keys r' = s.keys r' := by
    unfold State.keys
    rw [apart r' other]
  have grows (r' : RequestId) : (s.keys r').length ≤ ((s.tells line).keys r').length := by
    by_cases here : r' = r
    · subst here
      rw [keys]
      exact prefix_tell.length_le
    · rw [keys_apart r' here]
  have kept (r' : RequestId) (old : ChatMessage) (inside : old ∈ s.lines r') :
      old ∈ (s.tells line).lines r' := by
    obtain ⟨there, about⟩ := mem_lines.mp inside
    refine mem_lines.mpr ⟨?_, about⟩
    unfold State.tells insertServerMessage
    dsimp only
    split
    · exact there
    · exact List.mem_append_left _ there
  constructor
  case accepted => exact sound.accepted
  case unborn =>
    intro r' free
    have other : r' ≠ r := by
      rintro rfl
      cases free.symm.trans found
    obtain ⟨lines, rest⟩ := sound.unborn r' free
    exact ⟨(apart r' other).trans lines, rest⟩
  case snapshot => exact sound.snapshot
  case words =>
    intro r' job' found' other inside
    by_cases here : r' = r
    · subst here
      cases found.symm.trans found'
      rcases mem_lines_tells found words inside with old | rfl
      · exact sound.words r' job found other old
      · exact words
    · exact sound.words r' job' found' other (apart r' here ▸ inside)
  case single =>
    intro r'
    by_cases here : r' = r
    · subst here
      rw [keys]
      exact nodup_tell (sound.single r')
    · rw [keys_apart r' here]
      exact sound.single r'
  case knows =>
    intro id w calling
    have knows := sound.knows id w calling
    unfold Worker.knows at knows ⊢
    split at knows
    case h_4 => exact kept _ _ knows
    all_goals exact knows
  case empty => exact sound.empty
  case answered =>
    intro r' job' found' completed
    exact kept _ _ (sound.answered r' job' found' completed)
  case plan =>
    intro r' job' dropped found' judged
    by_cases here : r' = r
    · subst here
      cases found.symm.trans found'
      obtain ⟨i, behind, there⟩ := next dropped judged
      rw [keys]
      exact (tell_next plan_nodup (sound.plan r' job dropped found judged) behind there).1
    · rw [keys_apart r' here]
      exact sound.plan r' job' dropped found' judged
  case row =>
    intro r' job' dropped found' judged
    exact Nat.le_trans (sound.row r' job' dropped found' judged) (grows r')
  case worker =>
    intro id w dropped calling judged
    exact Nat.le_trans (sound.worker id w dropped calling judged) (grows _)

theorem sound_judge (found' : Bool) (sound : Sound blocked s) (found : s.outbox.find r = some job)
    (empty : s.thread r = []) : Sound blocked { s with verdicts := (r, found') :: s.verdicts } := by
  have earlier (r' : RequestId) (dropped : Bool)
      (judged : State.judged { s with verdicts := (r, found') :: s.verdicts } r' dropped) :
      s.judged r' dropped :=
    fun found'' inside => judged found'' (List.mem_cons_of_mem _ inside)
  constructor
  case accepted => exact sound.accepted
  case unborn =>
    intro r' free
    obtain ⟨lines, verdicts, workers⟩ := sound.unborn r' free
    refine ⟨lines, fun found'' inside => ?_, workers⟩
    rcases List.mem_cons.mp inside with here | old
    · cases here
      cases free.symm.trans found
    · exact verdicts found'' old
  case snapshot => exact sound.snapshot
  case words => exact sound.words
  case single => exact sound.single
  case knows =>
    intro id w calling
    have knows := sound.knows id w calling
    unfold Worker.knows at knows ⊢
    split at knows
    case h_3 => exact ⟨knows.1, List.mem_cons_of_mem _ knows.2⟩
    all_goals exact knows
  case empty =>
    intro r' found'' inside
    rcases List.mem_cons.mp inside with here | old
    · cases here
      exact empty
    · exact sound.empty r' found'' old
  case answered => exact sound.answered
  case plan =>
    intro r' job' dropped there judged
    exact sound.plan r' job' dropped there (earlier r' dropped judged)
  case row =>
    intro r' job' dropped there judged
    exact sound.row r' job' dropped there (earlier r' dropped judged)
  case worker =>
    intro id w dropped there judged
    exact sound.worker id w dropped there (earlier _ dropped judged)

/-- What a job is about does not change under it. -/
structure Frame (s t : State) : Prop where
  requests : ∀ r job, s.outbox.find r = some job → t.requests.find r = s.requests.find r
  threads : ∀ r job, s.outbox.find r = some job → t.thread r = s.thread r
  lines : ∀ r, t.lines r = s.lines r
  outbox : t.outbox = s.outbox
  workers : t.workers = s.workers
  verdicts : t.verdicts = s.verdicts

theorem sound_frame (sound : Sound blocked s) (frame : Frame s t) : Sound blocked t := by
  have keys (r : RequestId) : t.keys r = s.keys r := congrArg _ (frame.lines r)
  have job_of (id : WorkerId) (w : Worker) (calling : s.workers.find id = some w) :
      ∃ job, s.outbox.find w.job.requestId = some job := by
    cases found : s.outbox.find w.job.requestId with
    | some job => exact ⟨job, rfl⟩
    | none => exact absurd rfl ((sound.unborn _ found).2.2 id w calling)
  have judged (r : RequestId) (dropped : Bool) (h : t.judged r dropped) : s.judged r dropped :=
    fun found inside => h found (frame.verdicts ▸ inside)
  have greets (job job' : ReplayJob) (text : JsString) (found : s.outbox.find job'.requestId = some job)
      (greets : s.greets blocked job' text) : t.greets blocked job' text := by
    unfold State.greets at greets ⊢
    rw [frame.threads _ job found, frame.requests _ job found]
    exact greets
  constructor
  case accepted =>
    intro r job found
    rw [frame.outbox] at found
    rw [frame.requests r job found]
    exact sound.accepted r job found
  case unborn =>
    intro r free
    rw [frame.outbox] at free
    rw [frame.lines, frame.verdicts, frame.workers]
    exact sound.unborn r free
  case snapshot =>
    rw [frame.workers, frame.outbox]
    exact sound.snapshot
  case words =>
    intro r job found line inside
    rw [frame.outbox] at found
    rw [frame.lines] at inside
    have words := sound.words r job found line inside
    have own : s.outbox.find job.requestId = some job := Table.mem_find (Table.find_mem found)
    unfold State.words at words ⊢
    split at words
    case h_1 =>
      rw [frame.threads _ job own]
      exact words
    case h_2 =>
      obtain ⟨text, first, line⟩ := words
      exact ⟨text, greets job job text own first, line⟩
    all_goals exact words
  case single =>
    intro r
    rw [keys]
    exact sound.single r
  case knows =>
    intro id w calling
    rw [frame.workers] at calling
    obtain ⟨job, found⟩ := job_of id w calling
    have knows := sound.knows id w calling
    unfold Worker.knows at knows ⊢
    split at knows
    case h_3 => exact ⟨greets job w.job _ found knows.1, frame.verdicts ▸ knows.2⟩
    case h_4 =>
      rw [frame.lines]
      exact knows
    case h_5 => trivial
    all_goals
      rw [frame.threads _ job found]
      exact knows
  case empty =>
    intro r found inside
    rw [frame.verdicts] at inside
    cases there : s.outbox.find r with
    | none => exact absurd inside ((sound.unborn r there).2.1 found)
    | some job =>
      rw [frame.threads r job there]
      exact sound.empty r found inside
  case answered =>
    intro r job found completed
    rw [frame.outbox] at found
    rw [frame.lines]
    exact sound.answered r job found completed
  case plan =>
    intro r job dropped found h
    rw [frame.outbox] at found
    rw [keys, frame.threads r job found]
    exact sound.plan r job dropped found (judged r dropped h)
  case row =>
    intro r job dropped found h
    rw [frame.outbox] at found
    rw [keys, frame.threads r job found]
    exact sound.row r job dropped found (judged r dropped h)
  case worker =>
    intro id w dropped calling h
    rw [frame.workers] at calling
    obtain ⟨job, found⟩ := job_of id w calling
    rw [keys, frame.threads _ job found]
    exact sound.worker id w dropped calling (judged _ dropped h)

theorem sound_look {workers : Table Worker WorkerId (·.id)} {id : WorkerId} (sound : Sound blocked s)
    (found : s.outbox.find r = some job)
    (looked : s.workers.insert ⟨id, job, .claiming⟩ = some workers) :
    Sound blocked { s with workers := workers } := by
  have own : job.requestId = r := Table.find_key found
  have at' (id' : WorkerId) (w : Worker) (after : workers.find id' = some w) :
      w = ⟨id, job, .claiming⟩ ∨ s.workers.find id' = some w := by
    rw [Table.find_insert looked] at after
    split at after
    · exact .inl (Option.some.inj after).symm
    · exact .inr after
  constructor
  case accepted => exact sound.accepted
  case unborn =>
    intro r' free
    obtain ⟨lines, verdicts, workers⟩ := sound.unborn r' free
    refine ⟨lines, verdicts, fun id' w after here => ?_⟩
    rcases at' id' w after with rfl | old
    · obtain rfl : r = r' := own.symm.trans here
      cases free.symm.trans found
    · exact workers id' w old here
  case snapshot =>
    intro id' w job' after found'
    rcases at' id' w after with rfl | old
    · cases (own ▸ found' : s.outbox.find r = some job').symm.trans found
      exact ⟨rfl, rfl, rfl⟩
    · exact sound.snapshot id' w job' old found'
  case words => exact sound.words
  case single => exact sound.single
  case knows =>
    intro id' w after
    rcases at' id' w after with rfl | old
    · trivial
    · exact sound.knows id' w old
  case empty => exact sound.empty
  case answered => exact sound.answered
  case plan => exact sound.plan
  case row => exact sound.row
  case worker =>
    intro id' w dropped after judged
    rcases at' id' w after with rfl | old
    · subst own
      exact sound.row _ job dropped found judged
    · exact sound.worker id' w dropped old judged

theorem sound_job (sound : Sound blocked s) (fresh : s.outbox.find job.requestId = none)
    (row : s.requests.find job.requestId = some request) (state : request.state = .accepted)
    (requester : job.requesterUserID = request.userID)
    (accepter : job.accepterUserID = request.friendID) (pending : job.status = .pending)
    (stage : job.stage = 0) (index : job.messageIndex = 0) :
    Sound blocked { s with outbox := s.outbox.set job } := by
  have at' (r : RequestId) (job' : ReplayJob) (after : (s.outbox.set job).find r = some job') :
      r = job.requestId ∧ job' = job ∨ s.outbox.find r = some job' := by
    rw [Table.find_set] at after
    split at after
    case isTrue here => exact .inl ⟨here.symm, (Option.some.inj after).symm⟩
    case isFalse => exact .inr after
  have none_of (r : RequestId) (free : (s.outbox.set job).find r = none) :
      s.outbox.find r = none := by
    rw [Table.find_set] at free
    split at free
    · cases free
    · exact free
  obtain ⟨lines, verdicts, workers⟩ := sound.unborn _ fresh
  have keys : s.keys job.requestId = [] := by
    unfold State.keys
    rw [lines, List.map_nil]
  constructor
  case accepted =>
    intro r job' after
    rcases at' r job' after with ⟨rfl, rfl⟩ | old
    · exact ⟨request, row, state, requester, accepter⟩
    · exact sound.accepted r job' old
  case unborn => exact fun r free => sound.unborn r (none_of r free)
  case snapshot =>
    intro id w job' calling after
    rcases at' _ job' after with ⟨here, -⟩ | old
    · exact absurd here (workers id w calling)
    · exact sound.snapshot id w job' calling old
  case words =>
    intro r job' after line inside
    rcases at' r job' after with ⟨rfl, rfl⟩ | old
    · have inside : line ∈ s.lines job'.requestId := inside
      rw [lines] at inside
      cases inside
    · exact sound.words r job' old line inside
  case single => exact sound.single
  case knows => exact sound.knows
  case empty => exact sound.empty
  case answered =>
    intro r job' after completed
    rcases at' r job' after with ⟨rfl, rfl⟩ | old
    · cases pending.symm.trans completed
    · exact sound.answered r job' old completed
  case plan =>
    intro r job' dropped after judged
    rcases at' r job' after with ⟨rfl, rfl⟩ | old
    · have none' : State.keys { s with outbox := s.outbox.set job' } job'.requestId = [] := keys
      rw [none']
      exact List.nil_prefix
    · exact sound.plan r job' dropped old judged
  case row =>
    intro r job' dropped after judged
    rcases at' r job' after with ⟨rfl, rfl⟩ | old
    · simp [ReplayJob.reached, pending, stage, index, told]
    · exact sound.row r job' dropped old judged
  case worker => exact sound.worker

/-! ## A statement of a worker -/

theorem tells_reach {i : Nat} (sound : Sound blocked s)
    (found : s.outbox.find r = some job) (words : s.words blocked job line)
    (judged : s.judged r dropped) (behind : i ≤ (s.keys r).length)
    (there : (job.plan blocked dropped (s.thread r))[i]? = some line.clientMessageId) :
    i + 1 ≤ ((s.tells line).keys r).length := by
  rw [keys_tells sound found words]
  exact (tell_next plan_nodup (sound.plan r job dropped found judged) behind there).2

/-- A row that is not completed says no more than before. -/
theorem reached_le (open' : job'.status ≠ .completed) (stage : job'.stage = job.stage)
    (index : job'.messageIndex = job.messageIndex) (same : job'.same job) :
    job'.reached blocked dropped thread ≤ job.reached blocked dropped thread := by
  have plain : job'.reached blocked dropped thread =
      if 3 ≤ job.stage then (job.opening blocked dropped thread).length
      else told blocked thread job.messageIndex := by
    unfold ReplayJob.reached
    rw [if_neg open', stage, index, opening_same same]
  rw [plain]
  split
  case isTrue late => exact opening_le_reached late
  case isFalse early => exact told_le_reached job

theorem sound_opened (sound : Sound blocked s) (found : s.outbox.find r = some job)
    (open' : job'.status ≠ .completed) (stage : job'.stage = job.stage)
    (index : job'.messageIndex = job.messageIndex) (same : job'.same job) :
    Sound blocked { s with outbox := s.outbox.put job' } :=
  sound_row sound found same (fun completed => absurd completed open') fun dropped judged =>
    Nat.le_trans (reached_le open' stage index same) (sound.row r job dropped found judged)

theorem job_of (sound : Sound blocked s) (calling : s.workers.find w.id = some w) :
    ∃ job, s.outbox.find w.job.requestId = some job ∧ w.job.same job := by
  cases found : s.outbox.find w.job.requestId with
  | none => exact absurd rfl ((sound.unborn _ found).2.2 w.id w calling)
  | some job => exact ⟨job, rfl, sound.snapshot w.id w job calling found⟩

theorem held_some (held : s.held w = some job) :
    s.outbox.find w.job.requestId = some job ∧ job.status = .processing := by
  obtain ⟨found, own⟩ := Option.filter_eq_some_iff.mp held
  exact ⟨found, of_decide_eq_true (Bool.and_eq_true _ _ ▸ own).2⟩

theorem sound_leaves {stage : Stage} (sound : Sound blocked s)
    (calling : s.workers.find w.id = some w) (leaves : stage = .failing ∨ stage = .ended) :
    Sound blocked (s.goto w stage) := by
  rcases leaves with rfl | rfl
  all_goals exact sound_goto sound calling trivial fun _ _ => Nat.zero_le _

theorem sound_persist {stage : Nat} {messageIndex : Option Nat} {next : Stage}
    (sound : Sound blocked s) (calling : s.workers.find w.id = some w)
    (knows : ({ w with stage := next } : Worker).knows blocked s)
    (bound : ∀ dropped, s.judged w.job.requestId dropped →
      ({ w with stage := next } : Worker).reached blocked dropped (s.thread w.job.requestId) ≤
        (s.keys w.job.requestId).length)
    (row : ∀ job dropped, s.outbox.find w.job.requestId = some job →
      s.judged w.job.requestId dropped →
      (if 3 ≤ stage then (w.job.opening blocked dropped (s.thread w.job.requestId)).length
        else told blocked (s.thread w.job.requestId) (messageIndex.getD job.messageIndex)) ≤
          (s.keys w.job.requestId).length) :
    Sound blocked (s.persist w stage messageIndex next) := by
  unfold State.persist
  cases held : s.held w with
  | none => exact sound_leaves sound calling (.inl rfl)
  | some job =>
    obtain ⟨found, processing⟩ := held_some held
    have same := sound.snapshot w.id w job calling found
    refine sound_goto (s := { s with outbox := s.outbox.put _ }) ?_ calling knows bound
    refine sound_row sound found ⟨rfl, rfl, rfl⟩ ?_ fun dropped judged => ?_
    · intro completed
      cases processing.symm.trans completed
    · have open' : job.status ≠ .completed := by
        rw [processing]
        exact JobStatus.noConfusion
      unfold ReplayJob.reached
      rw [if_neg open']
      have row := row job dropped found judged
      rw [opening_same same] at row
      exact row

variable (blocked) in
theorem told_next (there : thread[index]? = some message) : told blocked thread (index + 1) =
      told blocked thread index + if blocked message.content then 0 else 1 := by
  unfold told
  rw [countP_next there]
  cases blocked message.content <;> rfl

theorem told_all (some' : thread ≠ []) (ended : thread[index]? = none) :
    (job.opening blocked dropped thread).length = told blocked thread index := by
  unfold told ReplayJob.opening
  cases thread with
  | nil => exact absurd rfl some'
  | cons message rest =>
    rw [List.isEmpty_cons, if_neg Bool.false_ne_true, List.length_map,
      List.take_of_length_le (List.getElem?_eq_none_iff.mp ended), List.countP_eq_length_filter]

theorem plan_at
    (there : thread[index]? = some message) (allowed : blocked message.content = false) :
    (job.plan blocked dropped thread)[told blocked thread index]? =
      some (.thread job.requestId message.id) := by
  have next : (thread.filter fun message => !blocked message.content)[told blocked thread index]? =
      some message := filter_next there (by rw [allowed, Bool.not_false])
  have some' : thread.isEmpty = false := by
    cases thread with
    | nil => cases there
    | cons => rfl
  have inside : told blocked thread index <
      (thread.filter fun message => !blocked message.content).length :=
    (List.getElem?_eq_some_iff.mp next).1
  unfold ReplayJob.plan ReplayJob.opening
  rw [some', if_neg Bool.false_ne_true, List.getElem?_append_left (by simpa using inside),
    List.getElem?_map]
  rw [next]
  rfl

theorem sound_work (sound : Sound blocked s) (calling : s.workers.find w.id = some w)
    (did : s.work blocked w = some t) : Sound blocked t := by
  obtain ⟨job, found, same⟩ := job_of sound calling
  have own : job.requestId = w.job.requestId := same.1.symm
  have knows := sound.knows w.id w calling
  have bound (dropped : Bool) := sound.worker w.id w dropped calling
  unfold State.work at did
  unfold Worker.knows at knows
  unfold Worker.reached at bound
  cases stage : w.stage with
  | claiming =>
    rw [stage] at did bound
    cases did
    split
    case h_1 row claimed =>
      obtain ⟨found', -⟩ := Option.filter_eq_some_iff.mp claimed
      cases found.symm.trans found'
      have begins : ∀ dropped, ({ w with stage := begun w.job } : Worker).reached blocked dropped
          (s.thread w.job.requestId) = w.job.reached blocked dropped (s.thread w.job.requestId) := by
        intro dropped
        unfold begun
        split
        · rfl
        · split <;> rfl
      have plain : ({ w with stage := begun w.job } : Worker).knows blocked s := by
        unfold begun
        split
        · trivial
        · split <;> trivial
      refine sound_goto (s := { s with outbox := s.outbox.put _ }) ?_ calling plain ?_
      · exact sound_opened sound found (by intro h; cases h) rfl rfl ⟨rfl, rfl, rfl⟩
      · exact fun dropped judged => (begins dropped).trans_le (bound dropped judged)
    case h_2 => exact sound_leaves sound calling (.inr rfl)
  | first =>
    rw [stage] at did bound
    cases did
    refine sound_persist sound calling trivial bound fun job' dropped found' judged => ?_
    exact Nat.le_trans (told_le_reached job') (sound.row _ job' dropped found' judged)
  | second =>
    rw [stage] at did bound
    cases did
    refine sound_persist sound calling trivial bound fun job' dropped found' judged => ?_
    exact Nat.le_trans (told_le_reached job') (sound.row _ job' dropped found' judged)
  | reading =>
    rw [stage] at did bound
    dsimp only at did
    split at did
    case isTrue early =>
      split at did
      case isTrue none' =>
        have empty : s.thread w.job.requestId = [] := List.isEmpty_iff.mp none'
        cases did
        have judging := sound_judge (blocked (greetingOf ((s.requests.find w.job.requestId).bind
          (·.message)) (s.names w.job.requesterUserID))) sound found empty
        split
        case isTrue drops =>
          rw [drops] at judging ⊢
          refine sound_goto judging calling trivial fun dropped judged => ?_
          obtain rfl := judged true List.mem_cons_self
          have none' : (w.job.opening blocked true (s.thread w.job.requestId)).length = 0 := by
            simp [ReplayJob.opening, empty]
          exact none'.trans_le (Nat.zero_le _)
        case isFalse keeps =>
          have allowed := Bool.eq_false_iff.mpr keeps
          rw [allowed] at judging ⊢
          refine sound_goto judging calling ⟨⟨empty, allowed, _, rfl⟩, List.mem_cons_self⟩ ?_
          exact fun _ _ => Nat.zero_le _
      case isFalse some' =>
        cases did
        refine sound_goto sound calling ⟨rfl, fun empty => some' (List.isEmpty_iff.mpr empty)⟩ ?_
        exact fun dropped judged => Nat.le_trans (told_le_reached w.job) (bound dropped judged)
    case isFalse late =>
      cases did
      refine sound_goto sound calling trivial fun dropped judged => ?_
      exact Nat.le_trans (opening_le_reached (Nat.not_le.mp late)) (bound dropped judged)
  | message thread index =>
    rw [stage] at did bound knows
    obtain ⟨read, some'⟩ := knows
    subst read
    cases did
    split
    case h_1 message there =>
      have next := told_next blocked there
      dsimp only
      split
      case isTrue drops =>
        refine sound_goto sound calling ⟨rfl, some'⟩ fun dropped judged => ?_
        rw [drops, if_pos rfl] at next
        exact next.trans_le (bound dropped judged)
      case isFalse keeps =>
        have allowed : blocked message.content = false := Bool.eq_false_iff.mpr keeps
        rw [allowed] at next
        have inside : message ∈ s.thread job.requestId := own ▸ List.mem_of_getElem? there
        have words : s.words blocked job (w.job.line message) := by
          rw [line_same same]
          exact words_line inside allowed
        have at' (dropped : Bool) : (job.plan blocked dropped (s.thread w.job.requestId))[
            told blocked (s.thread w.job.requestId) index]? =
              some (w.job.line message).clientMessageId := by
          rw [line_same same]
          exact plan_at there allowed
        refine sound_goto (s := s.tells (w.job.line message)) ?_ calling ⟨rfl, some'⟩
          fun dropped judged => ?_
        · exact sound_tells sound found words fun dropped judged =>
            ⟨_, bound dropped judged, at' dropped⟩
        · exact next.trans_le
            (tells_reach sound found words judged (bound dropped judged) (at' dropped))
    case h_2 ended =>
      refine sound_goto sound calling trivial fun dropped judged => ?_
      exact (told_all some' ended).trans_le (bound dropped judged)
  | persisting thread index =>
    rw [stage] at did bound knows
    cases did
    exact sound_persist sound calling knows bound fun job' dropped found' judged =>
      bound dropped judged
  | greeting text =>
    rw [stage] at did knows
    obtain ⟨greets, found'⟩ := knows
    have empty := greets.1
    cases did
    have words : s.words blocked job (w.job.greetingLine text) :=
      words_of_same same (words_greeting greets)
    have first (dropped : Bool) (judged : s.judged w.job.requestId dropped) :
        (job.plan blocked dropped (s.thread w.job.requestId))[0]? =
          some (w.job.greetingLine text).clientMessageId := by
      obtain rfl := judged false found'
      simp [ReplayJob.plan, ReplayJob.opening, empty, ReplayJob.greetingLine, own]
    refine sound_goto (s := s.tells (w.job.greetingLine text)) ?_ calling trivial
      fun dropped judged => ?_
    · exact sound_tells sound found words fun dropped judged =>
        ⟨0, Nat.zero_le _, first dropped judged⟩
    · have reach := tells_reach sound found words judged (Nat.zero_le _) (first dropped judged)
      obtain rfl := judged false found'
      have whole : (w.job.opening blocked false (s.thread w.job.requestId)).length = 0 + 1 := by
        simp [ReplayJob.opening, empty]
      exact whole.trans_le reach
  | closing =>
    rw [stage] at did bound
    cases did
    exact sound_persist sound calling trivial bound fun job' dropped found' judged =>
      bound dropped judged
  | accepting =>
    rw [stage] at did bound
    cases did
    have words : s.words blocked job w.job.acceptedLine := by
      rw [acceptedLine_same same]
      exact words_accepted
    have last (dropped : Bool) : (job.plan blocked dropped (s.thread w.job.requestId))[
        (w.job.opening blocked dropped (s.thread w.job.requestId)).length]? =
          some w.job.acceptedLine.clientMessageId := by
      rw [acceptedLine_same same, opening_same same]
      simp [ReplayJob.plan, ReplayJob.acceptedLine]
    refine sound_goto (s := s.tells w.job.acceptedLine) ?_ calling ?_ fun dropped judged => ?_
    · exact sound_tells sound found words fun dropped judged =>
        ⟨_, bound dropped judged, last dropped⟩
    · exact told_line sound found words (by simp [ReplayJob.acceptedLine])
    · have reach := tells_reach sound found words judged (bound dropped judged) (last dropped)
      have whole : (w.job.plan blocked dropped (s.thread w.job.requestId)).length =
          (w.job.opening blocked dropped (s.thread w.job.requestId)).length + 1 := by
        simp [ReplayJob.plan]
      exact whole.trans_le reach
  | completing =>
    rw [stage] at did bound knows
    cases did
    split
    case h_1 row held =>
      obtain ⟨found', -⟩ := held_some held
      cases found.symm.trans found'
      refine sound_goto (s := { s with outbox := s.outbox.put _ }) ?_ calling trivial
        fun _ _ => Nat.zero_le _
      refine sound_row sound found ⟨rfl, rfl, rfl⟩ (fun _ => ?_) fun dropped judged => ?_
      · rw [← acceptedLine_same same]
        exact knows
      · have reach := bound dropped judged
        rw [plan_same same] at reach
        exact reach
    case h_2 => exact sound_leaves sound calling (.inr rfl)
  | failing =>
    rw [stage] at did
    cases did
    split
    case h_1 row held =>
      obtain ⟨found', -⟩ := held_some held
      cases found.symm.trans found'
      exact sound_leaves (s := { s with outbox := s.outbox.put _ })
        (sound_opened sound found (by intro h; cases h) rfl rfl ⟨rfl, rfl, rfl⟩) calling (.inr rfl)
    case h_2 => exact sound_leaves sound calling (.inr rfl)
  | ended =>
    rw [stage] at did
    cases did

/-! ## A step -/

variable {act : Act}

theorem thread_insert {messages : Table FriendRequestMessage MessageId (·.id)}
    (inserted : s.messages.insert message = some messages) (apart : message.requestId ≠ r) :
    ({ s with messages := messages } : State).thread r = s.thread r := by
  unfold State.thread
  dsimp only
  rw [Table.insert_rows inserted, List.filter_append]
  simp [apart]

/-- Whoever finds a request that is not accepted is not at one with a job. -/
theorem job_apart {id : RequestId} (sound : Sound blocked s) (found : s.outbox.find r = some job)
    (row : s.requests.find id = some request) (open' : request.state ≠ .accepted) : r ≠ id := by
  rintro rfl
  obtain ⟨request', row', accepted, -⟩ := sound.accepted r job found
  cases row.symm.trans row'
  exact open' accepted

theorem frame_put (state : FriendState) (sound : Sound blocked s)
    (row : s.requests.find request.id = some request) (open' : request.state = .pending) :
    Frame s { s with requests := s.requests.put { request with state := state } } where
  requests r job found := by
    refine Eq.trans (Table.find_put_own row (by rfl) r) (if_neg ?_)
    exact job_apart sound found row (by rw [open']; exact FriendState.noConfusion)
  threads _ _ _ := rfl
  lines _ := rfl
  outbox := rfl
  workers := rfl
  verdicts := rfl

theorem frame_send {requests : Table Request RequestId (·.id)}
    (sound : Sound blocked s) (inserted : s.requests.insert request = some requests) :
    Frame s { s with requests := requests } where
  requests r job found := by
    dsimp only
    rw [Table.find_insert inserted, if_neg]
    rintro rfl
    obtain ⟨request', row', -⟩ := sound.accepted _ job found
    cases (Table.insert_fresh inserted).symm.trans row'
  threads _ _ _ := rfl
  lines _ := rfl
  outbox := rfl
  workers := rfl
  verdicts := rfl

theorem frame_message {messages : Table FriendRequestMessage MessageId (·.id)}
    (inserted : s.messages.insert message = some messages)
    (apart : ∀ r job, s.outbox.find r = some job → r ≠ message.requestId) :
    Frame s { s with messages := messages } where
  requests _ _ _ := rfl
  threads r job found := thread_insert inserted (apart r job found).symm
  lines _ := rfl
  outbox := rfl
  workers := rfl
  verdicts := rfl

theorem sound_step (step : Step blocked s act t) (sound : Sound blocked s) : Sound blocked t := by
  unfold Step State.next at step
  cases act with
  | send id senderId targetId message seed =>
    dsimp only at step
    split at step
    · cases step
    · obtain ⟨requests, inserted, step⟩ := Option.bind_eq_some_iff.mp step
      have sent := sound_frame sound (frame_send sound inserted)
      split at step
      · obtain ⟨messages, written, rfl⟩ := Option.map_eq_some_iff.mp step
        refine sound_frame sent (frame_message written fun r job found => ?_)
        rintro rfl
        obtain ⟨request', row', -⟩ := sound.accepted _ job found
        cases (Table.insert_fresh inserted).symm.trans row'
      · cases step
        exact sent
  | append userId id message content createdAt =>
    dsimp only at step
    split at step
    · cases step
    · obtain ⟨request, chosen, step⟩ := Option.bind_eq_some_iff.mp step
      obtain ⟨messages, written, rfl⟩ := Option.map_eq_some_iff.mp step
      obtain ⟨row, may⟩ := Option.filter_eq_some_iff.mp chosen
      refine sound_frame sound (frame_message written fun r job found => ?_)
      refine job_apart sound found row ?_
      have open' : request.state = .pending := by
        simp only [mayAppend, Request.open', Bool.and_eq_true, decide_eq_true_eq] at may
        exact may.1.1.2
      rw [open']
      exact FriendState.noConfusion
  | handle recipientId id decision =>
    obtain ⟨request, chosen, did⟩ := Option.map_eq_some_iff.mp step
    obtain ⟨row, may⟩ := Option.filter_eq_some_iff.mp chosen
    obtain rfl : request.id = id := Table.find_key row
    obtain ⟨recipient, open'⟩ := Bool.and_eq_true _ _ ▸ may
    have open' : request.state = .pending := of_decide_eq_true open'
    have recipient : request.friendID = recipientId := of_decide_eq_true recipient
    have decided := sound_frame sound (frame_put decision.state sound row open')
    cases decision with
    | rejected =>
      cases did
      exact decided
    | accepted =>
      cases did
      have fresh : s.outbox.find request.id = none := by
        cases found : s.outbox.find request.id with
        | none => rfl
        | some job =>
          refine absurd rfl (job_apart sound found row ?_)
          rw [open']
          exact FriendState.noConfusion
      have after : (s.requests.put { request with state := .accepted }).find request.id =
          some { request with state := .accepted } :=
        Eq.trans (Table.find_put_own row (by rfl) _) (if_pos rfl)
      exact sound_job decided fresh after rfl rfl
        recipient.symm rfl rfl rfl
  | cancel senderId id =>
    obtain ⟨request, chosen, rfl⟩ := Option.map_eq_some_iff.mp step
    obtain ⟨row, may⟩ := Option.filter_eq_some_iff.mp chosen
    obtain rfl : request.id = id := Table.find_key row
    have open' : request.state = .pending :=
      of_decide_eq_true (Bool.and_eq_true _ _ ▸ may).2
    exact sound_frame sound (frame_put .withdrawn sound row open')
  | look w id =>
    obtain ⟨job, chosen, step⟩ := Option.bind_eq_some_iff.mp step
    obtain ⟨workers, looked, rfl⟩ := Option.map_eq_some_iff.mp step
    exact sound_look sound (Option.filter_eq_some_iff.mp chosen).1 looked
  | work w =>
    obtain ⟨worker, calling, did⟩ := Option.bind_eq_some_iff.mp step
    obtain rfl : worker.id = w := Table.find_key calling
    exact sound_work sound calling did
  | throws w =>
    obtain ⟨worker, calling, rfl⟩ := Option.map_eq_some_iff.mp step
    obtain rfl : worker.id = w := Table.find_key calling
    refine sound_leaves sound calling ?_
    unfold Stage.thrown
    split
    · exact .inr rfl
    · exact .inr rfl
    · exact .inr rfl
    · exact .inl rfl
  | crash w =>
    obtain ⟨worker, calling, rfl⟩ := Option.map_eq_some_iff.mp step
    obtain rfl : worker.id = w := Table.find_key calling
    exact sound_leaves sound calling (.inr rfl)
  | rename id name =>
    cases step
    exact sound_frame sound ⟨fun _ _ _ => rfl, fun _ _ _ => rfl, fun _ => rfl, rfl, rfl, rfl⟩
  | chat conversation senderID n text =>
    cases step
    refine sound_frame sound ⟨fun _ _ _ => rfl, fun _ _ _ => rfl, fun r => ?_, rfl, rfl, rfl⟩
    exact lines_tells_apart rfl
  | tick now =>
    dsimp only at step
    split at step
    · cases step
      exact sound_frame sound ⟨fun _ _ _ => rfl, fun _ _ _ => rfl, fun _ => rfl, rfl, rfl, rfl⟩
    · cases step

theorem sound_empty : Sound blocked .empty where
  accepted := by
    intro r job found
    cases found
  unborn _ _ := ⟨rfl, fun _ => List.not_mem_nil, by
    intro id w calling
    cases calling⟩
  snapshot := by
    intro id w job calling
    cases calling
  words := by
    intro r job found
    cases found
  single _ := List.nodup_nil
  knows := by
    intro id w calling
    cases calling
  empty := by
    intro r found inside
    cases inside
  answered := by
    intro r job found
    cases found
  plan := by
    intro r job dropped found
    cases found
  row := by
    intro r job dropped found
    cases found
  worker := by
    intro id w dropped calling
    cases calling

theorem run_sound {acts : List Act} (run : Run (Step blocked) .empty acts s) : Sound blocked s :=
  run.preserves (fun _ _ _ step sound => sound_step step sound) sound_empty

/-! ## A request is decided once -/

theorem persist_requests (stage : Nat) (messageIndex : Option Nat) (next : Stage) :
    (s.persist w stage messageIndex next).requests = s.requests := by
  unfold State.persist
  split <;> rfl

theorem work_requests (did : s.work blocked w = some t) : t.requests = s.requests := by
  unfold State.work at did
  cases stage : w.stage with
  | claiming | completing | failing =>
    rw [stage] at did
    cases did
    split <;> rfl
  | first | second | closing | persisting =>
    rw [stage] at did
    cases did
    exact persist_requests _ _ _
  | reading =>
    rw [stage] at did
    dsimp only at did
    split at did
    · split at did
      · cases did
        rfl
      · cases did
        rfl
    · cases did
      rfl
  | message thread index =>
    rw [stage] at did
    cases did
    split
    · dsimp only
      split <;> rfl
    · rfl
  | greeting | accepting =>
    rw [stage] at did
    cases did
    rfl
  | ended =>
    rw [stage] at did
    cases did

theorem decided_step (step : Step blocked s act t) (row : s.requests.find r = some request)
    (decided : request.state ≠ .pending) : t.requests.find r = some request := by
  have other (id : RequestId) (request' : Request) (state : FriendState)
      (row' : s.requests.find id = some request') (open' : request'.open' = true) :
      (s.requests.put { request' with state := state }).find r = some request := by
    refine Eq.trans (Table.find_put_own row' (by rfl) r) ((if_neg ?_).trans row)
    rintro rfl
    cases row'.symm.trans row
    exact decided (of_decide_eq_true open')
  unfold Step State.next at step
  cases act with
  | send id senderId targetId message seed =>
    dsimp only at step
    split at step
    · cases step
    · obtain ⟨requests, inserted, step⟩ := Option.bind_eq_some_iff.mp step
      have kept : requests.find r = some request := by
        rw [Table.find_insert inserted, if_neg, row]
        rintro rfl
        cases (Table.insert_fresh inserted).symm.trans row
      split at step
      · obtain ⟨messages, -, rfl⟩ := Option.map_eq_some_iff.mp step
        exact kept
      · cases step
        exact kept
  | append userId id message content createdAt =>
    dsimp only at step
    split at step
    · cases step
    · obtain ⟨request', -, step⟩ := Option.bind_eq_some_iff.mp step
      obtain ⟨messages, -, rfl⟩ := Option.map_eq_some_iff.mp step
      exact row
  | handle recipientId id decision =>
    obtain ⟨request', chosen, did⟩ := Option.map_eq_some_iff.mp step
    obtain ⟨row', may⟩ := Option.filter_eq_some_iff.mp chosen
    have kept := other id request' decision.state row' (Bool.and_eq_true _ _ ▸ may).2
    cases decision with
    | rejected | accepted =>
      cases did
      exact kept
  | cancel senderId id =>
    obtain ⟨request', chosen, rfl⟩ := Option.map_eq_some_iff.mp step
    obtain ⟨row', may⟩ := Option.filter_eq_some_iff.mp chosen
    exact other id request' .withdrawn row' (Bool.and_eq_true _ _ ▸ may).2
  | look w id =>
    obtain ⟨job, -, step⟩ := Option.bind_eq_some_iff.mp step
    obtain ⟨workers, -, rfl⟩ := Option.map_eq_some_iff.mp step
    exact row
  | work w =>
    obtain ⟨worker, -, did⟩ := Option.bind_eq_some_iff.mp step
    rw [work_requests did]
    exact row
  | throws w | crash w =>
    obtain ⟨worker, -, rfl⟩ := Option.map_eq_some_iff.mp step
    exact row
  | rename | chat =>
    cases step
    exact row
  | tick now =>
    dsimp only at step
    split at step
    · cases step
      exact row
    · cases step

/-! ## What the conversation has -/

variable (blocked) in
/-- What the conversation has of a replay that is completed. -/
def State.complete (s : State) (job : ReplayJob) : Prop :=
  let thread := s.thread job.requestId
  let lines := s.lines job.requestId
  (thread ≠ [] → lines = (thread.filter fun message => !blocked message.content).map job.line ++
    [job.acceptedLine]) ∧
  (thread = [] → lines.count job.acceptedLine = 1 ∧
    lines.countP (·.clientMessageId = .greeting job.requestId) ≤ 1 ∧
    (s.judged job.requestId false → ∃ text, s.greets blocked job text ∧
      lines = [job.greetingLine text, job.acceptedLine]) ∧
    (s.judged job.requestId true → lines = [job.acceptedLine]))

theorem opening_thread (some' : thread ≠ []) : job.opening blocked dropped thread =
    (thread.filter fun message => !blocked message.content).map fun message =>
      .thread job.requestId message.id := by
  unfold ReplayJob.opening
  rw [if_neg]
  rwa [List.isEmpty_iff]

theorem judged_thread (sound : Sound blocked s) (some' : s.thread r ≠ []) : s.judged r dropped :=
  fun found inside => absurd (sound.empty r found inside) some'

theorem line_of_key (sound : Sound blocked s) (found : s.outbox.find r = some job)
    (words : s.words blocked job line) (plain : line.clientMessageId ≠ .greeting job.requestId)
    (key : line.clientMessageId ∈ s.keys r) : line ∈ s.lines r := by
  obtain ⟨other, inside, same⟩ := List.mem_map.mp key
  have one := (words_same (sound.words r job found other inside) words same).2.2
  exact one (same ▸ plain) ▸ inside

/-- What the conversation is said to have, it has. -/
theorem line_of_told (sound : Sound blocked s) (found : s.outbox.find r = some job)
    (reach : told blocked (s.thread r) index ≤ (s.keys r).length)
    (inside : message ∈ (s.thread r).take index) (allowed : blocked message.content = false) :
    job.line message ∈ s.lines r := by
  obtain rfl : job.requestId = r := Table.find_key found
  have there : message ∈ s.thread job.requestId := List.mem_of_mem_take inside
  have some' : s.thread job.requestId ≠ [] := List.ne_nil_of_mem there
  refine line_of_key sound found (words_line there allowed) (by simp [ReplayJob.line]) ?_
  have front : ((((s.thread job.requestId).take index).filter fun message =>
      !blocked message.content).map fun message =>
        ClientMessageId.thread job.requestId message.id) <+:
          job.plan blocked false (s.thread job.requestId) := by
    unfold ReplayJob.plan
    rw [opening_thread some']
    exact (((List.take_prefix _ _).filter _).map _).trans (List.prefix_append _ _)
  have held := List.prefix_of_prefix_length_le front
    (sound.plan _ job false found (judged_thread sound some')) (by
      rw [List.length_map, ← List.countP_eq_length_filter]
      exact reach)
  exact held.subset (List.mem_map.mpr ⟨message, List.mem_filter.mpr ⟨inside, by simp [allowed]⟩, rfl⟩)

theorem complete_keys (dropped : Bool) (sound : Sound blocked s) (found : s.outbox.find r = some job)
    (completed : job.status = .completed) (judged : s.judged r dropped) :
    s.keys r = job.plan blocked dropped (s.thread r) := by
  have reach := sound.row r job dropped found judged
  unfold ReplayJob.reached at reach
  rw [if_pos completed] at reach
  exact (sound.plan r job dropped found judged).eq_of_length_le reach

theorem complete_thread (sound : Sound blocked s) (found : s.outbox.find job.requestId = some job)
    (completed : job.status = .completed) (some' : s.thread job.requestId ≠ []) :
    s.lines job.requestId = ((s.thread job.requestId).filter fun message =>
      !blocked message.content).map job.line ++ [job.acceptedLine] := by
  have keys := complete_keys false sound found completed (judged_thread sound some')
  unfold ReplayJob.plan at keys
  rw [opening_thread some'] at keys
  refine eq_of_keys (·.clientMessageId) ?_ fun line inside line' inside' same => ?_
  · refine keys.trans ?_
    rw [List.map_append, List.map_map]
    rfl
  · have words := sound.words _ job found line inside
    rcases List.mem_append.mp inside' with first | last
    · obtain ⟨message, kept, rfl⟩ := List.mem_map.mp first
      obtain ⟨there, allowed⟩ := List.mem_filter.mp kept
      refine (words_same words (words_line there (by simpa using allowed)) same).2.2 ?_
      rw [same]
      simp [ReplayJob.line]
    · obtain rfl := List.mem_singleton.mp last
      refine (words_same words words_accepted same).2.2 ?_
      rw [same]
      simp [ReplayJob.acceptedLine]

theorem greeting_line (words : s.words blocked job line)
    (key : line.clientMessageId = .greeting job.requestId) :
    ∃ text, s.greets blocked job text ∧ line = job.greetingLine text := by
  unfold State.words at words
  rw [key] at words
  exact words

theorem accepted_line (words : s.words blocked job line)
    (key : line.clientMessageId = .accepted job.requestId) : line = job.acceptedLine := by
  unfold State.words at words
  rw [key] at words
  exact words

theorem complete_job (sound : Sound blocked s) (found : s.outbox.find job.requestId = some job)
    (completed : job.status = .completed) : s.complete blocked job := by
  have words := sound.words _ job found
  refine ⟨complete_thread sound found completed, fun empty => ⟨?_, ?_, fun judged => ?_,
    fun judged => ?_⟩⟩
  · have distinct : (s.lines job.requestId).Nodup := (sound.single job.requestId).of_map
    exact List.count_eq_one_of_mem distinct (sound.answered _ job found completed)
  · have once := List.nodup_iff_count_le_one.mp (sound.single job.requestId)
      (.greeting job.requestId)
    unfold State.keys at once
    rw [List.count, List.countP_map] at once
    refine Nat.le_trans (List.countP_mono_left fun line _ own => ?_) once
    simpa using own
  · have keys := complete_keys false sound found completed judged
    unfold ReplayJob.plan ReplayJob.opening State.keys at keys
    rw [empty] at keys
    obtain ⟨first, rest, lines, greeting, last⟩ := List.map_eq_cons_iff.mp keys
    obtain ⟨second, rest, rfl, accepted, ended⟩ := List.map_eq_cons_iff.mp last
    obtain rfl := List.map_eq_nil_iff.mp ended
    rw [lines] at words
    obtain ⟨text, greets, rfl⟩ := greeting_line (words first (by simp)) greeting
    obtain rfl := accepted_line (words second (by simp)) accepted
    exact ⟨text, greets, lines⟩
  · have keys := complete_keys true sound found completed judged
    unfold ReplayJob.plan ReplayJob.opening State.keys at keys
    rw [empty] at keys
    obtain ⟨first, rest, lines, accepted, ended⟩ := List.map_eq_cons_iff.mp keys
    obtain rfl := List.map_eq_nil_iff.mp ended
    rw [lines] at words
    obtain rfl := accepted_line (words first (by simp)) accepted
    exact lines

/-- Every request is decided once; an accepted one is told once and in order, its greeting
unless a worker found that blocked. -/
theorem replayed_once {acts : List Act} (run : Run (Step blocked) .empty acts s) :
    (∀ r request more t, s.requests.find r = some request → request.state ≠ .pending →
      Run (Step blocked) s more t → t.requests.find r = some request) ∧
    ∀ r job, s.outbox.find r = some job →
      (∀ message ∈ (s.thread r).take job.messageIndex, blocked message.content = false →
        job.line message ∈ s.lines r) ∧
      (3 ≤ job.stage →
        (∀ message ∈ s.thread r, blocked message.content = false → job.line message ∈ s.lines r) ∧
        (s.thread r = [] → s.judged r false →
          ∃ text, s.greets blocked job text ∧ job.greetingLine text ∈ s.lines r)) ∧
      (job.status = .completed → s.complete blocked job) := by
  have sound := run_sound run
  constructor
  · intro r request more t row decided run'
    exact run'.preserves (P := fun t => t.requests.find r = some request)
      (fun _ _ _ step row => decided_step step row decided) row
  · intro r job found
    obtain rfl : job.requestId = r := Table.find_key found
    have reached (dropped : Bool) := sound.row _ job dropped found
    refine ⟨fun message inside allowed => ?_, fun late => ⟨fun message inside allowed => ?_,
      fun empty judged => ?_⟩, complete_job sound found⟩
    · have some' : s.thread job.requestId ≠ [] := List.ne_nil_of_mem (List.mem_of_mem_take inside)
      exact line_of_told sound found (Nat.le_trans (told_le_reached job)
        (reached false (judged_thread sound some'))) inside allowed
    · have some' : s.thread job.requestId ≠ [] := List.ne_nil_of_mem inside
      have all : (job.opening blocked false (s.thread job.requestId)).length =
          told blocked (s.thread job.requestId) (s.thread job.requestId).length :=
        told_all some' (List.getElem?_eq_none (Nat.le_refl _))
      have reach : told blocked (s.thread job.requestId) (s.thread job.requestId).length ≤
          (s.keys job.requestId).length := by
        rw [← all]
        exact Nat.le_trans (opening_le_reached late) (reached false (judged_thread sound some'))
      exact line_of_told sound found reach (List.take_length.symm ▸ inside) allowed
    · have reach := Nat.le_trans (opening_le_reached late) (reached false judged)
      have front : [.greeting job.requestId] <+: job.plan blocked false (s.thread job.requestId) := by
        simp [ReplayJob.plan, ReplayJob.opening, empty]
      have held := List.prefix_of_prefix_length_le front (sound.plan _ job false found judged) (by
        simpa [ReplayJob.opening, empty] using reach)
      obtain ⟨line, inside, key⟩ := List.mem_map.mp (held.subset List.mem_cons_self)
      obtain ⟨text, greets, rfl⟩ := greeting_line (sound.words _ job found line inside) key
      exact ⟨text, greets, inside⟩

/-! A worker stalls after its first line; another takes the job over and finishes it. -/

def takeover : List Act :=
  [.send 0 1 2 (some (jsString "hi")) 0, .append 2 0 1 (jsString "who") 0,
    .append 1 0 2 (jsString "spam") 0, .handle 2 0 .accepted, .look 0 0] ++
  .replicate 5 (.work 0) ++ [.tick 400000, .look 1 0] ++ .replicate 12 (.work 1) ++
  [.work 0, .work 0]

def spam (text : JsString) : Bool := text = jsString "spam" || text = jsString "我是spam"

def State.finished (s : State) (r : RequestId) : Bool :=
  (s.outbox.find r).any (·.status = .completed)

theorem replayed_once_taken : ∃ s job, Run (Step spam) .empty takeover s ∧
    s.outbox.find 0 = some job ∧ job.status = .completed ∧ s.complete spam job := by
  have done : ((takeover.foldlM (State.next spam) .empty).any (·.finished 0)) = true := by
    decide +kernel
  obtain ⟨s, ran, finished⟩ := (Option.any_eq_true _ _).mp done
  obtain ⟨job, found, completed⟩ := (Option.any_eq_true _ _).mp finished
  have completed : job.status = .completed := of_decide_eq_true completed
  have run := Run.of_foldlM ran
  exact ⟨s, job, run, found, completed, ((replayed_once run).2 0 job found).2.2 completed⟩

/-- The name of the requester is blocked. -/
def unnamed : List Act :=
  [.rename 1 (jsString "spam"), .send 0 1 2 none 0, .handle 2 0 .accepted, .look 0 0] ++
  .replicate 7 (.work 0)

theorem greeting_dropped : ∃ s job, Run (Step spam) .empty unnamed s ∧
    s.outbox.find 0 = some job ∧ job.status = .completed ∧ s.thread 0 = [] ∧
      s.lines 0 = [job.acceptedLine] := by
  have done : ((unnamed.foldlM (State.next spam) .empty).any fun s => (s.outbox.find 0).any fun job =>
      decide (job.status = .completed) && (s.thread 0).isEmpty &&
        decide (s.lines 0 = [job.acceptedLine])) = true := by
    decide +kernel
  obtain ⟨s, ran, finished⟩ := (Option.any_eq_true _ _).mp done
  obtain ⟨job, found, finished⟩ := (Option.any_eq_true _ _).mp finished
  obtain ⟨finished, lines⟩ := Bool.and_eq_true _ _ ▸ finished
  obtain ⟨completed, empty⟩ := Bool.and_eq_true _ _ ▸ finished
  exact ⟨s, job, Run.of_foldlM ran, found, of_decide_eq_true completed,
    List.isEmpty_iff.mp empty, of_decide_eq_true lines⟩

end Told

end CircleBackend.Friends.Replay
