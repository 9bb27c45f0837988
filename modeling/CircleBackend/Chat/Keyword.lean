import CircleBackend.Chat.Quotes
import CircleBackend.Library.Like
import CircleBackend.Library.Paging

/-!
# Keyword search in a conversation

`findHistoryKeywordRows` takes candidates from the index of letter pairs in rounds and applies
the history filter to each round. An empty keyword is no keyword.

* `rounds_spec`: the rounds look at the first candidates, whatever they find;
* `keyword_pages_exact`: with no more candidates than the rounds may look at, a page is that of
  the plain filter, and walking the pages goes through all that match.
-/

namespace CircleBackend.Chat

open Library

/-- The messages of the database and one conversation's rules on them. -/
structure History where
  conversationId : ConversationId
  messages : List ChatMessage
  ids : (messages.map (·.id)).Nodup
  heights : ∀ a ∈ messages, ∀ b ∈ messages, a.conversationID = conversationId →
    b.conversationID = conversationId → a.height = b.height → a = b
  positive : ∀ m ∈ messages, 0 < m.height

/-- What the clocks say for one page: the server's when it builds the filter, and the
database's when it runs the query with so many rounds left. -/
structure Readings where
  server : Time
  database : Nat → Time

/-- The parameters of `findHistoryKeywordRows`; `wanted` is its `where`. -/
structure Search where
  conversationId : ConversationId
  keyword : JsString
  wanted : ChatMessage → Bool
  ascending : Bool
  heightFloor : Nat
  beforeHeight : Option Nat
  take : Nat

/-- `height > cursor` towards the new, `height < cursor` towards the old. -/
def beyond (ascending : Bool) (cursor : Option Nat) (m : ChatMessage) : Bool :=
  cursor.all fun height => if ascending then height < m.height else m.height < height

/-- `chat_text_bigrams`, which is not read further here. -/
abbrev Bigrams := JsString → List JsString

/-- A text holds the pairs of every keyword it contains. -/
def Bigrams.Covering (bigrams : Bigrams) : Prop :=
  ∀ keyword text, keyword <:+: text → ∀ pair ∈ bigrams keyword, pair ∈ bigrams text

variable (bigrams : Bigrams)

/-- The condition of the text query of a round. -/
def Search.textMatch (s : Search) (cursor : Option Nat) (now : Time) (m : ChatMessage) : Bool :=
  m.conversationID = s.conversationId && !m.deleted &&
    isChatMessageVisible m.burnExpiresAt now && m.type.textual &&
    m.content.asText.any (fun text =>
      (bigrams s.keyword).all (fun pair => (bigrams text).contains pair) &&
        like (likeContainsPattern s.keyword) text) &&
    s.heightFloor < m.height && beyond s.ascending cursor m

def ordered (messages : List ChatMessage) (ascending : Bool) : List ChatMessage :=
  messages.insertionSort (byHeight ascending)

def Search.candidates (s : Search) (messages : List ChatMessage) (cursor : Option Nat) (now : Time) :
    List ChatMessage :=
  ((ordered messages s.ascending).filter (s.textMatch bigrams cursor now)).take
    textSearchCandidatePage

/-- The candidates' ids with the history filter. -/
def Search.visible (s : Search) (messages candidates : List ChatMessage) : List ChatMessage :=
  (ordered messages s.ascending).filter fun m =>
    s.wanted m && candidates.any fun candidate => candidate.id = m.id

/-- The loop, with so many rounds left. -/
def Search.rounds (s : Search) (messages : List ChatMessage) (database : Nat → Time) :
    Nat → Option Nat → List ChatMessage → List ChatMessage
  | 0, _, rows => rows
  | left + 1, cursor, rows =>
    if s.take ≤ rows.length then rows
    else
      let candidates := s.candidates bigrams messages cursor (database left)
      if candidates.isEmpty then rows
      else
        let rows := rows ++ s.visible messages candidates
        if candidates.length < textSearchCandidatePage then rows
        else s.rounds messages database left (candidates.getLast?.map (·.height)) rows

def findHistoryKeywordRows (messages : List ChatMessage) (database : Nat → Time) (s : Search) :
    List ChatMessage :=
  let cursor := if s.ascending then some s.heightFloor else s.beforeHeight
  (s.rounds bigrams messages database textSearchCandidateRounds cursor []).take s.take

/-- The rows of a page and where the next one begins. -/
structure KeywordPage where
  rows : List ChatMessage
  nextBeforeHeight : Option Nat
  nextAfterHeight : Option Nat

def HistoryRequest.take (r : HistoryRequest) : Nat := min (max r.limit 1) historyPageMax

def HistoryRequest.heightFloor (r : HistoryRequest) (clearedBeforeHeight : Nat) : Nat :=
  max (r.afterHeight.getD 0) clearedBeforeHeight

def HistoryRequest.search (r : HistoryRequest) (h : History) (keyword : JsString)
    (clearedBeforeHeight : Nat) (now : Time) : Search where
  conversationId := h.conversationId
  keyword := keyword
  wanted := r.historyPageWhere h.conversationId (r.heightFloor clearedBeforeHeight) now
  ascending := r.afterHeight.isSome
  heightFloor := r.heightFloor clearedBeforeHeight
  beforeHeight := r.beforeHeight
  take := r.take

/-- The part of `getHistory` that a keyword goes through. -/
def HistoryRequest.keywordPage (r : HistoryRequest) (h : History) (keyword : JsString)
    (clearedBeforeHeight : Nat) (readings : Readings) : KeywordPage :=
  let rows := findHistoryKeywordRows bigrams h.messages readings.database
    (r.search h keyword clearedBeforeHeight readings.server)
  let next := if rows.length = r.take then rows.getLast?.map (·.height) else none
  { rows := rows
    nextBeforeHeight := if r.afterHeight.isSome then none else next
    nextAfterHeight := if r.afterHeight.isSome then next else none }

/-- The request for the page after this one. -/
def HistoryRequest.follow (r : HistoryRequest) (page : KeywordPage) : Option HistoryRequest :=
  match page.nextAfterHeight, page.nextBeforeHeight with
  | some height, _ => some { r with afterHeight := some height }
  | none, some height => some { r with beforeHeight := some height }
  | none, none => none

/-- The rows of the pages up to the one that names no next one, in at most so many pages. -/
def walk (h : History) (keyword : JsString) (clearedBeforeHeight : Nat) (clock : Nat → Readings) :
    Nat → HistoryRequest → Option (List ChatMessage)
  | 0, _ => none
  | left + 1, r =>
    let page := r.keywordPage bigrams h keyword clearedBeforeHeight (clock left)
    match r.follow page with
    | none => some page.rows
    | some next => (walk h keyword clearedBeforeHeight clock left next).map (page.rows ++ ·)

/-! ## The plain filter -/

/-- `content.text` contains the keyword. -/
def ChatMessage.mentions (m : ChatMessage) (keyword : JsString) : Bool :=
  m.type.textual && m.content.asText.any fun text => decide (keyword <:+: text)

/-- The messages that pass the history filter and contain the keyword, in the page's order. -/
def HistoryRequest.plain (r : HistoryRequest) (h : History) (keyword : JsString)
    (clearedBeforeHeight : Nat) (now : Time) : List ChatMessage :=
  (ordered h.messages r.afterHeight.isSome).filter fun m =>
    r.historyPageWhere h.conversationId (r.heightFloor clearedBeforeHeight) now m &&
      m.mentions keyword

/-- No message burns between one reading of a clock and another. -/
def Still (messages : List ChatMessage) (now : Time) (readings : Readings) : Prop :=
  ∀ m ∈ messages,
    isChatMessageVisible m.burnExpiresAt readings.server = isChatMessageVisible m.burnExpiresAt now ∧
    ∀ left, isChatMessageVisible m.burnExpiresAt (readings.database left) =
      isChatMessageVisible m.burnExpiresAt now

/-! ## The order of a page -/

section Order

variable {h : History} {ascending : Bool} {p : ChatMessage → Bool}

theorem mem_ordered {messages : List ChatMessage} {m : ChatMessage} :
    m ∈ ordered messages ascending ↔ m ∈ messages := List.mem_insertionSort _

theorem ordered_nodup (h : History) (ascending : Bool) :
    ((ordered h.messages ascending).map (·.id)).Nodup :=
  ((List.perm_insertionSort (byHeight ascending) h.messages).map (·.id)).nodup_iff.mpr h.ids

theorem beyond_asymm (a b : ChatMessage) (after : beyond ascending (some a.height) b = true) :
    beyond ascending (some b.height) a = false := by
  cases ascending
  all_goals
    simp only [beyond, Option.all_some, if_true, if_false, Bool.false_eq_true, decide_eq_true_eq,
      decide_eq_false_iff_not] at *
    omega

/-- Rows of the conversation stand in the strict order of their heights. -/
theorem ordered_sorted (own : ∀ m, p m = true → m.conversationID = h.conversationId) :
    ((ordered h.messages ascending).filter p).Pairwise fun a b =>
      beyond ascending (some a.height) b = true := by
  have total : Std.Total (byHeight ascending) := by
    constructor
    intro a b
    cases ascending
    · exact Nat.le_total b.height a.height
    · exact Nat.le_total a.height b.height
  have trans : IsTrans ChatMessage (byHeight ascending) := by
    constructor
    intro a b c first second
    cases ascending
    · exact Nat.le_trans second first
    · exact Nat.le_trans first second
  have sorted : (ordered h.messages ascending).Pairwise (byHeight ascending) :=
    List.pairwise_insertionSort _ _
  have apart : (ordered h.messages ascending).Pairwise (· ≠ ·) :=
    (List.Nodup.of_map _ (ordered_nodup h ascending))
  apply ((sorted.and apart).filter p).imp_of_mem
  rintro a b inA inB ⟨before, differ⟩
  obtain ⟨memberA, chosenA⟩ := List.mem_filter.mp inA
  obtain ⟨memberB, chosenB⟩ := List.mem_filter.mp inB
  have heights : a.height ≠ b.height := fun same => differ (h.heights a (mem_ordered.mp memberA) b
    (mem_ordered.mp memberB) (own a chosenA) (own b chosenB) same)
  cases ascending
  all_goals
    simp only [byHeight, beyond, Option.all_some, if_true, if_false, Bool.false_eq_true,
      decide_eq_true_eq] at *
    omega

theorem beyond_trans {cursor : Option Nat} {a b : ChatMessage}
    (first : beyond ascending cursor a = true) (second : beyond ascending (some a.height) b = true) :
    beyond ascending cursor b = true := by
  cases cursor with
  | none => rfl
  | some height =>
    cases ascending
    all_goals
      simp only [beyond, Option.all_some, if_true, if_false, Bool.false_eq_true,
        decide_eq_true_eq] at *
      omega

end Order

/-! ## The rounds -/

section Rounds

variable {bigrams : Bigrams} {h : History} {s : Search} {cursor : Option Nat} {now : Time}
  {m : ChatMessage}

/-- The query without its cursor. -/
theorem textMatch_cursor : s.textMatch bigrams cursor now m =
    (s.textMatch bigrams none now m && beyond s.ascending cursor m) := by
  unfold Search.textMatch
  rw [show beyond s.ascending none m = true from rfl, Bool.and_true]

theorem textMatch_conversation (matched : s.textMatch bigrams cursor now m = true) :
    m.conversationID = s.conversationId := by
  unfold Search.textMatch at matched
  simp only [Bool.and_eq_true, decide_eq_true_eq] at matched
  exact matched.1.1.1.1.1.1

/-- The next round's query goes on behind the last candidate. -/
theorem filter_next {l : List ChatMessage} {last : ChatMessage}
    (reached : beyond s.ascending cursor last = true) :
    l.filter (s.textMatch bigrams (some last.height) now) =
      (l.filter (s.textMatch bigrams cursor now)).filter
        fun m => beyond s.ascending (some last.height) m := by
  rw [List.filter_filter]
  apply List.filter_congr
  intro m _
  rw [textMatch_cursor, @textMatch_cursor _ _ cursor]
  cases after : beyond s.ascending (some last.height) m with
  | false => simp
  | true => simp [beyond_trans reached after]

theorem visible_candidates {candidates : List ChatMessage}
    (part : candidates.Sublist (ordered h.messages s.ascending)) :
    s.visible h.messages candidates = candidates.filter s.wanted := by
  unfold Search.visible
  rw [← List.filter_filter, filter_keys (·.id) (ordered_nodup h s.ascending) part]

theorem rounds_spec (own : s.conversationId = h.conversationId) {database : Nat → Time}
    {left : Nat} {cursor : Option Nat} {rows rest : List ChatMessage}
    (found : ∀ n, (ordered h.messages s.ascending).filter
      (s.textMatch bigrams cursor (database n)) = rest) :
    (s.rounds bigrams h.messages database left cursor rows).take s.take =
      (rows ++ (rest.take (textSearchCandidatePage * left)).filter s.wanted).take s.take := by
  induction left generalizing cursor rows rest with
  | zero => simp [Search.rounds]
  | succ left ih =>
    rw [Search.rounds]
    have page : s.candidates bigrams h.messages cursor (database left) =
        rest.take textSearchCandidatePage := by
      rw [Search.candidates, found]
    have part : (rest.take textSearchCandidatePage).Sublist (ordered h.messages s.ascending) := by
      rw [← found left]
      exact (List.take_sublist _ _).trans List.filter_sublist
    have more : rest.take (textSearchCandidatePage * (left + 1)) =
        rest.take textSearchCandidatePage ++
          (rest.drop textSearchCandidatePage).take (textSearchCandidatePage * left) := by
      rw [Nat.mul_succ, Nat.add_comm, List.take_add]
    dsimp only
    rw [page, visible_candidates part]
    split
    case isTrue full => rw [List.take_append_of_le_length full]
    case isFalse =>
      split
      case isTrue none' =>
        have empty : rest = [] := by
          rw [List.isEmpty_iff, List.take_eq_nil_iff] at none'
          exact none'.resolve_left (by decide)
        simp [empty]
      case isFalse some' =>
        split
        case isTrue short =>
          have whole : rest.length < textSearchCandidatePage := by
            rw [List.length_take] at short
            omega
          have all' : rest.take (textSearchCandidatePage * (left + 1)) = rest :=
            List.take_of_length_le (by
              rw [Nat.mul_succ]
              omega)
          rw [all', List.take_of_length_le (Nat.le_of_lt whole)]
        case isFalse =>
          obtain ⟨last, cut⟩ : ∃ last, (rest.take textSearchCandidatePage).getLast? = some last := by
            cases final : (rest.take textSearchCandidatePage).getLast? with
            | some last => exact ⟨last, rfl⟩
            | none =>
              rw [List.getLast?_eq_none_iff] at final
              rw [final] at some'
              exact absurd rfl some'
          have inside : last ∈ rest := List.mem_of_mem_take (List.mem_of_getLast? cut)
          have reached : beyond s.ascending cursor last = true := by
            rw [← found left] at inside
            have matched := (List.mem_filter.mp inside).2
            rw [textMatch_cursor, Bool.and_eq_true] at matched
            exact matched.2
          rw [cut, Option.map_some, more, List.filter_append, ← List.append_assoc]
          apply ih
          intro n
          rw [filter_next reached, found]
          apply filter_beyond _ beyond_asymm cut
          rw [← found left]
          exact ordered_sorted fun m matched => (textMatch_conversation matched).trans own

end Rounds

/-! ## One page -/

section Page

variable {bigrams : Bigrams} {h : History} {r : HistoryRequest} {keyword : JsString}
  {cleared : Nat} {now : Time} {readings : Readings} {m : ChatMessage}

/-- With the index covering, the text query asks for what contains the keyword. -/
theorem textMatch_candidate (covering : bigrams.Covering) (server : Time) :
    (r.search h keyword cleared server).textMatch bigrams
      (if r.afterHeight.isSome then some (r.heightFloor cleared) else r.beforeHeight) now m =
        r.candidate keyword h.conversationId (r.heightFloor cleared) now m := by
  have texts : ∀ text, ((bigrams keyword).all (fun pair => (bigrams text).contains pair) &&
      like (likeContainsPattern keyword) text) = decide (keyword <:+: text) := by
    intro text
    rw [Bool.eq_iff_iff, Bool.and_eq_true, decide_eq_true_eq, like_contains]
    constructor
    · exact fun both => both.2
    · intro contains
      refine ⟨?_, contains⟩
      rw [List.all_eq_true]
      exact fun pair member => List.contains_iff_mem.mpr (covering keyword text contains pair member)
  unfold Search.textMatch HistoryRequest.candidate HistoryRequest.search
  simp only [texts]
  cases r.afterHeight.isSome with
  | true =>
    simp only [if_true, beyond, Option.all_some, Bool.true_or, Bool.and_true]
    rw [Bool.and_assoc, Bool.and_self]
  | false => simp [beyond]

theorem candidate_still (still : Still h.messages now readings) (member : m ∈ h.messages)
    (left : Nat) : r.candidate keyword h.conversationId (r.heightFloor cleared)
      (readings.database left) m =
        r.candidate keyword h.conversationId (r.heightFloor cleared) now m := by
  unfold HistoryRequest.candidate
  rw [(still m member).2 left]

theorem where_still (still : Still h.messages now readings) (member : m ∈ h.messages) :
    r.historyPageWhere h.conversationId (r.heightFloor cleared) readings.server m =
      r.historyPageWhere h.conversationId (r.heightFloor cleared) now m := by
  unfold HistoryRequest.historyPageWhere
  rw [(still m member).1]

/-- Of the messages that pass the history filter, the candidates are those that mention the
keyword. -/
theorem wanted_candidate (member : m ∈ h.messages) :
    (r.historyPageWhere h.conversationId (r.heightFloor cleared) now m &&
      r.candidate keyword h.conversationId (r.heightFloor cleared) now m) =
    (r.historyPageWhere h.conversationId (r.heightFloor cleared) now m && m.mentions keyword) := by
  have positive := h.positive m member
  cases passes : r.historyPageWhere h.conversationId (r.heightFloor cleared) now m with
  | false => rfl
  | true =>
    unfold HistoryRequest.historyPageWhere at passes
    simp only [Bool.and_eq_true, Bool.or_eq_true, decide_eq_true_eq, Bool.not_eq_true'] at passes
    obtain ⟨⟨⟨⟨⟨⟨own, live⟩, above⟩, before⟩, -⟩, -⟩, shown⟩ := passes
    have floor : r.heightFloor cleared < m.height := by omega
    unfold HistoryRequest.candidate ChatMessage.mentions
    simp [own, live, shown, floor, before]

/-- The candidates of a page, whatever the filter makes of them. -/
def HistoryRequest.matching (r : HistoryRequest) (h : History) (keyword : JsString)
    (cleared : Nat) (now : Time) : List ChatMessage :=
  h.messages.filter (r.candidate keyword h.conversationId (r.heightFloor cleared) now)

/-- A page is filtered out of the first candidates. -/
theorem find_eq_candidates (covering : bigrams.Covering) (still : Still h.messages now readings) :
    findHistoryKeywordRows bigrams h.messages readings.database
        (r.search h keyword cleared readings.server) =
      ((((ordered h.messages r.afterHeight.isSome).filter
        (r.candidate keyword h.conversationId (r.heightFloor cleared) now)).take
          (textSearchCandidatePage * textSearchCandidateRounds)).filter
            (r.historyPageWhere h.conversationId (r.heightFloor cleared) now)).take r.take := by
  have found : ∀ left, (ordered h.messages r.afterHeight.isSome).filter
      ((r.search h keyword cleared readings.server).textMatch bigrams
        (if r.afterHeight.isSome then some (r.heightFloor cleared) else r.beforeHeight)
        (readings.database left)) =
      (ordered h.messages r.afterHeight.isSome).filter
        (r.candidate keyword h.conversationId (r.heightFloor cleared) now) := by
    intro left
    apply List.filter_congr
    intro m member
    rw [textMatch_candidate covering, candidate_still still (mem_ordered.mp member)]
  have spec := @rounds_spec _ h (r.search h keyword cleared readings.server) rfl _
    textSearchCandidateRounds _ [] _ found
  rw [List.nil_append] at spec
  rw [findHistoryKeywordRows]
  refine spec.trans ?_
  congr 1
  apply List.filter_congr
  intro m member
  have inside := mem_ordered.mp (List.mem_filter.mp (List.mem_of_mem_take member)).1
  exact where_still still inside

theorem find_eq_plain (covering : bigrams.Covering) (still : Still h.messages now readings)
    (few : (r.matching h keyword cleared now).length ≤
      textSearchCandidatePage * textSearchCandidateRounds) :
    findHistoryKeywordRows bigrams h.messages readings.database
        (r.search h keyword cleared readings.server) =
      (r.plain h keyword cleared now).take r.take := by
  have all' : ((ordered h.messages r.afterHeight.isSome).filter
      (r.candidate keyword h.conversationId (r.heightFloor cleared) now)).length ≤
        textSearchCandidatePage * textSearchCandidateRounds := by
    unfold ordered
    rw [((List.perm_insertionSort (byHeight r.afterHeight.isSome) h.messages).filter _).length_eq]
    exact few
  rw [find_eq_candidates covering still, List.take_of_length_le all', List.filter_filter]
  congr 1
  apply List.filter_congr
  intro m member
  exact wanted_candidate (mem_ordered.mp member)

end Page

/-! ## All pages -/

section Pages

variable {bigrams : Bigrams} {h : History} {r next : HistoryRequest} {keyword : JsString}
  {cleared : Nat} {now : Time} {last : ChatMessage}

/-- The page behind `last`. -/
def HistoryRequest.behind (r : HistoryRequest) (last : ChatMessage) : HistoryRequest :=
  if r.afterHeight.isSome then { r with afterHeight := some last.height }
  else { r with beforeHeight := some last.height }

@[simp] theorem behind_isSome : (r.behind last).afterHeight.isSome = r.afterHeight.isSome := by
  unfold HistoryRequest.behind
  split
  case isTrue given => simp [given]
  case isFalse => rfl

/-- Each filter of the next page is that of this one and the new cursor. -/
theorem behind_where {m : ChatMessage} (above : r.heightFloor cleared < last.height)
    (below : r.beforeHeight.all (last.height < ·) = true) :
    (r.behind last).historyPageWhere h.conversationId ((r.behind last).heightFloor cleared) now m =
      (r.historyPageWhere h.conversationId (r.heightFloor cleared) now m &&
        beyond r.afterHeight.isSome (some last.height) m) := by
  unfold HistoryRequest.behind
  split
  case isTrue given =>
    have floor : ({ r with afterHeight := some last.height } : HistoryRequest).heightFloor cleared =
        last.height := by
      unfold HistoryRequest.heightFloor at above ⊢
      simp only [Option.getD_some]
      omega
    rw [floor, given, Bool.eq_iff_iff]
    simp only [HistoryRequest.historyPageWhere, beyond, Bool.and_eq_true, Bool.or_eq_true,
      decide_eq_true_eq, Option.all_some, if_true]
    constructor
    · rintro ⟨⟨⟨⟨⟨⟨own, live⟩, higher⟩, before⟩, types⟩, day⟩, shown⟩
      have later : last.height < m.height := by omega
      exact ⟨⟨⟨⟨⟨⟨⟨own, live⟩, .inr (by omega)⟩, before⟩, types⟩, day⟩, shown⟩, later⟩
    · rintro ⟨⟨⟨⟨⟨⟨⟨own, live⟩, -⟩, before⟩, types⟩, day⟩, shown⟩, later⟩
      exact ⟨⟨⟨⟨⟨⟨own, live⟩, .inr later⟩, before⟩, types⟩, day⟩, shown⟩
  case isFalse given =>
    have floor : ({ r with beforeHeight := some last.height } : HistoryRequest).heightFloor cleared =
        r.heightFloor cleared := rfl
    rw [floor, Bool.eq_false_iff.mpr given, Bool.eq_iff_iff]
    simp only [HistoryRequest.historyPageWhere, beyond, Bool.and_eq_true, Bool.or_eq_true,
      decide_eq_true_eq, Option.all_some, Bool.false_eq_true, if_false]
    constructor
    · rintro ⟨⟨⟨⟨⟨⟨own, live⟩, higher⟩, before⟩, types⟩, day⟩, shown⟩
      have within : r.beforeHeight.all (m.height < ·) = true := by
        cases bound : r.beforeHeight with
        | none => rfl
        | some height =>
          rw [bound] at below
          simp only [Option.all_some, decide_eq_true_eq] at below ⊢
          omega
      exact ⟨⟨⟨⟨⟨⟨⟨own, live⟩, higher⟩, within⟩, types⟩, day⟩, shown⟩, before⟩
    · rintro ⟨⟨⟨⟨⟨⟨⟨own, live⟩, higher⟩, -⟩, types⟩, day⟩, shown⟩, before⟩
      exact ⟨⟨⟨⟨⟨⟨own, live⟩, higher⟩, before⟩, types⟩, day⟩, shown⟩

theorem plain_sorted : (r.plain h keyword cleared now).Pairwise fun a b =>
    beyond r.afterHeight.isSome (some a.height) b = true := by
  apply ordered_sorted
  intro m chosen
  unfold HistoryRequest.historyPageWhere at chosen
  simp only [Bool.and_eq_true, decide_eq_true_eq] at chosen
  exact chosen.1.1.1.1.1.1.1

theorem mem_plain {m : ChatMessage} : m ∈ r.plain h keyword cleared now ↔
    m ∈ h.messages ∧
      r.historyPageWhere h.conversationId (r.heightFloor cleared) now m = true ∧
        m.mentions keyword = true := by
  rw [HistoryRequest.plain, List.mem_filter, mem_ordered, Bool.and_eq_true]

/-- A row of the plain filter lies within the cursors. -/
theorem plain_within (member : last ∈ r.plain h keyword cleared now) :
    r.heightFloor cleared < last.height ∧ r.beforeHeight.all (last.height < ·) = true := by
  obtain ⟨inside, passes, -⟩ := mem_plain.mp member
  have positive := h.positive last inside
  unfold HistoryRequest.historyPageWhere at passes
  simp only [Bool.and_eq_true, Bool.or_eq_true, decide_eq_true_eq] at passes
  obtain ⟨⟨⟨⟨⟨⟨-, -⟩, above⟩, before⟩, -⟩, -⟩, -⟩ := passes
  exact ⟨by omega, before⟩

theorem plain_behind {k : Nat}
    (cut : ((r.plain h keyword cleared now).take k).getLast? = some last) :
    (r.behind last).plain h keyword cleared now = (r.plain h keyword cleared now).drop k := by
  obtain ⟨above, below⟩ := plain_within (List.mem_of_mem_take (List.mem_of_getLast? cut))
  rw [← filter_beyond plain_sorted beyond_asymm cut, HistoryRequest.plain, HistoryRequest.plain,
    List.filter_filter, behind_isSome]
  apply List.filter_congr
  intro m _
  rw [behind_where above below, Bool.and_comm (beyond _ _ m), Bool.and_right_comm]

theorem matching_behind (member : last ∈ r.plain h keyword cleared now) :
    ((r.behind last).matching h keyword cleared now).length ≤
      (r.matching h keyword cleared now).length := by
  obtain ⟨above, below⟩ := plain_within member
  unfold HistoryRequest.matching
  rw [← List.countP_eq_length_filter, ← List.countP_eq_length_filter]
  apply List.countP_mono_left
  intro m _ matched
  have floor : (r.behind last).heightFloor cleared < m.height → r.heightFloor cleared < m.height := by
    unfold HistoryRequest.behind
    split
    case isTrue =>
      unfold HistoryRequest.heightFloor at above ⊢
      simp only [Option.getD_some]
      omega
    case isFalse => exact id
  have before : (r.behind last).beforeHeight.all (m.height < ·) = true →
      r.beforeHeight.all (m.height < ·) = true := by
    unfold HistoryRequest.behind
    split
    case isTrue => exact id
    case isFalse =>
      intro lower
      cases bound : r.beforeHeight with
      | none => rfl
      | some height =>
        rw [bound] at below
        simp only [Option.all_some, decide_eq_true_eq] at below lower ⊢
        omega
  unfold HistoryRequest.candidate at matched ⊢
  simp only [behind_isSome, Bool.and_eq_true, Bool.or_eq_true, decide_eq_true_eq] at matched ⊢
  exact ⟨⟨matched.1.1, floor matched.1.2⟩, matched.2.imp_right before⟩

/-- A full page names its last row, any other page nothing. -/
theorem follow_page {readings : Readings} (page : (r.keywordPage bigrams h keyword cleared
    readings).rows = (r.plain h keyword cleared now).take r.take) :
    r.follow (r.keywordPage bigrams h keyword cleared readings) =
      if r.take ≤ (r.plain h keyword cleared now).length then
        ((r.plain h keyword cleared now).take r.take).getLast?.map r.behind
      else none := by
  have rows : findHistoryKeywordRows bigrams h.messages readings.database
      (r.search h keyword cleared readings.server) =
        (r.plain h keyword cleared now).take r.take := page
  unfold HistoryRequest.follow HistoryRequest.keywordPage HistoryRequest.behind
  simp only [rows, List.length_take]
  by_cases full : r.take ≤ (r.plain h keyword cleared now).length
  · rw [if_pos full, if_pos (Nat.min_eq_left full)]
    cases ((r.plain h keyword cleared now).take r.take).getLast? with
    | none => cases r.afterHeight.isSome <;> rfl
    | some last => cases r.afterHeight.isSome <;> rfl
  · have cut : ¬min r.take (r.plain h keyword cleared now).length = r.take := by omega
    simp only [if_neg full, if_neg cut]
    cases r.afterHeight.isSome <;> rfl

theorem walk_eq_plain (covering : bigrams.Covering) {clock : Nat → Readings}
    (still : ∀ page, Still h.messages now (clock page)) {left : Nat} :
    ∀ {r : HistoryRequest},
      (r.matching h keyword cleared now).length ≤
        textSearchCandidatePage * textSearchCandidateRounds →
      (r.plain h keyword cleared now).length < left →
      walk bigrams h keyword cleared clock left r = some (r.plain h keyword cleared now) := by
  induction left with
  | zero =>
    intro r _ short
    omega
  | succ left ih =>
    intro r few enough
    have positive : 0 < r.take := by
      unfold HistoryRequest.take historyPageMax
      omega
    have page := find_eq_plain covering (still left) few
    rw [walk, follow_page page]
    by_cases full : r.take ≤ (r.plain h keyword cleared now).length
    · rw [if_pos full]
      cases cut : ((r.plain h keyword cleared now).take r.take).getLast? with
      | none =>
        rw [List.getLast?_eq_none_iff, List.take_eq_nil_iff] at cut
        rcases cut with zero | empty
        · omega
        · rw [empty] at full
          simp only [List.length_nil] at full
          omega
      | some last =>
        have member := List.mem_of_mem_take (List.mem_of_getLast? cut)
        have rest := plain_behind cut
        have others := @ih (r.behind last) (Nat.le_trans (matching_behind member) few) (by
          rw [rest, List.length_drop]
          omega)
        rw [Option.map_some]
        simp only
        rw [others, rest, Option.map_some]
        have rows : (r.keywordPage bigrams h keyword cleared (clock left)).rows =
            (r.plain h keyword cleared now).take r.take := page
        rw [rows, List.take_append_drop]
    · rw [if_neg full]
      have rows : (r.keywordPage bigrams h keyword cleared (clock left)).rows =
          (r.plain h keyword cleared now).take r.take := page
      dsimp only
      rw [rows, List.take_of_length_le (by omega)]

end Pages

/-- With no more candidates beyond the cursor than the rounds may look at, a page holds the
first rows of the plain filter; walking the pages ends and goes through every row of it once. -/
theorem keyword_pages_exact (bigrams : Bigrams) (covering : bigrams.Covering) (h : History)
    (r : HistoryRequest) (keyword : JsString) (clearedBeforeHeight : Nat) (now : Time)
    (few : (r.matching h keyword clearedBeforeHeight now).length ≤
      textSearchCandidatePage * textSearchCandidateRounds) :
    (∀ readings, Still h.messages now readings →
      findHistoryKeywordRows bigrams h.messages readings.database
          (r.search h keyword clearedBeforeHeight readings.server) =
        (r.plain h keyword clearedBeforeHeight now).take r.take) ∧
    (∀ clock : Nat → Readings, (∀ page, Still h.messages now (clock page)) →
      ∀ left, (r.plain h keyword clearedBeforeHeight now).length < left →
        walk bigrams h keyword clearedBeforeHeight clock left r =
          some (r.plain h keyword clearedBeforeHeight now)) ∧
    ((r.plain h keyword clearedBeforeHeight now).map (·.id)).Nodup ∧
    ∀ m, m ∈ r.plain h keyword clearedBeforeHeight now ↔ m ∈ h.messages ∧
      r.historyPageWhere h.conversationId (r.heightFloor clearedBeforeHeight) now m = true ∧
        m.mentions keyword = true := by
  refine ⟨fun readings still => find_eq_plain covering still few,
    fun clock still left enough => walk_eq_plain covering still few enough, ?_, fun m => mem_plain⟩
  exact (ordered_nodup h _).sublist (List.filter_sublist.map _)

/-- The letter pairs of a text in lower case. -/
def pairs : JsString → List JsString
  | a :: b :: rest => [a, b] :: pairs (b :: rest)
  | _ => []

theorem pairs_suffix {text suffix : JsString} (ends : suffix <:+ text) :
    ∀ pair ∈ pairs suffix, pair ∈ pairs text := by
  obtain ⟨front, rfl⟩ := ends
  induction front with
  | nil => exact fun _ member => member
  | cons a front ih =>
    intro pair member
    have inside := ih pair member
    rw [List.cons_append]
    cases more : front ++ suffix with
    | nil =>
      rw [more] at inside
      cases inside
    | cons b rest =>
      rw [more] at inside
      exact List.mem_cons_of_mem _ inside

theorem pairs_front {text front : JsString} (starts : front <+: text) :
    ∀ pair ∈ pairs front, pair ∈ pairs text := by
  induction front using pairs.induct generalizing text with
  | case1 a b rest ih =>
    obtain ⟨more, rfl⟩ := starts
    intro pair member
    rw [pairs] at member
    rcases List.mem_cons.mp member with rfl | member
    · exact List.mem_cons_self
    · exact List.mem_cons_of_mem _ (ih (List.prefix_append (b :: rest) more) pair member)
  | case2 front short =>
    intro pair member
    rw [pairs] at member
    · cases member
    · exact short

theorem pairs_covering : Bigrams.Covering pairs := by
  intro keyword text contains pair member
  obtain ⟨suffix, starts, ends⟩ := List.infix_iff_prefix_suffix.mp contains
  exact pairs_suffix ends pair (pairs_front starts pair member)

/-- A text of three letters. -/
def letters (id : Nat) : ChatMessage where
  id := id
  conversationID := 1
  height := id
  senderID := none
  type := .text
  content := [(textField, .string [97, 98, 99])]
  clientMessageId := none
  requestHash := none
  replyToID := none
  burnDurationSec := none
  burnExpiresAt := none
  deleted := false
  deletedAt := none
  revokedAt := none
  revokedBy := none
  editedAt := none
  contentHistory := none
  revision := id
  createdAt := 0

def twoLetters : History where
  conversationId := 1
  messages := [letters 1, letters 2]
  ids := by decide
  heights := by decide
  positive := by decide

/-- Two messages, a page each, from the new to the old. -/
theorem keyword_pages_two :
    walk pairs twoLetters [97, 98] 0 (fun _ => ⟨0, fun _ => 0⟩) 3
      ⟨none, none, 1, [], none, some [97, 98]⟩ = some [letters 2, letters 1] := by
  obtain ⟨-, walks, -⟩ := keyword_pages_exact pairs pairs_covering twoLetters
    ⟨none, none, 1, [], none, some [97, 98]⟩ [97, 98] 0 0 (by decide)
  exact walks (fun _ => ⟨0, fun _ => 0⟩) (fun _ _ _ => ⟨rfl, fun _ => rfl⟩) 3 (by decide)

end CircleBackend.Chat
