import CircleBackend.Library.Base64
import CircleBackend.Library.Dates
import CircleBackend.Library.Paging
import CircleBackend.Plaza.Model
import Mathlib.Data.Prod.Lex

/-!
# Paging through the feed of the plaza

`getFeed` by the cursors of `feed-cursor.ts`. A client that follows `nextCursor` gets what stays
in the feed once, the newest first (`getFeed_enumerates`).

Of the two bodies of the query one model: `city` is only in the first. What the policy answers is
an argument of a call.
-/

namespace CircleBackend.Plaza.Feed

open Library

/-- Compared as the column's collation does. -/
@[ext] structure PostId where
  text : JsString
  deriving DecidableEq

abbrev CircleId := JsString

/-! ## Cursors -/

structure FeedCursor where
  createdAt : Int
  id : PostId
  deriving DecidableEq

/-- A `Date`, `none` where it is invalid. -/
def timeClip (t : Int) : Option Int := if t.natAbs ≤ 8640000000000000 then some t else none

def Valid (t : Int) : Prop := timeClip t = some t

def encodeFeedCursor (createdAt : Int) (id : PostId) : JsString :=
  base64url (utf8 (toISOString createdAt ++ 124 :: id.text))

def lastIndexOf (c : UInt16) (s : JsString) : Int :=
  s.length - 1 - (s.reverse.takeWhile (· ≠ c)).length

/-- `new Date(text)`; `other` are the texts that `toISOString` does not write. -/
def parseDate (other : JsString → Option Int) (text : JsString) : Option Int :=
  match readISOString text with
  | some t => timeClip t
  | none => other text

def decodeFeedCursor (other : JsString → Option Int) (cursor : JsString) : Option FeedCursor :=
  let decoded := fromUtf8 (fromBase64url cursor)
  let sep := lastIndexOf 124 decoded
  let iso := if sep > 0 then decoded.take sep.toNat else []
  let id := if sep > 0 then decoded.drop (sep.toNat + 1) else []
  if id = [] then none
  else (parseDate other iso).map fun createdAt => { createdAt := createdAt, id := ⟨id⟩ }

/-- What PostgreSQL and `toISOString` take, and the cursor needs. -/
structure PostId.Sound (id : PostId) : Prop where
  nonempty : id.text ≠ []
  noBar : (124 : UInt16) ∉ id.text
  wellFormed : WellFormed id.text

theorem PostId.sound_unit {c : UInt16} (noBar : 124 ≠ c) (scalar : Scalar c.toNat) :
    PostId.Sound ⟨[c]⟩ := by
  refine ⟨List.cons_ne_nil c [], fun bar => noBar (List.mem_singleton.mp bar), fun p member => ?_⟩
  rw [List.mem_singleton.mp member]
  exact scalar

theorem lastIndexOf_append {c : UInt16} {s t : JsString} (absent : c ∉ t) :
    lastIndexOf c (s ++ c :: t) = s.length := by
  have all : ∀ a ∈ t.reverse, decide (a ≠ c) = true := by
    intro a member
    exact decide_eq_true fun same => absent (same ▸ List.mem_reverse.mp member)
  rw [lastIndexOf, List.reverse_append, List.reverse_cons, List.append_assoc,
    List.takeWhile_append_of_pos all]
  simp
  omega

theorem twoDigits_low {n : Nat} (small : n < 100) : ∀ c ∈ twoDigits n, c.toNat ≤ 90 := by
  have tens := digit_toNat (n := n / 10) (by omega)
  have ones := digit_toNat (n := n % 10) (by omega)
  intro c member
  rcases List.mem_pair.mp member with rfl | rfl
  · omega
  · omega

theorem yearOfDay_near {d : Int} (near : d.natAbs ≤ 100000000) :
    (yearOfDay d).natAbs < 1000000 := by
  have low : monthOfDay (-100000000) ≤ monthOfDay d := monthOfDay_mono (by omega)
  have high : monthOfDay d ≤ monthOfDay 100000000 := monthOfDay_mono (by omega)
  have first : monthOfDay (-100000000) = -3261851 := by decide
  have last : monthOfDay 100000000 = 3309126 := by decide
  unfold yearOfDay
  omega

theorem near_day {t : Int} (valid : Valid t) : (t / msPerDay).natAbs ≤ 100000000 := by
  unfold Valid timeClip at valid
  unfold msPerDay
  split at valid
  · omega
  · cases valid

/-- The units of the text of an instant. -/
theorem toISOString_low {t : Int} (valid : Valid t) : ∀ c ∈ toISOString t, c.toNat ≤ 90 := by
  have year := yearOfDay_near (near_day valid)
  obtain ⟨dayLow, dayHigh⟩ := dayInMonth_bounds (t / msPerDay)
  have month : 0 ≤ monthInYear (t / msPerDay) ∧ monthInYear (t / msPerDay) < 12 := by
    unfold monthInYear
    omega
  have ms : (t % msPerDay).toNat < 86400000 := by
    unfold msPerDay
    omega
  have four {n : Nat} (small : n < 10000) : ∀ c ∈ fourDigits n, c.toNat ≤ 90 := by
    simp only [fourDigits, List.forall_mem_append]
    exact ⟨twoDigits_low (by omega), twoDigits_low (by omega)⟩
  have three : (48 + (t % msPerDay).toNat % 1000 / 100).toUInt16.toNat ≤ 90 := by
    rw [digit_toNat (by omega)]
    omega
  have signed : ∀ c ∈ isoYear (yearOfDay (t / msPerDay)), c.toNat ≤ 90 := by
    unfold isoYear
    split
    · exact four (by omega)
    · simp only [List.forall_mem_cons, List.forall_mem_append]
      refine ⟨?_, twoDigits_low (by omega), four (by omega)⟩
      split <;> decide
  simp only [toISOString, isoDate, isoTime, threeDigits, List.forall_mem_append,
    List.forall_mem_cons]
  exact ⟨⟨signed, by decide, twoDigits_low (by omega), by decide, twoDigits_low (by omega)⟩,
    by decide, twoDigits_low (by omega), by decide, twoDigits_low (by omega), by decide,
    twoDigits_low (by omega), by decide, ⟨three, twoDigits_low (by omega)⟩, by decide,
    fun _ member => absurd member List.not_mem_nil⟩

theorem wellFormed_append {s t : JsString} (low : ∀ c ∈ s, c.toNat ≤ 124) (formed : WellFormed t) :
    WellFormed (s ++ t) := by
  induction s with
  | nil => exact formed
  | cons c s ih =>
    obtain ⟨own, rest⟩ := List.forall_mem_cons.mp low
    have points : codePoints (c :: (s ++ t)) = c.toNat :: codePoints (s ++ t) := by
      cases rest : s ++ t with
      | nil => rfl
      | cons d rest =>
        have single : isHighSurrogate c = false := by
          rw [isHighSurrogate, Bool.and_eq_false_iff]
          exact Or.inl (decide_eq_false (by omega))
        rw [codePoints, single, Bool.false_and, if_neg Bool.false_ne_true]
    intro p member
    rw [List.cons_append, points, List.mem_cons] at member
    rcases member with rfl | member
    · exact Or.inl (by omega)
    · exact ih rest p member

theorem decode_parts {other : JsString → Option Int} {cursor iso id : JsString} {t : Int}
    (decoded : fromUtf8 (fromBase64url cursor) = iso ++ 124 :: id) (noBar : (124 : UInt16) ∉ id)
    (dated : iso ≠ []) (nonempty : id ≠ []) (read : parseDate other iso = some t) :
    decodeFeedCursor other cursor = some ⟨t, ⟨id⟩⟩ := by
  have positive : (0 : Int) < iso.length := Int.natCast_pos.mpr (List.length_pos_of_ne_nil dated)
  have front : (iso ++ 124 :: id).take iso.length = iso := by simp
  have back : (iso ++ 124 :: id).drop (iso.length + 1) = id := by simp
  simp only [decodeFeedCursor, decoded, lastIndexOf_append noBar, gt_iff_lt, positive, ↓reduceIte,
    Int.toNat_natCast, front, back, nonempty, read, Option.map_some]

theorem decode_nil {other : JsString → Option Int} : decodeFeedCursor other [] = none := by
  have read : fromUtf8 (fromBase64url []) = [] := by
    rw [show fromBase64url [] = [] from rfl, fromUtf8]
  simp [decodeFeedCursor, read, lastIndexOf]

theorem parseDate_read {other : JsString → Option Int} {text : JsString} {t : Int}
    (own : readISOString text = some t) (valid : Valid t) : parseDate other text = some t := by
  unfold parseDate
  split
  · rename_i u again
    rw [own] at again
    cases again
    exact valid
  · rename_i none
    rw [own] at none
    cases none

theorem decoded_encode {t : Int} {id : PostId} (valid : Valid t) (wellFormed : WellFormed id.text) :
    fromUtf8 (fromBase64url (encodeFeedCursor t id)) = toISOString t ++ 124 :: id.text := by
  have formed : WellFormed (toISOString t ++ 124 :: id.text) := by
    rw [List.append_cons]
    apply wellFormed_append _ wellFormed
    intro c member
    rcases List.mem_append.mp member with member | member
    · exact (toISOString_low valid c member).trans (by decide)
    · rw [List.mem_singleton.mp member]
      decide
  rw [encodeFeedCursor, fromBase64url_base64url, fromUtf8_utf8 formed]

theorem decode_encode {other : JsString → Option Int} {t : Int} {id : PostId} (valid : Valid t)
    (sound : id.Sound) : decodeFeedCursor other (encodeFeedCursor t id) = some ⟨t, id⟩ := by
  have dated : toISOString t ≠ [] := by simp [toISOString, isoTime]
  have read := readISOString_toISOString (yearOfDay_near (near_day valid))
  exact decode_parts (decoded_encode valid sound.wellFormed) sound.noBar dated sound.nonempty
    (parseDate_read read valid)

/-- An id that is empty, and one with half of a surrogate pair, which `Buffer.from` replaces. -/
theorem decode_encode_unsound :
    decodeFeedCursor (fun _ => none) (encodeFeedCursor 0 ⟨[]⟩) = none ∧
      decodeFeedCursor (fun _ => none) (encodeFeedCursor 0 ⟨[55296]⟩) ≠ some ⟨0, ⟨[55296]⟩⟩ := by
  constructor
  · have decoded := decoded_encode (show Valid 0 from rfl)
      (show WellFormed (PostId.mk []).text from nofun)
    simp only [decodeFeedCursor, decoded, lastIndexOf_append List.not_mem_nil]
    simp
  · have same : encodeFeedCursor 0 ⟨[55296]⟩ = encodeFeedCursor 0 ⟨[65533]⟩ := by decide
    rw [same, decode_encode (show Valid 0 from rfl) (PostId.sound_unit (by decide) (by decide))]
    decide

/-! ## The feed -/

structure CirclePost where
  id : PostId
  createdAt : Int
  status : CirclePostStatus
  expiresAt : Option Int
  circleLinks : List CircleId
  cities : List JsString
  sound : id.Sound
  valid : Valid createdAt

/-- What a call reads; `memberCircles` are those of `memberCircleScope`. -/
structure Tables where
  posts : List CirclePost
  memberCircles : List CircleId
  now : Int

/-- A text with commas, or an array. -/
inductive CommaList
  | text (value : JsString)
  | items (values : List JsString)

structure FeedQuery where
  circleId : Option JsString
  circleIds : Option CommaList
  city : Option JsString
  cities : Option CommaList
  page : Option Nat
  limit : Option Nat
  cursor : Option JsString
  page_min : ∀ n ∈ page, 1 ≤ n
  limit_min : ∀ n ∈ limit, 1 ≤ n

def parseCommaList (value : Option CommaList) (maxItems : Nat) : List JsString :=
  let items := match value with
    | none => []
    | some (.text value) => value.splitOn 44
    | some (.items values) => values
  ((items.map trim).filter (· ≠ [])).take maxItems

def normalizeCities (values : List JsString) : List JsString :=
  ((values.map trim).filter (· ≠ [])).reverse.dedup.reverse

def FeedQuery.cityFilter (query : FeedQuery) : List JsString :=
  let legacyCities := normalizeCities query.city.toList
  if legacyCities ≠ [] then legacyCities else normalizeCities (parseCommaList query.cities 1001)

def activeUnexpiredPostWhere (now : Int) (post : CirclePost) : Bool :=
  post.status = .active && match post.expiresAt with
    | some expiresAt => now < expiresAt
    | none => now - circlePostAutoEndMs < post.createdAt

def linkFilter (feed : Tables) (query : FeedQuery) (circle : CircleId) : Bool :=
  let circleIds := parseCommaList query.circleIds maxFilterItems
  feed.memberCircles.contains circle &&
    if query.circleId.getD [] ≠ [] then query.circleId = some circle
    else circleIds = [] || circleIds.contains circle

def whereBase (feed : Tables) (query : FeedQuery) (post : CirclePost) : Bool :=
  activeUnexpiredPostWhere feed.now post && post.circleLinks.any (linkFilter feed query) &&
    (query.cityFilter = [] || post.cities.any query.cityFilter.contains)

inductive PlazaErrorCode
  | invalidCursor | membershipRequired | cityFilterQuotaReached
  deriving DecidableEq

/-- What `resolveEntitlement` answers. -/
structure Policy where
  level : Nat
  cityFilters : Nat

structure FeedPage where
  items : List CirclePost
  total : Option Nat
  page : Nat
  limit : Nat
  hasMore : Bool
  nextCursor : Option JsString

section

variable [LinearOrder PostId]

def feedCursorWhere (cursor : FeedCursor) (post : CirclePost) : Bool :=
  post.createdAt < cursor.createdAt || (post.createdAt = cursor.createdAt && post.id < cursor.id)

def CirclePost.key (post : CirclePost) : Int ×ₗ PostId := toLex (post.createdAt, post.id)

/-- `findMany` without `skip` and `take`. -/
def matching (feed : Tables) (query : FeedQuery) (cursor : Option FeedCursor) : List CirclePost :=
  (feed.posts.filter fun post => whereBase feed query post && cursor.all (feedCursorWhere · post))
    |>.insertionSort fun a b => b.key ≤ a.key

def feedPage (feed : Tables) (query : FeedQuery) (cursor : Option FeedCursor) : FeedPage :=
  let page := query.page.getD 1
  let limit := query.limit.getD 20
  let useKeyset := cursor.isSome
  let skip := if useKeyset then 0 else (page - 1) * limit
  let found := matching feed query cursor
  let rows := if useKeyset then found.take (limit + 1) else (found.drop skip).take limit
  let total := if useKeyset then none else some found.length
  let hasMore : Bool :=
    if useKeyset then limit < rows.length else skip + rows.length < total.getD 0
  let posts := if useKeyset then rows.take limit else rows
  { items := posts
    total := total
    page := page
    limit := limit
    hasMore := hasMore
    nextCursor := if hasMore then
      posts.getLast?.map fun last => encodeFeedCursor last.createdAt last.id else none }

/-- The cursor of a request, inside `none` for an offset page; outside it is no cursor. -/
def position (other : JsString → Option Int) (cursor : Option JsString) :
    Option (Option FeedCursor) :=
  match cursor with
  | none => some none
  | some cursor => if cursor = [] then some none else (decodeFeedCursor other cursor).map some

def getFeed (other : JsString → Option Int) (feed : Tables) (policy : Policy) (query : FeedQuery) :
    Except PlazaErrorCode FeedPage :=
  match position other query.cursor with
  | none => .error .invalidCursor
  | some cursor =>
    if policy.level = 0 then .error .membershipRequired
    else if query.cityFilter.length > policy.cityFilters then .error .cityFilterQuotaReached
    else .ok (feedPage feed query cursor)

/-! ## A client -/

/-- The feed, and a client: the cursor it asks for next, if it is not done, and what it has
got. -/
structure State where
  feed : Tables
  request : Option (Option JsString)
  returned : List CirclePost

inductive Act
  | create (post : CirclePost)
  | setStatus (id : PostId) (status : CirclePostStatus)
  | elapse (ms : Nat)
  | setMemberCircles (circles : List CircleId)
  | fetch (policy : Policy)

def next (other : JsString → Option Int) (query : FeedQuery) (s : State) : Act → Option State
  | .create post =>
    if post.id ∈ s.feed.posts.map (·.id) then none
    else some { s with feed := { s.feed with posts := s.feed.posts ++ [post] } }
  | .setStatus id status => some { s with feed := { s.feed with
      posts := s.feed.posts.map fun post =>
        if post.id = id then { post with status := status } else post } }
  | .elapse ms => some { s with feed := { s.feed with now := s.feed.now + ms } }
  | .setMemberCircles circles => some { s with feed := { s.feed with memberCircles := circles } }
  | .fetch policy => do
    let request ← s.request
    match getFeed other s.feed policy { query with cursor := request } with
    | .ok page => return { s with
        request := page.nextCursor.map some
        returned := s.returned ++ page.items }
    | .error _ => return s

/-- In the feed below the cursor of a request. -/
def Below (other : JsString → Option Int) (request : Option JsString) (post : CirclePost) : Prop :=
  ∃ cursor, position other request = some cursor ∧ ∀ c ∈ cursor, feedCursorWhere c post = true

def Visible (query : FeedQuery) (s : State) (post : CirclePost) : Prop :=
  post ∈ s.feed.posts ∧ whereBase s.feed query post = true

variable {other : JsString → Option Int} {query : FeedQuery} {feed : Tables}

/-! ## One page -/

theorem feedCursorWhere_iff {cursor : FeedCursor} {post : CirclePost} :
    feedCursorWhere cursor post = true ↔ post.key < toLex (cursor.createdAt, cursor.id) := by
  simp [feedCursorWhere, CirclePost.key, Prod.Lex.toLex_lt_toLex]

theorem mem_matching {cursor : Option FeedCursor} {post : CirclePost} :
    post ∈ matching feed query cursor ↔ post ∈ feed.posts ∧ whereBase feed query post = true ∧
      ∀ c ∈ cursor, feedCursorWhere c post = true := by
  rw [matching, List.mem_insertionSort, List.mem_filter, Bool.and_eq_true, Option.all_eq_true]
  rfl

/-- Newest first; of the same time, the greatest id. -/
theorem matching_sorted (distinct : (feed.posts.map (·.id)).Nodup) (query : FeedQuery)
    (cursor : Option FeedCursor) :
    (matching feed query cursor).Pairwise fun a b => b.key < a.key := by
  have sorted : (matching feed query cursor).Pairwise fun a b => b.key ≤ a.key :=
    List.pairwise_insertionSort _ _
  have apart : (matching feed query cursor).Pairwise fun a b => a.id ≠ b.id := by
    have ids := (List.perm_insertionSort (fun a b : CirclePost => b.key ≤ a.key)
      (feed.posts.filter fun post => whereBase feed query post &&
        cursor.all (feedCursorWhere · post))).map (·.id)
    exact List.pairwise_map.mp (ids.nodup_iff.mpr (distinct.sublist (List.filter_sublist.map _)))
  refine (sorted.and apart).imp fun {a b} ⟨le, ne⟩ => lt_of_le_of_ne le fun same => ne ?_
  exact (congrArg (fun key => (ofLex key).2) same).symm

omit [LinearOrder PostId] in
theorem limit_pos (query : FeedQuery) : 1 ≤ query.limit.getD 20 := by
  cases limit : query.limit with
  | none => decide
  | some n => exact query.limit_min n limit

/-- The first page of the offset path, and any page of the other. -/
theorem feedPage_spec (feed : Tables) {query : FeedQuery} (cursor : Option FeedCursor)
    (first : cursor = none → query.page.getD 1 = 1) :
    (feedPage feed query cursor).items =
        (matching feed query cursor).take (query.limit.getD 20) ∧
      ((feedPage feed query cursor).hasMore = true ↔
        query.limit.getD 20 < (matching feed query cursor).length) := by
  have positive := limit_pos query
  cases cursor with
  | none =>
    simp [feedPage, first rfl]
  | some cursor =>
    simp [feedPage, List.take_take]

theorem nextCursor_eq (cursor : Option FeedCursor) : (feedPage feed query cursor).nextCursor =
    if (feedPage feed query cursor).hasMore then (feedPage feed query cursor).items.getLast?.map
      fun last => encodeFeedCursor last.createdAt last.id else none := rfl

/-- Where the next page goes on. -/
theorem feedPage_next (other : JsString → Option Int) (distinct : (feed.posts.map (·.id)).Nodup)
    {cursor : Option FeedCursor} (first : cursor = none → query.page.getD 1 = 1)
    (more : (feedPage feed query cursor).hasMore = true) :
    ∃ text last, (feedPage feed query cursor).nextCursor = some text ∧
      last ∈ (feedPage feed query cursor).items ∧
      position other (some text) = some (some ⟨last.createdAt, last.id⟩) ∧
      ∀ post ∈ matching feed query cursor,
        post ∈ (feedPage feed query cursor).items ↔ last.key ≤ post.key := by
  obtain ⟨items, hasMore⟩ := feedPage_spec feed cursor first
  have apart (a) (ha : a ∈ matching feed query cursor) (b) (hb : b ∈ matching feed query cursor)
      (same : OrderDual.toDual a.key = OrderDual.toDual b.key) : a = b :=
    List.inj_on_of_nodup_map distinct (mem_matching.mp ha).1 (mem_matching.mp hb).1
      (congrArg (fun key => (ofLex key).2) same)
  obtain ⟨last, -, final, cut⟩ := take_cut (fun post => OrderDual.toDual post.key)
    ((matching_sorted distinct query cursor).imp fun less => le_of_lt less) apart (limit_pos query)
    (hasMore.mp more)
  rw [← items] at final cut
  have text : (feedPage feed query cursor).nextCursor =
      some (encodeFeedCursor last.createdAt last.id) := by
    rw [nextCursor_eq, if_pos more, final]
    rfl
  have decoded := @decode_encode other _ _ last.valid last.sound
  have nonempty : encodeFeedCursor last.createdAt last.id ≠ [] := by
    intro empty
    rw [empty, decode_nil] at decoded
    cases decoded
  refine ⟨_, last, text, List.mem_of_getLast? final, ?_, cut⟩
  simp only [position, if_neg nonempty, decoded, Option.map_some]

/-! ## Runs -/

/-- What a page adds, and the request after it. -/
theorem fetch_cases {s t : State} {policy : Policy}
    (step : next other query s (.fetch policy) = some t) : t = s ∨
      ∃ request cursor, s.request = some request ∧ position other request = some cursor ∧
        t = { s with
          request := (feedPage s.feed query cursor).nextCursor.map some
          returned := s.returned ++ (feedPage s.feed query cursor).items } := by
  cases own : s.request with
  | none => simp [next, own] at step
  | some request =>
    simp only [next, own, getFeed, bind, Option.bind] at step
    cases place : position other request with
    | none =>
      simp only [place] at step
      exact Or.inl (Option.some.inj step).symm
    | some cursor =>
      simp only [place] at step
      split at step
      · rename_i page found
        split at found
        · cases found
        · split at found
          · cases found
          · cases found
            exact Or.inr ⟨request, cursor, rfl, place, (Option.some.inj step).symm⟩
      · exact Or.inl (Option.some.inj step).symm

/-- `returned` is in the order of the feed, and before what the client asks for next. -/
structure Inv (other : JsString → Option Int) (s : State) : Prop where
  distinct : (s.feed.posts.map (·.id)).Nodup
  sorted : s.returned.Pairwise fun a b => b.key < a.key
  known : ∀ r ∈ s.returned, ∃ post ∈ s.feed.posts, post.id = r.id ∧ post.key = r.key
  passed : ∀ request, s.request = some request → ∀ r ∈ s.returned, ¬Below other request r

theorem Below.down {request : Option JsString} {a b : CirclePost} (below : Below other request b)
    (le : a.key ≤ b.key) : Below other request a := by
  obtain ⟨cursor, place, all⟩ := below
  exact ⟨cursor, place, fun c own =>
    feedCursorWhere_iff.mpr (le.trans_lt (feedCursorWhere_iff.mp (all c own)))⟩

theorem Inv.next {s t : State} {act : Act} (inv : Inv other s) (first : query.page.getD 1 = 1)
    (step : next other query s act = some t) : Inv other t := by
  cases act with
  | create post =>
    simp only [Feed.next] at step
    split at step
    · cases step
    · rename_i absent
      cases step
      refine ⟨?_, inv.sorted, fun r member => ?_, inv.passed⟩
      · rw [List.map_append, List.nodup_append]
        refine ⟨inv.distinct, by simp, fun id member other' own same => absent ?_⟩
        have own : other' = post.id := List.mem_singleton.mp own
        exact own ▸ same ▸ member
      · obtain ⟨post, there, same⟩ := inv.known r member
        exact ⟨post, List.mem_append_left _ there, same⟩
  | setStatus id status =>
    cases step
    refine ⟨?_, inv.sorted, fun r member => ?_, inv.passed⟩
    · have ids (post : CirclePost) :
          (if post.id = id then { post with status := status } else post).id = post.id := by
        split <;> rfl
      simpa only [List.map_map, Function.comp_def, ids] using inv.distinct
    · obtain ⟨post, there, same⟩ := inv.known r member
      refine ⟨_, List.mem_map_of_mem there, ?_⟩
      split
      · exact same
      · exact same
  | elapse ms =>
    cases step
    exact ⟨inv.distinct, inv.sorted, inv.known, inv.passed⟩
  | setMemberCircles circles =>
    cases step
    exact ⟨inv.distinct, inv.sorted, inv.known, inv.passed⟩
  | fetch policy =>
    obtain rfl | ⟨request, cursor, own, place, rfl⟩ := fetch_cases step
    · exact inv
    · have items := (feedPage_spec s.feed cursor fun _ => first).1
      have sorted := matching_sorted inv.distinct query cursor
      have found {post : CirclePost} (member : post ∈ (feedPage s.feed query cursor).items) :
          post ∈ matching s.feed query cursor := by
        rw [items] at member
        exact List.mem_of_mem_take member
      have below {post : CirclePost} (member : post ∈ (feedPage s.feed query cursor).items) :
          Below other request post :=
        ⟨cursor, place, (mem_matching.mp (found member)).2.2⟩
      have apart (r : CirclePost) (before : r ∈ s.returned) (post : CirclePost)
          (after : post ∈ (feedPage s.feed query cursor).items) : post.key < r.key := by
        by_contra up
        exact inv.passed request own r before ((below after).down (not_lt.mp up))
      refine ⟨inv.distinct, ?_, fun r member => ?_, fun request' later r member again => ?_⟩
      · rw [List.pairwise_append]
        refine ⟨inv.sorted, ?_, apart⟩
        rw [items]
        exact sorted.sublist (List.take_sublist _ _)
      · rcases List.mem_append.mp member with before | after
        · exact inv.known r before
        · exact ⟨r, (mem_matching.mp (found after)).1, rfl, rfl⟩
      · cases more : (feedPage s.feed query cursor).hasMore with
        | false =>
          have stop : (feedPage s.feed query cursor).nextCursor = none := by
            rw [nextCursor_eq, more]
            rfl
          rw [stop] at later
          cases later
        | true =>
          obtain ⟨text, last, follow, inside, next, cut⟩ :=
            feedPage_next other inv.distinct (fun _ => first) more
          rw [follow] at later
          cases later
          obtain ⟨cursor', place', all⟩ := again
          rw [next] at place'
          cases place'
          have less := feedCursorWhere_iff.mp (all _ rfl)
          rcases List.mem_append.mp member with before | after
          · exact lt_asymm less (apart r before last inside)
          · exact not_le_of_gt less ((cut r (found after)).mp after)

/-- A post that stays is returned, or still comes. -/
theorem fetch_reaches {s t : State} {act : Act} {post : CirclePost} (inv : Inv other s)
    (first : query.page.getD 1 = 1) (step : next other query s act = some t)
    (stays : Visible query s post)
    (waits : post ∈ s.returned ∨ ∃ request, s.request = some request ∧ Below other request post) :
    post ∈ t.returned ∨ ∃ request, t.request = some request ∧ Below other request post := by
  cases act with
  | create own =>
    simp only [Feed.next] at step
    split at step
    · cases step
    · cases step
      exact waits
  | setStatus id status =>
    cases step
    exact waits
  | elapse ms =>
    cases step
    exact waits
  | setMemberCircles circles =>
    cases step
    exact waits
  | fetch policy =>
    obtain rfl | ⟨request, cursor, own, place, rfl⟩ := fetch_cases step
    · exact waits
    · rcases waits with before | ⟨request', own', cursor', place', all⟩
      · exact Or.inl (List.mem_append_left _ before)
      · rw [own] at own'
        cases own'
        rw [place] at place'
        cases place'
        have member := mem_matching.mpr ⟨stays.1, stays.2, all⟩
        obtain ⟨items, hasMore⟩ := feedPage_spec s.feed cursor fun _ => first
        by_cases more : (feedPage s.feed query cursor).hasMore = true
        · obtain ⟨text, last, follow, inside, next, cut⟩ :=
            feedPage_next other inv.distinct (fun _ => first) more
          by_cases up : last.key ≤ post.key
          · exact Or.inl (List.mem_append_right _ ((cut post member).mpr up))
          · refine Or.inr ⟨some text, by rw [follow]; rfl, _, next, fun c same => ?_⟩
            cases same
            exact feedCursorWhere_iff.mpr (not_le.mp up)
        · have short := Nat.not_lt.mp (mt hasMore.mpr more)
          rw [← List.take_of_length_le short, ← items] at member
          exact Or.inl (List.mem_append_right _ member)

/-- Nothing is returned twice, and what stays is returned. Posts may also be created below the
cursor. -/
theorem getFeed_enumerates {s t : State} {acts : List Act}
    (distinct : (s.feed.posts.map (·.id)).Nodup) (fresh : s.returned = [])
    (first : query.page.getD 1 = 1)
    (run : Run (fun s act t => next other query s act = some t) s acts t) :
    (∀ post : CirclePost, decodeFeedCursor other (encodeFeedCursor post.createdAt post.id) =
        some ⟨post.createdAt, post.id⟩) ∧
      t.returned.Pairwise (fun a b => feedCursorWhere ⟨a.createdAt, a.id⟩ b = true) ∧
      (t.returned.map (·.id)).Nodup ∧
      (∀ request post, s.request = some request → Below other request post →
        Visible query s post →
        Run (fun s act t => next other query s act = some t ∧ Visible query t post) s acts t →
        (t.request = none → post ∈ t.returned) ∧
          (post ∈ t.returned ∨ ∃ request, t.request = some request ∧ Below other request post)) ∧
      ∀ request policy page, t.request = some request →
        getFeed other t.feed policy { query with cursor := request } = .ok page →
        page.hasMore = false → ∀ post, Visible query t post → Below other request post →
          post ∈ page.items := by
  have start : Inv other s := ⟨distinct, by simp [fresh], by simp [fresh], by simp [fresh]⟩
  have inv : Inv other t := run.preserves (fun _ _ _ step inv => inv.next first step) start
  refine ⟨fun post => decode_encode post.valid post.sound, ?_, ?_, ?_, ?_⟩
  · exact inv.sorted.imp fun less => feedCursorWhere_iff.mpr less
  · rw [List.Nodup, List.pairwise_map]
    refine List.Pairwise.imp_of_mem ?_ inv.sorted
    intro a b ha hb less same
    obtain ⟨p, hp, pid, pkey⟩ := inv.known a ha
    obtain ⟨q, hq, qid, qkey⟩ := inv.known b hb
    have ids := pid.trans (same.trans qid.symm)
    have own : p = q := List.inj_on_of_nodup_map inv.distinct hp hq ids
    rw [← pkey, ← qkey, own] at less
    exact lt_irrefl _ less
  · intro request post asked below visible stays
    have reached : (Inv other t ∧ Visible query t post) ∧ (post ∈ t.returned ∨
        ∃ request, t.request = some request ∧ Below other request post) := by
      refine stays.preserves (P := fun u => (Inv other u ∧ Visible query u post) ∧
        (post ∈ u.returned ∨ ∃ request, u.request = some request ∧ Below other request post))
        ?_ ⟨⟨start, visible⟩, Or.inr ⟨request, asked, below⟩⟩
      rintro u act v ⟨step, later⟩ ⟨⟨inv, now⟩, waits⟩
      exact ⟨⟨inv.next first step, later⟩, fetch_reaches inv first step now waits⟩
    refine ⟨fun done => ?_, reached.2⟩
    rcases reached.2 with returned | ⟨request, more, -⟩
    · exact returned
    · rw [done] at more
      cases more
  · intro request policy page asked answer last post visible ⟨cursor, place, all⟩
    simp only [getFeed, place] at answer
    split at answer
    · cases answer
    · split at answer
      · cases answer
      · cases answer
        obtain ⟨items, hasMore⟩ := feedPage_spec t.feed cursor fun _ => first
        have short := Nat.not_lt.mp (mt hasMore.mpr (Bool.eq_false_iff.mp last))
        have member := mem_matching.mpr ⟨visible.1, visible.2, all⟩
        rw [← List.take_of_length_le short, ← items] at member
        exact member

end

/-- By the units of the text. -/
instance : LinearOrder PostId :=
  LinearOrder.lift' (fun id => id.text.map UInt16.toNat) fun a b same => by
    ext1
    exact List.map_injective_iff.mpr (fun _ _ => UInt16.toNat.inj) same

/-- A post of one time, in the only circle. -/
def tied (c : UInt16) (noBar : 124 ≠ c) (scalar : Scalar c.toNat) : CirclePost where
  id := ⟨[c]⟩
  createdAt := 5
  status := .active
  expiresAt := none
  circleLinks := [[67]]
  cities := []
  sound := PostId.sound_unit noBar scalar
  valid := rfl

def opened : State where
  feed := { posts := [tied 97 (by decide) (by decide), tied 98 (by decide) (by decide)]
            memberCircles := [[67]], now := 6 }
  request := some none
  returned := []

def single : FeedQuery where
  circleId := none
  circleIds := none
  city := none
  cities := none
  page := none
  limit := some 1
  cursor := none
  page_min := nofun
  limit_min := fun _ own => (Option.some.inj own).le

theorem getFeed_enumerates_tied :
    ∃ s, next (fun _ => none) single opened (.fetch ⟨1, 0⟩) = some s ∧
      s.returned.map (·.id.text) = [[98]] ∧ (s.returned.map (·.id)).Nodup := by
  have step : next (fun _ => none) single opened (.fetch ⟨1, 0⟩) = some _ := rfl
  exact ⟨_, step, by decide, (getFeed_enumerates (by decide) rfl rfl (Run.single step)).2.2.1⟩

end CircleBackend.Plaza.Feed
