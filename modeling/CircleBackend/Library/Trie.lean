import Mathlib.Data.List.Infix
import Mathlib.Logic.Function.Basic

/-!
# Tries

A trie that keeps an answer at the end of a key. `firstFrom` walks along a text and stops
at the first answer; `firstMatch` tries every position in turn.

* `lookup_insert`: what an insertion changes;
* `firstMatch_none`: nothing is found where no key that has an answer is an infix;
* `firstMatch_some`: what is found is of the shortest key at the leftmost position.
-/

namespace CircleBackend.Library

inductive Trie (α β : Type)
  | absent
  | node (answer : Option β) (children : α → Trie α β)

namespace Trie

variable {α β : Type}

def empty : Trie α β := .node none fun _ => .absent

def answer : Trie α β → Option β
  | .absent => none
  | .node answer _ => answer

def child : Trie α β → α → Trie α β
  | .absent, _ => .absent
  | .node _ children, a => children a

def insert [DecidableEq α] (t : Trie α β) (key : List α) (b : β) : Trie α β :=
  match key with
  | [] => .node (some b) t.child
  | a :: key => .node t.answer (Function.update t.child a ((t.child a).insert key b))

def lookup (t : Trie α β) : List α → Option β
  | [] => t.answer
  | a :: key => (t.child a).lookup key

/-- The answer of the shortest key, not the empty one, that the text begins with. -/
def firstFrom (t : Trie α β) : List α → Option β
  | [] => none
  | a :: text =>
    match t.child a with
    | .absent => none
    | .node (some b) _ => some b
    | .node none children => firstFrom (.node none children) text

def firstMatch (t : Trie α β) : List α → Option β
  | [] => none
  | a :: text => (t.firstFrom (a :: text)).or (t.firstMatch text)

variable {t : Trie α β} {key text : List α} {b : β}

@[simp] theorem lookup_absent (key : List α) : (absent : Trie α β).lookup key = none := by
  induction key with
  | nil => rfl
  | cons a key ih => exact ih

@[simp] theorem lookup_empty (key : List α) : (empty : Trie α β).lookup key = none := by
  cases key with
  | nil => rfl
  | cons a key => exact lookup_absent key

theorem lookup_insert [DecidableEq α] (t : Trie α β) (key other : List α) (b : β) :
    (t.insert key b).lookup other = if other = key then some b else t.lookup other := by
  induction key generalizing t other with
  | nil =>
    cases other with
    | nil => rfl
    | cons a other =>
      rw [if_neg (List.cons_ne_nil a other)]
      rfl
  | cons a key ih =>
    cases other with
    | nil =>
      rw [if_neg (List.cons_ne_nil a key).symm]
      rfl
    | cons c other =>
      show (Function.update t.child a ((t.child a).insert key b) c).lookup other = _
      by_cases same : c = a
      · subst same
        rw [Function.update_self, ih]
        simp [lookup]
      · rw [Function.update_of_ne same, if_neg]
        · rfl
        · intro equal
          exact same (List.cons.inj equal).1

/-- Nothing is found where no prefix has an answer. -/
theorem firstFrom_none : t.firstFrom text = none ↔
    ∀ key, key ≠ [] → key <+: text → t.lookup key = none := by
  induction text generalizing t with
  | nil =>
    refine iff_of_true rfl ?_
    intro key some' before
    exact absurd (List.prefix_nil.mp before) some'
  | cons a text ih =>
    have first : [a] <+: a :: text := ⟨text, rfl⟩
    unfold firstFrom
    split
    case h_1 gone =>
      refine iff_of_true rfl ?_
      intro key some' before
      cases key with
      | nil => exact absurd rfl some'
      | cons c key =>
        obtain ⟨rfl, -⟩ := List.cons_prefix_cons.mp before
        show (t.child c).lookup key = none
        rw [gone, lookup_absent]
    case h_2 b children here =>
      refine iff_of_false (fun h => by cases h) ?_
      intro none'
      have shown : (t.child a).answer = none := none' [a] (List.cons_ne_nil a []) first
      rw [here] at shown
      cases shown
    case h_3 children here =>
      rw [ih]
      constructor
      · intro none' key some' before
        cases key with
        | nil => exact absurd rfl some'
        | cons c key =>
          obtain ⟨rfl, rest⟩ := List.cons_prefix_cons.mp before
          show (t.child c).lookup key = none
          rw [here]
          by_cases empty : key = []
          · rw [empty]
            rfl
          · exact none' key empty rest
      · intro none' key _ before
        rw [← here]
        exact none' (a :: key) (List.cons_ne_nil a key) (List.cons_prefix_cons.mpr ⟨rfl, before⟩)

/-- What is found is of a prefix, and no shorter one has an answer. -/
theorem firstFrom_some (h : t.firstFrom text = some b) :
    ∃ key, key ≠ [] ∧ key <+: text ∧ t.lookup key = some b ∧
      ∀ shorter, shorter ≠ [] → shorter <+: text → t.lookup shorter ≠ none →
        key.length ≤ shorter.length := by
  induction text generalizing t with
  | nil => cases h
  | cons a text ih =>
    unfold firstFrom at h
    split at h
    case h_1 => cases h
    case h_2 b' children here =>
      cases h
      refine ⟨[a], List.cons_ne_nil a [], ⟨text, rfl⟩, ?_, ?_⟩
      · show (t.child a).answer = some b
        rw [here]
        rfl
      · intro shorter some' _ _
        exact List.length_pos_iff.mpr some'
    case h_3 children here =>
      obtain ⟨key, -, before, found, least⟩ := ih h
      refine ⟨a :: key, List.cons_ne_nil a key, List.cons_prefix_cons.mpr ⟨rfl, before⟩, ?_, ?_⟩
      · show (t.child a).lookup key = some b
        rw [here, found]
      · intro shorter some' before' answers
        cases shorter with
        | nil => exact absurd rfl some'
        | cons c shorter =>
          obtain ⟨rfl, rest⟩ := List.cons_prefix_cons.mp before'
          have answers : (t.child c).lookup shorter ≠ none := answers
          rw [here] at answers
          have empty : shorter ≠ [] := by
            rintro rfl
            exact answers rfl
          exact Nat.succ_le_succ (least shorter empty rest answers)

theorem firstMatch_none : t.firstMatch text = none ↔
    ∀ key, key ≠ [] → key <:+: text → t.lookup key = none := by
  induction text with
  | nil =>
    refine iff_of_true rfl ?_
    intro key some' inside
    exact absurd (List.infix_nil.mp inside) some'
  | cons a text ih =>
    unfold firstMatch
    rw [Option.or_eq_none_iff, firstFrom_none, ih]
    constructor
    · rintro ⟨here, later⟩ key some' inside
      rcases List.infix_cons_iff.mp inside with before | inside
      · exact here key some' before
      · exact later key some' inside
    · intro none'
      constructor
      · exact fun key some' before => none' key some' before.isInfix
      · exact fun key some' inside => none' key some' (List.infix_cons inside)

theorem firstMatch_some (h : t.firstMatch text = some b) :
    ∃ before key after, text = before ++ key ++ after ∧ key ≠ [] ∧ t.lookup key = some b ∧
      ∀ before' key' after', text = before' ++ key' ++ after' → key' ≠ [] →
        t.lookup key' ≠ none → before.length < before'.length ∨
          before.length = before'.length ∧ key.length ≤ key'.length := by
  induction text with
  | nil => cases h
  | cons a text ih =>
    unfold firstMatch at h
    rcases Option.or_eq_some_iff.mp h with here | ⟨nowhere, later⟩
    · obtain ⟨key, some', ⟨after, split⟩, found, least⟩ := firstFrom_some here
      refine ⟨[], key, after, split.symm, some', found, ?_⟩
      intro before' key' after' split' some'' answers
      cases before' with
      | nil => exact .inr ⟨rfl, least key' some'' ⟨after', split'.symm⟩ answers⟩
      | cons c before' => exact .inl (Nat.succ_pos _)
    · obtain ⟨before, key, after, split, some', found, first⟩ := ih later
      refine ⟨a :: before, key, after, ?_, some', found, ?_⟩
      · rw [split]
        rfl
      · intro before' key' after' split' some'' answers
        cases before' with
        | nil =>
          have none' := firstFrom_none.mp nowhere key' some'' ⟨after', split'.symm⟩
          exact absurd none' answers
        | cons c before' =>
          have split' : text = before' ++ key' ++ after' := (List.cons.inj split').2
          rcases first before' key' after' split' some'' answers with less | ⟨same, less⟩
          · exact .inl (Nat.succ_lt_succ less)
          · exact .inr ⟨congrArg Nat.succ same, less⟩

end Trie

end CircleBackend.Library
