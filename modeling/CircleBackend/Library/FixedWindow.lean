import Mathlib.Data.List.Perm.Subperm
import Mathlib.Logic.Function.Basic

/-!
# Counters in fixed windows

Hits are counted by key until the window of the key ends. What was counted is remembered with
the count it gave.

* `Sound.few`: in a window no more than `n` hits give `n` or less;
* `Sound.kept`: a count is no less than the hits of its window, less what was taken off.
-/

namespace CircleBackend.Library

/-- `taken` is what had been taken off in the window. -/
structure Hit (κ : Type) where
  caller : Option Nat
  key : κ
  window : Nat
  taken : Nat
  hits : Nat
  deriving DecidableEq

structure Counter (κ : Type) where
  hits : κ → Nat
  window : κ → Nat
  taken : κ → Nat
  given : List (Hit κ)

namespace Counter

variable {κ : Type} [DecidableEq κ]

def empty : Counter κ where
  hits _ := 0
  window _ := 0
  taken _ := 0
  given := []

def increment (c : Counter κ) (caller : Option Nat) (key : κ) : Counter κ :=
  { c with
    hits := Function.update c.hits key (c.hits key + 1)
    given := c.given ++ [{ caller := caller, key := key, window := c.window key
                           taken := c.taken key, hits := c.hits key + 1 }] }

def decrement (c : Counter κ) (key : κ) : Counter κ :=
  { c with
    hits := Function.update c.hits key (c.hits key - 1)
    taken := Function.update c.taken key (c.taken key + 1) }

/-- The window ends, or the key is reset. -/
def restart (c : Counter κ) (key : κ) : Counter κ :=
  { c with
    hits := Function.update c.hits key 0
    window := Function.update c.window key (c.window key + 1)
    taken := Function.update c.taken key 0 }

/-- The hits that count. -/
def counted (c : Counter κ) (key : κ) : Nat :=
  c.given.countP fun h => h.key = key ∧ h.window = c.window key

/-- Between two hits of which nothing was taken off. -/
def Together (a b : Hit κ) : Prop := a.key = b.key ∧ a.window = b.window ∧ a.taken = b.taken

structure Sound (c : Counter κ) : Prop where
  apart : c.given.Pairwise fun a b => Together a b → a.hits ≠ b.hits
  positive : ∀ h ∈ c.given, 0 < h.hits
  past : ∀ h ∈ c.given, h.window ≤ c.window h.key
  present : ∀ h ∈ c.given, h.window = c.window h.key → h.taken ≤ c.taken h.key ∧
    (h.taken = c.taken h.key → h.hits ≤ c.hits h.key)
  kept : ∀ key, c.counted key ≤ c.hits key + c.taken key

variable {c : Counter κ}

theorem empty_sound : (empty : Counter κ).Sound :=
  ⟨List.Pairwise.nil, nofun, nofun, nofun, fun _ => Nat.le_refl 0⟩

theorem Sound.increment (sound : c.Sound) (caller : Option Nat) (key : κ) :
    (c.increment caller key).Sound := by
  refine ⟨?_, ?_, ?_, ?_, fun other => ?_⟩
  · refine List.pairwise_append.mpr ⟨sound.apart, List.pairwise_singleton .., ?_⟩
    intro a ha b hb ⟨sameKey, sameWindow, sameTaken⟩
    rw [List.mem_singleton.mp hb] at sameKey sameWindow sameTaken ⊢
    subst sameKey
    have below := (sound.present a ha sameWindow).2 sameTaken
    exact Nat.ne_of_lt (Nat.lt_succ_of_le below)
  · exact List.forall_mem_append.mpr ⟨sound.positive, by simp⟩
  · exact List.forall_mem_append.mpr ⟨sound.past, by simp [Counter.increment]⟩
  · refine List.forall_mem_append.mpr ⟨fun h member now => ?_, by simp [Counter.increment]⟩
    obtain ⟨taken, hits⟩ := sound.present h member now
    refine ⟨taken, fun same => Nat.le_trans (hits same) ?_⟩
    simp only [Counter.increment, Function.update_apply]
    split
    · rename_i own
      rw [own]
      omega
    · exact Nat.le_refl _
  · have kept := sound.kept other
    simp only [counted, Counter.increment, List.countP_append, List.countP_singleton,
      Function.update_apply] at kept ⊢
    by_cases own : other = key
    · subst own
      simp only [and_self, decide_true, ↓reduceIte]
      rw [Nat.add_right_comm]
      exact Nat.succ_le_succ kept
    · simp only [Ne.symm own, own, false_and, decide_false, Bool.false_eq_true, ↓reduceIte]
      exact kept

theorem Sound.decrement (sound : c.Sound) (key : κ) : (c.decrement key).Sound := by
  refine ⟨sound.apart, sound.positive, sound.past, fun h member now => ?_, fun other => ?_⟩
  · obtain ⟨taken, hits⟩ := sound.present h member now
    simp only [Counter.decrement, Function.update_apply]
    split
    · rename_i own
      rw [own] at taken
      omega
    · exact ⟨taken, hits⟩
  · have kept : c.counted other ≤ _ := sound.kept other
    change c.counted other ≤ _
    simp only [Counter.decrement, Function.update_apply]
    split
    · rename_i own
      rw [own] at kept ⊢
      omega
    · exact kept

theorem Sound.restart (sound : c.Sound) (key : κ) : (c.restart key).Sound := by
  have past (h : Hit κ) (member : h ∈ c.given) (own : h.key = key) : h.window ≤ c.window key :=
    own ▸ sound.past h member
  refine ⟨sound.apart, sound.positive, fun h member => ?_, fun h member => ?_, fun other => ?_⟩
  · have old := sound.past h member
    simp only [Counter.restart, Function.update_apply]
    split
    · rename_i own
      rw [own] at old
      omega
    · exact old
  · simp only [Counter.restart, Function.update_apply]
    split
    · rename_i own
      have old := past h member own
      omega
    · exact sound.present h member
  · have kept := sound.kept other
    simp only [counted, Counter.restart, Function.update_apply] at kept ⊢
    split
    · rename_i own
      rw [Nat.le_zero, List.countP_eq_zero]
      intro h member same
      obtain ⟨sameKey, now⟩ := of_decide_eq_true same
      have old := past h member (sameKey.trans own)
      omega
    · exact kept

/-- The caller was counted in a window before anything was taken off, and told `n`. -/
def Told (c : Counter κ) (caller : Nat) (key : κ) (window n : Nat) : Prop :=
  ∃ h ∈ c.given, h.caller = some caller ∧ h.key = key ∧ h.window = window ∧ h.taken = 0 ∧ h.hits = n

instance (c : Counter κ) (caller : Nat) (key : κ) (window n : Nat) :
    Decidable (c.Told caller key window n) :=
  inferInstanceAs (Decidable (∃ h ∈ c.given, _))

theorem Sound.few (sound : c.Sound) {key : κ} {window n : Nat} {callers : List Nat}
    (distinct : callers.Nodup) (told : ∀ caller ∈ callers, ∃ m ≤ n, c.Told caller key window m) :
    callers.length ≤ n := by
  obtain ⟨few, same⟩ : ∃ few, few = c.given.filter fun h =>
    h.key = key ∧ h.window = window ∧ h.taken = 0 ∧ h.hits ≤ n := ⟨_, rfl⟩
  have chosen (h : Hit κ) (member : h ∈ few) :
      h ∈ c.given ∧ h.key = key ∧ h.window = window ∧ h.taken = 0 ∧ h.hits ≤ n := by
    rw [same, List.mem_filter] at member
    exact ⟨member.1, of_decide_eq_true member.2⟩
  have inside : callers ⊆ few.filterMap (·.caller) := by
    intro caller member
    obtain ⟨m, low, h, given, own, hkey, hwindow, htaken, hits⟩ := told caller member
    refine List.mem_filterMap.mpr ⟨h, ?_, own⟩
    rw [same, List.mem_filter]
    exact ⟨given, decide_eq_true ⟨hkey, hwindow, htaken, hits ▸ low⟩⟩
  have apart : (few.map (·.hits)).Nodup := by
    rw [List.Nodup, List.pairwise_map]
    refine List.Pairwise.imp_of_mem ?_ (same ▸ sound.apart.sublist List.filter_sublist)
    intro a b ha hb less
    obtain ⟨-, akey, awindow, ataken, -⟩ := chosen a ha
    obtain ⟨-, bkey, bwindow, btaken, -⟩ := chosen b hb
    exact less ⟨akey.trans bkey.symm, awindow.trans bwindow.symm, ataken.trans btaken.symm⟩
  have bounded : few.map (·.hits) ⊆ List.range' 1 n := by
    intro m member
    obtain ⟨h, inFew, rfl⟩ := List.mem_map.mp member
    obtain ⟨given, -, -, -, low⟩ := chosen h inFew
    have positive := sound.positive h given
    rw [List.mem_range'_1]
    omega
  calc callers.length ≤ (few.filterMap (·.caller)).length :=
        (List.subperm_of_subset distinct inside).length_le
    _ ≤ few.length := List.length_filterMap_le ..
    _ = (few.map (·.hits)).length := (List.length_map _).symm
    _ ≤ (List.range' 1 n).length := (List.subperm_of_subset apart bounded).length_le
    _ = n := List.length_range'

end Counter

end CircleBackend.Library
