import Mathlib.Data.List.Induction
import Mathlib.Data.List.Perm.Basic

/-!
# Grouping by a key

The elements of a list under their keys, keys in the order in which they come first.
Nothing is lost or doubled (`grouped_perm`).
-/

namespace CircleBackend.Library

variable {α κ : Type} [DecidableEq κ] (key : α → κ)

def addToGroup (a : α) : List (κ × List α) → List (κ × List α)
  | [] => [(key a, [a])]
  | (k, members) :: rest =>
    if k = key a then (k, members ++ [a]) :: rest else (k, members) :: addToGroup a rest

def grouped (l : List α) : List (κ × List α) :=
  l.foldl (fun groups a => addToGroup key a groups) []

variable {key}

theorem addToGroup_perm (a : α) (groups : List (κ × List α)) :
    ((addToGroup key a groups).flatMap Prod.snd).Perm (groups.flatMap Prod.snd ++ [a]) := by
  induction groups with
  | nil => exact .refl _
  | cons group rest ih =>
    obtain ⟨k, members⟩ := group
    unfold addToGroup
    split
    · simp only [List.flatMap_cons, List.append_assoc]
      exact List.Perm.append_left members List.perm_append_comm
    · simp only [List.flatMap_cons, List.append_assoc]
      exact List.Perm.append_left members ih

theorem addToGroup_key {a : α} {groups : List (κ × List α)}
    (keyed : ∀ g ∈ groups, ∀ b ∈ g.2, key b = g.1) :
    ∀ g ∈ addToGroup key a groups, ∀ b ∈ g.2, key b = g.1 := by
  induction groups with
  | nil => simp [addToGroup]
  | cons group rest ih =>
    obtain ⟨k, members⟩ := group
    have own := keyed (k, members) List.mem_cons_self
    have others : ∀ g ∈ rest, ∀ b ∈ g.2, key b = g.1 := fun g member =>
      keyed g (List.mem_cons_of_mem _ member)
    unfold addToGroup
    split
    · rename_i same
      intro g member b inside
      rcases List.mem_cons.mp member with rfl | later
      · rcases List.mem_append.mp inside with old | new
        · exact own b old
        · rw [List.mem_singleton.mp new]
          exact same.symm
      · exact others g later b inside
    · intro g member
      rcases List.mem_cons.mp member with rfl | later
      · exact own
      · exact ih others g later

theorem grouped_concat (l : List α) (a : α) :
    grouped key (l ++ [a]) = addToGroup key a (grouped key l) := by
  simp [grouped]

theorem grouped_perm (l : List α) : ((grouped key l).flatMap Prod.snd).Perm l := by
  induction l using List.reverseRecOn with
  | nil => exact .refl _
  | append_singleton l a ih =>
    rw [grouped_concat]
    exact (addToGroup_perm a _).trans (ih.append_right [a])

theorem grouped_key (l : List α) : ∀ g ∈ grouped key l, ∀ b ∈ g.2, key b = g.1 := by
  induction l using List.reverseRecOn with
  | nil => simp [grouped]
  | append_singleton l a ih =>
    rw [grouped_concat]
    exact addToGroup_key ih

end CircleBackend.Library
