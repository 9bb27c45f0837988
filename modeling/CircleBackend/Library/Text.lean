import CircleBackend.Js

/-!
# Texts

A string as its code points and as its UTF-8 bytes, and where a part of it ends.
-/

namespace CircleBackend.Library

abbrev CodePoint := Nat

def isHighSurrogate (c : UInt16) : Bool := 55296 ≤ c.toNat && c.toNat < 56320
def isLowSurrogate (c : UInt16) : Bool := 56320 ≤ c.toNat && c.toNat < 57344

/-- `Array.from`; a surrogate without its other half stands for itself. -/
def codePoints : JsString → List CodePoint
  | [] => []
  | [a] => [a.toNat]
  | a :: b :: rest =>
    if isHighSurrogate a && isLowSurrogate b then
      (65536 + (a.toNat - 55296) * 1024 + (b.toNat - 56320)) :: codePoints rest
    else a.toNat :: codePoints (b :: rest)

def units (p : Nat) : JsString :=
  if 65536 ≤ p then
    [(55296 + (p - 65536) / 1024).toUInt16, (56320 + (p - 65536) % 1024).toUInt16]
  else [p.toUInt16]

def fromCodePoints (points : List CodePoint) : JsString := points.flatMap units

theorem units_unit (a : UInt16) : units a.toNat = [a] := by
  have small : a.toNat < 65536 := a.toNat_lt
  unfold units
  rw [if_neg (Nat.not_le.mpr small)]
  simp

theorem units_pair {a b : UInt16} (pair : (isHighSurrogate a && isLowSurrogate b) = true) :
    units (65536 + (a.toNat - 55296) * 1024 + (b.toNat - 56320)) = [a, b] := by
  simp only [isHighSurrogate, isLowSurrogate, Bool.and_eq_true, decide_eq_true_eq] at pair
  obtain ⟨⟨highLow, highTop⟩, lowLow, lowTop⟩ := pair
  have big : 65536 ≤ 65536 + (a.toNat - 55296) * 1024 + (b.toNat - 56320) := by omega
  unfold units
  rw [if_pos big]
  have high : 55296 + (65536 + (a.toNat - 55296) * 1024 + (b.toNat - 56320) - 65536) / 1024 =
      a.toNat := by omega
  have low : 56320 + (65536 + (a.toNat - 55296) * 1024 + (b.toNat - 56320) - 65536) % 1024 =
      b.toNat := by omega
  rw [high, low]
  simp

theorem fromCodePoints_codePoints (s : JsString) : fromCodePoints (codePoints s) = s := by
  induction s using codePoints.induct with
  | case1 => rfl
  | case2 a => simp [codePoints, fromCodePoints, units_unit]
  | case3 a b rest pair ih =>
    rw [codePoints, if_pos pair, fromCodePoints, List.flatMap_cons, units_pair pair]
    exact congrArg (a :: b :: ·) ih
  | case4 a b rest single ih =>
    rw [codePoints, if_neg single, fromCodePoints, List.flatMap_cons, units_unit]
    exact congrArg (a :: ·) ih

theorem codePoints_inj {s t : JsString} (same : codePoints s = codePoints t) : s = t := by
  rw [← fromCodePoints_codePoints s, same, fromCodePoints_codePoints]

theorem codePoints_nil {s : JsString} : codePoints s = [] ↔ s = [] :=
  ⟨fun empty => codePoints_inj empty, fun empty => by rw [empty]; rfl⟩

/-- The UTF-8 bytes of a code point; a lone surrogate is written as U+FFFD. -/
def utf8Point (p : Nat) : List (BitVec 8) :=
  let q := if 55296 ≤ p ∧ p < 57344 then 65533 else p
  if q < 128 then [BitVec.ofNat 8 q]
  else if q < 2048 then [BitVec.ofNat 8 (192 + q / 64), BitVec.ofNat 8 (128 + q % 64)]
  else if q < 65536 then
    [BitVec.ofNat 8 (224 + q / 4096), BitVec.ofNat 8 (128 + q / 64 % 64),
      BitVec.ofNat 8 (128 + q % 64)]
  else
    [BitVec.ofNat 8 (240 + q / 262144), BitVec.ofNat 8 (128 + q / 4096 % 64),
      BitVec.ofNat 8 (128 + q / 64 % 64), BitVec.ofNat 8 (128 + q % 64)]

/-- `Buffer.from` of a string. -/
def utf8 (s : JsString) : List (BitVec 8) := (codePoints s).flatMap utf8Point

/-- A part of one class ends at the first unit of another. -/
theorem span_unique {α : Type} {p : α → Prop} {a a' b b' : List α}
    (own : ∀ x ∈ a, p x) (own' : ∀ x ∈ a', p x) (stop : ∀ x ∈ b.head?, ¬p x)
    (stop' : ∀ x ∈ b'.head?, ¬p x) (same : a ++ b = a' ++ b') : a = a' ∧ b = b' := by
  induction a generalizing a' with
  | nil =>
    cases a' with
    | nil => exact ⟨rfl, same⟩
    | cons x a' =>
      rw [List.nil_append] at same
      exact absurd (own' x List.mem_cons_self) (stop x (by rw [same]; rfl))
  | cons x a ih =>
    cases a' with
    | nil =>
      rw [List.nil_append] at same
      exact absurd (own x List.mem_cons_self) (stop' x (by rw [← same]; rfl))
    | cons y a' =>
      obtain ⟨head, tail⟩ := List.cons.inj same
      obtain ⟨parts, rest⟩ := ih (fun z member => own z (List.mem_cons_of_mem _ member))
        (fun z member => own' z (List.mem_cons_of_mem _ member)) tail
      exact ⟨by rw [head, parts], rest⟩

/-- `join(',')` -/
def join : List JsString → JsString
  | [] => []
  | t :: rest => t ++ rest.flatMap fun u => 44 :: u

/-- Where a value may end: `,`, `]` and `}`. -/
def Stops (s : JsString) : Prop := ∀ c ∈ s.head?, c = 44 ∨ c = 93 ∨ c = 125

section Join

variable {α β : Type} {write : α → JsString} {mean : α → β} {close : UInt16}

/-- Every one of the texts tells what it means and where it ends. -/
def Told (write : α → JsString) (mean : α → β) (xs ys : List α) : Prop :=
  ∀ x ∈ xs, ∀ y ∈ ys, ∀ r r', Stops r → Stops r' → write x ++ r = write y ++ r' →
    mean x = mean y ∧ r = r'

theorem stops_rest (closes : close = 93 ∨ close = 125) (xs : List α) (r : JsString) :
    Stops ((xs.map write).flatMap (fun u => 44 :: u) ++ close :: r) := by
  intro c found
  cases xs with
  | nil =>
    obtain rfl : close = c := Option.some.inj found
    exact .inr closes
  | cons x xs =>
    obtain rfl : (44 : UInt16) = c := Option.some.inj found
    exact .inl rfl

theorem rest_unique (closes : close = 93 ∨ close = 125) {xs ys : List α}
    (told : Told write mean xs ys) {r r' : JsString}
    (same : (xs.map write).flatMap (fun u => 44 :: u) ++ close :: r =
      (ys.map write).flatMap (fun u => 44 :: u) ++ close :: r') :
    xs.map mean = ys.map mean ∧ r = r' := by
  have notComma : (44 : UInt16) ≠ close := by
    rcases closes with rfl | rfl <;> decide
  induction xs generalizing ys with
  | nil =>
    cases ys with
    | nil => exact ⟨rfl, (List.cons.inj same).2⟩
    | cons y ys => exact absurd (List.cons.inj same).1.symm notComma
  | cons x xs ih =>
    cases ys with
    | nil => exact absurd (List.cons.inj same).1 notComma
    | cons y ys =>
      simp only [List.map_cons, List.flatMap_cons, List.cons_append, List.append_assoc] at same
      obtain ⟨first, rest⟩ := told x List.mem_cons_self y List.mem_cons_self _ _
        (stops_rest closes xs r) (stops_rest closes ys r') (List.cons.inj same).2
      obtain ⟨others, ends⟩ := ih (fun x' member y' member' =>
        told x' (List.mem_cons_of_mem _ member) y' (List.mem_cons_of_mem _ member')) rest
      exact ⟨by rw [List.map_cons, List.map_cons, first, others], ends⟩

/-- A list of such texts tells its members. -/
theorem join_unique (closes : close = 93 ∨ close = 125) {xs ys : List α}
    (told : Told write mean xs ys)
    (opens : ∀ x, ∃ c t, write x = c :: t ∧ c ≠ close) {r r' : JsString}
    (same : join (xs.map write) ++ close :: r = join (ys.map write) ++ close :: r') :
    xs.map mean = ys.map mean ∧ r = r' := by
  cases xs with
  | nil =>
    cases ys with
    | nil => exact ⟨rfl, (List.cons.inj same).2⟩
    | cons y ys =>
      obtain ⟨c, t, text, apart⟩ := opens y
      rw [List.map_cons, text] at same
      exact absurd (List.cons.inj same).1.symm apart
  | cons x xs =>
    cases ys with
    | nil =>
      obtain ⟨c, t, text, apart⟩ := opens x
      rw [List.map_cons, text] at same
      exact absurd (List.cons.inj same).1 apart
    | cons y ys =>
      simp only [List.map_cons, join, List.append_assoc] at same
      obtain ⟨first, rest⟩ := told x List.mem_cons_self y List.mem_cons_self _ _
        (stops_rest closes xs r) (stops_rest closes ys r') same
      obtain ⟨others, ends⟩ := rest_unique closes (fun x' member y' member' =>
        told x' (List.mem_cons_of_mem _ member) y' (List.mem_cons_of_mem _ member')) rest
      exact ⟨by rw [List.map_cons, List.map_cons, first, others], ends⟩

end Join

end CircleBackend.Library
