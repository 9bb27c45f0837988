import CircleBackend.Library.Text
import Mathlib.Data.Nat.Digits.Lemmas

/-!
# Decimal texts

A number that is not zero as the decimal written for it: its digits, no zero at either end,
and where its point is.

* `Number.text_inj`: no two numbers are written the same.
-/

namespace CircleBackend.Library

structure Decimal where
  negative : Bool
  digits : List (Fin 10)
  /-- The number is 0.d₁d₂… times ten to this power. -/
  point : Int
  nonempty : digits ≠ []
  first : digits.head? ≠ some 0
  last : digits.getLast? ≠ some 0
  deriving DecidableEq

/-- The finite numbers; 0 and -0 are one. -/
inductive Number
  | zero
  | nonzero (d : Decimal)
  deriving DecidableEq

def digitChar (d : Fin 10) : UInt16 := (48 + d.val).toUInt16

def chars (digits : List (Fin 10)) : JsString := digits.map digitChar

def zeros (n : Nat) : JsString := List.replicate n 48

/-- `.` before what follows it, if anything does. -/
def fraction : JsString → JsString
  | [] => []
  | digits => 46 :: digits

def natText (n : Nat) : JsString := (Nat.digits 10 n).reverse.map fun d => (48 + d).toUInt16

def exponent (e : Int) : JsString := (if e < 0 then 45 else 43) :: natText e.natAbs

/-- `Number::toString` of a positive number. -/
def magnitude (digits : List (Fin 10)) (point : Int) : JsString :=
  if digits.length ≤ point ∧ point ≤ 21 then
    chars digits ++ zeros (point - digits.length).toNat
  else if 0 < point ∧ point ≤ 21 then
    chars (digits.take point.toNat) ++ 46 :: chars (digits.drop point.toNat)
  else if -6 < point ∧ point ≤ 0 then
    48 :: 46 :: (zeros (-point).toNat ++ chars digits)
  else
    chars (digits.take 1) ++ fraction (chars (digits.drop 1)) ++ 101 :: exponent (point - 1)

def Decimal.text (d : Decimal) : JsString :=
  (if d.negative then [45] else []) ++ magnitude d.digits d.point

def Number.text : Number → JsString
  | .zero => [48]
  | .nonzero d => d.text

/-! ## The characters -/

def IsDigit (c : UInt16) : Prop := 48 ≤ c.toNat ∧ c.toNat ≤ 57

/-- A digit, `+`, `-`, `.` or `e`. -/
def IsNumeric (c : UInt16) : Prop := IsDigit c ∨ c = 43 ∨ c = 45 ∨ c = 46 ∨ c = 101

theorem digitChar_toNat (d : Fin 10) : (digitChar d).toNat = 48 + d.val := by
  unfold digitChar
  have small := d.isLt
  simp
  omega

theorem digitChar_digit (d : Fin 10) : IsDigit (digitChar d) := by
  unfold IsDigit
  rw [digitChar_toNat]
  omega

theorem digitChar_inj {a b : Fin 10} (same : digitChar a = digitChar b) : a = b := by
  have values := congrArg UInt16.toNat same
  rw [digitChar_toNat, digitChar_toNat] at values
  exact Fin.ext (by omega)

theorem chars_digit {digits : List (Fin 10)} : ∀ c ∈ chars digits, IsDigit c := by
  intro c member
  obtain ⟨d, -, rfl⟩ := List.mem_map.mp member
  exact digitChar_digit d

theorem chars_inj {a b : List (Fin 10)} (same : chars a = chars b) : a = b :=
  List.map_injective_iff.mpr (fun _ _ => digitChar_inj) same

theorem chars_split (digits : List (Fin 10)) (k : Nat) :
    chars (digits.take k) ++ chars (digits.drop k) = chars digits := by
  unfold chars
  rw [← List.map_append, List.take_append_drop]

theorem zeros_digit {n : Nat} : ∀ c ∈ zeros n, IsDigit c := by
  intro c member
  rw [List.eq_of_mem_replicate member]
  unfold IsDigit
  decide

theorem natText_digit {n : Nat} : ∀ c ∈ natText n, IsDigit c := by
  intro c member
  obtain ⟨d, inside, rfl⟩ := List.mem_map.mp member
  have small := Nat.digits_lt_base (by decide) (List.mem_reverse.mp inside)
  unfold IsDigit
  simp
  omega

theorem digits_of_natText (n : Nat) :
    (natText n).reverse.map (fun c => c.toNat - 48) = Nat.digits 10 n := by
  unfold natText
  rw [← List.map_reverse, List.reverse_reverse, List.map_map]
  calc (Nat.digits 10 n).map ((fun c : UInt16 => c.toNat - 48) ∘ fun d => (48 + d).toUInt16)
      = (Nat.digits 10 n).map id := by
        apply List.map_congr_left
        intro d inside
        have small := Nat.digits_lt_base (by decide) inside
        simp
        omega
    _ = Nat.digits 10 n := List.map_id _

theorem natText_inj {a b : Nat} (same : natText a = natText b) : a = b := by
  apply Nat.digits.injective 10
  rw [← digits_of_natText, same, digits_of_natText]

theorem exponent_inj {a b : Int} (same : exponent a = exponent b) : a = b := by
  obtain ⟨signs, values⟩ := List.cons.inj same
  have sizes := natText_inj values
  by_cases below : a < 0 <;> by_cases below' : b < 0 <;> simp [below, below'] at signs
  all_goals omega

theorem not_digit_point : ¬IsDigit 46 := by unfold IsDigit; decide
theorem not_digit_e : ¬IsDigit 101 := by unfold IsDigit; decide

/-! ## Reading a number back -/

/-- How a positive number is laid out: what stands before the point, after it, and the part
of the exponent. -/
structure Layout (digits : List (Fin 10)) (point : Int) (int frac expo : JsString) : Prop where
  int_digit : ∀ c ∈ int, IsDigit c
  frac_digit : ∀ c ∈ frac, IsDigit c
  some' : int ≠ []
  /-- Zeros stand around the digits, and the point or the exponent gives the place. -/
  place : ∃ before after, int ++ frac = zeros before ++ (chars digits ++ zeros after) ∧
    (expo = [] ∧ point = (int.length : Int) - before ∨ expo = 101 :: exponent (point - 1))

variable {digits digits' : List (Fin 10)} {point point' : Int}

theorem fraction_cons {s : JsString} (some' : s ≠ []) : fraction s = 46 :: s := by
  cases s with
  | nil => exact absurd rfl some'
  | cons c s => rfl

theorem magnitude_layout (nonempty : digits ≠ []) : ∃ int frac expo,
    magnitude digits point = int ++ (fraction frac ++ expo) ∧
      Layout digits point int frac expo := by
  have long : 0 < digits.length := List.length_pos_iff.mpr nonempty
  unfold magnitude
  split
  case isTrue whole =>
    refine ⟨chars digits ++ zeros (point - digits.length).toNat, [], [], by simp [fraction], ?_⟩
    exact {
      int_digit := by
        intro c member
        rcases List.mem_append.mp member with member | member
        · exact chars_digit c member
        · exact zeros_digit c member
      frac_digit := by simp
      some' := by simp [chars, nonempty]
      place := by
        refine ⟨0, (point - digits.length).toNat, by simp [zeros], .inl ⟨rfl, ?_⟩⟩
        simp only [List.length_append, chars, zeros, List.length_map, List.length_replicate]
        omega }
  case isFalse notWhole =>
    split
    case isTrue inside =>
      have short : point.toNat < digits.length := by omega
      have after : chars (digits.drop point.toNat) ≠ [] := by
        simp only [chars, ne_eq, List.map_eq_nil_iff, List.drop_eq_nil_iff]
        omega
      refine ⟨chars (digits.take point.toNat), chars (digits.drop point.toNat), [],
        by simp [fraction_cons after], ?_⟩
      exact {
        int_digit := chars_digit
        frac_digit := chars_digit
        some' := by
          simp only [chars, ne_eq, List.map_eq_nil_iff, List.take_eq_nil_iff, nonempty, or_false]
          omega
        place := by
          refine ⟨0, 0, ?_, .inl ⟨rfl, ?_⟩⟩
          · rw [chars_split]
            simp [zeros]
          · simp only [chars, List.length_map, List.length_take]
            omega }
    case isFalse notInside =>
      split
      case isTrue small =>
        have some' : zeros (-point).toNat ++ chars digits ≠ [] := by
          simp [chars, nonempty]
        refine ⟨[48], zeros (-point).toNat ++ chars digits, [], by simp [fraction_cons some'], ?_⟩
        exact {
          int_digit := by simp [IsDigit]
          frac_digit := by
            intro c member
            rcases List.mem_append.mp member with member | member
            · exact zeros_digit c member
            · exact chars_digit c member
          some' := by simp
          place := by
            refine ⟨(-point).toNat + 1, 0, by simp [zeros, List.replicate_succ], .inl ⟨rfl, ?_⟩⟩
            simp only [List.length_singleton]
            omega }
      case isFalse =>
        refine ⟨chars (digits.take 1), chars (digits.drop 1), 101 :: exponent (point - 1),
          by simp, ?_⟩
        exact {
          int_digit := chars_digit
          frac_digit := chars_digit
          some' := by simp [chars, nonempty]
          place := by
            refine ⟨0, 0, ?_, .inr rfl⟩
            rw [chars_split]
            simp [zeros] }

/-- Digits that no zero surrounds. -/
structure Bare (digits : List (Fin 10)) : Prop where
  nonempty : digits ≠ []
  first : digits.head? ≠ some 0
  last : digits.getLast? ≠ some 0

theorem digitChar_zero {d : Fin 10} (zero : digitChar d = 48) : d = 0 :=
  digitChar_inj zero

theorem Bare.head {s : JsString} (bare : Bare digits) :
    ∀ c ∈ (chars digits ++ s).head?, ¬c = 48 := by
  obtain ⟨nonempty, first, -⟩ := bare
  cases digits with
  | nil => exact absurd rfl nonempty
  | cons d rest =>
    intro c found zero
    obtain rfl : digitChar d = c := Option.some.inj found
    exact first (by rw [digitChar_zero zero]; rfl)

theorem Bare.tail (bare : Bare digits) : ∀ c ∈ (chars digits).reverse.head?, ¬c = 48 := by
  intro c found zero
  rw [List.head?_reverse, chars, List.getLast?_map] at found
  obtain ⟨d, own, rfl⟩ := Option.map_eq_some_iff.mp found
  exact bare.last (by rw [own, digitChar_zero zero])

theorem all_zeros {n : Nat} : ∀ c ∈ zeros n, c = 48 := fun _ member => List.eq_of_mem_replicate member

theorem zeros_length {a b : Nat} (same : zeros a = zeros b) : a = b := by
  have lengths := congrArg List.length same
  simpa [zeros] using lengths

/-- The zeros around the digits can be told from them. -/
theorem surrounded_unique {before before' after after' : Nat} (bare : Bare digits)
    (bare' : Bare digits') (same : zeros before ++ (chars digits ++ zeros after) =
      zeros before' ++ (chars digits' ++ zeros after')) : before = before' ∧ digits = digits' := by
  obtain ⟨front, rest⟩ := span_unique all_zeros all_zeros bare.head bare'.head same
  have back : zeros after ++ (chars digits).reverse = zeros after' ++ (chars digits').reverse := by
    have reversed := congrArg List.reverse rest
    simpa [zeros] using reversed
  obtain ⟨-, own⟩ := span_unique all_zeros all_zeros bare.tail bare'.tail back
  exact ⟨zeros_length front, chars_inj (List.reverse_injective own)⟩

variable {int int' frac frac' expo expo' : JsString}

theorem Layout.expo_head (l : Layout digits point int frac expo) : ∀ c ∈ expo.head?, c = 101 := by
  obtain ⟨before, after, -, ⟨none', -⟩ | some'⟩ := l.place
  · rw [none']
    intro c found
    cases found
  · rw [some']
    intro c found
    exact (Option.some.inj found).symm

theorem Layout.rest_head (l : Layout digits point int frac expo) :
    ∀ c ∈ (fraction frac ++ expo).head?, ¬IsDigit c := by
  intro c found
  cases frac with
  | cons d frac =>
    obtain rfl : (46 : UInt16) = c := Option.some.inj found
    exact not_digit_point
  | nil =>
    rw [l.expo_head c found]
    exact not_digit_e

theorem Layout.fraction_unique (l : Layout digits point int frac expo)
    (l' : Layout digits' point' int' frac' expo')
    (same : fraction frac ++ expo = fraction frac' ++ expo') : frac = frac' ∧ expo = expo' := by
  have apart : ∀ {f e e' : JsString} {d : UInt16}, (∀ c ∈ e'.head?, c = 101) →
      fraction (d :: f) ++ e ≠ fraction [] ++ e' := by
    intro f e e' d onlyE equal
    have wrong := onlyE 46 (by rw [show e' = fraction [] ++ e' from rfl, ← equal]; rfl)
    exact absurd wrong (by decide)
  cases frac with
  | nil =>
    cases frac' with
    | nil => exact ⟨rfl, same⟩
    | cons d frac' => exact absurd same.symm (apart l.expo_head)
  | cons d frac =>
    cases frac' with
    | nil => exact absurd same (apart l'.expo_head)
    | cons d' frac' =>
      have notDigit : ∀ {e : JsString}, (∀ c ∈ e.head?, c = 101) → ∀ c ∈ e.head?, ¬IsDigit c := by
        intro e onlyE c found
        rw [onlyE c found]
        exact not_digit_e
      exact span_unique l.frac_digit l'.frac_digit (notDigit l.expo_head) (notDigit l'.expo_head)
        (List.cons.inj same).2

theorem magnitude_inj (bare : Bare digits) (bare' : Bare digits')
    (same : magnitude digits point = magnitude digits' point') :
    digits = digits' ∧ point = point' := by
  obtain ⟨int, frac, expo, text, l⟩ := @magnitude_layout _ point bare.nonempty
  obtain ⟨int', frac', expo', text', l'⟩ := @magnitude_layout _ point' bare'.nonempty
  rw [text, text'] at same
  obtain ⟨ints, rest⟩ := span_unique l.int_digit l'.int_digit l.rest_head l'.rest_head same
  obtain ⟨fracs, expos⟩ := l.fraction_unique l' rest
  obtain ⟨before, after, around, place⟩ := l.place
  obtain ⟨before', after', around', place'⟩ := l'.place
  rw [ints, fracs, around'] at around
  obtain ⟨fronts, own⟩ := surrounded_unique bare' bare around
  refine ⟨own.symm, ?_⟩
  rcases place with ⟨plain, at'⟩ | scaled
  · rcases place' with ⟨-, at''⟩ | scaled'
    · rw [at', at'', ints, fronts]
    · rw [expos, scaled'] at plain
      cases plain
  · rcases place' with ⟨plain', -⟩ | scaled'
    · rw [← expos, scaled] at plain'
      cases plain'
    · rw [expos, scaled'] at scaled
      have powers := exponent_inj (List.cons.inj scaled).2
      omega

theorem magnitude_head (bare : Bare digits) : ∃ c rest, magnitude digits point = c :: rest ∧
    IsDigit c := by
  obtain ⟨int, frac, expo, text, l⟩ := @magnitude_layout _ point bare.nonempty
  cases whole : int with
  | nil => exact absurd whole l.some'
  | cons c int =>
    rw [whole] at text
    exact ⟨c, _, text, l.int_digit c (by rw [whole]; exact List.mem_cons_self)⟩

theorem magnitude_numeric (bare : Bare digits) : ∀ c ∈ magnitude digits point, IsNumeric c := by
  obtain ⟨int, frac, expo, text, l⟩ := @magnitude_layout _ point bare.nonempty
  rw [text]
  intro c member
  rcases List.mem_append.mp member with member | member
  · exact .inl (l.int_digit c member)
  · rcases List.mem_append.mp member with member | member
    · cases frac with
      | nil => cases member
      | cons d frac =>
        rcases List.mem_cons.mp member with rfl | member
        · exact .inr (.inr (.inr (.inl rfl)))
        · exact .inl (l.frac_digit c member)
    · obtain ⟨-, -, -, ⟨none', -⟩ | some'⟩ := l.place
      · rw [none'] at member
        cases member
      · rw [some', exponent] at member
        rcases List.mem_cons.mp member with rfl | member
        · exact .inr (.inr (.inr (.inr rfl)))
        · rcases List.mem_cons.mp member with sign | member
          · rw [sign]
            split
            · exact .inr (.inr (.inl rfl))
            · exact .inr (.inl rfl)
          · exact .inl (natText_digit c member)

/-! ## Numbers -/

theorem Decimal.text_minus {d : Decimal} (sign : d.negative = true) :
    d.text = 45 :: magnitude d.digits d.point := by
  unfold Decimal.text
  rw [if_pos sign]
  rfl

theorem Decimal.text_plain {d : Decimal} (sign : ¬d.negative = true) :
    d.text = magnitude d.digits d.point := by
  unfold Decimal.text
  rw [if_neg sign]
  rfl

theorem Decimal.bare (d : Decimal) : Bare d.digits := ⟨d.nonempty, d.first, d.last⟩

/-- A number starts with a digit or a minus. -/
theorem Number.text_head (n : Number) : ∃ c rest, n.text = c :: rest ∧ (IsDigit c ∨ c = 45) := by
  cases n with
  | zero => exact ⟨48, [], rfl, .inl (by unfold IsDigit; decide)⟩
  | nonzero d =>
    obtain ⟨c, rest, text, digit⟩ := @magnitude_head _ d.point d.bare
    by_cases sign : d.negative = true
    · exact ⟨45, _, d.text_minus sign, .inr rfl⟩
    · exact ⟨c, rest, (d.text_plain sign).trans text, .inl digit⟩

theorem Number.text_numeric (n : Number) : ∀ c ∈ n.text, IsNumeric c := by
  cases n with
  | zero =>
    intro c member
    rw [List.mem_singleton.mp member]
    exact .inl (by unfold IsDigit; decide)
  | nonzero d =>
    intro c member
    rcases List.mem_append.mp member with sign | member
    · split at sign
      · exact .inr (.inr (.inl (List.mem_singleton.mp sign)))
      · cases sign
    · exact magnitude_numeric d.bare c member

theorem not_digit_minus : ¬IsDigit 45 := by unfold IsDigit; decide

/-- The text of a number is no other number's. -/
theorem Number.text_inj {m n : Number} (same : m.text = n.text) : m = n := by
  have zeroApart : ∀ d : Decimal, d.text ≠ [48] := by
    intro d wrong
    obtain ⟨int, frac, expo, text, l⟩ := @magnitude_layout _ d.point d.nonempty
    by_cases sign : d.negative = true
    · rw [d.text_minus sign] at wrong
      cases wrong
    · rw [d.text_plain sign, text] at wrong
      have plain : int ++ (fraction frac ++ expo) = [48] ++ [] := wrong
      obtain ⟨ints, rest⟩ := span_unique l.int_digit
        (fun c member => by rw [List.mem_singleton.mp member]; unfold IsDigit; decide)
        l.rest_head (by simp) plain
      obtain ⟨fracs, -⟩ := List.append_eq_nil_iff.mp rest
      obtain ⟨before, after, around, -⟩ := l.place
      have noFrac : frac = [] := by
        cases frac with
        | nil => rfl
        | cons c frac => cases fracs
      -- a digit that is not zero stands in the text
      have own : ∀ c ∈ chars d.digits, c = 48 := by
        intro c member
        have inside : c ∈ int ++ frac := by
          rw [around]
          exact List.mem_append_right _ (List.mem_append_left _ member)
        rw [ints, noFrac] at inside
        exact List.mem_singleton.mp inside
      obtain ⟨first, more⟩ := List.exists_cons_of_ne_nil d.nonempty
      obtain ⟨more, digits⟩ := more
      have firstZero := own (digitChar first) (by rw [digits]; exact List.mem_cons_self)
      exact d.first (by rw [digits, digitChar_zero firstZero]; rfl)
  cases m with
  | zero =>
    cases n with
    | zero => rfl
    | nonzero d => exact absurd same.symm (zeroApart d)
  | nonzero d =>
    cases n with
    | zero => exact absurd same (zeroApart d)
    | nonzero d' =>
      have signs : d.negative = d'.negative ∧
          magnitude d.digits d.point = magnitude d'.digits d'.point := by
        obtain ⟨c, rest, text, digit⟩ := @magnitude_head _ d.point d.bare
        obtain ⟨c', rest', text', digit'⟩ := @magnitude_head _ d'.point d'.bare
        have equal : d.text = d'.text := same
        by_cases sign : d.negative = true
        · rw [d.text_minus sign] at equal
          by_cases sign' : d'.negative = true
          · rw [d'.text_minus sign'] at equal
            exact ⟨by rw [sign, sign'], (List.cons.inj equal).2⟩
          · rw [d'.text_plain sign', text'] at equal
            have wrong : 45 = c' := (List.cons.inj equal).1
            exact absurd (wrong ▸ digit') not_digit_minus
        · rw [d.text_plain sign] at equal
          by_cases sign' : d'.negative = true
          · rw [d'.text_minus sign', text] at equal
            have wrong : c = 45 := (List.cons.inj equal).1
            exact absurd (wrong ▸ digit) not_digit_minus
          · rw [d'.text_plain sign'] at equal
            exact ⟨by rw [Bool.eq_false_iff.mpr sign, Bool.eq_false_iff.mpr sign'], equal⟩
      obtain ⟨digits, point⟩ := magnitude_inj d.bare d'.bare signs.2
      have equal : d = d' := by
        cases d
        cases d'
        obtain rfl : _ = _ := signs.1
        obtain rfl : _ = _ := digits
        obtain rfl : _ = _ := point
        rfl
      rw [equal]

end CircleBackend.Library
