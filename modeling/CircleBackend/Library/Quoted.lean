import CircleBackend.Library.Text

/-!
# Quoted strings

`JSON.stringify` of a string.

* `quote_unique`: a quoted string tells what it quotes and where it ends.
-/

namespace CircleBackend.Library

def hexDigit (n : Nat) : UInt16 := if n < 10 then (48 + n).toUInt16 else (87 + n).toUInt16

/-- `\u` and four digits. -/
def hexEscape (p : Nat) : JsString :=
  [92, 117, hexDigit (p / 4096 % 16), hexDigit (p / 256 % 16), hexDigit (p / 16 % 16),
    hexDigit (p % 16)]

/-- The letter of a short escape: `\b`, `\t`, `\n`, `\f`, `\r`, `\"` and `\\`. -/
def escapeLetter (p : Nat) : Option UInt16 :=
  if p = 8 then some 98
  else if p = 9 then some 116
  else if p = 10 then some 110
  else if p = 12 then some 102
  else if p = 13 then some 114
  else if p = 34 then some 34
  else if p = 92 then some 92
  else none

def quotePoint (p : Nat) : JsString :=
  match escapeLetter p with
  | some letter => [92, letter]
  | none => if p < 32 ∨ (55296 ≤ p ∧ p < 57344) then hexEscape p else units p

def quote (s : JsString) : JsString := 34 :: ((codePoints s).flatMap quotePoint ++ [34])

/-! ## Reading back -/

def hexValue (c : UInt16) : Nat := if c.toNat < 58 then c.toNat - 48 else c.toNat - 87

def unescape (letter : UInt16) : Nat :=
  if letter = 98 then 8
  else if letter = 116 then 9
  else if letter = 110 then 10
  else if letter = 102 then 12
  else if letter = 114 then 13
  else letter.toNat

/-- The first point of a quoted text and the rest. -/
def readPoint : JsString → Option (Nat × JsString)
  | [] => none
  | c :: rest =>
    if c = 92 then
      match rest with
      | [] => none
      | letter :: rest =>
        if letter = 117 then
          match rest with
          | a :: b :: c :: d :: rest =>
            some (hexValue a * 4096 + hexValue b * 256 + hexValue c * 16 + hexValue d, rest)
          | _ => none
        else some (unescape letter, rest)
    else if isHighSurrogate c then
      match rest with
      | [] => none
      | low :: rest =>
        some (65536 + (c.toNat - 55296) * 1024 + (low.toNat - 56320), rest)
    else some (c.toNat, rest)

theorem hexValue_hexDigit {n : Nat} (small : n < 16) : hexValue (hexDigit n) = n := by
  unfold hexDigit hexValue
  split
  case isTrue =>
    have value : (48 + n).toUInt16.toNat = 48 + n := by simp; omega
    rw [value, if_pos (by omega)]
    omega
  case isFalse =>
    have value : (87 + n).toUInt16.toNat = 87 + n := by simp; omega
    rw [value, if_neg (by omega)]
    omega

theorem escapeLetter_spec {p : Nat} {letter : UInt16} (short : escapeLetter p = some letter) :
    letter ≠ 117 ∧ unescape letter = p := by
  unfold escapeLetter at short
  repeat' split at short
  all_goals first
    | (obtain rfl := Option.some.inj short; subst_vars; exact ⟨by decide, by decide⟩)
    | cases short

theorem escapeLetter_none {p : Nat} (plain : escapeLetter p = none) : p ≠ 34 ∧ p ≠ 92 := by
  constructor
  · rintro rfl
    cases plain
  · rintro rfl
    cases plain

theorem readPoint_quotePoint {p : Nat} (valid : p < 1114112) (rest : JsString) :
    readPoint (quotePoint p ++ rest) = some (p, rest) := by
  unfold quotePoint
  split
  case h_1 letter short =>
    obtain ⟨notU, back⟩ := escapeLetter_spec short
    simp [readPoint, notU, back]
  case h_2 plain =>
    split
    case isTrue escaped =>
      have small : p < 65536 := by omega
      have digits : p / 4096 % 16 * 4096 + p / 256 % 16 * 256 + p / 16 % 16 * 16 + p % 16 = p := by
        omega
      simp [readPoint, hexEscape, hexValue_hexDigit, Nat.mod_lt, digits]
    case isFalse raw =>
      obtain ⟨-, notSlash⟩ := escapeLetter_none plain
      unfold units
      split
      case isTrue big =>
        have high : (55296 + (p - 65536) / 1024).toUInt16.toNat = 55296 + (p - 65536) / 1024 := by
          simp
          omega
        have low : (56320 + (p - 65536) % 1024).toUInt16.toNat = 56320 + (p - 65536) % 1024 := by
          simp
          omega
        have isHigh : isHighSurrogate (55296 + (p - 65536) / 1024).toUInt16 = true := by
          simp only [isHighSurrogate, high, Bool.and_eq_true, decide_eq_true_eq]
          omega
        have notSlash' : (55296 + (p - 65536) / 1024).toUInt16 ≠ 92 := by
          intro equal
          have value := congrArg UInt16.toNat equal
          rw [high] at value
          have slash : (92 : UInt16).toNat = 92 := rfl
          omega
        have whole : 65536 + (55296 + (p - 65536) / 1024 - 55296) * 1024 +
            (56320 + (p - 65536) % 1024 - 56320) = p := by omega
        simp only [List.cons_append, List.nil_append, readPoint, if_neg notSlash', isHigh, if_true,
          high, low, whole]
      case isFalse small =>
        have value : p.toUInt16.toNat = p := by simp; omega
        have notHigh : isHighSurrogate p.toUInt16 = false := by
          simp only [isHighSurrogate, value, Bool.and_eq_false_iff, decide_eq_false_iff_not]
          omega
        have notSlash' : p.toUInt16 ≠ 92 := by
          intro equal
          rw [← value, equal] at notSlash
          exact notSlash rfl
        simp [readPoint, notSlash', notHigh, value]

theorem quotePoint_head {p : Nat} (valid : p < 1114112) (rest : JsString) :
    (quotePoint p ++ rest).head? ≠ some 34 := by
  intro quoted
  unfold quotePoint at quoted
  split at quoted
  case h_1 => cases quoted
  case h_2 plain =>
    obtain ⟨notQuote, -⟩ := escapeLetter_none plain
    split at quoted
    case isTrue => cases quoted
    case isFalse =>
      unfold units at quoted
      split at quoted
      case isTrue big =>
        have value := congrArg UInt16.toNat (Option.some.inj quoted)
        have high : (55296 + (p - 65536) / 1024).toUInt16.toNat = 55296 + (p - 65536) / 1024 := by
          simp
          omega
        rw [high] at value
        have mark : (34 : UInt16).toNat = 34 := rfl
        omega
      case isFalse small =>
        have value := congrArg UInt16.toNat (Option.some.inj quoted)
        have own : p.toUInt16.toNat = p := by simp; omega
        rw [own] at value
        exact notQuote value

theorem quotePoints_unique {points points' : List Nat} (valid : ∀ p ∈ points, p < 1114112)
    (valid' : ∀ p ∈ points', p < 1114112) {rest rest' : JsString}
    (same : points.flatMap quotePoint ++ 34 :: rest = points'.flatMap quotePoint ++ 34 :: rest') :
    points = points' ∧ rest = rest' := by
  induction points generalizing points' with
  | nil =>
    cases points' with
    | nil => exact ⟨rfl, (List.cons.inj same).2⟩
    | cons p points' =>
      rw [List.flatMap_cons, List.append_assoc] at same
      exact absurd (by rw [← same]; rfl) (quotePoint_head (valid' p List.mem_cons_self) _)
  | cons p points ih =>
    rw [List.flatMap_cons, List.append_assoc] at same
    cases points' with
    | nil => exact absurd (by rw [same]; rfl) (quotePoint_head (valid p List.mem_cons_self) _)
    | cons p' points' =>
      rw [List.flatMap_cons, List.append_assoc] at same
      have read := congrArg readPoint same
      rw [readPoint_quotePoint (valid p List.mem_cons_self),
        readPoint_quotePoint (valid' p' List.mem_cons_self)] at read
      obtain ⟨first, others⟩ := Prod.mk.inj (Option.some.inj read)
      obtain ⟨points, rests⟩ := ih (fun q member => valid q (List.mem_cons_of_mem _ member))
        (fun q member => valid' q (List.mem_cons_of_mem _ member)) others
      exact ⟨by rw [first, points], rests⟩

theorem codePoints_valid (s : JsString) : ∀ p ∈ codePoints s, (p : Nat) < 1114112 := by
  have unit : ∀ a : UInt16, a.toNat < 1114112 := by
    intro a
    have small := a.toNat_lt
    omega
  induction s using codePoints.induct with
  | case1 =>
    intro p member
    cases member
  | case2 a =>
    intro p member
    obtain rfl : p = a.toNat := List.mem_singleton.mp member
    exact unit a
  | case3 a b rest pair ih =>
    intro p member
    rw [codePoints, if_pos pair] at member
    rcases List.mem_cons.mp member with first | member
    · simp only [isHighSurrogate, isLowSurrogate, Bool.and_eq_true, decide_eq_true_eq] at pair
      have value : (p : Nat) = 65536 + (a.toNat - 55296) * 1024 + (b.toNat - 56320) := first
      exact Nat.lt_of_le_of_lt (Nat.le_of_eq value) (by omega)
    · exact ih p member
  | case4 a b rest single ih =>
    intro p member
    rw [codePoints, if_neg single] at member
    rcases List.mem_cons.mp member with rfl | member
    · exact unit a
    · exact ih p member

theorem quote_unique {s s' rest rest' : JsString} (same : quote s ++ rest = quote s' ++ rest') :
    s = s' ∧ rest = rest' := by
  unfold quote at same
  rw [List.cons_append, List.cons_append, List.append_assoc, List.append_assoc] at same
  obtain ⟨points, rests⟩ := quotePoints_unique (codePoints_valid s) (codePoints_valid s')
    (List.cons.inj same).2
  exact ⟨codePoints_inj points, rests⟩

end CircleBackend.Library
