import CircleBackend.Library.Text

/-!
# Bytes in texts

`base64url` and UTF-8, both ways. The readers take any text and any bytes, and undo the
writers.

* `fromBase64url_base64url`: bytes of a text are read back;
* `fromUtf8_utf8`: a text without lone surrogates is read back.
-/

namespace CircleBackend.Library

/-! ## Base64 -/

/-- The unit of a number below 64. -/
def sextetUnit (n : Nat) : UInt16 :=
  (if n < 26 then 65 + n else if n < 52 then 71 + n else if n < 62 then n - 4
    else if n = 62 then 45 else 95).toUInt16

/-- Both alphabets are read. -/
def sextet (c : UInt16) : Option Nat :=
  let n := c.toNat
  if 65 ≤ n ∧ n ≤ 90 then some (n - 65)
  else if 97 ≤ n ∧ n ≤ 122 then some (n - 71)
  else if 48 ≤ n ∧ n ≤ 57 then some (n + 4)
  else if n = 45 ∨ n = 43 then some 62
  else if n = 95 ∨ n = 47 then some 63
  else none

/-- `toString('base64url')`, as numbers below 64; there is no padding. -/
def sextets : List (BitVec 8) → List Nat
  | a :: b :: c :: rest =>
    a.toNat / 4 :: (a.toNat % 4 * 16 + b.toNat / 16) :: (b.toNat % 16 * 4 + c.toNat / 64) ::
      c.toNat % 64 :: sextets rest
  | [a, b] => [a.toNat / 4, a.toNat % 4 * 16 + b.toNat / 16, b.toNat % 16 * 4]
  | [a] => [a.toNat / 4, a.toNat % 4 * 16]
  | [] => []

def base64url (bytes : List (BitVec 8)) : JsString := (sextets bytes).map sextetUnit

def octets : List Nat → List (BitVec 8)
  | a :: b :: c :: d :: rest =>
    BitVec.ofNat 8 (a * 4 + b / 16) :: BitVec.ofNat 8 (b * 16 + c / 4) ::
      BitVec.ofNat 8 (c * 64 + d) :: octets rest
  | [a, b, c] => [BitVec.ofNat 8 (a * 4 + b / 16), BitVec.ofNat 8 (b * 16 + c / 4)]
  | [a, b] => [BitVec.ofNat 8 (a * 4 + b / 16)]
  | _ => []

/-- `Buffer.from(text, 'base64url')`: up to the padding, without what is in no alphabet. -/
def fromBase64url (text : JsString) : List (BitVec 8) :=
  octets ((text.takeWhile (· ≠ 61)).filterMap sextet)

theorem sextet_unit {n : Nat} (small : n < 64) :
    sextet (sextetUnit n) = some n ∧ sextetUnit n ≠ 61 := by
  revert n
  decide

theorem sextets_small (bytes : List (BitVec 8)) : ∀ n ∈ sextets bytes, n < 64 := by
  fun_induction sextets bytes with
  | case1 a b c rest ih =>
    have ha := a.isLt
    have hb := b.isLt
    have hc := c.isLt
    simp only [List.forall_mem_cons]
    exact ⟨by omega, by omega, by omega, by omega, ih⟩
  | case2 a b =>
    have ha := a.isLt
    have hb := b.isLt
    simp only [List.forall_mem_cons]
    exact ⟨by omega, by omega, by omega, nofun⟩
  | case3 a =>
    have ha := a.isLt
    simp only [List.forall_mem_cons]
    exact ⟨by omega, by omega, nofun⟩
  | case4 => exact nofun

theorem octets_sextets (bytes : List (BitVec 8)) : octets (sextets bytes) = bytes := by
  have byte (a : BitVec 8) (n : Nat) (same : n % 256 = a.toNat) : BitVec.ofNat 8 n = a :=
    BitVec.eq_of_toNat_eq (by rw [BitVec.toNat_ofNat]; exact same)
  fun_induction sextets bytes with
  | case1 a b c rest ih =>
    have ha := a.isLt
    have hb := b.isLt
    have hc := c.isLt
    rw [octets, ih, byte a _ (by omega), byte b _ (by omega), byte c _ (by omega)]
  | case2 a b =>
    have ha := a.isLt
    have hb := b.isLt
    rw [octets, byte a _ (by omega), byte b _ (by omega)]
  | case3 a =>
    have ha := a.isLt
    rw [octets, byte a _ (by omega)]
  | case4 => rfl

theorem fromBase64url_base64url (bytes : List (BitVec 8)) :
    fromBase64url (base64url bytes) = bytes := by
  have units (l : List Nat) (small : ∀ n ∈ l, n < 64) :
      ((l.map sextetUnit).takeWhile (· ≠ 61)).filterMap sextet = l := by
    induction l with
    | nil => rfl
    | cons n l ih =>
      obtain ⟨read, other⟩ := sextet_unit (small n List.mem_cons_self)
      rw [List.map_cons, List.takeWhile_cons_of_pos (by simpa using other),
        List.filterMap_cons_some read, ih fun m inside => small m (List.mem_cons_of_mem _ inside)]
  rw [fromBase64url, base64url, units _ (sextets_small bytes), octets_sextets]

/-! ## UTF-8 -/

/-- What a leading byte gives, and between which bounds the bytes after it are. -/
def lead (b : Nat) : Option (Nat × List (Nat × Nat)) :=
  let tail := (128, 191)
  if b < 128 then some (b, [])
  else if 194 ≤ b ∧ b < 224 then some (b - 192, [tail])
  else if b = 224 then some (0, [(160, 191), tail])
  else if b = 237 then some (13, [(128, 159), tail])
  else if 225 ≤ b ∧ b < 240 then some (b - 224, [tail, tail])
  else if b = 240 then some (0, [(144, 191), tail, tail])
  else if 241 ≤ b ∧ b < 244 then some (b - 240, [tail, tail, tail])
  else if b = 244 then some (4, [(128, 143), tail, tail])
  else none

/-- The code point, `none` where a byte is missing, and what is left. -/
def follow (p : Nat) : List (Nat × Nat) → List (BitVec 8) → Option Nat × List (BitVec 8)
  | [], rest => (some p, rest)
  | _ :: _, [] => (none, [])
  | (low, high) :: more, b :: rest =>
    if low ≤ b.toNat ∧ b.toNat ≤ high then follow (p * 64 + (b.toNat - 128)) more rest
    else (none, b :: rest)

theorem follow_le (p : Nat) (ranges : List (Nat × Nat)) (bytes : List (BitVec 8)) :
    (follow p ranges bytes).2.length ≤ bytes.length := by
  fun_induction follow p ranges bytes with
  | case1 | case2 | case4 => exact Nat.le_refl _
  | case3 p low high more b rest inside ih => exact Nat.le_succ_of_le ih

/-- `toString('utf8')`; a part of a code point stands for U+FFFD. -/
def fromUtf8 : List (BitVec 8) → JsString
  | [] => []
  | b :: rest =>
    match lead b.toNat with
    | none => 65533 :: fromUtf8 rest
    | some (p, ranges) =>
      have _ := follow_le p ranges rest
      units ((follow p ranges rest).1.getD 65533) ++ fromUtf8 (follow p ranges rest).2
termination_by bytes => bytes.length
decreasing_by all_goals simp only [List.length_cons]; omega

def Scalar (p : Nat) : Prop := p < 55296 ∨ 57344 ≤ p ∧ p < 1114112

instance (p : Nat) : Decidable (Scalar p) := inferInstanceAs (Decidable (_ ∨ _))

theorem fromUtf8_point {p : Nat} (scalar : Scalar p) (rest : List (BitVec 8)) :
    fromUtf8 (utf8Point p ++ rest) = units p ++ fromUtf8 rest := by
  have whole : (if 55296 ≤ p ∧ p < 57344 then 65533 else p) = p := by
    unfold Scalar at scalar
    rw [if_neg (by omega)]
  have byte {n : Nat} (small : n < 256) : (BitVec.ofNat 8 n).toNat = n := by
    rw [BitVec.toNat_ofNat]
    omega
  have reads {b : Nat} (bytes : List (BitVec 8)) (small : b < 256) {q : Nat}
      {ranges : List (Nat × Nat)} (leads : lead b = some (q, ranges))
      (done : follow q ranges (bytes ++ rest) = (some p, rest)) :
      fromUtf8 (BitVec.ofNat 8 b :: (bytes ++ rest)) = units p ++ fromUtf8 rest := by
    rw [fromUtf8]
    simp only [byte small, leads, done, Option.getD_some]
  have goes {q n low high : Nat} {more : List (Nat × Nat)} {bytes : List (BitVec 8)}
      (small : n < 64) (inside : low ≤ 128 + n ∧ 128 + n ≤ high) :
      follow q ((low, high) :: more) (BitVec.ofNat 8 (128 + n) :: bytes) =
        follow (q * 64 + n) more bytes := by
    rw [follow, byte (by omega), if_pos inside, Nat.add_sub_cancel_left]
  unfold utf8Point
  rw [whole]
  dsimp only
  by_cases one : p < 128
  · rw [if_pos one]
    exact reads [] (by omega) (by rw [lead, if_pos one]) rfl
  rw [if_neg one]
  by_cases two : p < 2048
  · rw [if_pos two]
    have leads : lead (192 + p / 64) = some (p / 64, [(128, 191)]) := by
      rw [lead, if_neg (by omega), if_pos (by omega), Nat.add_sub_cancel_left]
    refine reads [_] (by omega) leads ?_
    rw [List.singleton_append, goes (by omega) (by omega), follow]
    congr 2
    omega
  rw [if_neg two]
  by_cases three : p < 65536
  · rw [if_pos three]
    have tail (low high : Nat) (inside : low ≤ 128 + p / 64 % 64 ∧ 128 + p / 64 % 64 ≤ high) :
        follow (p / 4096) [(low, high), (128, 191)] ([BitVec.ofNat 8 (128 + p / 64 % 64),
          BitVec.ofNat 8 (128 + p % 64)] ++ rest) = (some p, rest) := by
      rw [List.cons_append, goes (by omega) inside, List.singleton_append,
        goes (by omega) (by omega), follow]
      congr 2
      omega
    unfold Scalar at scalar
    have leads : ∃ low high, lead (224 + p / 4096) = some (p / 4096, [(low, high), (128, 191)]) ∧
        low ≤ 128 + p / 64 % 64 ∧ 128 + p / 64 % 64 ≤ high := by
      by_cases first : p / 4096 = 0
      · exact ⟨160, 191, by rw [first]; rfl, by omega⟩
      · by_cases split : p / 4096 = 13
        · exact ⟨128, 159, by rw [split]; rfl, by omega⟩
        · refine ⟨128, 191, ?_, by omega⟩
          rw [lead, if_neg (by omega), if_neg (by omega), if_neg (by omega), if_neg (by omega),
            if_pos (by omega), Nat.add_sub_cancel_left]
    obtain ⟨low, high, leads, inside⟩ := leads
    exact reads _ (by omega) leads (tail low high inside)
  · rw [if_neg three]
    unfold Scalar at scalar
    have tail (low high : Nat) (inside : low ≤ 128 + p / 4096 % 64 ∧ 128 + p / 4096 % 64 ≤ high) :
        follow (p / 262144) [(low, high), (128, 191), (128, 191)]
          ([BitVec.ofNat 8 (128 + p / 4096 % 64), BitVec.ofNat 8 (128 + p / 64 % 64),
            BitVec.ofNat 8 (128 + p % 64)] ++ rest) = (some p, rest) := by
      rw [List.cons_append, goes (by omega) inside, List.cons_append, goes (by omega) (by omega),
        List.singleton_append, goes (by omega) (by omega), follow]
      congr 2
      omega
    have leads : ∃ low high, lead (240 + p / 262144) =
          some (p / 262144, [(low, high), (128, 191), (128, 191)]) ∧
        low ≤ 128 + p / 4096 % 64 ∧ 128 + p / 4096 % 64 ≤ high := by
      by_cases first : p / 262144 = 0
      · exact ⟨144, 191, by rw [first]; rfl, by omega⟩
      · by_cases last : p / 262144 = 4
        · exact ⟨128, 143, by rw [last]; rfl, by omega⟩
        · refine ⟨128, 191, ?_, by omega⟩
          rw [lead, if_neg (by omega), if_neg (by omega), if_neg (by omega), if_neg (by omega),
            if_neg (by omega), if_neg (by omega), if_pos (by omega), Nat.add_sub_cancel_left]
    obtain ⟨low, high, leads, inside⟩ := leads
    exact reads _ (by omega) leads (tail low high inside)

/-- No lone surrogates. -/
def WellFormed (s : JsString) : Prop := ∀ p ∈ codePoints s, Scalar p

theorem fromUtf8_utf8 {s : JsString} (formed : WellFormed s) : fromUtf8 (utf8 s) = s := by
  have points (l : List CodePoint) (scalars : ∀ p ∈ l, Scalar p) :
      fromUtf8 (l.flatMap utf8Point) = fromCodePoints l := by
    induction l with
    | nil => rw [List.flatMap_nil, fromUtf8]; rfl
    | cons p l ih =>
      rw [List.flatMap_cons, fromUtf8_point (scalars p List.mem_cons_self), fromCodePoints,
        List.flatMap_cons, ih fun q inside => scalars q (List.mem_cons_of_mem _ inside)]
      rfl
  rw [utf8, points _ formed, fromCodePoints_codePoints]

end CircleBackend.Library
