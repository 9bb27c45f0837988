import Mathlib.Data.Nat.Notation

/-!
# Cyclic redundancy checks

A reflected check of 32 bits, one bit of the data at a time, and the same check one byte at a
time. The steps are linear, so the eight of a byte split into those of the low byte, which
a table may hold, and a shift of the rest.
-/

namespace CircleBackend.Library.Crc

abbrev Byte := BitVec 8

variable (polynomial : BitVec 32)

/-- One division step: the polynomial is taken off when a one is shifted out. -/
def step (c : BitVec 32) : BitVec 32 :=
  if c.getLsbD 0 then polynomial ^^^ (c >>> 1) else c >>> 1

def steps : Nat → BitVec 32 → BitVec 32
  | 0, c => c
  | k + 1, c => steps k (step polynomial c)

/-- The low `k` bits of the data, lowest first, each added before its step. -/
def feed : Nat → BitVec 32 → BitVec 32 → BitVec 32
  | 0, c, _ => c
  | k + 1, c, data => feed k (step polynomial (c ^^^ (data &&& 1#32))) (data >>> 1)

/-- The check as it is defined: every bit of every byte in turn. -/
def checksum (data : List Byte) : BitVec 32 :=
  ~~~data.foldl (fun c byte => feed polynomial 8 c (byte.setWidth 32)) (BitVec.allOnes 32)

theorem step_xor (a b : BitVec 32) :
    step polynomial (a ^^^ b) = step polynomial a ^^^ step polynomial b := by
  unfold step
  rw [BitVec.getLsbD_xor, BitVec.ushiftRight_xor_distrib]
  cases a.getLsbD 0 <;> cases b.getLsbD 0
  all_goals
    simp only [Bool.false_xor, Bool.true_xor, Bool.not_true, Bool.not_false, ite_true, ite_false,
      Bool.false_eq_true]
  · rw [← BitVec.xor_assoc, ← BitVec.xor_assoc, BitVec.xor_comm polynomial]
  · rw [BitVec.xor_assoc]
  · -- the polynomial is taken off twice
    rw [BitVec.xor_comm polynomial, BitVec.xor_assoc, ← BitVec.xor_assoc polynomial,
      BitVec.xor_self, BitVec.zero_xor]

theorem steps_xor (k : Nat) (a b : BitVec 32) :
    steps polynomial k (a ^^^ b) = steps polynomial k a ^^^ steps polynomial k b := by
  induction k generalizing a b with
  | zero => rfl
  | succ k ih =>
    rw [steps, step_xor, ih]
    rfl

/-- Zeros are shifted out and nothing else happens. -/
theorem steps_zeros {k : Nat} {c : BitVec 32} (zeros : ∀ i < k, c.getLsbD i = false) :
    steps polynomial k c = c >>> k := by
  induction k generalizing c with
  | zero => simp [steps]
  | succ k ih =>
    have low : step polynomial c = c >>> 1 := by
      unfold step
      rw [zeros 0 (Nat.succ_pos k)]
      rfl
    have rest : ∀ i < k, (c >>> 1).getLsbD i = false := by
      intro i inside
      rw [BitVec.getLsbD_ushiftRight]
      exact zeros (1 + i) (by omega)
    rw [steps, low, ih rest, ← BitVec.shiftRight_add, Nat.add_comm]

/-- All bits may be added at once. -/
theorem feed_eq_steps {k : Nat} {data : BitVec 32} (c : BitVec 32)
    (bounded : ∀ i, k ≤ i → data.getLsbD i = false) :
    feed polynomial k c data = steps polynomial k (c ^^^ data) := by
  induction k generalizing c data with
  | zero =>
    have none' : data = 0#32 := by
      apply BitVec.eq_of_getLsbD_eq
      intro i inside
      rw [bounded i (Nat.zero_le i), BitVec.getLsbD_zero]
    rw [feed, steps, none', BitVec.xor_zero]
  | succ k ih =>
    have split : data = (data &&& 1#32) ^^^ (data &&& ~~~1#32) := by
      apply BitVec.eq_of_getLsbD_eq
      intro i inside
      simp only [BitVec.getLsbD_xor, BitVec.getLsbD_and, BitVec.getLsbD_not, inside, decide_true,
        Bool.true_and]
      cases data.getLsbD i <;> cases (1#32).getLsbD i <;> rfl
    have even : step polynomial (data &&& ~~~1#32) = data >>> 1 := by
      have low : (data &&& ~~~1#32).getLsbD 0 = false := by
        rw [BitVec.getLsbD_and, BitVec.getLsbD_not]
        simp
      unfold step
      rw [low]
      apply BitVec.eq_of_getLsbD_eq
      intro i inside
      have above : (1#32).getLsbD (1 + i) = false := by
        rw [BitVec.getLsbD_one]
        simp
      rw [if_neg Bool.false_ne_true, BitVec.getLsbD_ushiftRight, BitVec.getLsbD_ushiftRight,
        BitVec.getLsbD_and, BitVec.getLsbD_not, above]
      by_cases top : 1 + i < 32
      · simp [top]
      · simp [BitVec.getLsbD_of_ge data (1 + i) (by omega)]
    have rest : ∀ i, k ≤ i → (data >>> 1).getLsbD i = false := by
      intro i above
      rw [BitVec.getLsbD_ushiftRight]
      exact bounded (1 + i) (by omega)
    calc feed polynomial (k + 1) c data
        = steps polynomial k (step polynomial (c ^^^ (data &&& 1#32)) ^^^ (data >>> 1)) :=
          ih _ rest
      _ = steps polynomial k (step polynomial ((c ^^^ (data &&& 1#32)) ^^^
            (data &&& ~~~1#32))) := by rw [step_xor polynomial (c ^^^ _), even]
      _ = steps polynomial (k + 1) (c ^^^ data) := by
          rw [BitVec.xor_assoc, ← split]
          rfl

/-- The step of a byte is the one of the low byte alone, shifted in. -/
theorem feed_byte (c : BitVec 32) (byte : Byte) :
    feed polynomial 8 c (byte.setWidth 32) =
      steps polynomial 8 ((c ^^^ byte.setWidth 32) &&& 255#32) ^^^ (c >>> 8) := by
  have bounded : ∀ i, 8 ≤ i → (byte.setWidth 32).getLsbD i = false := by
    intro i above
    rw [BitVec.getLsbD_setWidth, BitVec.getLsbD_of_ge byte i above, Bool.and_false]
  have ones : ∀ i, (255#32).getLsbD i = decide (i < 8) := by
    intro i
    have mask : (255#32 : BitVec 32) = (BitVec.allOnes 8).setWidth 32 := rfl
    rw [mask, BitVec.getLsbD_setWidth, BitVec.getLsbD_allOnes]
    by_cases inside : i < 8
    · simp [inside, show i < 32 by omega]
    · simp [inside]
  have split : c ^^^ byte.setWidth 32 =
      ((c ^^^ byte.setWidth 32) &&& 255#32) ^^^ (c &&& ~~~255#32) := by
    apply BitVec.eq_of_getLsbD_eq
    intro i inside
    simp only [BitVec.getLsbD_xor, BitVec.getLsbD_and, BitVec.getLsbD_not, ones, inside]
    by_cases low : i < 8
    · simp [low]
    · simp [low, bounded i (by omega)]
  have high : ∀ i < 8, (c &&& ~~~255#32).getLsbD i = false := by
    intro i inside
    rw [BitVec.getLsbD_and, BitVec.getLsbD_not, ones]
    simp [inside]
  rw [feed_eq_steps polynomial c bounded, split, steps_xor, steps_zeros polynomial high, ← split]
  congr 1
  apply BitVec.eq_of_getLsbD_eq
  intro i inside
  rw [BitVec.getLsbD_ushiftRight, BitVec.getLsbD_ushiftRight, BitVec.getLsbD_and,
    BitVec.getLsbD_not, ones]
  by_cases top : 8 + i < 32
  · simp [top]
  · simp [BitVec.getLsbD_of_ge c (8 + i) (by omega)]

end CircleBackend.Library.Crc
