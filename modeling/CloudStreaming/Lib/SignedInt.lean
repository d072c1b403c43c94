import Mathlib.Algebra.Group.Nat.Defs
import Mathlib.Algebra.Ring.Int.Defs
import Mathlib.Algebra.GroupWithZero.Nat

/-!
# Signed machine integers

A computation on signed words that wrap around, with a record of whether one of its operations did. `Meets c Q` is the
triple of such a computation: no operation wraps, and the result satisfies `Q`. The rules for `pure`, for sequencing and
for the three operations reduce it to the ranges of the exact results. Rounding up to a power of two by masking is the
exact rounding of a non-negative word.
-/

/-- A value and whether an operation on the way to it has overflowed. -/
structure Checked (α : Type) where
  val : α
  overflow : Bool
deriving DecidableEq

namespace Checked

instance : Monad Checked where
  pure a := ⟨a, false⟩
  bind c f := ⟨(f c.val).val, c.overflow || (f c.val).overflow⟩

section
variable {α β : Type}

/-- No operation overflows and the result satisfies `Q`. -/
def Meets (c : Checked α) (Q : α → Prop) : Prop := c.overflow = false ∧ Q c.val

theorem meets_pure {a : α} {Q : α → Prop} (h : Q a) : Meets (pure a : Checked α) Q := ⟨rfl, h⟩

/-- After a computation that does not overflow, only the rest counts. -/
theorem bind_meets_iff {c : Checked α} {f : α → Checked β} {R : β → Prop} (hc : c.overflow = false) :
    (c >>= f).Meets R ↔ (f c.val).Meets R := by
  change (c.overflow || (f c.val).overflow) = false ∧ R (f c.val).val ↔ _
  rw [hc, Bool.false_or]
  rfl

theorem Meets.bind {c : Checked α} {f : α → Checked β} {Q : α → Prop} {R : β → Prop} (hc : c.Meets Q)
    (hf : ∀ v, Q v → (f v).Meets R) : (c >>= f).Meets R :=
  (bind_meets_iff hc.1).mpr (hf c.val hc.2)

theorem not_meets_of_overflow {c : Checked α} {Q : α → Prop} (h : c.overflow = true) : ¬ c.Meets Q := by
  intro hc
  rw [hc.1] at h
  cases h

/-- An overflow stays on record. -/
theorem bind_overflow_left {c : Checked α} (f : α → Checked β) (h : c.overflow = true) :
    (c >>= f).overflow = true := by
  change (c.overflow || (f c.val).overflow) = true
  rw [h]
  rfl

end

section
variable {w : Nat}

def add (x y : BitVec w) : Checked (BitVec w) := ⟨x + y, x.saddOverflow y⟩
def sub (x y : BitVec w) : Checked (BitVec w) := ⟨x - y, x.ssubOverflow y⟩
def mul (x y : BitVec w) : Checked (BitVec w) := ⟨x * y, x.smulOverflow y⟩

/-- The exact result is a word. -/
def Fits (w : Nat) (z : Int) : Prop := -2 ^ (w - 1) ≤ z ∧ z < 2 ^ (w - 1)

/-- The two comparisons in which core defines the overflow of an operation. -/
theorem Fits.noOverflow {z : Int} (h : Fits w z) :
    (decide (z ≥ 2 ^ (w - 1)) || decide (z < -2 ^ (w - 1))) = false := by
  obtain ⟨hlo, hhi⟩ := h
  rw [Bool.or_eq_false_iff, decide_eq_false_iff_not, decide_eq_false_iff_not]
  constructor <;> omega

variable {x y : BitVec w}

theorem add_meets (h : Fits w (x.toInt + y.toInt)) : (add x y).Meets (·.toInt = x.toInt + y.toInt) := by
  have hov : x.saddOverflow y = false := h.noOverflow
  refine ⟨hov, ?_⟩
  apply BitVec.toInt_add_of_not_saddOverflow
  rw [hov]
  exact Bool.false_ne_true

theorem sub_meets (h : Fits w (x.toInt - y.toInt)) : (sub x y).Meets (·.toInt = x.toInt - y.toInt) := by
  have hov : x.ssubOverflow y = false := h.noOverflow
  refine ⟨hov, ?_⟩
  apply BitVec.toInt_sub_of_not_ssubOverflow
  rw [hov]
  exact Bool.false_ne_true

theorem mul_meets (h : Fits w (x.toInt * y.toInt)) : (mul x y).Meets (·.toInt = x.toInt * y.toInt) := by
  have hov : x.smulOverflow y = false := h.noOverflow
  refine ⟨hov, ?_⟩
  apply BitVec.toInt_mul_of_not_smulOverflow
  rw [hov]
  exact Bool.false_ne_true

theorem add_overflow (h : 2 ^ (w - 1) ≤ x.toInt + y.toInt) : (add x y).overflow = true := by
  simp only [add, BitVec.saddOverflow, Bool.or_eq_true, decide_eq_true_eq]
  exact Or.inl h

theorem mul_overflow (h : 2 ^ (w - 1) ≤ x.toInt * y.toInt) : (mul x y).overflow = true := by
  simp only [mul, BitVec.smulOverflow, Bool.or_eq_true, decide_eq_true_eq]
  exact Or.inl h

end
end Checked

/-! ## Rounding up -/

/-- The least multiple of `a` that is at least `x`. -/
def roundUp (x a : Int) : Int := (x + a - 1) / a * a

theorem le_roundUp (x : Int) {a : Int} (ha : 0 < a) : x ≤ roundUp x a := by
  have hdiv := Int.emod_add_mul_ediv (x + a - 1) a
  have hmod := Int.emod_lt_of_pos (x + a - 1) ha
  unfold roundUp
  rw [Int.mul_comm]
  omega

theorem roundUp_lt (x : Int) {a : Int} (ha : 0 < a) : roundUp x a < x + a := by
  have hdiv := Int.emod_add_mul_ediv (x + a - 1) a
  have hmod := Int.emod_nonneg (x + a - 1) (Int.ne_of_gt ha)
  unfold roundUp
  rw [Int.mul_comm]
  omega

section
variable {w : Nat}

theorem BitVec.toNat_and_not_low (x m : BitVec w) {k : Nat} (hm : m.toNat = 2 ^ k - 1) :
    (x &&& ~~~m).toNat = x.toNat / 2 ^ k * 2 ^ k := by
  apply Nat.eq_of_testBit_eq
  intro i
  rw [BitVec.testBit_toNat, BitVec.getLsbD_and, BitVec.getLsbD_not, ← BitVec.testBit_toNat, ← BitVec.testBit_toNat, hm,
    Nat.testBit_two_pow_sub_one, Nat.testBit_mul_two_pow, Nat.testBit_div_two_pow]
  by_cases hi : i < w
  · by_cases hk : i < k
    · simp [hk, Nat.not_le.mpr hk]
    · have hki : k ≤ i := by omega
      simp [hi, hk, hki]
  · have hbit : x.toNat.testBit i = false := by
      apply Nat.testBit_lt_two_pow
      exact Nat.lt_of_lt_of_le x.isLt (Nat.pow_le_pow_right (by decide) (by omega))
    by_cases hk : k ≤ i
    · simp [hi, hbit, hk]
    · simp [hi, hk]

theorem BitVec.two_mul_toNat_lt {x : BitVec w} (hx : 0 ≤ x.toInt) : 2 * x.toNat < 2 ^ w := by
  rw [BitVec.toInt_eq_toNat_cond] at hx
  split at hx
  · assumption
  · have := x.isLt
    omega

theorem BitVec.toInt_eq_toNat_of_nonneg {x : BitVec w} (hx : 0 ≤ x.toInt) : x.toInt = x.toNat := by
  rw [BitVec.toInt_eq_toNat_cond, if_pos (BitVec.two_mul_toNat_lt hx)]

/-- Clearing the low bits of a non-negative word rounds it down. -/
theorem BitVec.toInt_and_not_low {x m : BitVec w} {k : Nat} (hx : 0 ≤ x.toInt) (hm : m.toInt = 2 ^ k - 1) :
    (x &&& ~~~m).toInt = x.toInt / 2 ^ k * 2 ^ k := by
  have hpow : (1 : Int) ≤ 2 ^ k := Int.pow_pos (by decide)
  have hmnat : m.toNat = 2 ^ k - 1 := by
    rw [BitVec.toInt_eq_toNat_of_nonneg (by omega)] at hm
    have hcast : ((2 ^ k : Nat) : Int) = 2 ^ k := by simp
    omega
  have hlow := BitVec.toNat_and_not_low x m hmnat
  have hle : x.toNat / 2 ^ k * 2 ^ k ≤ x.toNat := Nat.div_mul_le_self _ _
  have hsmall := BitVec.two_mul_toNat_lt hx
  rw [BitVec.toInt_eq_toNat_cond, if_pos (by omega), hlow, BitVec.toInt_eq_toNat_of_nonneg hx]
  simp

end
