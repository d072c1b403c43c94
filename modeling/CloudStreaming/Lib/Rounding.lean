import Mathlib.Algebra.Order.Floor.Ring
import Mathlib.Algebra.Order.Field.Basic
import Mathlib.Tactic.Linarith

/-!
# Rounding to nearest

A number format is a set of representable values and a choice of a nearest one for every value. Whatever the tie rule,
rounding is monotone and leaves representable values alone, so the rounding of a value between two integers of the
format is between them too. `trunc` is the conversion to an integer that drops the fraction.
-/

/-- Every integer of at most `p` bits is representable. -/
structure Rounding (K : Type*) [Field K] [LinearOrder K] (p : ℕ) where
  Representable : Set K
  round : K → K
  round_mem : ∀ x, round x ∈ Representable
  nearest : ∀ x, ∀ y ∈ Representable, |x - round x| ≤ |x - y|
  int_mem : ∀ n : ℤ, |n| ≤ 2 ^ p → (n : K) ∈ Representable

namespace Rounding

section
variable {K : Type*} [Field K] [LinearOrder K] [IsStrictOrderedRing K] {p : ℕ}

/-- The format without rounding. -/
def exact : Rounding K p where
  Representable := Set.univ
  round := id
  round_mem := fun x => Set.mem_univ x
  nearest := fun x y _ => by simp
  int_mem := fun n _ => Set.mem_univ (n : K)

variable (fl : Rounding K p)

theorem round_of_mem {x : K} (hx : x ∈ fl.Representable) : fl.round x = x := by
  have h := fl.nearest x x hx
  rw [sub_self, abs_zero] at h
  exact (sub_eq_zero.mp (abs_nonpos_iff.mp h)).symm

theorem round_int {n : ℤ} (hn : |n| ≤ 2 ^ p) : fl.round n = n := fl.round_of_mem (fl.int_mem n hn)

theorem mid_le_of_nearer {x v w : K} (hwv : w < v) (h : |x - v| ≤ |x - w|) : v + w ≤ 2 * x := by
  by_contra hlt
  have hright : |x - w| < v - x := abs_lt.mpr ⟨by linarith, by linarith⟩
  have hleft : v - x ≤ |x - v| := by
    rw [abs_sub_comm]
    exact le_abs_self (v - x)
  linarith

theorem le_mid_of_nearer {x v w : K} (hvw : v < w) (h : |x - v| ≤ |x - w|) : 2 * x ≤ v + w := by
  by_contra hlt
  have hleft : |x - w| < x - v := abs_lt.mpr ⟨by linarith, by linarith⟩
  have hright : x - v ≤ |x - v| := le_abs_self (x - v)
  linarith

/-- Were the order reversed, both values would be at the midpoint of their roundings. -/
theorem round_mono {x y : K} (hxy : x ≤ y) : fl.round x ≤ fl.round y := by
  by_contra hlt
  rw [not_le] at hlt
  have hx := mid_le_of_nearer hlt (fl.nearest x (fl.round y) (fl.round_mem y))
  have hy := le_mid_of_nearer hlt (fl.nearest y (fl.round x) (fl.round_mem x))
  have heq : x = y := by linarith
  rw [heq] at hlt
  exact lt_irrefl _ hlt

theorem int_le_round {n : ℤ} {x : K} (hn : |n| ≤ 2 ^ p) (h : (n : K) ≤ x) : (n : K) ≤ fl.round x := by
  rw [← fl.round_int hn]
  exact fl.round_mono h

theorem round_le_int {n : ℤ} {x : K} (hn : |n| ≤ 2 ^ p) (h : x ≤ n) : fl.round x ≤ n := by
  rw [← fl.round_int hn]
  exact fl.round_mono h

theorem abs_round_le {n : ℤ} {x : K} (hn : |n| ≤ 2 ^ p) (h : |x| ≤ n) : |fl.round x| ≤ n := by
  obtain ⟨hlo, hhi⟩ := abs_le.mp h
  have hlo' : ((-n : ℤ) : K) ≤ x := by rwa [Int.cast_neg]
  have hlow := fl.int_le_round (by rwa [abs_neg]) hlo'
  exact abs_le.mpr ⟨by rwa [Int.cast_neg] at hlow, fl.round_le_int hn hhi⟩

theorem round_nonneg {x : K} (h : 0 ≤ x) : 0 ≤ fl.round x := by
  have h0 := fl.int_le_round (n := 0) (by simp) (by simpa using h)
  simpa using h0

end

/-! ## Truncation -/

section
variable {K : Type*} [Field K] [LinearOrder K] [FloorRing K]

def trunc (x : K) : ℤ := if 0 ≤ x then ⌊x⌋ else ⌈x⌉

theorem trunc_of_nonneg {x : K} (h : 0 ≤ x) : trunc x = ⌊x⌋ := if_pos h

theorem trunc_mono {x y : K} (hx : 0 ≤ x) (hxy : x ≤ y) : trunc x ≤ trunc y := by
  rw [trunc_of_nonneg hx, trunc_of_nonneg (hx.trans hxy)]
  exact Int.floor_mono hxy

theorem trunc_nonneg {x : K} (hx : 0 ≤ x) : 0 ≤ trunc x := by
  rw [trunc_of_nonneg hx]
  exact Int.floor_nonneg.mpr hx

/-- `n` is the whole part of `x`: what is left has the sign of `x` and is less than one. -/
def IsWhole (x : K) (n : ℤ) : Prop := (0 ≤ x ∧ (n : K) ≤ x ∧ x < n + 1) ∨ (x < 0 ∧ (n : K) - 1 < x ∧ x ≤ n)

theorem isWhole_iff {x : K} {n : ℤ} : IsWhole x n ↔ trunc x = n := by
  by_cases h : 0 ≤ x
  · have hneg : ¬ x < 0 := h.not_gt
    rw [trunc, if_pos h, Int.floor_eq_iff]
    simp only [IsWhole, h, hneg, true_and, false_and, or_false]
  · have hneg : x < 0 := not_le.mp h
    rw [trunc, if_neg h, Int.ceil_eq_iff]
    simp only [IsWhole, h, hneg, true_and, false_and, false_or]

variable [IsStrictOrderedRing K]

theorem trunc_le {x : K} {n : ℤ} (hx : 0 ≤ x) (hn : x ≤ n) : trunc x ≤ n := by
  rw [trunc_of_nonneg hx]
  exact Int.floor_le_iff.mpr (by linarith)

theorem trunc_nonpos {x : K} (hx : x ≤ 0) : trunc x ≤ 0 := by
  unfold trunc
  split
  · next h => rw [le_antisymm hx h, Int.floor_zero]
  · exact Int.ceil_nonpos.mpr hx

theorem abs_trunc_le {x : K} {n : ℤ} (h : |x| ≤ n) : |trunc x| ≤ n := by
  obtain ⟨hlo, hhi⟩ := abs_le.mp h
  have hlo' : ((-n : ℤ) : K) ≤ x := by rwa [Int.cast_neg]
  unfold trunc
  split
  · exact abs_le.mpr ⟨Int.le_floor.mpr hlo', Int.cast_le.mp ((Int.floor_le x).trans hhi)⟩
  · exact abs_le.mpr ⟨Int.cast_le.mp (hlo'.trans (Int.le_ceil x)), Int.ceil_le.mpr hhi⟩

@[simp] theorem trunc_intCast (n : ℤ) : trunc (n : K) = n := by
  by_cases h : (0 : K) ≤ n
  · rw [trunc, if_pos h, Int.floor_intCast]
  · rw [trunc, if_neg h, Int.ceil_intCast]

/-- What truncation drops is less than one. -/
theorem abs_sub_trunc_lt (x : K) : |x - trunc x| < 1 := by
  rw [abs_lt]
  by_cases h : 0 ≤ x
  · rw [trunc, if_pos h]
    exact ⟨by linarith [Int.floor_le x], by linarith [Int.lt_floor_add_one x]⟩
  · rw [trunc, if_neg h]
    exact ⟨by linarith [Int.ceil_lt_add_one x], by linarith [Int.le_ceil x]⟩

end
end Rounding
