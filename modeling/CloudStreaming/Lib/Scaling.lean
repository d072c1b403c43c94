import CloudStreaming.Lib.Rounding

/-!
# Scaling a position

A position in a range `0 .. n` of integers is brought to a range `0 .. m` by a division, a multiplication and a truncation,
with the quotient and the product rounded. Whatever the roundings do, the position stays in its range, the ends go to the
ends and the order is kept.
-/

namespace Rounding

variable {K : Type*} [Field K] [LinearOrder K] [FloorRing K] {p : ℕ}

def scaled (fl : Rounding K p) (x n m : ℤ) : ℤ := trunc (fl.round (fl.round (x / n) * m))

section
variable [IsStrictOrderedRing K]

variable (fl : Rounding K p) {x y n m : ℤ}

/-- The quotient of a position in its range. -/
theorem quotient_mem (hx : 0 ≤ x) (hxn : x ≤ n) (hn : 0 < n) :
    0 ≤ fl.round ((x : K) / n) ∧ fl.round ((x : K) / n) ≤ 1 := by
  have hn' : (0 : K) < n := Int.cast_pos.mpr hn
  have hle : (x : K) / n ≤ ((1 : ℤ) : K) := by
    rw [Int.cast_one, div_le_one hn']
    exact Int.cast_le.mpr hxn
  refine ⟨fl.round_nonneg (div_nonneg (Int.cast_nonneg hx) hn'.le), ?_⟩
  simpa using fl.round_le_int (n := 1) (by rw [abs_one]; exact one_le_pow₀ (by norm_num)) hle

theorem product_mem (hx : 0 ≤ x) (hxn : x ≤ n) (hn : 0 < n) (hm : 0 ≤ m) (hmp : m ≤ 2 ^ p) :
    0 ≤ fl.round (fl.round ((x : K) / n) * m) ∧ fl.round (fl.round ((x : K) / n) * m) ≤ m := by
  obtain ⟨h0, h1⟩ := fl.quotient_mem hx hxn hn
  have hm' : (0 : K) ≤ m := Int.cast_nonneg hm
  refine ⟨fl.round_nonneg (mul_nonneg h0 hm'), fl.round_le_int (by rwa [abs_of_nonneg hm]) ?_⟩
  exact mul_le_of_le_one_left hm' h1

theorem scaled_mem (hx : 0 ≤ x) (hxn : x ≤ n) (hn : 0 < n) (hm : 0 ≤ m) (hmp : m ≤ 2 ^ p) :
    0 ≤ fl.scaled x n m ∧ fl.scaled x n m ≤ m := by
  obtain ⟨h0, h1⟩ := fl.product_mem hx hxn hn hm hmp
  exact ⟨trunc_nonneg h0, trunc_le h0 h1⟩

/-- **The order is kept.** -/
theorem scaled_mono (hx : 0 ≤ x) (hxy : x ≤ y) (hn : 0 < n) (hm : 0 ≤ m) : fl.scaled x n m ≤ fl.scaled y n m := by
  have hn' : (0 : K) < n := Int.cast_pos.mpr hn
  have hm' : (0 : K) ≤ m := Int.cast_nonneg hm
  have hq : (0 : K) ≤ fl.round ((x : K) / n) := fl.round_nonneg (div_nonneg (Int.cast_nonneg hx) hn'.le)
  refine trunc_mono (fl.round_nonneg (mul_nonneg hq hm')) (fl.round_mono (mul_le_mul_of_nonneg_right ?_ hm'))
  exact fl.round_mono (div_le_div_of_nonneg_right (Int.cast_le.mpr hxy) hn'.le)

/-- **The ends go to the ends.** -/
theorem scaled_zero : fl.scaled 0 n m = 0 := by
  have h0 : fl.round (0 : K) = 0 := by simpa using fl.round_int (n := 0) (by simp)
  have ht := trunc_intCast (K := K) 0
  rw [Int.cast_zero] at ht
  rw [scaled, Int.cast_zero, zero_div, h0, zero_mul, h0, ht]

theorem scaled_full (hn : 0 < n) (hm : 0 ≤ m) (hmp : m ≤ 2 ^ p) : fl.scaled n n m = m := by
  have hone : fl.round (1 : K) = 1 := by
    simpa using fl.round_int (n := 1) (by rw [abs_one]; exact one_le_pow₀ (by norm_num))
  rw [scaled, div_self (Int.cast_ne_zero.mpr hn.ne'), hone, one_mul, fl.round_int (by rwa [abs_of_nonneg hm]),
    trunc_intCast]

end

end Rounding
