import Mathlib.Algebra.Order.Field.Basic
import Mathlib.Tactic.Linarith
import Mathlib.Tactic.Ring
import Mathlib.Tactic.Positivity

/-!
# Geometrically weighted sums and convex combinations

`wsum r w [x₀, x₁, …] = w·x₀ + w·r·x₁ + w·r²·x₂ + …` and `wtotal r w` its sum of weights, over any
linearly ordered field. With positive weights the mean `wsum / wtotal` is at least every lower bound of
the data. `blend a x y` is the convex combination an IIR filter computes.
-/

namespace Weighted

variable {K : Type*} [Field K]

def wsum (r : K) : K → List K → K
  | _, [] => 0
  | w, x :: xs => w * x + wsum r (w * r) xs

def wtotal (r : K) : K → List K → K
  | _, [] => 0
  | w, _ :: xs => w + wtotal r (w * r) xs

/-- The mean with weights `1, r, r², …`. -/
def wmean (r : K) (xs : List K) : K := wsum r 1 xs / wtotal r 1 xs

/-- `a·x + (1 - a)·y`. -/
def blend (a x y : K) : K := a * x + (1 - a) * y

theorem wtotal_map (r : K) (f : K → K) : ∀ (xs : List K) (w : K), wtotal r w (xs.map f) = wtotal r w xs
  | [], _ => rfl
  | _ :: xs, w => by simp only [List.map_cons, wtotal, wtotal_map r f xs]

theorem wsum_affine (r a b : K) :
    ∀ (xs : List K) (w : K), wsum r w (xs.map fun x => a * x + b) = a * wsum r w xs + b * wtotal r w xs
  | [], _ => by simp [wsum, wtotal]
  | x :: xs, w => by simp only [List.map_cons, wsum, wtotal, wsum_affine r a b xs]; ring

/-- The mean of points on a line is on the line. -/
theorem wmean_affine {r : K} {xs : List K} (ht : wtotal r 1 xs ≠ 0) (a b : K) :
    wmean r (xs.map fun x => a * x + b) = a * wmean r xs + b := by
  unfold wmean
  rw [wsum_affine, wtotal_map, add_div, mul_div_assoc, mul_div_assoc, div_self ht, mul_one]

variable [LinearOrder K] [IsStrictOrderedRing K]

theorem wtotal_nonneg {r : K} (hr : 0 < r) : ∀ (xs : List K) (w : K), 0 < w → 0 ≤ wtotal r w xs
  | [], _, _ => le_refl _
  | _ :: xs, w, hw => add_nonneg hw.le (wtotal_nonneg hr xs (w * r) (mul_pos hw hr))

theorem le_wtotal {r w : K} (hr : 0 < r) (hw : 0 < w) {xs : List K} (hx : xs ≠ []) : w ≤ wtotal r w xs := by
  cases xs with
  | nil => exact absurd rfl hx
  | cons x xs =>
    have := wtotal_nonneg hr xs (w * r) (mul_pos hw hr)
    simp only [wtotal]; linarith

theorem le_wsum {r a : K} (hr : 0 < r) :
    ∀ (xs : List K) (w : K), 0 < w → (∀ x ∈ xs, a ≤ x) → a * wtotal r w xs ≤ wsum r w xs
  | [], _, _, _ => by simp [wtotal, wsum]
  | x :: xs, w, hw, h => by
    have ih := le_wsum hr xs (w * r) (mul_pos hw hr) (fun y hy => h y (List.mem_cons_of_mem x hy))
    have hx : w * a ≤ w * x := mul_le_mul_of_nonneg_left (h x List.mem_cons_self) hw.le
    calc a * (w + wtotal r (w * r) xs) = w * a + a * wtotal r (w * r) xs := by ring
      _ ≤ w * x + wsum r (w * r) xs := add_le_add hx ih

/-- The weighted mean is at least any lower bound of the data. -/
theorem le_mean {r a w : K} (hr : 0 < r) (hw : 0 < w) {xs : List K} (hx : xs ≠ []) (h : ∀ x ∈ xs, a ≤ x) :
    a ≤ wsum r w xs / wtotal r w xs := by
  rw [le_div_iff₀ (lt_of_lt_of_le hw (le_wtotal hr hw hx))]
  exact le_wsum hr xs w hw h

theorem blend_le {a x y b : K} (h0 : 0 ≤ a) (h1 : a ≤ 1) (hx : x ≤ b) (hy : y ≤ b) : blend a x y ≤ b := by
  have hx' : a * x ≤ a * b := mul_le_mul_of_nonneg_left hx h0
  have hy' : (1 - a) * y ≤ (1 - a) * b := mul_le_mul_of_nonneg_left hy (by linarith)
  calc blend a x y ≤ a * b + (1 - a) * b := add_le_add hx' hy'
    _ = b := by ring

theorem le_blend {a x y b : K} (h0 : 0 ≤ a) (h1 : a ≤ 1) (hx : b ≤ x) (hy : b ≤ y) : b ≤ blend a x y := by
  have hx' : a * b ≤ a * x := mul_le_mul_of_nonneg_left hx h0
  have hy' : (1 - a) * b ≤ (1 - a) * y := mul_le_mul_of_nonneg_left hy (by linarith)
  calc b = a * b + (1 - a) * b := by ring
    _ ≤ blend a x y := add_le_add hx' hy'

end Weighted
