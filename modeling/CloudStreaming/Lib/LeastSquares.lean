import Mathlib.Algebra.Order.Field.Basic
import Mathlib.Tactic.Linarith
import Mathlib.Tactic.LinearCombination
import Mathlib.Tactic.Positivity
import Mathlib.Tactic.Ring
import Mathlib.Tactic.FieldSimp

/-!
# Weighted least squares for a line

Points carry their weight. `Minimises pts a b` says that no line has a smaller weighted sum of squared residuals
than `y = a·x + b`; with non-negative weights that is the two normal equations. `minimises_centred_iff` is the case
of a fit that takes its residual products around a point `(u, v)` which need not be the weighted mean: it is optimal
exactly when `(u, v)` lies on the optimal line.
-/

namespace LeastSquares

structure Pt (K : Type*) where
  weight : K
  x : K
  y : K

variable {K : Type*} [Field K]

/-- `∑ weight · f x y`. -/
def sum : List (Pt K) → (K → K → K) → K
  | [], _ => 0
  | p :: ps, f => p.weight * f p.x p.y + sum ps f

def total (ps : List (Pt K)) : K := sum ps fun _ _ => 1

/-- The weighted means of the two coordinates. -/
def meanX (ps : List (Pt K)) : K := (sum ps fun x _ => x) / total ps
def meanY (ps : List (Pt K)) : K := (sum ps fun _ y => y) / total ps

/-- `∑ weight · (x - u)²`, the spread of the abscissae around `u`. -/
def spread (ps : List (Pt K)) (u : K) : K := sum ps fun x _ => (x - u) * (x - u)

/-- `∑ weight · (y - v)(x - u)`. -/
def cross (ps : List (Pt K)) (u v : K) : K := sum ps fun x y => (y - v) * (x - u)

/-- The weighted sum of squared residuals of `y = a·x + b`. -/
def loss (ps : List (Pt K)) (a b : K) : K := sum ps fun x y => (a * x + b - y) ^ 2

/-! ## Moments -/

theorem spread_eq (ps : List (Pt K)) (u : K) :
    spread ps u = (sum ps fun x _ => x * x) - 2 * u * (sum ps fun x _ => x) + u * u * total ps := by
  unfold spread total
  induction ps with
  | nil => simp [sum]
  | cons p ps ih => simp only [sum, ih]; ring

theorem cross_eq (ps : List (Pt K)) (u v : K) :
    cross ps u v = (sum ps fun x y => y * x) - v * (sum ps fun x _ => x) - u * (sum ps fun _ y => y) +
      u * v * total ps := by
  unfold cross total
  induction ps with
  | nil => simp [sum]
  | cons p ps ih => simp only [sum, ih]; ring

theorem sum_residual (ps : List (Pt K)) (a b : K) :
    (sum ps fun x y => a * x + b - y) = a * (sum ps fun x _ => x) + b * total ps - sum ps fun _ y => y := by
  unfold total
  induction ps with
  | nil => simp [sum]
  | cons p ps ih => simp only [sum, ih]; ring

/-- The second normal equation of a line through `(u, v)`, taken around that point. -/
theorem sum_x_residual (ps : List (Pt K)) (a u v : K) :
    (sum ps fun x y => x * (a * x + (v - a * u) - y)) =
      a * spread ps u - cross ps u v + u * sum ps fun x y => a * x + (v - a * u) - y := by
  unfold spread cross
  induction ps with
  | nil => simp [sum]
  | cons p ps ih => simp only [sum, ih]; ring

/-- Moving a line by `(c, d)`. -/
theorem loss_add (ps : List (Pt K)) (a b c d : K) :
    loss ps (a + c) (b + d) = loss ps a b + 2 * c * (sum ps fun x y => x * (a * x + b - y)) +
      2 * d * (sum ps fun x y => a * x + b - y) + sum ps fun x _ => (c * x + d) ^ 2 := by
  unfold loss
  induction ps with
  | nil => simp [sum]
  | cons p ps ih => simp only [sum, ih]; ring

theorem sum_shift_sq (ps : List (Pt K)) (c d : K) :
    (sum ps fun x _ => (c * x + d) ^ 2) =
      c ^ 2 * (sum ps fun x _ => x * x) + 2 * c * d * (sum ps fun x _ => x) + d ^ 2 * total ps := by
  unfold total
  induction ps with
  | nil => simp [sum]
  | cons p ps ih => simp only [sum, ih]; ring

/-- The parallel-axis theorem: the spread around any point from the spread around the mean. -/
theorem spread_mean (ps : List (Pt K)) (u : K) (ht : total ps ≠ 0) :
    spread ps u = spread ps (meanX ps) + total ps * (meanX ps - u) * (meanX ps - u) := by
  rw [spread_eq, spread_eq]
  unfold meanX
  field_simp
  ring

theorem cross_mean (ps : List (Pt K)) (u v : K) (ht : total ps ≠ 0) :
    cross ps u v = cross ps (meanX ps) (meanY ps) + total ps * (meanX ps - u) * (meanY ps - v) := by
  rw [cross_eq, cross_eq]
  unfold meanX meanY
  field_simp
  ring

/-! ## Optimality -/

variable [LinearOrder K]

/-- No line has a smaller loss. -/
def Minimises (ps : List (Pt K)) (a b : K) : Prop := ∀ a' b', loss ps a b ≤ loss ps a' b'

variable [IsStrictOrderedRing K]

theorem sum_nonneg {f : K → K → K} (hf : ∀ x y, 0 ≤ f x y) :
    ∀ {ps : List (Pt K)}, (∀ p ∈ ps, 0 ≤ p.weight) → 0 ≤ sum ps f
  | [], _ => le_refl _
  | p :: _, h =>
    add_nonneg (mul_nonneg (h p List.mem_cons_self) (hf p.x p.y))
      (sum_nonneg hf fun q hq => h q (List.mem_cons_of_mem p hq))

/-- A quadratic `2·b·t + c·t²` that is nowhere negative has no linear part. -/
theorem linear_eq_zero {b c : K} (hc : 0 ≤ c) (h : ∀ t : K, 0 ≤ 2 * t * b + t ^ 2 * c) : b = 0 := by
  have ht := h (-b / (c + 1))
  have hc1 : 0 < c + 1 := by linarith
  have he : 2 * (-b / (c + 1)) * b + (-b / (c + 1)) ^ 2 * c = -(b ^ 2 * (c + 2)) / (c + 1) ^ 2 := by
    field_simp
    ring
  rw [he] at ht
  have hle : b ^ 2 * (c + 2) ≤ 0 := by
    have := (le_div_iff₀ (show 0 < (c + 1) ^ 2 by positivity)).1 ht
    linarith
  have hb : b ^ 2 ≤ 0 := by
    by_contra hb
    have := mul_pos (not_le.1 hb) (show 0 < c + 2 by linarith)
    linarith
  exact pow_eq_zero_iff (two_ne_zero) |>.1 (le_antisymm hb (sq_nonneg b))

/-- **The normal equations.** -/
theorem minimises_iff {ps : List (Pt K)} (hw : ∀ p ∈ ps, 0 ≤ p.weight) (a b : K) :
    Minimises ps a b ↔
      (sum ps fun x y => a * x + b - y) = 0 ∧ (sum ps fun x y => x * (a * x + b - y)) = 0 := by
  constructor
  · intro h
    constructor
    · -- the line moved up and down
      apply linear_eq_zero (c := total ps) (sum_nonneg (fun _ _ => zero_le_one) hw)
      intro t
      have ht := h (a + 0) (b + t)
      rw [loss_add, sum_shift_sq] at ht
      linarith
    · -- the line tilted
      apply linear_eq_zero (c := sum ps fun x _ => x * x) (sum_nonneg (fun x _ => mul_self_nonneg x) hw)
      intro t
      have ht := h (a + t) (b + 0)
      rw [loss_add, sum_shift_sq] at ht
      linarith
  · rintro ⟨h0, h1⟩ a' b'
    have he := loss_add ps a b (a' - a) (b' - b)
    rw [h0, h1, mul_zero, mul_zero, add_zero, add_zero, add_sub_cancel, add_sub_cancel] at he
    have hsq := sum_nonneg (f := fun x _ => ((a' - a) * x + (b' - b)) ^ 2) (fun _ _ => sq_nonneg _) hw
    linarith

/-- **A fit around `(u, v)`** is optimal exactly when the offset of `(u, v)` from the weighted means is along the
optimal line. -/
theorem minimises_centred_iff {ps : List (Pt K)} (hw : ∀ p ∈ ps, 0 ≤ p.weight) (ht : total ps ≠ 0) {u : K}
    (hs : spread ps u ≠ 0) (v : K) :
    Minimises ps (cross ps u v / spread ps u) (v - cross ps u v / spread ps u * u) ↔
      (v - meanY ps) * spread ps (meanX ps) = (u - meanX ps) * cross ps (meanX ps) (meanY ps) := by
  set a := cross ps u v / spread ps u with ha
  have hmul : a * spread ps u = cross ps u v := div_mul_cancel₀ _ hs
  -- the tilt is right whatever the centre is; what is left is the height
  have hres : (sum ps fun x y => a * x + (v - a * u) - y) = total ps * (a * (meanX ps - u) - (meanY ps - v)) := by
    rw [sum_residual]
    unfold meanX meanY
    field_simp
    ring
  have hnormal : Minimises ps a (v - a * u) ↔ a * (meanX ps - u) - (meanY ps - v) = 0 := by
    rw [minimises_iff hw, sum_x_residual, hmul, sub_self, zero_add, hres]
    constructor
    · rintro ⟨h, -⟩
      exact (mul_eq_zero.1 h).resolve_left ht
    · intro h
      rw [h, mul_zero, mul_zero]
      exact ⟨rfl, rfl⟩
  have hcross := cross_mean ps u v ht
  have hspread := spread_mean ps u ht
  rw [hnormal]
  constructor
  · intro h
    have h' : cross ps u v * (meanX ps - u) = (meanY ps - v) * spread ps u := by
      rw [← hmul]; linear_combination spread ps u * h
    rw [hcross, hspread] at h'
    linear_combination h'
  · intro h
    have h' : spread ps u * (a * (meanX ps - u) - (meanY ps - v)) = 0 := by
      have : a * spread ps u * (meanX ps - u) = (meanY ps - v) * spread ps u := by
        rw [hmul, hcross, hspread]; linear_combination h
      linear_combination this
    exact (mul_eq_zero.1 h').resolve_left hs

end LeastSquares
