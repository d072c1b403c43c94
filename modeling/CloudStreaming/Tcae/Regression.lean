import CloudStreaming.Lib.LeastSquares
import CloudStreaming.Tcae.Model

/-!
# The weighted regression against its optimum (`net_pred.cpp:252-436`, `doc/tcae.md` equations (1) to (3))

The design document defines the model as the line that minimises `∑ ω(t)² (α s + β - d)²` (2) and then gives a
closed form (3) for it. `UpdateModelNormal` computes that closed form. It is not the minimum: the products are
weighted with `ω(t)²`, the two means they are taken around with `ω(t)`. The slope is the right one for a line
through the `ω`-weighted mean point, but the best line goes through the `ω²`-weighted one, so the fit is optimal
exactly when the first point lies on the best line too (`updateModelNormal_minimises_iff`).

Records that lie on one line are such a case, and `UpdateModel` finds that line (`updateModel_line`).
-/

namespace CloudStreaming.Tcae.NetPred

open Weighted LeastSquares

variable {K : Type} [Field K] [LinearOrder K]

/-- The records `(delay, size)` as the summands of (2): record `t` with the weight `(w·r^t)²`. -/
def regressionPts (r w : K) (recs : List (K × K)) : List (Pt K) :=
  recs.mapIdx fun t x => ⟨(w * r ^ t) ^ 2, x.2, x.1⟩

theorem regressionPts_cons {K : Type} [Field K] (r w : K) (x : K × K) (recs : List (K × K)) :
    regressionPts r w (x :: recs) = ⟨w ^ 2, x.2, x.1⟩ :: regressionPts r (w * r) recs := by
  unfold regressionPts
  rw [List.mapIdx_cons]
  simp only [pow_zero, mul_one, pow_succ']
  simp only [← mul_assoc]

theorem regressionPts_weight_nonneg [IsStrictOrderedRing K]
    (r w : K) (recs : List (K × K)) : ∀ p ∈ regressionPts r w recs, 0 ≤ p.weight := by
  intro p hp
  obtain ⟨t, _, rfl⟩ := List.mem_mapIdx.1 hp
  exact sq_nonneg _

/-! ## The loops -/

/-- On records none of which is blank the loop accumulates the two moments around the given means. -/
theorem regressionLoop_eq (r u v : K) :
    ∀ (recs : List (K × K)) (accD accN w : K), (∀ x ∈ recs, blank x = false) →
      regressionLoop r v u accD accN w recs =
        (accD + cross (regressionPts r w recs) u v, accN + spread (regressionPts r w recs) u)
  | [], accD, accN, w, _ => by simp [regressionLoop, regressionPts, cross, spread, LeastSquares.sum]
  | x :: recs, accD, accN, w, h => by
    have hx : blank x = false := h x List.mem_cons_self
    rw [regressionLoop, hx, if_neg (by simp),
      regressionLoop_eq r u v recs _ _ (w * r) (fun y hy => h y (List.mem_cons_of_mem x hy)), regressionPts_cons]
    simp only [cross, spread, LeastSquares.sum, Prod.mk.injEq]
    constructor <;> ring

theorem one_le_wtotal [IsStrictOrderedRing K]
    (m : CMath K) {xs : List K} (hx : xs ≠ []) : 1 ≤ wtotal m.forgotRatio 1 xs :=
  le_wtotal m.forgotRatio_pos one_pos hx

theorem weightedMean_eq [IsStrictOrderedRing K] (m : CMath K) (p : NetPred K) {xs : List K} (hx : xs ≠ []) :
    p.weightedMean m xs = (wmean m.forgotRatio xs, p.divides (wtotal m.forgotRatio 1 xs)) := by
  have hn : ¬ wtotal m.forgotRatio 1 xs < tiny := by
    have ht : (tiny : K) ≤ 1 := by unfold tiny; norm_num
    exact not_lt.2 (ht.trans (one_le_wtotal m hx))
  unfold weightedMean
  simp only [weightedMeanLoop_eq, zero_add, hn, if_false]
  rfl

/-! ## `UpdateModelNormal` -/

/-- `accN` of `UpdateModelNormal` on these records. -/
def regressionAccN (r : K) (recs : List (K × K)) : K :=
  (regressionLoop r (wmean r (recs.map Prod.fst)) (wmean r (recs.map Prod.snd)) 0 0 1 recs).2

theorem ne_nil_of_accN [IsStrictOrderedRing K]
    {r : K} {recs : List (K × K)} (h : tiny ≤ regressionAccN r recs) : recs ≠ [] := by
  rintro rfl
  exact absurd h (not_le.2 tiny_pos)

/-- **The regression branch**: the model is the fit around the two `ω`-weighted means. -/
theorem updateModelNormal_regression [IsStrictOrderedRing K] (m : CMath K) (p : NetPred K) (recs : List (K × K))
    (hlen : 2 / 10 * (p.recordedLen : K) ≤ (recs.length : K)) (hz : ∀ x ∈ recs, blank x = false)
    (hacc : tiny ≤ regressionAccN m.forgotRatio recs) :
    let q := p.updateModelNormal m (recs.map Prod.fst) (recs.map Prod.snd)
    let ps := regressionPts m.forgotRatio 1 recs
    let u := wmean m.forgotRatio (recs.map Prod.snd)
    let v := wmean m.forgotRatio (recs.map Prod.fst)
    q.reverseBandWidth = cross ps u v / spread ps u ∧
      q.propagotionDelay = v - cross ps u v / spread ps u * u := by
  intro q ps u v
  have hne := ne_nil_of_accN hacc
  have hd : recs.map Prod.fst ≠ [] := by simpa using hne
  have hs : recs.map Prod.snd ≠ [] := by simpa using hne
  have hzip : (recs.map Prod.fst).zip (recs.map Prod.snd) = recs := by
    rw [List.zip_map']
    exact List.map_id recs
  have hloop : regressionLoop m.forgotRatio (wmean m.forgotRatio (recs.map Prod.fst))
      (wmean m.forgotRatio (recs.map Prod.snd)) 0 0 1 recs = (cross ps u v, spread ps u) := by
    rw [regressionLoop_eq m.forgotRatio u v recs 0 0 1 hz, zero_add, zero_add]
  have hacc' : ¬ spread ps u < tiny := by
    have : regressionAccN m.forgotRatio recs = spread ps u := congrArg Prod.snd hloop
    rw [← this]
    exact not_lt.2 hacc
  have hq : q = { ((p.divides (wtotal m.forgotRatio 1 (recs.map Prod.fst))).divides
      (wtotal m.forgotRatio 1 (recs.map Prod.snd))).divides (spread ps u) with
      reverseBandWidth := cross ps u v / spread ps u
      propagotionDelay := v - cross ps u v / spread ps u * u } := by
    show p.updateModelNormal m (recs.map Prod.fst) (recs.map Prod.snd) = _
    unfold updateModelNormal
    rw [if_neg (by rw [List.length_map]; exact not_lt.2 hlen)]
    simp only [weightedMean_eq m _ hd, weightedMean_eq m _ hs, hzip, hloop, hacc', if_false]
    rfl
  rw [hq]
  exact ⟨rfl, rfl⟩

theorem total_pos [IsStrictOrderedRing K]
    (r : K) (recs : List (K × K)) (h : recs ≠ []) : 0 < total (regressionPts r 1 recs) := by
  cases recs with
  | nil => exact absurd rfl h
  | cons x recs =>
    have hrest : 0 ≤ total (regressionPts r (1 * r) recs) :=
      LeastSquares.sum_nonneg (fun _ _ => zero_le_one) (regressionPts_weight_nonneg r (1 * r) recs)
    have he : total (regressionPts r 1 (x :: recs)) = 1 + total (regressionPts r (1 * r) recs) := by
      rw [regressionPts_cons]
      simp only [total, LeastSquares.sum, one_pow, mul_one]
    rw [he]
    linarith

theorem spread_regressionPts {r : K} {recs : List (K × K)} (hz : ∀ x ∈ recs, blank x = false) :
    spread (regressionPts r 1 recs) (wmean r (recs.map Prod.snd)) = regressionAccN r recs := by
  unfold regressionAccN
  rw [regressionLoop_eq r _ _ recs 0 0 1 hz]
  exact (zero_add _).symm

/-- **The fit is the documented optimum exactly when the `ω`-weighted mean point lies on the optimal line**: its
offset from the `ω²`-weighted mean point has the optimal slope. -/
theorem updateModelNormal_minimises_iff [IsStrictOrderedRing K] (m : CMath K) (p : NetPred K) (recs : List (K × K))
    (hlen : 2 / 10 * (p.recordedLen : K) ≤ (recs.length : K)) (hz : ∀ x ∈ recs, blank x = false)
    (hacc : tiny ≤ regressionAccN m.forgotRatio recs) :
    let q := p.updateModelNormal m (recs.map Prod.fst) (recs.map Prod.snd)
    let ps := regressionPts m.forgotRatio 1 recs
    Minimises ps q.reverseBandWidth q.propagotionDelay ↔
      (wmean m.forgotRatio (recs.map Prod.fst) - meanY ps) * spread ps (meanX ps) =
        (wmean m.forgotRatio (recs.map Prod.snd) - meanX ps) * cross ps (meanX ps) (meanY ps) := by
  intro q ps
  obtain ⟨hbw, hpd⟩ := updateModelNormal_regression m p recs hlen hz hacc
  have ht : total ps ≠ 0 := (total_pos m.forgotRatio recs (ne_nil_of_accN hacc)).ne'
  have hs : spread ps (wmean m.forgotRatio (recs.map Prod.snd)) ≠ 0 := by
    rw [spread_regressionPts hz]
    exact (lt_of_lt_of_le tiny_pos hacc).ne'
  show Minimises ps q.reverseBandWidth q.propagotionDelay ↔ _
  rw [hbw, hpd]
  exact minimises_centred_iff (regressionPts_weight_nonneg _ _ _) ht hs _

/-- A forgetting ratio of one half; the fits take no square root. -/
def halfMath : CMath ℚ where
  sqrt _ := 0
  forgotRatio := 1 / 2
  sqrt_nonneg _ := le_refl 0
  forgotRatio_pos := by norm_num

theorem not_blank {recs : List (K × K)} (h : (recs.all fun x => !blank x) = true) : ∀ x ∈ recs, blank x = false :=
  fun x hx => by simpa using List.all_eq_true.1 h x hx

/-- Three records off any common line whose fit is optimal all the same. -/
theorem updateModelNormal_minimises_threeRecords :
    Minimises (regressionPts (1 / 2 : ℚ) 1 [(4, 1), (3, 2), (12, 4)]) (7 / 4) (13 / 7) := by
  have h := updateModelNormal_minimises_iff halfMath ((new true).setRecordedLen 10) [(4, 1), (3, 2), (12, 4)]
    (by decide +kernel) (not_blank (by decide +kernel)) (by decide +kernel)
  have hfit : ((new true).setRecordedLen 10 : NetPred ℚ).updateModelNormal halfMath [4, 3, 12] [1, 2, 4] |>
      fun q => q.reverseBandWidth = 7 / 4 ∧ q.propagotionDelay = 13 / 7 := by decide +kernel
  have hopt := h.mpr (by decide +kernel)
  simp only [List.map_cons, List.map_nil, hfit.1, hfit.2] at hopt
  exact hopt

/-- Records of 1, 2 and 3 kB after 2, 3 and 5 ms: the fit `9/7 s + 34/49` loses to `14/11 s + 23/33`. -/
theorem updateModelNormal_not_optimal :
    let recs : List (ℚ × ℚ) := [(2, 1), (3, 2), (5, 3)]
    let p : NetPred ℚ := (new true).setRecordedLen 10
    let q := p.updateModelNormal halfMath (recs.map Prod.fst) (recs.map Prod.snd)
    2 / 10 * (p.recordedLen : ℚ) ≤ (recs.length : ℚ) ∧ (∀ x ∈ recs, blank x = false) ∧
      tiny ≤ regressionAccN halfMath.forgotRatio recs ∧
      ¬ Minimises (regressionPts halfMath.forgotRatio 1 recs) q.reverseBandWidth q.propagotionDelay := by
  refine ⟨by decide +kernel, not_blank (by decide +kernel), by decide +kernel, fun h => ?_⟩
  exact absurd (h (14 / 11) (23 / 33)) (by decide +kernel)

/-! ## Records on a line -/

/-- The records of the given sizes on the line `d = a·s + b`. -/
def onLine (a b : K) (sizes : List K) : List (K × K) := sizes.map fun s => (a * s + b, s)

theorem cross_onLine {K : Type} [Field K] (r a b u : K) : ∀ (sizes : List K) (w : K),
    cross (regressionPts r w (onLine a b sizes)) u (a * u + b) = a * spread (regressionPts r w (onLine a b sizes)) u
  | [], w => by simp [onLine, regressionPts, cross, spread, LeastSquares.sum]
  | s :: sizes, w => by
    have ih := cross_onLine r a b u sizes (w * r)
    simp only [onLine, List.map_cons, regressionPts_cons] at ih ⊢
    simp only [cross, spread, LeastSquares.sum] at ih ⊢
    rw [ih]
    ring

theorem updateModelNormal_line [IsStrictOrderedRing K] (m : CMath K) (p : NetPred K) (a b : K) (sizes : List K)
    (hlen : 2 / 10 * (p.recordedLen : K) ≤ (sizes.length : K)) (hz : ∀ x ∈ onLine a b sizes, blank x = false)
    (hacc : tiny ≤ regressionAccN m.forgotRatio (onLine a b sizes)) :
    let q := p.updateModelNormal m (sizes.map fun s => a * s + b) sizes
    q.reverseBandWidth = a ∧ q.propagotionDelay = b := by
  intro q
  have hfst : (onLine a b sizes).map Prod.fst = sizes.map fun s => a * s + b := by
    simp [onLine, Function.comp_def]
  have hsnd : (onLine a b sizes).map Prod.snd = sizes := by simp [onLine, Function.comp_def]
  have hne : sizes ≠ [] := by
    rintro rfl
    exact ne_nil_of_accN hacc rfl
  have hfit := updateModelNormal_regression m p (onLine a b sizes) (by simpa [onLine] using hlen) hz hacc
  have hs := spread_regressionPts (r := m.forgotRatio) hz
  -- both means lie on the line
  have ht : wtotal m.forgotRatio 1 sizes ≠ 0 := (lt_of_lt_of_le one_pos (one_le_wtotal m hne)).ne'
  rw [hsnd] at hs
  simp only [hfst, hsnd, wmean_affine ht, cross_onLine, hs] at hfit
  have hpos : regressionAccN m.forgotRatio (onLine a b sizes) ≠ 0 := (lt_of_lt_of_le tiny_pos hacc).ne'
  rw [mul_div_assoc, div_self hpos, mul_one, add_sub_cancel_left] at hfit
  exact hfit

/-- **`UpdateModel` recovers an exact line** with a slope above the sanity bound and a non-negative delay, whatever
the model was: neither fallback is taken. -/
theorem updateModel_line [IsStrictOrderedRing K]
    (m : CMath K) (p : NetPred K) (a b : K) (ha : minReverseBandwidth < a) (hb : 0 ≤ b)
    (hd : p.delays = p.sizes.map fun s => a * s + b) (hlen : 2 / 10 * (p.recordedLen : K) ≤ (p.sizes.length : K))
    (hz : ∀ x ∈ onLine a b p.sizes, blank x = false) (heff : ∃ s ∈ p.sizes, effectiveSizeThreshold ≤ s)
    (hacc : tiny ≤ regressionAccN m.forgotRatio (onLine a b p.sizes)) :
    (p.updateModel m).reverseBandWidth = a ∧ (p.updateModel m).propagotionDelay = b := by
  have hvalid : p.validSequence = true := by
    obtain ⟨s, hs, hle⟩ := heff
    exact List.any_eq_true.2 ⟨s, hs, decide_eq_true hle⟩
  have hds : p.modelDelays = p.sizes.map fun s => a * s + b := by rw [modelDelays, hvalid, if_pos rfl, hd]
  have hss : p.modelSizes = p.sizes := by rw [modelSizes, hvalid, if_pos rfl]
  obtain ⟨hbw, hpd⟩ := updateModelNormal_line m p a b p.sizes hlen hz hacc
  have hsane : (p.updateModelNormal m (p.sizes.map fun s => a * s + b) p.sizes).sanityCheck = true := by
    rw [sanityCheck, hbw, hpd, Bool.and_eq_true]
    exact ⟨decide_eq_true ha, decide_eq_true hb⟩
  have hq : p.updateModel m = p.updateModelNormal m (p.sizes.map fun s => a * s + b) p.sizes := by
    simp only [updateModel, hds, hss, hsane, if_true]
  rw [hq]
  exact ⟨hbw, hpd⟩

/-- Two records on `d = 2·s + 3`. -/
theorem updateModel_line_twoRecords :
    let p : NetPred ℚ := { (new true).setRecordedLen 10 with delays := [5, 9], sizes := [1, 3] }
    (p.updateModel halfMath).reverseBandWidth = 2 ∧ (p.updateModel halfMath).propagotionDelay = 3 :=
  updateModel_line halfMath { (new true).setRecordedLen 10 with delays := [5, 9], sizes := [1, 3] } 2 3
    (by decide +kernel) (by decide +kernel) (by decide +kernel) (by decide +kernel)
    (not_blank (by decide +kernel)) ⟨1, List.mem_cons_self, by decide +kernel⟩ (by decide +kernel)

end CloudStreaming.Tcae.NetPred
