import CloudStreaming.Tcae.Model

/-!
# The published target (`net_pred.cpp:217-239`, `:541-562`)

The target a sample publishes is a blend of the filter's memory and the clamped, adjusted target. The
clamp keeps every published target within `[minTargetSize, maxTargetSize]`. `AdjustTarget` keeps the
adjusted target of a high-latency sample at or below the previous target, but what is published is the
blend, and the filter's memory is not the previous target: a sample without feedback lowers
`m_nextTargetSize` by 5 % and leaves `m_filteredTargetSize` (`:121`), where the design document's
`t_k = (1 - ρ) t_{k-1} + ρ u_k` filters the previous *output*. So a high-latency sample after missing
feedback can raise the target (`highLatency_raises`); it cannot as long as the memory is not above the
target (`highLatency_downward`).
-/

namespace CloudStreaming.Tcae.NetPred

open Weighted Runs

variable {K : Type} [Field K] [LinearOrder K]

/-! ## What the model leaves alone -/

/-- The fields `publish` reads, other than the model. -/
structure SameTargets (p q : NetPred K) : Prop where
  next : q.nextTargetSize = p.nextTargetSize
  filtered : q.filteredTargetSize = p.filteredTargetSize
  factor : q.filterFactor = p.filterFactor
  min : q.minTargetSize = p.minTargetSize
  max : q.maxTargetSize = p.maxTargetSize
  delay : q.targetDelay = p.targetDelay

theorem SameTargets.trans {K : Type}
    {p q r : NetPred K} (h : SameTargets p q) (h' : SameTargets q r) : SameTargets p r :=
  ⟨h'.1.trans h.1, h'.2.trans h.2, h'.3.trans h.3, h'.4.trans h.4, h'.5.trans h.5, h'.6.trans h.6⟩

theorem SteadyStep.targets {p q : NetPred K} (h : SteadyStep p q) : SameTargets p q :=
  ⟨by rw [h.eq], by rw [h.eq], by rw [h.eq], by rw [h.eq], by rw [h.eq], by rw [h.eq]⟩

theorem ModelStep.targets {p q : NetPred K} (h : ModelStep p q) : SameTargets p q :=
  ⟨by rw [h.eq], by rw [h.eq], by rw [h.eq], by rw [h.eq], by rw [h.eq], by rw [h.eq]⟩

theorem record_targets (p : NetPred K) (sizeInK d : K) : SameTargets p (p.record sizeInK d) := by
  unfold record
  dsimp only
  split <;> exact ⟨rfl, rfl, rfl, rfl, rfl, rfl⟩

theorem adjustModel_targets (m : CMath K) (p : NetPred K) (sizeInK d : K) :
    SameTargets p (p.adjustModel m sizeInK d).2.2 := by
  unfold adjustModel
  dsimp only
  repeat' split
  all_goals exact ⟨rfl, rfl, rfl, rfl, rfl, rfl⟩

theorem reactionModel_targets [IsStrictOrderedRing K] (m : CMath K) (p : NetPred K) (size n : UInt32) (d : K) :
    SameTargets p (p.reactionModel m size n d).2.2 :=
  (((checkNewSteadyState_step p n d).targets.trans (record_targets _ _ d)).trans
    (updateModel_step m _).targets).trans (adjustModel_targets m _ _ d)

/-! ## Clamp, correction, filter -/

/-- `min ≤ max` as `StartImpl` sets them, and a filter factor in `[0, 1]`. -/
structure Limits (p : NetPred K) : Prop where
  min_nonneg : 0 ≤ p.minTargetSize
  min_le_max : p.minTargetSize ≤ p.maxTargetSize
  factor_nonneg : 0 ≤ p.filterFactor
  factor_le_one : p.filterFactor ≤ 1

theorem Limits.frame {p q : NetPred K} (h : p.Limits) (h1 : q.minTargetSize = p.minTargetSize)
    (h2 : q.maxTargetSize = p.maxTargetSize) (h3 : q.filterFactor = p.filterFactor) : q.Limits :=
  ⟨by rw [h1]; exact h.1, by rw [h1, h2]; exact h.2, by rw [h3]; exact h.3, by rw [h3]; exact h.4⟩

theorem clampTarget_bounds (p : NetPred K) (h : p.Limits) :
    p.minTargetSize ≤ p.clampTarget.nextTargetSize ∧ p.clampTarget.nextTargetSize ≤ p.maxTargetSize ∧
      p.clampTarget.nextTargetSize ≤ max p.nextTargetSize p.minTargetSize := by
  have hmm := h.min_le_max
  unfold clampTarget
  dsimp only
  by_cases h1 : p.nextTargetSize < p.minTargetSize
  · simp only [h1, if_true, gt_iff_lt, not_lt.2 hmm, if_false]
    exact ⟨le_refl _, hmm, le_max_right _ _⟩
  · simp only [h1, if_false, gt_iff_lt]
    by_cases h2 : p.maxTargetSize < p.nextTargetSize
    · simp only [h2, if_true]
      exact ⟨hmm, le_refl _, h2.le.trans (le_max_left _ _)⟩
    · simp only [h2, if_false]
      exact ⟨not_lt.1 h1, not_lt.1 h2, le_max_left _ _⟩

/-- The high-latency correction: the adjusted target does not exceed the previous one. -/
theorem adjustTarget_le_previous [IsStrictOrderedRing K] (p : NetPred K) (d : K) (hd : d ≥ 9 / 10 * p.targetDelay)
    (hp : 0 ≤ p.previousTargetSize) : (p.adjustTarget d).nextTargetSize ≤ p.previousTargetSize := by
  have hdrop : p.previousTargetSize * (9 / 10) ≤ p.previousTargetSize := by linarith
  unfold adjustTarget
  by_cases hc : d ≥ 9 / 10 * p.targetDelay ∧ p.nextTargetSize ≥ p.previousTargetSize
  · simp only [hc, and_self, if_true]
    repeat' split
    all_goals first | exact hdrop | (dsimp only at *; linarith)
  · have hlt : p.nextTargetSize < p.previousTargetSize := not_le.1 (fun h => hc ⟨hd, h⟩)
    simp only [hc, if_false]
    repeat' split
    all_goals first | exact hlt.le | (dsimp only at *; linarith)

/-- The filter's memory as the next blend reads it: a memory below one kilobyte is replaced (`:233`). -/
def memory (p : NetPred K) (target : K) : K := if p.filteredTargetSize < 1 then target else p.filteredTargetSize

theorem filterTarget_eq (p : NetPred K) :
    p.filterTarget = { p with
      filteredTargetSize := blend (p.filterFactor * (9 / 10)) (p.memory p.nextTargetSize) p.nextTargetSize
      nextTargetSize := blend (p.filterFactor * (9 / 10)) (p.memory p.nextTargetSize) p.nextTargetSize } := by
  have he : ∀ x : K, x * (9 / 10) * p.filterFactor + p.nextTargetSize * (1 - p.filterFactor * (9 / 10)) =
      blend (p.filterFactor * (9 / 10)) x p.nextTargetSize := by
    intro x; unfold blend; ring
  unfold filterTarget memory
  simp only [he]

/-- **What a valid sample publishes**: a blend of the filter's memory and a clamped target `c`, which
for a high-latency sample is at most the larger of the previous target and the minimum. -/
theorem publish_target [IsStrictOrderedRing K] (p : NetPred K) (d prop bw : K) (h : p.Limits) :
    ∃ c, p.minTargetSize ≤ c ∧ c ≤ p.maxTargetSize ∧
      (p.publish d prop bw).nextTargetSize = blend (p.filterFactor * (9 / 10)) (p.memory c) c ∧
      (p.publish d prop bw).filteredTargetSize = (p.publish d prop bw).nextTargetSize ∧
      (d ≥ 9 / 10 * p.targetDelay → 0 ≤ p.nextTargetSize → c ≤ max p.nextTargetSize p.minTargetSize) := by
  have heq := adjustTarget_eq (p.preliminary prop bw) d
  have hle := adjustTarget_le_previous (p.preliminary prop bw) d
  unfold publish
  generalize (p.preliminary prop bw).adjustTarget d = q at heq hle ⊢
  have hmin : q.minTargetSize = p.minTargetSize := by rw [heq]; rfl
  have hmax : q.maxTargetSize = p.maxTargetSize := by rw [heq]; rfl
  have hfac : q.filterFactor = p.filterFactor := by rw [heq]; rfl
  have hfil : q.filteredTargetSize = p.filteredTargetSize := by rw [heq]; rfl
  obtain ⟨c1, c2, c3⟩ := clampTarget_bounds q (h.frame hmin hmax hfac)
  refine ⟨q.clampTarget.nextTargetSize, hmin ▸ c1, hmax ▸ c2, ?_, ?_, fun hd hp => ?_⟩
  · rw [filterTarget_eq]
    simp only [memory, clampTarget, hfac, hfil]
  · rw [filterTarget_eq]
  · rw [hmin] at c3
    exact c3.trans (max_le_max_right _ (hle hd hp))

/-! ## The joint invariant of the target and the filter -/

/-- The filter's memory is empty or a published target, and so is the target, except that missing
feedback may lower it. -/
structure TargetInv (p : NetPred K) : Prop where
  limits : p.Limits
  next_nonneg : 0 ≤ p.nextTargetSize
  next_le : p.nextTargetSize ≤ p.maxTargetSize
  memory : p.filteredTargetSize = 0 ∨ p.minTargetSize ≤ p.filteredTargetSize ∧ p.filteredTargetSize ≤ p.maxTargetSize

theorem TargetInv.frame {p q : NetPred K} (h : p.TargetInv) (hs : SameTargets p q) : q.TargetInv :=
  ⟨h.limits.frame hs.min hs.max hs.factor, by rw [hs.next]; exact h.2, by rw [hs.next, hs.max]; exact h.3,
    by rw [hs.filtered, hs.min, hs.max]; exact h.4⟩

theorem start_targetInv [IsStrictOrderedRing K] (steady : Bool) (maxFrameSize recCount delay : UInt32) :
    (start steady maxFrameSize recCount delay : NetPred K).TargetInv := by
  have hdiv : (maxFrameSize / 10).toNat ≤ maxFrameSize.toNat := by
    rw [UInt32.toNat_div]; exact Nat.div_le_self _ _
  have hmm : (((maxFrameSize / 10).toNat : K)) ≤ (maxFrameSize.toNat : K) := by exact_mod_cast hdiv
  refine ⟨⟨?_, ?_, ?_, ?_⟩, le_refl _, ?_, Or.inl rfl⟩
  · exact div_nonneg (Nat.cast_nonneg _) (by norm_num)
  · exact div_le_div_of_nonneg_right hmm (by norm_num)
  · show (0 : K) ≤ 1 / 2; norm_num
  · show (1 / 2 : K) ≤ 1; norm_num
  · exact div_nonneg (Nat.cast_nonneg _) (by norm_num)

/-- The blend's coefficient. -/
theorem Limits.coefficient [IsStrictOrderedRing K] {p : NetPred K} (h : p.Limits) :
    0 ≤ p.filterFactor * (9 / 10) ∧ p.filterFactor * (9 / 10) ≤ 1 := by
  have := h.factor_nonneg; have := h.factor_le_one
  constructor <;> linarith

/-- **A valid sample** publishes a target within the limits and leaves it in the filter's memory. -/
theorem updateSizeAndDelay_valid_target [IsStrictOrderedRing K]
    (m : CMath K) (p : NetPred K) (size n : UInt32) (d : K) (hd : ¬ d < 0)
    (h : p.TargetInv) :
    let q := p.updateSizeAndDelay m size n d
    q.TargetInv ∧ p.minTargetSize ≤ q.nextTargetSize ∧ q.minTargetSize = p.minTargetSize ∧
      q.maxTargetSize = p.maxTargetSize ∧ q.targetDelay = p.targetDelay ∧ q.filterFactor = p.filterFactor := by
  intro q
  have hs := reactionModel_targets m p size n d
  have hI := h.frame hs
  have hq : q = _ := updateSizeAndDelay_valid m p size n d hd
  have heq := publish_eq (p.reactionModel m size n d).2.2 d (p.reactionModel m size n d).1
    (p.reactionModel m size n d).2.1
  obtain ⟨c, c1, c2, hnext, hfil, -⟩ := publish_target (p.reactionModel m size n d).2.2 d
    (p.reactionModel m size n d).1 (p.reactionModel m size n d).2.1 hI.limits
  rw [← hq] at heq hnext hfil
  generalize (p.reactionModel m size n d).2.2 = r at *
  have hmem : r.minTargetSize ≤ r.memory c ∧ r.memory c ≤ r.maxTargetSize := by
    unfold NetPred.memory
    split
    · exact ⟨c1, c2⟩
    · rename_i h1
      rcases hI.memory with h0 | hb
      · rw [h0] at h1; exact absurd zero_lt_one h1
      · exact hb
  obtain ⟨k0, k1⟩ := hI.limits.coefficient
  have hlo : r.minTargetSize ≤ q.nextTargetSize := hnext ▸ le_blend k0 k1 hmem.1 c1
  have hhi : q.nextTargetSize ≤ r.maxTargetSize := hnext ▸ blend_le k0 k1 hmem.2 c2
  have hmin : q.minTargetSize = r.minTargetSize := by rw [heq]; rfl
  have hmax : q.maxTargetSize = r.maxTargetSize := by rw [heq]; rfl
  have hfac : q.filterFactor = r.filterFactor := by rw [heq]; rfl
  refine ⟨⟨hI.limits.frame hmin hmax hfac, hI.limits.min_nonneg.trans hlo, hmax ▸ hhi, Or.inr ?_⟩, hs.min ▸ hlo,
    hmin.trans hs.min, hmax.trans hs.max, ?_, hfac.trans hs.factor⟩
  · rw [hfil, hmin, hmax]; exact ⟨hlo, hhi⟩
  · rw [heq]; exact hs.delay

/-- A sample without feedback lowers the target by 5 %, not below the minimum. -/
theorem missedFeedback_target [IsStrictOrderedRing K] (p : NetPred K) (h : p.TargetInv) :
    p.missedFeedback.TargetInv ∧ p.minTargetSize ≤ p.missedFeedback.nextTargetSize := by
  have hn := h.next_nonneg
  have hle := h.next_le
  have hmm := h.limits.min_le_max
  have h0 := h.limits.min_nonneg
  unfold missedFeedback
  dsimp only
  split
  · exact ⟨⟨h.limits.frame rfl rfl rfl, h0, hmm, h.memory⟩, le_refl _⟩
  · rename_i hc
    exact ⟨⟨h.limits.frame rfl rfl rfl, mul_nonneg hn (by norm_num), le_trans (by linarith) hle, h.memory⟩, not_lt.1 hc⟩

/-! ## The first sample -/

theorem weightedMean_single [IsStrictOrderedRing K] (m : CMath K) (p : NetPred K) (x : K) :
    p.weightedMean m [x] = (x, p.divides 1) := by
  have h1 : ¬ (0 + 1 : K) < tiny := by unfold tiny; norm_num
  simp only [weightedMean, weightedMeanLoop, h1, if_false]
  rw [zero_add, one_mul, zero_add, div_one]

/-- A single sample `(s, d)`: the line of offset 0.1 with slope `d / s`. -/
theorem updateModel_single [IsStrictOrderedRing K]
    (m : CMath K) (p : NetPred K) {d s : K} (hd : p.delays = [d]) (hs : p.sizes = [s])
    (hlen : 1 < 2 / 10 * (p.recordedLen : K)) (hs1 : 1 ≤ s) (hd1 : 1 ≤ d) (hr : minReverseBandwidth < d / s) :
    p.updateModel m = { ((p.divides 1).divides 1).divides s with reverseBandWidth := d / s, propagotionDelay := 1 / 10 } := by
  have hv : p.validSequence = true := by simp [validSequence, hs, effectiveSizeThreshold, hs1]
  have hsmall : p.updateModelNormal m [d] [s] =
      { ((p.divides 1).divides 1).divides s with reverseBandWidth := d / s, propagotionDelay := 1 / 10 } := by
    have ht : ¬ (s < tiny ∨ d < tiny) := by
      have h1 : (tiny : K) ≤ 1 := by unfold tiny; norm_num
      rintro (h | h) <;> linarith
    rw [updateModelNormal, if_pos (by simpa using hlen), updateModelSmall]
    simp only [weightedMean_single, ht, if_false]
  have hsane : (p.updateModelNormal m [d] [s]).sanityCheck = true := by
    rw [hsmall]; simp [sanityCheck, hr]
  simp only [updateModel, modelDelays, modelSizes, hv, if_true, hd, hs, hsane]
  exact hsmall

theorem start_record [IsStrictOrderedRing K]
    (steady : Bool) (maxFrameSize recCount delay n : UInt32) (s d : K) (hrec : 1 ≤ recCount.toInt32.toInt) :
    let p := (((start steady maxFrameSize recCount delay : NetPred K).checkNewSteadyState n d).record s d)
    p.delays = [d] ∧ p.sizes = [s] ∧ p.recordedLen = recCount.toInt32.toInt := by
  intro p
  have hstep := checkNewSteadyState_step (start steady maxFrameSize recCount delay : NetPred K) n d
  have hp : p = ((start steady maxFrameSize recCount delay : NetPred K).checkNewSteadyState n d).record s d := rfl
  have h1 : ¬ ((([d] : List K).length : Int) > recCount.toInt32.toInt) := by simpa using hrec
  have e1 : ((start steady maxFrameSize recCount delay : NetPred K).checkNewSteadyState n d).delays = [] := by
    rw [hstep.eq]; rfl
  have e2 : ((start steady maxFrameSize recCount delay : NetPred K).checkNewSteadyState n d).sizes = [] := by
    rw [hstep.eq]; rfl
  have e3 : ((start steady maxFrameSize recCount delay : NetPred K).checkNewSteadyState n d).recordedLen =
      recCount.toInt32.toInt := by
    rw [hstep.eq]; rfl
  rw [hp]
  unfold record
  simp only [e1, e2, e3, h1, decide_false]
  split <;> simp

theorem start_newState (steady : Bool) (maxFrameSize recCount delay n : UInt32) (d : K) :
    ((start steady maxFrameSize recCount delay : NetPred K).checkNewSteadyState n d).newState = false := by
  by_contra hn
  obtain ⟨n', d', -, he, -⟩ := raises_newState (start steady maxFrameSize recCount delay : NetPred K)
    (.checkNewSteadyState n d) rfl (by simpa [steadyStep] using hn)
  have h0 : (start steady maxFrameSize recCount delay : NetPred K).isSpikeOn = false := by
    simp [isSpikeOn, start, new, setTargetDelay, setRecordedLen, setMinTargetSize, setMaxTargetSize,
      observeCounterThreshold]
  simp [spikeEnds, h0] at he

/-- The model after a first sample: the line of offset 0.1 through it, no oscillation. -/
theorem reactionModel_first [IsStrictOrderedRing K]
    (m : CMath K) (steady : Bool) (maxFrameSize recCount delay size n : UInt32) (d : K)
    (hrec : 6 ≤ recCount.toInt32.toInt) (hs1 : 1 ≤ (size.toNat : K) / 1000) (hd1 : 1 ≤ d)
    (hr : minReverseBandwidth < d / ((size.toNat : K) / 1000)) :
    let r := (start steady maxFrameSize recCount delay : NetPred K).reactionModel m size n d
    r.1 = 1 / 10 ∧ r.2.1 = d / ((size.toNat : K) / 1000) ∧ r.2.2.newState = false := by
  have hns := start_newState (K := K) steady maxFrameSize recCount delay n d
  obtain ⟨hds, hss, hlen⟩ := start_record (K := K) steady maxFrameSize recCount delay n ((size.toNat : K) / 1000) d
    (by omega)
  have hlt : 1 < 2 / 10 * (recCount.toInt32.toInt : K) := by
    have h6 : (6 : K) ≤ (recCount.toInt32.toInt : K) := by exact_mod_cast hrec
    linarith
  have hns' : (((start steady maxFrameSize recCount delay : NetPred K).checkNewSteadyState n d).record
      ((size.toNat : K) / 1000) d).newState = false := by
    unfold record
    dsimp only
    split <;> exact hns
  simp only [reactionModel]
  generalize ((start steady maxFrameSize recCount delay : NetPred K).checkNewSteadyState n d).record
    ((size.toNat : K) / 1000) d = q at *
  rw [← hlen] at hlt
  rw [updateModel_single m q hds hss hlt hs1 hd1 hr]
  unfold adjustModel
  rw [if_neg (by simpa [divides, hss] using hlt)]
  exact ⟨rfl, rfl, hns'⟩

/-- A first sample of 1000 bytes after 1 ms: the line of slope 1 and offset 0.1 reaches 0.9 of the
target delay of 16 ms at 14.3 kilobytes. -/
theorem first_target [IsStrictOrderedRing K] (m : CMath K) (steady : Bool) :
    let p := (start steady 140000 100 16 : NetPred K).updateSizeAndDelay m 1000 1000 1
    p.nextTargetSize = 143 / 10 ∧ p.filteredTargetSize = 143 / 10 := by
  have hsz : (((1000 : UInt32).toNat : K) / 1000) = 1 := by
    rw [show (1000 : UInt32).toNat = 1000 from rfl]; norm_num
  have hmin : (((140000 / 10 : UInt32).toNat : K) / 1000) = 14 := by
    rw [show (140000 / 10 : UInt32).toNat = 14000 from rfl]; norm_num
  have hmax : (((140000 : UInt32).toNat : K) / 1000) = 140 := by
    rw [show (140000 : UInt32).toNat = 140000 from rfl]; norm_num
  have hdel : ((16 : UInt32).toNat : K) = 16 := by
    rw [show (16 : UInt32).toNat = 16 from rfl]; norm_num
  obtain ⟨h1, h2, h3⟩ := reactionModel_first m steady 140000 100 16 1000 1000 (1 : K) (by decide) (by rw [hsz]) (le_refl 1)
    (by rw [hsz]; unfold minReverseBandwidth; norm_num)
  have hs := reactionModel_targets m (start steady 140000 100 16 : NetPred K) 1000 1000 1
  rw [updateSizeAndDelay_valid m _ 1000 1000 1 (by norm_num), h1, h2, hsz]
  generalize ((start steady 140000 100 16 : NetPred K).reactionModel m 1000 1000 1).2.2 = q at *
  have e1 : q.targetDelay = 16 := hs.delay.trans hdel
  have e2 : q.minTargetSize = 14 := hs.min.trans hmin
  have e3 : q.maxTargetSize = 140 := hs.max.trans hmax
  have e4 : q.filteredTargetSize = 0 := hs.filtered
  have e5 : q.filterFactor = 1 / 2 := hs.factor
  have e6 : ((q.preliminary (1 / 10) (1 / 1)).adjustTarget 1).nextTargetSize = 143 / 10 := by
    rw [adjustTarget_uncapped (q.preliminary (1 / 10) (1 / 1)) 1 h3, if_neg]
    · simp only [preliminary, e1]; norm_num
    · simp only [preliminary, divides, e1]; norm_num
  unfold publish
  rw [adjustTarget_eq, e6]
  simp only [clampTarget, filterTarget, preliminary, divides, e2, e3, e4, e5]
  norm_num

/-! ## High-latency samples -/

/-- The filter's memory is empty or not above what the target may be: the last sample had feedback, or
the decay since has not left the memory behind. -/
def MemoryFresh (p : NetPred K) : Prop :=
  p.filteredTargetSize < 1 ∨ p.filteredTargetSize ≤ max p.nextTargetSize p.minTargetSize

/-- The step does not raise the target above the larger of what it was and the minimum. -/
def Downward (m : CMath K) (p : NetPred K) (o : Op K) : Prop :=
  (step m p o).nextTargetSize ≤ max p.nextTargetSize p.minTargetSize

/-- The target delay is never negative, so a sample without feedback is not a high-latency one. -/
structure LatencyInv (p : NetPred K) : Prop where
  target : p.TargetInv
  delay_nonneg : 0 ≤ p.targetDelay

theorem step_latencyInv [IsStrictOrderedRing K]
    (m : CMath K) (p : NetPred K) (o : Op K) (h : p.LatencyInv) : (step m p o).LatencyInv := by
  cases o with
  | setFPS fps => exact ⟨h.target.frame ⟨rfl, rfl, rfl, rfl, rfl, rfl⟩, h.delay_nonneg⟩
  | updateSizeAndDelay size n d =>
    by_cases hd : d < 0
    · have hs := (checkNewSteadyState_step p n d).targets
      have ht := (missedFeedback_target _ (h.target.frame hs)).1
      rw [step, updateSizeAndDelay_missed m p size n d hd]
      refine ⟨ht, ?_⟩
      show 0 ≤ (p.checkNewSteadyState n d).targetDelay
      rw [hs.delay]; exact h.delay_nonneg
    · obtain ⟨hI, -, -, -, hdelay, -⟩ := updateSizeAndDelay_valid_target m p size n d hd h.target
      exact ⟨hI, by rw [step, hdelay]; exact h.delay_nonneg⟩

theorem start_latencyInv [IsStrictOrderedRing K] (steady : Bool) (maxFrameSize recCount delay : UInt32) :
    (start steady maxFrameSize recCount delay : NetPred K).LatencyInv :=
  ⟨start_targetInv steady maxFrameSize recCount delay, Nat.cast_nonneg _⟩

/-- One high-latency sample on a fresh memory: both ends of the blend are at most the larger of the
previous target and the minimum. -/
theorem highLatency_step [IsStrictOrderedRing K]
    (m : CMath K) (p : NetPred K) (o : Op K) (h : p.LatencyInv) (hh : HighLatency p o)
    (hf : p.MemoryFresh) : Downward m p o := by
  cases o with
  | setFPS fps => exact absurd hh id
  | updateSizeAndDelay size n d =>
    have hd : ¬ d < 0 := not_lt.2 (le_trans (mul_nonneg (by norm_num) h.delay_nonneg) hh)
    have hs := reactionModel_targets m p size n d
    obtain ⟨c, -, -, hnext, -, hc⟩ := publish_target (p.reactionModel m size n d).2.2 d
      (p.reactionModel m size n d).1 (p.reactionModel m size n d).2.1 (h.target.frame hs).limits
    rw [Downward, step, updateSizeAndDelay_valid m p size n d hd, hnext]
    obtain ⟨k0, k1⟩ := (h.target.frame hs).limits.coefficient
    rw [hs.delay, hs.next, hs.min] at hc
    have hcle := hc hh h.target.next_nonneg
    refine blend_le k0 k1 ?_ hcle
    unfold NetPred.memory
    split
    · exact hcle
    · rename_i h1
      rw [hs.filtered] at h1 ⊢
      exact hf.resolve_left h1

/-- **High latency never raises the target**, in a run whose high-latency samples each find the filter's
memory fresh. -/
theorem highLatency_downward [IsStrictOrderedRing K]
    (m : CMath K) (steady : Bool) (maxFrameSize recCount delay : UInt32)
    (ops : List (Op K))
    (hops : Meets (step m) (fun p o => HighLatency p o → p.MemoryFresh)
      (start steady maxFrameSize recCount delay) ops) :
    Meets (step m) (fun p o => HighLatency p o → Downward m p o) (start steady maxFrameSize recCount delay) ops :=
  Meets.imp (fun p o h _ => step_latencyInv m p o h) (fun p o h hc hh => highLatency_step m p o h hh (hc hh))
    ops _ (start_latencyInv steady maxFrameSize recCount delay) hops

/-- With the target at its minimum and the memory above it, a valid sample raises the target. -/
theorem stale_raises [IsStrictOrderedRing K]
    (m : CMath K) (p : NetPred K) (size n : UInt32) (d : K) (hd : ¬ d < 0) (h : p.LatencyInv)
    (hf : ¬ p.MemoryFresh) (hmin : p.nextTargetSize ≤ p.minTargetSize) (hfac : 0 < p.filterFactor) :
    ¬ Downward m p (.updateSizeAndDelay size n d) := by
  have hs := reactionModel_targets m p size n d
  obtain ⟨c, hc, -, hnext, -, -⟩ := publish_target (p.reactionModel m size n d).2.2 d
    (p.reactionModel m size n d).1 (p.reactionModel m size n d).2.1 (h.target.frame hs).limits
  obtain ⟨-, k1⟩ := (h.target.frame hs).limits.coefficient
  obtain ⟨h1, h2⟩ := not_or.1 hf
  rw [max_eq_right hmin, not_le] at h2
  rw [Downward, step, updateSizeAndDelay_valid m p size n d hd, hnext, max_eq_right hmin, not_le]
  rw [NetPred.memory, hs.filtered, if_neg h1]
  rw [hs.factor] at k1 ⊢
  rw [hs.min] at hc
  have hk : 0 < p.filterFactor * (9 / 10) * (p.filteredTargetSize - p.minTargetSize) :=
    mul_pos (mul_pos hfac (by norm_num)) (sub_pos.2 h2)
  have hc' : 0 ≤ (1 - p.filterFactor * (9 / 10)) * (c - p.minTargetSize) :=
    mul_nonneg (sub_nonneg.2 k1) (sub_nonneg.2 hc)
  unfold blend
  linarith

/-- **High latency can raise the target**: 14.3 kilobytes after the first sample, lowered to the minimum
of 14 by missing feedback, and raised again by 15 ms of a target of 16, because the filter's memory is
still at 14.3. -/
theorem highLatency_raises :
    let p := [Op.updateSizeAndDelay 1000 1000 1, Op.updateSizeAndDelay 1000 1000 (-1)].foldl (step realMath)
      (start true 140000 100 16)
    HighLatency p (.updateSizeAndDelay 15000 15000 15) ∧ ¬ Downward realMath p (.updateSizeAndDelay 15000 15000 15) := by
  intro p
  have h0 := start_latencyInv (K := ℝ) true 140000 100 16
  have hp : p.LatencyInv := foldl_inv (step_latencyInv realMath) _ _ h0
  obtain ⟨hn1, hf1⟩ := first_target realMath true
  obtain ⟨-, -, hmin1, -, hdel1, hfac1⟩ := updateSizeAndDelay_valid_target realMath (start true 140000 100 16) 1000 1000 1
    (by norm_num) h0.target
  have hs := (checkNewSteadyState_step ((start true 140000 100 16).updateSizeAndDelay realMath 1000 1000 1) 1000
    (-1)).targets
  have hpe : p = (((start true 140000 100 16).updateSizeAndDelay realMath 1000 1000 1).checkNewSteadyState 1000
    (-1)).missedFeedback := updateSizeAndDelay_missed realMath _ 1000 1000 (-1) (by norm_num)
  have hmin : p.minTargetSize = 14 := by
    rw [hpe]
    refine (hs.min.trans hmin1).trans ?_
    show (((140000 / 10 : UInt32).toNat : ℝ) / 1000) = 14
    rw [show (140000 / 10 : UInt32).toNat = 14000 from rfl]; norm_num
  have hfil : p.filteredTargetSize = 143 / 10 := by rw [hpe]; exact hs.filtered.trans hf1
  have hnext : p.nextTargetSize = 14 := by
    have hm := hmin
    rw [hpe] at hm ⊢
    simp only [missedFeedback] at hm ⊢
    rw [hm, hs.next, hn1]; norm_num
  have hdel : p.targetDelay = 16 := by
    rw [hpe]
    refine (hs.delay.trans hdel1).trans ?_
    show ((16 : UInt32).toNat : ℝ) = 16
    rw [show (16 : UInt32).toNat = 16 from rfl]; norm_num
  have hfac : 0 < p.filterFactor := by
    rw [hpe]
    refine lt_of_lt_of_eq ?_ (hs.factor.trans hfac1).symm
    show (0 : ℝ) < 1 / 2; norm_num
  refine ⟨by rw [HighLatency, hdel]; norm_num, stale_raises _ _ _ _ _ (by norm_num) hp ?_ (by rw [hmin, hnext]) hfac⟩
  rw [MemoryFresh, hfil, hnext, hmin]; norm_num

/-- Two samples with feedback, the second a high-latency one. -/
theorem highLatency_downward_twoFrames :
    Meets (step realMath) (fun p o => HighLatency p o → Downward realMath p o) (start true 140000 100 16)
      [.updateSizeAndDelay 1000 1000 1, .updateSizeAndDelay 15000 15000 15] :=
  highLatency_downward realMath true 140000 100 16 _ (by
    obtain ⟨hn1, hf1⟩ := first_target realMath true
    refine ⟨fun _ => Or.inl zero_lt_one, fun _ => Or.inr ?_, trivial⟩
    rw [step, hf1, hn1]
    exact le_max_left _ _)

end CloudStreaming.Tcae.NetPred
