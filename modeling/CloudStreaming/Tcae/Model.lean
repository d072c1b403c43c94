import Mathlib.Analysis.SpecialFunctions.Pow.Real
import CloudStreaming.Lib.Runs
import CloudStreaming.Lib.Weighted
import CloudStreaming.Tcae.SteadyState

/-!
# The linear model stays usable (`net_pred.cpp:103-436`)

`UpdateModelNormal` may fit a line with a slope of any sign, and `UpdateModelSafe`, which reruns it on
partly zeroed samples, may again. What makes the slope positive in the end is the order of the
fallbacks in `UpdateModel`: a model that fails `SanityCheck` twice is overwritten by
`UpdateModelSmall` on the *original* samples, whose two means are bounded away from 0 because every
sample carries at least one byte and one millisecond (`UpdateNetworkStateImpl` accepts no other). An
empty sample window (a record count that is negative as an `int`) leaves the model alone.
-/

namespace CloudStreaming.Tcae.NetPred

open Weighted

variable {K : Type} [Field K] [LinearOrder K]

theorem tiny_pos [IsStrictOrderedRing K] : (0 : K) < tiny := by unfold tiny; positivity

/-! ## Which fields the model update writes -/

/-- `q` is `p` up to the two model fields and the recorded divisors, and no non-positive divisor is new. -/
structure ModelStep (p q : NetPred K) : Prop where
  eq : q = { p with
    reverseBandWidth := q.reverseBandWidth, propagotionDelay := q.propagotionDelay, divisors := q.divisors }
  divisors : (∀ d ∈ p.divisors, 0 < d) → ∀ d ∈ q.divisors, 0 < d

theorem ModelStep.refl (p : NetPred K) : ModelStep p p := ⟨rfl, id⟩

theorem ModelStep.trans {p q r : NetPred K} (h : ModelStep p q) (h' : ModelStep q r) : ModelStep p r :=
  ⟨by rw [h'.eq, h.eq], fun hp => h'.divisors (h.divisors hp)⟩

theorem ModelStep.divides (p : NetPred K) {d : K} (hd : 0 < d) : ModelStep p (p.divides d) :=
  ⟨rfl, fun hp e he => by
    rcases List.mem_cons.1 he with rfl | he
    · exact hd
    · exact hp e he⟩

/-! ## `WeightedMean` -/

theorem weightedMeanLoop_eq {K : Type} [Field K] (r : K) :
    ∀ (xs : List K) (accD accN w : K),
      weightedMeanLoop r accD accN w xs = (accD + wsum r w xs, accN + wtotal r w xs)
  | [], _, _, _ => by simp [weightedMeanLoop, wsum, wtotal]
  | x :: xs, accD, accN, w => by
    simp only [weightedMeanLoop, weightedMeanLoop_eq r xs, wsum, wtotal, Prod.mk.injEq]
    constructor <;> ring

theorem weightedMean_step [IsStrictOrderedRing K] (m : CMath K) (p : NetPred K) (xs : List K) :
    ModelStep p (p.weightedMean m xs).2 ∧ (p.weightedMean m xs).2.reverseBandWidth = p.reverseBandWidth ∧
      (p.weightedMean m xs).2.propagotionDelay = p.propagotionDelay := by
  unfold weightedMean
  dsimp only
  split
  · exact ⟨ModelStep.refl p, rfl, rfl⟩
  · rename_i h
    exact ⟨ModelStep.divides p (lt_of_lt_of_le tiny_pos (not_lt.1 h)), rfl, rfl⟩

/-- On data bounded below by a positive `a` the mean is at least `a`. -/
theorem le_weightedMean [IsStrictOrderedRing K]
    (m : CMath K) (p : NetPred K) {xs : List K} {a : K} (hx : xs ≠ []) (h : ∀ x ∈ xs, a ≤ x) :
    a ≤ (p.weightedMean m xs).1 := by
  have ht : (1 : K) ≤ wtotal m.forgotRatio 1 xs := le_wtotal m.forgotRatio_pos one_pos hx
  have hn : ¬ wtotal m.forgotRatio 1 xs < tiny := by
    have : (tiny : K) ≤ 1 := by unfold tiny; norm_num
    exact not_lt.2 (this.trans ht)
  unfold weightedMean
  simp only [weightedMeanLoop_eq, zero_add, hn, if_false]
  exact le_mean m.forgotRatio_pos one_pos hx h

theorem weightedMean_nil [IsStrictOrderedRing K] (m : CMath K) (p : NetPred K) : p.weightedMean m [] = (0, p) := by
  simp [weightedMean, weightedMeanLoop, tiny_pos]

/-! ## The three fits -/

theorem updateModelSmall_step [IsStrictOrderedRing K] (m : CMath K) (p : NetPred K) (ds ss : List K) :
    ModelStep p (p.updateModelSmall m ds ss) := by
  have h1 := (weightedMean_step m p ds).1
  have h2 := (weightedMean_step m (p.weightedMean m ds).2 ss).1
  unfold updateModelSmall
  dsimp only
  split
  · exact h1.trans h2
  · rename_i hc
    have hs := lt_of_lt_of_le tiny_pos (not_lt.1 (not_or.1 hc).1)
    have h3 := ModelStep.divides ((p.weightedMean m ds).2.weightedMean m ss).2 hs
    exact (h1.trans (h2.trans h3)).trans ⟨rfl, id⟩

/-- On samples bounded away from 0 the small model takes effect, with a positive slope. -/
theorem updateModelSmall_pos [IsStrictOrderedRing K]
    (m : CMath K) (p : NetPred K) {ds ss : List K} (hd : ds ≠ []) (hs : ss ≠ [])
    (hds : ∀ d ∈ ds, 1 ≤ d) (hss : ∀ s ∈ ss, 1 / 1000 ≤ s) :
    0 < (p.updateModelSmall m ds ss).reverseBandWidth := by
  have h1 : 1 ≤ (p.weightedMean m ds).1 := le_weightedMean m p hd hds
  have h2 : 1 / 1000 ≤ ((p.weightedMean m ds).2.weightedMean m ss).1 := le_weightedMean m _ hs hss
  have hc : ¬ (((p.weightedMean m ds).2.weightedMean m ss).1 < tiny ∨ (p.weightedMean m ds).1 < tiny) := by
    unfold tiny
    rintro (h | h)
    · exact absurd h (not_lt.2 (le_trans (by norm_num) h2))
    · exact absurd h (not_lt.2 (le_trans (by norm_num) h1))
  simp only [updateModelSmall, hc, if_false]
  exact div_pos (lt_of_lt_of_le one_pos h1) (lt_of_lt_of_le (by norm_num) h2)

theorem updateModelSmall_nil [IsStrictOrderedRing K]
    (m : CMath K) (p : NetPred K) : p.updateModelSmall m [] [] = p := by
  simp [updateModelSmall, weightedMean_nil, tiny_pos]

theorem updateModelNormal_step [IsStrictOrderedRing K] (m : CMath K) (p : NetPred K) (ds ss : List K) :
    ModelStep p (p.updateModelNormal m ds ss) := by
  have h1 := (weightedMean_step m p ds).1
  have h2 := (weightedMean_step m (p.weightedMean m ds).2 ss).1
  unfold updateModelNormal
  split
  · exact updateModelSmall_step m p ds ss
  · dsimp only
    split
    · exact (h1.trans h2).trans (updateModelSmall_step m _ ds ss)
    · rename_i hc
      have h3 := ModelStep.divides ((p.weightedMean m ds).2.weightedMean m ss).2
        (lt_of_lt_of_le tiny_pos (not_lt.1 hc))
      exact (h1.trans (h2.trans h3)).trans ⟨rfl, id⟩

theorem updateModelNormal_nil [IsStrictOrderedRing K]
    (m : CMath K) (p : NetPred K) : p.updateModelNormal m [] [] = p := by
  unfold updateModelNormal
  split
  · exact updateModelSmall_nil m p
  · simp [weightedMean_nil, regressionLoop, tiny_pos, updateModelSmall_nil]

theorem updateModelSafe_step [IsStrictOrderedRing K] (m : CMath K) (p : NetPred K) (ds ss : List K) :
    ModelStep p (p.updateModelSafe m ds ss) := by
  have h1 := (weightedMean_step m p ds).1
  have h2 := (weightedMean_step m (p.weightedMean m ds).2 ss).1
  exact (h1.trans h2).trans (updateModelNormal_step m _ _ _)

theorem updateModelSafe_nil [IsStrictOrderedRing K] (m : CMath K) (p : NetPred K) : p.updateModelSafe m [] [] = p := by
  simp [updateModelSafe, weightedMean_nil, updateModelNormal_nil]

/-! ## `UpdateModel` -/

theorem substitute_length {K : Type} (es : List K) : ∀ xs : List K, (substitute es xs).length = xs.length := by
  unfold substitute
  induction es.reverse with
  | nil => intro xs; rfl
  | cons e es ih => intro xs; rw [List.foldl_cons, ih]; simp

theorem mem_substitute {K : Type} {es : List K} : ∀ {xs : List K} {x : K}, x ∈ substitute es xs → x ∈ es ∨ x ∈ xs := by
  unfold substitute
  suffices h : ∀ (fs xs : List K) (x : K),
      x ∈ fs.foldl (fun d e => (e :: d).dropLast) xs → x ∈ fs ∨ x ∈ xs by
    intro xs x hx
    simpa using h es.reverse xs x hx
  intro fs
  induction fs with
  | nil => intro xs x hx; exact Or.inr hx
  | cons f fs ih =>
    intro xs x hx
    rcases ih _ x hx with h | h
    · exact Or.inl (List.mem_cons_of_mem f h)
    · rcases List.mem_cons.1 (List.mem_of_mem_dropLast h) with rfl | h
      · exact Or.inl List.mem_cons_self
      · exact Or.inr h

/-- The recorded samples: paired, each of at least a byte and a millisecond, the effective ones of a
kilobyte. -/
structure Samples (p : NetPred K) : Prop where
  length : p.delays.length = p.sizes.length
  delays : ∀ d ∈ p.delays, 1 ≤ d
  sizes : ∀ s ∈ p.sizes, 1 / 1000 ≤ s
  effective : ∀ s ∈ p.effectiveSizes, 1 ≤ s

theorem Samples.modelDelays {p : NetPred K} (h : p.Samples) : ∀ d ∈ p.modelDelays, 1 ≤ d := by
  unfold NetPred.modelDelays
  split
  · exact h.delays
  · intro d hd
    rcases mem_substitute hd with hd | hd
    · exact h.effective d hd
    · exact h.delays d hd

theorem Samples.modelSizes [IsStrictOrderedRing K]
    {p : NetPred K} (h : p.Samples) : ∀ s ∈ p.modelSizes, 1 / 1000 ≤ s := by
  unfold NetPred.modelSizes
  split
  · exact h.sizes
  · intro s hs
    rcases mem_substitute hs with hs | hs
    · exact le_trans (by norm_num) (h.effective s hs)
    · exact h.sizes s hs

theorem Samples.modelLength {p : NetPred K} (h : p.Samples) : p.modelDelays.length = p.modelSizes.length := by
  unfold NetPred.modelDelays NetPred.modelSizes
  split
  · exact h.length
  · rw [substitute_length, substitute_length, h.length]

theorem updateModel_step [IsStrictOrderedRing K] (m : CMath K) (p : NetPred K) : ModelStep p (p.updateModel m) := by
  have h1 := updateModelNormal_step m p p.modelDelays p.modelSizes
  unfold updateModel
  dsimp only
  generalize p.updateModelNormal m p.modelDelays p.modelSizes = q at h1 ⊢
  have h2 : ModelStep q (if q.sanityCheck then q else q.updateModelSafe m p.modelDelays p.modelSizes) := by
    split
    · exact ModelStep.refl q
    · exact updateModelSafe_step m q _ _
  generalize (if q.sanityCheck then q else q.updateModelSafe m p.modelDelays p.modelSizes) = r at h2 ⊢
  split
  · exact h1.trans h2
  · exact (h1.trans h2).trans (updateModelSmall_step m r _ _)

/-- **The fitted slope is positive**, whichever fallbacks produced it. -/
theorem updateModel_pos [IsStrictOrderedRing K]
    (m : CMath K) (p : NetPred K) (hs : p.Samples) (hp : 0 < p.reverseBandWidth) :
    0 < (p.updateModel m).reverseBandWidth := by
  by_cases hnil : p.modelDelays = []
  · -- an empty window: every fit returns without writing the model
    have hnil' : p.modelSizes = [] := List.length_eq_zero_iff.1 (by rw [← hs.modelLength, hnil]; rfl)
    simp only [updateModel, hnil, hnil', updateModelNormal_nil, updateModelSafe_nil, updateModelSmall_nil, ite_self]
    exact hp
  · have hnil' : p.modelSizes ≠ [] := by
      intro h
      exact hnil (List.length_eq_zero_iff.1 (by rw [hs.modelLength, h]; rfl))
    unfold updateModel
    dsimp only
    generalize (if (p.updateModelNormal m p.modelDelays p.modelSizes).sanityCheck then _ else _) = q
    split
    · -- the model passed its check
      rename_i hc
      simp only [sanityCheck, Bool.and_eq_true, decide_eq_true_eq] at hc
      exact lt_trans (by unfold minReverseBandwidth; positivity) hc.1
    · exact updateModelSmall_pos m _ hnil hnil' hs.modelDelays hs.modelSizes

/-! ## One sample -/

theorem record_samples (p : NetPred K) (sizeInK d : K) (h : p.Samples) (hs : 1 / 1000 ≤ sizeInK) (hd : 1 ≤ d) :
    (p.record sizeInK d).Samples := by
  have hds : ∀ x ∈ d :: p.delays, 1 ≤ x := by
    intro x hx
    rcases List.mem_cons.1 hx with rfl | hx
    · exact hd
    · exact h.delays x hx
  have hss : ∀ x ∈ sizeInK :: p.sizes, 1 / 1000 ≤ x := by
    intro x hx
    rcases List.mem_cons.1 hx with rfl | hx
    · exact hs
    · exact h.sizes x hx
  have hrec : ∀ q : NetPred K, (q.delays = d :: p.delays ∧ q.sizes = sizeInK :: p.sizes ∨
      q.delays = (d :: p.delays).dropLast ∧ q.sizes = (sizeInK :: p.sizes).dropLast) →
      (∀ x ∈ q.effectiveSizes, 1 ≤ x) → q.Samples := by
    rintro q (⟨hqd, hqs⟩ | ⟨hqd, hqs⟩) he
    · exact ⟨by rw [hqd, hqs]; simp [h.length], by rw [hqd]; exact hds, by rw [hqs]; exact hss, he⟩
    · refine ⟨by rw [hqd, hqs]; simp [h.length], ?_, ?_, he⟩
      · rw [hqd]; exact fun x hx => hds x (List.mem_of_mem_dropLast hx)
      · rw [hqs]; exact fun x hx => hss x (List.mem_of_mem_dropLast hx)
  apply hrec
  · unfold record
    by_cases hf : ((d :: p.delays).length : Int) > p.recordedLen
    · right; simp only [hf]; split <;> exact ⟨rfl, rfl⟩
    · left; simp only [hf]; split <;> exact ⟨rfl, rfl⟩
  · unfold record
    dsimp only
    split
    · rename_i he
      intro x hx
      have hx' : x ∈ sizeInK :: p.effectiveSizes := by
        dsimp only at hx
        split at hx
        · exact List.mem_of_mem_dropLast hx
        · exact hx
      rcases List.mem_cons.1 hx' with rfl | hx'
      · exact he
      · exact h.effective x hx'
    · exact h.effective

theorem record_frame (p : NetPred K) (sizeInK d : K) :
    (p.record sizeInK d).reverseBandWidth = p.reverseBandWidth ∧ (p.record sizeInK d).divisors = p.divisors := by
  unfold record
  dsimp only
  split <;> exact ⟨rfl, rfl⟩

/-- **The outlier-adjusted slope is positive**: an outlier lies above the fitted line, so half of what it
adds to the delay stays with the slope. -/
theorem adjustModel_pos [IsStrictOrderedRing K] (m : CMath K) (p : NetPred K) (sizeInK d : K) (hs : 0 < sizeInK)
    (hp : 0 < p.reverseBandWidth) : 0 < (p.adjustModel m sizeInK d).2.1 := by
  unfold adjustModel
  split
  · dsimp only
    split
    · split
      · rename_i ho
        split
        · have he : ∀ x, (0 : K) ≤ exceptionThreshold * m.sqrt x :=
            fun x => mul_nonneg (by unfold exceptionThreshold; exact zero_le_one) (m.sqrt_nonneg x)
          have hbw := mul_pos hp hs
          have habove := lt_of_le_of_lt (he _) ho
          refine div_pos ?_ hs
          linarith
        · exact hp
      · exact hp
    · exact hp
  · exact hp

theorem adjustModel_step [IsStrictOrderedRing K] (m : CMath K) (p : NetPred K) (sizeInK d : K) (hs : 0 < sizeInK) :
    ModelStep p (p.adjustModel m sizeInK d).2.2 ∧
      (p.adjustModel m sizeInK d).2.2.reverseBandWidth = p.reverseBandWidth := by
  unfold adjustModel
  split
  · dsimp only
    split
    · rename_i hc
      have h1 := ModelStep.divides p (lt_trans tiny_pos hc)
      split
      · split
        · exact ⟨h1.trans (ModelStep.divides _ hs), rfl⟩
        · exact ⟨h1, rfl⟩
      · exact ⟨h1, rfl⟩
    · exact ⟨ModelStep.refl p, rfl⟩
  · exact ⟨ModelStep.refl p, rfl⟩

/-- `q` is `p` up to the fields of the steady-state machine, and no non-positive divisor is new. -/
structure SteadyStep (p q : NetPred K) : Prop where
  eq : q = { p with
    estimatedThresholdSize := q.estimatedThresholdSize, timeToExplore := q.timeToExplore
    estimateAcc := q.estimateAcc, observeCounter := q.observeCounter
    framesSinceLastSpike := q.framesSinceLastSpike, encFramesForThreshold := q.encFramesForThreshold
    newState := q.newState, spikes := q.spikes, recoveryAttempt := q.recoveryAttempt
    recoveryFrames := q.recoveryFrames, divisors := q.divisors }
  divisors : (∀ d ∈ p.divisors, 0 < d) → ∀ d ∈ q.divisors, 0 < d

theorem SteadyStep.refl (p : NetPred K) : SteadyStep p p := ⟨rfl, id⟩

theorem SteadyStep.trans {p q r : NetPred K} (h : SteadyStep p q) (h' : SteadyStep q r) : SteadyStep p r :=
  ⟨by rw [h'.eq, h.eq], fun hp => h'.divisors (h.divisors hp)⟩

theorem updateSteadyState_step [IsStrictOrderedRing K] (p : NetPred K) : SteadyStep p p.updateSteadyState.1 := by
  rcases updateSteadyState_cases p with ⟨_, hpos, size, b, hu⟩ | hu <;> rw [hu]
  · refine ⟨rfl, fun hp d hd => ?_⟩
    rcases List.mem_cons.1 hd with rfl | hd
    · exact Nat.cast_pos.2 hpos
    · exact hp d hd
  · exact SteadyStep.refl p

theorem failRecovery_step (p : NetPred K) (b : Bool) : SteadyStep p (p.failRecovery b) := by
  rcases failRecovery_cases p b with ⟨_, t, hf⟩ | hf <;> rw [hf]
  · exact ⟨rfl, id⟩
  · exact SteadyStep.refl p

theorem endSpike_step [IsStrictOrderedRing K] (p : NetPred K) : SteadyStep p p.endSpike := by
  have h1 : SteadyStep p p.countSpike := ⟨rfl, id⟩
  exact (h1.trans (updateSteadyState_step _)).trans (failRecovery_step _ _)

theorem manageRecoveryAttempt_step (p : NetPred K) : SteadyStep p p.manageRecoveryAttempt := by
  rcases manageRecoveryAttempt_cases p with e | ⟨_, e⟩ | ⟨_, e⟩ | ⟨_, _, e⟩ <;> rw [e] <;> exact ⟨rfl, id⟩

/-- **`CheckNewSteadyState` writes its own fields only.** -/
theorem checkNewSteadyState_step [IsStrictOrderedRing K] (p : NetPred K) (n : UInt32) (d : K) :
    SteadyStep p (p.checkNewSteadyState n d) := by
  unfold checkNewSteadyState
  split
  · have h1 : SteadyStep p (p.countDelay d) := ⟨rfl, id⟩
    have h2 : SteadyStep p (p.observe n d) := by
      unfold observe
      by_cases he : p.spikeEnds d = true
      · simp only [he, if_true]
        exact (h1.trans (endSpike_step _)).trans ⟨rfl, id⟩
      · simp only [he]
        exact h1.trans ⟨rfl, id⟩
    exact (h2.trans (manageRecoveryAttempt_step _)).trans ⟨rfl, id⟩
  · exact SteadyStep.refl p

/-! ## `UpdateSizeAndDelay` -/

theorem adjustTarget_eq (p : NetPred K) (d : K) :
    p.adjustTarget d = { p with nextTargetSize := (p.adjustTarget d).nextTargetSize } := by
  unfold adjustTarget
  dsimp only
  split
  · split <;> [rfl; split <;> [split <;> rfl; rfl]]
  · split <;> [rfl; split <;> [split <;> rfl; rfl]]

/-- `publish` writes the three target sizes and evaluates one division. -/
theorem publish_eq (p : NetPred K) (d prop bw : K) :
    p.publish d prop bw = { p.divides bw with
      previousTargetSize := p.nextTargetSize
      nextTargetSize := (p.publish d prop bw).nextTargetSize
      filteredTargetSize := (p.publish d prop bw).filteredTargetSize } := by
  unfold publish
  dsimp only
  rw [adjustTarget_eq]
  rfl

/-- The state of a usable model. -/
structure ModelInv (p : NetPred K) : Prop where
  samples : p.Samples
  slope : 0 < p.reverseBandWidth
  divisors : ∀ d ∈ p.divisors, 0 < d

theorem Samples.frame {p q : NetPred K} (h : p.Samples) (h1 : q.delays = p.delays) (h2 : q.sizes = p.sizes)
    (h3 : q.effectiveSizes = p.effectiveSizes) : q.Samples :=
  ⟨by rw [h1, h2]; exact h.length, by rw [h1]; exact h.delays, by rw [h2]; exact h.sizes,
    by rw [h3]; exact h.effective⟩

theorem ModelInv.steady {p q : NetPred K} (h : p.ModelInv) (hs : SteadyStep p q) : q.ModelInv :=
  ⟨h.samples.frame (by rw [hs.eq]) (by rw [hs.eq]) (by rw [hs.eq]), by rw [hs.eq]; exact h.slope,
    hs.divisors h.divisors⟩

/-- A sample `PredictorTcaeImpl` can feed: at least one byte with at least one millisecond, or no feedback. -/
def Fed (size : UInt32) (delayInMs : K) : Prop := size ≠ 0 ∧ 1 ≤ delayInMs ∨ delayInMs < 0

theorem sizeInK_ge [IsStrictOrderedRing K]
    {size : UInt32} (h : size ≠ 0) : (1 / 1000 : K) ≤ (size.toNat : K) / 1000 := by
  have h1 : 1 ≤ size.toNat := Nat.one_le_iff_ne_zero.2 (fun h0 => h (UInt32.toNat_inj.1 h0))
  have h2 : (1 : K) ≤ (size.toNat : K) := by exact_mod_cast h1
  linarith

theorem updateSizeAndDelay_valid (m : CMath K) (p : NetPred K) (size n : UInt32) (d : K) (hd : ¬ d < 0) :
    p.updateSizeAndDelay m size n d =
      (p.reactionModel m size n d).2.2.publish d (p.reactionModel m size n d).1 (p.reactionModel m size n d).2.1 := by
  simp only [updateSizeAndDelay, hd, if_false]

theorem updateSizeAndDelay_missed (m : CMath K) (p : NetPred K) (size n : UInt32) (d : K) (hd : d < 0) :
    p.updateSizeAndDelay m size n d = (p.checkNewSteadyState n d).missedFeedback := by
  simp only [updateSizeAndDelay, hd, if_true]

theorem reactionModel_inv [IsStrictOrderedRing K]
    (m : CMath K) (p : NetPred K) (size n : UInt32) (d : K) (h : p.ModelInv) (hs : size ≠ 0)
    (hd : 1 ≤ d) :
    0 < (p.reactionModel m size n d).2.1 ∧ (p.reactionModel m size n d).2.2.ModelInv := by
  have hsz := sizeInK_ge (K := K) hs
  have hsz0 : (0 : K) < (size.toNat : K) / 1000 := lt_of_lt_of_le (by norm_num) hsz
  have h1 := h.steady (checkNewSteadyState_step p n d)
  have h2 := record_samples _ _ d h1.samples hsz hd
  obtain ⟨hbw, hdv⟩ := record_frame (p.checkNewSteadyState n d) ((size.toNat : K) / 1000) d
  have h3 := updateModel_pos m _ h2 (by rw [hbw]; exact h1.slope)
  have h4 := updateModel_step m ((p.checkNewSteadyState n d).record ((size.toNat : K) / 1000) d)
  obtain ⟨h5, hbw5⟩ := adjustModel_step m
    (((p.checkNewSteadyState n d).record ((size.toNat : K) / 1000) d).updateModel m) _ d hsz0
  refine ⟨adjustModel_pos m _ _ d hsz0 h3, ?_, ?_, ?_⟩
  · have h6 := h4.trans h5
    exact h2.frame (by unfold reactionModel; rw [h6.eq]) (by unfold reactionModel; rw [h6.eq])
      (by unfold reactionModel; rw [h6.eq])
  · unfold reactionModel; rw [hbw5]; exact h3
  · exact (h4.trans h5).divisors (by rw [hdv]; exact h1.divisors)

theorem updateSizeAndDelay_modelInv [IsStrictOrderedRing K]
    (m : CMath K) (p : NetPred K) (size n : UInt32) (d : K) (h : p.ModelInv)
    (hf : Fed size d) : (p.updateSizeAndDelay m size n d).ModelInv := by
  rcases hf with ⟨hs, hd⟩ | hd
  · rw [updateSizeAndDelay_valid m p size n d (not_lt.2 (zero_le_one.trans hd))]
    obtain ⟨hbw, hI⟩ := reactionModel_inv m p size n d h hs hd
    rw [publish_eq]
    refine ⟨hI.samples.frame rfl rfl rfl, hI.slope, fun e he => ?_⟩
    rcases List.mem_cons.1 he with rfl | he
    · exact hbw
    · exact hI.divisors e he
  · rw [updateSizeAndDelay_missed m p size n d hd]
    have hI := h.steady (checkNewSteadyState_step p n d)
    exact ⟨hI.samples.frame rfl rfl rfl, hI.slope, hI.divisors⟩

/-! ## Whole runs -/

theorem forgotRatio_real_pos : 0 < (forgotBase : ℝ) ^ (forgotExponent : ℝ) :=
  Real.rpow_pos_of_pos (by norm_num [forgotBase]) _

/-- The doubles read as reals, with the constant the constructor computes. -/
noncomputable def realMath : CMath ℝ where
  sqrt := Real.sqrt
  forgotRatio := (forgotBase : ℝ) ^ (forgotExponent : ℝ)
  sqrt_nonneg := Real.sqrt_nonneg
  forgotRatio_pos := forgotRatio_real_pos

theorem start_modelInv [IsStrictOrderedRing K] (steady : Bool) (maxFrameSize recCount delay : UInt32) :
    (start steady maxFrameSize recCount delay : NetPred K).ModelInv :=
  ⟨⟨rfl, by simp [start, new, setTargetDelay, setRecordedLen, setMinTargetSize, setMaxTargetSize],
      by simp [start, new, setTargetDelay, setRecordedLen, setMinTargetSize, setMaxTargetSize],
      by simp [start, new, setTargetDelay, setRecordedLen, setMinTargetSize, setMaxTargetSize]⟩,
    zero_lt_one, by simp [start, new, setTargetDelay, setRecordedLen, setMinTargetSize, setMaxTargetSize]⟩

theorem run_modelInv [IsStrictOrderedRing K] (m : CMath K) : ∀ (ops : List (Op K)) (p : NetPred K), p.ModelInv →
    (∀ size n d, Op.updateSizeAndDelay size n d ∈ ops → Fed size d) → (ops.foldl (step m) p).ModelInv
  | [], _, h, _ => h
  | o :: ops, p, h, hf => by
    refine run_modelInv m ops (step m p o) ?_ (fun size n d ho => hf size n d (List.mem_cons_of_mem o ho))
    cases o with
    | updateSizeAndDelay size n d => exact updateSizeAndDelay_modelInv m p size n d h (hf size n d List.mem_cons_self)
    | setFPS fps => exact ⟨h.samples.frame rfl rfl rfl, h.slope, h.divisors⟩

/-- **The model is always usable**: after any admissible updates the slope is positive, every divisor
evaluated so far was, and so is the outlier-adjusted slope the next target is divided by. -/
theorem model_usable [IsStrictOrderedRing K]
    (m : CMath K) (steady : Bool) (maxFrameSize recCount delay : UInt32) (ops : List (Op K))
    (hf : ∀ size n d, Op.updateSizeAndDelay size n d ∈ ops → Fed size d) :
    let p := ops.foldl (step m) (start steady maxFrameSize recCount delay)
    0 < p.reverseBandWidth ∧ (∀ x ∈ p.divisors, 0 < x) ∧
      ∀ size n d, size ≠ 0 → 1 ≤ d → 0 < (p.reactionModel m size n d).2.1 := by
  intro p
  have hI : p.ModelInv := run_modelInv m ops _ (start_modelInv steady maxFrameSize recCount delay) hf
  exact ⟨hI.slope, hI.divisors, fun size n d hs hd => (reactionModel_inv m p size n d hI hs hd).1⟩

/-- One frame of 1500 bytes after 5 ms, then one without feedback. -/
theorem model_usable_twoFrames :
    0 < ([Op.updateSizeAndDelay 1500 1500 5, Op.updateSizeAndDelay 1500 2000 (-1)].foldl (step realMath)
      (start true 50000 100 16)).reverseBandWidth :=
  (model_usable realMath true 50000 100 16 _ (by
    intro size n d h
    simp only [List.mem_cons, Op.updateSizeAndDelay.injEq, List.not_mem_nil, or_false] at h
    rcases h with ⟨rfl, rfl, rfl⟩ | ⟨rfl, rfl, rfl⟩
    · exact Or.inl ⟨by decide, by norm_num⟩
    · exact Or.inr (by norm_num))).1

end CloudStreaming.Tcae.NetPred
