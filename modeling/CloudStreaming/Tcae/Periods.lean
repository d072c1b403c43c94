import CloudStreaming.Tcae.Recovery

/-!
# Evaluation periods and the threshold estimate (`net_pred.cpp:445-539`, `:648-668`)

`UpdateSteadyState` is to average the frames of "all spikes in current evaluation period". The period ends when the
spike count goes back to 0: after a time-out without a spike, or with a successful recovery. Only the recovery also
clears `m_estimateAcc` and `m_encFramesForThreshold`; the time-out leaves them (`:537-538`), and the comment "reset
avg frame size estimation at end of spike" (`:491`) has no statement to it. So the frames of a spike that expired
alone are still in the average of the next two.

The period is followed by a ghost list beside the predictor. The estimate is the period's as long as no count is
timed out with frames accumulated (`estimate_of_period`).
-/

namespace CloudStreaming.Tcae.NetPred

variable {K : Type} [Field K] [LinearOrder K]

/-- A predictor and the sizes tracked in its current evaluation period, oldest first. -/
structure Tracked (K : Type) where
  pred : NetPred K
  period : List UInt32

/-- The state in which the bitstream is tracked (`:521`). -/
def afterSpike (p : NetPred K) (delayInMs : K) : NetPred K :=
  if p.spikeEnds delayInMs then (p.countDelay delayInMs).endSpike else p.countDelay delayInMs

/-- The test of `:523`. -/
def tracks (p : NetPred K) : Bool := p.isSpikeOn || p.recoveryAttempt

/-- `ManageRecoveryAttempt` finds the recovery successful (`:655`). -/
def recovers (p : NetPred K) : Bool :=
  p.isAttemptOngoing && decide (((p.recoveryFrames + 1 : Nat) : K) = p.timeoutFrames)

/-- The state in which the time-out is tested (`:536`). -/
def beforeReset (p : NetPred K) (encodedSize : UInt32) (delayInMs : K) : NetPred K :=
  (p.observe encodedSize delayInMs).manageRecoveryAttempt

/-- The time-out takes a spike count to 0. -/
def expires (p : NetPred K) : Bool :=
  decide (p.timeoutFrames ≤ (p.framesSinceLastSpike : K)) && decide (0 < p.spikes)

/-- The period after one frame. -/
def nextPeriod (p : NetPred K) (period : List UInt32) (encodedSize : UInt32) (delayInMs : K) : List UInt32 :=
  if (p.observe encodedSize delayInMs).recovers || (p.beforeReset encodedSize delayInMs).expires then []
  else if (p.afterSpike delayInMs).tracks then period ++ [encodedSize]
  else period

def periodStep (s : Tracked K) : SteadyOp K → Tracked K
  | .checkNewSteadyState n d =>
    { pred := s.pred.checkNewSteadyState n d
      period := if s.pred.enableSteadyStateCheck then s.pred.nextPeriod s.period n d else s.period }
  | .setFPS fps => { s with pred := s.pred.setFPS fps }

/-- The sum and the number of encoded frames of a period. -/
def periodAcc (period : List UInt32) : K := (period.map fun n => (n.toNat : K)).sum
def periodFrames (period : List UInt32) : Nat := period.countP (fun n => decide (n ≠ 0))

/-- The estimate is over the frames of the period. -/
def OfPeriod (p : NetPred K) (period : List UInt32) : Prop :=
  p.estimateAcc = periodAcc period ∧ p.encFramesForThreshold = periodFrames period

/-- `UpdateSteadyState` gets past its test. -/
def computes (p : NetPred K) : Bool :=
  p.newState && decide (0 < p.encFramesForThreshold) && decide (2 ≤ p.spikes)

/-- The average size of the period's encoded frames, in kilobytes. -/
def periodAverage (period : List UInt32) : K := periodAcc period / (periodFrames period : K) / (1000 : Nat)

/-- The cap after an estimate: the estimate, if it differs from the old cap by more than a tenth. -/
def capFrom (cap estimate : K) : K :=
  if estimate < (1 - 1 / (10 : Nat)) * cap ∨ estimate > (1 + 1 / (10 : Nat)) * cap then estimate else cap

/-- The frame ends a spike, and a threshold is computed with it. -/
def estimates (p : NetPred K) (delayInMs : K) : Bool :=
  p.enableSteadyStateCheck && p.spikeEnds delayInMs && (p.countDelay delayInMs).countSpike.computes

/-- Whenever the step computes a threshold, the sum and the count it divides are the period's, and the cap is the one that
the period's average gives. No other step changes the cap, except for a recovery, which clears it. -/
def EstimateOfPeriod (s : Tracked K) : SteadyOp K → Prop
  | .checkNewSteadyState n d =>
    let cap := (s.pred.checkNewSteadyState n d).estimatedThresholdSize
    if s.pred.estimates d = true then
      (s.pred.countDelay d).countSpike.OfPeriod s.period ∧
        cap = capFrom s.pred.estimatedThresholdSize (periodAverage s.period)
    else cap = s.pred.estimatedThresholdSize ∨ cap = 0
  | .setFPS _ => True

/-- No spike count is timed out while encoded frames are accumulated. -/
def ExpiresEmpty (s : Tracked K) : SteadyOp K → Prop
  | .checkNewSteadyState n d =>
    let r := s.pred.beforeReset n d
    s.pred.enableSteadyStateCheck = true → r.expires = true → r.encFramesForThreshold = 0
  | .setFPS _ => True

instance (p : NetPred K) (period : List UInt32) : Decidable (p.OfPeriod period) :=
  inferInstanceAs (Decidable (_ ∧ _))

instance (s : Tracked K) : ∀ o, Decidable (EstimateOfPeriod s o)
  | .checkNewSteadyState _ d => inferInstanceAs (Decidable (ite (s.pred.estimates d = true) (_ ∧ _) (_ ∨ _)))
  | .setFPS _ => inferInstanceAs (Decidable True)

instance (s : Tracked K) : ∀ o, Decidable (ExpiresEmpty s o)
  | .checkNewSteadyState _ _ => inferInstanceAs (Decidable (_ → _ → _))
  | .setFPS _ => inferInstanceAs (Decidable True)

/-! ## What a step does to the estimate -/

theorem endSpike_estimate (p : NetPred K) :
    p.endSpike.estimateAcc = p.estimateAcc ∧ p.endSpike.encFramesForThreshold = p.encFramesForThreshold := by
  unfold endSpike
  rcases updateSteadyState_cases p.countSpike with ⟨_, _, size, b, hu⟩ | hu <;> rw [hu] <;> dsimp only
  · rcases failRecovery_cases { p.countSpike.divides _ with estimatedThresholdSize := size } b with ⟨_, t, hf⟩ | hf <;>
      rw [hf] <;> exact ⟨rfl, rfl⟩
  · rcases failRecovery_cases p.countSpike false with ⟨_, t, hf⟩ | hf <;> rw [hf] <;> exact ⟨rfl, rfl⟩

theorem afterSpike_estimate (p : NetPred K) (d : K) :
    (p.afterSpike d).estimateAcc = p.estimateAcc ∧
      (p.afterSpike d).encFramesForThreshold = p.encFramesForThreshold := by
  unfold afterSpike
  split
  · exact endSpike_estimate (p.countDelay d)
  · exact ⟨rfl, rfl⟩

/-- The frame is added to both, or to neither. -/
theorem observe_estimate (p : NetPred K) (period : List UInt32) (n : UInt32) (d : K) (h : p.OfPeriod period) :
    (p.observe n d).OfPeriod (if (p.afterSpike d).tracks then period ++ [n] else period) := by
  obtain ⟨ha, he⟩ := afterSpike_estimate p d
  have ho : (p.observe n d).estimateAcc = ((p.afterSpike d).trackBitstream n).estimateAcc ∧
      (p.observe n d).encFramesForThreshold = ((p.afterSpike d).trackBitstream n).encFramesForThreshold := ⟨rfl, rfl⟩
  unfold OfPeriod
  rw [ho.1, ho.2]
  cases ht : (p.afterSpike d).tracks with
  | false =>
    have ht' : ((p.afterSpike d).isSpikeOn || (p.afterSpike d).recoveryAttempt) = false := ht
    simp only [trackBitstream, ht', Bool.false_and, Bool.false_eq_true, if_false, ha, he]
    exact h
  | true =>
    have ht' : ((p.afterSpike d).isSpikeOn || (p.afterSpike d).recoveryAttempt) = true := ht
    simp only [trackBitstream, ht', Bool.true_and, if_true, ha, he]
    constructor
    · simp [periodAcc, h.1]
    · by_cases hn : n = 0 <;> simp [periodFrames, hn, h.2]

/-- `ManageRecoveryAttempt` clears the estimate when the recovery succeeded, and touches it only then. -/
theorem manageRecoveryAttempt_estimate (p : NetPred K) (period : List UInt32) (h : p.OfPeriod period) :
    p.manageRecoveryAttempt.OfPeriod (if p.recovers then [] else period) := by
  unfold manageRecoveryAttempt recovers
  cases hi : p.initRecoveryCondition <;> cases ho : p.isAttemptOngoing <;> dsimp only
  · exact h
  · simp only [Bool.not_false, Bool.not_true, Bool.and_false, Bool.true_and, Bool.false_eq_true, if_false, if_true,
      decide_eq_true_eq]
    split
    · rename_i hs
      rw [if_pos (show ((p.recoveryFrames + 1 : Nat) : K) = p.timeoutFrames from hs)]
      exact ⟨rfl, rfl⟩
    · rename_i hs
      rw [if_neg (show ¬ ((p.recoveryFrames + 1 : Nat) : K) = p.timeoutFrames from hs)]
      exact h
  · exact h
  · -- starting an attempt and continuing one exclude each other
    simp only [initRecoveryCondition, isAttemptOngoing, Bool.and_eq_true, Bool.not_eq_true'] at hi ho
    rw [ho.1] at hi
    exact absurd hi.1.1.2 (by simp)

/-- A period without an encoded frame adds up to nothing. -/
theorem periodAcc_of_frames {K : Type} [Field K]
    {period : List UInt32} (h : periodFrames period = 0) : (periodAcc period : K) = 0 := by
  induction period with
  | nil => rfl
  | cons n period ih =>
    unfold periodFrames at h
    by_cases hn : n = 0
    · rw [List.countP_cons_of_neg (by simp [hn])] at h
      have := ih h
      simpa [periodAcc, hn] using this
    · rw [List.countP_cons_of_pos (by simp [hn])] at h
      exact absurd h (Nat.succ_ne_zero _)

/-- **One step** keeps the estimate the period's, unless it expires a count with frames accumulated. -/
theorem periodStep_estimate (s : Tracked K) (o : SteadyOp K) (h : s.pred.OfPeriod s.period) (hc : ExpiresEmpty s o) :
    (periodStep s o).pred.OfPeriod (periodStep s o).period := by
  cases o with
  | setFPS fps => exact h
  | checkNewSteadyState n d =>
    simp only [periodStep, checkNewSteadyState]
    cases hen : s.pred.enableSteadyStateCheck with
    | false =>
      simp only [Bool.false_eq_true, if_false]
      exact h
    | true =>
      simp only [if_true]
      have hm := manageRecoveryAttempt_estimate _ _ (observe_estimate s.pred s.period n d h)
      show (s.pred.beforeReset n d).OfPeriod _
      change (s.pred.beforeReset n d).OfPeriod _ at hm
      unfold nextPeriod
      cases hr : (s.pred.observe n d).recovers with
      | true =>
        rw [hr] at hm
        exact hm
      | false =>
        rw [hr, if_neg (by simp)] at hm
        cases hx : (s.pred.beforeReset n d).expires with
        | false => exact hm
        | true =>
          -- nothing was accumulated, so forgetting the period changes nothing
          have h0 : (s.pred.beforeReset n d).encFramesForThreshold = 0 := hc hen hx
          exact ⟨hm.1.trans (periodAcc_of_frames (hm.2.symm.trans h0)), h0⟩

/-! ## What a step does to the cap -/

theorem updateSteadyState_cap (p : NetPred K) : p.updateSteadyState.1.estimatedThresholdSize =
    if p.computes = true then capFrom p.estimatedThresholdSize (p.estimateAcc / (p.encFramesForThreshold : K) / 1000)
    else p.estimatedThresholdSize := by
  unfold updateSteadyState computes capFrom
  split
  · dsimp only
    split <;> rename_i hc
    · exact (if_pos hc).symm
    · exact (if_neg hc).symm
  · rfl

theorem endSpike_cap (p : NetPred K) :
    p.endSpike.estimatedThresholdSize = p.countSpike.updateSteadyState.1.estimatedThresholdSize := by
  unfold endSpike
  dsimp only
  rcases failRecovery_cases p.countSpike.updateSteadyState.1 p.countSpike.updateSteadyState.2 with ⟨_, t, hf⟩ | hf <;>
    rw [hf]

/-- A spike's end at which a threshold is computed leaves no attempt. -/
theorem endSpike_attempt_of_computes (p : NetPred K) (h : p.countSpike.computes = true) :
    p.endSpike.recoveryAttempt = false := by
  simp only [computes, Bool.and_eq_true, decide_eq_true_eq] at h
  have hspikes : 2 ≤ p.spikes + 1 := h.2
  rw [(endSpike_spec p).2.2.2.2.1]
  simp [hspikes]

theorem observe_cap (p : NetPred K) (n : UInt32) (d : K) : (p.observe n d).estimatedThresholdSize =
    if (p.spikeEnds d && (p.countDelay d).countSpike.computes) = true then
      capFrom p.estimatedThresholdSize (p.estimateAcc / (p.encFramesForThreshold : K) / 1000)
    else p.estimatedThresholdSize := by
  have hcount : (p.countDelay d).countSpike.estimatedThresholdSize = p.estimatedThresholdSize ∧
      (p.countDelay d).countSpike.estimateAcc = p.estimateAcc ∧
      (p.countDelay d).countSpike.encFramesForThreshold = p.encFramesForThreshold := ⟨rfl, rfl, rfl⟩
  cases he : p.spikeEnds d with
  | true =>
    have ho : (p.observe n d).estimatedThresholdSize = (p.countDelay d).endSpike.estimatedThresholdSize := by
      simp [observe, he, trackBitstream]
    rw [ho, endSpike_cap, updateSteadyState_cap, hcount.1, hcount.2.1, hcount.2.2, Bool.true_and]
  | false => simp [observe, he, trackBitstream, countDelay]

/-- `ManageRecoveryAttempt` leaves the cap, or clears it; without an attempt it leaves it. -/
theorem manageRecoveryAttempt_cap (p : NetPred K) :
    (p.manageRecoveryAttempt.estimatedThresholdSize = p.estimatedThresholdSize ∨
      p.manageRecoveryAttempt.estimatedThresholdSize = 0) ∧
    (p.recoveryAttempt = false → p.manageRecoveryAttempt.estimatedThresholdSize = p.estimatedThresholdSize) := by
  rcases manageRecoveryAttempt_cases p with e | ⟨_, e⟩ | ⟨ha, e⟩ | ⟨ha, _, e⟩ <;> rw [e]
  · exact ⟨.inl rfl, fun _ => rfl⟩
  · exact ⟨.inl rfl, fun _ => rfl⟩
  · exact ⟨.inl rfl, fun _ => rfl⟩
  · exact ⟨.inr rfl, fun h => absurd (ha.symm.trans h) (by simp)⟩

/-- **One step** caps with the average of the period, if the accumulators are the period's. -/
theorem periodStep_cap (s : Tracked K) (o : SteadyOp K) (h : s.pred.OfPeriod s.period) : EstimateOfPeriod s o := by
  cases o with
  | setFPS fps => trivial
  | checkNewSteadyState n d =>
    simp only [EstimateOfPeriod]
    cases hen : s.pred.enableSteadyStateCheck with
    | false => simp [estimates, checkNewSteadyState, hen]
    | true =>
      have hstep : (s.pred.checkNewSteadyState n d).estimatedThresholdSize =
          (s.pred.observe n d).manageRecoveryAttempt.estimatedThresholdSize := by
        rw [checkNewSteadyState, if_pos hen]
        rfl
      obtain ⟨hcap, hkeep⟩ := manageRecoveryAttempt_cap (s.pred.observe n d)
      have hobserve := observe_cap s.pred n d
      have hest : s.pred.estimates d = (s.pred.spikeEnds d && (s.pred.countDelay d).countSpike.computes) := by
        rw [estimates, hen, Bool.true_and]
      rw [hest, hstep]
      split
      case isTrue hc =>
        obtain ⟨he, hcomputes⟩ := Bool.and_eq_true_iff.mp hc
        have hattempt : (s.pred.observe n d).recoveryAttempt = false := by
          have ha := endSpike_attempt_of_computes (s.pred.countDelay d) hcomputes
          simpa [observe, he, trackBitstream] using ha
        rw [if_pos hc] at hobserve
        refine ⟨h, ?_⟩
        rw [hkeep hattempt, hobserve, h.1, h.2]
        rfl
      case isFalse hc =>
        rw [if_neg hc] at hobserve
        rw [← hobserve]
        exact hcap

/-! ## Whole runs -/

/-- The machine from construction, in an empty period. -/
def periodStart (steady : Bool) (target : K) : Tracked K := ⟨(new steady).setTargetDelay target, []⟩

/-- The ghost list does not act on the predictor. -/
theorem periodRun_pred (steady : Bool) (target : K) (ops : List (SteadyOp K)) :
    (ops.foldl periodStep (periodStart steady target)).pred = steadyRun steady target ops := by
  unfold steadyRun
  suffices h : ∀ (s : Tracked K), (ops.foldl periodStep s).pred = ops.foldl steadyStep s.pred from h _
  induction ops with
  | nil => intro s; rfl
  | cons o ops ih =>
    intro s
    rw [List.foldl_cons, List.foldl_cons, ih]
    cases o <;> rfl

/-- **Every threshold is an average over the current evaluation period**, in every run in which no spike count is
timed out with frames accumulated: the cap that a step sets is the period's average, and no other step sets one. -/
theorem estimate_of_period (steady : Bool) (target : K) (ops : List (SteadyOp K))
    (h : Runs.Meets periodStep ExpiresEmpty (periodStart steady target) ops) :
    Runs.Meets periodStep EstimateOfPeriod (periodStart steady target) ops :=
  Runs.Meets.imp (I := fun s => s.pred.OfPeriod s.period) periodStep_estimate (fun s o hI _ => periodStep_cap s o hI) ops _
    ⟨rfl, rfl⟩ h

/-- A spike of five late frames of `n` bytes, the last of them tracked. -/
def spikeOf (n : UInt32) : List (SteadyOp ℚ) := List.replicate 5 (.checkNewSteadyState n 20)

/-- Frames in time. -/
def quiet (frames : Nat) : List (SteadyOp ℚ) := List.replicate frames (.checkNewSteadyState 1000 1)

/-- Two spikes close together: the second one computes a threshold. -/
theorem estimate_of_period_twoSpikes :
    Runs.Meets periodStep EstimateOfPeriod (periodStart true 16)
      (.setFPS 1 :: (spikeOf 3000 ++ quiet 1 ++ spikeOf 1000 ++ quiet 1)) :=
  estimate_of_period true 16 _ (by decide +kernel)

/-- At one frame a second: a spike of 9 kB frames, ten quiet frames, which expire its count, and two spikes of 1 kB
frames. The threshold is 11000 bytes over 3 frames, while the period has two frames of 1000. -/
theorem estimate_stale :
    let s := (.setFPS 1 :: (spikeOf 9000 ++ quiet 10 ++ spikeOf 1000 ++ quiet 1 ++ spikeOf 1000)).foldl periodStep
      (periodStart true 16)
    let q := (s.pred.countDelay 1).countSpike
    s.pred.estimates 1 = true ∧ q.estimateAcc = 11000 ∧ q.encFramesForThreshold = 3 ∧ s.period = [1000, 1000] ∧
      (s.pred.checkNewSteadyState 1000 1).estimatedThresholdSize = 11 / 3 ∧ periodAverage s.period = (1 : ℚ) ∧
      ¬ EstimateOfPeriod s (.checkNewSteadyState 1000 1) := by
  decide +kernel

end CloudStreaming.Tcae.NetPred
