import CloudStreaming.Lib.Runs
import CloudStreaming.Tcae.NetPred

/-!
# The steady-state machine: `CheckNewSteadyState` and `ManageRecoveryAttempt` (`net_pred.cpp:438-539`, `:626-671`)

`newState` is the *NewSteadyState* of the design document, `recoveryAttempt` its *RecoveryAttempt*; with
both false the predictor is in *GoodChannel*. The reset paths restore different subsets of the fields:
a successful recovery (`recover`) restores all, a failed one (`failRecovery`) leaves `newState` and the
cap, and an attempt that is abandoned because the frame rate dropped under it leaves even
`recoveryFrames`. What every path respects is `GoodChannel`: without `newState` no recovery field and no
cap deviates from its initial value.
-/

namespace CloudStreaming.Tcae.NetPred

variable {K : Type} [Field K] [LinearOrder K]

/-- The fields of *GoodChannel*. -/
structure GoodChannel (p : NetPred K) : Prop where
  recoveryAttempt : p.recoveryAttempt = false
  recoveryFrames : p.recoveryFrames = 0
  timeToExplore : p.timeToExplore = timeout
  estimatedThresholdSize : p.estimatedThresholdSize = 0

/-- The invariant of the machine. -/
def SteadyInv (p : NetPred K) : Prop := p.newState = false → p.GoodChannel

theorem new_steadyInv {K : Type} [Field K]
    (steady : Bool) (target : K) : ((new steady).setTargetDelay target).SteadyInv :=
  fun _ => ⟨rfl, rfl, rfl, rfl⟩

theorem SteadyInv.newState_of_attempt {K : Type} [Field K]
    {p : NetPred K} (h : p.SteadyInv) (ha : p.recoveryAttempt = true) :
    p.newState = true := by
  cases hn : p.newState with
  | true => rfl
  | false => rw [(h hn).recoveryAttempt] at ha; cases ha

/-- The invariant reads five fields. -/
theorem SteadyInv.frame {K : Type} [Field K] {p q : NetPred K} (h : p.SteadyInv) (h1 : q.newState = p.newState)
    (h2 : q.recoveryAttempt = p.recoveryAttempt) (h3 : q.recoveryFrames = p.recoveryFrames)
    (h4 : q.timeToExplore = p.timeToExplore) (h5 : q.estimatedThresholdSize = p.estimatedThresholdSize) :
    q.SteadyInv := by
  intro hn
  have hg := h (h1 ▸ hn)
  exact ⟨h2.trans hg.1, h3.trans hg.2, h4.trans hg.3, h5.trans hg.4⟩

/-! ## The end of a spike -/

theorem updateSteadyState_cases (p : NetPred K) :
    (p.newState = true ∧ 0 < p.encFramesForThreshold ∧ ∃ size b, p.updateSteadyState =
      ({ p.divides (p.encFramesForThreshold : K) with estimatedThresholdSize := size }, b)) ∨
    p.updateSteadyState = (p, false) := by
  unfold updateSteadyState
  split
  · rename_i hc
    simp only [Bool.and_eq_true, decide_eq_true_eq] at hc
    refine Or.inl ⟨hc.1.1, hc.1.2, ?_⟩
    dsimp only
    split
    · exact ⟨_, true, rfl⟩
    · exact ⟨p.estimatedThresholdSize, false, rfl⟩
  · exact Or.inr rfl

theorem failRecovery_cases {K : Type} (p : NetPred K) (b : Bool) :
    (p.recoveryAttempt = true ∧
      ∃ t, p.failRecovery b = { p with recoveryAttempt := false, recoveryFrames := 0, timeToExplore := t }) ∨
    p.failRecovery b = p := by
  unfold failRecovery
  split
  · rename_i hc
    simp only [Bool.and_eq_true] at hc
    exact Or.inl ⟨hc.1, _, rfl⟩
  · exact Or.inr rfl

/-- A spike's end decides `newState` in `countSpike` alone. -/
theorem endSpike_newState (p : NetPred K) : p.endSpike.newState = p.countSpike.newState := by
  unfold endSpike
  rcases updateSteadyState_cases p.countSpike with ⟨_, _, size, b, hu⟩ | hu <;> rw [hu] <;> dsimp only
  · rcases failRecovery_cases { p.countSpike.divides _ with estimatedThresholdSize := size } b with ⟨_, t, hf⟩ | hf
    · rw [hf]; rfl
    · rw [hf]; rfl
  · rcases failRecovery_cases p.countSpike false with ⟨_, t, hf⟩ | hf <;> rw [hf]

theorem countSpike_newState (p : NetPred K) (h : p.newState = false) (h' : p.countSpike.newState = true) :
    2 ≤ p.spikes + 1 := by
  simp only [countSpike, h, Bool.false_or, oscillationDetected, Bool.and_eq_true, decide_eq_true_eq] at h'
  exact h'.2

theorem endSpike_inv (p : NetPred K) (h : p.SteadyInv) : p.endSpike.SteadyInv := by
  intro hn
  rw [endSpike_newState] at hn
  have hp : p.newState = false := by
    simp only [countSpike, Bool.or_eq_false_iff] at hn
    exact hn.1
  -- without `newState` neither the cap nor the attempt is touched
  have hu : p.countSpike.updateSteadyState = (p.countSpike, false) := by
    rcases updateSteadyState_cases p.countSpike with ⟨ht, _⟩ | hu
    · rw [ht] at hn; cases hn
    · exact hu
  have hg := h hp
  have hf : p.countSpike.failRecovery false = p.countSpike := by
    rcases failRecovery_cases p.countSpike false with ⟨ht, _⟩ | hf
    · rw [show p.countSpike.recoveryAttempt = p.recoveryAttempt from rfl, hg.recoveryAttempt] at ht
      cases ht
    · exact hf
  unfold endSpike
  rw [hu]
  dsimp only
  rw [hf]
  exact ⟨hg.recoveryAttempt, hg.recoveryFrames, hg.timeToExplore, hg.estimatedThresholdSize⟩

/-- An attempt that survives the end of a spike was not touched by it. -/
theorem endSpike_attempt (p : NetPred K) (h : p.endSpike.recoveryAttempt = true) :
    p.recoveryAttempt = true ∧ p.endSpike.recoveryFrames = p.recoveryFrames := by
  unfold endSpike at h ⊢
  rcases updateSteadyState_cases p.countSpike with ⟨_, _, size, b, hu⟩ | hu <;> rw [hu] at h ⊢ <;> dsimp only at h ⊢
  · rcases failRecovery_cases { p.countSpike.divides _ with estimatedThresholdSize := size } b with ⟨_, t, hf⟩ | hf
    · rw [hf] at h; cases h
    · rw [hf] at h ⊢; exact ⟨h, rfl⟩
  · rcases failRecovery_cases p.countSpike false with ⟨_, t, hf⟩ | hf
    · rw [hf] at h; cases h
    · rw [hf] at h ⊢; exact ⟨h, rfl⟩

theorem failRecovery_fps {K : Type} (p : NetPred K) (b : Bool) : (p.failRecovery b).fps = p.fps := by
  rcases failRecovery_cases p b with ⟨_, t, hf⟩ | hf <;> rw [hf]

theorem endSpike_fps (p : NetPred K) : p.endSpike.fps = p.fps := by
  unfold endSpike
  rcases updateSteadyState_cases p.countSpike with ⟨_, _, size, b, hu⟩ | hu <;> rw [hu, failRecovery_fps] <;> rfl

/-! ## One step -/

theorem observe_inv (p : NetPred K) (n : UInt32) (d : K) (h : p.SteadyInv) : (p.observe n d).SteadyInv := by
  unfold observe
  by_cases he : p.spikeEnds d = true
  · have hi := endSpike_inv (p.countDelay d) (h.frame rfl rfl rfl rfl rfl)
    simp only [he, if_true]
    exact hi.frame rfl rfl rfl rfl rfl
  · simp only [he]
    exact h.frame rfl rfl rfl rfl rfl

/-- `observe` raises `newState` only at the end of a spike that is at least the second counted. -/
theorem observe_newState (p : NetPred K) (n : UInt32) (d : K) :
    (p.observe n d).newState = p.newState ∨
    (p.newState = false ∧ (p.observe n d).newState = true ∧ p.spikeEnds d = true ∧ 2 ≤ p.spikes + 1) := by
  by_cases he : p.spikeEnds d = true
  · have ho : (p.observe n d).newState = (p.countDelay d).countSpike.newState := by
      rw [← endSpike_newState]; simp [observe, he, trackBitstream]
    cases hp : p.newState with
    | true => left; rw [ho]; simp [countSpike, countDelay, hp]
    | false =>
      cases hc : (p.countDelay d).countSpike.newState with
      | false => left; rw [ho, hc]
      | true => exact Or.inr ⟨rfl, by rw [ho, hc], he, countSpike_newState (p.countDelay d) hp hc⟩
  · left
    simp [observe, he, trackBitstream, countDelay]

theorem observe_attempt (p : NetPred K) (n : UInt32) (d : K) (h : (p.observe n d).recoveryAttempt = true) :
    p.recoveryAttempt = true ∧ (p.observe n d).recoveryFrames = p.recoveryFrames := by
  unfold observe at h ⊢
  by_cases he : p.spikeEnds d = true
  · simp only [he, if_true] at h ⊢
    exact endSpike_attempt (p.countDelay d) h
  · simp only [he] at h ⊢
    exact ⟨h, rfl⟩

theorem observe_timeoutFrames (p : NetPred K) (n : UInt32) (d : K) :
    (p.observe n d).timeoutFrames = p.timeoutFrames := by
  have hf : (p.observe n d).fps = p.fps := by
    unfold observe
    by_cases he : p.spikeEnds d = true
    · simp only [he, if_true, trackBitstream]; exact endSpike_fps (p.countDelay d)
    · simp only [he]; rfl
  simp only [timeoutFrames, hf]

/-- Everything `ManageRecoveryAttempt` can do. -/
theorem manageRecoveryAttempt_cases (p : NetPred K) :
    p.manageRecoveryAttempt = { p with recoveryAttempt := false } ∨
    (p.newState = true ∧ p.manageRecoveryAttempt = { p with recoveryAttempt := true, recoveryFrames := 0 }) ∨
    (p.recoveryAttempt = true ∧ p.manageRecoveryAttempt = { p with recoveryFrames := p.recoveryFrames + 1 }) ∨
    (p.recoveryAttempt = true ∧ ((p.recoveryFrames + 1 : Nat) : K) = p.timeoutFrames ∧
      p.manageRecoveryAttempt = { p with recoveryFrames := p.recoveryFrames + 1 }.recover) := by
  unfold manageRecoveryAttempt
  cases hi : p.initRecoveryCondition <;> cases ho : p.isAttemptOngoing <;> dsimp only
  · left; rfl
  · simp only [isAttemptOngoing, Bool.and_eq_true] at ho
    right; right
    simp only [Bool.not_false, Bool.not_true, Bool.and_false, Bool.false_eq_true, if_false, if_true]
    by_cases hs : ((p.recoveryFrames + 1 : Nat) : K) = p.timeoutFrames
    · exact Or.inr ⟨ho.1, hs, if_pos hs⟩
    · exact Or.inl ⟨ho.1, if_neg hs⟩
  · simp only [initRecoveryCondition, Bool.and_eq_true] at hi
    right; left
    exact ⟨hi.1.1.1, rfl⟩
  · -- starting an attempt and continuing one exclude each other
    simp only [initRecoveryCondition, isAttemptOngoing, Bool.and_eq_true, Bool.not_eq_true'] at hi ho
    rw [ho.1] at hi
    exact absurd hi.1.1.2 (by simp)

theorem manageRecoveryAttempt_inv (p : NetPred K) (h : p.SteadyInv) : p.manageRecoveryAttempt.SteadyInv := by
  intro hn
  rcases manageRecoveryAttempt_cases p with e | ⟨ht, e⟩ | ⟨ha, e⟩ | ⟨_, _, e⟩
  · rw [e] at hn ⊢
    exact ⟨rfl, (h hn).2, (h hn).3, (h hn).4⟩
  · rw [e] at hn
    exact absurd (ht.symm.trans hn) (by simp)
  · rw [e] at hn
    exact absurd ((h.newState_of_attempt ha).symm.trans hn) (by simp)
  · rw [e]
    exact ⟨rfl, rfl, rfl, rfl⟩

theorem checkNewSteadyState_inv (p : NetPred K) (n : UInt32) (d : K) (h : p.SteadyInv) :
    (p.checkNewSteadyState n d).SteadyInv := by
  unfold checkNewSteadyState
  split
  · exact (manageRecoveryAttempt_inv _ (observe_inv p n d h)).frame rfl rfl rfl rfl rfl
  · exact h

/-! ## Whole runs -/

/-- What drives the machine: a frame's feedback, or a new frame rate. -/
inductive SteadyOp (K : Type) where
  | checkNewSteadyState (encodedSize : UInt32) (delayInMs : K)
  | setFPS (fps : K)

def steadyStep (p : NetPred K) : SteadyOp K → NetPred K
  | .checkNewSteadyState n d => p.checkNewSteadyState n d
  | .setFPS fps => p.setFPS fps

theorem steadyStep_inv (p : NetPred K) (o : SteadyOp K) (h : p.SteadyInv) : (steadyStep p o).SteadyInv := by
  cases o with
  | checkNewSteadyState n d => exact checkNewSteadyState_inv p n d h
  | setFPS fps => exact h.frame rfl rfl rfl rfl rfl

/-- The machine from construction, with any target delay set. -/
def steadyRun (steady : Bool) (target : K) (ops : List (SteadyOp K)) : NetPred K :=
  ops.foldl steadyStep ((new steady).setTargetDelay target)

theorem steadyRun_inv (steady : Bool) (target : K) (ops : List (SteadyOp K)) :
    (steadyRun steady target ops).SteadyInv :=
  Runs.foldl_inv (fun p o h => steadyStep_inv p o h) ops _ (new_steadyInv steady target)

theorem raises_newState (p : NetPred K) (o : SteadyOp K) (hn : p.newState = false)
    (hs : (steadyStep p o).newState = true) :
    ∃ n d, o = .checkNewSteadyState n d ∧ p.spikeEnds d = true ∧ 2 ≤ p.spikes + 1 := by
  cases o with
  | setFPS fps => exact absurd (hn.symm.trans hs) (by simp)
  | checkNewSteadyState n d =>
    refine ⟨n, d, rfl, ?_⟩
    simp only [steadyStep, checkNewSteadyState] at hs
    split at hs
    · rcases observe_newState p n d with hob | ⟨_, _, he, h2⟩
      · -- `ManageRecoveryAttempt` never raises the flag itself
        rw [hn] at hob
        rcases manageRecoveryAttempt_cases (p.observe n d) with e | ⟨ht, e⟩ | ⟨_, e⟩ | ⟨_, _, e⟩
        · rw [e] at hs; exact absurd (hob.symm.trans hs) (by simp)
        · rw [hob] at ht; cases ht
        · rw [e] at hs; exact absurd (hob.symm.trans hs) (by simp)
        · rw [e] at hs; cases hs
      · exact ⟨he, h2⟩
    · rw [hn] at hs; cases hs

theorem clears_newState (p : NetPred K) (o : SteadyOp K) (hn : p.newState = true)
    (hs : (steadyStep p o).newState = false) :
    ∃ n d, o = .checkNewSteadyState n d ∧ p.recoveryAttempt = true ∧
      ((p.recoveryFrames + 1 : Nat) : K) = p.timeoutFrames := by
  cases o with
  | setFPS fps => exact absurd (hn.symm.trans hs) (by simp)
  | checkNewSteadyState n d =>
    refine ⟨n, d, rfl, ?_⟩
    simp only [steadyStep, checkNewSteadyState] at hs
    split at hs
    · have hob : (p.observe n d).newState = true := by
        rcases observe_newState p n d with hob | ⟨hf, _⟩
        · exact hob.trans hn
        · rw [hn] at hf; cases hf
      rcases manageRecoveryAttempt_cases (p.observe n d) with e | ⟨_, e⟩ | ⟨_, e⟩ | ⟨ha, hf, _⟩
      · rw [e] at hs; exact absurd (hob.symm.trans hs) (by simp)
      · rw [e] at hs; exact absurd (hob.symm.trans hs) (by simp)
      · rw [e] at hs; exact absurd (hob.symm.trans hs) (by simp)
      · obtain ⟨hp, hfr⟩ := observe_attempt p n d ha
        rw [hfr, observe_timeoutFrames] at hf
        exact ⟨hp, hf⟩
    · rw [hn] at hs; cases hs

/-- Without `newState`, `AdjustTarget` is its high-latency correction alone. -/
theorem adjustTarget_uncapped (p : NetPred K) (d : K) (hn : p.newState = false) :
    (p.adjustTarget d).nextTargetSize =
      if d ≥ 9 / 10 * p.targetDelay ∧ p.nextTargetSize ≥ p.previousTargetSize then p.previousTargetSize * (9 / 10)
      else p.nextTargetSize := by
  unfold adjustTarget
  by_cases hc : d ≥ 9 / 10 * p.targetDelay ∧ p.nextTargetSize ≥ p.previousTargetSize
  · simp only [hc, and_self, if_true, hn]
    split <;> simp
  · simp only [hc, if_false, hn]
    split <;> simp

/-- **The machine's invariant over every run**: an attempt needs `newState`; without `newState` the machine
is in `GoodChannel` and caps no target; `newState` rises only at the end of a spike that is at least the
second counted, and falls only when a recovery attempt reaches `timeout * fps` frames. -/
theorem steadyState_invariant (steady : Bool) (target : K) (ops : List (SteadyOp K)) :
    let p := steadyRun steady target ops
    (p.recoveryAttempt = true → p.newState = true) ∧
    (p.newState = false → p.recoveryAttempt = false ∧ p.recoveryFrames = 0 ∧ p.timeToExplore = timeout ∧
      p.estimatedThresholdSize = 0 ∧
      ∀ next previous d, ({ p with nextTargetSize := next, previousTargetSize := previous }.adjustTarget d).nextTargetSize =
        if d ≥ 9 / 10 * p.targetDelay ∧ next ≥ previous then previous * (9 / 10) else next) ∧
    (∀ o, p.newState = false → (steadyStep p o).newState = true →
      ∃ n d, o = .checkNewSteadyState n d ∧ p.spikeEnds d = true ∧ 2 ≤ p.spikes + 1) ∧
    (∀ o, p.newState = true → (steadyStep p o).newState = false →
      ∃ n d, o = .checkNewSteadyState n d ∧ p.recoveryAttempt = true ∧
        ((p.recoveryFrames + 1 : Nat) : K) = p.timeoutFrames) := by
  intro p
  have hI : p.SteadyInv := steadyRun_inv steady target ops
  refine ⟨hI.newState_of_attempt, fun hn => ?_, raises_newState p, clears_newState p⟩
  obtain ⟨h1, h2, h3, h4⟩ := hI hn
  exact ⟨h1, h2, h3, h4, fun next previous d => adjustTarget_uncapped _ d hn⟩

end CloudStreaming.Tcae.NetPred
