import CloudStreaming.Tcae.SteadyState
import Mathlib.Algebra.Order.Ring.Rat
import Mathlib.Tactic.Linarith

/-!
# Recovery attempts: when one starts and what ends it (`net_pred.cpp:470-539`, `:626-671`)

A predictor in *NewSteadyState* counts the frames since the last spike and tries the full rate again when the
count *equals* `m_timeToExplore * m_fps` (`:634`). The count is an `int`, the product is a `double`: a product
that is not a whole number is passed over, and the count only returns to it after another spike.

An attempt ends in success when `m_recoveryFrames` reaches `m_timeout * m_fps`, and in failure when a second
spike *ends* inside it ("If 2 spikes occur during recovery", `:503`). Nothing asks for a spike that ended alone, or for
one that is still on: the success is declared all the same (`:655`), although it is to mean that "there is no latency
spike for enough time" (`:653`). `Watch` carries what happened since the attempt began beside the predictor.

| here | there |
| --- | --- |
| `frames`              | consecutive calls of `CheckNewSteadyState`, one for each frame |
| `Healthy`             | a reported delay within the target: `0 <= delay_in_ms <= m_targetDelay` |
| `Watch.spikeOn`       | not in the source: `IsSpikeOn()` held after some step since `m_recoveryAttempt` was set |
| `Watch.spikesEnded`   | not in the source: the `spikeEnds` branches taken since then |
| `Watch.lates`         | not in the source: for every frame, newest first, whether it was late |
| `Watch.since`         | not in the source: the frames since the one that began the attempt |
-/

namespace CloudStreaming.Tcae.NetPred

variable {K : Type} [Field K] [LinearOrder K]

/-- One call of `CheckNewSteadyState` for each frame's encoded size and reported delay. -/
def frames (p : NetPred K) (samples : List (UInt32 × K)) : NetPred K :=
  samples.foldl (fun p x => p.checkNewSteadyState x.1 x.2) p

/-! ## What a step leaves alone -/

theorem failRecovery_spec {K : Type} (p : NetPred K) (b : Bool) :
    (p.failRecovery b).spikes = p.spikes ∧ (p.failRecovery b).framesSinceLastSpike = p.framesSinceLastSpike ∧
    (p.failRecovery b).fps = p.fps ∧
    (p.failRecovery b).enableSteadyStateCheck = p.enableSteadyStateCheck ∧
    (p.failRecovery b).recoveryAttempt = (p.recoveryAttempt && !decide (2 ≤ p.spikes)) ∧
    ((p.failRecovery b).timeToExplore = p.timeToExplore ∨ (p.failRecovery b).timeToExplore = timeout ∨
      (p.failRecovery b).timeToExplore = p.timeToExplore * 2) := by
  unfold failRecovery
  split
  · rename_i hc
    simp only [Bool.and_eq_true] at hc
    refine ⟨rfl, rfl, rfl, rfl, ?_, ?_⟩
    · rw [hc.1, hc.2]; rfl
    · cases b
      · exact Or.inr (Or.inr rfl)
      · exact Or.inr (Or.inl rfl)
  · rename_i hc
    refine ⟨rfl, rfl, rfl, rfl, ?_, Or.inl rfl⟩
    cases ha : p.recoveryAttempt with
    | false => rfl
    | true => simpa [ha] using hc

/-- The end of a spike, field by field. -/
theorem endSpike_spec (p : NetPred K) :
    p.endSpike.spikes = p.spikes + 1 ∧ p.endSpike.framesSinceLastSpike = 0 ∧
    p.endSpike.fps = p.fps ∧ p.endSpike.enableSteadyStateCheck = p.enableSteadyStateCheck ∧
    p.endSpike.recoveryAttempt = (p.recoveryAttempt && !decide (2 ≤ p.spikes + 1)) ∧
    (p.endSpike.timeToExplore = p.timeToExplore ∨ p.endSpike.timeToExplore = timeout ∨
      p.endSpike.timeToExplore = p.timeToExplore * 2) := by
  unfold endSpike
  rcases updateSteadyState_cases p.countSpike with ⟨_, _, size, b, hu⟩ | hu <;> rw [hu]
  · exact failRecovery_spec _ b
  · exact failRecovery_spec _ false

/-- `observe`, at a frame that ends a spike. -/
theorem observe_ends (p : NetPred K) (n : UInt32) (d : K) (he : p.spikeEnds d = true) :
    (p.observe n d).spikes = p.spikes + 1 ∧ (p.observe n d).framesSinceLastSpike = 1 ∧
    (p.observe n d).recoveryAttempt = (p.recoveryAttempt && !decide (2 ≤ p.spikes + 1)) := by
  obtain ⟨h1, h2, -, -, h6, -⟩ := endSpike_spec (p.countDelay d)
  unfold observe
  simp only [he, if_true, trackBitstream]
  exact ⟨h1, by rw [h2], h6⟩

/-- `observe`, at any other frame. -/
theorem observe_goes_on (p : NetPred K) (n : UInt32) (d : K) (he : p.spikeEnds d = false) :
    (p.observe n d).spikes = p.spikes ∧
    (p.observe n d).framesSinceLastSpike = p.framesSinceLastSpike + 1 ∧
    (p.observe n d).recoveryAttempt = p.recoveryAttempt := by
  unfold observe
  simp only [he, trackBitstream, countDelay]
  exact ⟨rfl, rfl, rfl⟩

/-- `observe`, at every frame. -/
theorem observe_config (p : NetPred K) (n : UInt32) (d : K) :
    (p.observe n d).fps = p.fps ∧
    (p.observe n d).enableSteadyStateCheck = p.enableSteadyStateCheck ∧
    1 ≤ (p.observe n d).framesSinceLastSpike ∧
    ((p.observe n d).timeToExplore = p.timeToExplore ∨ (p.observe n d).timeToExplore = timeout ∨
      (p.observe n d).timeToExplore = p.timeToExplore * 2) := by
  cases he : p.spikeEnds d with
  | true =>
    obtain ⟨-, -, h4, h5, -, h7⟩ := endSpike_spec (p.countDelay d)
    unfold observe
    simp only [he, if_true, trackBitstream]
    exact ⟨h4, h5, Nat.le_add_left 1 _, h7⟩
  | false =>
    refine ⟨?_, ?_, ?_, Or.inl ?_⟩ <;> simp [observe, he, trackBitstream, countDelay]

theorem manageRecoveryAttempt_init (p : NetPred K) (hi : p.initRecoveryCondition = true) :
    p.manageRecoveryAttempt = { p with recoveryAttempt := true, recoveryFrames := 0 } := by
  have ho : p.isAttemptOngoing = false := by
    simp only [initRecoveryCondition, Bool.and_eq_true, Bool.not_eq_true'] at hi
    simp [isAttemptOngoing, hi.1.1.2]
  simp [manageRecoveryAttempt, hi, ho]

/-- Everything `ManageRecoveryAttempt` can do when no attempt starts. -/
theorem manageRecoveryAttempt_no_init (p : NetPred K) (hi : p.initRecoveryCondition = false) :
    p.manageRecoveryAttempt = { p with recoveryAttempt := false } ∨
    (p.recoveryAttempt = true ∧ (p.recoveryFrames : K) ≤ p.timeoutFrames ∧
      ((p.recoveryFrames + 1 : Nat) : K) ≠ p.timeoutFrames ∧
      p.manageRecoveryAttempt = { p with recoveryFrames := p.recoveryFrames + 1 }) ∨
    (p.recoveryAttempt = true ∧ p.manageRecoveryAttempt = { p with recoveryFrames := p.recoveryFrames + 1 }.recover) := by
  unfold manageRecoveryAttempt
  cases ho : p.isAttemptOngoing with
  | false => left; simp [hi]
  | true =>
    simp only [isAttemptOngoing, Bool.and_eq_true, decide_eq_true_eq] at ho
    right
    simp only [hi, Bool.not_false, Bool.not_true, Bool.and_false, Bool.false_eq_true, if_false, if_true]
    by_cases hs : ((p.recoveryFrames + 1 : Nat) : K) = p.timeoutFrames
    · exact Or.inr ⟨ho.1, if_pos hs⟩
    · exact Or.inl ⟨ho.1, ho.2, hs, if_neg hs⟩

/-! ## Starting an attempt -/

theorem manageRecoveryAttempt_config (p : NetPred K) :
    p.manageRecoveryAttempt.fps = p.fps ∧
    p.manageRecoveryAttempt.enableSteadyStateCheck = p.enableSteadyStateCheck := by
  rcases manageRecoveryAttempt_cases p with e | ⟨_, e⟩ | ⟨_, e⟩ | ⟨_, _, e⟩ <;> rw [e] <;> exact ⟨rfl, rfl⟩

theorem checkNewSteadyState_config (p : NetPred K) (n : UInt32) (d : K) :
    (p.checkNewSteadyState n d).fps = p.fps ∧
    (p.checkNewSteadyState n d).enableSteadyStateCheck = p.enableSteadyStateCheck := by
  unfold checkNewSteadyState
  split
  · obtain ⟨h1, h2⟩ := manageRecoveryAttempt_config (p.observe n d)
    obtain ⟨h3, h4, -, -⟩ := observe_config p n d
    exact ⟨h1.trans h3, h2.trans h4⟩
  · exact ⟨rfl, rfl⟩

/-- A machine that was switched off never leaves *GoodChannel*. -/
theorem steadyRun_enabled (steady : Bool) (target : K) (ops : List (SteadyOp K))
    (hn : (steadyRun steady target ops).newState = true) :
    (steadyRun steady target ops).enableSteadyStateCheck = true := by
  refine Runs.foldl_inv (I := fun p : NetPred K => p.newState = true → p.enableSteadyStateCheck = true)
    (fun p o h hn => ?_) ops _ (fun h => ?_) hn
  · cases o with
    | setFPS fps => exact h hn
    | checkNewSteadyState n d =>
      rw [steadyStep, (checkNewSteadyState_config p n d).2]
      by_contra he
      simp only [steadyStep, checkNewSteadyState, he] at hn
      exact he (h hn)
  · cases h

/-- In *NewSteadyState*, no attempt, no spike. -/
structure Waiting (p : NetPred K) : Prop where
  enabled : p.enableSteadyStateCheck = true
  newState : p.newState = true
  attempt : p.recoveryAttempt = false
  spike : p.isSpikeOn = false

/-- A delay within the target, whatever the frame's size. -/
def Healthy (p : NetPred K) (x : UInt32 × K) : Prop := 0 ≤ x.2 ∧ x.2 ≤ p.targetDelay

theorem trackBitstream_idle {K : Type} [Field K]
    (p : NetPred K) (n : UInt32) (hs : p.isSpikeOn = false) (ha : p.recoveryAttempt = false) :
    p.trackBitstream n = p := by
  have ht : (p.isSpikeOn || p.recoveryAttempt) = false := by rw [hs, ha]; rfl
  simp only [trackBitstream, ht, Bool.false_and, Bool.false_eq_true, if_false]

/-- A healthy frame only advances the counter. -/
theorem Waiting.observe {p : NetPred K} (h : p.Waiting) {x : UInt32 × K} (hx : p.Healthy x) :
    p.observe x.1 x.2 =
      { p with observeCounter := 0, framesSinceLastSpike := p.framesSinceLastSpike + 1 } := by
  have hd : p.highDelay x.2 = false := by
    simp [highDelay, h.attempt, not_lt.mpr hx.1, not_lt.mpr hx.2]
  have he : p.spikeEnds x.2 = false := by simp [spikeEnds, h.spike]
  have hc : p.countDelay x.2 = { p with observeCounter := 0 } := by simp [countDelay, hd]
  have ht := trackBitstream_idle { p with observeCounter := 0 } x.1 rfl h.attempt
  simp only [NetPred.observe, he, hc, Bool.false_eq_true, if_false, ht]

theorem Waiting.init_iff {p : NetPred K} (h : p.Waiting) {x : UInt32 × K} (hx : p.Healthy x) :
    (p.observe x.1 x.2).initRecoveryCondition = true ↔
      ((p.framesSinceLastSpike + 1 : Nat) : K) = p.exploreFrames := by
  have hs : ({ p with observeCounter := 0, framesSinceLastSpike := p.framesSinceLastSpike + 1 } :
      NetPred K).isSpikeOn = false := rfl
  rw [h.observe hx, initRecoveryCondition, hs]
  simp [h.newState, h.attempt, exploreFrames]

/-- A healthy frame at which the counter meets the product starts the attempt. -/
theorem Waiting.starts {p : NetPred K} (h : p.Waiting) {x : UInt32 × K} (hx : p.Healthy x)
    (hf : ((p.framesSinceLastSpike + 1 : Nat) : K) = p.exploreFrames) :
    (p.checkNewSteadyState x.1 x.2).recoveryAttempt = true := by
  rw [checkNewSteadyState, if_pos h.enabled, manageRecoveryAttempt_init _ ((h.init_iff hx).mpr hf)]
  rfl

/-- At every other healthy frame the predictor goes on waiting, one frame further. -/
theorem Waiting.step {p : NetPred K} (h : p.Waiting) {x : UInt32 × K} (hx : p.Healthy x)
    (hf : ((p.framesSinceLastSpike + 1 : Nat) : K) ≠ p.exploreFrames) :
    let q := p.checkNewSteadyState x.1 x.2
    q.Waiting ∧ q.framesSinceLastSpike = p.framesSinceLastSpike + 1 ∧ q.exploreFrames = p.exploreFrames ∧
      q.targetDelay = p.targetDelay := by
  have hi : (p.observe x.1 x.2).initRecoveryCondition = false := by
    rw [Bool.eq_false_iff]
    exact fun hi => hf ((h.init_iff hx).mp hi)
  have hm : (p.observe x.1 x.2).manageRecoveryAttempt =
      { p with observeCounter := 0, framesSinceLastSpike := p.framesSinceLastSpike + 1 } := by
    have ha : (p.observe x.1 x.2).recoveryAttempt = false := by rw [h.observe hx]; exact h.attempt
    rcases manageRecoveryAttempt_no_init _ hi with e | ⟨ha', _⟩ | ⟨ha', _⟩
    · rw [e, h.observe hx, ← h.attempt]
    · rw [ha] at ha'; cases ha'
    · rw [ha] at ha'; cases ha'
  rw [checkNewSteadyState, if_pos h.enabled, hm]
  exact ⟨⟨h.enabled, h.newState, h.attempt, rfl⟩, rfl, rfl, rfl⟩

/-- Some frame of the run turns `recoveryAttempt` on. -/
def Attempts (p : NetPred K) (samples : List (UInt32 × K)) : Prop :=
  ∃ pre x post, samples = pre ++ x :: post ∧ (p.frames pre).recoveryAttempt = false ∧
    ((p.frames pre).checkNewSteadyState x.1 x.2).recoveryAttempt = true

theorem attempts_cons (p : NetPred K) (x : UInt32 × K) (xs : List (UInt32 × K)) :
    p.Attempts (x :: xs) ↔
      (p.recoveryAttempt = false ∧ (p.checkNewSteadyState x.1 x.2).recoveryAttempt = true) ∨
      (p.checkNewSteadyState x.1 x.2).Attempts xs := by
  constructor
  · rintro ⟨pre, y, post, he, hf, ht⟩
    cases pre with
    | nil =>
      simp only [List.nil_append, List.cons.injEq] at he
      rw [he.1]
      exact Or.inl ⟨hf, ht⟩
    | cons z pre =>
      simp only [List.cons_append, List.cons.injEq] at he
      obtain ⟨rfl, rfl⟩ := he
      exact Or.inr ⟨pre, y, post, rfl, hf, ht⟩
  · rintro (⟨hf, ht⟩ | ⟨pre, y, post, he, hf, ht⟩)
    · exact ⟨[], x, xs, rfl, hf, ht⟩
    · exact ⟨x :: pre, y, post, by rw [he]; rfl, hf, ht⟩

/-- A product that is no whole number is passed over. -/
theorem Waiting.never {p : NetPred K} (h : p.Waiting) (samples : List (UInt32 × K))
    (hx : ∀ x ∈ samples, p.Healthy x) (hn : ∀ n : Nat, p.exploreFrames ≠ (n : K)) : ¬p.Attempts samples := by
  induction samples generalizing p with
  | nil => rintro ⟨pre, x, post, he, _⟩; simp at he
  | cons x xs ih =>
    obtain ⟨hw, -, hef, htd⟩ := h.step (hx x (by simp)) (fun e => hn _ e.symm)
    rw [attempts_cons]
    rintro (⟨-, ht⟩ | ht)
    · rw [hw.attempt] at ht; cases ht
    · refine ih hw (fun y hy => ?_) (by rw [hef]; exact hn) ht
      have hy := hx y (by simp [hy])
      exact ⟨hy.1, by rw [htd]; exact hy.2⟩

/-- A whole number above the counter is met by the counter. -/
theorem Waiting.eventually [IsStrictOrderedRing K] {p : NetPred K} (h : p.Waiting) (samples : List (UInt32 × K))
    (hx : ∀ x ∈ samples, p.Healthy x) (n : Nat) (hn : p.exploreFrames = (n : K))
    (hlt : p.framesSinceLastSpike < n) (hlen : n ≤ p.framesSinceLastSpike + samples.length) : p.Attempts samples := by
  induction samples generalizing p with
  | nil => simp only [List.length_nil] at hlen; omega
  | cons x xs ih =>
    rw [attempts_cons]
    by_cases hf : p.framesSinceLastSpike + 1 = n
    · exact Or.inl ⟨h.attempt, h.starts (hx x (by simp)) (by rw [hf, hn])⟩
    · have hf' : ((p.framesSinceLastSpike + 1 : Nat) : K) ≠ p.exploreFrames := by
        rw [hn]
        exact fun e => hf (Nat.cast_injective e)
      obtain ⟨hw, hfr, hef, htd⟩ := h.step (hx x (by simp)) hf'
      refine Or.inr (ih hw (fun y hy => ?_) (hef.trans hn) (by omega) ?_)
      · have hy := hx y (by simp [hy])
        exact ⟨hy.1, by rw [htd]; exact hy.2⟩
      · simp only [List.length_cons] at hlen
        omega

/-- **When a recovery is attempted.** In every reachable state that waits for one, a healthy run longer than
`timeToExplore * fps` frames contains the step that starts an attempt exactly when the product is a whole
number. -/
theorem recovery_attempted_iff [IsStrictOrderedRing K]
    (steady : Bool) (target : K) (ops : List (SteadyOp K)) (samples : List (UInt32 × K))
    (hn : (steadyRun steady target ops).newState = true)
    (ha : (steadyRun steady target ops).recoveryAttempt = false)
    (hs : (steadyRun steady target ops).isSpikeOn = false)
    (hf : ((steadyRun steady target ops).framesSinceLastSpike : K) < (steadyRun steady target ops).exploreFrames)
    (hx : ∀ x ∈ samples, (steadyRun steady target ops).Healthy x)
    (hlen : (steadyRun steady target ops).exploreFrames < (samples.length : K)) :
    (steadyRun steady target ops).Attempts samples ↔ ∃ n : Nat, (steadyRun steady target ops).exploreFrames = (n : K) := by
  have hw : (steadyRun steady target ops).Waiting := ⟨steadyRun_enabled steady target ops hn, hn, ha, hs⟩
  constructor
  · intro ht
    by_contra hne
    exact hw.never samples hx (fun n e => hne ⟨n, e⟩) ht
  · rintro ⟨n, e⟩
    rw [e] at hf hlen
    have hlt : n < samples.length := Nat.cast_lt.mp hlen
    exact hw.eventually samples hx n e (Nat.cast_lt.mp hf) (by omega)

/-- Two spikes of five frames over a target of 16 ms, each ended by a normal one. -/
def twoSpikes : List (UInt32 × ℚ) :=
  let spike := List.replicate 5 (1000, 20) ++ [(1000, 1)]
  spike ++ spike

/-- The calls of a session at a fixed rate. -/
def atRate (fps : K) (samples : List (UInt32 × K)) : List (SteadyOp K) :=
  .setFPS fps :: samples.map fun x => .checkNewSteadyState x.1 x.2

/-- At 30 frames a second the product is 300, and the attempt comes. -/
theorem recovery_attempted_at_30 : (steadyRun true 16 (atRate 30 twoSpikes)).Attempts (List.replicate 301 (1000, 0)) := by
  refine (recovery_attempted_iff true 16 (atRate 30 twoSpikes) (List.replicate 301 (1000, 0)) (by decide +kernel)
    (by decide +kernel) (by decide +kernel) (by decide +kernel) ?_ ?_).mpr ⟨300, by decide +kernel⟩
  · intro x hx
    rw [List.eq_of_mem_replicate hx]
    exact ⟨by decide +kernel, by decide +kernel⟩
  · rw [List.length_replicate]
    decide +kernel

/-- At 29.97 frames a second it is 299.7: the count goes from 299 to 300, and 301 healthy frames start no attempt. -/
theorem recovery_not_attempted_at_29_97 :
    let p := steadyRun true (16 : ℚ) (atRate (2997 / 100) twoSpikes)
    0 < p.fps ∧ p.newState = true ∧ p.recoveryAttempt = false ∧ p.isSpikeOn = false ∧
    (p.framesSinceLastSpike : ℚ) < p.exploreFrames ∧ (∀ x ∈ List.replicate 301 (1000, 0), p.Healthy x) ∧
    p.exploreFrames < ((List.replicate 301 ((1000 : UInt32), (0 : ℚ))).length : ℚ) ∧
    ¬p.Attempts (List.replicate 301 (1000, 0)) := by
  intro p
  have hx : ∀ x ∈ List.replicate 301 ((1000 : UInt32), (0 : ℚ)), p.Healthy x := by
    intro x hx
    rw [List.eq_of_mem_replicate hx]
    exact ⟨by decide +kernel, by decide +kernel⟩
  have hw : p.Waiting := ⟨by decide +kernel, by decide +kernel, by decide +kernel, by decide +kernel⟩
  have he : p.exploreFrames = 2997 / 10 := by decide +kernel
  refine ⟨by decide +kernel, hw.newState, hw.attempt, hw.spike, by decide +kernel, hx, ?_, ?_⟩
  · rw [he, List.length_replicate]
    decide +kernel
  · refine hw.never _ hx (fun n hn => ?_)
    rw [he, div_eq_iff (by decide +kernel)] at hn
    have hn' : 2997 = n * 10 := by exact_mod_cast hn
    omega

/-! ## What ends an attempt -/

/-- The predictor with what happened since the running attempt began. -/
structure Watch (K : Type) where
  pred : NetPred K
  spikeOn : Bool
  spikesEnded : Nat
  lates : List Bool
  since : Nat

/-- A frame without feedback, or with a delay past the target: during an attempt, past half of it. -/
def Late (p : NetPred K) (delayInMs : K) : Prop :=
  delayInMs < 0 ∨ p.targetDelay < delayInMs ∨ p.recoveryAttempt = true ∧ p.targetDelay / (2 : Nat) < delayInMs

instance (p : NetPred K) (delayInMs : K) : Decidable (p.Late delayInMs) :=
  inferInstanceAs (Decidable (_ ∨ _ ∨ _ ∧ _))

/-- One frame; `initRecoveryCondition` begins an attempt. -/
def watch (w : Watch K) (x : UInt32 × K) : Watch K :=
  let q := w.pred.checkNewSteadyState x.1 x.2
  let lates := decide (w.pred.Late x.2) :: w.lates
  if (w.pred.observe x.1 x.2).initRecoveryCondition then ⟨q, false, 0, lates, 0⟩
  else
    ⟨q, w.spikeOn || q.isSpikeOn, if w.pred.spikeEnds x.2 then w.spikesEnded + 1 else w.spikesEnded, lates, w.since + 1⟩

/-- A predictor from construction, and nothing that happened. -/
def watchStart (steady : Bool) (target fps : K) : Watch K :=
  ⟨((new steady).setTargetDelay target).setFPS fps, false, 0, [], 0⟩

/-- The frames of a session at a fixed rate, watched from construction. -/
def watchRun (steady : Bool) (target fps : K) (samples : List (UInt32 × K)) : Watch K :=
  samples.foldl watch (watchStart steady target fps)

theorem watch_pred (w : Watch K) (x : UInt32 × K) : (watch w x).pred = w.pred.checkNewSteadyState x.1 x.2 := by
  unfold watch
  dsimp only
  split <;> rfl

/-- `m_timeToExplore` is the time-out, doubled some number of times and wrapped to 32 bits; after 31 it stays 0. -/
def Doubled (t : UInt32) : Prop := ∃ k : Fin 32, t = (fun t => t * 2)^[k] timeout

theorem Doubled.timeout : Doubled timeout := ⟨0, rfl⟩

theorem Doubled.double {t : UInt32} (h : Doubled t) : Doubled (t * 2) := by
  obtain ⟨k, rfl⟩ := h
  have hk : ∀ k : Fin 32, ∃ j : Fin 32,
      ((fun t : UInt32 => t * 2)^[k] Tcae.timeout) * 2 = (fun t : UInt32 => t * 2)^[j] Tcae.timeout := by decide +kernel
  exact hk k

theorem Doubled.zero_or_le {t : UInt32} (h : Doubled t) : t.toNat = 0 ∨ Tcae.timeout.toNat ≤ t.toNat := by
  obtain ⟨k, rfl⟩ := h
  have hk : ∀ k : Fin 32, ((fun t : UInt32 => t * 2)^[k] Tcae.timeout).toNat = 0 ∨
      Tcae.timeout.toNat ≤ ((fun t : UInt32 => t * 2)^[k] Tcae.timeout).toNat := by decide +kernel
  exact hk k

/-- While an attempt runs: the spikes counted are those that ended inside it, at most one, and none of them
can be old enough to be forgotten before the attempt is over. -/
structure Attempt (w : Watch K) : Prop where
  spikes : w.pred.spikes = w.spikesEnded
  le_one : w.spikesEnded ≤ 1
  /-- Reaching the time-out would have ended it. -/
  running : (w.pred.recoveryFrames : K) ≠ w.pred.timeoutFrames
  /-- No attempt begins during a spike. -/
  calm : w.pred.recoveryFrames = 0 → w.pred.isSpikeOn = false
  /-- A spike that ended inside the attempt is younger than the attempt. -/
  younger : 1 ≤ w.spikesEnded → w.pred.framesSinceLastSpike < w.pred.recoveryFrames

/-- The invariant of a watched run. -/
structure WatchInv (w : Watch K) : Prop where
  enabled : w.pred.recoveryAttempt = true → w.pred.enableSteadyStateCheck = true
  doubled : Doubled w.pred.timeToExplore
  attempt : w.pred.recoveryAttempt = true → Attempt w

/-- The spikes ended by and with this frame. -/
def ended (w : Watch K) (x : UInt32 × K) : Nat :=
  if w.pred.spikeEnds x.2 then w.spikesEnded + 1 else w.spikesEnded

/-- An attempt that survives `observe` has seen at most one spike end, this frame included. -/
theorem Attempt.observe {w : Watch K} (h : Attempt w) (x : UInt32 × K)
    (ha : (w.pred.observe x.1 x.2).recoveryAttempt = true) :
    (w.pred.observe x.1 x.2).spikes = ended w x ∧ ended w x ≤ 1 ∧
    (1 ≤ ended w x → (w.pred.observe x.1 x.2).framesSinceLastSpike ≤ w.pred.recoveryFrames) := by
  cases he : w.pred.spikeEnds x.2 with
  | true =>
    obtain ⟨hsp, hfr, hat⟩ := observe_ends w.pred x.1 x.2 he
    -- a second spike would have failed the attempt
    have hlt : w.pred.spikes + 1 < 2 := by
      rw [ha] at hat
      have h2 := (Bool.and_eq_true_iff.mp hat.symm).2
      simpa only [Bool.not_eq_true', decide_eq_false_iff_not, not_le] using h2
    have hon : w.pred.isSpikeOn = true := (Bool.and_eq_true_iff.mp he).2
    have hrf : w.pred.recoveryFrames ≠ 0 := by
      intro h0
      rw [h.calm h0] at hon
      cases hon
    have hsw := h.spikes
    rw [hsp, hfr, ended, if_pos he]
    exact ⟨by omega, by omega, fun _ => by omega⟩
  | false =>
    obtain ⟨hsp, hfr, -⟩ := observe_goes_on w.pred x.1 x.2 he
    rw [hsp, hfr, ended, if_neg (by simp [he])]
    exact ⟨h.spikes, h.le_one, h.younger⟩

theorem manageRecoveryAttempt_doubled (p : NetPred K) (h : Doubled p.timeToExplore) :
    Doubled p.manageRecoveryAttempt.timeToExplore := by
  rcases manageRecoveryAttempt_cases p with e | ⟨_, e⟩ | ⟨_, e⟩ | ⟨_, _, e⟩ <;> rw [e]
  · exact h
  · exact h
  · exact h
  · exact Doubled.timeout

theorem checkNewSteadyState_doubled (p : NetPred K) (n : UInt32) (d : K) (h : Doubled p.timeToExplore) :
    Doubled (p.checkNewSteadyState n d).timeToExplore := by
  unfold checkNewSteadyState
  split
  · refine manageRecoveryAttempt_doubled _ ?_
    obtain ⟨-, -, -, e | e | e⟩ := observe_config p n d <;> rw [e]
    · exact h
    · exact Doubled.timeout
    · exact h.double
  · exact h

/-- An attempt begins a whole time-out after the last spike, so the spikes before it are forgotten at once. -/
theorem timeoutFrames_le_of_init [IsStrictOrderedRing K]
    (p : NetPred K) (hd : Doubled p.timeToExplore) (h1 : 1 ≤ p.framesSinceLastSpike)
    (hi : p.initRecoveryCondition = true) :
    0 < p.timeoutFrames ∧ p.timeoutFrames ≤ (p.framesSinceLastSpike : K) ∧ p.isSpikeOn = false := by
  simp only [initRecoveryCondition, Bool.and_eq_true, Bool.not_eq_true', decide_eq_true_eq] at hi
  obtain ⟨⟨-, hs⟩, hf⟩ := hi
  have hpos : (0 : K) < p.exploreFrames := by
    rw [← hf]
    exact_mod_cast h1
  rw [hf]
  unfold exploreFrames timeoutFrames at *
  have ht : p.timeToExplore.toNat ≠ 0 := by
    intro h0
    rw [h0, Nat.cast_zero, zero_mul] at hpos
    exact lt_irrefl _ hpos
  have hfps : 0 < p.fps := by
    have h0 : (0 : K) < (p.timeToExplore.toNat : K) := by exact_mod_cast Nat.pos_of_ne_zero ht
    exact (mul_pos_iff_of_pos_left h0).mp hpos
  have hle : (timeout.toNat : K) ≤ (p.timeToExplore.toNat : K) :=
    Nat.cast_le.mpr (hd.zero_or_le.resolve_left ht)
  have h10 : (0 : K) < (timeout.toNat : K) := Nat.cast_pos.mpr (by decide)
  exact ⟨mul_pos h10 hfps, mul_le_mul_of_nonneg_right hle hfps.le, hs⟩

theorem watch_init (w : Watch K) (x : UInt32 × K) (he : w.pred.enableSteadyStateCheck = true)
    (hi : (w.pred.observe x.1 x.2).initRecoveryCondition = true) :
    watch w x =
      ⟨{ w.pred.observe x.1 x.2 with recoveryAttempt := true, recoveryFrames := 0 }.resetSpikes, false, 0,
        decide (w.pred.Late x.2) :: w.lates, 0⟩ := by
  rw [watch, if_pos hi, checkNewSteadyState, if_pos he, manageRecoveryAttempt_init _ hi]

theorem watch_no_init (w : Watch K) (x : UInt32 × K) (hi : (w.pred.observe x.1 x.2).initRecoveryCondition = false) :
    (watch w x).spikesEnded = ended w x := by
  rw [watch, if_neg (by simp [hi])]
  rfl

/-- An attempt begins with this frame. -/
theorem attempt_begins [IsStrictOrderedRing K]
    (w : Watch K) (x : UInt32 × K) (h : WatchInv w) (he : w.pred.enableSteadyStateCheck = true)
    (hi : (w.pred.observe x.1 x.2).initRecoveryCondition = true) : Attempt (watch w x) := by
  obtain ⟨-, -, h1, hte⟩ := observe_config w.pred x.1 x.2
  have hd : Doubled (w.pred.observe x.1 x.2).timeToExplore := by
    rcases hte with e | e | e <;> rw [e]
    exacts [h.doubled, Doubled.timeout, h.doubled.double]
  obtain ⟨hpos, hle, hs⟩ := timeoutFrames_le_of_init _ hd h1 hi
  rw [watch_init w x he hi]
  have hne : ((0 : Nat) : K) ≠ (w.pred.observe x.1 x.2).timeoutFrames := by
    rw [Nat.cast_zero]
    exact hpos.ne
  exact ⟨if_pos hle, Nat.zero_le 1, hne, fun _ => hs, fun h => absurd h (Nat.not_succ_le_zero 0)⟩

/-- An attempt survives this frame: a spike that ended inside it is too young for `resetSpikes`. -/
theorem Attempt.continues [IsStrictOrderedRing K] {w : Watch K} (hA : Attempt w) (x : UInt32 × K)
    (hq : (w.pred.observe x.1 x.2).recoveryAttempt = true)
    (hrf : (w.pred.observe x.1 x.2).recoveryFrames = w.pred.recoveryFrames)
    (hle : ((w.pred.observe x.1 x.2).recoveryFrames : K) ≤ (w.pred.observe x.1 x.2).timeoutFrames)
    (hne : (((w.pred.observe x.1 x.2).recoveryFrames + 1 : Nat) : K) ≠ (w.pred.observe x.1 x.2).timeoutFrames)
    (hpred : (watch w x).pred = { w.pred.observe x.1 x.2 with
      recoveryFrames := (w.pred.observe x.1 x.2).recoveryFrames + 1 }.resetSpikes)
    (hend : (watch w x).spikesEnded = ended w x) : Attempt (watch w x) := by
  obtain ⟨hsp, hle1, hyoung⟩ := hA.observe x hq
  have hlt : (w.pred.recoveryFrames : K) < w.pred.timeoutFrames := by
    rw [hrf, observe_timeoutFrames] at hle
    exact lt_of_le_of_ne hle hA.running
  have hkeep : 1 ≤ ended w x →
      ¬(w.pred.observe x.1 x.2).timeoutFrames ≤ ((w.pred.observe x.1 x.2).framesSinceLastSpike : K) := by
    intro h1
    rw [observe_timeoutFrames, not_le]
    exact lt_of_le_of_lt (Nat.cast_le.mpr (hyoung h1)) hlt
  refine ⟨?_, hend ▸ hle1, ?_, ?_, ?_⟩
  · rw [hpred, hend]
    by_cases h0 : 1 ≤ ended w x
    · exact (if_neg (hkeep h0)).trans hsp
    · have h0' : ended w x = 0 := by omega
      rw [h0'] at hsp ⊢
      simp only [resetSpikes]
      split
      · rfl
      · exact hsp
  · rw [hpred]
    exact hne
  · rw [hpred]
    intro h0
    cases h0
  · rw [hpred, hend]
    intro h1
    have := hyoung h1
    show (w.pred.observe x.1 x.2).framesSinceLastSpike < (w.pred.observe x.1 x.2).recoveryFrames + 1
    omega

/-- An attempt that is running after the frame began with it or has survived it. -/
theorem watch_attempt [IsStrictOrderedRing K]
    (w : Watch K) (x : UInt32 × K) (h : WatchInv w) (he : w.pred.enableSteadyStateCheck = true)
    (ha : (watch w x).pred.recoveryAttempt = true) : Attempt (watch w x) := by
  cases hi : (w.pred.observe x.1 x.2).initRecoveryCondition with
  | true => exact attempt_begins w x h he hi
  | false =>
    have hpred : (watch w x).pred = (w.pred.observe x.1 x.2).manageRecoveryAttempt.resetSpikes := by
      rw [watch_pred, checkNewSteadyState, if_pos he]
    rcases manageRecoveryAttempt_no_init _ hi with e | ⟨hq, hle, hne, e⟩ | ⟨_, e⟩
    · rw [hpred, e] at ha
      cases ha
    · obtain ⟨hp, hrf⟩ := observe_attempt w.pred x.1 x.2 hq
      rw [e] at hpred
      exact (h.attempt hp).continues x hq hrf hle hne hpred (watch_no_init w x hi)
    · rw [hpred, e] at ha
      cases ha

theorem watch_inv [IsStrictOrderedRing K] (w : Watch K) (x : UInt32 × K) (h : WatchInv w) : WatchInv (watch w x) := by
  have hen : (watch w x).pred.recoveryAttempt = true → w.pred.enableSteadyStateCheck = true := by
    intro ha
    by_contra he
    rw [watch_pred, checkNewSteadyState, if_neg he] at ha
    exact he (h.enabled ha)
  refine ⟨fun ha => ?_, ?_, fun ha => watch_attempt w x h (hen ha) ha⟩
  · rw [watch_pred, (checkNewSteadyState_config w.pred x.1 x.2).2]
    exact hen ha
  · rw [watch_pred]
    exact checkNewSteadyState_doubled _ _ _ h.doubled

theorem watchRun_inv [IsStrictOrderedRing K] (steady : Bool) (target fps : K) (samples : List (UInt32 × K)) :
    WatchInv (watchRun steady target fps samples) := by
  refine Runs.foldl_inv watch_inv samples _ ⟨fun h => ?_, Doubled.timeout, fun h => ?_⟩ <;> cases h

/-- **A recovery is declared successful after at most one spike**: whenever a frame takes `newState` from true to
false, at most one latency spike has ended since the attempt began; with the second the attempt is given up. -/
theorem recovery_success_one_spike [IsStrictOrderedRing K]
    (steady : Bool) (target fps : K) (samples : List (UInt32 × K)) (x : UInt32 × K)
    (hn : (watchRun steady target fps samples).pred.newState = true)
    (hs : (watchRun steady target fps (samples ++ [x])).pred.newState = false) :
    (watchRun steady target fps (samples ++ [x])).spikesEnded ≤ 1 := by
  have h := watchRun_inv steady target fps samples
  have hstep : watchRun steady target fps (samples ++ [x]) = watch (watchRun steady target fps samples) x := by
    simp [watchRun]
  rw [hstep] at hs ⊢
  generalize watchRun steady target fps samples = w at hn hs h
  have hob : (w.pred.observe x.1 x.2).newState = true := by
    rcases observe_newState w.pred x.1 x.2 with e | ⟨e, -⟩
    · exact e.trans hn
    · rw [hn] at e; cases e
  rw [watch_pred, checkNewSteadyState] at hs
  split at hs
  · cases hi : (w.pred.observe x.1 x.2).initRecoveryCondition with
    | true =>
      rw [manageRecoveryAttempt_init _ hi] at hs
      exact absurd (hob.symm.trans hs) (by simp)
    | false =>
      rw [watch_no_init w x hi]
      rcases manageRecoveryAttempt_no_init _ hi with e | ⟨_, _, _, e⟩ | ⟨hq, -⟩
      · rw [e] at hs; exact absurd (hob.symm.trans hs) (by simp)
      · rw [e] at hs; exact absurd (hob.symm.trans hs) (by simp)
      · exact ((h.attempt (observe_attempt w.pred x.1 x.2 hq).1).observe x hq).2.1
  · rw [hn] at hs; cases hs

/-! ### Spikes inside an attempt that succeeds -/

/-- The late frames in a row that the newest one ends. -/
def streak : List Bool → Nat
  | true :: lates => streak lates + 1
  | _ => 0

/-- At one of the last `n` frames five frames in a row, or more, were late; the count is a `uint32_t`. -/
def SpikeWithin (n : Nat) (lates : List Bool) : Prop := ∃ i < n, 5 ≤ streak (lates.drop i) % 4294967296

instance (n : Nat) (lates : List Bool) : Decidable (SpikeWithin n lates) :=
  inferInstanceAs (Decidable (∃ i < n, 5 ≤ streak (lates.drop i) % 4294967296))

/-- If this frame takes `newState` from true to false, no spike was on at any step of the attempt. -/
def Sound (w : Watch K) (x : UInt32 × K) : Prop :=
  w.pred.newState = true → (watch w x).pred.newState = false → (watch w x).spikeOn = false

/-- The last frame of an attempt: the count reaches the time-out with it, and it ends no second spike. -/
def LastFrame (p : NetPred K) (delayInMs : K) : Prop :=
  p.recoveryAttempt = true ∧ ((p.recoveryFrames + 1 : Nat) : K) = p.timeoutFrames ∧
    ¬(1 ≤ p.spikes ∧ p.isSpikeOn = true ∧ ¬p.Late delayInMs)

instance (p : NetPred K) (delayInMs : K) : Decidable (p.LastFrame delayInMs) :=
  inferInstanceAs (Decidable (_ ∧ _ ∧ ¬(_ ∧ _ ∧ _)))

/-- At the last frame of an attempt no five frames in a row were late, up to any frame of the attempt. -/
def Undisturbed (w : Watch K) (x : UInt32 × K) : Prop :=
  w.pred.LastFrame x.2 → ¬SpikeWithin (w.since + 1) (decide (w.pred.Late x.2) :: w.lates)

instance (w : Watch K) (x : UInt32 × K) : Decidable (Undisturbed w x) :=
  inferInstanceAs (Decidable (_ → ¬_))

theorem spikeWithin_cons (n : Nat) (b : Bool) (lates : List Bool) :
    SpikeWithin (n + 1) (b :: lates) ↔ 5 ≤ streak (b :: lates) % 4294967296 ∨ SpikeWithin n lates := by
  constructor
  · rintro ⟨i, hi, h⟩
    cases i with
    | zero => exact .inl h
    | succ i => exact .inr ⟨i, by omega, h⟩
  · rintro (h | ⟨i, hi, h⟩)
    · exact ⟨0, by omega, h⟩
    · exact ⟨i + 1, by omega, h⟩

theorem highDelay_iff (p : NetPred K) (d : K) : p.highDelay d = true ↔ p.Late d := by
  simp only [highDelay, Late, Bool.or_eq_true, Bool.and_eq_true, decide_eq_true_eq, gt_iff_lt, Nat.cast_ofNat]
  tauto

/-- The counter is the number of late frames in a row. -/
theorem countDelay_counter (p : NetPred K) (d : K) (lates : List Bool)
    (h : p.observeCounter.toNat = streak lates % 4294967296) :
    (p.countDelay d).observeCounter.toNat = streak (decide (p.Late d) :: lates) % 4294967296 := by
  by_cases hl : p.Late d
  · have hhigh : p.highDelay d = true := (highDelay_iff p d).mpr hl
    simp only [countDelay, hhigh, if_true, hl, decide_true, streak]
    have hadd : (p.observeCounter + 1).toNat = (p.observeCounter.toNat + 1) % 4294967296 := by
      rw [UInt32.toNat_add]
      rfl
    omega
  · have hhigh : ¬p.highDelay d = true := fun hh => hl ((highDelay_iff p d).mp hh)
    simp [countDelay, hhigh, hl, streak]

theorem endSpike_counter (p : NetPred K) : p.endSpike.observeCounter = p.observeCounter := by
  unfold endSpike
  rcases updateSteadyState_cases p.countSpike with ⟨_, _, size, b, hu⟩ | hu <;> rw [hu] <;> dsimp only
  · rcases failRecovery_cases { p.countSpike.divides _ with estimatedThresholdSize := size } b with ⟨_, t, hf⟩ | hf <;>
      rw [hf] <;> rfl
  · rcases failRecovery_cases p.countSpike false with ⟨_, t, hf⟩ | hf <;> rw [hf] <;> rfl

theorem observe_counter (p : NetPred K) (n : UInt32) (d : K) :
    (p.observe n d).observeCounter = (p.countDelay d).observeCounter := by
  unfold observe
  split
  · exact endSpike_counter (p.countDelay d)
  · rfl

/-- The steps after `observe` leave the counter. -/
theorem checkNewSteadyState_counter (p : NetPred K) (n : UInt32) (d : K) (he : p.enableSteadyStateCheck = true) :
    (p.checkNewSteadyState n d).observeCounter = (p.countDelay d).observeCounter := by
  rw [checkNewSteadyState, if_pos he, ← observe_counter p n d]
  rcases manageRecoveryAttempt_cases (p.observe n d) with e | ⟨_, e⟩ | ⟨_, e⟩ | ⟨_, _, e⟩ <;> rw [e] <;> rfl

theorem isSpikeOn_iff {K : Type} (p : NetPred K) : p.isSpikeOn = true ↔ 5 ≤ p.observeCounter.toNat := by
  rw [isSpikeOn, decide_eq_true_eq, UInt32.le_iff_toNat_le]
  rfl

/-- What was watched, by the frames alone. -/
structure Counted (w : Watch K) : Prop where
  enabled : w.pred.recoveryAttempt = true → w.pred.enableSteadyStateCheck = true
  steady : w.pred.SteadyInv
  counter : w.pred.enableSteadyStateCheck = true → w.pred.observeCounter.toNat = streak w.lates % 4294967296
  spikeOn : w.pred.recoveryAttempt = true → (w.spikeOn = true ↔ SpikeWithin w.since w.lates)

theorem watch_lates (w : Watch K) (x : UInt32 × K) : (watch w x).lates = decide (w.pred.Late x.2) :: w.lates := by
  unfold watch
  dsimp only
  split <;> rfl

/-- After a frame that begins no attempt, a spike was on if it was before, or if this frame is late after four others. -/
theorem Counted.watch_spikeOn {w : Watch K} (h : Counted w) (x : UInt32 × K) (ha : w.pred.recoveryAttempt = true)
    (hi : (w.pred.observe x.1 x.2).initRecoveryCondition = false) :
    (watch w x).since = w.since + 1 ∧
      ((watch w x).spikeOn = true ↔ SpikeWithin (w.since + 1) (decide (w.pred.Late x.2) :: w.lates)) := by
  have he := h.enabled ha
  have hc := countDelay_counter w.pred x.2 w.lates (h.counter he)
  rw [← checkNewSteadyState_counter w.pred x.1 x.2 he] at hc
  rw [spikeWithin_cons, ← hc, ← isSpikeOn_iff, ← h.spikeOn ha, watch, if_neg (by simp [hi])]
  refine ⟨rfl, ?_⟩
  simp only [Bool.or_eq_true]
  exact or_comm

theorem watch_counted (w : Watch K) (x : UInt32 × K) (h : Counted w) : Counted (watch w x) := by
  constructor
  case enabled =>
    intro ha
    rw [watch_pred] at ha ⊢
    rw [(checkNewSteadyState_config w.pred x.1 x.2).2]
    by_contra he
    rw [checkNewSteadyState, if_neg he] at ha
    exact he (h.enabled ha)
  case steady =>
    rw [watch_pred]
    exact checkNewSteadyState_inv _ _ _ h.steady
  case counter =>
    intro he
    rw [watch_pred] at he ⊢
    rw [(checkNewSteadyState_config w.pred x.1 x.2).2] at he
    rw [checkNewSteadyState_counter _ _ _ he, watch_lates]
    exact countDelay_counter w.pred x.2 w.lates (h.counter he)
  case spikeOn =>
    intro ha
    cases hi : (w.pred.observe x.1 x.2).initRecoveryCondition with
    | true =>
      rw [watch, if_pos hi]
      simp [SpikeWithin]
    | false =>
      have hb : w.pred.recoveryAttempt = true := by
        rw [watch_pred, checkNewSteadyState] at ha
        split at ha
        · rcases manageRecoveryAttempt_no_init _ hi with e | ⟨hq, -⟩ | ⟨hq, -⟩
          · rw [e] at ha
            cases ha
          · exact (observe_attempt _ _ _ hq).1
          · exact (observe_attempt _ _ _ hq).1
        · exact ha
      obtain ⟨hsince, hspike⟩ := h.watch_spikeOn x hb hi
      rw [hsince, watch_lates]
      exact hspike

theorem watchStart_counted {K : Type} [Field K]
    (steady : Bool) (target fps : K) : Counted (watchStart steady target fps) := by
  refine ⟨fun h => ?_, fun _ => ⟨rfl, rfl, rfl, rfl⟩, fun _ => rfl, fun h => ?_⟩ <;> cases h

/-- An attempt is given up by the end of a second spike, and by nothing else before its frames are counted. -/
theorem observe_fails_iff (p : NetPred K) (n : UInt32) (d : K) (ha : p.recoveryAttempt = true) :
    (p.observe n d).recoveryAttempt = false ↔ 1 ≤ p.spikes ∧ p.isSpikeOn = true ∧ ¬p.Late d := by
  have hends : p.spikeEnds d = true ↔ p.isSpikeOn = true ∧ ¬p.Late d := by
    rw [← highDelay_iff]
    simp [spikeEnds, and_comm]
  cases he : p.spikeEnds d with
  | true =>
    rw [(observe_ends p n d he).2.2, ha]
    obtain ⟨hon, hlate⟩ := hends.mp he
    simp only [Bool.true_and, Bool.not_eq_false', decide_eq_true_eq, hon, hlate, not_false_eq_true, and_self, and_true]
    omega
  | false =>
    rw [(observe_goes_on p n d he).2.2, ha]
    simp only [Bool.true_eq_false, false_iff, not_and]
    intro _ hon hlate
    exact absurd (hends.mpr ⟨hon, hlate⟩) (by simp [he])

/-- **Success** is declared with the last frame of an attempt. -/
theorem Counted.succeeds_iff [IsStrictOrderedRing K] {w : Watch K} (h : Counted w) (x : UInt32 × K) :
    (w.pred.newState = true ∧ (watch w x).pred.newState = false) ↔ w.pred.LastFrame x.2 := by
  have hkeep : w.pred.newState = true → (w.pred.observe x.1 x.2).newState = true := by
    intro hn
    rcases observe_newState w.pred x.1 x.2 with e | ⟨e, -⟩
    · exact e.trans hn
    · rw [hn] at e
      cases e
  constructor
  · rintro ⟨hn, hs⟩
    rw [watch_pred] at hs
    obtain ⟨n, d, ho, ha, hframes⟩ := clears_newState w.pred (.checkNewSteadyState x.1 x.2) hn hs
    refine ⟨ha, hframes, fun hfail => ?_⟩
    -- without the attempt `ManageRecoveryAttempt` leaves the state
    have hq := (observe_fails_iff w.pred x.1 x.2 ha).mpr hfail
    rw [checkNewSteadyState, if_pos (h.enabled ha)] at hs
    rcases manageRecoveryAttempt_cases (w.pred.observe x.1 x.2) with e | ⟨_, e⟩ | ⟨hq', _⟩ | ⟨hq', _⟩
    · rw [e] at hs
      exact absurd ((hkeep hn).symm.trans hs) (by simp)
    · rw [e] at hs
      exact absurd ((hkeep hn).symm.trans hs) (by simp)
    · rw [hq] at hq'
      cases hq'
    · rw [hq] at hq'
      cases hq'
  · rintro ⟨ha, hframes, hgoes⟩
    have hq : (w.pred.observe x.1 x.2).recoveryAttempt = true := by
      by_contra hne
      exact hgoes ((observe_fails_iff w.pred x.1 x.2 ha).mp (Bool.eq_false_iff.mpr hne))
    obtain ⟨-, hrf⟩ := observe_attempt w.pred x.1 x.2 hq
    refine ⟨h.steady.newState_of_attempt ha, ?_⟩
    rw [watch_pred, checkNewSteadyState, if_pos (h.enabled ha)]
    have hinit : (w.pred.observe x.1 x.2).initRecoveryCondition = false := by simp [initRecoveryCondition, hq]
    have hgo : (w.pred.observe x.1 x.2).isAttemptOngoing = true := by
      simp only [isAttemptOngoing, hq, Bool.true_and, decide_eq_true_eq, hrf, observe_timeoutFrames, ← hframes]
      exact Nat.cast_le.mpr (Nat.le_succ _)
    rw [← hrf, ← observe_timeoutFrames w.pred x.1 x.2] at hframes
    have hlast : ({ w.pred.observe x.1 x.2 with recoveryFrames := (w.pred.observe x.1 x.2).recoveryFrames + 1 } :
        NetPred K).timeoutFrames = (w.pred.observe x.1 x.2).timeoutFrames := rfl
    rw [manageRecoveryAttempt]
    simp only [hinit, hgo, Bool.not_true, Bool.and_false, Bool.false_eq_true, if_false, if_true, hlast, hframes]
    rfl

theorem Counted.sound_iff [IsStrictOrderedRing K]
    {w : Watch K} (h : Counted w) (x : UInt32 × K) : Sound w x ↔ Undisturbed w x := by
  have hspike : w.pred.LastFrame x.2 →
      ((watch w x).spikeOn = true ↔ SpikeWithin (w.since + 1) (decide (w.pred.Late x.2) :: w.lates)) := by
    rintro ⟨ha, -, hgoes⟩
    refine (h.watch_spikeOn x ha ?_).2
    have hq : (w.pred.observe x.1 x.2).recoveryAttempt = true := by
      by_contra hne
      exact hgoes ((observe_fails_iff w.pred x.1 x.2 ha).mp (Bool.eq_false_iff.mpr hne))
    simp [initRecoveryCondition, hq]
  constructor
  · intro hs hlast hwithin
    obtain ⟨hn, hcleared⟩ := (h.succeeds_iff x).mpr hlast
    have hoff := hs hn hcleared
    rw [(hspike hlast).mpr hwithin] at hoff
    cases hoff
  · intro hu hn hcleared
    have hlast := (h.succeeds_iff x).mp ⟨hn, hcleared⟩
    rw [Bool.eq_false_iff]
    exact fun hon => hu hlast ((hspike hlast).mp hon)

/-- **Recovery success is sound exactly if no attempt reaches its last frame after five late ones in a row**: in every
session no success follows a spike that was on inside its attempt if and only if, whenever an attempt's frames reach the
time-out and no second spike ends with them, no frame of the attempt was the fifth late one in a row, or a later one. -/
theorem recovery_success_sound_iff [IsStrictOrderedRing K]
    (steady : Bool) (target fps : K) (samples : List (UInt32 × K)) :
    Runs.Meets watch Sound (watchStart steady target fps) samples ↔
      Runs.Meets watch Undisturbed (watchStart steady target fps) samples :=
  Runs.meets_iff (fun _ x h => Counted.sound_iff h x) (fun w x h _ => watch_counted w x h) samples _
    (watchStart_counted steady target fps)

/-- At one frame a second: two spikes, nine more frames to the attempt, and the ten frames of it. -/
theorem recovery_success_sound_undisturbed :
    Runs.Meets watch Sound (watchStart true 16 1) (twoSpikes ++ List.replicate 19 ((1000 : UInt32), (1 : ℚ))) :=
  (recovery_success_sound_iff true 16 1 _).mpr (by decide +kernel)

/-- The same with ten late frames, the whole of the attempt. -/
def disturbedAttempt : List (UInt32 × ℚ) := twoSpikes ++ List.replicate 9 (1000, 1) ++ List.replicate 9 (1000, 20)

/-- With the tenth late frame success is declared while the spike is on. -/
theorem recovery_success_during_spike :
    let w := watchRun true 16 1 disturbedAttempt
    w.pred.recoveryAttempt = true ∧ w.pred.newState = true ∧ w.pred.isSpikeOn = true ∧ w.since = 9 ∧
    (watch w (1000, 20)).pred.newState = false ∧ (watch w (1000, 20)).pred.isSpikeOn = true ∧
    (watch w (1000, 20)).spikesEnded = 0 ∧ ¬Sound w (1000, 20) ∧
    ¬Runs.Meets watch Sound (watchStart true 16 1) (disturbedAttempt ++ [(1000, 20)]) := by
  intro w
  have hunsound : ¬Sound w (1000, 20) := fun h => absurd (h (by decide +kernel) (by decide +kernel)) (by decide +kernel)
  refine ⟨by decide +kernel, by decide +kernel, by decide +kernel, by decide +kernel, by decide +kernel,
    by decide +kernel, by decide +kernel, hunsound, fun h => ?_⟩
  exact hunsound ((Runs.meets_append _ _ _).mp h).2.1

end CloudStreaming.Tcae.NetPred
