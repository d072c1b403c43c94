import CloudStreaming.Tcae.Predictor
import Mathlib.Tactic.NormNum

/-!
# The size `PredictEncSettings` writes

A frame that is not dropped gets the size 0 as long as there was no feedback, and a size between a tenth
of `maxFrameSizeInBytes` and `maxFrameSizeInBytes` from then on. The tenth is also what a sample without
feedback leaves, so the 0 rests on `m_validFeedback`: while it is off, `PredictEncSettings` feeds no such
sample (`enc_frame_settings_predictor.cpp:330-337`). `Stop` does not clear it (`:152-165`), so an object
that is started again after feedback in an earlier session writes the tenth without any
(`restarted_writes_minimum`); `output_bounded` says that this is the only way the bound fails.
-/

namespace CloudStreaming.Tcae.Predictor

open Runs NetPred

variable {K : Type} [Field K] [LinearOrder K]

/-! ## `NetPred` under a frame-size limit of `M` bytes -/

/-- A predictor configured for frames of at most `M` bytes. -/
structure Sized (M : Nat) (np : NetPred K) : Prop where
  target : np.TargetInv
  min : np.minTargetSize = ((M / 10 : Nat) : K) / 1000
  max : np.maxTargetSize = (M : K) / 1000

theorem start_sized [IsStrictOrderedRing K] (steady : Bool) (maxFrameSize recCount delay : UInt32) :
    Sized maxFrameSize.toNat (NetPred.start steady maxFrameSize recCount delay : NetPred K) := by
  refine ⟨start_targetInv steady maxFrameSize recCount delay, ?_, rfl⟩
  show (((maxFrameSize / 10).toNat : K)) / 1000 = _
  rw [UInt32.toNat_div]; rfl

/-- **Every sample**, with feedback or without, keeps the limits and leaves the target at or above the minimum. -/
theorem Sized.update [IsStrictOrderedRing K]
    {M : Nat} {np : NetPred K} (h : Sized M np) (m : CMath K) (size n : UInt32) (d : K) :
    Sized M (np.updateSizeAndDelay m size n d) ∧
      np.minTargetSize ≤ (np.updateSizeAndDelay m size n d).nextTargetSize := by
  by_cases hd : d < 0
  · have hs := (checkNewSteadyState_step np n d).targets
    obtain ⟨hI, hle⟩ := missedFeedback_target _ (h.target.frame hs)
    rw [updateSizeAndDelay_missed m np size n d hd]
    rw [hs.min] at hle
    exact ⟨⟨hI, hs.min.trans h.min, hs.max.trans h.max⟩, hle⟩
  · obtain ⟨hI, hle, hmin, hmax, -, -⟩ := updateSizeAndDelay_valid_target m np size n d hd h.target
    exact ⟨⟨hI, hmin.trans h.min, hmax.trans h.max⟩, hle⟩

/-- With a limit below ten bytes the minimum is 0, and a sample without feedback leaves a target of 0. -/
theorem Sized.update_zero [IsStrictOrderedRing K]
    {M : Nat} {np : NetPred K} (h : Sized M np) (m : CMath K) (size n : UInt32) (hM : M < 10)
    (h0 : np.nextTargetSize = 0) : (np.updateSizeAndDelay m size n (-1)).nextTargetSize = 0 := by
  have hs := (checkNewSteadyState_step np n (-1)).targets
  rw [updateSizeAndDelay_missed m np size n (-1) (by norm_num)]
  have hmin : np.minTargetSize = 0 := by rw [h.min, Nat.div_eq_of_lt hM]; simp
  simp only [missedFeedback, hs.next, hs.min, hmin, h0, zero_mul, lt_irrefl, if_false]

/-! ## The two loops -/

theorem feedStats_sized [IsStrictOrderedRing K] {M : Nat} (m : CMath K) :
    ∀ (stats : List (UInt32 × UInt32)) (sizes : List UInt32) (last : UInt32 × UInt32) (np : NetPred K), Sized M np →
      Sized M (feedStats m stats sizes last np).1 ∧
        (stats ≠ [] ∨ np.minTargetSize ≤ np.nextTargetSize →
          np.minTargetSize ≤ (feedStats m stats sizes last np).1.nextTargetSize)
  | [], _, _, _, h => ⟨h, fun hs => hs.resolve_left (fun hn => hn rfl)⟩
  | x :: stats, sizes, _, np, h => by
    obtain ⟨h1, hle⟩ := h.update m x.1 (sizes.headD 0) (x.2.toNat : K)
    obtain ⟨h2, hkeep⟩ := feedStats_sized m stats sizes.tail x _ h1
    have hmin : (np.updateSizeAndDelay m x.1 (sizes.headD 0) (x.2.toNat : K)).minTargetSize = np.minTargetSize :=
      h1.min.trans h.min.symm
    rw [hmin] at hkeep
    exact ⟨h2, fun _ => hkeep (Or.inr hle)⟩

theorem feedBitstreams_sized [IsStrictOrderedRing K] {M : Nat} (m : CMath K) (valid : Bool) (last : UInt32) :
    ∀ (sizes : List UInt32) (np : NetPred K), Sized M np →
      Sized M (feedBitstreams m valid last sizes np) ∧
        (np.minTargetSize ≤ np.nextTargetSize →
          np.minTargetSize ≤ (feedBitstreams m valid last sizes np).nextTargetSize) ∧
        (valid = false ∨ M < 10 → np.nextTargetSize = 0 → (feedBitstreams m valid last sizes np).nextTargetSize = 0)
  | [], _, h => ⟨h, id, fun _ h0 => h0⟩
  | size :: sizes, np, h => by
    cases valid with
    | false => exact feedBitstreams_sized m false last sizes np h
    | true =>
      obtain ⟨h1, hle⟩ := h.update m last size (-1)
      obtain ⟨h2, hkeep, hzero⟩ := feedBitstreams_sized m true last sizes _ h1
      have hmin : (np.updateSizeAndDelay m last size (-1)).minTargetSize = np.minTargetSize := h1.min.trans h.min.symm
      rw [hmin] at hkeep
      refine ⟨h2, fun _ => hkeep hle, fun hM h0 => hzero hM ?_⟩
      rcases hM with hM | hM
      · cases hM
      · exact h.update_zero m last size hM h0

/-! ## `GetNextFrameSize` -/

variable [FloorRing K]

theorem getNextFrameSize_zero [IsStrictOrderedRing K]
    {np : NetPred K} (h0 : np.nextTargetSize = 0) : np.getNextFrameSize = 0 := by
  simp [getNextFrameSize, truncate, h0]
  rfl

/-- The size is the target in bytes, rounded down: it is not negative and at most `M`, so the conversions keep it. -/
theorem getNextFrameSize_floor [IsStrictOrderedRing K] {M : Nat} {np : NetPred K} (h : Sized M np) (hM : M < 2 ^ 32) :
    np.getNextFrameSize.toNat = ⌊np.nextTargetSize * 1000⌋.toNat ∧ ⌊np.nextTargetSize * 1000⌋ ≤ (M : Int) := by
  have hhi : np.nextTargetSize * 1000 ≤ (((M : Nat) : Int) : K) := by
    have := h.target.next_le; rw [h.max] at this; rw [Int.cast_natCast]; linarith
  have hpos : 0 ≤ np.nextTargetSize * 1000 := mul_nonneg h.target.next_nonneg (by norm_num)
  have hfloor : ⌊np.nextTargetSize * 1000⌋ ≤ (M : Int) := by
    have := (Int.floor_le (np.nextTargetSize * 1000)).trans hhi
    exact_mod_cast this
  refine ⟨?_, hfloor⟩
  have hpos' : 0 ≤ ⌊np.nextTargetSize * 1000⌋ := Int.floor_nonneg.2 hpos
  rw [getNextFrameSize, truncate, if_pos hpos, UInt32.ofInt, UInt32.toNat_ofNat']
  omega

/-- A target within the limits is a size within the limits: the bounds are integers, so truncation keeps them. -/
theorem getNextFrameSize_bounds [IsStrictOrderedRing K] {M : Nat} {np : NetPred K} (h : Sized M np) (hM : M < 2 ^ 32)
    (hle : np.minTargetSize ≤ np.nextTargetSize) :
    M / 10 ≤ np.getNextFrameSize.toNat ∧ np.getNextFrameSize.toNat ≤ M := by
  have hlo : (((M / 10 : Nat) : Int) : K) ≤ np.nextTargetSize * 1000 := by
    rw [h.min] at hle; rw [Int.cast_natCast]; linarith
  have h1 : ((M / 10 : Nat) : Int) ≤ ⌊np.nextTargetSize * 1000⌋ := Int.le_floor.2 hlo
  obtain ⟨hv, h2⟩ := getNextFrameSize_floor h hM
  omega

theorem getNextFrameSize_le [IsStrictOrderedRing K] {M : Nat} {np : NetPred K} (h : Sized M np) (hM : M < 2 ^ 32) :
    np.getNextFrameSize.toNat ≤ M := by
  obtain ⟨hv, hle⟩ := getNextFrameSize_floor h hM
  omega

/-! ## One `PredictEncSettings` -/

theorem uint32_min_def (a b : UInt32) : min a b = if a ≤ b then a else b := rfl

/-- The minimum caps an IDR frame's size, also where `3 * size` wraps. -/
theorem boostIdr_le {K : Type} (p : Predictor K) (v : UInt32) (hv : v.toNat ≤ p.maxFrameSizeInBytes.toNat) :
    (p.boostIdr v).toNat ≤ p.maxFrameSizeInBytes.toNat := by
  unfold boostIdr
  split
  · rw [uint32_min_def]
    split
    · rename_i h
      exact UInt32.le_iff_toNat_le.1 h
    · exact le_refl _
  · exact hv

/-- An IDR frame's size: `3 * size` does not wrap below `2^30`, and the minimum caps it. -/
theorem boostIdr_bounds {K : Type} (p : Predictor K) (v : UInt32) (hM : p.maxFrameSizeInBytes.toNat < 2 ^ 30)
    (hv : v.toNat ≤ p.maxFrameSizeInBytes.toNat) :
    v.toNat ≤ (p.boostIdr v).toNat ∧ (p.boostIdr v).toNat ≤ p.maxFrameSizeInBytes.toNat := by
  refine ⟨?_, p.boostIdr_le v hv⟩
  unfold boostIdr
  split
  · have h3 : (idrSizeIncreaseCoeff * v).toNat = 3 * v.toNat := by
      rw [UInt32.toNat_mul, show idrSizeIncreaseCoeff.toNat = 3 from rfl]; omega
    rw [uint32_min_def]
    split
    · omega
    · exact hv
  · exact le_refl _

theorem boostIdr_zero {K : Type} (p : Predictor K) : p.boostIdr 0 = 0 := by
  unfold boostIdr
  split
  · rw [UInt32.mul_zero, uint32_min_def, if_pos (UInt32.le_iff_toNat_le.2 (Nat.zero_le _))]
  · rfl

/-- The size rule: 0 before any feedback, then within a tenth of the limit and the limit. -/
def OutputBound (M : Nat) (fed : Bool) (v : UInt32) : Prop :=
  if fed then M / 10 ≤ v.toNat ∧ v.toNat ≤ M else v = 0

/-- Feedback the predictor accepts as valid. -/
def feeds : Input K → Bool
  | .updateNetworkState (some data) => validData data
  | _ => false

/-- The predictor together with whether it has accepted valid feedback since `Start`. -/
def track (m : CMath K) (s : Bool × Predictor K) (i : Input K) : Bool × Predictor K :=
  (s.1 || feeds i, s.2.input m i)

/-- A `PredictEncSettings` that does not drop the frame writes a size within the rule. -/
def Bounded (m : CMath K) (M : Nat) (s : Bool × Predictor K) : Input K → Prop
  | .predictEncSettings settings =>
    ∀ d, (s.2.predictEncSettings m settings).2 = .ok d → d.dropped = false →
      OutputBound M s.1 d.settings.frameSizeInBytes
  | _ => True

/-- What holds between a successful `Start` with limit `M` and the next `Stop`. -/
structure Tracked (M : Nat) (s : Bool × Predictor K) (np : NetPred K) : Prop where
  running : s.2.networkPredictor = some np
  sized : Sized M np
  maxSize : s.2.maxFrameSizeInBytes.toNat = M
  unfed : s.1 = false →
    np.nextTargetSize = 0 ∧ s.2.cachedNetworkStats = [] ∧ (s.2.validFeedback = false ∨ M < 10)
  fed : s.1 = true → s.2.cachedNetworkStats ≠ [] ∨ np.minTargetSize ≤ np.nextTargetSize

/-- The drained predictor: `NetPred` is again sized, at 0 before feedback and at the minimum or above after. -/
theorem drain_tracked {K : Type} [Field K] [LinearOrder K] [IsStrictOrderedRing K]
    {M : Nat} {s : Bool × Predictor K} {np : NetPred K} (m : CMath K) (h : Tracked M s np) :
    Sized M (s.2.drain m np).2 ∧ (s.1 = false → (s.2.drain m np).2.nextTargetSize = 0) ∧
      (s.1 = true → (s.2.drain m np).2.minTargetSize ≤ (s.2.drain m np).2.nextTargetSize) := by
  obtain ⟨fed, p⟩ := s
  obtain ⟨h1, hle1⟩ := feedStats_sized m p.cachedNetworkStats p.cachedBitstreamSize (0, 0) np h.sized
  simp only [drain]
  generalize hr : feedStats m p.cachedNetworkStats p.cachedBitstreamSize (0, 0) np = r at *
  generalize (if r.2.2.2 ≠ 0 then r.2.2.1 else p.lastTransmittedSize) = last
  obtain ⟨h2, hle2, hzero⟩ := feedBitstreams_sized m p.validFeedback last r.2.1 r.1 h1
  refine ⟨h2, fun hf => ?_, fun hf => ?_⟩
  · obtain ⟨h0, hs, hv⟩ := h.unfed hf
    refine hzero hv ?_
    rw [← hr, hs]; exact h0
  · have hmin : r.1.minTargetSize = np.minTargetSize := h1.min.trans h.sized.min.symm
    rw [h2.min, ← h1.min]
    exact hle2 (hmin ▸ hle1 (h.fed hf))

/-- What a running `PredictEncSettings` leaves and writes. -/
theorem predictEncSettingsImpl_cases (m : CMath K) (p : Predictor K) (np : NetPred K) (settings : FrameSettings) :
    let r := p.predictEncSettingsImpl m np settings
    let v := (p.drain m np).2.getNextFrameSize
    r.1.networkPredictor = some (p.drain m np).2 ∧ r.1.cachedNetworkStats = [] ∧
      r.1.validFeedback = p.validFeedback ∧ r.1.maxFrameSizeInBytes = p.maxFrameSizeInBytes ∧
      (r.2.dropped = false →
        r.2.settings.frameSizeInBytes = (p.drain m np).1.boostIdr v ∨ r.2.settings.frameSizeInBytes = v) := by
  intro r v
  simp only [r, v, predictEncSettingsImpl]
  split
  · exact ⟨rfl, rfl, rfl, rfl, fun _ => Or.inl rfl⟩
  · split
    · exact ⟨rfl, rfl, rfl, rfl, fun h => absurd h (by simp)⟩
    · exact ⟨rfl, rfl, rfl, rfl, fun _ => Or.inr rfl⟩

/-- A dropped frame leaves the size that was passed in. -/
theorem predictEncSettingsImpl_dropped (m : CMath K) (p : Predictor K) (np : NetPred K) (settings : FrameSettings)
    (hd : (p.predictEncSettingsImpl m np settings).2.dropped = true) :
    (p.predictEncSettingsImpl m np settings).2.settings.frameSizeInBytes = settings.frameSizeInBytes := by
  simp only [predictEncSettingsImpl] at hd ⊢
  split
  · rename_i h
    rw [if_pos h] at hd
    cases hd
  · rename_i h
    rw [if_neg h] at hd
    split
    · rfl
    · rename_i h'
      rw [if_neg h'] at hd
      cases hd

theorem predict_kept [IsStrictOrderedRing K]
    {M : Nat} {s : Bool × Predictor K} {np : NetPred K} (m : CMath K) (h : Tracked M s np)
    (settings : FrameSettings) : Tracked M (s.1, (s.2.predictEncSettingsImpl m np settings).1) (s.2.drain m np).2 := by
  obtain ⟨hs, hzero, hle⟩ := drain_tracked m h
  obtain ⟨hrun, hstats, hvalid, hmax, -⟩ := predictEncSettingsImpl_cases m s.2 np settings
  exact ⟨hrun, hs, hmax ▸ h.maxSize, fun hf => ⟨hzero hf, hstats, hvalid ▸ (h.unfed hf).2.2⟩, fun hf => Or.inr (hle hf)⟩

theorem predict_bounded [IsStrictOrderedRing K]
    {M : Nat} {s : Bool × Predictor K} {np : NetPred K} (m : CMath K) (hM : M < 2 ^ 30)
    (h : Tracked M s np) (settings : FrameSettings)
    (hd : (s.2.predictEncSettingsImpl m np settings).2.dropped = false) :
    OutputBound M s.1 (s.2.predictEncSettingsImpl m np settings).2.settings.frameSizeInBytes := by
  obtain ⟨hs, hzero, hle⟩ := drain_tracked m h
  obtain ⟨-, -, -, -, hsize⟩ := predictEncSettingsImpl_cases m s.2 np settings
  have hmax' : (s.2.drain m np).1.maxFrameSizeInBytes.toNat = M := h.maxSize
  unfold OutputBound
  split
  · rename_i hf
    obtain ⟨hlo, hhi⟩ := getNextFrameSize_bounds hs (by omega) (hle hf)
    rcases hsize hd with he | he <;> rw [he]
    · obtain ⟨b1, b2⟩ := boostIdr_bounds (s.2.drain m np).1 (s.2.drain m np).2.getNextFrameSize
        (by rw [hmax']; exact hM) (by rw [hmax']; exact hhi)
      rw [hmax'] at b2
      exact ⟨hlo.trans b1, b2⟩
    · exact ⟨hlo, hhi⟩
  · rename_i hf
    have h0 := getNextFrameSize_zero (hzero (by simpa using hf))
    rcases hsize hd with he | he <;> rw [he, h0]
    exact boostIdr_zero _

/-- Whatever the limit, the size stays below it. -/
theorem predict_le [IsStrictOrderedRing K]
    {M : Nat} {s : Bool × Predictor K} {np : NetPred K} (m : CMath K) (h : Tracked M s np)
    (settings : FrameSettings) (hd : (s.2.predictEncSettingsImpl m np settings).2.dropped = false) :
    (s.2.predictEncSettingsImpl m np settings).2.settings.frameSizeInBytes.toNat ≤ M := by
  obtain ⟨-, -, -, -, hsize⟩ := predictEncSettingsImpl_cases m s.2 np settings
  have hmax' : (s.2.drain m np).1.maxFrameSizeInBytes.toNat = M := h.maxSize
  have hM : M < 2 ^ 32 := hmax' ▸ UInt32.toNat_lt _
  have hle := getNextFrameSize_le (drain_tracked m h).1 hM
  rcases hsize hd with he | he <;> rw [he]
  · have hboost := (s.2.drain m np).1.boostIdr_le (s.2.drain m np).2.getNextFrameSize (by rw [hmax']; exact hle)
    rw [hmax'] at hboost
    exact hboost
  · exact hle

/-- **One call**: the tracked invariant is kept. -/
theorem track_kept [IsStrictOrderedRing K]
    {M : Nat} (m : CMath K) (s : Bool × Predictor K) (i : Input K) (h : ∃ np, Tracked M s np) :
    ∃ np, Tracked M (track m s i) np := by
  obtain ⟨fed, p⟩ := s
  obtain ⟨np, h⟩ := h
  have hrun : p.networkPredictor = some np := h.running
  cases i with
  | setFps fps =>
    by_cases hf : fps ≤ 0
    · refine ⟨np, ?_⟩
      simpa [track, feeds, input, setFps, hrun, hf] using h
    · refine ⟨np.setFPS fps, ?_⟩
      have hsz : Sized M (np.setFPS fps) :=
        ⟨h.sized.target.frame ⟨rfl, rfl, rfl, rfl, rfl, rfl⟩, h.sized.min, h.sized.max⟩
      simp only [track, feeds, input, setFps, hrun, hf, if_false, Bool.or_false]
      exact ⟨rfl, hsz, h.maxSize, h.unfed, h.fed⟩
  | bitstreamSent bts =>
    refine ⟨np, ?_⟩
    cases bts with
    | none => simpa [track, feeds, input, bitstreamSent, hrun] using h
    | some bts =>
      simp only [track, feeds, input, bitstreamSent, hrun, Bool.or_false]
      split
      · exact h
      · exact ⟨rfl, h.sized, h.maxSize, h.unfed, h.fed⟩
  | updateNetworkState data =>
    refine ⟨np, ?_⟩
    cases data with
    | none => simpa [track, feeds, input, updateNetworkState, hrun] using h
    | some data =>
      by_cases hv : validData data = true
      · simp only [track, feeds, input, updateNetworkState, hrun, hv, if_true, Bool.or_true]
        exact ⟨rfl, h.sized, h.maxSize, fun hf => absurd hf (by simp), fun _ => Or.inl (by simp)⟩
      · simp only [track, feeds, input, updateNetworkState, hrun, hv, Bool.or_false]
        exact ⟨rfl, h.sized, h.maxSize, h.unfed, h.fed⟩
  | predictEncSettings settings =>
    cases settings with
    | none => exact ⟨np, by simpa [track, feeds, input, predictEncSettings, hrun] using h⟩
    | some settings =>
      exact ⟨_, by simpa [track, feeds, input, predictEncSettings, hrun] using predict_kept m h settings⟩

/-- A prediction of a tracked object is within the rule. -/
theorem track_bounded [IsStrictOrderedRing K]
    {M : Nat} (m : CMath K) (hM : M < 2 ^ 30) (s : Bool × Predictor K) (i : Input K)
    (h : ∃ np, Tracked M s np) : Bounded m M s i := by
  obtain ⟨fed, p⟩ := s
  obtain ⟨np, h⟩ := h
  have hrun : p.networkPredictor = some np := h.running
  cases i with
  | predictEncSettings settings =>
    intro d hd hdrop
    cases settings with
    | none => simp [predictEncSettings, hrun] at hd
    | some settings =>
      simp only [predictEncSettings, hrun, Except.ok.injEq] at hd
      subst hd
      exact predict_bounded m hM h settings hdrop
  | _ => trivial

/-! ## From the constructor on -/

/-- A predictor that is not running has nothing cached from the last session, except `m_validFeedback`. -/
structure Idle (p : Predictor K) : Prop where
  sizes : p.cachedBitstreamSize = []
  stats : p.cachedNetworkStats = []
  idr : p.idrRequested = false
  delay : p.lastKnownDelayInMs = 0

/-- The object is idle whenever it is stopped. -/
def Stopped (p : Predictor K) : Prop := p.networkPredictor = none → p.Idle

/-- What a successful `StartImpl` writes. -/
def configured (steady : Bool) (p : Predictor K) (params : TcaeInitParams) : Predictor K :=
  let features := requestedFeatures params
  let maxFrameSize := orDefault params.maxFrameSizeInBytes defaultMaxFrameSizeInBytes
  let dropsDistance := dropSetting features params.minDropFramesDistance defaultMinDropFramesDistance
  { p with
    networkPredictor := some (NetPred.start steady maxFrameSize
      (orDefault params.bufferedRecordsCount defaultRecordsCount) params.targetDelayInMs)
    features := features
    initialTargetDelayInMs := params.targetDelayInMs
    maxSequentialDropsCount := dropSetting features params.maxSequentialDropsCount defaultMaxDropsCountInSequence
    maxFrameSizeInBytes := maxFrameSize
    minDropFramesDist := dropsDistance
    framesSinceLastDrop := dropsDistance.toUInt64 }

section
variable (steady : Bool) (params : TcaeInitParams)

/-- Behind the seven tests `StartImpl` configures the object. -/
theorem startImpl_configured {K : Type} [Field K] (p : Predictor K)
    (hknown : ¬ requestedFeatures params &&&
      ~~~(tcaePredictFrameSize ||| tcaeModeUnknown ||| tcaeFrameDrop ||| tcaeModeStandalone) ≠ 0)
    (hpredict : ¬ requestedFeatures params &&& tcaePredictFrameSize = 0)
    (hrec : ¬ orDefault params.bufferedRecordsCount defaultRecordsCount = 0) (hdelay : ¬ params.targetDelayInMs = 0)
    (hcount : ¬ (requestedFeatures params &&& tcaeFrameDrop ≠ 0 ∧
      dropSetting (requestedFeatures params) params.maxSequentialDropsCount defaultMaxDropsCountInSequence = 0))
    (hdistance : ¬ (requestedFeatures params &&& tcaeFrameDrop ≠ 0 ∧
      dropSetting (requestedFeatures params) params.minDropFramesDistance defaultMinDropFramesDistance = 0))
    (hsize : ¬ orDefault params.maxFrameSizeInBytes defaultMaxFrameSizeInBytes = 0) :
    p.startImpl steady (some params) = (p.configured steady params, .errNone) := by
  simp only [startImpl]
  rw [if_neg hknown, if_neg hpredict, if_neg hrec, if_neg hdelay, if_neg hcount, if_neg hdistance, if_neg hsize]
  rfl

/-- The parameters alone decide whether `StartImpl` succeeds, and with them what it writes. -/
theorem startImpl_eq {K : Type} [Field K] :
    (∃ sts : TcaeStatus, sts ≠ .errNone ∧ ∀ p : Predictor K, p.startImpl steady (some params) = (p, sts)) ∨
      ∀ p : Predictor K, p.startImpl steady (some params) = (p.configured steady params, .errNone) := by
  by_cases hknown : requestedFeatures params &&&
      ~~~(tcaePredictFrameSize ||| tcaeModeUnknown ||| tcaeFrameDrop ||| tcaeModeStandalone) ≠ 0
  · refine Or.inl ⟨.errInvalidArg, by decide, fun p => ?_⟩
    simp only [startImpl]
    rw [if_pos hknown]
  by_cases hpredict : requestedFeatures params &&& tcaePredictFrameSize = 0
  · refine Or.inl ⟨.errUnsupported, by decide, fun p => ?_⟩
    simp only [startImpl]
    rw [if_neg hknown, if_pos hpredict]
  by_cases hrec : orDefault params.bufferedRecordsCount defaultRecordsCount = 0
  · refine Or.inl ⟨.errInvalidArg, by decide, fun p => ?_⟩
    simp only [startImpl]
    rw [if_neg hknown, if_neg hpredict, if_pos hrec]
  by_cases hdelay : params.targetDelayInMs = 0
  · refine Or.inl ⟨.errInvalidArg, by decide, fun p => ?_⟩
    simp only [startImpl]
    rw [if_neg hknown, if_neg hpredict, if_neg hrec, if_pos hdelay]
  by_cases hcount : requestedFeatures params &&& tcaeFrameDrop ≠ 0 ∧
      dropSetting (requestedFeatures params) params.maxSequentialDropsCount defaultMaxDropsCountInSequence = 0
  · refine Or.inl ⟨.errInvalidArg, by decide, fun p => ?_⟩
    simp only [startImpl]
    rw [if_neg hknown, if_neg hpredict, if_neg hrec, if_neg hdelay, if_pos hcount]
  by_cases hdistance : requestedFeatures params &&& tcaeFrameDrop ≠ 0 ∧
      dropSetting (requestedFeatures params) params.minDropFramesDistance defaultMinDropFramesDistance = 0
  · refine Or.inl ⟨.errInvalidArg, by decide, fun p => ?_⟩
    simp only [startImpl]
    rw [if_neg hknown, if_neg hpredict, if_neg hrec, if_neg hdelay, if_neg hcount, if_pos hdistance]
  by_cases hsize : orDefault params.maxFrameSizeInBytes defaultMaxFrameSizeInBytes = 0
  · refine Or.inl ⟨.errInvalidArg, by decide, fun p => ?_⟩
    simp only [startImpl]
    rw [if_neg hknown, if_neg hpredict, if_neg hrec, if_neg hdelay, if_neg hcount, if_neg hdistance, if_pos hsize]
  exact Or.inr fun p => startImpl_configured steady params p hknown hpredict hrec hdelay hcount hdistance hsize

theorem orDefault_ne_zero (value default : UInt32) (h : default ≠ 0) : orDefault value default ≠ 0 := by
  unfold orDefault
  split
  · exact h
  · assumption

/-- Known features with prediction and without frame dropping, and a delay: `StartImpl` succeeds. -/
theorem startImpl_accepts {K : Type} [Field K] (p : Predictor K)
    (hknown : requestedFeatures params &&&
      ~~~(tcaePredictFrameSize ||| tcaeModeUnknown ||| tcaeFrameDrop ||| tcaeModeStandalone) = 0)
    (hpredict : requestedFeatures params &&& tcaePredictFrameSize ≠ 0)
    (hdrop : requestedFeatures params &&& tcaeFrameDrop = 0) (hdelay : params.targetDelayInMs ≠ 0) :
    p.startImpl steady (some params) = (p.configured steady params, .errNone) :=
  startImpl_configured steady params p (not_not.mpr hknown) hpredict
    (orDefault_ne_zero params.bufferedRecordsCount defaultRecordsCount (by decide)) hdelay (fun h => h.1 hdrop)
    (fun h => h.1 hdrop) (orDefault_ne_zero params.maxFrameSizeInBytes defaultMaxFrameSizeInBytes (by decide))

end

/-- `StartImpl` fails and changes nothing, or configures a new `NetPred` and keeps what is cached. -/
theorem startImpl_cases {K : Type} [Field K] (steady : Bool) (p : Predictor K) (params : TcaeInitParams) :
    let r := p.startImpl steady (some params)
    (r.2 ≠ .errNone ∧ r.1 = p) ∨
      ∃ maxFrameSize recCount delay, maxFrameSize = orDefault params.maxFrameSizeInBytes defaultMaxFrameSizeInBytes ∧
        r.1.networkPredictor = some (NetPred.start steady maxFrameSize recCount delay) ∧
        r.1.maxFrameSizeInBytes = maxFrameSize ∧
        r.1.cachedBitstreamSize = p.cachedBitstreamSize ∧ r.1.cachedNetworkStats = p.cachedNetworkStats ∧
        r.1.idrRequested = p.idrRequested ∧ r.1.validFeedback = p.validFeedback ∧
        r.1.lastKnownDelayInMs = p.lastKnownDelayInMs := by
  intro r
  rcases startImpl_eq (K := K) steady params with ⟨sts, hsts, h⟩ | h
  · have hr : r = (p, sts) := h p
    rw [hr]
    exact Or.inl ⟨hsts, rfl⟩
  · have hr : r = (p.configured steady params, .errNone) := h p
    rw [hr]
    exact Or.inr ⟨_, _, _, rfl, rfl, rfl, rfl, rfl, rfl, rfl, rfl⟩

theorem start_cases {K : Type} [Field K] (steady : Bool) (p : Predictor K) (params : TcaeInitParams)
    (h : (p.start steady (some params)).2 = .errNone) :
    p.networkPredictor = none ∧ p.start steady (some params) = p.startImpl steady (some params) := by
  cases hn : p.networkPredictor with
  | none => exact ⟨rfl, by simp [start, hn]⟩
  | some np => simp [start, hn] at h

/-- A call on a stopped predictor returns at once. -/
theorem input_of_stopped (m : CMath K) (p : Predictor K) (i : Input K) (hn : p.networkPredictor = none) :
    p.input m i = p := by
  cases i <;> simp [input, updateNetworkState, bitstreamSent, setFps, predictEncSettings, hn]

/-- A running one keeps running. -/
theorem input_of_running (m : CMath K) (p : Predictor K) (i : Input K) (np : NetPred K)
    (hn : p.networkPredictor = some np) : (p.input m i).networkPredictor ≠ none := by
  intro hnone
  cases i with
  | setFps fps =>
    simp only [input, setFps, hn] at hnone
    split at hnone <;> simp [hn] at hnone
  | bitstreamSent bts =>
    cases bts with
    | none => simp [input, bitstreamSent, hn] at hnone
    | some bts =>
      simp only [input, bitstreamSent, hn] at hnone
      split at hnone <;> simp [hn] at hnone
  | updateNetworkState data =>
    cases data with
    | none => simp [input, updateNetworkState, hn] at hnone
    | some data =>
      simp only [input, updateNetworkState, hn] at hnone
      split at hnone <;> simp at hnone
  | predictEncSettings settings =>
    cases settings with
    | none => simp [input, predictEncSettings, hn] at hnone
    | some settings =>
      simp only [input, predictEncSettings, hn] at hnone
      rw [(predictEncSettingsImpl_cases m p np settings).1] at hnone
      cases hnone

/-- **What the constructor and every `Stop` establish**, a stopped object has: nothing else stops it, and
nothing writes to a stopped one. -/
theorem stopped_inv {I : Predictor K → Prop} (m : CMath K) (hnew : I new)
    (hstop : ∀ (p : Predictor K) np, p.networkPredictor = some np → I p.stop.1) (history : List (Call K)) :
    (history.foldl (call m) new).networkPredictor = none → I (history.foldl (call m) new) := by
  refine foldl_inv (I := fun p : Predictor K => p.networkPredictor = none → I p) (fun p c h => ?_) history new
    (fun _ => hnew)
  cases c with
  | start steady params =>
    simp only [call, start]
    split
    · exact h
    · cases params with
      | none => exact h
      | some params =>
        rcases startImpl_cases steady p params with ⟨-, he⟩ | ⟨_, _, _, -, hrun, -⟩
        · rw [he]; exact h
        · intro hn; rw [hrun] at hn; cases hn
  | stop =>
    intro hn
    cases hp : p.networkPredictor with
    | none =>
      have he : p.call m .stop = p := by simp [call, stop, hp]
      rw [he]; exact h hp
    | some np => exact hstop p np hp
  | input i =>
    intro hn
    cases hp : p.networkPredictor with
    | none =>
      have he : p.call m (.input i) = p := input_of_stopped m p i hp
      rw [he]; exact h hp
    | some np => exact absurd hn (input_of_running m p i np hp)

theorem run_stopped (m : CMath K) (history : List (Call K)) : (history.foldl (call m) new).Stopped := by
  refine stopped_inv m ⟨rfl, rfl, rfl, rfl⟩ (fun p np hp => ?_) history
  simp only [stop, hp]
  exact ⟨rfl, rfl, rfl, rfl⟩

/-- A successful `Start` of a stopped object with the limit `M`. -/
theorem start_running [IsStrictOrderedRing K]
    (m : CMath K) (history : List (Call K)) (steady : Bool) (params : TcaeInitParams)
    (hstart : ((history.foldl (call m) new).start steady (some params)).2 = .errNone)
    (h1 : params.maxFrameSizeInBytes ≠ 0) :
    let p := history.foldl (call m) new
    let q := (p.start steady (some params)).1
    ∃ np, q.networkPredictor = some np ∧ Sized params.maxFrameSizeInBytes.toNat np ∧ np.nextTargetSize = 0 ∧
      q.maxFrameSizeInBytes = params.maxFrameSizeInBytes ∧ q.validFeedback = p.validFeedback ∧ q.Idle := by
  intro p q
  obtain ⟨hn, he⟩ := start_cases steady p params hstart
  have hidle := run_stopped m history hn
  have hq : q = (p.startImpl steady (some params)).1 := congrArg Prod.fst he
  rcases startImpl_cases steady p params with ⟨hne, -⟩ | ⟨M, rec, delay, hM, hrun, hmax, e1, e2, e3, e4, e5⟩
  · exact absurd (he ▸ hstart) hne
  · have hM' : M = params.maxFrameSizeInBytes := by
      rw [hM, orDefault, tcaeUseDefaultValue, if_neg h1]
    rw [← hq] at hrun hmax e1 e2 e3 e4 e5
    subst hM'
    exact ⟨_, hrun, start_sized steady _ rec delay, rfl, hmax, e4,
      ⟨e1.trans hidle.sizes, e2.trans hidle.stats, e3.trans hidle.idr, e5.trans hidle.delay⟩⟩

/-- Two calls that show a stale `m_validFeedback`: a bitstream was sent, what is the next size? -/
def sentThenPredict : List (Input K) :=
  [.bitstreamSent (some ⟨0, 1, 1⟩), .predictEncSettings (some ⟨0, 0, false⟩)]

theorem predictEncSettings_running (m : CMath K) (p : Predictor K) (np : NetPred K) (settings : FrameSettings)
    (hrun : p.networkPredictor = some np) :
    p.predictEncSettings m (some settings) =
      ((p.predictEncSettingsImpl m np settings).1, .ok (p.predictEncSettingsImpl m np settings).2) := by
  simp only [predictEncSettings, hrun]

/-- The first prediction after one bitstream without feedback: neither an IDR frame nor a drop. -/
theorem predict_sent (m : CMath K) (p : Predictor K) (np : NetPred K) (settings : FrameSettings)
    (hsizes : p.cachedBitstreamSize = [1]) (hstats : p.cachedNetworkStats = []) (hidr : p.idrRequested = false)
    (hdelay : p.lastKnownDelayInMs = 0) :
    (p.predictEncSettingsImpl m np settings).2 =
      ⟨{ settings with
          frameSizeInBytes := (if p.validFeedback then np.updateSizeAndDelay m p.lastTransmittedSize 1 (-1)
            else np).getNextFrameSize }, false⟩ := by
  have hnp : (p.drain m np).2 =
      if p.validFeedback then np.updateSizeAndDelay m p.lastTransmittedSize 1 (-1) else np := by
    simp [drain, feedStats, feedBitstreams, hstats, hsizes]
  have hdrop : (p.drain m np).1.dropsFrame = false := by
    have hd : (p.drain m np).1.lastKnownDelayInMs = 0 := by simp [drain, feedStats, hstats, hdelay]
    simp [dropsFrame, hd]
  simp only [predictEncSettingsImpl, hidr, hdrop, hnp, Bool.false_eq_true, if_false]

/-- A started object that still believes in feedback writes at least a tenth of the limit. -/
theorem stale_unbounded [IsStrictOrderedRing K] {M : Nat} (m : CMath K) (p : Predictor K) (np : NetPred K)
    (hrun : p.networkPredictor = some np) (hs : Sized M np) (hM : M < 2 ^ 30) (h10 : 10 ≤ M) (hidle : p.Idle)
    (hv : p.validFeedback = true) : ¬ Meets (track m) (Bounded m M) (false, p) sentThenPredict := by
  rintro ⟨-, hb, -⟩
  have hsent : (track m (false, p) (.bitstreamSent (some ⟨0, 1, 1⟩))) =
      (false, { p with cachedBitstreamSize := [1] }) := by
    simp [track, feeds, input, bitstreamSent, hrun, hidle.sizes, hidle.idr]
  rw [hsent] at hb
  obtain ⟨h1, hle⟩ := hs.update m p.lastTransmittedSize 1 (-1)
  obtain ⟨hlo, -⟩ := getNextFrameSize_bounds h1 (by omega) (by rw [h1.min, ← hs.min]; exact hle)
  have hp : (({ p with cachedBitstreamSize := [1] } : Predictor K).predictEncSettings m (some ⟨0, 0, false⟩)).2 =
      .ok ⟨⟨0, (np.updateSizeAndDelay m p.lastTransmittedSize 1 (-1)).getNextFrameSize, false⟩, false⟩ := by
    rw [predictEncSettings_running m { p with cachedBitstreamSize := [1] } np _ hrun]
    rw [predict_sent m { p with cachedBitstreamSize := [1] } np _ rfl hidle.stats hidle.idr hidle.delay]
    simp only [hv, if_true]
  have hout := hb _ hp rfl
  have hzero : (np.updateSizeAndDelay m p.lastTransmittedSize 1 (-1)).getNextFrameSize = 0 := hout
  rw [hzero] at hlo
  simp at hlo
  omega

/-- **The size rule**, for every object successfully started with a limit of `M` bytes: all its runs obey
it if and only if the object had no valid feedback before, or `M` is below ten. -/
theorem output_bounded [IsStrictOrderedRing K]
    (m : CMath K) (history : List (Call K)) (steady : Bool) (params : TcaeInitParams)
    (hstart : ((history.foldl (call m) new).start steady (some params)).2 = .errNone)
    (h1 : params.maxFrameSizeInBytes ≠ 0) (hM : params.maxFrameSizeInBytes.toNat < 2 ^ 30) :
    let p := history.foldl (call m) new
    (∀ inputs, Meets (track m) (Bounded m params.maxFrameSizeInBytes.toNat)
        (false, (p.start steady (some params)).1) inputs) ↔
      p.validFeedback = false ∨ params.maxFrameSizeInBytes.toNat < 10 := by
  intro p
  obtain ⟨np, hrun, hs, h0, hmax, hvalid, hidle⟩ := start_running m history steady params hstart h1
  constructor
  · intro hall
    by_contra hc
    obtain ⟨hv, h10⟩ := not_or.1 hc
    refine stale_unbounded m _ np hrun hs hM (not_lt.1 h10) hidle ?_ (hall sentThenPredict)
    rw [hvalid]; simpa using hv
  · intro hc inputs
    refine Meets.of_inv (fun s i h => track_kept m s i h) (fun s i h => track_bounded m hM s i h) inputs _
      ⟨np, hrun, hs, by rw [hmax], fun _ => ⟨h0, hidle.stats, ?_⟩, fun hf => by cases hf⟩
    rw [hvalid]; exact hc

/-! ## The rule on a restarted and on a new object -/

/-- The settings of a test session: frame-size prediction, a limit of 50000 bytes, 16 ms. -/
def sessionParams : TcaeInitParams where
  featuresSet := tcaePredictFrameSize
  targetDelayInMs := 16
  bufferedRecordsCount := 100
  maxSequentialDropsCount := 0
  maxFrameSizeInBytes := 50000
  minDropFramesDistance := 0

/-- A stopped object accepts these settings. -/
theorem start_session {K : Type} [Field K] (p : Predictor K) (hn : p.networkPredictor = none) :
    (p.start true (some sessionParams)).2 = .errNone ∧
      ∃ np, (p.start true (some sessionParams)).1.networkPredictor = some np := by
  have hstart : p.start true (some sessionParams) = (p.configured true sessionParams, .errNone) := by
    rw [start, hn]
    exact startImpl_accepts true sessionParams p (by decide) (by decide) (by decide) (by decide)
  rw [hstart]
  exact ⟨rfl, _, rfl⟩

/-- One session with one valid feedback, ended by `Stop`. -/
def fedSession : List (Call ℝ) :=
  [.start true (some sessionParams), .input (.updateNetworkState (some ⟨5000, 1500, false⟩)), .stop]

/-- **A restarted object writes a size without feedback**: started again after `fedSession`, it answers
`BitstreamSent`, `PredictEncSettings` with at least 5000 bytes, where the rule says 0. -/
theorem restarted_writes_minimum :
    let p := fedSession.foldl (call realMath) new
    (p.start true (some sessionParams)).2 = .errNone ∧
      ¬ Meets (track realMath) (Bounded realMath 50000) (false, (p.start true (some sessionParams)).1)
        sentThenPredict := by
  intro p
  obtain ⟨-, np, hnp⟩ := start_session (new : Predictor ℝ) rfl
  have hp : p.networkPredictor = none ∧ p.validFeedback = true := by
    simp [p, fedSession, call, input, updateNetworkState, stop, hnp, validData]
  obtain ⟨hok, -⟩ := start_session p hp.1
  obtain ⟨np', hrun, hs, -, -, hvalid, hidle⟩ := start_running realMath fedSession true sessionParams hok (by decide)
  exact ⟨hok, stale_unbounded realMath _ np' hrun hs (by decide) (by decide) hidle (hvalid.trans hp.2)⟩

/-- The rule on a new object. -/
theorem output_bounded_new :
    ((new : Predictor ℝ).start true (some sessionParams)).2 = .errNone ∧
      ∀ inputs, Meets (track realMath) (Bounded realMath 50000)
        (false, ((new : Predictor ℝ).start true (some sessionParams)).1) inputs := by
  have hok := (start_session (new : Predictor ℝ) rfl).1
  exact ⟨hok, (output_bounded realMath [] true sessionParams hok (by decide) (by decide)).2 (Or.inl rfl)⟩

end CloudStreaming.Tcae.Predictor
