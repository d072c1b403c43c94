import CloudStreaming.Tcae.OutputBound

/-!
# From target sizes to bitrates (`encoder/shared/CTransCoder.cpp:1059-1079`, `:1967-2010`, `tcae/CTcaeWrapper.cpp`)

`enableTcae` divides the configured `maxrate` by the frame rate and gives the predictor the result as its limit for one
frame. Every frame gets a target size from the predictor, and `dynamicSetEncParameters` multiplies it by the frame rate
of that moment to get the bitrate. The limit is never computed again, while `setFramerate` changes the rate: with twice
the rate the ceiling is twice `maxrate`.

| here | there |
| --- | --- |
| `K`                    | `float` and `double`, in exact arithmetic |
| `tcaeInitialize`       | `CTcaeWrapper::Initialize` |
| `CTransCoder.tcae`     | `m_tcae`, null without `m_tcaeEnabled` |
| `CTransCoder.installed`| not in the source: the bitrates that were computed from a target, newest first |
| `frameLimit`           | the limit that the predictor works with |

A quotient beyond 32 bits, which takes a frame rate below 1/16, is converted by dropping the upper bits.
-/

namespace CloudStreaming.Tcae.RateCeiling

open Runs NetPred Predictor

variable {K : Type} [Field K] [LinearOrder K] [FloorRing K]

/-- The value of a status in `uint32_t` (`enc_frame_settings_predictor.h:24`). -/
def statusCode : TcaeStatus → UInt32
  | .errNone => 0
  | .errNullPtr => -2
  | .errUnsupported => -3
  | .errInvalidArg => -5
  | .errNotInitialized => -8

structure CTransCoder (K : Type) where
  tcae : Option (Predictor K)
  qsvPlugin : Bool
  logsOnlyMode : Bool
  frameRate : K
  bitrate : Int
  maxBitrate : Int
  installed : List K

/-! ## The wrapper -/

/-- The parameters of `Initialize` (`CTcaeWrapper.cpp:148-153`). -/
def initParams (targetDelay maxFrameSize : UInt32) : TcaeInitParams where
  featuresSet := tcaeModeStandalone
  targetDelayInMs := targetDelay
  bufferedRecordsCount := 100
  maxSequentialDropsCount := 0
  maxFrameSizeInBytes := maxFrameSize
  minDropFramesDistance := 0

/-- `Initialize` (`:137`); `steady` is what the predictor reads from the environment. -/
def tcaeInitialize (steady : Bool) (targetDelay maxFrameSize : UInt32) : Predictor K × TcaeStatus :=
  (Predictor.new : Predictor K).start steady (some (initParams targetDelay maxFrameSize))

/-- `UpdateClientFeedback` (`:171`). -/
def updateClientFeedback (p : Predictor K) (delay size : UInt32) : Predictor K :=
  (p.updateNetworkState (some ⟨delay, size, false⟩)).1

/-- `UpdateEncodedSize` (`:194`). -/
def updateEncodedSize (p : Predictor K) (encodedSize : UInt32) : Predictor K :=
  (p.bitstreamSent (some ⟨0, encodedSize, 0⟩)).1

/-- `GetTargetSize` (`:217`): a failure is returned as a size. -/
def getTargetSize (m : CMath K) (p : Predictor K) : Predictor K × UInt32 :=
  match p.predictEncSettings m (some ⟨0, 0, false⟩) with
  | (p, .ok d) => (p, d.settings.frameSizeInBytes)
  | (p, .error sts) => (p, statusCode sts)

/-! ## The transcoder -/

/-- The limit for one frame (`CTransCoder.cpp:1972-1982`); 0 asks for the default. -/
def maxSize (maxrate : Int32) (framerate : K) : UInt32 :=
  let maxBitrate := maxrate.toUInt32
  if maxBitrate > 0 ∧ framerate > 0 then
    UInt32.ofInt (truncate (((maxBitrate / 8).toNat : K) / framerate))
  else 0

/-- `enableTcae` (`:1967`), then `start` (`:169`), which reads the frame rate from the same property. -/
def enableTcae (steady qsvPlugin logsOnlyMode : Bool) (maxrate : Int32) (framerate : K) : CTransCoder K :=
  let r := tcaeInitialize steady 100 (maxSize maxrate framerate)
  let tcae := if r.2 ≠ .errNone then none else some (if framerate > 0 then (r.1.setFps framerate).1 else r.1)
  ⟨tcae, qsvPlugin, logsOnlyMode, framerate, 0, 0, []⟩

/-- `setBitrate`, `setMaxBitrate` (`:1394`, `:1402`) for the value of a target. -/
def installBitrate (s : CTransCoder K) (bitrate : K) : CTransCoder K :=
  { s with
    bitrate := truncate bitrate
    maxBitrate := truncate bitrate
    installed := bitrate :: s.installed }

/-- The part of `dynamicSetEncParameters` for the target size (`:1059-1079`). -/
def dynamicSetEncParameters (m : CMath K) (s : CTransCoder K) : CTransCoder K :=
  match s.tcae with
  | none => s
  | some p =>
    let r := getTargetSize m p
    let s := { s with tcae := some r.1 }
    if r.2 > 0 ∧ s.qsvPlugin ∧ !s.logsOnlyMode then installBitrate s (s.frameRate * (r.2.toNat : K) * 8) else s

inductive Op (K : Type) [Zero K] [LT K] where
  | frame
  | encoded (size : UInt32)
  | clientFeedback (delay size : UInt32)
  | setBitrate (bitrate : Int32)
  | setMaxBitrate (maxBitrate : Int32)
  | setFramerate (framerate : { r : K // 0 < r })

def step (m : CMath K) (s : CTransCoder K) : Op K → CTransCoder K
  | .frame => dynamicSetEncParameters m s
  | .encoded size => { s with tcae := s.tcae.map fun p => updateEncodedSize p size }
  | .clientFeedback delay size => { s with tcae := s.tcae.map fun p => updateClientFeedback p delay size }
  | .setBitrate bitrate => { s with bitrate := bitrate.toInt }
  | .setMaxBitrate maxBitrate => { s with maxBitrate := maxBitrate.toInt }
  | .setFramerate framerate => { s with frameRate := framerate.1 }

/-- Every bitrate that was computed from a target is at most `maxrate` and in the range of an `int`. -/
def Ceiling (maxrate : Int32) (s : CTransCoder K) : Prop :=
  ∀ b ∈ s.installed, b ≤ (maxrate.toInt : K) ∧ -2147483648 ≤ b ∧ b < 2147483648

/-- The limit of the predictor. -/
def frameLimit (maxrate : Int32) (framerate : K) : UInt32 :=
  orDefault (maxSize maxrate framerate) defaultMaxFrameSizeInBytes

/-- A new frame rate is such that frames of the limit stay below `maxrate`. -/
def Affordable (maxrate : Int32) (limit : Nat) (_ : CTransCoder K) : Op K → Prop
  | .setFramerate framerate => 8 * (limit : K) * framerate.1 ≤ (maxrate.toInt : K)
  | _ => True

/-! ## The wrapper on a running predictor -/

/-- The parameters of the wrapper are accepted, with any limit. -/
theorem tcaeInitialize_eq {K : Type} [Field K] (steady : Bool) (size : UInt32) :
    (tcaeInitialize steady 100 size : Predictor K × TcaeStatus) =
      ((Predictor.new : Predictor K).configured steady (initParams 100 size), .errNone) := by
  have hfeatures : requestedFeatures (initParams 100 size) = tcaePredictFrameSize ||| tcaeModeStandalone := rfl
  refine startImpl_accepts steady _ _ ?_ ?_ ?_ ?_
  · rw [hfeatures]; decide
  · rw [hfeatures]; decide
  · rw [hfeatures]; decide
  · show (100 : UInt32) ≠ 0
    decide

/-- A started predictor is tracked with its limit, before any feedback. -/
theorem tcaeInitialize_tracked {K : Type} [Field K] [LinearOrder K] [IsStrictOrderedRing K]
    (steady : Bool) (size : UInt32) :
    ∃ np, Tracked (orDefault size defaultMaxFrameSizeInBytes).toNat
      (false, (tcaeInitialize steady 100 size : Predictor K × TcaeStatus).1) np := by
  rw [tcaeInitialize_eq]
  refine ⟨_, rfl, start_sized steady _ _ _, rfl, fun _ => ⟨rfl, rfl, Or.inl rfl⟩, fun hf => ?_⟩
  cases hf

theorem setFps_features {K : Type} [Field K] [LinearOrder K]
    (p : Predictor K) (fps : K) : (p.setFps fps).1.features = p.features := by
  unfold setFps
  split
  · rfl
  · split <;> rfl

theorem updateNetworkState_features {K : Type} (p : Predictor K) (data : Option PerFrameNetworkData) :
    (p.updateNetworkState data).1.features = p.features := by
  unfold updateNetworkState
  split
  · rfl
  · rfl
  · simp only
    split <;> rfl

/-- The transcoder starts with a predictor under the limit, which drops no frames. -/
theorem enableTcae_tracked [IsStrictOrderedRing K]
    (m : CMath K) (steady qsvPlugin logsOnlyMode : Bool) (maxrate : Int32) (framerate : K) :
    ∃ p, (enableTcae steady qsvPlugin logsOnlyMode maxrate framerate).tcae = some p ∧
      p.features &&& tcaeFrameDrop = 0 ∧ ∃ np, Tracked (frameLimit maxrate framerate).toNat (false, p) np := by
  have hstart := tcaeInitialize_tracked (K := K) steady (maxSize maxrate framerate)
  have hok : (tcaeInitialize steady 100 (maxSize maxrate framerate) : Predictor K × TcaeStatus).2 = .errNone := by
    rw [tcaeInitialize_eq]
  have hfeatures : (tcaeInitialize steady 100 (maxSize maxrate framerate) : Predictor K × TcaeStatus).1.features &&&
      tcaeFrameDrop = 0 := by
    rw [tcaeInitialize_eq]
    show (tcaePredictFrameSize ||| tcaeModeStandalone) &&& tcaeFrameDrop = 0
    decide
  simp only [enableTcae, hok]
  by_cases hpos : framerate > 0
  · rw [if_pos hpos]
    exact ⟨_, rfl, by rw [setFps_features]; exact hfeatures, track_kept m _ (.setFps framerate) hstart⟩
  · rw [if_neg hpos]
    exact ⟨_, rfl, hfeatures, hstart⟩

/-- A target is at most the limit, and the predictor stays tracked. -/
theorem getTargetSize_spec [IsStrictOrderedRing K]
    {M : Nat} (m : CMath K) {fed : Bool} {p : Predictor K} {np : NetPred K}
    (h : Tracked M (fed, p) np) :
    (∃ np', Tracked M (fed, (getTargetSize m p).1) np') ∧ (getTargetSize m p).2.toNat ≤ M := by
  have hrun : p.networkPredictor = some np := h.running
  have heq : getTargetSize m p = ((p.predictEncSettingsImpl m np ⟨0, 0, false⟩).1,
      (p.predictEncSettingsImpl m np ⟨0, 0, false⟩).2.settings.frameSizeInBytes) := by
    rw [getTargetSize, predictEncSettings_running m p np _ hrun]
  rw [heq]
  refine ⟨⟨_, predict_kept m h _⟩, ?_⟩
  cases hd : (p.predictEncSettingsImpl m np ⟨0, 0, false⟩).2.dropped with
  | false => exact predict_le m h _ hd
  | true =>
    rw [predictEncSettingsImpl_dropped m p np _ hd]
    exact Nat.zero_le M

/-! ## The ceiling -/

/-- What holds while every frame rate is affordable. -/
structure Inv (maxrate : Int32) (limit : Nat) (s : CTransCoder K) : Prop where
  tracked : ∃ p fed np, s.tcae = some p ∧ Tracked limit (fed, p) np
  rate_pos : 0 < s.frameRate
  affordable : 8 * (limit : K) * s.frameRate ≤ (maxrate.toInt : K)
  ceiling : Ceiling maxrate s

/-- A target within the limit is a bitrate within `maxrate`. -/
theorem bitrate_le [IsStrictOrderedRing K] {maxrate : Int32} {limit : Nat} {r : K} (hpos : 0 < r)
    (haff : 8 * (limit : K) * r ≤ (maxrate.toInt : K)) {v : UInt32} (hv : v.toNat ≤ limit) :
    r * (v.toNat : K) * 8 ≤ (maxrate.toInt : K) ∧ -2147483648 ≤ r * (v.toNat : K) * 8 ∧
      r * (v.toNat : K) * 8 < 2147483648 := by
  have hcast : (v.toNat : K) ≤ (limit : K) := by exact_mod_cast hv
  have hle : r * (v.toNat : K) * 8 ≤ (maxrate.toInt : K) := by
    calc r * (v.toNat : K) * 8 ≤ r * (limit : K) * 8 := by gcongr
      _ = 8 * (limit : K) * r := by ring
      _ ≤ (maxrate.toInt : K) := haff
  have hnonneg : 0 ≤ r * (v.toNat : K) * 8 := by positivity
  have hint : (maxrate.toInt : K) < 2147483648 := by
    have := maxrate.toInt_lt
    exact_mod_cast this
  exact ⟨hle, by linarith, hle.trans_lt hint⟩

theorem Inv.frame [IsStrictOrderedRing K]
    {maxrate : Int32} {limit : Nat} {s : CTransCoder K} (h : Inv maxrate limit s) (m : CMath K) :
    Inv maxrate limit (dynamicSetEncParameters m s) := by
  obtain ⟨p, fed, np, htcae, htracked⟩ := h.tracked
  obtain ⟨⟨np', hkept⟩, hle⟩ := getTargetSize_spec m htracked
  simp only [dynamicSetEncParameters, htcae]
  split
  · refine ⟨⟨_, fed, np', rfl, hkept⟩, h.rate_pos, h.affordable, ?_⟩
    intro b hb
    rcases List.mem_cons.mp hb with rfl | hold
    · exact bitrate_le h.rate_pos h.affordable hle
    · exact h.ceiling b hold
  · exact ⟨⟨_, fed, np', rfl, hkept⟩, h.rate_pos, h.affordable, h.ceiling⟩

/-- A call of the predictor leaves the rest. -/
theorem Inv.input [IsStrictOrderedRing K]
    {maxrate : Int32} {limit : Nat} {s : CTransCoder K} (h : Inv maxrate limit s) (m : CMath K)
    (i : Input K) : Inv maxrate limit { s with tcae := s.tcae.map fun p => p.input m i } := by
  obtain ⟨p, fed, np, htcae, htracked⟩ := h.tracked
  obtain ⟨np', hkept⟩ := track_kept m (fed, p) i ⟨np, htracked⟩
  exact ⟨⟨_, _, np', by rw [htcae]; rfl, hkept⟩, h.rate_pos, h.affordable, h.ceiling⟩

theorem Inv.step [IsStrictOrderedRing K]
    {maxrate : Int32} {limit : Nat} {s : CTransCoder K} (h : Inv maxrate limit s) (m : CMath K)
    (op : Op K) (hop : Affordable maxrate limit s op) : Inv maxrate limit (step m s op) := by
  cases op with
  | frame => exact h.frame m
  | encoded size => exact h.input m (.bitstreamSent (some ⟨0, size, 0⟩))
  | clientFeedback delay size => exact h.input m (.updateNetworkState (some ⟨delay, size, false⟩))
  | setBitrate bitrate => exact ⟨h.tracked, h.rate_pos, h.affordable, h.ceiling⟩
  | setMaxBitrate maxBitrate => exact ⟨h.tracked, h.rate_pos, h.affordable, h.ceiling⟩
  | setFramerate framerate => exact ⟨h.tracked, framerate.2, hop, h.ceiling⟩

/-- The quotient that `enableTcae` computes, before the conversion to 32 bits. -/
def quotient (maxrate : Int32) (framerate : K) : Int := ⌊((maxrate.toInt / 8 : Int) : K) / framerate⌋

/-- For a positive quotient the limit is its lower 32 bits. -/
theorem maxSize_eq [IsStrictOrderedRing K] {maxrate : Int32} {f : K} (hf : 0 < f) (hM : 1 ≤ quotient maxrate f) :
    maxSize maxrate f = UInt32.ofInt (quotient maxrate f) := by
  have hone : (1 : K) ≤ ((maxrate.toInt / 8 : Int) : K) / f := by
    have := Int.le_floor.1 hM
    rwa [Int.cast_one] at this
  have hpos : 0 < maxrate.toInt / 8 := by
    rw [le_div_iff₀ hf, one_mul] at hone
    exact_mod_cast hf.trans_le hone
  have hnat : (maxrate.toUInt32.toNat : Int) = maxrate.toInt := by
    have hle : 0 ≤ maxrate := Int32.le_iff_toInt_le.mpr (by simp; omega)
    rw [Int32.toNat_toUInt32_of_le hle, Int32.cast_toNatClampNeg maxrate hle]
  have hgt : maxrate.toUInt32 > 0 := UInt32.lt_iff_toNat_lt.mpr (by simp; omega)
  have hdiv : (((maxrate.toUInt32 / 8).toNat : Nat) : K) = ((maxrate.toInt / 8 : Int) : K) := by
    have : ((maxrate.toUInt32 / 8).toNat : Int) = maxrate.toInt / 8 := by
      rw [UInt32.toNat_div, ← hnat]
      rfl
    exact_mod_cast congrArg (Int.cast : Int → K) this
  simp only [maxSize]
  rw [if_pos ⟨hgt, hf⟩, hdiv, truncate, if_pos (zero_le_one.trans hone), quotient]

/-- The limit is at most the quotient. -/
theorem frameLimit_le [IsStrictOrderedRing K] {maxrate : Int32} {f : K} (hf : 0 < f) (hM : 1 ≤ quotient maxrate f) :
    ((frameLimit maxrate f).toNat : Int) ≤ quotient maxrate f := by
  have hsize : ((maxSize maxrate f).toNat : Int) = quotient maxrate f % 2 ^ 32 := by
    rw [maxSize_eq hf hM, UInt32.ofInt, UInt32.toNat_ofNat']
    omega
  unfold frameLimit orDefault
  split
  · rename_i hzero
    rw [hzero] at hsize
    have : ((defaultMaxFrameSizeInBytes.toNat : Nat) : Int) = 50000 := rfl
    have : ((tcaeUseDefaultValue.toNat : Nat) : Int) = 0 := rfl
    omega
  · omega

/-- At the first frame rate the limit is affordable. -/
theorem frameLimit_affordable [IsStrictOrderedRing K]
    {maxrate : Int32} {f : K} (hf : 0 < f) (hM : 1 ≤ quotient maxrate f) :
    8 * ((frameLimit maxrate f).toNat : K) * f ≤ (maxrate.toInt : K) := by
  have hle : (((frameLimit maxrate f).toNat : Int) : K) ≤ (quotient maxrate f : K) := by
    exact_mod_cast frameLimit_le hf hM
  have hquot : (quotient maxrate f : K) * f ≤ ((maxrate.toInt / 8 : Int) : K) := by
    rw [← le_div_iff₀ hf]
    exact Int.floor_le _
  have hdiv : 8 * ((maxrate.toInt / 8 : Int) : K) ≤ (maxrate.toInt : K) := by
    have : 8 * (maxrate.toInt / 8) ≤ maxrate.toInt := by omega
    exact_mod_cast this
  rw [Int.cast_natCast] at hle
  have hmul : ((frameLimit maxrate f).toNat : K) * f ≤ (quotient maxrate f : K) * f := by gcongr
  linarith

/-- **Rate ceiling.** With a limit of at least one byte, in every run of frames, feedback and requests in which each new
frame rate keeps eight times the limit times the rate below `maxrate`, no bitrate that comes from a target exceeds
`maxrate` or the range of an `int`. -/
theorem tcae_rate_ceiling [IsStrictOrderedRing K]
    (m : CMath K) (steady qsvPlugin logsOnlyMode : Bool) (maxrate : Int32) (framerate : K)
    (hf : 0 < framerate) (hM : 1 ≤ quotient maxrate framerate) (ops : List (Op K))
    (hops : Meets (step m) (Affordable maxrate (frameLimit maxrate framerate).toNat)
      (enableTcae steady qsvPlugin logsOnlyMode maxrate framerate) ops) :
    Meets (step m) (fun s op => Ceiling maxrate (step m s op))
      (enableTcae steady qsvPlugin logsOnlyMode maxrate framerate) ops := by
  obtain ⟨p, htcae, -, np, htracked⟩ := enableTcae_tracked m steady qsvPlugin logsOnlyMode maxrate framerate
  refine Meets.imp (I := Inv maxrate (frameLimit maxrate framerate).toNat) (fun s op h hop => h.step m op hop)
    (fun s op h hop => (h.step m op hop).ceiling) ops _ ?_ hops
  refine ⟨⟨p, false, np, htcae, htracked⟩, hf, frameLimit_affordable hf hM, ?_⟩
  intro b hb
  cases hb

/-! ## A frame rate that is too high -/

/-- After feedback a target is at least a tenth of the limit, where frames are not dropped. -/
theorem getTargetSize_ge [IsStrictOrderedRing K]
    {M : Nat} (m : CMath K) (hM : M < 2 ^ 30) {p : Predictor K} {np : NetPred K}
    (h : Tracked M (true, p) np) (hfeatures : p.features &&& tcaeFrameDrop = 0) :
    M / 10 ≤ (getTargetSize m p).2.toNat := by
  have hdrop : (p.drain m np).1.dropsFrame = false := by
    have : (p.drain m np).1.features = p.features := rfl
    simp [dropsFrame, this, hfeatures]
  have hkeep : (p.predictEncSettingsImpl m np ⟨0, 0, false⟩).2.dropped = false := by
    simp only [predictEncSettingsImpl, hdrop]
    split <;> rfl
  rw [getTargetSize, predictEncSettings_running m p np _ h.running]
  exact (predict_bounded m hM h _ hkeep).1

theorem maxrate_eq : (((8000000 : Int32).toInt : Int) : ℝ) = 8000000 := by
  rw [show (8000000 : Int32).toInt = 8000000 from rfl]
  norm_num

theorem quotient_eq : quotient 8000000 (30 : ℝ) = 33333 := by
  have : ((8000000 : Int32).toInt / 8 : Int) = 1000000 := by decide
  rw [quotient, this, Int.floor_eq_iff]
  norm_num

theorem frameLimit_eq : frameLimit 8000000 (30 : ℝ) = 33333 := by
  rw [frameLimit, maxSize_eq (by norm_num) (by rw [quotient_eq]; norm_num), quotient_eq]
  rfl

/-- Feedback, another frame rate and a frame. -/
noncomputable def retimed (r : { r : ℝ // 0 < r }) : List (Op ℝ) := [.clientFeedback 5000 1500, .setFramerate r, .frame]

/-- Under 8 Mbit/s and at 30 frames each second, changed to 25. -/
theorem tcae_rate_ceiling_slower :
    Meets (step realMath) (fun s op => Ceiling 8000000 (step realMath s op))
      (enableTcae true true false 8000000 (30 : ℝ)) (retimed ⟨25, by norm_num⟩) := by
  refine tcae_rate_ceiling realMath true true false 8000000 30 (by norm_num) (by rw [quotient_eq]; norm_num) _ ?_
  rw [frameLimit_eq]
  refine ⟨trivial, ?_, trivial, trivial⟩
  have hlimit : ((33333 : UInt32).toNat : ℝ) = 33333 := by
    rw [show (33333 : UInt32).toNat = 33333 from rfl]
    norm_num
  simp only [Affordable, hlimit, maxrate_eq]
  norm_num

/-- With 600 frames each second, a tenth of the limit is a bitrate of 16 Mbit/s. -/
theorem faster_rate_exceeds :
    ¬ Meets (step realMath) (fun s op => Ceiling 8000000 (step realMath s op))
      (enableTcae true true false 8000000 (30 : ℝ)) (retimed ⟨600, by norm_num⟩) := by
  rintro ⟨-, -, hceiling, -⟩
  obtain ⟨p, htcae, hfeatures, np, htracked⟩ := enableTcae_tracked realMath true true false 8000000 (30 : ℝ)
  rw [frameLimit_eq] at htracked
  -- the feedback is valid, so the next target is not 0
  obtain ⟨np', hfed⟩ := track_kept realMath (false, p) (.updateNetworkState (some ⟨5000, 1500, false⟩)) ⟨np, htracked⟩
  have hge : 3333 ≤ (getTargetSize realMath (updateClientFeedback p 5000 1500)).2.toNat :=
    getTargetSize_ge realMath (by decide) hfed ((updateNetworkState_features p _).symm ▸ hfeatures)
  generalize hv : (getTargetSize realMath (updateClientFeedback p 5000 1500)).2 = v at hge
  have hpos : v > 0 := UInt32.lt_iff_toNat_lt.mpr (Nat.lt_of_lt_of_le (by decide) hge)
  have hmem : (600 * (v.toNat : ℝ) * 8) ∈ (step realMath (step realMath (step realMath
      (enableTcae true true false 8000000 (30 : ℝ)) (.clientFeedback 5000 1500)) (.setFramerate ⟨600, by norm_num⟩))
      .frame).installed := by
    simp only [step, htcae, Option.map_some, dynamicSetEncParameters, hv]
    rw [if_pos ⟨hpos, rfl, rfl⟩]
    exact List.mem_cons_self
  have hle := (hceiling _ hmem).1
  have hcast : (3333 : ℝ) ≤ (v.toNat : ℝ) := by exact_mod_cast hge
  rw [maxrate_eq] at hle
  linarith

end CloudStreaming.Tcae.RateCeiling
