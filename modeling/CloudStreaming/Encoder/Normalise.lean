import CloudStreaming.Encoder.RateControl

/-!
# Normalised options (`encoder/shared/encoder.cpp:134-487`)

`irr_check_options` is a chain of steps, each of which replaces a field that is out of range. What it accepts is
`Normal` and a fixed point: no step undoes what one before it has established. The steps that read a field another
one writes are the profile and the level (the url), the rolling refresh (the slices, on which a later step keeps
the sign) and the frame size (the rates and the frame rate).

That the frame size is "not less than average frame size", as its log says (`:194`), takes more: the rates and the
average go through an `int`, and a rate of 2147483648 bits is a negative one there (`over_int_frame_size`).

| here | there |
| --- | --- |
| `indefinite`   | what an x86 processor makes of a `double` that does not fit into an `int` |
| `wholeBits`    | not in the source: `convert_bitrate` with integers of any size |
| `averageBytes` | not in the source: `average_frame_size` with integers of any size |
-/

namespace CloudStreaming.Encoder.Options

open Service

/-! ## Steps -/

section
variable {p : Platform} {info info' : EncoderInfo} {rc : RateControlInfo} {url : Str}

theorem orDefault_of_mem {valid : List Str} {s : Str} (hs : s ∈ valid) (default : Str) :
    orDefault valid default (some s) = s := by
  simp [orDefault, hs]

theorem nameIn_default (p : Platform) (hurl : url ∈ validUrl) :
    nameIn (encodeProfiles p (urlEncodeType url)) "default".toList = true ∧
      nameIn (encodeLevels (urlEncodeType url)) "default".toList = true := by
  simp only [validUrl, List.mem_cons, List.not_mem_nil, or_false] at hurl
  rcases hurl with rfl | rfl | rfl | rfl | rfl | rfl <;> exact ⟨rfl, by decide⟩

/-- A name outside the table becomes one of the table. -/
theorem nameIn_of_map {names : List String} (hdef : nameIn names "default".toList = true) {v : Option Str} {name : Str}
    (h : (v.map fun name => if nameIn names name then name else "default".toList) = some name) :
    nameIn names name = true := by
  obtain ⟨name', -, rfl⟩ := Option.map_eq_some_iff.mp h
  split
  · assumption
  · exact hdef

theorem map_of_nameIn {names : List String} {v : Option Str} (h : ∀ name, v = some name → nameIn names name = true) :
    (v.map fun name => if nameIn names name then name else "default".toList) = v := by
  cases v with
  | none => rfl
  | some name => exact congrArg some (if_pos (h name rfl))

/-- What is left of the frame size is kept. -/
theorem checkMaxFrameSize_again (framerate : Str) (size : Int) :
    checkMaxFrameSize p framerate rc (checkMaxFrameSize p framerate rc size) = checkMaxFrameSize p framerate rc size := by
  unfold checkMaxFrameSize
  grind

theorem checkMaxFrameSize_nonneg (framerate : Str) (size : Int) :
    (rc.bitrate = none → checkMaxFrameSize p framerate rc size = 0) ∧ 0 ≤ checkMaxFrameSize p framerate rc size := by
  unfold checkMaxFrameSize
  grind

end

/-! ## Normal options -/

/-- The options the mode has no use for are not there. -/
def Unneeded (o : RateCtrlOptions) (rc : RateControlInfo) : Prop :=
  (o.needQp = false → rc.qp = none) ∧ (o.needQfactor = false → rc.qfactor = none) ∧
    (o.needBitrate = false → rc.bitrate = none ∧ rc.bufsize = none) ∧ (o.needMaxbitrate = false → rc.maxrate = none)

structure Normal (p : Platform) (info : EncoderInfo) : Prop where
  url : ∃ url ∈ validUrl, info.url = some url
  plugin : ∃ plugin ∈ validPlugin, info.plugin = some plugin
  framerate : ∃ framerate, info.framerate = some framerate ∧ 0 < atoi framerate
  rateControl : ∃ mode e, info.rateContrlParam.ratectrl = some mode ∧
    (irrRateCtrlTypeMap p).find? (fun e => sameNocase mode e.1) = some e ∧ Unneeded e.2 info.rateContrlParam
  qLimits : ∀ q ∈ [info.rateContrlParam.qminI, info.rateContrlParam.qmaxI, info.rateContrlParam.qminP,
    info.rateContrlParam.qmaxP], 0 ≤ q ∧ q ≤ 51
  profile : ∀ name, info.profile = some name →
    nameIn (encodeProfiles p (urlEncodeType (info.url.getD []))) name = true
  level : ∀ name, info.level = some name → nameIn (encodeLevels (urlEncodeType (info.url.getD []))) name = true
  roiInfo : info.roiInfo.roiEnabled = true → irrCheckRoiOptions info = true
  maxFrameSize : (info.rateContrlParam.bitrate = none → info.maxFrameSize = 0) ∧ 0 ≤ info.maxFrameSize
  gopSize : 0 < info.gopSize
  slices : 0 ≤ info.slices
  quality : 1 ≤ info.quality ∧ info.quality ≤ 7
  minfpsEnc : info.renderfpsEnc ≠ 0 → 0 < info.minfpsEnc
  lowDelayBrc : info.lowDelayBrc = true → ∃ mode, info.rateContrlParam.ratectrl = some mode ∧
    (sameNocase mode "VBR" = true ∨ sameNocase mode "QVBR" = true)

section
variable {p : Platform} {info info' : EncoderInfo} {rc rc' : RateControlInfo} {url : Str}

/-- On normal options no step does anything. -/
theorem applyDefaults_of_normal (h : Normal p info) (hurl : info.url = some url)
    (hsize : checkMaxFrameSize p (info.framerate.getD []) info.rateContrlParam info.maxFrameSize = info.maxFrameSize) :
    applyDefaults p info url info.rateContrlParam = info := by
  obtain ⟨plugin, hvalid, hplugin⟩ := h.plugin
  obtain ⟨framerate, hframerate, hpos⟩ := h.framerate
  have hprofile := h.profile
  have hlevel := h.level
  simp only [hurl, hframerate, Option.getD_some] at hprofile hlevel hsize
  have hrate : (if isPositive info.framerate = true then info.framerate.getD [] else "30".toList) = framerate := by
    simp [isPositive, hframerate, hpos]
  have hgop : (if info.gopSize ≤ 0 then 120 else info.gopSize) = info.gopSize := if_neg (by have := h.gopSize; omega)
  have hslices : (if info.slices < 0 then 0 else info.slices) = info.slices := if_neg (by have := h.slices; omega)
  have hquality : (if info.quality ≤ 0 || info.quality > 7 then 4 else info.quality) = info.quality :=
    if_neg (by have := h.quality; simp; omega)
  have hminfps : (if info.renderfpsEnc ≠ 0 && info.minfpsEnc ≤ 0 then 3 else info.minfpsEnc) = info.minfpsEnc :=
    if_neg (by have := h.minfpsEnc; simp; omega)
  have hroi : (info.roiInfo.roiEnabled && irrCheckRoiOptions info) = info.roiInfo.roiEnabled := by
    cases hen : info.roiInfo.roiEnabled with
    | false => rfl
    | true => exact h.roiInfo hen
  have hbrc : (info.lowDelayBrc && (sameNocase (info.rateContrlParam.ratectrl.getD []) "VBR" ||
      sameNocase (info.rateContrlParam.ratectrl.getD []) "QVBR")) = info.lowDelayBrc := by
    cases hlow : info.lowDelayBrc with
    | false => rfl
    | true =>
      obtain ⟨mode, hmode, hvbr⟩ := h.lowDelayBrc hlow
      simpa [hmode] using hvbr
  unfold applyDefaults
  simp only [hrate, hplugin, orDefault_of_mem hvalid, map_of_nameIn hprofile, map_of_nameIn hlevel, hroi,
    hsize, hgop, hslices, hquality, hminfps, hbrc]
  rw [← hurl, ← hplugin, ← hframerate]

theorem unneeded_normalise (o : RateCtrlOptions) (rc : RateControlInfo) : Unneeded o (normalise o rc) := by
  refine ⟨?_, ?_, ?_, ?_⟩ <;> intro h <;> simp [normalise, h]

theorem qLimits_normalise (o : RateCtrlOptions) (rc : RateControlInfo) :
    ∀ q ∈ [(normalise o rc).qminI, (normalise o rc).qmaxI, (normalise o rc).qminP, (normalise o rc).qmaxP],
      0 ≤ q ∧ q ≤ 51 := by
  unfold normalise
  cases o.needBitrate with
  | false => simp
  | true =>
    simp only [if_true, List.forall_mem_cons, List.not_mem_nil, false_implies, implies_true, and_true]
    exact ⟨clampMin_mem rc.qminI, clampMax_mem rc.qmaxI, clampMin_mem rc.qminP, clampMax_mem rc.qmaxP⟩

/-- One field after the other. -/
theorem applyDefaults_normal (hurl : url ∈ validUrl) (hrc : irrCheckRateCtrlOptions p rc = some rc') :
    Normal p (applyDefaults p info url rc') := by
  obtain ⟨mode, e, hmode, he, -, -, rfl⟩ := irrCheckRateCtrlOptions_iff.mp hrc
  obtain ⟨hprofile, hlevel⟩ := nameIn_default p hurl
  refine
    { url := ⟨url, hurl, rfl⟩
      plugin := ⟨_, orDefault_mem (by decide) info.plugin, rfl⟩
      framerate := ⟨_, rfl, ?framerate⟩
      rateControl := ⟨mode, e, hmode, he, unneeded_normalise e.2 rc⟩
      qLimits := qLimits_normalise e.2 rc
      profile := fun name h => nameIn_of_map hprofile h
      level := fun name h => nameIn_of_map hlevel h
      roiInfo := fun h => (Bool.and_eq_true_iff.mp h).2
      maxFrameSize := checkMaxFrameSize_nonneg _ info.maxFrameSize
      gopSize := ?gopSize
      slices := ?slices
      quality := ?quality
      minfpsEnc := ?minfpsEnc
      lowDelayBrc := fun h => ⟨mode, hmode, ?lowDelayBrc⟩ }
  case framerate =>
    split
    · next hpos =>
      obtain ⟨framerate, hframerate, hpos⟩ := isPositive_iff.mp hpos
      rw [hframerate]
      exact hpos
    · decide
  case gopSize =>
    simp only [applyDefaults]
    split <;> omega
  case slices =>
    simp only [applyDefaults]
    split <;> omega
  case quality =>
    simp only [applyDefaults, Bool.or_eq_true, decide_eq_true_eq]
    split <;> omega
  case minfpsEnc =>
    intro hrender
    simp only [applyDefaults, Bool.and_eq_true, decide_eq_true_eq] at hrender ⊢
    split <;> omega
  case lowDelayBrc =>
    have hvbr := (Bool.and_eq_true_iff.mp h).2
    rw [show (normalise e.2 rc).ratectrl = some mode from hmode, Option.getD_some, Bool.or_eq_true] at hvbr
    exact hvbr

/-- The rolling refresh looks at its own fields and at the sign of the slices. -/
theorem irrCheckRirOptions_congr (href : info'.refInfo = info.refInfo) (hslices : 0 < info'.slices ↔ 0 < info.slices) :
    irrCheckRirOptions p info' = irrCheckRirOptions p info := by
  have hdecide : decide (0 < info'.slices) = decide (0 < info.slices) := decide_eq_decide.mpr hslices
  unfold irrCheckRirOptions
  rw [href, hdecide]

theorem applyDefaults_slices : 0 < (applyDefaults p info url rc).slices ↔ 0 < info.slices := by
  simp only [applyDefaults]
  split <;> omega

/-- What the call accepts, and what it leaves then. -/
theorem irrCheckOptions_iff : irrCheckOptions p info = (info', 0) ↔
    ∃ rc, irrCheckRateCtrlOptions p info.rateContrlParam = some rc ∧ irrCheckRirOptions p info = true ∧
      applyDefaults p info (orDefault validUrl defaultUrl info.url) rc = info' := by
  unfold irrCheckOptions
  cases irrCheckRateCtrlOptions p info.rateContrlParam with
  | none => simp [einval]
  | some rc =>
    cases irrCheckRirOptions p info with
    | false => simp [einval]
    | true => simp

end

/-- Accepted options are normal, and a fixed point. -/
theorem accepted_normal (p : Platform) (info info' : EncoderInfo) (h : irrCheckOptions p info = (info', 0)) :
    Normal p info' ∧ irrCheckOptions p info' = (info', 0) := by
  obtain ⟨rc, hrc, hrir, rfl⟩ := irrCheckOptions_iff.mp h
  have hurl : orDefault validUrl defaultUrl info.url ∈ validUrl := orDefault_mem (by decide) info.url
  have hnormal : Normal p (applyDefaults p info (orDefault validUrl defaultUrl info.url) rc) :=
    applyDefaults_normal hurl hrc
  refine ⟨hnormal, irrCheckOptions_iff.mpr ⟨rc, irrCheckRateCtrlOptions_again hrc, ?_, ?_⟩⟩
  · have href : (applyDefaults p info (orDefault validUrl defaultUrl info.url) rc).refInfo = info.refInfo := rfl
    rw [irrCheckRirOptions_congr href applyDefaults_slices]
    exact hrir
  · rw [show (applyDefaults p info (orDefault validUrl defaultUrl info.url) rc).url =
      some (orDefault validUrl defaultUrl info.url) from rfl, orDefault_of_mem hurl]
    exact applyDefaults_of_normal hnormal rfl (checkMaxFrameSize_again _ info.maxFrameSize)

/-! ## The average frame size -/

/-- What becomes of a `double` that does not fit an `int`: undefined in C++, the least `int` on x86. -/
def indefinite : Option ℚ → Int := fun _ => -2 ^ 31

section
variable (fl : Rounding ℚ 53)

def wholeBits (b : Option Str) : Int :=
  match b with
  | none => 0
  | some s => ((atof fl s).map fun d => Rounding.trunc (applyUnit fl s d)).getD 0

def frameRate (framerate : Str) : ℚ := (atof fl framerate).getD 0

/-- `bits / framerate / 8`. -/
def averageBytes (framerate : Str) (bits : Int) : Int :=
  Rounding.trunc (fl.round (fl.round (bits / frameRate fl framerate) / 8))

/-- `max(bitrate, maxrate) / framerate / 8`. -/
def averageOf (framerate : Str) (bitrate maxrate : Option Str) : Int :=
  averageBytes fl framerate (max (wholeBits fl bitrate) (wholeBits fl maxrate))

/-- 0, or at least the average. -/
def AtLeastAverage (info : EncoderInfo) : Prop :=
  info.maxFrameSize = 0 ∨
    averageOf fl (info.framerate.getD []) info.rateContrlParam.bitrate info.rateContrlParam.maxrate ≤ info.maxFrameSize

/-- No frame size is asked for, or one that is at least the average, or the average fits into an `int` and so does a
rate that gives it. -/
def FrameSizeFits (framerate : Str) (bitrate maxrate : Option Str) (size : Int) : Prop :=
  size ≤ 0 ∨ averageOf fl framerate bitrate maxrate ≤ size ∨
    0 < frameRate fl framerate ∧ averageOf fl framerate bitrate maxrate < 2 ^ 31 ∧
      ∃ rate ∈ [bitrate, maxrate], wholeBits fl rate < 2 ^ 31 ∧
        averageBytes fl framerate (wholeBits fl rate) = averageOf fl framerate bitrate maxrate

/-- The rates the mode has a use for, and the frame rate asked for or 30. -/
def SizesFit (p : Platform) (info : EncoderInfo) : Prop :=
  ∀ mode e, info.rateContrlParam.ratectrl = some mode →
    (irrRateCtrlTypeMap p).find? (fun e => sameNocase mode e.1) = some e → e.2.needBitrate = true →
    FrameSizeFits fl (if isPositive info.framerate then info.framerate.getD [] else "30".toList)
      info.rateContrlParam.bitrate (if e.2.needMaxbitrate then info.rateContrlParam.maxrate else none) info.maxFrameSize

/-! A `double` that fits into an `int` is converted, another one becomes the least. -/

theorem toInt_indefinite (d : Option ℚ) :
    (∃ q, d = some q ∧ toInt indefinite d = Rounding.trunc q ∧ -2 ^ 31 ≤ Rounding.trunc q ∧ Rounding.trunc q < 2 ^ 31) ∨
      toInt indefinite d = -2 ^ 31 := by
  cases d with
  | none => exact .inr rfl
  | some q =>
    by_cases h : -2 ^ 31 ≤ Rounding.trunc q ∧ Rounding.trunc q < 2 ^ 31
    · exact .inl ⟨q, rfl, if_pos h, h⟩
    · exact .inr (if_neg h)

theorem toInt_of_fits {undefined : Option ℚ → Int} {q : ℚ} (h0 : 0 < Rounding.trunc q)
    (h1 : Rounding.trunc q < 2 ^ 31) : toInt undefined (some q) = Rounding.trunc q :=
  if_pos ⟨by omega, h1⟩

theorem convertBitrate_indefinite (b : Option Str) :
    convertBitrate fl indefinite b = wholeBits fl b ∧ wholeBits fl b < 2 ^ 31 ∨
      convertBitrate fl indefinite b = -2 ^ 31 := by
  cases b with
  | none => exact .inl ⟨rfl, show (0 : Int) < 2 ^ 31 by decide⟩
  | some s =>
    rcases toInt_indefinite ((atof fl s).map (applyUnit fl s)) with ⟨q, hq, heq, -, hlt⟩ | hmin
    · obtain ⟨d, hd, rfl⟩ := Option.map_eq_some_iff.mp hq
      have hbits : wholeBits fl (some s) = Rounding.trunc (applyUnit fl s d) := by simp [wholeBits, hd]
      rw [hbits]
      exact .inl ⟨heq, hlt⟩
    · exact .inr hmin

theorem convertBitrate_of_fits {b : Option Str} (h0 : 0 < wholeBits fl b) (h1 : wholeBits fl b < 2 ^ 31) :
    convertBitrate fl indefinite b = wholeBits fl b := by
  cases b with
  | none => rfl
  | some s =>
    cases hd : atof fl s with
    | none => simp [wholeBits, hd] at h0
    | some d =>
      simp only [wholeBits, hd, Option.map_some, Option.getD_some] at h0 h1 ⊢
      simp only [convertBitrate, hd, Option.map_some, toInt_of_fits h0 h1]

/-! More bits, more bytes. -/

theorem averageBytes_nonpos {framerate : Str} {bits : Int} (hrate : 0 < frameRate fl framerate) (h : bits ≤ 0) :
    averageBytes fl framerate bits ≤ 0 := by
  have hdiv : (bits : ℚ) / frameRate fl framerate ≤ (0 : ℤ) := by
    rw [Int.cast_zero]
    exact div_nonpos_of_nonpos_of_nonneg (by exact_mod_cast h) hrate.le
  have hround := fl.round_le_int (by simp) hdiv
  rw [Int.cast_zero] at hround
  have heighth : fl.round (bits / frameRate fl framerate) / 8 ≤ (0 : ℤ) := by
    rw [Int.cast_zero]
    exact div_nonpos_of_nonpos_of_nonneg hround (by norm_num)
  exact Rounding.trunc_nonpos (by simpa using fl.round_le_int (by simp) heighth)

theorem averageBytes_mono {framerate : Str} {bits bits' : Int} (hrate : 0 < frameRate fl framerate) (h0 : 0 ≤ bits)
    (h : bits ≤ bits') : averageBytes fl framerate bits ≤ averageBytes fl framerate bits' := by
  have hbits : (0 : ℚ) ≤ bits := by exact_mod_cast h0
  have hdiv : (bits : ℚ) / frameRate fl framerate ≤ bits' / frameRate fl framerate := by gcongr
  have hnonneg : 0 ≤ fl.round (bits / frameRate fl framerate) := fl.round_nonneg (div_nonneg hbits hrate.le)
  refine Rounding.trunc_mono (fl.round_nonneg (div_nonneg hnonneg (by norm_num))) (fl.round_mono ?_)
  exact div_le_div_of_nonneg_right (fl.round_mono hdiv) (by norm_num)

theorem bits_pos_of_average {framerate : Str} {bits : Int} (hrate : 0 < frameRate fl framerate)
    (h : 0 < averageBytes fl framerate bits) : 0 < bits := by
  by_contra hle
  have := averageBytes_nonpos fl hrate (not_lt.mp hle)
  omega

/-- The rounding loses no byte of the quotient. -/
theorem floor_le_averageBytes {framerate : Str} {bits : Int} (hrate : 0 < frameRate fl framerate) (h0 : 0 ≤ bits)
    (hsmall : 8 * ⌊(bits : ℚ) / frameRate fl framerate / 8⌋ ≤ 2 ^ 53) :
    ⌊(bits : ℚ) / frameRate fl framerate / 8⌋ ≤ averageBytes fl framerate bits := by
  set n := ⌊(bits : ℚ) / frameRate fl framerate / 8⌋ with hn
  have hbits : (0 : ℚ) ≤ bits := by exact_mod_cast h0
  have hquot : 0 ≤ (bits : ℚ) / frameRate fl framerate / 8 := div_nonneg (div_nonneg hbits hrate.le) (by norm_num)
  have hpos : 0 ≤ n := Int.floor_nonneg.mpr hquot
  have height : ((8 * n : ℤ) : ℚ) ≤ bits / frameRate fl framerate := by
    have hfloor : (n : ℚ) ≤ bits / frameRate fl framerate / 8 := Int.floor_le _
    rw [le_div_iff₀ (by norm_num)] at hfloor
    push_cast
    linarith
  have hround := fl.int_le_round (by rw [abs_of_nonneg (by omega)]; exact hsmall) height
  have hn8 : (n : ℚ) ≤ fl.round (bits / frameRate fl framerate) / 8 := by
    rw [le_div_iff₀ (by norm_num)]
    push_cast at hround
    linarith
  have hfinal := fl.int_le_round (by rw [abs_of_nonneg hpos]; omega) hn8
  have hnonneg : 0 ≤ fl.round (fl.round (bits / frameRate fl framerate) / 8) :=
    le_trans (by exact_mod_cast hpos) hfinal
  rw [averageBytes, Rounding.trunc_of_nonneg hnonneg]
  exact Int.le_floor.mpr hfinal

/-- What the code computes of the rates. -/
theorem platform_average {ffmpegV42 : Bool} {framerate : Str} (hrate : 0 < frameRate fl framerate) (bits : Int) :
    (platform fl indefinite ffmpegV42).averageFrameSize bits framerate =
      if -2 ^ 31 ≤ averageBytes fl framerate bits ∧ averageBytes fl framerate bits < 2 ^ 31 then
        averageBytes fl framerate bits
      else -2 ^ 31 := by
  cases hd : atof fl framerate with
  | none => simp [frameRate, hd] at hrate
  | some d =>
    have hframe : frameRate fl framerate = d := by simp [frameRate, hd]
    simp only [platform, averageBytes, hframe, hd, Option.map_some]
    rfl

/-- **The frame size the code has, against the average**: what it computes can only be too small. -/
theorem average_le_computed_iff {ffmpegV42 : Bool} {framerate : Str} {bitrate maxrate : Option Str} {size : Int}
    (hrate : 0 < frameRate fl framerate) (hsize : 0 < size) :
    averageOf fl framerate bitrate maxrate ≤ max size ((platform fl indefinite ffmpegV42).averageFrameSize
        (max (convertBitrate fl indefinite bitrate) (convertBitrate fl indefinite maxrate)) framerate) ↔
      FrameSizeFits fl framerate bitrate maxrate size := by
  set computed := max (convertBitrate fl indefinite bitrate) (convertBitrate fl indefinite maxrate) with hcomputed
  by_cases hle : averageOf fl framerate bitrate maxrate ≤ size
  · exact iff_of_true (hle.trans (le_max_left ..)) (.inr (.inl hle))
  have havg : 0 < averageOf fl framerate bitrate maxrate := by omega
  have hlarger : 0 < max (wholeBits fl bitrate) (wholeBits fl maxrate) := bits_pos_of_average fl hrate havg
  -- the larger of the numbers computed is at most the larger rate
  have hbound : computed ≤ max (wholeBits fl bitrate) (wholeBits fl maxrate) := by
    rcases convertBitrate_indefinite fl bitrate with ⟨hb, -⟩ | hb <;>
      rcases convertBitrate_indefinite fl maxrate with ⟨hm, -⟩ | hm <;> omega
  have hupper (h0 : 0 ≤ computed) : averageBytes fl framerate computed ≤ averageOf fl framerate bitrate maxrate :=
    averageBytes_mono fl hrate h0 hbound
  rw [le_max_iff, or_iff_right hle, platform_average fl hrate]
  constructor
  · intro h
    split at h
    · next hfits =>
      have hpos : 0 < computed := bits_pos_of_average fl hrate (by omega)
      have heq : averageBytes fl framerate computed = averageOf fl framerate bitrate maxrate :=
        le_antisymm (hupper hpos.le) h
      refine .inr (.inr ⟨hrate, by omega, ?_⟩)
      rcases max_choice (convertBitrate fl indefinite bitrate) (convertBitrate fl indefinite maxrate) with hmax | hmax
      · rcases convertBitrate_indefinite fl bitrate with ⟨hb, hlt⟩ | hb
        · refine ⟨bitrate, by simp, hlt, ?_⟩
          rw [← hb, ← hmax]
          exact heq
        · omega
      · rcases convertBitrate_indefinite fl maxrate with ⟨hm, hlt⟩ | hm
        · refine ⟨maxrate, by simp, hlt, ?_⟩
          rw [← hm, ← hmax]
          exact heq
        · omega
    · omega
  · rintro (h | h | ⟨-, hlt, rate, hrates, hfits, heq⟩)
    · omega
    · exact absurd h hle
    · have hpos : 0 < wholeBits fl rate := bits_pos_of_average fl hrate (by omega)
      have hrateEq := convertBitrate_of_fits fl hpos hfits
      have hle' : wholeBits fl rate ≤ computed := by
        simp only [List.mem_cons, List.not_mem_nil, or_false] at hrates
        rcases hrates with rfl | rfl
        · rw [← hrateEq]
          exact le_max_left ..
        · rw [← hrateEq]
          exact le_max_right ..
      have hlower := averageBytes_mono fl hrate hpos.le hle'
      have := hupper (by omega)
      rw [if_pos ⟨by omega, by omega⟩]
      omega

theorem atofPositive_iff {ffmpegV42 : Bool} {framerate : Str} :
    (platform fl indefinite ffmpegV42).atofPositive framerate = true ↔ 0 < frameRate fl framerate := by
  cases hd : atof fl framerate with
  | none => simp [platform, frameRate, hd]
  | some d => simp [platform, frameRate, hd]

/-- The same for the step on the frame size. -/
theorem checkMaxFrameSize_average_iff (ffmpegV42 : Bool) (framerate : Str) {rc : RateControlInfo} (size : Int)
    (hbitrate : rc.bitrate ≠ none) :
    (checkMaxFrameSize (platform fl indefinite ffmpegV42) framerate rc size = 0 ∨
      averageOf fl framerate rc.bitrate rc.maxrate ≤
        checkMaxFrameSize (platform fl indefinite ffmpegV42) framerate rc size) ↔
      FrameSizeFits fl framerate rc.bitrate rc.maxrate size := by
  have hsome : rc.bitrate.isNone = false := Option.isNone_eq_false_iff.mpr (Option.isSome_iff_ne_none.mpr hbitrate)
  by_cases hsize : size ≤ 0
  · have hzero : checkMaxFrameSize (platform fl indefinite ffmpegV42) framerate rc size = 0 := by
      unfold checkMaxFrameSize
      grind
    exact iff_of_true (.inl hzero) (.inl hsize)
  have hneg : ¬ size < 0 := by omega
  by_cases hrate : 0 < frameRate fl framerate
  · have heq : checkMaxFrameSize (platform fl indefinite ffmpegV42) framerate rc size =
        max size ((platform fl indefinite ffmpegV42).averageFrameSize
          (max (convertBitrate fl indefinite rc.bitrate) (convertBitrate fl indefinite rc.maxrate)) framerate) := by
      simp only [checkMaxFrameSize, hsome, if_neg hneg, Bool.false_eq_true, if_false, not_le.mp hsize, decide_true,
        (atofPositive_iff fl).mpr hrate, Bool.and_self, if_true]
      rfl
    rw [heq, or_iff_right (by omega)]
    exact average_le_computed_iff fl hrate (not_le.mp hsize)
  · have hnot : (platform fl indefinite ffmpegV42).atofPositive framerate = false :=
      Bool.eq_false_iff.mpr (mt (atofPositive_iff fl).mp hrate)
    have heq : checkMaxFrameSize (platform fl indefinite ffmpegV42) framerate rc size = size := by
      simp only [checkMaxFrameSize, hsome, if_neg hneg, hnot, Bool.and_false, Bool.false_eq_true, if_false]
    rw [heq, FrameSizeFits]
    simp only [hrate, false_and, or_false]
    exact or_congr_left ⟨fun h => by omega, fun h => by omega⟩

end

/-- **Accepted options are normal and a fixed point; the frame size is at least the average exactly if it fits.** -/
theorem accepted_normal_iff (fl : Rounding ℚ 53) (ffmpegV42 : Bool) (info info' : EncoderInfo)
    (h : irrCheckOptions (platform fl indefinite ffmpegV42) info = (info', 0)) :
    Normal (platform fl indefinite ffmpegV42) info' ∧ AtLeastAverage fl info' ∧
        irrCheckOptions (platform fl indefinite ffmpegV42) info' = (info', 0) ↔
      SizesFit fl (platform fl indefinite ffmpegV42) info := by
  obtain ⟨hnormal, hagain⟩ := accepted_normal _ info info' h
  rw [and_iff_right hnormal, and_iff_left hagain]
  obtain ⟨rc, hrc, -, rfl⟩ := irrCheckOptions_iff.mp h
  obtain ⟨mode, e, hmode, he, hprov, -, rfl⟩ := irrCheckRateCtrlOptions_iff.mp hrc
  have hfits : SizesFit fl (platform fl indefinite ffmpegV42) info ↔ (e.2.needBitrate = true →
      FrameSizeFits fl (if isPositive info.framerate then info.framerate.getD [] else "30".toList)
        info.rateContrlParam.bitrate (if e.2.needMaxbitrate then info.rateContrlParam.maxrate else none)
        info.maxFrameSize) := by
    constructor
    · exact fun hf => hf mode e hmode he
    · intro hf mode' e' hmode' he'
      obtain rfl : mode = mode' := Option.some.inj (hmode.symm.trans hmode')
      obtain rfl : e = e' := Option.some.inj (he.symm.trans he')
      exact hf
  rw [hfits]
  cases hneed : e.2.needBitrate with
  | false =>
    have hnone : (normalise e.2 info.rateContrlParam).bitrate = none := by simp [normalise, hneed]
    exact iff_of_true (.inl (if_pos (by rw [hnone]; rfl))) (fun h => by cases h)
  | true =>
    obtain ⟨b, hb, -⟩ := isPositive_iff.mp (hprov.bitrate hneed)
    have hrates : (normalise e.2 info.rateContrlParam).bitrate = info.rateContrlParam.bitrate := by
      simp [normalise, hneed]
    rw [forall_prop_of_true rfl]
    have hsome : (normalise e.2 info.rateContrlParam).bitrate ≠ none := by simp [hrates, hb]
    have hiff := checkMaxFrameSize_average_iff fl ffmpegV42
      (if isPositive info.framerate then info.framerate.getD [] else "30".toList) info.maxFrameSize hsome
    refine Iff.trans hiff ?_
    rw [hrates]
    rfl

/-- A variable rate with hardly a field in range. -/
def roughInfo : EncoderInfo :=
  { rateInfo "vbr" "5M" "10M" with
    url := some "rtmp".toList
    plugin := none
    framerate := some "30".toList
    profile := some "ultra".toList
    quality := 9
    maxFrameSize := 1
    gopSize := -1
    slices := -1
    lowDelayBrc := true }

theorem rough_normal_iff :
    (irrCheckOptions (platform .exact indefinite false) roughInfo).2 = 0 ∧
      Normal (platform .exact indefinite false) (irrCheckOptions (platform .exact indefinite false) roughInfo).1 ∧
      AtLeastAverage .exact (irrCheckOptions (platform .exact indefinite false) roughInfo).1 := by
  have hzero : (irrCheckOptions (platform .exact indefinite false) roughInfo).2 = 0 := by decide +kernel
  have hfits : SizesFit .exact (platform .exact indefinite false) roughInfo := by
    intro mode e hmode he _
    obtain rfl : "vbr".toList = mode := Option.some.inj hmode
    obtain rfl : ("VBR", ⟨false, false, true, true⟩) = e := Option.some.inj he
    refine .inr (.inr ⟨by decide +kernel, by decide +kernel, some "10M".toList, ?_⟩)
    exact ⟨by decide, by decide +kernel, by decide +kernel⟩
  obtain ⟨hnormal, haverage, -⟩ := (accepted_normal_iff .exact false roughInfo _ (Prod.ext rfl hzero)).mpr hfits
  exact ⟨hzero, hnormal, haverage⟩

/-- Three gigabits at a constant rate. -/
def overIntInfo : EncoderInfo := { rateInfo "CBR" "3000M" "3000M" with maxFrameSize := 1 }

/-- **Rates over the largest `int`** are accepted, and a frame size of one byte with them: the average is 12500000. -/
theorem over_int_frame_size :
    (irrCheckOptions (platform .exact indefinite false) overIntInfo).2 = 0 ∧
      (irrCheckOptions (platform .exact indefinite false) overIntInfo).1.maxFrameSize = 1 ∧
      averageOf .exact "30".toList (some "3000M".toList) (some "3000M".toList) = 12500000 ∧
      ¬ AtLeastAverage .exact (irrCheckOptions (platform .exact indefinite false) overIntInfo).1 := by
  refine ⟨by decide +kernel, by decide +kernel, by decide +kernel, ?_⟩
  rintro (h | h)
  · exact absurd h (by decide +kernel)
  · exact absurd h (by decide +kernel)

end CloudStreaming.Encoder.Options
