import CloudStreaming.Encoder.RateControl

/-!
# Defaults of the rate control (`encoder/server/cli.cpp:70-92`, `:319-350`)

`bitrate_ctrl_sanity_check` puts the defaults of a mode in place of options that do not pass the check. Its table always
has "AVBR" and "ICQ"; the table of the check has them with `FFMPEG_v42` only, and that is defined nowhere.

| here | there |
| --- | --- |
| `defaultRcConfigs`       | `default_rc_configs`; the two fields left `NULL` and the limits left 0 are not arguments |
| `bitrateCtrlSanityCheck` | `bitrate_ctrl_sanity_check`: the record it leaves and what it returns |
-/

namespace CloudStreaming.Encoder.Options

open Service

def rcConfig (bitrate qfactor qp maxrate : Option String) : RateControlInfo :=
  ⟨bitrate.map String.toList, qfactor.map String.toList, qp.map String.toList, maxrate.map String.toList, none, none,
    0, 0, 0, 0⟩

/-- By the level of the resolution. -/
def rcLevels (low mid high : RateControlInfo) : Fin 3 → RateControlInfo
  | 0 => low
  | 1 => mid
  | 2 => high

/-- `default_rc_configs` (`cli.cpp:72`). -/
def defaultRcConfigs : List (String × (Fin 3 → RateControlInfo)) :=
  [("CQP", rcLevels (rcConfig none none (some "26") none)
      (rcConfig none none (some "26") none)
      (rcConfig none none (some "26") none)),
    ("CBR", rcLevels (rcConfig (some "3.3M") none none (some "3.3M"))
      (rcConfig (some "5M") none none (some "5M"))
      (rcConfig (some "8M") none none (some "8M"))),
    ("VBR", rcLevels (rcConfig (some "3.3M") none none (some "6.6M"))
      (rcConfig (some "5M") none none (some "10M"))
      (rcConfig (some "8M") none none (some "16M"))),
    ("QVBR", rcLevels (rcConfig (some "3.3M") (some "20") none (some "6.6M"))
      (rcConfig (some "5M") (some "20") none (some "10M"))
      (rcConfig (some "8M") (some "20") none (some "16M"))),
    ("AVBR", rcLevels (rcConfig (some "3.3M") none none none)
      (rcConfig (some "5M") none none none)
      (rcConfig (some "8M") none none none)),
    ("ICQ", rcLevels (rcConfig none (some "20") none none)
      (rcConfig none (some "20") none none)
      (rcConfig none (some "20") none none))]

def resolutionWidthMax : Int := 4096

/-- Both sides are held against the width's maximum (`cli.cpp:331`). -/
def validResolution (width height : Int) : Bool :=
  decide (0 < width) && decide (width ≤ resolutionWidthMax) && decide (0 < height) && decide (height ≤ resolutionWidthMax)

def rcLevel (framesize : Int) : Fin 3 :=
  if framesize ≤ 1500000 then 0
  else if framesize < 3000000 then 1
  else 2

/-- `bitrate_ctrl_sanity_check` (`cli.cpp:319`), on a record that is there. -/
def bitrateCtrlSanityCheck (p : Platform) (info : EncoderInfo) : EncoderInfo × Int :=
  match info.rateContrlParam.ratectrl with
  | none => (info, -1)
  | some ratectrl =>
    if info.width = 0 || info.height = 0 then (info, -1)
    else
      let checked := info.irrCheckRateCtrlOptions p
      if checked.2 = 0 then (checked.1, 0)
      else if !validResolution checked.1.width checked.1.height then (checked.1, -1)
      else
        match defaultRcConfigs.find? fun e => sameNocase ratectrl e.1 with
        | some e =>
          let rc := e.2 (rcLevel (checked.1.width * checked.1.height))
          ({ checked.1 with rateContrlParam := { rc with ratectrl := some ratectrl } }, 0)
        | none => (checked.1, -1)

section
variable (fl : Rounding ℚ 53) (undefined : Option ℚ → Int)

/-- A rate in millions that fits into an `int` does so after its roundings. -/
theorem convertBitrate_millions {s : Str} {x : ℚ} {n : Int} (hs : strtod s = some x) (hM : s.getLast? = some 'M')
    (h0 : 0 ≤ x) (hx : x ≤ n) (hn : n * 1000000 < 2 ^ 31) :
    convertBitrate fl undefined (some s) = ⌊fl.round (fl.round x * 1000000)⌋ := by
  have hn0 : (0 : ℚ) ≤ n := h0.trans hx
  have hn0' : 0 ≤ n := by exact_mod_cast hn0
  have hround : fl.round x ≤ n := fl.round_le_int (abs_le.mpr ⟨by omega, by omega⟩) hx
  have hpos : 0 ≤ fl.round (fl.round x * 1000000) := fl.round_nonneg (mul_nonneg (fl.round_nonneg h0) (by norm_num))
  have hprod : fl.round x * 1000000 ≤ ((n * 1000000 : Int) : ℚ) := by
    push_cast
    exact mul_le_mul_of_nonneg_right hround (by norm_num)
  have hle : fl.round (fl.round x * 1000000) ≤ ((n * 1000000 : Int) : ℚ) :=
    fl.round_le_int (abs_le.mpr ⟨by omega, by omega⟩) hprod
  have hfloor : ⌊fl.round (fl.round x * 1000000)⌋ ≤ n * 1000000 := Int.floor_le_iff.mpr (by linarith)
  have hfloor0 : 0 ≤ ⌊fl.round (fl.round x * 1000000)⌋ := Int.floor_nonneg.mpr hpos
  simp only [convertBitrate, atof, hs, Option.map_some, applyUnit, hM, toInt, Rounding.trunc_of_nonneg hpos]
  exact if_pos ⟨by omega, by omega⟩

theorem convertBitrate_mono {s t : Str} {x y : ℚ} {n : Int} (hs : strtod s = some x) (ht : strtod t = some y)
    (hsM : s.getLast? = some 'M') (htM : t.getLast? = some 'M') (h0 : 0 ≤ x) (hxy : x ≤ y) (hy : y ≤ n)
    (hn : n * 1000000 < 2 ^ 31) :
    convertBitrate fl undefined (some s) ≤ convertBitrate fl undefined (some t) := by
  rw [convertBitrate_millions fl undefined hs hsM h0 (hxy.trans hy) hn,
    convertBitrate_millions fl undefined ht htM (h0.trans hxy) hy hn]
  apply Int.floor_le_floor
  apply fl.round_mono
  exact mul_le_mul_of_nonneg_right (fl.round_mono hxy) (by norm_num)

/-- The rates of VBR and QVBR, at every level. -/
theorem default_rates (qfactor : Option String) (l : Fin 3) :
    ∃ b m, (rcLevels (rcConfig (some "3.3M") qfactor none (some "6.6M"))
        (rcConfig (some "5M") qfactor none (some "10M"))
        (rcConfig (some "8M") qfactor none (some "16M")) l).bitrate = some b ∧
      (rcLevels (rcConfig (some "3.3M") qfactor none (some "6.6M"))
        (rcConfig (some "5M") qfactor none (some "10M"))
        (rcConfig (some "8M") qfactor none (some "16M")) l).maxrate = some m ∧
      convertBitrate fl undefined (some b) ≤ convertBitrate fl undefined (some m) ∧ 0 < atoi b ∧ 0 < atoi m := by
  match l with
  | 0 =>
    have hb : strtod "3.3M".toList = some (33 / 10) := by decide +kernel
    have hm : strtod "6.6M".toList = some (66 / 10) := by decide +kernel
    exact ⟨_, _, rfl, rfl, convertBitrate_mono fl undefined (n := 7) hb hm rfl rfl (by norm_num) (by norm_num)
      (by norm_num) (by norm_num), by decide, by decide⟩
  | 1 =>
    have hb : strtod "5M".toList = some 5 := by decide +kernel
    have hm : strtod "10M".toList = some 10 := by decide +kernel
    exact ⟨_, _, rfl, rfl, convertBitrate_mono fl undefined (n := 10) hb hm rfl rfl (by norm_num) (by norm_num)
      (by norm_num) (by norm_num), by decide, by decide⟩
  | 2 =>
    have hb : strtod "8M".toList = some 8 := by decide +kernel
    have hm : strtod "16M".toList = some 16 := by decide +kernel
    exact ⟨_, _, rfl, rfl, convertBitrate_mono fl undefined (n := 16) hb hm rfl rfl (by norm_num) (by norm_num)
      (by norm_num) (by norm_num), by decide, by decide⟩

/-- The rates of CBR. -/
theorem default_constant_rate (l : Fin 3) :
    ∃ b, (rcLevels (rcConfig (some "3.3M") none none (some "3.3M"))
        (rcConfig (some "5M") none none (some "5M"))
        (rcConfig (some "8M") none none (some "8M")) l).bitrate = some b ∧
      (rcLevels (rcConfig (some "3.3M") none none (some "3.3M"))
        (rcConfig (some "5M") none none (some "5M"))
        (rcConfig (some "8M") none none (some "8M")) l).maxrate = some b ∧ 0 < atoi b := by
  match l with
  | 0 => exact ⟨_, rfl, rfl, by decide⟩
  | 1 => exact ⟨_, rfl, rfl, by decide⟩
  | 2 => exact ⟨_, rfl, rfl, by decide⟩

end

/-- The modes that only FFmpeg 4.2 has. -/
def isV42Mode (mode : Str) : Bool := sameNocase mode "ICQ" || sameNocase mode "AVBR"

section
variable (fl : Rounding ℚ 53) (undefined : Option ℚ → Int) (v42 : Bool) {mode : Str}

theorem isV42Mode_congr {word : String} (hword : sameNocase mode word = true) :
    isV42Mode mode = isV42Mode word.toList := by
  unfold isV42Mode
  rw [sameNocase_congr hword, sameNocase_congr hword]

/-- A mode with a row in one of the two tables only, on options that suit it. -/
theorem v42_accepted_iff {word : String} {o : RateCtrlOptions} {rc : RateControlInfo}
    (hmode : rc.ratectrl = some mode) (hword : sameNocase mode word = true) (hv : isV42Mode word.toList = true)
    (hrow : (irrRateCtrlTypeMap (platform fl undefined true)).find? (fun e => sameNocase word.toList e.1) =
      some (word, o))
    (hnone : (irrRateCtrlTypeMap (platform fl undefined false)).find? (fun e => sameNocase word.toList e.1) = none)
    (hprov : Provides o rc) (hagree : ratesAgree (platform fl undefined true) mode (normalise o rc) = true) :
    (irrCheckRateCtrlOptions (platform fl undefined v42) rc).isSome ↔ v42 = true ∨ isV42Mode mode = false := by
  rw [isV42Mode_congr hword, hv]
  cases v42 with
  | true =>
    refine iff_of_true ?_ (.inl rfl)
    exact (isSome_iff_of_word hmode hword hrow).mpr ⟨hprov, hagree⟩
  | false =>
    rw [← find_word hword] at hnone
    simp [irrCheckRateCtrlOptions, hmode, hnone]

/-- The defaults pass the check if its table has the mode. -/
theorem default_accepted_iff {e : String × (Fin 3 → RateControlInfo)}
    (he : defaultRcConfigs.find? (fun e => sameNocase mode e.1) = some e) (l : Fin 3) :
    (irrCheckRateCtrlOptions (platform fl undefined v42) { e.2 l with ratectrl := some mode }).isSome ↔
      v42 = true ∨ isV42Mode mode = false := by
  have hword := List.find?_some he
  have hmem := List.mem_of_find?_eq_some he
  simp only [defaultRcConfigs, List.mem_cons, List.not_mem_nil, or_false] at hmem
  rcases hmem with rfl | rfl | rfl | rfl | rfl | rfl
  · refine iff_of_true ?_ (.inr (isV42Mode_congr hword))
    rw [isSome_iff_of_qp rfl hword rfl]
    exact ⟨"26".toList, by match l with | 0 | 1 | 2 => rfl, by decide, by decide⟩
  · refine iff_of_true ?_ (.inr (isV42Mode_congr hword))
    rw [isSome_iff_of_rates rfl hword rfl]
    obtain ⟨b, hb, hm, hpos⟩ := default_constant_rate l
    exact ⟨b, b, hb, hm, ⟨fun _ => rfl, fun _ => le_refl _⟩, fun h => absurd h (by decide), hpos, hpos⟩
  · refine iff_of_true ?_ (.inr (isV42Mode_congr hword))
    rw [isSome_iff_of_rates rfl hword rfl]
    obtain ⟨b, m, hb, hm, hle, hbpos, hmpos⟩ := default_rates fl undefined none l
    exact ⟨b, m, hb, hm, ⟨fun h => absurd h (by decide), fun _ => hle⟩, fun h => absurd h (by decide), hbpos, hmpos⟩
  · refine iff_of_true ?_ (.inr (isV42Mode_congr hword))
    rw [isSome_iff_of_rates rfl hword rfl]
    obtain ⟨b, m, hb, hm, hle, hbpos, hmpos⟩ := default_rates fl undefined (some "20") l
    exact ⟨b, m, hb, hm, ⟨fun h => absurd h (by decide), fun _ => hle⟩, fun _ => by match l with | 0 | 1 | 2 => rfl,
      hbpos, hmpos⟩
  · refine v42_accepted_iff fl undefined v42 rfl hword rfl rfl rfl ⟨nofun, nofun, fun _ => ?_, nofun⟩ rfl
    match l with | 0 | 1 | 2 => rfl
  · refine v42_accepted_iff fl undefined v42 rfl hword rfl rfl rfl ⟨nofun, fun _ => ?_, nofun, nofun⟩ rfl
    match l with | 0 | 1 | 2 => rfl

/-- The check knows the two modes with FFmpeg 4.2 only. -/
theorem accepted_mode {rc rc' : RateControlInfo} (hmode : rc.ratectrl = some mode)
    (h : irrCheckRateCtrlOptions (platform fl undefined v42) rc = some rc') :
    v42 = true ∨ isV42Mode mode = false := by
  cases v42 with
  | true => exact .inl rfl
  | false =>
    obtain ⟨mode', e, hmode', he, -⟩ := irrCheckRateCtrlOptions_iff.mp h
    obtain rfl : mode = mode' := Option.some.inj (hmode.symm.trans hmode')
    have hword := List.find?_some he
    have hmem := List.mem_of_find?_eq_some he
    simp only [irrRateCtrlTypeMap, platform, Bool.false_eq_true, if_false, List.append_nil, List.mem_cons,
      List.not_mem_nil, or_false] at hmem
    rcases hmem with rfl | rfl | rfl | rfl <;> exact .inr (isV42Mode_congr hword)

theorem EncoderInfo.irrCheckRateCtrlOptions_again {p : Platform} {info : EncoderInfo}
    (h : (info.irrCheckRateCtrlOptions p).2 = 0) :
    ((info.irrCheckRateCtrlOptions p).1.irrCheckRateCtrlOptions p).2 = 0 := by
  rw [EncoderInfo.irrCheckRateCtrlOptions_zero_iff, Option.isSome_iff_exists] at h
  obtain ⟨rc, hrc⟩ := h
  simp [EncoderInfo.irrCheckRateCtrlOptions, hrc, Options.irrCheckRateCtrlOptions_again hrc]

theorem bitrateCtrlSanityCheck_checked {p : Platform} {info : EncoderInfo}
    (hmode : info.rateContrlParam.ratectrl = some mode) (hzero : ¬(info.width = 0 ∨ info.height = 0))
    (hcheck : (info.irrCheckRateCtrlOptions p).2 = 0) :
    bitrateCtrlSanityCheck p info = ((info.irrCheckRateCtrlOptions p).1, 0) := by
  simp [bitrateCtrlSanityCheck, hmode, hzero, hcheck]

theorem bitrateCtrlSanityCheck_default {p : Platform} {info : EncoderInfo} {e : String × (Fin 3 → RateControlInfo)}
    (hmode : info.rateContrlParam.ratectrl = some mode) (hzero : ¬(info.width = 0 ∨ info.height = 0))
    (hcheck : (info.irrCheckRateCtrlOptions p).2 ≠ 0) (hvalid : validResolution info.width info.height = true)
    (hfind : defaultRcConfigs.find? (fun e => sameNocase mode e.1) = some e) :
    bitrateCtrlSanityCheck p info =
      ({ info with
        rateContrlParam := { e.2 (rcLevel (info.width * info.height)) with ratectrl := some mode } }, 0) := by
  simp [bitrateCtrlSanityCheck, hmode, hzero, hcheck, hvalid, hfind,
    EncoderInfo.irrCheckRateCtrlOptions_unchanged hcheck]

/-- **The defaults pass the check that follows exactly for the modes it knows.** Without `FFMPEG_v42`, a mode "ICQ" or
"AVBR" at a resolution that is valid gets defaults and 0, and then fails. -/
theorem defaulting_sound_iff (info : EncoderInfo) :
    ((bitrateCtrlSanityCheck (platform fl undefined v42) info).2 = 0 →
      ((bitrateCtrlSanityCheck (platform fl undefined v42) info).1.irrCheckRateCtrlOptions
        (platform fl undefined v42)).2 = 0) ↔
    v42 = true ∨ (∀ mode, info.rateContrlParam.ratectrl = some mode → isV42Mode mode = false) ∨
      validResolution info.width info.height = false := by
  cases hmode : info.rateContrlParam.ratectrl with
  | none => simp [bitrateCtrlSanityCheck, hmode]
  | some mode =>
    simp only [Option.some.injEq, forall_eq']
    by_cases hzero : info.width = 0 ∨ info.height = 0
    · have hinvalid : validResolution info.width info.height = false := by
        rcases hzero with h | h <;> simp [validResolution, h]
      simp [bitrateCtrlSanityCheck, hmode, hzero, hinvalid]
    by_cases hcheck : (info.irrCheckRateCtrlOptions (platform fl undefined v42)).2 = 0
    · obtain ⟨rc, hrc⟩ := Option.isSome_iff_exists.mp (EncoderInfo.irrCheckRateCtrlOptions_zero_iff.mp hcheck)
      refine iff_of_true (fun _ => ?_) ((accepted_mode fl undefined v42 hmode hrc).imp_right .inl)
      rw [bitrateCtrlSanityCheck_checked hmode hzero hcheck]
      exact EncoderInfo.irrCheckRateCtrlOptions_again hcheck
    cases hvalid : validResolution info.width info.height with
    | false => simp [bitrateCtrlSanityCheck, hmode, hcheck, hvalid, EncoderInfo.irrCheckRateCtrlOptions_unchanged hcheck]
    | true =>
      rw [or_iff_left (b := true = false) (by simp)]
      cases hfind : defaultRcConfigs.find? (fun e => sameNocase mode e.1) with
      | none =>
        have hknown : isV42Mode mode = false := by
          simp only [List.find?_eq_none, defaultRcConfigs, List.forall_mem_cons] at hfind
          simp [isV42Mode, hfind]
        simp [bitrateCtrlSanityCheck, hmode, hzero, hcheck, hfind, hknown]
      | some e =>
        rw [bitrateCtrlSanityCheck_default hmode hzero hcheck hvalid hfind,
          EncoderInfo.irrCheckRateCtrlOptions_zero_iff,
          default_accepted_iff fl undefined v42 hfind (rcLevel (info.width * info.height))]
        simp

end

/-- "ICQ" at 720p gets its defaults, and the check that follows does not know the mode. -/
theorem icq_defaults_refused :
    (bitrateCtrlSanityCheck (platform .exact (fun _ => -2147483648) false)
      { cqpInfo "vaapi" with
        rateContrlParam := ⟨none, none, none, none, some "ICQ".toList, none, 0, 0, 0, 0⟩ }).2 = 0 ∧
    ((bitrateCtrlSanityCheck (platform .exact (fun _ => -2147483648) false)
      { cqpInfo "vaapi" with
        rateContrlParam := ⟨none, none, none, none, some "ICQ".toList, none, 0, 0, 0, 0⟩ }).1.irrCheckRateCtrlOptions
        (platform .exact (fun _ => -2147483648) false)).2 ≠ 0 :=
  ⟨rfl, by decide⟩

end CloudStreaming.Encoder.Options
