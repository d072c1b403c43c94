import CloudStreaming.Lib.Rounding
import CloudStreaming.Encoder.Options
import Mathlib.Data.Rat.Floor
import Mathlib.Tactic.NormNum

/-!
# Rate control (`encoder/shared/encoder.cpp:64-132`, `:297-425`)

`irr_check_rate_ctrl_options` tests with `atoi` whether a rate is positive and compares the rates by
`convert_bitrate`, which reads a fraction and a unit. "0.5M" is no positive number to the first and half a million to
the second; a rate too large for an `int` can be the other way round.

| here | there |
| --- | --- |
| `strtod`, `atof` | `atof`: what is written, and the double next to it (`none`: an infinity or a NaN) |
| `Rounding ℚ 53`  | `double`; a value too large for one is too large for an `int` as well |
| `undefined`      | what the conversion of a `double` that does not fit into an `int` gives |
| `platform`       | the `Platform` of `Encoder/Options.lean` with these |

`FFMPEG_v42` is defined nowhere, so the settings that are valid are those of the four modes without it.
-/

namespace CloudStreaming.Encoder.Options

open Service

/-! ## Numbers -/

def isHexDigit (c : Char) : Bool := c.isDigit || decide ('a' ≤ c.toLower ∧ c.toLower ≤ 'f')

def digitValue (c : Char) : Nat := if c.isDigit then c.toNat - '0'.toNat else c.toLower.toNat - 'a'.toNat + 10

def numeral (base : Nat) (s : Str) : Nat := s.foldl (fun n c => base * n + digitValue c) 0

/-- Digits with a fraction, and what follows them. -/
def mantissa (base : Nat) (isDigit : Char → Bool) (s : Str) : ℚ × Str :=
  let whole := s.takeWhile isDigit
  match s.dropWhile isDigit with
  | '.' :: t =>
    let fraction := t.takeWhile isDigit
    ((numeral base (whole ++ fraction) : ℚ) / base ^ fraction.length, t.dropWhile isDigit)
  | rest => (numeral base whole, rest)

def exponent (mark : Char) (s : Str) : Int :=
  match s with
  | c :: t => if c.toLower = mark then signedDigits t else 0
  | [] => 0

def startsNocase (s : Str) (word : String) : Bool := sameNocase (s.take word.length) word

def magnitude (s : Str) : Option ℚ :=
  if startsNocase s "inf" || startsNocase s "nan" then none
  else if startsNocase s "0x" then
    let m := mantissa 16 isHexDigit (s.drop 2)
    some (m.1 * 2 ^ exponent 'p' m.2)
  else
    let m := mantissa 10 Char.isDigit s
    some (m.1 * 10 ^ exponent 'e' m.2)

def strtod (s : Str) : Option ℚ :=
  match s.dropWhile isspace with
  | '-' :: t => (magnitude t).map Neg.neg
  | '+' :: t => magnitude t
  | t => magnitude t

section
variable (fl : Rounding ℚ 53) (undefined : Option ℚ → Int)

def atof (s : Str) : Option ℚ := (strtod s).map fl.round

/-- The conversion of a `double` to an `int`. -/
def toInt (d : Option ℚ) : Int :=
  match d with
  | none => undefined none
  | some q =>
    let n := Rounding.trunc q
    if -2 ^ 31 ≤ n ∧ n < 2 ^ 31 then n else undefined (some q)

/-- The unit at the end of a rate, applied to its number. -/
def applyUnit (s : Str) (d : ℚ) : ℚ :=
  match s.getLast? with
  | some 'M' => fl.round (d * 1000000)
  | some 'K' => fl.round (d * 1000)
  | _ => d

/-- `convert_bitrate` (`encoder.cpp:116`). An empty string, whose end it reads before its start, has not passed
`atoi`. -/
def convertBitrate (b : Option Str) : Int :=
  match b with
  | none => 0
  | some s => toInt undefined ((atof fl s).map (applyUnit fl s))

def platform (ffmpegV42 : Bool) : Platform where
  ffmpegV42 := ffmpegV42
  convertBitrate := convertBitrate fl undefined
  atofPositive := fun s =>
    match atof fl s with
    | none => false
    | some d => decide (0 < d)
  averageFrameSize := fun b fr => toInt undefined ((atof fl fr).map fun d => fl.round (fl.round (b / d) / 8))

end

/-! ## Tables of modes -/

theorem sameNocase_iff {s : Str} {word : String} :
    sameNocase s word = true ↔ s.map Char.toLower = word.toList.map Char.toLower := by
  simp [sameNocase]

/-- A mode is looked up as the word it stands for. -/
theorem sameNocase_congr {s : Str} {word : String} (h : sameNocase s word = true) (word' : String) :
    sameNocase s word' = sameNocase word.toList word' := by
  unfold sameNocase
  rw [sameNocase_iff.mp h]

/-! ## What `irr_check_rate_ctrl_options` accepts -/

/-- The record it leaves for a mode with these options. -/
def normalise (o : RateCtrlOptions) (rc : RateControlInfo) : RateControlInfo where
  bitrate := if o.needBitrate then rc.bitrate else none
  qfactor := if o.needQfactor then rc.qfactor else none
  qp := if o.needQp then rc.qp else none
  maxrate := if o.needMaxbitrate then rc.maxrate else none
  ratectrl := rc.ratectrl
  bufsize := if o.needBitrate && isPositive rc.bufsize then rc.bufsize else none
  qmaxI := if o.needBitrate then clampMax rc.qmaxI else 0
  qminI := if o.needBitrate then clampMin rc.qminI else 0
  qmaxP := if o.needBitrate then clampMax rc.qmaxP else 0
  qminP := if o.needBitrate then clampMin rc.qminP else 0

/-- What a mode needs is there and positive. -/
structure Provides (o : RateCtrlOptions) (rc : RateControlInfo) : Prop where
  qp : o.needQp = true → isPositive rc.qp = true ∧ atoi (rc.qp.getD []) ≤ qpMaxValue
  qfactor : o.needQfactor = true → isPositive rc.qfactor = true
  bitrate : o.needBitrate = true → isPositive rc.bitrate = true
  maxrate : o.needMaxbitrate = true → isPositive rc.maxrate = true

section
variable {p : Platform} {o : RateCtrlOptions} {rc rc' : RateControlInfo}

theorem checkQp_iff : checkQp o rc = some rc' ↔
    (o.needQp = true → isPositive rc.qp = true ∧ atoi (rc.qp.getD []) ≤ qpMaxValue) ∧
      { rc with qp := if o.needQp then rc.qp else none } = rc' := by
  unfold checkQp
  cases o.needQp with
  | false => simp
  | true => simp [and_assoc]

theorem checkQfactor_iff : checkQfactor o rc = some rc' ↔
    (o.needQfactor = true → isPositive rc.qfactor = true) ∧
      { rc with qfactor := if o.needQfactor then rc.qfactor else none } = rc' := by
  unfold checkQfactor
  cases o.needQfactor with
  | false => simp
  | true => simp

theorem checkMaxrate_iff : checkMaxrate o rc = some rc' ↔
    (o.needMaxbitrate = true → isPositive rc.maxrate = true) ∧
      { rc with maxrate := if o.needMaxbitrate then rc.maxrate else none } = rc' := by
  unfold checkMaxrate
  cases o.needMaxbitrate with
  | false => simp
  | true => simp

theorem checkBitrate_iff : checkBitrate o rc = some rc' ↔
    (o.needBitrate = true → isPositive rc.bitrate = true) ∧
      { rc with
        bitrate := if o.needBitrate then rc.bitrate else none
        bufsize := if o.needBitrate && isPositive rc.bufsize then rc.bufsize else none
        qmaxI := if o.needBitrate then clampMax rc.qmaxI else 0
        qminI := if o.needBitrate then clampMin rc.qminI else 0
        qmaxP := if o.needBitrate then clampMax rc.qmaxP else 0
        qminP := if o.needBitrate then clampMin rc.qminP else 0 } = rc' := by
  unfold checkBitrate
  cases o.needBitrate with
  | false => simp
  | true => simp

/-- **What the check accepts**, and what it leaves then. -/
theorem irrCheckRateCtrlOptions_iff : irrCheckRateCtrlOptions p rc = some rc' ↔
    ∃ mode e, rc.ratectrl = some mode ∧ (irrRateCtrlTypeMap p).find? (fun e => sameNocase mode e.1) = some e ∧
      Provides e.2 rc ∧ ratesAgree p mode (normalise e.2 rc) = true ∧ normalise e.2 rc = rc' := by
  simp only [irrCheckRateCtrlOptions, Option.bind_eq_bind, Option.bind_eq_some_iff, Option.ite_none_right_eq_some,
    Option.some.injEq]
  constructor
  · rintro ⟨mode, hmode, e, he, rc₁, h₁, rc₂, h₂, rc₃, h₃, rc₄, h₄, hagree, hrc⟩
    obtain ⟨hqp, rfl⟩ := checkQp_iff.mp h₁
    obtain ⟨hqfactor, rfl⟩ := checkQfactor_iff.mp h₂
    obtain ⟨hbitrate, rfl⟩ := checkBitrate_iff.mp h₃
    obtain ⟨hmaxrate, rfl⟩ := checkMaxrate_iff.mp h₄
    exact ⟨mode, e, hmode, he, ⟨hqp, hqfactor, hbitrate, hmaxrate⟩, hagree, hrc⟩
  · rintro ⟨mode, e, hmode, he, hprov, hagree, hrc⟩
    exact ⟨mode, hmode, e, he, _, checkQp_iff.mpr ⟨hprov.qp, rfl⟩, _, checkQfactor_iff.mpr ⟨hprov.qfactor, rfl⟩,
      _, checkBitrate_iff.mpr ⟨hprov.bitrate, rfl⟩, _, checkMaxrate_iff.mpr ⟨hprov.maxrate, rfl⟩, hagree, hrc⟩

/-! A second check. -/

theorem clampMax_mem (q : Int) : 0 ≤ clampMax q ∧ clampMax q ≤ qpMaxValue := by
  unfold clampMax qpMaxValue
  grind

theorem clampMin_mem (q : Int) : 0 ≤ clampMin q ∧ clampMin q ≤ qpMaxValue := by
  unfold clampMin qpMaxValue
  grind

@[simp] theorem clampMax_clampMax (q : Int) : clampMax (clampMax q) = clampMax q := by
  unfold clampMax qpMaxValue
  grind

@[simp] theorem clampMin_clampMin (q : Int) : clampMin (clampMin q) = clampMin q := by
  unfold clampMin qpMaxValue
  grind

theorem normalise_normalise (o : RateCtrlOptions) (rc : RateControlInfo) :
    normalise o (normalise o rc) = normalise o rc := by
  unfold normalise
  cases o.needBitrate with
  | false => cases o.needQp <;> cases o.needQfactor <;> cases o.needMaxbitrate <;> simp
  | true =>
    cases hbuf : isPositive rc.bufsize <;> cases o.needQp <;> cases o.needQfactor <;> cases o.needMaxbitrate <;>
      simp [hbuf]

theorem Provides.normalise (h : Provides o rc) : Provides o (normalise o rc) where
  qp := fun hq => by simpa [Options.normalise, hq] using h.qp hq
  qfactor := fun hq => by simpa [Options.normalise, hq] using h.qfactor hq
  bitrate := fun hb => by simpa [Options.normalise, hb] using h.bitrate hb
  maxrate := fun hm => by simpa [Options.normalise, hm] using h.maxrate hm

/-- What it has left, it accepts and leaves again. -/
theorem irrCheckRateCtrlOptions_again (h : irrCheckRateCtrlOptions p rc = some rc') :
    irrCheckRateCtrlOptions p rc' = some rc' := by
  obtain ⟨mode, e, hmode, he, hprov, hagree, rfl⟩ := irrCheckRateCtrlOptions_iff.mp h
  apply irrCheckRateCtrlOptions_iff.mpr
  refine ⟨mode, e, hmode, he, hprov.normalise, ?_, normalise_normalise e.2 rc⟩
  rw [normalise_normalise]
  exact hagree

end

/-! ## Valid settings -/

/-- The rates are in the order the mode asks for, with a quality factor in QVBR. -/
def OrderedFor (p : Platform) (mode : Str) (qfactor : Option Str) (b m : Str) : Prop :=
  sameNocase mode "CBR" = true ∧ p.convertBitrate (some b) = p.convertBitrate (some m) ∨
    sameNocase mode "VBR" = true ∧ p.convertBitrate (some b) ≤ p.convertBitrate (some m) ∨
    sameNocase mode "QVBR" = true ∧ p.convertBitrate (some b) ≤ p.convertBitrate (some m) ∧ isPositive qfactor = true

/-- CQP with a `qp` from 1 to 51, or two rates in the order of the mode of which `Positive` holds. -/
def Settings (p : Platform) (Positive : Str → Str → Prop) (rc : RateControlInfo) : Prop :=
  ∃ mode, rc.ratectrl = some mode ∧
    (sameNocase mode "CQP" = true ∧ (∃ qp, rc.qp = some qp ∧ 1 ≤ atoi qp ∧ atoi qp ≤ 51) ∨
      ∃ b m, rc.bitrate = some b ∧ rc.maxrate = some m ∧ OrderedFor p mode rc.qfactor b m ∧ Positive b m)

/-- Settings with a positive rate. -/
def Valid (p : Platform) (rc : RateControlInfo) : Prop := Settings p (fun b _ => 0 < p.convertBitrate (some b)) rc

section
variable {p : Platform} {rc : RateControlInfo} {mode : Str}

theorem isPositive_iff {v : Option Str} : isPositive v = true ↔ ∃ s, v = some s ∧ 0 < atoi s := by
  cases v <;> simp [isPositive]

theorem find_word {α : Type} {word : String} (h : sameNocase mode word = true) (table : List (String × α)) :
    table.find? (fun e => sameNocase mode e.1) = table.find? (fun e => sameNocase word.toList e.1) := by
  simp only [sameNocase_congr h]

/-- The check on a mode whose row of the table is known. -/
theorem isSome_iff_of_word {word : String} {o : RateCtrlOptions} (hmode : rc.ratectrl = some mode)
    (hword : sameNocase mode word = true)
    (hfind : (irrRateCtrlTypeMap p).find? (fun e => sameNocase word.toList e.1) = some (word, o)) :
    (irrCheckRateCtrlOptions p rc).isSome ↔ Provides o rc ∧ ratesAgree p mode (normalise o rc) = true := by
  rw [← find_word hword] at hfind
  rw [Option.isSome_iff_exists]
  constructor
  · rintro ⟨rc', h⟩
    obtain ⟨mode', e, hmode', he, hprov, hagree, -⟩ := irrCheckRateCtrlOptions_iff.mp h
    obtain rfl : mode = mode' := Option.some.inj (hmode.symm.trans hmode')
    obtain rfl : (word, o) = e := Option.some.inj (hfind.symm.trans he)
    exact ⟨hprov, hagree⟩
  · rintro ⟨hprov, hagree⟩
    exact ⟨_, irrCheckRateCtrlOptions_iff.mpr ⟨mode, (word, o), hmode, hfind, hprov, hagree, rfl⟩⟩

theorem ratesAgree_iff {b m : Str} (hb : rc.bitrate = some b) (hm : rc.maxrate = some m) :
    ratesAgree p mode rc = true ↔
      (sameNocase mode "CBR" = true → p.convertBitrate (some b) = p.convertBitrate (some m)) ∧
      (sameNocase mode "VBR" = true ∨ sameNocase mode "QVBR" = true →
        p.convertBitrate (some b) ≤ p.convertBitrate (some m)) := by
  unfold ratesAgree
  simp only [hb, hm, Option.isSome_some, Bool.and_self, if_true]
  cases sameNocase mode "CBR" with
  | false => simp [imp_iff_not_or]
  | true =>
    by_cases heq : p.convertBitrate (some b) = p.convertBitrate (some m)
    · simp [heq]
    · simp [heq]

/-- A mode with two rates and nothing else but a quality factor. -/
theorem isSome_iff_of_rates {word : String} {needQfactor : Bool} (hmode : rc.ratectrl = some mode)
    (hword : sameNocase mode word = true)
    (hfind : (irrRateCtrlTypeMap p).find? (fun e => sameNocase word.toList e.1) =
      some (word, ⟨false, needQfactor, true, true⟩)) :
    (irrCheckRateCtrlOptions p rc).isSome ↔
      ∃ b m, rc.bitrate = some b ∧ rc.maxrate = some m ∧
        ((sameNocase word.toList "CBR" = true → p.convertBitrate (some b) = p.convertBitrate (some m)) ∧
        (sameNocase word.toList "VBR" = true ∨ sameNocase word.toList "QVBR" = true →
          p.convertBitrate (some b) ≤ p.convertBitrate (some m))) ∧
        (needQfactor = true → isPositive rc.qfactor = true) ∧ 0 < atoi b ∧ 0 < atoi m := by
  rw [isSome_iff_of_word hmode hword hfind]
  simp only [← sameNocase_congr hword]
  constructor
  · rintro ⟨hprov, hagree⟩
    obtain ⟨b, hb, hbpos⟩ := isPositive_iff.mp (hprov.bitrate rfl)
    obtain ⟨m, hm, hmpos⟩ := isPositive_iff.mp (hprov.maxrate rfl)
    exact ⟨b, m, hb, hm, (ratesAgree_iff hb hm).mp hagree, hprov.qfactor, hbpos, hmpos⟩
  · rintro ⟨b, m, hb, hm, hagree, hq, hbpos, hmpos⟩
    refine ⟨⟨nofun, hq, ?_, ?_⟩, (ratesAgree_iff hb hm).mpr hagree⟩
    · exact fun _ => isPositive_iff.mpr ⟨b, hb, hbpos⟩
    · exact fun _ => isPositive_iff.mpr ⟨m, hm, hmpos⟩

/-- A mode with a `qp` and nothing else. -/
theorem isSome_iff_of_qp {word : String} (hmode : rc.ratectrl = some mode) (hword : sameNocase mode word = true)
    (hfind : (irrRateCtrlTypeMap p).find? (fun e => sameNocase word.toList e.1) =
      some (word, ⟨true, false, false, false⟩)) :
    (irrCheckRateCtrlOptions p rc).isSome ↔ ∃ qp, rc.qp = some qp ∧ 1 ≤ atoi qp ∧ atoi qp ≤ 51 := by
  rw [isSome_iff_of_word hmode hword hfind]
  constructor
  · rintro ⟨hprov, -⟩
    obtain ⟨hpos, hle⟩ := hprov.qp rfl
    obtain ⟨qp, hqp, h1⟩ := isPositive_iff.mp hpos
    rw [hqp] at hle
    exact ⟨qp, hqp, h1, hle⟩
  · rintro ⟨qp, hqp, h1, h51⟩
    refine ⟨⟨fun _ => ?_, nofun, nofun, nofun⟩, rfl⟩
    rw [hqp]
    exact ⟨isPositive_iff.mpr ⟨qp, rfl, h1⟩, h51⟩

/-- What the check accepts: a rate is positive if `atoi` says so. -/
theorem accepts_iff (hv : p.ffmpegV42 = false) :
    (irrCheckRateCtrlOptions p rc).isSome ↔ Settings p (fun b m => 0 < atoi b ∧ 0 < atoi m) rc := by
  have hmap : irrRateCtrlTypeMap p = [("CQP", ⟨true, false, false, false⟩), ("CBR", ⟨false, false, true, true⟩),
      ("VBR", ⟨false, false, true, true⟩), ("QVBR", ⟨false, true, true, true⟩)] := by
    simp [irrRateCtrlTypeMap, hv]
  cases hmode : rc.ratectrl with
  | none => simp [Settings, irrCheckRateCtrlOptions, hmode]
  | some mode =>
    simp only [Settings, hmode, Option.some.injEq, exists_eq_left', OrderedFor]
    by_cases hcqp : sameNocase mode "CQP" = true
    · rw [isSome_iff_of_qp hmode hcqp (by rw [hmap]; rfl)]
      simp +decide [sameNocase_congr hcqp]
    by_cases hcbr : sameNocase mode "CBR" = true
    · rw [isSome_iff_of_rates hmode hcbr (by rw [hmap]; rfl)]
      simp +decide [sameNocase_congr hcbr]
    by_cases hvbr : sameNocase mode "VBR" = true
    · rw [isSome_iff_of_rates hmode hvbr (by rw [hmap]; rfl)]
      simp +decide [sameNocase_congr hvbr]
    by_cases hqvbr : sameNocase mode "QVBR" = true
    · rw [isSome_iff_of_rates hmode hqvbr (by rw [hmap]; rfl)]
      simp +decide [sameNocase_congr hqvbr, and_assoc]
    have hfind : (irrRateCtrlTypeMap p).find? (fun e => sameNocase mode e.1) = none := by
      simp [hmap, hcqp, hcbr, hvbr, hqvbr]
    simp [irrCheckRateCtrlOptions, hmode, hfind, hcqp, hcbr, hvbr, hqvbr]

/-- Two readings of the rates accept the same settings if they agree wherever the rates are in order. -/
theorem settings_iff {P Q : Str → Str → Prop} :
    (Settings p P rc ↔ Settings p Q rc) ↔
      ∀ mode b m, rc.ratectrl = some mode → rc.bitrate = some b → rc.maxrate = some m →
        OrderedFor p mode rc.qfactor b m → (P b m ↔ Q b m) := by
  have hcqp {mode b m} (h : OrderedFor p mode rc.qfactor b m) : sameNocase mode "CQP" = false := by
    rcases h with ⟨h, -⟩ | ⟨h, -⟩ | ⟨h, -⟩ <;> rw [sameNocase_congr h] <;> rfl
  constructor
  · intro h mode b m hmode hb hm hord
    simpa [Settings, hmode, hb, hm, hord, hcqp hord] using h
  · intro h
    unfold Settings
    refine exists_congr fun mode => and_congr_right fun hmode => or_congr Iff.rfl ?_
    refine exists_congr fun b => exists_congr fun m => and_congr_right fun hb => and_congr_right fun hm => ?_
    exact and_congr_right fun hord => h mode b m hmode hb hm hord

end

/-- `irr_check_rate_ctrl_options` (`encoder.cpp:297`) on the whole record, which it writes last. -/
def EncoderInfo.irrCheckRateCtrlOptions (p : Platform) (info : EncoderInfo) : EncoderInfo × Int :=
  match Options.irrCheckRateCtrlOptions p info.rateContrlParam with
  | none => (info, einval)
  | some rc => ({ info with rateContrlParam := rc }, 0)

theorem EncoderInfo.irrCheckRateCtrlOptions_zero_iff {p : Platform} {info : EncoderInfo} :
    (info.irrCheckRateCtrlOptions p).2 = 0 ↔ (Options.irrCheckRateCtrlOptions p info.rateContrlParam).isSome := by
  unfold EncoderInfo.irrCheckRateCtrlOptions
  split
  · next h => simp [h, einval]
  · next h => simp [h]

theorem EncoderInfo.irrCheckRateCtrlOptions_unchanged {p : Platform} {info : EncoderInfo}
    (h : (info.irrCheckRateCtrlOptions p).2 ≠ 0) : (info.irrCheckRateCtrlOptions p).1 = info := by
  unfold EncoderInfo.irrCheckRateCtrlOptions at *
  split at h
  · simp
  · exact absurd rfl h

/-- The options of the defaults, with other rates. -/
def rateInfo (mode bitrate maxrate : String) : EncoderInfo :=
  { cqpInfo "vaapi" with
    rateContrlParam := ⟨some bitrate.toList, none, none, some maxrate.toList, some mode.toList, none, 0, 0, 0, 0⟩ }

end CloudStreaming.Encoder.Options
