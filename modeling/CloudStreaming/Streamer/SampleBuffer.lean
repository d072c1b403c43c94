import CloudStreaming.Lib.SignedInt
import Mathlib.Tactic.Linarith

/-!
# The size of a sample buffer (`streamer/core/ga-common.cpp:1150-1245`)

`ga_samples_get_buffer_size` computes how many bytes a buffer of audio samples takes. An `int` is a word of 32 bits;
an operation that overflows (undefined in C++) wraps here, and the overflow stays on record, so that the record says
whether the result can be relied on.

The function guards against overflow, but two operations come before their guard. `nb_channels * nb_samples` (`:1236`)
is the product whose size the guard is there to check: for 65536 channels of 65536 samples it wraps to zero, and the
guard passes. `GAALIGN` adds the alignment *before* it takes off one, so of the samples that `nb_samples > int_max - 31`
(`:1230`) lets through the largest overflows. `gaSamplesGetBufferSize_exact_iff` says that nothing else goes wrong.

| here | there |
| --- | --- |
| `CInt`           | `int` |
| `SampleFormat`   | `ga_sample_format`, with `NONE` and `NB`, which have no entry in the table |
| `tooLarge`       | the condition at `:1236`, evaluated from left to right |
| `BufferSize`     | the result and what is stored through `linesize` |
| `exactSize`      | not in the source: the size as a number |
-/

namespace CloudStreaming.Streamer.SampleBuffer

open Checked

abbrev CInt := BitVec 32

inductive SampleFormat where
  | none | u8 | s16 | s32 | flt | dbl | u8p | s16p | s32p | fltp | dblp | nb
deriving DecidableEq

/-- The fields of `SampleFmtInfo` (`:1152`) that are read. -/
structure SampleFmtInfo where
  bits : CInt
  planar : Bool

/-- `sample_fmt_info` (`:1162`). -/
def sampleFmtInfo : SampleFormat → Option SampleFmtInfo
  | .u8 => some ⟨8, false⟩
  | .s16 => some ⟨16, false⟩
  | .s32 => some ⟨32, false⟩
  | .flt => some ⟨32, false⟩
  | .dbl => some ⟨64, false⟩
  | .u8p => some ⟨8, true⟩
  | .s16p => some ⟨16, true⟩
  | .s32p => some ⟨32, true⟩
  | .fltp => some ⟨32, true⟩
  | .dblp => some ⟨64, true⟩
  | .none | .nb => Option.none

/-- `ga_get_bytes_per_sample` (`:1183`). -/
def gaGetBytesPerSample (sampleFmt : SampleFormat) : CInt :=
  match sampleFmtInfo sampleFmt with
  | some info => info.bits.sshiftRight 3
  | Option.none => 0

/-- `ga_sample_fmt_is_planar` (`:1199`). -/
def gaSampleFmtIsPlanar (sampleFmt : SampleFormat) : Bool :=
  match sampleFmtInfo sampleFmt with
  | some info => info.planar
  | Option.none => false

/-- `(((x)+(a)-1) & ~((a)-1))` (`ga-common.h:220`). -/
def gaalign (x a : CInt) : Checked CInt := do
  let sum ← add x a
  let last ← sub sum 1
  let low ← sub a 1
  pure (last &&& ~~~low)

def intMax : CInt := 2147483647

/-- `GA_E_INVALIDARG` (`ga-common.h:218`). -/
def gaEInvalidarg : CInt := -22

structure BufferSize where
  result : CInt
  linesize : Option CInt
deriving DecidableEq

/-- Nothing is stored through `linesize` before an error. -/
def invalid : BufferSize := ⟨gaEInvalidarg, none⟩

/-- The guard (`:1236`). The products are not computed when there are too many channels for the alignment alone. -/
def tooLarge (nbChannels nbSamples sampleSize align : CInt) : Checked Bool :=
  if (intMax.sdiv align).toInt < nbChannels.toInt then pure true
  else do
    let samples ← mul nbChannels nbSamples
    let padding ← mul align nbChannels
    let room ← sub intMax padding
    pure (decide ((room.sdiv sampleSize).toInt < samples.toInt))

/-- Behind the guard (`:1239-1244`). `linesize` says whether the pointer is not null. -/
def paddedBuffer (linesize : Bool) (nbChannels nbSamples sampleSize : CInt) (planar : Bool) (align : CInt) :
    Checked BufferSize := do
  let bytes ← mul nbSamples sampleSize
  if planar then do
    let lineSize ← gaalign bytes align
    let size ← mul lineSize nbChannels
    pure ⟨size, if linesize then some lineSize else none⟩
  else do
    let all ← mul bytes nbChannels
    let lineSize ← gaalign all align
    pure ⟨lineSize, if linesize then some lineSize else none⟩

/-- From the guard on (`:1236-1244`). -/
def alignedSize (linesize : Bool) (nbChannels nbSamples sampleSize : CInt) (planar : Bool) (align : CInt) :
    Checked BufferSize := do
  let large ← tooLarge nbChannels nbSamples sampleSize align
  if large then pure invalid else paddedBuffer linesize nbChannels nbSamples sampleSize planar align

/-- With `align` zero (`:1229-1244`). -/
def defaultAlignedSize (linesize : Bool) (nbChannels nbSamples sampleSize : CInt) (planar : Bool) :
    Checked BufferSize :=
  if (intMax - 31).toInt < nbSamples.toInt then pure invalid
  else do
    let rounded ← gaalign nbSamples 32
    alignedSize linesize nbChannels rounded sampleSize planar 1

/-- `ga_samples_get_buffer_size` (`:1220`). -/
def gaSamplesGetBufferSize (linesize : Bool) (nbChannels nbSamples : CInt) (sampleFmt : SampleFormat) (align : CInt) :
    Checked BufferSize :=
  let sampleSize := gaGetBytesPerSample sampleFmt
  let planar := gaSampleFmtIsPlanar sampleFmt
  if sampleSize = 0 ∨ nbSamples.toInt ≤ 0 ∨ nbChannels.toInt ≤ 0 then pure invalid
  else if align = 0 then defaultAlignedSize linesize nbChannels nbSamples sampleSize planar
  else alignedSize linesize nbChannels nbSamples sampleSize planar align

/-! ## The exact size -/

/-- Line by line for a planar format, in one piece for a packed one. -/
def paddedSize (planar : Bool) (nbChannels bytes align : Int) : Int :=
  if planar then roundUp bytes align * nbChannels else roundUp (bytes * nbChannels) align

def effectiveSamples (nbSamples align : Int) : Int := if align = 0 then roundUp nbSamples 32 else nbSamples

def effectiveAlign (align : Int) : Int := if align = 0 then 1 else align

/-- The size of the buffer, computed without a bound on the numbers. -/
def exactSize (sampleFmt : SampleFormat) (nbChannels nbSamples align : Int) : Int :=
  paddedSize (gaSampleFmtIsPlanar sampleFmt) nbChannels
    (effectiveSamples nbSamples align * (gaGetBytesPerSample sampleFmt).toInt) (effectiveAlign align)

/-- A result that is not an error is the exact size. -/
def IsSize (size : Int) (r : BufferSize) : Prop := 0 ≤ r.result.toInt → r.result.toInt = size

theorem isSize_invalid (size : Int) : IsSize size invalid := by
  intro h
  exact absurd h (by decide)

theorem gaGetBytesPerSample_pos {sampleFmt : SampleFormat} (h : gaGetBytesPerSample sampleFmt ≠ 0) :
    0 < (gaGetBytesPerSample sampleFmt).toInt := by
  cases sampleFmt <;> first | decide | exact absurd rfl h

/-! ## The operations -/

theorem intMax_toInt : intMax.toInt = 2147483647 := by decide

theorem fits_of_le {z : Int} (h0 : 0 ≤ z) (h : z ≤ 2147483647) : Fits 32 z := by
  unfold Fits
  omega

theorem align_pos {a : CInt} {k : Nat} (ha : a.toInt = 2 ^ k) : 0 < a.toInt := by
  rw [ha]
  exact Int.pow_pos (by decide)

/-- Within the range `GAALIGN` is the exact rounding. The addition is the only operation that can overflow. -/
theorem gaalign_meets {x a : CInt} {k : Nat} (ha : a.toInt = 2 ^ k) (hx : 0 ≤ x.toInt)
    (h : x.toInt + a.toInt ≤ 2147483647) : (gaalign x a).Meets (·.toInt = roundUp x.toInt a.toInt) := by
  have hpos := align_pos ha
  have h1 : (1 : CInt).toInt = 1 := by decide
  refine (add_meets (fits_of_le (by omega) h)).bind ?_
  intro sum hsum
  refine (sub_meets (fits_of_le (by omega) (by omega))).bind ?_
  intro last hlast
  refine (sub_meets (fits_of_le (by omega) (by omega))).bind ?_
  intro low hlow
  apply meets_pure
  rw [BitVec.toInt_and_not_low (by omega) (by rw [hlow, h1, ha]), hlast, hsum, h1]
  unfold roundUp
  rw [ha]

theorem gaalign_overflow {x a : CInt} (h : 2147483647 < x.toInt + a.toInt) : (gaalign x a).overflow = true := by
  apply bind_overflow_left
  apply add_overflow
  omega

theorem toInt_sdiv_of_pos {x y : CInt} (hx : 0 ≤ x.toInt) (hy : 0 < y.toInt) : (x.sdiv y).toInt = x.toInt / y.toInt := by
  have hne : x ≠ BitVec.intMin 32 ∨ y ≠ -1#32 := by
    right
    intro h
    rw [h] at hy
    exact absurd hy (by decide)
  rw [BitVec.toInt_sdiv_of_ne_or_ne x y hne, Int.tdiv_eq_ediv_of_nonneg hx]

/-! ## From the guard on -/

/-- The product that the guard compares is an `int`, or it is not computed. -/
def GuardFits (nbChannels nbSamples align : Int) : Prop :=
  2147483647 / align < nbChannels ∨ nbChannels * nbSamples ≤ 2147483647

section
variable {nbChannels nbSamples sampleSize align : CInt}

/-- What passes the guard fits with its padding, as long as the guard's own product fits. -/
theorem tooLarge_meets (hc : 0 < nbChannels.toInt) (hs : 0 < nbSamples.toInt) (hz : 0 < sampleSize.toInt)
    (ha : 0 < align.toInt) (h : GuardFits nbChannels.toInt nbSamples.toInt align.toInt) :
    (tooLarge nbChannels nbSamples sampleSize align).Meets (fun large => large = false →
      nbChannels.toInt * (nbSamples.toInt * sampleSize.toInt + align.toInt) ≤ 2147483647) := by
  have hquot := toInt_sdiv_of_pos (x := intMax) (by decide) ha
  rw [intMax_toInt] at hquot
  unfold tooLarge
  by_cases hmany : (intMax.sdiv align).toInt < nbChannels.toInt
  · rw [if_pos hmany]
    apply meets_pure
    intro hfalse
    cases hfalse
  · rw [if_neg hmany]
    rw [hquot] at hmany
    have hpadding : align.toInt * nbChannels.toInt ≤ 2147483647 := by
      have := (Int.le_ediv_iff_mul_le ha).mp (Int.not_lt.mp hmany)
      linarith [Int.mul_comm align.toInt nbChannels.toInt]
    have hpadding0 : 0 < align.toInt * nbChannels.toInt := Int.mul_pos ha hc
    have hprod : nbChannels.toInt * nbSamples.toInt ≤ 2147483647 := h.resolve_left hmany
    have hprod0 : 0 < nbChannels.toInt * nbSamples.toInt := Int.mul_pos hc hs
    refine (mul_meets (fits_of_le (by omega) hprod)).bind ?_
    intro samples hsamples
    refine (mul_meets (fits_of_le (by omega) hpadding)).bind ?_
    intro padding hpad
    rw [← hpad] at hpadding hpadding0
    refine (sub_meets (fits_of_le (by rw [intMax_toInt]; omega) (by rw [intMax_toInt]; omega))).bind ?_
    intro room hroom
    rw [intMax_toInt] at hroom
    apply meets_pure
    intro hlarge
    have hle := Int.not_lt.mp (of_decide_eq_false hlarge)
    rw [toInt_sdiv_of_pos (by omega) hz, Int.le_ediv_iff_mul_le hz, hroom, hpad, hsamples] at hle
    linarith

theorem tooLarge_overflow (ha : 0 < align.toInt) (h : ¬ GuardFits nbChannels.toInt nbSamples.toInt align.toInt) :
    (tooLarge nbChannels nbSamples sampleSize align).overflow = true := by
  unfold GuardFits at h
  have hquot := toInt_sdiv_of_pos (x := intMax) (by decide) ha
  rw [intMax_toInt] at hquot
  unfold tooLarge
  rw [if_neg (by omega)]
  apply bind_overflow_left
  apply mul_overflow
  omega

/-- Once the guard has passed, no operation overflows: each intermediate result is at most the product with the
padding. -/
theorem paddedBuffer_meets (linesize planar : Bool) {k : Nat} (hk : align.toInt = 2 ^ k)
    (hc : 0 < nbChannels.toInt) (hs : 0 < nbSamples.toInt) (hz : 0 < sampleSize.toInt)
    (hroom : nbChannels.toInt * (nbSamples.toInt * sampleSize.toInt + align.toInt) ≤ 2147483647) :
    (paddedBuffer linesize nbChannels nbSamples sampleSize planar align).Meets
      (IsSize (paddedSize planar nbChannels.toInt (nbSamples.toInt * sampleSize.toInt) align.toInt)) := by
  have ha := align_pos hk
  have hbytes0 : 0 < nbSamples.toInt * sampleSize.toInt := Int.mul_pos hs hz
  have hline : nbSamples.toInt * sampleSize.toInt + align.toInt ≤ 2147483647 := by nlinarith
  refine (mul_meets (fits_of_le (by omega) (by omega))).bind ?_
  intro bytes hbytes
  rw [← hbytes] at hbytes0 hline hroom ⊢
  cases planar with
  | true =>
    refine (gaalign_meets hk (by omega) hline).bind ?_
    intro lineSize hlineSize
    have hle := le_roundUp bytes.toInt ha
    have hlt := roundUp_lt bytes.toInt ha
    rw [← hlineSize] at hle hlt
    have hsize : lineSize.toInt * nbChannels.toInt ≤ 2147483647 := by nlinarith
    have hsize0 : 0 ≤ lineSize.toInt * nbChannels.toInt := Int.mul_nonneg (by omega) (by omega)
    refine (mul_meets (fits_of_le hsize0 hsize)).bind ?_
    intro size hsize
    apply meets_pure
    intro _
    rw [hsize, hlineSize]
    rfl
  | false =>
    have hall : bytes.toInt * nbChannels.toInt + align.toInt ≤ 2147483647 := by nlinarith
    have hall0 : 0 < bytes.toInt * nbChannels.toInt := Int.mul_pos hbytes0 hc
    refine (mul_meets (fits_of_le (by omega) (by omega))).bind ?_
    intro all hallv
    rw [← hallv] at hall hall0
    refine (gaalign_meets hk (by omega) hall).bind ?_
    intro lineSize hlineSize
    apply meets_pure
    intro _
    rw [hlineSize, hallv]
    rfl

/-- The result is exact exactly when the guard itself can be relied on. -/
theorem alignedSize_meets_iff (linesize planar : Bool) {k : Nat} (hk : align.toInt = 2 ^ k)
    (hc : 0 < nbChannels.toInt) (hs : 0 < nbSamples.toInt) (hz : 0 < sampleSize.toInt) :
    (alignedSize linesize nbChannels nbSamples sampleSize planar align).Meets
        (IsSize (paddedSize planar nbChannels.toInt (nbSamples.toInt * sampleSize.toInt) align.toInt)) ↔
      GuardFits nbChannels.toInt nbSamples.toInt align.toInt := by
  have ha := align_pos hk
  constructor
  · intro hmeets
    by_contra hguard
    exact not_meets_of_overflow (bind_overflow_left _ (tooLarge_overflow ha hguard)) hmeets
  · intro hguard
    refine (tooLarge_meets hc hs hz ha hguard).bind ?_
    intro large hlarge
    cases large with
    | true => exact meets_pure (isSize_invalid _)
    | false => exact paddedBuffer_meets linesize planar hk hc hs hz (hlarge rfl)

/-- With the default alignment the samples are rounded first. Of the numbers that pass the check the largest one
overflows there. -/
theorem defaultAlignedSize_meets_iff (linesize planar : Bool) (hc : 0 < nbChannels.toInt) (hs : 0 < nbSamples.toInt)
    (hz : 0 < sampleSize.toInt) :
    (defaultAlignedSize linesize nbChannels nbSamples sampleSize planar).Meets
        (IsSize (paddedSize planar nbChannels.toInt (roundUp nbSamples.toInt 32 * sampleSize.toInt) 1)) ↔
      2147483616 < nbSamples.toInt ∨
        (nbSamples.toInt ≠ 2147483616 ∧ GuardFits nbChannels.toInt (roundUp nbSamples.toInt 32) 1) := by
  have h32 : (32 : CInt).toInt = 2 ^ 5 := by decide
  have hmax : (intMax - 31).toInt = 2147483616 := by decide
  unfold defaultAlignedSize
  rw [hmax]
  by_cases hbig : 2147483616 < nbSamples.toInt
  · rw [if_pos hbig]
    exact iff_of_true (meets_pure (isSize_invalid _)) (Or.inl hbig)
  rw [if_neg hbig]
  by_cases hlast : nbSamples.toInt = 2147483616
  · refine iff_of_false (not_meets_of_overflow (bind_overflow_left _ (gaalign_overflow ?_))) ?_
    · rw [hlast]
      decide
    · rintro (h | h)
      · exact hbig h
      · exact h.1 hlast
  · have hround := gaalign_meets h32 (Int.le_of_lt hs) (by rw [h32]; omega)
    have hval : (gaalign nbSamples 32).val.toInt = roundUp nbSamples.toInt 32 := hround.2
    have hle := le_roundUp nbSamples.toInt (show (0 : Int) < 32 by decide)
    have h1 : (1 : CInt).toInt = 2 ^ 0 := by decide
    have hiff := alignedSize_meets_iff linesize planar h1 hc
      (show 0 < (gaalign nbSamples 32).val.toInt by omega) hz
    rw [hval, h1, Int.pow_zero] at hiff
    rw [bind_meets_iff hround.1, hiff]
    constructor
    · intro h
      exact Or.inr ⟨hlast, h⟩
    · rintro (h | h)
      · exact absurd h hbig
      · exact h.2

end

/-! ## The whole function -/

/-- The arguments for which no operation overflows: those that are refused one by one, and those for which the sum in
`GAALIGN` and the product in the guard, where they are computed, are `int`s. -/
def Computable (sampleFmt : SampleFormat) (nbChannels nbSamples align : Int) : Prop :=
  sampleFmtInfo sampleFmt = none ∨ nbSamples ≤ 0 ∨ nbChannels ≤ 0 ∨ (align = 0 ∧ 2147483616 < nbSamples) ∨
    ((align = 0 → nbSamples ≠ 2147483616) ∧
      GuardFits nbChannels (effectiveSamples nbSamples align) (effectiveAlign align))

theorem gaGetBytesPerSample_eq_zero_iff (sampleFmt : SampleFormat) :
    gaGetBytesPerSample sampleFmt = 0 ↔ sampleFmtInfo sampleFmt = none := by
  cases sampleFmt <;> simp [gaGetBytesPerSample, sampleFmtInfo]

/-- A non-negative result is the exact size and nothing overflows on the way to it, exactly for these arguments. -/
theorem gaSamplesGetBufferSize_exact_iff (linesize : Bool) (nbChannels nbSamples : CInt) (sampleFmt : SampleFormat)
    (align : CInt) (halign : align = 0 ∨ ∃ k : Nat, align.toInt = 2 ^ k) :
    (gaSamplesGetBufferSize linesize nbChannels nbSamples sampleFmt align).Meets
        (IsSize (exactSize sampleFmt nbChannels.toInt nbSamples.toInt align.toInt)) ↔
      Computable sampleFmt nbChannels.toInt nbSamples.toInt align.toInt := by
  unfold gaSamplesGetBufferSize Computable
  simp only [gaGetBytesPerSample_eq_zero_iff]
  by_cases hbad : sampleFmtInfo sampleFmt = none ∨ nbSamples.toInt ≤ 0 ∨ nbChannels.toInt ≤ 0
  · rw [if_pos hbad]
    refine iff_of_true (meets_pure (isSize_invalid _)) ?_
    rcases hbad with h | h | h
    · exact Or.inl h
    · exact Or.inr (Or.inl h)
    · exact Or.inr (Or.inr (Or.inl h))
  rw [if_neg hbad]
  rw [not_or, not_or, Int.not_le, Int.not_le] at hbad
  obtain ⟨hfmt, hs, hc⟩ := hbad
  have hz := gaGetBytesPerSample_pos (mt (gaGetBytesPerSample_eq_zero_iff sampleFmt).mp hfmt)
  have hs' : ¬ nbSamples.toInt ≤ 0 := by omega
  have hc' : ¬ nbChannels.toInt ≤ 0 := by omega
  by_cases h0 : align = 0
  · rw [if_pos h0, h0, show (0 : CInt).toInt = 0 from by decide]
    simpa [exactSize, effectiveSamples, effectiveAlign, hfmt, hs', hc'] using
      defaultAlignedSize_meets_iff linesize (gaSampleFmtIsPlanar sampleFmt) hc hs hz
  · obtain ⟨k, hk⟩ := halign.resolve_left h0
    have hne : align.toInt ≠ 0 := Int.ne_of_gt (align_pos hk)
    rw [if_neg h0]
    simpa [exactSize, effectiveSamples, effectiveAlign, hfmt, hs', hc', hne] using
      alignedSize_meets_iff linesize (gaSampleFmtIsPlanar sampleFmt) hk hc hs hz

/-- Two channels of 1000 samples: 1024 samples of four bytes. -/
theorem gaSamplesGetBufferSize_exact_stereo :
    gaSamplesGetBufferSize true 2 1000 .s16 0 = ⟨⟨4096, some 4096⟩, false⟩ ∧
      (gaSamplesGetBufferSize true 2 1000 .s16 0).Meets (IsSize (exactSize .s16 2 1000 0)) := by
  refine ⟨by decide, (gaSamplesGetBufferSize_exact_iff true 2 1000 .s16 0 (Or.inl rfl)).mpr ?_⟩
  refine Or.inr (Or.inr (Or.inr (Or.inr ⟨?_, Or.inr ?_⟩)))
  · intro _
    decide
  · decide

/-- A buffer of four gigabytes is said to take no space: the guard's product is zero. And the largest number of samples
that the first check lets through overflows in `GAALIGN`. -/
theorem gaSamplesGetBufferSize_wraps :
    gaSamplesGetBufferSize true 65536 65536 .u8 1 = ⟨⟨0, some 0⟩, true⟩ ∧
      exactSize .u8 65536 65536 1 = 4294967296 ∧
      ¬ (gaSamplesGetBufferSize true 65536 65536 .u8 1).Meets (IsSize (exactSize .u8 65536 65536 1)) ∧
      (gaSamplesGetBufferSize true 1 2147483616 .u8 0).overflow = true := by
  have hrun : gaSamplesGetBufferSize true 65536 65536 .u8 1 = ⟨⟨0, some 0⟩, true⟩ := by decide
  refine ⟨hrun, by decide, ?_, by decide⟩
  rw [hrun]
  intro h
  exact absurd (h.2 (by decide)) (by decide)

end CloudStreaming.Streamer.SampleBuffer
