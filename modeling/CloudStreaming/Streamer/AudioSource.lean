import CloudStreaming.Lib.Memory
import Mathlib.Algebra.Order.Ring.Int

/-!
# The audio source buffer (`streamer/core/asource.cpp:46-198`)

One buffer for each client of the audio source: the capture thread appends whole frames, the client takes
whole frames off the front, and when the tail runs out of space the rest is moved to the front. The
cursors `bufhead`, `buftail` count bytes, `bframes` and `bufPts` count frames (`bufPts` is a `long long`, taken
not to wrap).

| here | there |
| --- | --- |
| `AudioBuffer`      | the members of `audio_buffer_t` (`asource.h:29`) the operations use; `buffer` by offset |
| `int32`            | what a 32-bit `int` keeps of a product |
| `Pass`             | one pass from `retry:` in `audio_source_buffer_fill_one` (`:98-122`) |
| `Stream.accepted`  | not in the source: the bytes of the fills that fitted, since the last purge |
| `Stream.delivered` | not in the source: the bytes the reads returned, since the last purge |

`data` is the memory the caller points to, `none` is `NULL` (silence). A read that finds the buffer empty gives
the lock away while it waits; what it does then is one step.
-/

namespace CloudStreaming.Streamer

open Memory

structure AudioBuffer where
  buffer : Nat → UInt8
  channels : Int
  bitspersample : Int
  bufsize : Int
  bufhead : Int
  buftail : Int
  bframes : Int
  bufPts : Int

/-- The value of a 32-bit `int`. -/
def int32 (x : Int) : Int := (x + 2147483648) % 4294967296 - 2147483648

/-- `frames * channels * bitspersample / 8`. -/
def byteSize (frames channels bitspersample : Int) : Int :=
  (int32 (int32 (frames * channels) * bitspersample)).tdiv 8

namespace AudioBuffer

/-- `audio_source_buffer_init` (`:46`) for the values of `audio_source_setup`; `mem` is what `malloc` returned. -/
def init (mem : Nat → UInt8) (chunksize channels bitspersample : Int) : AudioBuffer where
  buffer := mem
  channels := channels
  bitspersample := bitspersample
  bufsize := byteSize (int32 (chunksize * 4)) channels bitspersample
  bufhead := 0
  buftail := 0
  bframes := 0
  bufPts := 0

/-- `framesize` of a fill (`:96`). -/
def framesize (ab : AudioBuffer) (frames : Int) : Int := byteSize frames ab.channels ab.bitspersample

/-- `headspace + tailspace` (`:99-100`). -/
def space (ab : AudioBuffer) : Int := ab.bufhead + (ab.bufsize - ab.buftail)

/-- The bytes a fill appends: `data`, or silence. -/
def chunk (data : Option (Nat → UInt8)) (framesize : Int) : List UInt8 :=
  match data with
  | none => List.replicate framesize.toNat 0
  | some data => load data 0 framesize.toNat

inductive Pass where
  | returns (ab : AudioBuffer)
  | retries (ab : AudioBuffer)

/-- One pass from `retry:` (`:98-122`). -/
def fillPass (ab : AudioBuffer) (data : Option (Nat → UInt8)) (frames : Int) : Pass :=
  let framesize := ab.framesize frames
  if framesize > ab.space then .returns ab
  else if framesize ≤ ab.bufsize - ab.buftail then
    .returns { ab with
      buffer := store ab.buffer ab.buftail.toNat (chunk data framesize)
      buftail := ab.buftail + framesize
      bframes := ab.bframes + frames }
  else
    .retries { ab with
      buffer := store ab.buffer 0 (load ab.buffer ab.bufhead.toNat (ab.buftail - ab.bufhead).toNat)
      buftail := ab.buftail - ab.bufhead
      bufhead := 0 }

/-- `audio_source_buffer_fill_one` (`:89`), for at most two passes: `none` would be a third. -/
def fillOne (ab : AudioBuffer) (data : Option (Nat → UInt8)) (frames : Int) : Option AudioBuffer :=
  if frames ≤ 0 then some ab
  else
    match ab.fillPass data frames with
    | .returns ab => some ab
    | .retries ab =>
      match ab.fillPass data frames with
      | .returns ab => some ab
      | .retries _ => none

/-- `audio_source_buffer_read` (`:151`), after the wait: `copyframe` and the bytes copied. -/
def read (ab : AudioBuffer) (frames : Int) : AudioBuffer × Int × List UInt8 :=
  if frames ≤ 0 then (ab, 0, [])
  else
    let copyframe := if ab.bframes ≥ frames then frames else ab.bframes
    if copyframe > 0 then
      let copysize := ab.framesize copyframe
      let bytes := load ab.buffer ab.bufhead.toNat copysize.toNat
      let ab := { ab with
        bufhead := ab.bufhead + copysize
        bframes := ab.bframes - copyframe
        bufPts := ab.bufPts + copyframe }
      (if ab.bframes = 0 then { ab with bufhead := 0, buftail := 0 } else ab, copyframe, bytes)
    else (ab, copyframe, [])

/-- `audio_source_buffer_purge` (`:191`). -/
def purge (ab : AudioBuffer) : AudioBuffer := { ab with bufPts := 0, bufhead := 0, buftail := 0, bframes := 0 }

end AudioBuffer

/-! ## Runs -/

inductive AudioOp where
  | fill (data : Option (Nat → UInt8)) (frames : Int)
  | read (frames : Int)
  | purge

structure Stream where
  ab : AudioBuffer
  accepted : List UInt8
  delivered : List UInt8
  framesRead : Int

namespace Stream

/-- A fill that did not return is not a step: `ab` stays, and `audio_buffer_stream` says that there is none. -/
def step (s : Stream) : AudioOp → Stream
  | .fill data frames =>
    { s with
      ab := (s.ab.fillOne data frames).getD s.ab
      accepted :=
        if 0 < frames ∧ s.ab.framesize frames ≤ s.ab.space then
          s.accepted ++ AudioBuffer.chunk data (s.ab.framesize frames)
        else s.accepted }
  | .read frames =>
    let r := s.ab.read frames
    { s with ab := r.1, delivered := s.delivered ++ r.2.2, framesRead := s.framesRead + r.2.1 }
  | .purge => ⟨s.ab.purge, [], [], 0⟩

def start (ab : AudioBuffer) : Stream := ⟨ab, [], [], 0⟩

end Stream

/-- The values of an `audio_source_setup` whose sizes fit in an `int`. -/
structure AudioSetup where
  chunksize : Int
  channels : Int
  bitspersample : Int
  chunksize_pos : 0 < chunksize
  channels_pos : 0 < channels
  bits_pos : 0 < bitspersample
  whole : 8 ∣ channels * bitspersample
  fits : chunksize * 4 * channels * bitspersample < 2147483648

namespace AudioSetup

/-- The bytes of one frame. -/
def frameBytes (c : AudioSetup) : Nat := (c.channels * c.bitspersample / 8).toNat

/-- A new buffer, nothing filled and nothing read. -/
def stream (c : AudioSetup) (mem : Nat → UInt8) : Stream :=
  Stream.start (AudioBuffer.init mem c.chunksize c.channels c.bitspersample)

/-- The size of a fill fits in an `int`. -/
def Fits (c : AudioSetup) : AudioOp → Prop
  | .fill _ frames => frames * c.channels * c.bitspersample < 2147483648
  | _ => True

theorem frameBytes_eq (c : AudioSetup) : c.channels * c.bitspersample = 8 * (c.frameBytes : Int) := by
  obtain ⟨u, hu⟩ := c.whole
  have hpos : 0 < c.channels * c.bitspersample := mul_pos c.channels_pos c.bits_pos
  have h8 : c.channels * c.bitspersample / 8 = u := by omega
  rw [frameBytes, h8, Int.toNat_of_nonneg (by omega), hu]

theorem frameBytes_pos (c : AudioSetup) : 0 < c.frameBytes := by
  have h := c.frameBytes_eq
  have hpos : 0 < c.channels * c.bitspersample := mul_pos c.channels_pos c.bits_pos
  omega

/-- The product in `frames * channels * bitspersample / 8`. -/
theorem bits_eq (c : AudioSetup) (frames : Nat) :
    (frames : Int) * c.channels * c.bitspersample = ((8 * (frames * c.frameBytes) : Nat) : Int) := by
  rw [mul_assoc, c.frameBytes_eq]
  push_cast
  exact mul_left_comm _ _ _

theorem chunks_eq (c : AudioSetup) : ((c.chunksize.toNat * 4 : Nat) : Int) = c.chunksize * 4 := by
  have := c.chunksize_pos
  omega

theorem bufsize_fits (c : AudioSetup) : 8 * (c.chunksize.toNat * 4 * c.frameBytes) < 2147483648 := by
  have h := c.bits_eq (c.chunksize.toNat * 4)
  rw [c.chunks_eq] at h
  have hf := c.fits
  omega

theorem fill_fits (c : AudioSetup) {data : Option (Nat → UInt8)} {frames : Nat}
    (h : c.Fits (.fill data (frames : Int))) : 8 * (frames * c.frameBytes) < 2147483648 := by
  have hbits := c.bits_eq frames
  simp only [Fits] at h
  omega

end AudioSetup

theorem int32_of_fits {x : Int} (h0 : 0 ≤ x) (h : x < 2147483648) : int32 x = x := by
  unfold int32
  omega

/-- A size that fits is the number of frames times the bytes of one. -/
theorem byteSize_eq (c : AudioSetup) {frames : Nat} (h : 8 * (frames * c.frameBytes) < 2147483648) :
    byteSize frames c.channels c.bitspersample = ((frames * c.frameBytes : Nat) : Int) := by
  have hbits := c.bits_eq frames
  have h0 : 0 ≤ (frames : Int) * c.channels := mul_nonneg (by omega) c.channels_pos.le
  have hle : (frames : Int) * c.channels ≤ frames * c.channels * c.bitspersample :=
    le_mul_of_one_le_right h0 c.bits_pos
  rw [byteSize, int32_of_fits h0 (by omega), int32_of_fits (by omega) (by omega), hbits, Nat.cast_mul,
    Nat.cast_ofNat, Int.mul_tdiv_cancel_left _ (by decide)]

theorem chunk_length (data : Option (Nat → UInt8)) (m : Nat) : (AudioBuffer.chunk data (m : Int)).length = m := by
  cases data with
  | none => simp [AudioBuffer.chunk]
  | some data => simp [AudioBuffer.chunk]

/-- The cursors of `ab` enclose `n` whole frames from `p` on, and `bytes` is what they hold. -/
structure Frames (c : AudioSetup) (ab : AudioBuffer) (p n : Nat) (bytes : List UInt8) : Prop where
  channels : ab.channels = c.channels
  bitspersample : ab.bitspersample = c.bitspersample
  bufsize : ab.bufsize = ((c.chunksize.toNat * 4 * c.frameBytes : Nat) : Int)
  bufhead : ab.bufhead = p
  buftail : ab.buftail = ((p + n * c.frameBytes : Nat) : Int)
  bframes : ab.bframes = n
  inside : p + n * c.frameBytes ≤ c.chunksize.toNat * 4 * c.frameBytes
  holds : load ab.buffer p (n * c.frameBytes) = bytes

namespace Frames

variable {c : AudioSetup} {ab : AudioBuffer} {p n k : Nat} {bytes : List UInt8}

theorem framesize (h : Frames c ab p n bytes) (hk : 8 * (k * c.frameBytes) < 2147483648) :
    ab.framesize k = ((k * c.frameBytes : Nat) : Int) := by
  rw [AudioBuffer.framesize, h.channels, h.bitspersample, byteSize_eq c hk]

theorem space (h : Frames c ab p n bytes) :
    ab.space = ((c.chunksize.toNat * 4 * c.frameBytes - n * c.frameBytes : Nat) : Int) := by
  have hin := h.inside
  rw [AudioBuffer.space, h.bufhead, h.bufsize, h.buftail]
  omega

/-- Case #1 (`:106-115`): the frames go behind the tail. -/
theorem append (h : Frames c ab p n bytes) (data : Option (Nat → UInt8)) (hk : 8 * (k * c.frameBytes) < 2147483648)
    (htail : p + n * c.frameBytes + k * c.frameBytes ≤ c.chunksize.toNat * 4 * c.frameBytes) :
    ∃ ab', ab.fillPass data k = .returns ab' ∧ ab'.bufPts = ab.bufPts ∧
      Frames c ab' p (n + k) (bytes ++ AudioBuffer.chunk data (k * c.frameBytes : Nat)) := by
  have hin := h.inside
  have hsize := h.framesize hk
  simp only [AudioBuffer.fillPass, hsize, h.space, h.bufsize, h.buftail, Int.toNat_natCast]
  rw [if_neg (by omega), if_pos (by omega)]
  refine ⟨_, rfl, rfl, ?_⟩
  constructor
  case channels => exact h.channels
  case bitspersample => exact h.bitspersample
  case bufsize => rfl
  case bufhead => exact h.bufhead
  case buftail =>
    rw [Nat.add_mul]
    push_cast
    omega
  case bframes =>
    rw [h.bframes]
    push_cast
    rfl
  case inside =>
    rw [Nat.add_mul]
    omega
  case holds =>
    rw [Nat.add_mul, load_add, load_store_disjoint (by omega), h.holds]
    congr 1
    have := load_store_self ab.buffer (p + n * c.frameBytes) (AudioBuffer.chunk data (k * c.frameBytes : Nat))
    rwa [chunk_length] at this

/-- Case #2 (`:116-120`): the frames in the buffer move to its front. -/
theorem compact (h : Frames c ab p n bytes) (data : Option (Nat → UInt8)) (hk : 8 * (k * c.frameBytes) < 2147483648)
    (hfit : n * c.frameBytes + k * c.frameBytes ≤ c.chunksize.toNat * 4 * c.frameBytes)
    (htail : ¬ p + n * c.frameBytes + k * c.frameBytes ≤ c.chunksize.toNat * 4 * c.frameBytes) :
    ∃ ab', ab.fillPass data k = .retries ab' ∧ ab'.bufPts = ab.bufPts ∧ Frames c ab' 0 n bytes := by
  have hin := h.inside
  have hmoved : ((p + n * c.frameBytes : Nat) : Int) - p = (n * c.frameBytes : Nat) := by
    push_cast
    omega
  simp only [AudioBuffer.fillPass, h.framesize hk, h.space, h.bufsize, h.buftail, h.bufhead, hmoved,
    Int.toNat_natCast]
  rw [if_neg (by omega), if_neg (by omega), h.holds]
  have hlen : bytes.length = n * c.frameBytes := by rw [← h.holds, load_length]
  refine ⟨_, rfl, rfl, ?_⟩
  constructor
  case channels => exact h.channels
  case bitspersample => exact h.bitspersample
  case bufsize => rfl
  case bufhead => rfl
  case buftail => simp
  case bframes => exact h.bframes
  case inside => omega
  case holds => rw [← hlen, load_store_self]

/-- A fill returns in at most two passes: with the frames appended if they fit, else unchanged. -/
theorem fillOne (h : Frames c ab p n bytes) (data : Option (Nat → UInt8)) (hpos : 0 < k)
    (hk : 8 * (k * c.frameBytes) < 2147483648) :
    (ab.framesize k > ab.space ∧ ab.fillOne data k = some ab) ∨
      ab.framesize k ≤ ab.space ∧ ∃ ab' p', ab.fillOne data k = some ab' ∧ ab'.bufPts = ab.bufPts ∧
        Frames c ab' p' (n + k) (bytes ++ AudioBuffer.chunk data (ab.framesize k)) := by
  have hin := h.inside
  have hsize := h.framesize hk
  have hspace := h.space
  rw [AudioBuffer.fillOne, if_neg (by omega)]
  by_cases hfit : n * c.frameBytes + k * c.frameBytes ≤ c.chunksize.toNat * 4 * c.frameBytes
  · refine Or.inr ⟨by omega, ?_⟩
    rw [hsize]
    by_cases htail : p + n * c.frameBytes + k * c.frameBytes ≤ c.chunksize.toNat * 4 * c.frameBytes
    · obtain ⟨ab', hpass, hpts, hrep⟩ := h.append data hk htail
      rw [hpass]
      exact ⟨ab', p, rfl, hpts, hrep⟩
    · obtain ⟨ab₁, hpass₁, hpts₁, hrep₁⟩ := h.compact data hk hfit htail
      -- the head is at the front now, so all the space is behind the tail
      obtain ⟨ab₂, hpass₂, hpts₂, hrep₂⟩ := hrep₁.append data hk (by omega)
      rw [hpass₁]
      simp only [hpass₂]
      exact ⟨ab₂, 0, rfl, hpts₂.trans hpts₁, hrep₂⟩
  · have hgt : ab.framesize k > ab.space := by omega
    refine Or.inl ⟨hgt, ?_⟩
    simp only [AudioBuffer.fillPass]
    rw [if_pos hgt]

/-- `:173-179`: the head moves behind `k` of the frames. -/
theorem take (h : Frames c ab p n bytes) (hk : k ≤ n) :
    bytes = load ab.buffer p (k * c.frameBytes) ++ load ab.buffer (p + k * c.frameBytes) ((n - k) * c.frameBytes) ∧
      Frames c { ab with
          bufhead := ab.bufhead + (k * c.frameBytes : Nat)
          bframes := ab.bframes - k
          bufPts := ab.bufPts + k }
        (p + k * c.frameBytes) (n - k) (load ab.buffer (p + k * c.frameBytes) ((n - k) * c.frameBytes)) := by
  have hin := h.inside
  have hsplit : n * c.frameBytes = k * c.frameBytes + (n - k) * c.frameBytes := by
    rw [← Nat.add_mul, Nat.add_sub_cancel' hk]
  refine ⟨?_, ?_⟩
  · rw [← load_add, ← hsplit, h.holds]
  · constructor
    case channels => exact h.channels
    case bitspersample => exact h.bitspersample
    case bufsize => exact h.bufsize
    case bufhead =>
      rw [h.bufhead]
      push_cast
      rfl
    case buftail => rw [Nat.add_assoc, ← hsplit, h.buftail]
    case bframes =>
      show ab.bframes - k = _
      rw [h.bframes]
      omega
    case inside => omega
    case holds => rfl

/-- An empty buffer has both cursors at the front. -/
theorem empty (hc : ab.channels = c.channels) (hb : ab.bitspersample = c.bitspersample)
    (hs : ab.bufsize = ((c.chunksize.toNat * 4 * c.frameBytes : Nat) : Int)) (hhead : ab.bufhead = 0)
    (htail : ab.buftail = 0) (hframes : ab.bframes = 0) : Frames c ab 0 0 [] where
  channels := hc
  bitspersample := hb
  bufsize := hs
  bufhead := hhead
  buftail := by simp [htail]
  bframes := hframes
  inside := by omega
  holds := by simp

/-- A read takes whole frames off the front: as many as are asked for, or all that are there. -/
theorem read_frames (h : Frames c ab p n bytes) (frames : Int) :
    (ab.read frames).2.1 = (min frames.toNat n : Nat) ∧
      (ab.read frames).2.2.length = min frames.toNat n * c.frameBytes ∧
      (ab.read frames).1.bufPts = ab.bufPts + (ab.read frames).2.1 ∧
      ∃ p' rest, Frames c (ab.read frames).1 p' (n - min frames.toNat n) rest ∧
        bytes = (ab.read frames).2.2 ++ rest := by
  unfold AudioBuffer.read
  split
  · next hnone =>
    have hmin : min frames.toNat n = 0 := by omega
    rw [hmin]
    exact ⟨rfl, by simp, by simp, p, bytes, h, rfl⟩
  · next hpos =>
    have hk : (if ab.bframes ≥ frames then frames else ab.bframes) = (min frames.toNat n : Nat) := by
      have := h.bframes
      split <;> omega
    have hkn : min frames.toNat n ≤ n := Nat.min_le_right _ _
    generalize min frames.toNat n = k at hk hkn
    have hfits : 8 * (k * c.frameBytes) < 2147483648 := by
      have h1 := c.bufsize_fits
      have h2 := h.inside
      have h3 := Nat.mul_le_mul_right c.frameBytes hkn
      omega
    simp only [hk, h.framesize hfits, Int.toNat_natCast]
    split
    · obtain ⟨hbytes, hrep⟩ := h.take hkn
      rw [h.bufhead] at hrep ⊢
      rw [Int.toNat_natCast]
      by_cases hall : n - k = 0
      · rw [if_pos (by rw [h.bframes]; omega)]
        rw [hall, Nat.zero_mul, load_zero, List.append_nil] at hbytes
        rw [hall] at hrep ⊢
        exact ⟨rfl, by simp, rfl, 0, [], empty hrep.channels hrep.bitspersample hrep.bufsize rfl rfl hrep.bframes,
          by rw [List.append_nil, hbytes]⟩
      · rw [if_neg (by rw [h.bframes]; omega)]
        exact ⟨rfl, by simp, rfl, _, _, hrep, hbytes⟩
    · next h0 =>
      have hk0 : k = 0 := by omega
      subst hk0
      exact ⟨rfl, by simp, by simp, p, bytes, h, rfl⟩

theorem purge (h : Frames c ab p n bytes) : Frames c ab.purge 0 0 [] :=
  empty h.channels h.bitspersample h.bufsize rfl rfl rfl

theorem init (c : AudioSetup) (mem : Nat → UInt8) :
    Frames c (AudioBuffer.init mem c.chunksize c.channels c.bitspersample) 0 0 [] := by
  refine empty rfl rfl ?_ rfl rfl rfl
  have hc := c.chunks_eq
  have hu := Nat.mul_le_mul_left (c.chunksize.toNat * 4) c.frameBytes_pos
  have hfits := c.bufsize_fits
  rw [← byteSize_eq c c.bufsize_fits, hc, AudioBuffer.init, int32_of_fits (by omega) (by omega)]

end Frames

/-- The buffer holds what was accepted and not delivered yet, and `bufPts` counts the frames delivered. -/
def Kept (c : AudioSetup) (s : Stream) : Prop :=
  ∃ p n bytes, Frames c s.ab p n bytes ∧ s.accepted = s.delivered ++ bytes ∧ s.ab.bufPts = s.framesRead

section
variable {c : AudioSetup} {s : Stream}

theorem Kept.fill (h : Kept c s) {data : Option (Nat → UInt8)} {frames : Int}
    (hfits : c.Fits (.fill data frames)) : Kept c (s.step (.fill data frames)) := by
  obtain ⟨p, n, bytes, hrep, hacc, hpts⟩ := h
  by_cases hpos : 0 < frames
  · obtain ⟨k, rfl⟩ := Int.eq_ofNat_of_zero_le hpos.le
    have hk := c.fill_fits hfits
    rcases hrep.fillOne data (by omega) hk with ⟨hgt, hfill⟩ | ⟨hle, ab', p', hfill, hpts', hrep'⟩
    · refine ⟨p, n, bytes, ?_⟩
      have hno : ¬ (0 < (k : Int) ∧ s.ab.framesize k ≤ s.ab.space) := by omega
      simp only [Stream.step, hfill, Option.getD_some, if_neg hno]
      exact ⟨hrep, hacc, hpts⟩
    · refine ⟨p', n + k, bytes ++ AudioBuffer.chunk data (s.ab.framesize k), ?_⟩
      simp only [Stream.step, hfill, Option.getD_some, if_pos (And.intro hpos hle)]
      refine ⟨hrep', ?_, hpts'.trans hpts⟩
      rw [hacc, List.append_assoc]
  · refine ⟨p, n, bytes, ?_⟩
    simp only [Stream.step, AudioBuffer.fillOne, if_pos (show frames ≤ 0 by omega), Option.getD_some, hpos,
      false_and, if_false]
    exact ⟨hrep, hacc, hpts⟩

theorem Kept.read (h : Kept c s) (frames : Int) : Kept c (s.step (.read frames)) := by
  obtain ⟨p, n, bytes, hrep, hacc, hpts⟩ := h
  obtain ⟨-, -, hpts', p', rest, hrep', hbytes⟩ := hrep.read_frames frames
  refine ⟨p', _, rest, hrep', ?_, ?_⟩
  · show s.accepted = s.delivered ++ (s.ab.read frames).2.2 ++ rest
    rw [hacc, hbytes, List.append_assoc]
  · show (s.ab.read frames).1.bufPts = s.framesRead + (s.ab.read frames).2.1
    rw [hpts', hpts]

theorem Kept.step (h : Kept c s) {o : AudioOp} (hfits : c.Fits o) : Kept c (s.step o) := by
  cases o with
  | fill data frames => exact h.fill hfits
  | read frames => exact h.read frames
  | purge =>
    obtain ⟨p, n, bytes, hrep, -, -⟩ := h
    exact ⟨0, 0, [], hrep.purge, rfl, rfl⟩

theorem Kept.run (c : AudioSetup) (mem : Nat → UInt8) {ops : List AudioOp} (hfits : ∀ o ∈ ops, c.Fits o) :
    Kept c (ops.foldl Stream.step (c.stream mem)) := by
  refine List.foldlRecOn ops Stream.step ?_ ?_
  · exact ⟨0, 0, [], Frames.init c mem, rfl, rfl⟩
  · intro s hs o ho
    exact hs.step (hfits o ho)

end

/-- **The audio buffer loses and reorders nothing.** After every sequence of fills, reads and purges the cursors
are in order and enclose `bframes` whole frames; a fill returns within two passes and, when its bytes exceed the
free ones, changes nothing; what the reads returned since the last purge is the front of what was accepted since
then, and `bufPts` counts its frames. -/
theorem audio_buffer_stream (c : AudioSetup) (mem : Nat → UInt8) (ops : List AudioOp)
    (hfits : ∀ o ∈ ops, c.Fits o) :
    let s := ops.foldl Stream.step (c.stream mem)
    (0 ≤ s.ab.bufhead ∧ s.ab.bufhead ≤ s.ab.buftail ∧ s.ab.buftail ≤ s.ab.bufsize) ∧
      s.ab.buftail - s.ab.bufhead = s.ab.bframes * c.channels * c.bitspersample / 8 ∧
      (∀ data frames, c.Fits (.fill data frames) →
        (s.ab.fillOne data frames).isSome ∧
          (s.ab.bufsize - (s.ab.buftail - s.ab.bufhead) < frames * c.channels * c.bitspersample / 8 →
            s.ab.fillOne data frames = some s.ab)) ∧
      s.delivered <+: s.accepted ∧ s.ab.bufPts = s.framesRead := by
  intro s
  obtain ⟨p, n, bytes, hrep, hacc, hpts⟩ : Kept c s := Kept.run c mem hfits
  have hin := hrep.inside
  have hhead := hrep.bufhead
  have htail := hrep.buftail
  have hsize := hrep.bufsize
  refine ⟨⟨by omega, by omega, by omega⟩, ?_, ?_, ⟨bytes, hacc.symm⟩, hpts⟩
  · rw [hrep.bframes, c.bits_eq n]
    omega
  · intro data frames hfill
    by_cases hpos : 0 < frames
    · obtain ⟨k, rfl⟩ := Int.eq_ofNat_of_zero_le hpos.le
      have hk := c.fill_fits hfill
      rw [c.bits_eq k]
      rcases hrep.fillOne data (by omega) hk with ⟨-, hret⟩ | ⟨hle, ab', p', hret, -, -⟩
      · rw [hret]
        exact ⟨rfl, fun _ => rfl⟩
      · refine ⟨by rw [hret]; rfl, fun hgt => ?_⟩
        rw [hrep.framesize hk, AudioBuffer.space] at hle
        omega
    · have hret : s.ab.fillOne data frames = some s.ab := by rw [AudioBuffer.fillOne, if_pos (by omega)]
      rw [hret]
      exact ⟨rfl, fun _ => rfl⟩

/-- Stereo with 16 bits, four frames of four bytes each. Three frames, one read, then two of silence move the
rest to the front; a fifth frame does not fit and the last read empties the buffer. -/
theorem audio_buffer_stream_compacts :
    let c : AudioSetup := ⟨1, 2, 16, by decide, by decide, by decide, by decide, by decide⟩
    let ops := [AudioOp.fill (some UInt8.ofNat) 3, .read 1, .fill none 2, .fill (some UInt8.ofNat) 1, .read 9]
    let s := ops.foldl Stream.step (c.stream fun _ => 7)
    (∀ o ∈ ops, c.Fits o) ∧ s.delivered = [0, 1, 2, 3, 4, 5, 6, 7, 8, 9, 10, 11, 0, 0, 0, 0, 0, 0, 0, 0] ∧
      s.framesRead = 5 ∧ s.ab.bufPts = s.framesRead := by
  intro c ops s
  have hfits : ∀ o ∈ ops, c.Fits o := by simp [ops, c, AudioSetup.Fits]
  obtain ⟨-, -, -, -, hpts⟩ := audio_buffer_stream c (fun _ => 7) ops hfits
  exact ⟨hfits, by decide, by decide, hpts⟩

end CloudStreaming.Streamer
