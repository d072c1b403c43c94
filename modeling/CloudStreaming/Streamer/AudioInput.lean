import CloudStreaming.Streamer.AudioSource
import Mathlib.Tactic.Linarith

/-!
# Ten milliseconds of audio (`server-webrtc/ga-audio-input.cpp:49-97`)

`GenerateFramesForNext10Ms` reads the audio source's buffer once, and where that gave less than ten milliseconds once
more, behind what it has. The result is the size of ten milliseconds in bytes if both reads together gave them. If not,
it is the number of frames of the first read (`:93`), which is no number of bytes, and what the second read took off the
buffer is in `frame_buffer` but not in the result.

| here | there |
| --- | --- |
| `Generator`  | `channel_number_`, `sample_rate_`; `sample_size_` is 16 |
| `fills`      | the fills between the two reads, those during the second one's wait among them |
| `Generated.consumed` | not in the source: the bytes that both reads took off the buffer |

The buffer is taken when the first read has waited.
-/

namespace CloudStreaming.Streamer.AudioInput

open Memory

structure Generator where
  channelNumber : Int
  sampleRate : Int

namespace Generator

/-- `recording_frames_in_10_ms_` (`:54`). -/
def recordingFramesIn10Ms (g : Generator) : Int := g.sampleRate.tdiv 100

/-- `recording_buffer_size_in_10ms_` (`:55`). -/
def recordingBufferSizeIn10Ms (g : Generator) : Int := byteSize g.recordingFramesIn10Ms g.channelNumber 16

end Generator

/-- What a `uint32_t` keeps of an `int`. -/
def uint32 (n : Int) : Nat := (n % 4294967296).toNat

/-- A fill: `data`, or silence, and `frames`. -/
abbrev Fill := Option (Nat → UInt8) × Int

def fillAll (ab : AudioBuffer) (fills : List Fill) : AudioBuffer :=
  fills.foldl (fun ab f => (ab.fillOne f.1 f.2).getD ab) ab

structure Generated where
  result : Nat
  frameBuffer : Nat → UInt8
  consumed : List UInt8
  ab : AudioBuffer

/-- `GenerateFramesForNext10Ms` (`:77`). -/
def generateFramesForNext10Ms (g : Generator) (ab : AudioBuffer) (fills : List Fill) (frameBuffer : Nat → UInt8)
    (capacity : UInt32) : Generated :=
  if capacity.toNat < uint32 g.recordingBufferSizeIn10Ms then ⟨0, frameBuffer, [], ab⟩
  else
    let (ab, framesRead, bytes) := ab.read g.recordingFramesIn10Ms
    let frameBuffer := store frameBuffer 0 bytes
    if framesRead = g.recordingFramesIn10Ms then ⟨uint32 g.recordingBufferSizeIn10Ms, frameBuffer, bytes, ab⟩
    else if framesRead < g.recordingFramesIn10Ms then
      let framesToRead := g.recordingFramesIn10Ms - framesRead
      let offset := int32 ((int32 (g.channelNumber * 16)).tdiv 8 * framesRead)
      let (ab, framesRead', bytes') := (fillAll ab fills).read framesToRead
      ⟨if framesToRead = framesRead' then uint32 g.recordingBufferSizeIn10Ms else uint32 framesRead,
        store frameBuffer offset.toNat bytes', bytes ++ bytes', ab⟩
    else ⟨0, frameBuffer, bytes, ab⟩

/-- The result counts the bytes taken off the source's buffer, and they are at the start of `frame_buffer`. -/
def Conserves (r : Generated) : Prop := r.result = r.consumed.length ∧ load r.frameBuffer 0 r.consumed.length = r.consumed

/-- The generator and the source have one configuration: the channels and the rate are `rtspconf`'s (`asource-system.cpp:53`,
`ics-p2p-client.cpp:295`), samples have 16 bits, and ten milliseconds fit in an `int`. -/
structure Setting extends AudioSetup where
  sampleRate : Int
  rate_nonneg : 0 ≤ sampleRate
  sixteen : bitspersample = 16
  fits10 : sampleRate / 100 * channels * bitspersample < 2147483648

namespace Setting

def generator (c : Setting) : Generator := ⟨c.channels, c.sampleRate⟩

/-- The frames of ten milliseconds. -/
def frames10 (c : Setting) : Nat := (c.sampleRate / 100).toNat

/-- The frames a buffer holds. -/
def room (c : Setting) : Nat := c.chunksize.toNat * 4

/-- The frames in the buffer after a fill. -/
def fillFrames (c : Setting) (n : Nat) (f : Fill) : Nat :=
  if 0 < f.2 ∧ n + f.2.toNat ≤ c.room then n + f.2.toNat else n

/-- The frames that fills add to an empty buffer. -/
def arriving (c : Setting) (fills : List Fill) : Nat := fills.foldl c.fillFrames 0

end Setting

section
variable {c : Setting} {ab : AudioBuffer} {p n : Nat} {bytes : List UInt8}

theorem frames10_eq (c : Setting) : c.generator.recordingFramesIn10Ms = c.frames10 := by
  have h := c.rate_nonneg
  rw [Generator.recordingFramesIn10Ms, Setting.generator, Int.tdiv_eq_ediv_of_nonneg h, Setting.frames10]
  omega

theorem frames10_fits (c : Setting) : 8 * (c.frames10 * c.frameBytes) < 2147483648 := by
  have h := c.bits_eq c.frames10
  have hfits := c.fits10
  have hrate : ((c.frames10 : Nat) : Int) = c.sampleRate / 100 := by
    have := c.rate_nonneg
    rw [Setting.frames10]
    omega
  rw [hrate] at h
  omega

/-- Ten milliseconds in bytes. -/
theorem bufferSize_eq (c : Setting) :
    c.generator.recordingBufferSizeIn10Ms = ((c.frames10 * c.frameBytes : Nat) : Int) := by
  rw [Generator.recordingBufferSizeIn10Ms, frames10_eq, ← c.sixteen]
  exact byteSize_eq c.toAudioSetup (frames10_fits c)

theorem two_le_frameBytes (c : Setting) : 2 ≤ c.frameBytes := by
  have h := c.frameBytes_eq
  have hc := c.channels_pos
  rw [c.sixteen] at h
  omega

/-- The place of the second read is behind the bytes of the first. -/
theorem offset_eq (c : Setting) {k : Nat} (hk : k ≤ c.frames10) :
    int32 ((int32 (c.generator.channelNumber * 16)).tdiv 8 * k) = ((k * c.frameBytes : Nat) : Int) := by
  have hbytes := c.frameBytes_eq
  have hpos := c.channels_pos
  have hfits := c.bufsize_fits
  have hchunk := c.chunksize_pos
  have h10 := frames10_fits c
  have hle := Nat.mul_le_mul_right c.frameBytes hk
  have hroom : 4 * c.frameBytes ≤ c.chunksize.toNat * 4 * c.frameBytes :=
    Nat.mul_le_mul_right _ (by omega)
  rw [c.sixteen] at hbytes
  have hchannels : c.generator.channelNumber * 16 = 8 * (c.frameBytes : Int) := hbytes
  have hframe : int32 (8 * (c.frameBytes : Int)) = 8 * (c.frameBytes : Int) := int32_of_fits (by omega) (by omega)
  rw [hchannels, hframe, Int.mul_tdiv_cancel_left _ (by decide), Int.mul_comm, ← Nat.cast_mul]
  exact int32_of_fits (by omega) (by omega)

theorem uint32_of_fits {n : Nat} (h : n < 4294967296) : uint32 (n : Int) = n := by
  rw [uint32]
  omega

/-! ## Fills -/

/-- A fill adds its frames, if the buffer has room for them. -/
theorem frames_fill (h : Frames c.toAudioSetup ab p n bytes) {f : Fill} (hf : c.Fits (.fill f.1 f.2)) :
    ∃ p' bytes', Frames c.toAudioSetup ((ab.fillOne f.1 f.2).getD ab) p' (c.fillFrames n f) bytes' := by
  obtain ⟨data, frames⟩ := f
  unfold Setting.fillFrames
  by_cases hpos : 0 < frames
  · obtain ⟨k, rfl⟩ := Int.eq_ofNat_of_zero_le hpos.le
    have hk := c.fill_fits hf
    have hsize := h.framesize hk
    have hspace := h.space
    have hin := h.inside
    have hiff : n * c.frameBytes + k * c.frameBytes ≤ c.chunksize.toNat * 4 * c.frameBytes ↔ n + k ≤ c.room := by
      rw [← Nat.add_mul]
      exact Nat.mul_le_mul_right_iff c.frameBytes_pos
    rcases h.fillOne data (by omega) hk with ⟨hgt, hfill⟩ | ⟨hle, ab', p', hfill, -, hrep⟩
    · rw [hfill, if_neg]
      · exact ⟨p, bytes, h⟩
      · rintro ⟨-, hroom⟩
        have := hiff.mpr hroom
        omega
    · rw [hfill, if_pos]
      · exact ⟨p', _, hrep⟩
      · exact ⟨hpos, hiff.mp (by omega)⟩
  · have hret : ab.fillOne data frames = some ab := by rw [AudioBuffer.fillOne, if_pos (by omega)]
    rw [hret, if_neg fun hp => hpos hp.1]
    exact ⟨p, bytes, h⟩

theorem frames_fillAll {fills : List Fill} (hf : ∀ f ∈ fills, c.Fits (.fill f.1 f.2)) :
    ∀ {ab : AudioBuffer} {p n : Nat} {bytes : List UInt8}, Frames c.toAudioSetup ab p n bytes →
      ∃ p' bytes', Frames c.toAudioSetup (fillAll ab fills) p' (fills.foldl c.fillFrames n) bytes' := by
  induction fills with
  | nil => exact fun h => ⟨_, _, h⟩
  | cons f fills ih =>
    intro ab p n bytes h
    obtain ⟨p', bytes', h'⟩ := frames_fill h (hf f List.mem_cons_self)
    exact ih (fun f' hf' => hf f' (List.mem_cons_of_mem _ hf')) h'

/-! ## Both reads -/

section
variable (fills : List Fill) (frameBuffer : Nat → UInt8) (capacity : UInt32)

/-- The first read has all of it. -/
theorem generate_first (h : Frames c.toAudioSetup ab p n bytes)
    (hcap : c.frames10 * c.frameBytes ≤ capacity.toNat) (hn : c.frames10 ≤ n) :
    Conserves (generateFramesForNext10Ms c.generator ab fills frameBuffer capacity) := by
  have h10 := frames10_fits c
  obtain ⟨hframes, hlen, -⟩ := h.read_frames c.frames10
  rw [Int.toNat_natCast, Nat.min_eq_left hn] at hframes hlen
  have hbig : ¬ capacity.toNat < uint32 ((c.frames10 * c.frameBytes : Nat) : Int) := by
    rw [uint32_of_fits (by omega)]
    omega
  unfold generateFramesForNext10Ms
  simp only [bufferSize_eq, frames10_eq, if_neg hbig, hframes, if_true]
  refine ⟨?_, ?_⟩
  · rw [hlen, uint32_of_fits (by omega)]
  · exact load_store_self frameBuffer 0 _

/-- The capacity is refused before the first read. -/
theorem generate_refused (hcap : capacity.toNat < c.frames10 * c.frameBytes) :
    Conserves (generateFramesForNext10Ms c.generator ab fills frameBuffer capacity) := by
  have h10 := frames10_fits c
  have hsmall : capacity.toNat < uint32 c.generator.recordingBufferSizeIn10Ms := by
    rw [bufferSize_eq, uint32_of_fits (by omega)]
    exact hcap
  rw [generateFramesForNext10Ms, if_pos hsmall]
  exact ⟨rfl, rfl⟩

/-- The first read has part of it: what both reads gave, and where it is. -/
theorem generate_second (h : Frames c.toAudioSetup ab p n bytes) (hf : ∀ f ∈ fills, c.Fits (.fill f.1 f.2))
    (hcap : c.frames10 * c.frameBytes ≤ capacity.toNat) (hn : n < c.frames10) :
    ∃ r, generateFramesForNext10Ms c.generator ab fills frameBuffer capacity = r ∧
      r.result = (if c.frames10 ≤ n + c.arriving fills then c.frames10 * c.frameBytes else n) ∧
      r.consumed.length = (n + min (c.frames10 - n) (c.arriving fills)) * c.frameBytes ∧
      load r.frameBuffer 0 r.consumed.length = r.consumed := by
  have h10 := frames10_fits c
  have hfb := c.frameBytes_pos
  obtain ⟨hframes, hlen, -, p', rest, hrep, -⟩ := h.read_frames c.frames10
  rw [Int.toNat_natCast, Nat.min_eq_right hn.le] at hframes hlen hrep
  rw [Nat.sub_self] at hrep
  obtain ⟨p'', bytes', hfilled⟩ := frames_fillAll hf hrep
  obtain ⟨hframes', hlen', -⟩ := hfilled.read_frames ((c.frames10 : Int) - n)
  have hto : ((c.frames10 : Int) - n).toNat = c.frames10 - n := by omega
  rw [hto] at hframes' hlen'
  have hbig : ¬ capacity.toNat < uint32 ((c.frames10 * c.frameBytes : Nat) : Int) := by
    rw [uint32_of_fits (by omega)]
    omega
  have hne : ¬ ((n : Nat) : Int) = c.frames10 := by omega
  have hlt : ((n : Nat) : Int) < c.frames10 := by omega
  refine ⟨_, rfl, ?_⟩
  unfold generateFramesForNext10Ms
  simp only [bufferSize_eq, frames10_eq, if_neg hbig, hframes, if_neg hne, if_pos hlt, hframes', offset_eq c hn.le,
    Int.toNat_natCast]
  have hmul := Nat.le_mul_of_pos_right n hfb
  have hmono := Nat.mul_le_mul_right c.frameBytes hn.le
  refine ⟨?_, ?_, ?_⟩
  · have hiff : ((c.frames10 : Int) - n = (min (c.frames10 - n) (fills.foldl c.fillFrames 0) : Nat)) ↔
        c.frames10 ≤ n + c.arriving fills := by
      rw [Setting.arriving]
      omega
    rw [uint32_of_fits (by omega), uint32_of_fits (by omega)]
    exact if_congr hiff rfl rfl
  · rw [List.length_append, hlen, hlen', Nat.add_mul]
    rfl
  · rw [List.length_append, load_add, Nat.zero_add, ← hlen, load_store_self, load_store_disjoint (.inl (by rw [Nat.zero_add])),
      load_store_self]

/-- The bytes of the second read are counted exactly if it completed the ten milliseconds, or there were none. -/
theorem conserves_second (h : Frames c.toAudioSetup ab p n bytes) (hf : ∀ f ∈ fills, c.Fits (.fill f.1 f.2))
    (hcap : c.frames10 * c.frameBytes ≤ capacity.toNat) (hn : n < c.frames10) :
    Conserves (generateFramesForNext10Ms c.generator ab fills frameBuffer capacity) ↔
      c.frames10 ≤ n + c.arriving fills ∨ n + c.arriving fills = 0 := by
  obtain ⟨r, hr, hresult, hlen, hload⟩ := generate_second fills frameBuffer capacity h hf hcap hn
  rw [hr, Conserves, hresult, hlen, ← hlen, and_iff_left hload, hlen]
  have hfb := two_le_frameBytes c
  by_cases hall : c.frames10 ≤ n + c.arriving fills
  · rw [if_pos hall]
    have hsum : n + min (c.frames10 - n) (c.arriving fills) = c.frames10 := by omega
    rw [hsum]
    exact iff_of_true rfl (.inl hall)
  · rw [if_neg hall, or_iff_right hall]
    have hsum : n + min (c.frames10 - n) (c.arriving fills) = n + c.arriving fills := by omega
    rw [hsum]
    constructor
    · intro heq
      -- a frame has two bytes at least, so a positive number of bytes is not its number of frames
      have hle : (n + c.arriving fills) * 2 ≤ n := by
        calc (n + c.arriving fills) * 2 ≤ (n + c.arriving fills) * c.frameBytes := Nat.mul_le_mul_left _ hfb
          _ = n := heq.symm
      omega
    · intro hnone
      have hzero : n = 0 := by omega
      rw [hnone, hzero, Nat.zero_mul]

end

end

/-- **Ten milliseconds in bytes**: in every state of the audio source's buffer, with any fills between the two reads
and any capacity, the call returns the bytes that it took off the buffer and placed exactly if the capacity is too small
for ten milliseconds, or what the buffer held and what arrived make ten milliseconds, or nothing was there at all. -/
theorem generate_conserves_iff (c : Setting) (mem : Nat → UInt8) (ops : List AudioOp) (fills : List Fill)
    (frameBuffer : Nat → UInt8) (capacity : UInt32) (hops : ∀ o ∈ ops, c.Fits o)
    (hfills : ∀ f ∈ fills, c.Fits (.fill f.1 f.2)) :
    let ab := (ops.foldl Stream.step (c.stream mem)).ab
    Conserves (generateFramesForNext10Ms c.generator ab fills frameBuffer capacity) ↔
      capacity.toNat < c.frames10 * c.frameBytes ∨ (c.frames10 : Int) ≤ ab.bframes + c.arriving fills ∨
        ab.bframes + c.arriving fills = 0 := by
  intro ab
  obtain ⟨p, n, bytes, h, -, -⟩ := Kept.run c.toAudioSetup mem hops
  have hab : ab.bframes = n := h.bframes
  by_cases hcap : capacity.toNat < c.frames10 * c.frameBytes
  · exact iff_of_true (generate_refused fills frameBuffer capacity hcap) (.inl hcap)
  · by_cases hn : c.frames10 ≤ n
    · refine iff_of_true (generate_first fills frameBuffer capacity h (by omega) hn) (.inr (.inl ?_))
      omega
    · rw [conserves_second fills frameBuffer capacity h hfills (by omega) (by omega), or_iff_right hcap, hab]
      omega

/-- Stereo with 16 bits at 48 kHz, in chunks of ten milliseconds. -/
def stereo48k : Setting where
  chunksize := 480
  channels := 2
  bitspersample := 16
  sampleRate := 48000
  chunksize_pos := by decide
  channels_pos := by decide
  bits_pos := by decide
  whole := by decide
  fits := by decide
  rate_nonneg := by decide
  sixteen := rfl
  fits10 := by decide

/-- A whole chunk of silence is ten milliseconds. -/
theorem generate_conserves_chunk :
    let ops := [AudioOp.fill none 480]
    (∀ o ∈ ops, stereo48k.Fits o) ∧
    Conserves (generateFramesForNext10Ms stereo48k.generator (ops.foldl Stream.step (stereo48k.stream fun _ => 0)).ab []
      (fun _ => 0) 1920) := by
  intro ops
  have hops : ∀ o ∈ ops, stereo48k.Fits o := by simp [ops, stereo48k, AudioSetup.Fits]
  refine ⟨hops, ?_⟩
  refine (generate_conserves_iff stereo48k _ ops [] _ 1920 hops (by simp)).mpr (.inr (.inl ?_))
  decide

/-- **Frames for bytes**: one frame of four bytes at each read; eight bytes are consumed and the result is one. -/
theorem generate_drops_second_read :
    let ab := ([AudioOp.fill none 1].foldl Stream.step (stereo48k.stream fun _ => 0)).ab
    let r := generateFramesForNext10Ms stereo48k.generator ab [(none, 1)] (fun _ => 0) 1920
    r.result = 1 ∧ r.consumed.length = 8 ∧ ¬ Conserves r := by
  intro ab r
  have hresult : r.result = 1 := by decide
  have hlen : r.consumed.length = 8 := by decide
  refine ⟨hresult, hlen, fun h => ?_⟩
  have := h.1
  omega

end CloudStreaming.Streamer.AudioInput
