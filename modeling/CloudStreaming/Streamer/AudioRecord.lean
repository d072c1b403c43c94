import CloudStreaming.Lib.Memory
import CloudStreaming.Lib.Runs

/-!
# The audio record buffer (`aic-vhal-client/AudioPlayer.cpp:37-123`)

A `kOpen` of the vHAL sets the channel count, and the first one allocates `mSockBuffer`; `OnData` fills the buffer with
recorded audio in the format of the other peer and sends it. Nothing compares the two: a later `kOpen` changes the
channel count and leaves the buffer (`:53`), and a callback before the first `kOpen` has no buffer.

| here | there |
| --- | --- |
| `UInt64`     | `size_t`; an `int` is converted to it |
| `Buffer`     | an allocation: its bytes, and what they hold |
| `Open.mem`   | what `new uint16_t[n]` returns, `none` where it throws |
| `Access`     | not in the source: a use of the first `extent` bytes of `mSockBuffer` |

`audio_bytes_per_sample` belongs to Android and is a parameter. Callbacks are taken one after the other. The sample rate
and the command handler, which the buffer does not depend on, are left out.
-/

namespace CloudStreaming.Streamer.AudioRecord

open Memory

structure Buffer where
  size : Nat
  data : Nat → UInt8

structure AudioPlayer where
  channelCount : UInt64
  bufferSizeInBytes : UInt64
  sockBuffer : Option Buffer

/-- `AudioConfig` as it is declared (`AudioPlayer.h:47`), and no buffer. -/
def AudioPlayer.init : AudioPlayer := ⟨1, 320, none⟩

structure Open where
  channelCount : UInt32
  format : UInt32
  frameCount : UInt32
  mem : Option (Nat → UInt8)

structure Data where
  audioData : Nat → UInt8
  bitsPerSample : Int
  numberOfChannels : UInt64
  numberOfFrames : UInt64

inductive Op where
  | kOpen (o : Open)
  | kClose
  | onData (d : Data)

structure Access where
  buffer : Option Buffer
  extent : Nat

/-- The bytes used are inside an allocation. -/
def Access.Inside (a : Access) : Prop := ∃ b, a.buffer = some b ∧ a.extent ≤ b.size

section
variable (bytesPerSample : UInt32 → UInt64)

/-- `bufferSizeInBytes` of a `kOpen` (`:49-51`). -/
def Open.bufferSizeInBytes (o : Open) : UInt64 :=
  o.frameCount.toUInt64 * o.channelCount.toUInt64 * bytesPerSample o.format

/-- `kOpen` (`:45-63`): `new uint16_t[n]` has `2 * n` bytes. -/
def AudioPlayer.onOpen (p : AudioPlayer) (o : Open) : AudioPlayer :=
  { channelCount := o.channelCount.toUInt64
    bufferSizeInBytes := o.bufferSizeInBytes bytesPerSample
    sockBuffer :=
      match p.sockBuffer with
      | some b => some b
      | none => o.mem.map (Buffer.mk (2 * (o.bufferSizeInBytes bytesPerSample).toNat)) }

end

/-- `sizeInBytes` (`:103`). -/
def sizeInBytes (channelCount : UInt64) (d : Data) : UInt64 :=
  d.numberOfFrames * channelCount * UInt64.ofInt d.bitsPerSample / 8

/-- `MonoToStereo` (`:86`) with one input for both channels: each sample of two bytes is stored twice. -/
def monoToStereo (inL inR : Nat → UInt8) (numSamples : Nat) (mem : Nat → UInt8) : Nat → UInt8 :=
  (List.range numSamples).foldl
    (fun mem i => store (store mem (4 * i) (load inL (2 * i) 2)) (4 * i + 2) (load inR (2 * i) 2)) mem

/-- `OnData` (`:97`): the buffer after it, the bytes given to `SendDataPacket`, and the uses of the buffer. -/
def AudioPlayer.onData (p : AudioPlayer) (d : Data) : AudioPlayer × List UInt8 × List Access :=
  let size := (sizeInBytes p.channelCount d).toNat
  let r : Option Buffer × List Access :=
    if p.channelCount = d.numberOfChannels then
      (p.sockBuffer.map fun b => { b with data := store b.data 0 (load d.audioData 0 size) }, [⟨p.sockBuffer, size⟩])
    else if d.numberOfChannels = 1 ∧ p.channelCount = 2 then
      let numSamples := (d.numberOfFrames * d.numberOfChannels).toNat
      (p.sockBuffer.map fun b => { b with data := monoToStereo d.audioData d.audioData numSamples b.data },
        [⟨p.sockBuffer, 4 * numSamples⟩])
    else (p.sockBuffer, [])
  ({ p with sockBuffer := r.1 }, (r.1.map fun b => load b.data 0 size).getD [], r.2 ++ [⟨p.sockBuffer, size⟩])

section
variable (bytesPerSample : UInt32 → UInt64)

def step (p : AudioPlayer) : Op → AudioPlayer
  | .kOpen o => p.onOpen bytesPerSample o
  | .kClose => p
  | .onData d => (p.onData d).1

/-- The player after the messages and callbacks. -/
def player (ops : List Op) : AudioPlayer := ops.foldl (step bytesPerSample) .init

/-- The buffer's uses in a callback are inside it. -/
def InBounds (p : AudioPlayer) (d : Data) : Prop := ∀ a ∈ (p.onData d).2.2, a.Inside

/-! ## The condition on the messages -/

/-- The `kOpen`s of a run. -/
def opens (ops : List Op) : List Open :=
  ops.filterMap fun
    | .kOpen o => some o
    | _ => none

/-- The channels of the last `kOpen`; one before the first. -/
def lastChannelCount (ops : List Op) : UInt64 := ((opens ops).getLast?.map fun o => o.channelCount.toUInt64).getD 1

/-- The bytes a callback needs for the channel count: what it sends, and two samples for one where it converts. -/
def needed (channelCount : UInt64) (d : Data) : Nat :=
  max (sizeInBytes channelCount d).toNat
    (if d.numberOfChannels = 1 ∧ channelCount = 2 then 4 * d.numberOfFrames.toNat else 0)

/-- There was a `kOpen` that allocated, and twice what the first of them asked for is enough for the callback at the
channel count of the last. -/
def Covered (ops : List Op) (d : Data) : Prop :=
  ∃ o, (opens ops).find? (fun o => o.mem.isSome) = some o ∧
    needed (lastChannelCount ops) d ≤ 2 * (o.bufferSizeInBytes bytesPerSample).toNat

/-! ## Runs -/

theorem player_append (ops : List Op) (o : Op) :
    player bytesPerSample (ops ++ [o]) = step bytesPerSample (player bytesPerSample ops) o := by
  rw [player, List.foldl_append]
  rfl

theorem opens_append (ops : List Op) (o : Op) : opens (ops ++ [o]) = opens ops ++ opens [o] := List.filterMap_append ..

/-- A callback leaves the configuration. -/
theorem onData_channelCount (p : AudioPlayer) (d : Data) : (p.onData d).1.channelCount = p.channelCount := rfl

/-- A callback leaves the allocation. -/
theorem onData_size (p : AudioPlayer) (d : Data) :
    (p.onData d).1.sockBuffer.map Buffer.size = p.sockBuffer.map Buffer.size := by
  simp only [AudioPlayer.onData]
  split
  · cases p.sockBuffer <;> rfl
  · split
    · cases p.sockBuffer <;> rfl
    · rfl

/-- The channel count is the one of the last `kOpen`. -/
theorem player_channelCount (ops : List Op) : (player bytesPerSample ops).channelCount = lastChannelCount ops := by
  induction ops using List.reverseRecOn with
  | nil => rfl
  | append_singleton ops o ih =>
    rw [player_append]
    cases o with
    | kOpen o =>
      rw [lastChannelCount, opens_append]
      simp [step, AudioPlayer.onOpen, opens]
    | kClose =>
      rw [lastChannelCount, opens_append]
      simpa [step, opens, lastChannelCount] using ih
    | onData d =>
      rw [lastChannelCount, opens_append]
      simpa [step, opens, lastChannelCount, onData_channelCount] using ih

/-- The buffer is the one of the first `kOpen` that allocated. -/
theorem player_size (ops : List Op) :
    (player bytesPerSample ops).sockBuffer.map Buffer.size =
      ((opens ops).find? fun o => o.mem.isSome).map fun o => 2 * (o.bufferSizeInBytes bytesPerSample).toNat := by
  induction ops using List.reverseRecOn with
  | nil => rfl
  | append_singleton ops o ih =>
    rw [player_append, opens_append, List.find?_append]
    cases o with
    | kOpen o =>
      cases hb : (player bytesPerSample ops).sockBuffer with
      | some b =>
        -- there is a buffer, so an earlier `kOpen` has allocated it
        rw [hb] at ih
        cases hf : (opens ops).find? fun o => o.mem.isSome with
        | none => simp [hf] at ih
        | some o' =>
          rw [hf] at ih
          simpa [step, AudioPlayer.onOpen, hb] using ih
      | none =>
        rw [hb] at ih
        have hf : (opens ops).find? (fun o => o.mem.isSome) = none := by simpa using ih.symm
        rw [hf]
        cases hm : o.mem <;> simp [step, AudioPlayer.onOpen, hb, opens, hm]
    | kClose => simpa [step, opens] using ih
    | onData d =>
      rw [← onData_size] at ih
      simpa [step, opens] using ih

/-- The uses of a callback are inside a buffer exactly if there is one and it has the bytes needed. -/
theorem inBounds_iff (p : AudioPlayer) (d : Data) :
    InBounds p d ↔ ∃ n, p.sockBuffer.map Buffer.size = some n ∧ needed p.channelCount d ≤ n := by
  have hinside : ∀ extent, (Access.mk p.sockBuffer extent).Inside ↔
      ∃ n, p.sockBuffer.map Buffer.size = some n ∧ extent ≤ n := by
    intro extent
    cases p.sockBuffer <;> simp [Access.Inside]
  have hand : ∀ e e' : Nat, ((∃ n, p.sockBuffer.map Buffer.size = some n ∧ e ≤ n) ∧
      ∃ n, p.sockBuffer.map Buffer.size = some n ∧ e' ≤ n) ↔
        ∃ n, p.sockBuffer.map Buffer.size = some n ∧ max e' e ≤ n := by
    intro e e'
    cases p.sockBuffer.map Buffer.size with
    | none => simp
    | some n =>
      simp only [Option.some.injEq, exists_eq_left']
      omega
  unfold InBounds needed
  simp only [AudioPlayer.onData]
  by_cases hsame : p.channelCount = d.numberOfChannels
  · have hnot : ¬ (d.numberOfChannels = 1 ∧ p.channelCount = 2) := by
      rintro ⟨h1, h2⟩
      rw [hsame, h1] at h2
      exact absurd h2 (by decide)
    rw [if_pos hsame, if_neg hnot]
    simp [hinside]
  · rw [if_neg hsame]
    by_cases hmono : d.numberOfChannels = 1 ∧ p.channelCount = 2
    · rw [if_pos hmono, if_pos hmono, ← hand]
      simp [hinside, hmono.1]
    · rw [if_neg hmono, if_neg hmono]
      simp [hinside]

end

/-- **The record buffer**: in every sequence of messages and callbacks, all uses of the buffer are inside its
allocation exactly if every callback is covered by the `kOpen`s before it. -/
theorem record_in_bounds_iff (bytesPerSample : UInt32 → UInt64) (ops : List Op) :
    (∀ pre d, pre ++ [.onData d] <+: ops → InBounds (player bytesPerSample pre) d) ↔
      ∀ pre d, pre ++ [.onData d] <+: ops → Covered bytesPerSample pre d := by
  refine forall_congr' fun pre => forall_congr' fun d => imp_congr_right fun _ => ?_
  rw [inBounds_iff, player_size, player_channelCount, Covered]
  cases (opens pre).find? fun o => o.mem.isSome with
  | none => simp
  | some o => simp

/-- `audio_bytes_per_sample` of `AUDIO_FORMAT_PCM_16_BIT` (1) is 2. -/
def pcm16 : UInt32 → UInt64
  | 1 => 2
  | _ => 0

/-- Ten milliseconds of one channel of 16 bits at 48 kHz. -/
def mono10ms : Data := ⟨fun _ => 0, 16, 1, 480⟩

/-- `n` frames of one channel of 16 bits. -/
def openMono (n : UInt32) : Op := .kOpen ⟨1, 1, n, some fun _ => 0⟩

/-- A callback before the first `kOpen` copies to the null pointer and sends from it; one after a `kOpen` that asked for
ten milliseconds, behind one that asked for a tenth of it, goes past the end of the buffer of the first. -/
theorem record_out_of_bounds :
    ¬ (∀ pre d, pre ++ [.onData d] <+: [.onData mono10ms] → InBounds (player pcm16 pre) d) ∧
    ¬ (∀ pre d, pre ++ [.onData d] <+: [openMono 48, openMono 480, .onData mono10ms] →
      InBounds (player pcm16 pre) d) := by
  constructor
  · intro h
    obtain ⟨n, hn, -⟩ := (inBounds_iff _ _).mp (h [] mono10ms (List.prefix_refl _))
    cases hn
  · intro h
    obtain ⟨n, hn, hle⟩ := (inBounds_iff _ _).mp (h [openMono 48, openMono 480] mono10ms (List.prefix_refl _))
    rw [player_size] at hn
    rw [player_channelCount] at hle
    obtain rfl : 192 = n := by
      have : some 192 = some n := hn
      exact Option.some.inj this
    exact absurd hle (by decide)

end CloudStreaming.Streamer.AudioRecord
