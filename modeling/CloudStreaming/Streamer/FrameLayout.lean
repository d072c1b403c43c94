import Mathlib.Data.Nat.Bitwise
import Mathlib.Tactic.Linarith

/-!
# The layout of the video frame buffers (`streamer/core/vsource.cpp`, `dpipe.cpp`, `ga-common.cpp`)

`video_source_setup_ex` makes a pipe of frame buffers for each channel and puts a frame in each of them: the header
`vsource_frame_t` at the start, the image behind it. Two paddings go into a buffer, one in front of the header
(`ga_malloc`) and one in front of the image (`vsource_frame_init`). Each is between 1 and 16 bytes, never 0, and each
has its 16 bytes in what is asked for.

| here | there |
| --- | --- |
| `sizeofFrame`        | `sizeof(vsource_frame_t)`, 96 on x86_64 |
| `PipeIo`             | what the allocations of one `dpipe_create` give |
| `gaMalloc`, `gaAlignment` | `ga_malloc`, `ga_alignment` (`ga-common.cpp:235-267`), for x86_64 |
| `Built`              | a frame with the buffer it is in |

An address is a `Nat`; `int32` and `sizeT` are the conversions to `int` and `size_t`. The current and the output
resolution play no part in the layout and are left out.
-/

namespace CloudStreaming.Streamer.FrameLayout

def VIDEO_SOURCE_DEF_MAXWIDTH : Int := 2560
def VIDEO_SOURCE_DEF_MAXHEIGHT : Int := 1600
def VIDEO_SOURCE_MAX_STRIDE : Nat := 4
def VIDEO_SOURCE_CHANNEL_MAX : Int := 2
def VIDEO_SOURCE_POOLSIZE : Int := 8
def VSOURCE_ALIGNMENT : Nat := 16

/-- To `int`: modulo `2 ^ 32`, between `-2 ^ 31` and `2 ^ 31`. -/
def int32 (x : Int) : Int := x.bmod 4294967296

/-- To `size_t`. -/
def sizeT (x : Int) : Nat := (x % 18446744073709551616).toNat

theorem int32_of_fits {x : Int} (h0 : 0 ≤ x) (h : x ≤ 2147483647) : int32 x = x := by
  unfold int32
  rw [Int.bmod_def]
  omega

theorem sizeT_of_fits {x : Int} (h0 : 0 ≤ x) (h : x ≤ 2147483647) : (sizeT x : Int) = x := by
  unfold sizeT
  omega

/-! ## Allocation -/

structure Block where
  addr : Nat
  size : Nat
  deriving DecidableEq, Repr

/-- `ga_alignment` (`ga-common.cpp:259`); `alignto` is a power of two. -/
def gaAlignment (ptr alignto : Nat) : Nat := alignto - (ptr &&& (alignto - 1))

/-- `ga_malloc` (`ga-common.cpp:237`) where `malloc` gives `addr`: the block and the offset to its data. -/
def gaMalloc (size : Int) (addr : Option Nat) : Option (Block × Nat) :=
  addr.map fun ptr => (⟨ptr, sizeT (int32 (size + 16))⟩, 16 - (ptr &&& 0x0f))

/-- The members of `dpipe_buffer_t` that are set once. -/
structure DpipeBuffer where
  internal : Block
  offset : Nat
  pointer : Nat
  deriving DecidableEq, Repr

/-- One `dpipe_create`: whether the name is free and the pipe with its name is allocated, and where the block of each
buffer is; `none` where it, or the record of the buffer, is not allocated. -/
structure PipeIo where
  named : Bool
  block : Nat → Option Nat

/-- One pass of the loop of `dpipe_create` (`dpipe.cpp:70-82`). -/
def pushBuffer (maxframesize : Int) (io : PipeIo) (ins : List DpipeBuffer) (i : Nat) : Option (List DpipeBuffer) := do
  let (internal, offset) ← gaMalloc maxframesize (io.block i)
  pure (⟨internal, offset, internal.addr + offset⟩ :: ins)

/-- `dpipe_create` (`dpipe.cpp:51`): the list `in`. -/
def dpipeCreate (id nframe maxframesize : Int) (io : PipeIo) : Option (List DpipeBuffer) :=
  if id < 0 ∨ nframe ≤ 0 ∨ maxframesize ≤ 0 then none
  else if !io.named then none
  else (List.range nframe.toNat).foldlM (pushBuffer maxframesize io) []

/-! ## Frames -/

/-- The members of `vsource_t` that `vsource_frame_init` reads. -/
structure Vsource where
  maxWidth : Int
  maxHeight : Int
  maxStride : Int
  deriving DecidableEq, Repr

/-- The members of a frame that `vsource_frame_init` sets, at its address. -/
structure Frame where
  addr : Nat
  linesize : List Int
  maxstride : Int
  imgbufsize : Int
  imgbuf : Nat
  deriving DecidableEq, Repr

/-- `vsource_frame_init` (`vsource.cpp:77`) for the source `vs` of the channel. -/
def vsourceFrameInit (sizeofFrame : Nat) (channel : Int) (vs : Vsource) (frame : Nat) : Option Frame :=
  if channel < 0 ∨ channel ≥ VIDEO_SOURCE_CHANNEL_MAX then none
  else if vs.maxWidth = 0 then none
  else
    let imgbuf := frame + sizeofFrame
    some ⟨frame, List.replicate VIDEO_SOURCE_MAX_STRIDE vs.maxStride, vs.maxStride,
      int32 (vs.maxHeight * vs.maxStride), imgbuf + gaAlignment imgbuf VSOURCE_ALIGNMENT⟩

structure Built where
  channel : Nat
  buffer : DpipeBuffer
  frame : Frame
  deriving DecidableEq, Repr

/-- The loop over the list `in` (`vsource.cpp:408-413`): whether every frame was made, and the ones that were. -/
def initFrames (sizeofFrame idx : Nat) (vs : Vsource) : List DpipeBuffer → Bool × List Built
  | [] => (true, [])
  | data :: rest =>
    match vsourceFrameInit sizeofFrame idx vs data.pointer with
    | none => (false, [])
    | some frame =>
      let (ok, built) := initFrames sizeofFrame idx vs rest
      (ok, ⟨idx, data, frame⟩ :: built)

/-- The source of a channel; `maxres` is "max-resolution" of the configuration, or zeros (`vsource.cpp:389-391`). -/
def vsource (maxres : Int × Int) : Vsource where
  maxWidth := max VIDEO_SOURCE_DEF_MAXWIDTH maxres.1
  maxHeight := max VIDEO_SOURCE_DEF_MAXHEIGHT maxres.2
  maxStride := int32 (max VIDEO_SOURCE_DEF_MAXWIDTH maxres.1 * 4)

/-- The size handed to `dpipe_create` (`vsource.cpp:404`): a sum of `size_t`, converted to `int`. -/
def frameSize (sizeofFrame : Nat) (vs : Vsource) : Int :=
  int32 (sizeT (sizeofFrame + int32 (vs.maxHeight * vs.maxStride) + VSOURCE_ALIGNMENT))

/-- The frames of a pipe, if it was made. -/
def initPipe (sizeofFrame idx : Nat) (vs : Vsource) : Option (List DpipeBuffer) → Bool × List Built
  | none => (false, [])
  | some ins => initFrames sizeofFrame idx vs ins

/-- The body of the loop over the channels (`vsource.cpp:378-416`). -/
def setupChannel (sizeofFrame : Nat) (maxres : Int × Int) (idx : Nat) (io : PipeIo) : Bool × List Built :=
  initPipe sizeofFrame idx (vsource maxres)
    (dpipeCreate idx VIDEO_SOURCE_POOLSIZE (frameSize sizeofFrame (vsource maxres)) io)

/-- A channel and, if it was set up, the ones after it. -/
def thenChannels (here : Bool × List Built) (later : Int × List Built) : Int × List Built :=
  if here.1 then (later.1, here.2 ++ later.2) else (-1, here.2)

def setupChannels (sizeofFrame : Nat) (maxres : Int × Int) (io : Nat → PipeIo) : List Nat → Int × List Built
  | [] => (0, [])
  | idx :: rest =>
    thenChannels (setupChannel sizeofFrame maxres idx (io idx)) (setupChannels sizeofFrame maxres io rest)

/-- `video_source_setup_ex` (`vsource.cpp:355`): what it returns and the frames it made. -/
def videoSourceSetupEx (sizeofFrame : Nat) (maxres : Int × Int) (nConfig : Int) (io : Nat → PipeIo) :
    Int × List Built :=
  if nConfig ≤ 0 ∨ nConfig > VIDEO_SOURCE_CHANNEL_MAX then (-1, [])
  else setupChannels sizeofFrame maxres io (List.range nConfig.toNat)

/-! ## The two paddings -/

/-- A padding is never 0 and ends at a multiple. -/
theorem gaAlignment_spec (ptr k : Nat) :
    1 ≤ gaAlignment ptr (2 ^ k) ∧ gaAlignment ptr (2 ^ k) ≤ 2 ^ k ∧ 2 ^ k ∣ ptr + gaAlignment ptr (2 ^ k) := by
  have hmod : ptr &&& (2 ^ k - 1) = ptr % 2 ^ k := Nat.and_two_pow_sub_one_eq_mod ptr k
  have hlt : ptr % 2 ^ k < 2 ^ k := Nat.mod_lt _ (Nat.two_pow_pos k)
  have hdiv := Nat.div_add_mod ptr (2 ^ k)
  unfold gaAlignment
  rw [hmod]
  refine ⟨by omega, by omega, ?_⟩
  refine ⟨ptr / 2 ^ k + 1, ?_⟩
  rw [Nat.mul_add, Nat.mul_one]
  omega

theorem gaAlignment_sixteen (ptr : Nat) :
    1 ≤ gaAlignment ptr 16 ∧ gaAlignment ptr 16 ≤ 16 ∧ 16 ∣ ptr + gaAlignment ptr 16 :=
  gaAlignment_spec ptr 4

/-- What `dpipe_create` has put in a buffer of `maxframesize` bytes. -/
structure Aligned (maxframesize : Int) (b : DpipeBuffer) : Prop where
  front : b.internal.addr < b.pointer
  room : (b.pointer : Int) + maxframesize ≤ b.internal.addr + b.internal.size
  aligned : 16 ∣ b.pointer

theorem gaMalloc_aligned {size : Int} {ptr : Nat} {internal : Block} {offset : Nat} (h0 : 0 ≤ size)
    (hfits : size + 16 ≤ 2147483647) (h : gaMalloc size (some ptr) = some (internal, offset)) :
    Aligned size ⟨internal, offset, internal.addr + offset⟩ := by
  obtain ⟨rfl, rfl⟩ : _ ∧ _ := by simpa [gaMalloc] using h
  obtain ⟨hpos, hle, hdvd⟩ := gaAlignment_sixteen ptr
  have hsize := sizeT_of_fits (x := size + 16) (by omega) hfits
  refine ⟨?_, ?_, hdvd⟩
  · show ptr < ptr + gaAlignment ptr 16
    omega
  · show ((ptr + gaAlignment ptr 16 : Nat) : Int) + size ≤ ptr + sizeT (int32 (size + 16))
    rw [int32_of_fits (by omega) hfits, hsize]
    push_cast
    omega

theorem pushBuffer_aligned {size : Int} {io : PipeIo} {ins ins' : List DpipeBuffer} {i : Nat} (h0 : 0 ≤ size)
    (hfits : size + 16 ≤ 2147483647) (hins : ∀ b ∈ ins, Aligned size b) (h : pushBuffer size io ins i = some ins') :
    ∀ b ∈ ins', Aligned size b := by
  cases haddr : io.block i with
  | none => simp [pushBuffer, gaMalloc, haddr] at h
  | some ptr =>
    rw [pushBuffer, haddr] at h
    obtain rfl := Option.some.inj h
    intro b hb
    rcases List.mem_cons.mp hb with rfl | hb
    · exact gaMalloc_aligned h0 hfits rfl
    · exact hins b hb

/-- What every pass keeps, the loop keeps. -/
theorem foldlM_inv {α β : Type} {f : β → α → Option β} {I : β → Prop} (hf : ∀ b a b', I b → f b a = some b' → I b') :
    ∀ (as : List α) (b b' : β), I b → as.foldlM f b = some b' → I b'
  | [], b, b', hb, h => by
    obtain rfl := Option.some.inj h
    exact hb
  | a :: as, b, b', hb, h => by
    rw [List.foldlM_cons] at h
    obtain ⟨b1, h1, h2⟩ := Option.bind_eq_some_iff.mp h
    exact foldlM_inv hf as b1 b' (hf b a b1 hb h1) h2

theorem dpipeCreate_aligned {id nframe size : Int} {io : PipeIo} {ins : List DpipeBuffer}
    (hfits : size + 16 ≤ 2147483647) (h : dpipeCreate id nframe size io = some ins) : ∀ b ∈ ins, Aligned size b := by
  unfold dpipeCreate at h
  split at h
  · cases h
  next hargs =>
    split at h
    · cases h
    · refine foldlM_inv (I := fun ins => ∀ b ∈ ins, Aligned size b) ?_ _ [] ins (by simp) h
      intro ins i ins' hins hpush
      exact pushBuffer_aligned (by omega) hfits hins hpush

/-! ## The frame in its buffer -/

/-- Header and image are aligned, apart from each other, and inside the block. -/
structure LaidOut (sizeofFrame : Nat) (b : Built) : Prop where
  inBuffer : b.frame.addr = b.buffer.pointer
  front : b.buffer.internal.addr ≤ b.frame.addr
  frameAligned : 16 ∣ b.frame.addr
  imgbufAligned : VSOURCE_ALIGNMENT ∣ b.frame.imgbuf
  apart : b.frame.addr + sizeofFrame ≤ b.frame.imgbuf
  imgbufsize : 0 ≤ b.frame.imgbufsize
  inBlock : (b.frame.imgbuf : Int) + b.frame.imgbufsize ≤ b.buffer.internal.addr + b.buffer.internal.size

/-- The sum that has to fit in an `int`: header, image and both paddings. -/
def total (sizeofFrame : Nat) (maxres : Int × Int) : Int :=
  let max_width := max VIDEO_SOURCE_DEF_MAXWIDTH maxres.1
  let max_height := max VIDEO_SOURCE_DEF_MAXHEIGHT maxres.2
  sizeofFrame + max_height * (max_width * 4) + VSOURCE_ALIGNMENT + 16

variable {sizeofFrame : Nat} {maxres : Int × Int}

/-- Under the bound every product and sum is exact. -/
theorem sizes_exact (hfits : total sizeofFrame maxres ≤ 2147483647) :
    0 ≤ int32 ((vsource maxres).maxHeight * (vsource maxres).maxStride) ∧
      frameSize sizeofFrame (vsource maxres) =
        sizeofFrame + int32 ((vsource maxres).maxHeight * (vsource maxres).maxStride) + VSOURCE_ALIGNMENT ∧
      frameSize sizeofFrame (vsource maxres) + 16 = total sizeofFrame maxres := by
  have hw : (2560 : Int) ≤ max VIDEO_SOURCE_DEF_MAXWIDTH maxres.1 := le_max_left _ _
  have hh : (1600 : Int) ≤ max VIDEO_SOURCE_DEF_MAXHEIGHT maxres.2 := le_max_left _ _
  have halign : (VSOURCE_ALIGNMENT : Int) = 16 := rfl
  simp only [total, halign] at hfits
  set w := max VIDEO_SOURCE_DEF_MAXWIDTH maxres.1 with hwdef
  set h := max VIDEO_SOURCE_DEF_MAXHEIGHT maxres.2 with hhdef
  have hle : w * 4 ≤ h * (w * 4) := le_mul_of_one_le_left (by omega) (by omega)
  have hstride : (vsource maxres).maxStride = w * 4 := int32_of_fits (by omega) (by omega)
  have hheight : (vsource maxres).maxHeight = h := rfl
  have himg : int32 ((vsource maxres).maxHeight * (vsource maxres).maxStride) = h * (w * 4) := by
    rw [hstride, hheight]
    exact int32_of_fits (by omega) (by omega)
  have hsize : frameSize sizeofFrame (vsource maxres) = sizeofFrame + h * (w * 4) + 16 := by
    unfold frameSize
    rw [himg, halign, sizeT_of_fits (by omega) (by omega), int32_of_fits (by omega) (by omega)]
  refine ⟨by rw [himg]; omega, by rw [hsize, himg, halign], ?_⟩
  simp only [total, halign, ← hwdef, ← hhdef]
  rw [hsize]

/-- The header takes `sizeofFrame` bytes of a buffer and the padding at most 16 more. -/
theorem vsourceFrameInit_laidOut {idx : Nat} {vs : Vsource} {data : DpipeBuffer} {frame : Frame}
    (h0 : 0 ≤ int32 (vs.maxHeight * vs.maxStride))
    (hdata : Aligned (sizeofFrame + int32 (vs.maxHeight * vs.maxStride) + VSOURCE_ALIGNMENT) data)
    (h : vsourceFrameInit sizeofFrame idx vs data.pointer = some frame) :
    LaidOut sizeofFrame ⟨idx, data, frame⟩ := by
  obtain ⟨hpos, hle, hdvd⟩ := gaAlignment_sixteen (data.pointer + sizeofFrame)
  have halign : VSOURCE_ALIGNMENT = 16 := rfl
  have hroom := hdata.room
  have hfront := hdata.front
  unfold vsourceFrameInit at h
  split at h
  · cases h
  · split at h
    · cases h
    · obtain rfl := Option.some.inj h
      rw [halign] at hroom ⊢
      refine ⟨rfl, hfront.le, hdata.aligned, hdvd, ?_, h0, ?_⟩
      · simp only
        omega
      · simp only
        push_cast at hroom ⊢
        omega

theorem initFrames_laidOut {idx : Nat} {vs : Vsource} (h0 : 0 ≤ int32 (vs.maxHeight * vs.maxStride)) :
    ∀ ins : List DpipeBuffer,
      (∀ b ∈ ins, Aligned (sizeofFrame + int32 (vs.maxHeight * vs.maxStride) + VSOURCE_ALIGNMENT) b) →
      ∀ b ∈ (initFrames sizeofFrame idx vs ins).2, LaidOut sizeofFrame b := by
  intro ins
  induction ins with
  | nil => simp [initFrames]
  | cons data rest ih =>
    intro hins b hb
    rw [initFrames] at hb
    cases hf : vsourceFrameInit sizeofFrame idx vs data.pointer with
    | none => simp [hf] at hb
    | some frame =>
      simp only [hf, List.mem_cons] at hb
      rcases hb with rfl | hb
      · exact vsourceFrameInit_laidOut h0 (hins data List.mem_cons_self) hf
      · exact ih (fun b hb => hins b (List.mem_cons_of_mem _ hb)) b hb

theorem setupChannel_laidOut (hfits : total sizeofFrame maxres ≤ 2147483647) (idx : Nat) (io : PipeIo) :
    ∀ b ∈ (setupChannel sizeofFrame maxres idx io).2, LaidOut sizeofFrame b := by
  obtain ⟨h0, hsize, htotal⟩ := sizes_exact hfits
  unfold setupChannel
  cases hpipe : dpipeCreate idx VIDEO_SOURCE_POOLSIZE (frameSize sizeofFrame (vsource maxres)) io with
  | none => simp [initPipe]
  | some ins =>
    have haligned := dpipeCreate_aligned (by omega) hpipe
    rw [hsize] at haligned
    exact initFrames_laidOut h0 ins haligned

theorem mem_thenChannels {here : Bool × List Built} {later : Int × List Built} {b : Built}
    (hb : b ∈ (thenChannels here later).2) : b ∈ here.2 ∨ b ∈ later.2 := by
  unfold thenChannels at hb
  split at hb
  · exact List.mem_append.mp hb
  · exact Or.inl hb

theorem setupChannels_laidOut (hfits : total sizeofFrame maxres ≤ 2147483647) (io : Nat → PipeIo) (idxs : List Nat) :
    ∀ b ∈ (setupChannels sizeofFrame maxres io idxs).2, LaidOut sizeofFrame b := by
  induction idxs with
  | nil => simp [setupChannels]
  | cons idx rest ih =>
    intro b hb
    rcases mem_thenChannels hb with hb | hb
    · exact setupChannel_laidOut hfits idx (io idx) b hb
    · exact ih b hb

/-- **Frame layout.** Wherever `malloc` puts the blocks, if header, image and the 32 bytes for the paddings fit in an
`int`, every frame that `video_source_setup_ex` makes is aligned, its image is aligned and behind the header, and the
image ends inside the block. -/
theorem frames_laid_out (sizeofFrame : Nat) (maxres : Int × Int) (nConfig : Int) (io : Nat → PipeIo)
    (hfits : total sizeofFrame maxres ≤ 2147483647) :
    ∀ b ∈ (videoSourceSetupEx sizeofFrame maxres nConfig io).2, LaidOut sizeofFrame b := by
  intro b hb
  unfold videoSourceSetupEx at hb
  split at hb
  · simp at hb
  · exact setupChannels_laidOut hfits io _ b hb

/-- One channel, with blocks at every residue that `malloc` might give. -/
theorem frames_laid_out_one_channel :
    total 96 (1920, 1080) ≤ 2147483647 ∧
      (∀ b ∈ (videoSourceSetupEx 96 (1920, 1080) 1 fun _ => ⟨true, fun i => some (0x7f0000000000 * i + 2 * i + 1)⟩).2,
        LaidOut 96 b) ∧
      (videoSourceSetupEx 96 (1920, 1080) 1 fun _ => ⟨true, fun i => some (0x7f0000000000 * i + 2 * i + 1)⟩).2.length = 8 :=
  ⟨by decide, frames_laid_out 96 (1920, 1080) 1 _ (by decide), by decide +kernel⟩

/-! ## Every buffer gets its frame -/

/-- Every allocation for the pipe of a channel succeeds. -/
def Served (io : PipeIo) : Prop := io.named = true ∧ ∀ i, (io.block i).isSome

theorem foldlM_pushBuffer_length {io : PipeIo} (size : Int) (h : ∀ i, (io.block i).isSome) :
    ∀ (is : List Nat) (ins : List DpipeBuffer),
      ∃ ins', is.foldlM (pushBuffer size io) ins = some ins' ∧ ins'.length = ins.length + is.length := by
  intro is
  induction is with
  | nil => exact fun ins => ⟨ins, rfl, rfl⟩
  | cons i is ih =>
    intro ins
    obtain ⟨ptr, hptr⟩ := Option.isSome_iff_exists.mp (h i)
    obtain ⟨ins', hins', hlen⟩ := ih _
    refine ⟨ins', ?_, ?_⟩
    · rw [List.foldlM_cons, pushBuffer, hptr]
      exact hins'
    · rw [hlen, List.length_cons, List.length_cons]
      omega

theorem initFrames_all (sizeofFrame : Nat) {idx : Nat} {vs : Vsource} (hidx : (idx : Int) < VIDEO_SOURCE_CHANNEL_MAX)
    (hwidth : vs.maxWidth ≠ 0) (ins : List DpipeBuffer) :
    (initFrames sizeofFrame idx vs ins).1 = true ∧ (initFrames sizeofFrame idx vs ins).2.length = ins.length := by
  induction ins with
  | nil => exact ⟨rfl, rfl⟩
  | cons data rest ih =>
    have hchannel : ¬ ((idx : Int) < 0 ∨ (idx : Int) ≥ VIDEO_SOURCE_CHANNEL_MAX) := by omega
    simp only [initFrames, vsourceFrameInit, if_neg hchannel, if_neg hwidth]
    exact ⟨ih.1, congrArg (· + 1) ih.2⟩

theorem setupChannel_all {idx : Nat} {io : PipeIo} (hfits : total sizeofFrame maxres ≤ 2147483647)
    (hidx : (idx : Int) < VIDEO_SOURCE_CHANNEL_MAX) (hio : Served io) :
    (setupChannel sizeofFrame maxres idx io).1 = true ∧ (setupChannel sizeofFrame maxres idx io).2.length = 8 := by
  obtain ⟨h0, hsize, -⟩ := sizes_exact hfits
  obtain ⟨ins, hins, hlen⟩ :=
    foldlM_pushBuffer_length (frameSize sizeofFrame (vsource maxres)) hio.2 (List.range 8) []
  have hargs : ¬ ((idx : Int) < 0 ∨ VIDEO_SOURCE_POOLSIZE ≤ 0 ∨ frameSize sizeofFrame (vsource maxres) ≤ 0) := by
    have halign : (VSOURCE_ALIGNMENT : Int) = 16 := rfl
    have hpool : VIDEO_SOURCE_POOLSIZE = 8 := rfl
    omega
  have hpipe : dpipeCreate idx VIDEO_SOURCE_POOLSIZE (frameSize sizeofFrame (vsource maxres)) io = some ins := by
    rw [dpipeCreate, if_neg hargs, hio.1]
    exact hins
  have hwidth : (vsource maxres).maxWidth ≠ 0 := by
    have hw : (2560 : Int) ≤ (vsource maxres).maxWidth := le_max_left _ _
    omega
  have hall := initFrames_all sizeofFrame hidx hwidth ins
  rw [setupChannel, hpipe]
  refine ⟨hall.1, hall.2.trans ?_⟩
  simpa using hlen

theorem setupChannels_all (hfits : total sizeofFrame maxres ≤ 2147483647) (io : Nat → PipeIo) (idxs : List Nat)
    (hidxs : ∀ idx ∈ idxs, (idx : Int) < VIDEO_SOURCE_CHANNEL_MAX ∧ Served (io idx)) :
    (setupChannels sizeofFrame maxres io idxs).1 = 0 ∧
      (setupChannels sizeofFrame maxres io idxs).2.length = 8 * idxs.length := by
  induction idxs with
  | nil => exact ⟨rfl, rfl⟩
  | cons idx rest ih =>
    obtain ⟨hidx, hio⟩ := hidxs idx List.mem_cons_self
    obtain ⟨hret, hlen⟩ := ih (fun i hi => hidxs i (List.mem_cons_of_mem _ hi))
    obtain ⟨hok, hhere⟩ := setupChannel_all hfits hidx hio
    rw [setupChannels, thenChannels, if_pos hok]
    refine ⟨hret, ?_⟩
    rw [List.length_append, hhere, hlen, List.length_cons]
    omega

/-- Where no allocation fails, the setup succeeds and all eight buffers of each channel hold a frame. -/
theorem videoSourceSetupEx_all {nConfig : Int} {io : Nat → PipeIo} (hfits : total sizeofFrame maxres ≤ 2147483647)
    (hpos : 0 < nConfig) (hmax : nConfig ≤ VIDEO_SOURCE_CHANNEL_MAX) (hio : ∀ idx, Served (io idx)) :
    (videoSourceSetupEx sizeofFrame maxres nConfig io).1 = 0 ∧
      (videoSourceSetupEx sizeofFrame maxres nConfig io).2.length = 8 * nConfig.toNat := by
  have hargs : ¬ (nConfig ≤ 0 ∨ nConfig > VIDEO_SOURCE_CHANNEL_MAX) := by omega
  have hall := setupChannels_all hfits io (List.range nConfig.toNat) (fun idx hidx => by
    have hlt := List.mem_range.mp hidx
    exact ⟨by omega, hio idx⟩)
  rw [List.length_range] at hall
  rw [videoSourceSetupEx, if_neg hargs]
  exact hall

end CloudStreaming.Streamer.FrameLayout
