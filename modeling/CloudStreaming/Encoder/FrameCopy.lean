import CloudStreaming.Lib.Memory
import CloudStreaming.Lib.Runs
import Mathlib.Tactic.Ring

/-!
# Frames as packets (`encoder/shared/IrrStreamer.cpp:291-368`, `:496-507`)

In the mode `DATA_BUFFER` a surface is copied into a buffer of a pool. The pool is made at the first surface and its
buffers have the size of an image with the dimensions of that surface; later surfaces of any dimensions get the same
buffers. The rows of a surface are `stride[0]` bytes apart (`encoder.cpp:1315`); the copy takes them to be `4 * width`
apart.

| here | there |
| --- | --- |
| `Surface`                | `irr_surface_t`, with the memory behind `pdata` as a parameter of its own |
| `IrrStreamer.pool`       | `m_pPool`: the size of its buffers |
| `Write.poolInit`, `bufGet` | whether `av_buffer_pool_init2` and `av_buffer_pool_get` succeed |
| `imageSize`              | `av_image_get_buffer_size` for the pixel format, with an alignment of 32 |
| `none`                   | a copy leaves the buffer or the surface's memory, or `stride * h` overflows |

`m_BufAlloc` fails for `m_nCurPkts >= m_nMaxPkts`; nothing counts `m_nCurPkts` up, so it is the allocation that decides.
-/

namespace CloudStreaming.Encoder.FrameCopy

open Memory Runs

structure Buffer where
  size : Nat
  data : Nat → UInt8

/-- A surface whose rows are at least as far apart as they are long. -/
structure Surface where
  width : Nat
  height : Nat
  stride0 : Nat
  flipImage : Bool
  wide : 4 * width ≤ stride0

structure IrrStreamer where
  hasDemux : Bool
  pool : Option Nat
  deriving DecidableEq

structure Write where
  surface : Surface
  poolInit : Bool
  bufGet : Bool

/-- `memcpy(dst + i, src + j, n)`. -/
def memcpy (dst : Buffer) (i : Nat) (src : Buffer) (j n : Nat) : Option Buffer :=
  if i + n ≤ dst.size ∧ j + n ≤ src.size then some { dst with data := store dst.data i (load src.data j n) } else none

/-- The rows from `i` on, in the reverse order (`:334`). -/
def copyRows (src : Buffer) (stride h : Nat) : Nat → Nat → Buffer → Option Buffer
  | 0, _, buf => some buf
  | n + 1, i, buf =>
    match memcpy buf (stride * i) src (stride * (h - i - 1)) stride with
    | none => none
    | some buf => copyRows src stride h n (i + 1) buf

/-- The copy (`:327-339`). -/
def copyFrame (s : Surface) (src buf : Buffer) : Option Buffer :=
  let stride := s.width * 4
  let h := s.height
  if stride * h ≥ 2 ^ 31 then none
  else if !s.flipImage then memcpy buf 0 src 0 (stride * h)
  else copyRows src stride h h 0 buf

/-- The pool, made where there is none (`:301-310`). -/
def openPool (imageSize : Nat → Nat → Nat) (s : IrrStreamer) (w : Write) : IrrStreamer :=
  if s.pool = none ∧ w.poolInit then { s with pool := some (imageSize w.surface.width w.surface.height) } else s

/-- `generate_packet` (`:291`), which gives no packet without a pool or a buffer; `old` is what the buffer holds. -/
def generatePacket (imageSize : Nat → Nat → Nat) (s : IrrStreamer) (w : Write) (pdata old : Nat → UInt8) :
    Option (Option Buffer) :=
  match (openPool imageSize s w).pool with
  | none => some none
  | some size =>
    if w.bufGet then
      (copyFrame w.surface ⟨w.surface.stride0 * w.surface.height, pdata⟩ ⟨size, old⟩).map some
    else some none

/-- `write` (`:351`): the packet for `sendPacket`, if there is one. -/
def write (imageSize : Nat → Nat → Nat) (s : IrrStreamer) (w : Write) (pdata old : Nat → UInt8) :
    Option (Option Buffer) :=
  if s.hasDemux then generatePacket imageSize s w pdata old else some none

/-- The streamer after a write. -/
def step (imageSize : Nat → Nat → Nat) (s : IrrStreamer) (w : Write) : IrrStreamer :=
  if s.hasDemux then openPool imageSize s w else s

/-! ## What a packet should hold -/

/-- The row of the surface that belongs to row `y` of the packet. -/
def rowOf (s : Surface) (y : Nat) : Nat := if s.flipImage then s.height - y - 1 else y

/-- Each row of the packet is the pixels of its row of the surface, which starts at a multiple of the stride. -/
def Shows (s : Surface) (pdata : Nat → UInt8) (pkt : Buffer) : Prop :=
  ∀ y < s.height, load pkt.data (4 * s.width * y) (4 * s.width) = load pdata (s.stride0 * rowOf s y) (4 * s.width)

/-- Whatever the surface and the buffer hold, the copy stays inside both, and a packet shows the surface. -/
def Copied (imageSize : Nat → Nat → Nat) (s : IrrStreamer) (w : Write) : Prop :=
  ∀ pdata old, ∃ r, write imageSize s w pdata old = some r ∧ ∀ pkt, r = some pkt → Shows w.surface pdata pkt

/-- The buffers are large enough and the rows lie without gaps, or there is at most one, or they are empty. -/
structure Fits (s : Surface) (size : Nat) : Prop where
  small : 4 * s.width * s.height < 2 ^ 31
  room : 4 * s.width * s.height ≤ size
  packed : s.stride0 = 4 * s.width ∨ s.height ≤ 1 ∨ s.width = 0

/-- Where a write gets a buffer, the surface fits. -/
def Fitting (imageSize : Nat → Nat → Nat) (s : IrrStreamer) (w : Write) : Prop :=
  s.hasDemux = true → w.bufGet = true → ∀ size, (openPool imageSize s w).pool = some size → Fits w.surface size

/-! ## The copy -/

theorem memcpy_inside {dst src : Buffer} {i j n : Nat} (hdst : i + n ≤ dst.size) (hsrc : j + n ≤ src.size) :
    memcpy dst i src j n = some { dst with data := store dst.data i (load src.data j n) } := if_pos ⟨hdst, hsrc⟩

theorem row_end {stride i h : Nat} (hi : i < h) : stride * i + stride ≤ stride * h := by
  calc stride * i + stride = stride * (i + 1) := by ring
    _ ≤ stride * h := Nat.mul_le_mul_left _ hi

/-- The loop inside both: the rows from `i` on come from the other end, the ones before are as they were. -/
theorem copyRows_spec (src : Buffer) {stride h : Nat} (hsrc : stride * h ≤ src.size) (n i : Nat) (buf : Buffer)
    (hn : i + n = h) (hbuf : stride * h ≤ buf.size) :
    ∃ buf', copyRows src stride h n i buf = some buf' ∧
      (∀ y, i ≤ y → y < h → load buf'.data (stride * y) stride = load src.data (stride * (h - y - 1)) stride) ∧
      ∀ y, y < i → load buf'.data (stride * y) stride = load buf.data (stride * y) stride := by
  induction n generalizing i buf with
  | zero =>
    refine ⟨buf, rfl, fun y hle hlt => ?_, fun y _ => rfl⟩
    omega
  | succ n ih =>
    have hcopy : memcpy buf (stride * i) src (stride * (h - i - 1)) stride =
        some { buf with data := store buf.data (stride * i) (load src.data (stride * (h - i - 1)) stride) } := by
      refine memcpy_inside ((row_end (by omega)).trans hbuf) ((row_end ?_).trans hsrc)
      omega
    obtain ⟨buf', hrows, hnew, hold⟩ := ih (i + 1)
      { buf with data := store buf.data (stride * i) (load src.data (stride * (h - i - 1)) stride) } (by omega) hbuf
    refine ⟨buf', ?_, fun y hle hlt => ?_, fun y hlt => ?_⟩
    · simp only [copyRows, hcopy]
      exact hrows
    · rcases Nat.eq_or_lt_of_le hle with rfl | hlt'
      · rw [hold i (Nat.lt_succ_self i)]
        simpa using load_store_self buf.data (stride * i) (load src.data (stride * (h - i - 1)) stride)
      · exact hnew y hlt' hlt
    · rw [hold y (by omega)]
      exact load_store_disjoint (Or.inl (row_end hlt))

/-- Where the buffer is too small, the last row is copied past its end. -/
theorem copyRows_overrun {src : Buffer} {stride h : Nat} (n i : Nat) (buf : Buffer) (hn : i + (n + 1) = h)
    (hbuf : ¬ stride * h ≤ buf.size) : copyRows src stride h (n + 1) i buf = none := by
  induction n generalizing i buf with
  | zero =>
    obtain rfl : h = i + 1 := hn.symm
    have hover : ¬ (stride * i + stride ≤ buf.size ∧ stride * (i + 1 - i - 1) + stride ≤ src.size) := by
      rintro ⟨hle, -⟩
      exact hbuf (by rw [Nat.mul_succ]; exact hle)
    simp only [copyRows, memcpy, if_neg hover]
  | succ n ih =>
    unfold copyRows
    cases hcopy : memcpy buf (stride * i) src (stride * (h - i - 1)) stride with
    | none => rfl
    | some buf' =>
      have hsize : buf'.size = buf.size := by
        unfold memcpy at hcopy
        split at hcopy
        · obtain rfl := Option.some.inj hcopy
          rfl
        · cases hcopy
      exact ih (i + 1) buf' (by omega) (by rw [hsize]; exact hbuf)

theorem wide_frame (s : Surface) : 4 * s.width * s.height ≤ s.stride0 * s.height := Nat.mul_le_mul_right _ s.wide

/-- A row of a whole copy. -/
theorem load_store_row {dst src : Nat → UInt8} {stride h y : Nat} (hy : y < h) :
    load (store dst 0 (load src 0 (stride * h))) (stride * y) stride = load src (stride * y) stride := by
  refine load_congr fun i hi => ?_
  have hlt : stride * y + i < (load src 0 (stride * h)).length := by
    rw [load_length]
    exact Nat.lt_of_lt_of_le (Nat.add_lt_add_left hi _) (row_end hy)
  have hstore := store_inside (m := dst) (p := 0) hlt
  rw [Nat.zero_add] at hstore
  rw [hstore]
  simp [load]

/-- Each row of the packet comes from where it would be in a surface without gaps. -/
theorem copyFrame_spec (s : Surface) (pdata : Nat → UInt8) (buf : Buffer)
    (hsmall : 4 * s.width * s.height < 2 ^ 31) (hroom : 4 * s.width * s.height ≤ buf.size) :
    ∃ pkt, copyFrame s ⟨s.stride0 * s.height, pdata⟩ buf = some pkt ∧
      ∀ y < s.height, load pkt.data (4 * s.width * y) (4 * s.width) =
        load pdata (4 * s.width * rowOf s y) (4 * s.width) := by
  have hmul : s.width * 4 = 4 * s.width := Nat.mul_comm _ _
  have hsrc := wide_frame s
  unfold copyFrame rowOf
  simp only [hmul, if_neg (Nat.not_le.mpr hsmall)]
  cases hflip : s.flipImage with
  | false =>
    refine ⟨_, memcpy_inside (by simpa using hroom) (by simpa using hsrc), fun y hy => ?_⟩
    exact load_store_row hy
  | true =>
    obtain ⟨pkt, hcopy, hrows, -⟩ := copyRows_spec ⟨s.stride0 * s.height, pdata⟩ hsrc s.height 0 buf
      (Nat.zero_add _) hroom
    exact ⟨pkt, hcopy, fun y hy => hrows y (Nat.zero_le y) hy⟩

theorem copyFrame_overrun (s : Surface) (src buf : Buffer)
    (h : ¬ (4 * s.width * s.height < 2 ^ 31 ∧ 4 * s.width * s.height ≤ buf.size)) : copyFrame s src buf = none := by
  have hmul : s.width * 4 = 4 * s.width := Nat.mul_comm _ _
  unfold copyFrame
  simp only [hmul]
  split
  · rfl
  · next hsmall =>
    have hroom : ¬ 4 * s.width * s.height ≤ buf.size := fun hle => h ⟨Nat.lt_of_not_le hsmall, hle⟩
    cases s.flipImage with
    | false =>
      simp only [Bool.not_false, if_true]
      refine if_neg ?_
      rintro ⟨hle, -⟩
      exact hroom (by simpa using hle)
    | true =>
      obtain ⟨n, hn⟩ : ∃ n, s.height = n + 1 := by
        refine Nat.exists_eq_succ_of_ne_zero fun hzero => hroom ?_
        rw [hzero]
        exact Nat.zero_le _
      simp only [Bool.not_true, Bool.false_eq_true, if_false]
      rw [hn] at hroom ⊢
      exact copyRows_overrun n 0 buf (Nat.zero_add _) hroom

/-- The packed rows are the rows of every surface exactly when there are no gaps between two rows. -/
theorem rows_iff (s : Surface) :
    (∀ pdata : Nat → UInt8, ∀ y < s.height, load pdata (4 * s.width * rowOf s y) (4 * s.width) =
        load pdata (s.stride0 * rowOf s y) (4 * s.width)) ↔
      s.stride0 = 4 * s.width ∨ s.height ≤ 1 ∨ s.width = 0 := by
  constructor
  · intro hrows
    by_contra hnot
    obtain ⟨hstride, hheight, hwidth⟩ : s.stride0 ≠ 4 * s.width ∧ 1 < s.height ∧ s.width ≠ 0 := by
      refine ⟨fun h => hnot (Or.inl h), ?_, fun h => hnot (Or.inr (Or.inr h))⟩
      exact Nat.lt_of_not_le fun h => hnot (Or.inr (Or.inl h))
    -- the row of the packet that comes from the surface's row 1, marked at its first byte
    obtain ⟨y, hy, hrow⟩ : ∃ y < s.height, rowOf s y = 1 := by
      unfold rowOf
      cases s.flipImage with
      | false => exact ⟨1, hheight, rfl⟩
      | true => exact ⟨s.height - 2, by omega, by simp; omega⟩
    have hrows := hrows (fun i => if i = s.stride0 then 1 else 0) y hy
    rw [hrow, Nat.mul_one, Nat.mul_one] at hrows
    have hfirst := congrArg (fun bs => bs.head?) hrows
    obtain ⟨n, hn⟩ : ∃ n, 4 * s.width = n + 1 := ⟨4 * s.width - 1, by omega⟩
    rw [hn] at hfirst hstride
    simp [load, List.range_succ_eq_map, Ne.symm hstride] at hfirst
  · intro hpacked pdata y hy
    rcases hpacked with hstride | hheight | hwidth
    · rw [hstride]
    · have hrow : rowOf s y = 0 := by
        unfold rowOf
        split <;> omega
      rw [hrow, Nat.mul_zero, Nat.mul_zero]
    · simp [hwidth]

/-- A buffer of the pool takes every content of a surface exactly when the surface fits. -/
theorem copyFrame_iff (s : Surface) (size : Nat) :
    (∀ pdata old, ∃ pkt, copyFrame s ⟨s.stride0 * s.height, pdata⟩ ⟨size, old⟩ = some pkt ∧ Shows s pdata pkt) ↔
      Fits s size := by
  constructor
  · intro h
    obtain ⟨hsmall, hroom⟩ : 4 * s.width * s.height < 2 ^ 31 ∧ 4 * s.width * s.height ≤ size := by
      by_contra hover
      obtain ⟨pkt, hcopy, -⟩ := h (fun _ => 0) (fun _ => 0)
      rw [copyFrame_overrun s _ ⟨size, fun _ => 0⟩ hover] at hcopy
      cases hcopy
    refine ⟨hsmall, hroom, (rows_iff s).mp fun pdata y hy => ?_⟩
    obtain ⟨pkt, hcopy, hshows⟩ := h pdata fun _ => 0
    obtain ⟨pkt', hcopy', hrows⟩ := copyFrame_spec s pdata ⟨size, fun _ => 0⟩ hsmall hroom
    obtain rfl := Option.some.inj (hcopy.symm.trans hcopy')
    exact (hrows y hy).symm.trans (hshows y hy)
  · rintro ⟨hsmall, hroom, hpacked⟩ pdata old
    obtain ⟨pkt, hcopy, hrows⟩ := copyFrame_spec s pdata ⟨size, old⟩ hsmall hroom
    exact ⟨pkt, hcopy, fun y hy => (hrows y hy).trans ((rows_iff s).mpr hpacked pdata y hy)⟩

/-! ## Runs of writes -/

/-- A write that gets no buffer hands on no packet. -/
theorem copied_of_no_packet {imageSize : Nat → Nat → Nat} {s : IrrStreamer} {w : Write}
    (h : ∀ pdata old, write imageSize s w pdata old = some none) : Copied imageSize s w := by
  intro pdata old
  refine ⟨none, h pdata old, ?_⟩
  intro pkt hpkt
  cases hpkt

theorem copied_iff (imageSize : Nat → Nat → Nat) (s : IrrStreamer) (w : Write) :
    Copied imageSize s w ↔ Fitting imageSize s w := by
  unfold Fitting
  cases hdemux : s.hasDemux with
  | false =>
    have hnone : Copied imageSize s w := copied_of_no_packet fun pdata old => by simp [write, hdemux]
    exact iff_of_true hnone (by simp)
  | true =>
    cases hget : w.bufGet with
    | false =>
      refine iff_of_true (copied_of_no_packet fun pdata old => ?_) (by simp)
      unfold write generatePacket
      rw [if_pos hdemux]
      cases (openPool imageSize s w).pool <;> simp [hget]
    | true =>
      cases hpool : (openPool imageSize s w).pool with
      | none =>
        refine iff_of_true (copied_of_no_packet fun pdata old => ?_) (by simp)
        simp only [write, generatePacket, hdemux, hpool, if_true]
      | some size =>
        have hwrite : ∀ pdata old, write imageSize s w pdata old =
            (copyFrame w.surface ⟨w.surface.stride0 * w.surface.height, pdata⟩ ⟨size, old⟩).map some := by
          intro pdata old
          simp only [write, generatePacket, hdemux, hpool, hget, if_true]
        have hfits : Copied imageSize s w ↔ Fits w.surface size := by
          rw [← copyFrame_iff]
          unfold Copied
          simp only [hwrite]
          constructor
          · intro h pdata old
            obtain ⟨r, hr, hshows⟩ := h pdata old
            obtain ⟨pkt, hpkt, rfl⟩ := Option.map_eq_some_iff.mp hr
            exact ⟨pkt, hpkt, hshows pkt rfl⟩
          · intro h pdata old
            obtain ⟨pkt, hpkt, hshows⟩ := h pdata old
            refine ⟨some pkt, by rw [hpkt]; rfl, ?_⟩
            intro pkt' hpkt'
            obtain rfl := Option.some.inj hpkt'
            exact hshows
        rw [hfits]
        exact ⟨fun h _ _ size' hsize => Option.some.inj hsize ▸ h, fun h => h rfl rfl size rfl⟩

/-- **Frame copy.** In a run of writes every copy stays inside the buffer and the surface and every packet shows its
surface, for all contents, exactly when each surface that gets a buffer fits in it and has no gaps between its rows. -/
theorem frames_copied_iff (imageSize : Nat → Nat → Nat) (hasDemux : Bool) (ws : List Write) :
    Meets (step imageSize) (Copied imageSize) ⟨hasDemux, none⟩ ws ↔
      Meets (step imageSize) (Fitting imageSize) ⟨hasDemux, none⟩ ws := by
  refine meets_iff (I := fun _ => True) (fun s w _ => copied_iff imageSize s w) ?_ ws _ trivial
  intro s w _ _
  trivial

/-- The size of an image of four bytes a pixel, its rows aligned to 32 bytes. -/
def rgbaSize (width height : Nat) : Nat := (4 * width + 31) / 32 * 32 * height

/-- A surface without gaps, written with a pool and a buffer there. -/
def plain (width height : Nat) : Write := ⟨⟨width, height, 4 * width, false, Nat.le_refl _⟩, true, true⟩

/-- A surface with rows of 16 pixels, 128 bytes apart. -/
def padded : Write := ⟨⟨16, 2, 128, false, by decide⟩, true, true⟩

/-- A larger surface after the first one overruns the buffer; the second row of a padded one is taken from its gap. -/
theorem larger_and_padded_surfaces_fail :
    ¬ Meets (step rgbaSize) (Copied rgbaSize) ⟨true, none⟩ [plain 640 480, plain 1280 720] ∧
      ¬ Meets (step rgbaSize) (Copied rgbaSize) ⟨true, none⟩ [padded] := by
  constructor
  · rintro ⟨-, hcopied, -⟩
    have hfits := (copied_iff _ _ _).mp hcopied rfl rfl 1228800 (by decide)
    exact absurd hfits.room (by decide)
  · rintro ⟨hcopied, -⟩
    have hfits := (copied_iff _ _ _).mp hcopied rfl rfl 128 (by decide)
    exact absurd hfits.packed (by decide)

end CloudStreaming.Encoder.FrameCopy
