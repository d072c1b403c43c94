import CloudStreaming.Lib.Memory
import CloudStreaming.Lib.Runs
import Mathlib.Tactic.IntervalCases
import Mathlib.Tactic.Ring

/-!
# Monochrome cursors (`streamer/capture/desktop-duplicator.cpp:488-576`)

A monochrome pointer shape is two bit planes of one height, the `AND` mask over the `XOR` mask, `Pitch` bytes a row;
`Height` counts the rows of both. Each pixel becomes four bytes in each of two images, by its two bits. A plane stores
the leftmost pixel of a byte in its highest bit; the conversion takes it from the lowest (`bit_shr`, `:522`).

| here | there |
| --- | --- |
| `ShapeInfo` | `DXGI_OUTDUPL_POINTER_SHAPE_INFO` |
| `Vec`       | a `std::vector<uint8_t>`: its size and what its indices hold |
| `u32`       | what a `uint32_t` keeps |
| `none`      | an index outside its vector |
-/

namespace CloudStreaming.Streamer.Cursor

open Memory Runs

def u32 (n : Nat) : Nat := n % 4294967296

structure ShapeInfo where
  width : UInt32
  height : UInt32
  pitch : UInt32
  hotSpotX : Int
  hotSpotY : Int

structure Vec where
  size : Nat
  data : Nat → UInt8

/-- `resize`: the elements that stay keep their values, new ones are zero. -/
def Vec.resize (v : Vec) (n : Nat) : Vec := ⟨n, fun i => if i < v.size then v.data i else 0⟩

def Vec.read (v : Vec) (i : Nat) : Option UInt8 := if i < v.size then some (v.data i) else none

/-- Bytes stored at `i`, `i + 1`, ... -/
def Vec.write (v : Vec) (i : Nat) (bytes : List UInt8) : Option Vec :=
  if i + bytes.length ≤ v.size then some { v with data := store v.data i bytes } else none

/-- The part of `CursorState` (`cursor-provider.h:23`) that describes the shape. -/
structure CursorState where
  shapePresent : Bool
  shapeWidth : Nat
  shapeHeight : Nat
  shapePitch : Nat
  shapeHotspotX : Int
  shapeHotspotY : Int
  shapeData : Vec
  shapeXorData : Vec

inductive HResult where
  | sOk
  | eInvalidArg
deriving DecidableEq

/-- `(b >> shr) & 1`. -/
def bitAt (b : UInt8) (shr : Nat) : Nat := (b.toNat >>> shr) &&& 1

/-- What goes to `dst_and` (`:527-571`): black, white, or transparent. -/
def andPixel (aa xx : Nat) : List UInt8 :=
  if aa = 0 ∧ xx = 0 then [0, 0, 0, 0xFF]
  else if aa = 0 ∧ xx = 1 then [0xFF, 0xFF, 0xFF, 0xFF]
  else [0, 0, 0, 0]

/-- What goes to `dst_xor` (`:527-571`): transparent, or white to invert the colour. -/
def xorPixel (aa xx : Nat) : List UInt8 :=
  if aa = 0 ∧ xx = 0 then [0, 0, 0, 0]
  else if aa = 0 ∧ xx = 1 then [0, 0, 0, 0]
  else if aa = 1 ∧ xx = 0 then [0, 0, 0, 0]
  else [0xFF, 0xFF, 0xFF, 0xFF]

/-- The body of the loops (`:521-571`), for `dst_and` and `dst_xor`. -/
def convertPixel (shapeData : Vec) (xorMaskOffset srcPitch dstPitch y : Nat) (dst : Vec × Vec) (x : Nat) :
    Option (Vec × Vec) := do
  let bitOff := u32 (x / 8 + u32 (y * srcPitch))
  let bitShr := x &&& 7
  let a ← shapeData.read bitOff
  let b ← shapeData.read (xorMaskOffset + bitOff)
  let aa := bitAt a bitShr
  let xx := bitAt b bitShr
  let dstOff := u32 (u32 (4 * x) + u32 (y * dstPitch))
  let dstAnd ← dst.1.write dstOff (andPixel aa xx)
  let dstXor ← dst.2.write dstOff (xorPixel aa xx)
  some (dstAnd, dstXor)

/-- `update_cursor_shape_monochrome` (`:488`). -/
def updateCursorShapeMonochrome (state : CursorState) (info : ShapeInfo) (shapeData : Vec) :
    Option (HResult × CursorState) :=
  let expectedInDataSize := u32 (info.pitch.toNat * info.height.toNat)
  if shapeData.size < expectedInDataSize then some (.eInvalidArg, state)
  else do
    let width := info.width.toNat
    let height := info.height.toNat / 2
    let pitch := u32 (width * 4)
    let xorMaskOffset := u32 (info.pitch.toNat * info.height.toNat) / 2
    let dst ← (List.range height).foldlM (fun dst y =>
        (List.range width).foldlM (convertPixel shapeData xorMaskOffset info.pitch.toNat pitch y) dst)
      (state.shapeData.resize (u32 (pitch * height)), state.shapeXorData.resize (u32 (pitch * height)))
    some (.sOk,
      { shapePresent := true
        shapeWidth := width
        shapeHeight := height
        shapePitch := pitch
        shapeHotspotX := info.hotSpotX
        shapeHotspotY := info.hotSpotY
        shapeData := dst.1
        shapeXorData := dst.2 })

/-! ## The conversion by the bits of a pixel -/

/-- A monochrome shape as the API describes it: two planes of one height, rows that have a bit for every pixel, all
of it in the buffer; sizes that a `uint32_t` holds. -/
structure MonochromeShape where
  info : ShapeInfo
  data : Vec
  even : 2 ∣ info.height.toNat
  wide : (info.width.toNat + 7) / 8 ≤ info.pitch.toNat
  room : info.pitch.toNat * info.height.toNat ≤ data.size
  fits : info.pitch.toNat * info.height.toNat < 4294967296
  fitsRow : info.width.toNat * 4 < 4294967296
  fitsOut : info.width.toNat * 4 * (info.height.toNat / 2) < 4294967296

namespace MonochromeShape

variable (s : MonochromeShape)

def width : Nat := s.info.width.toNat

def height : Nat := s.info.height.toNat / 2

/-- The byte of the `AND` mask that has the pixel. -/
def andByte (x y : Nat) : UInt8 := s.data.data (x / 8 + y * s.info.pitch.toNat)

/-- The byte of the `XOR` mask that has the pixel. -/
def xorByte (x y : Nat) : UInt8 := s.data.data (s.info.pitch.toNat * s.height + (x / 8 + y * s.info.pitch.toNat))

/-- The pixel's bit in the `AND` mask: the highest bit of a byte is its leftmost pixel. -/
def andBit (x y : Nat) : Nat := bitAt (s.andByte x y) (7 - x % 8)

def xorBit (x y : Nat) : Nat := bitAt (s.xorByte x y) (7 - x % 8)

/-- The pixel in both images. -/
def Shows (dst : Vec × Vec) (x y aa xx : Nat) : Prop :=
  load dst.1.data (4 * x + y * (s.width * 4)) 4 = andPixel aa xx ∧
    load dst.2.data (4 * x + y * (s.width * 4)) 4 = xorPixel aa xx

/-- The conversion stays inside all vectors, and each pixel is the one of its own two bits. -/
def Converted (state : CursorState) : Prop :=
  ∃ state', updateCursorShapeMonochrome state s.info s.data = some (.sOk, state') ∧
    state'.shapeWidth = s.width ∧ state'.shapeHeight = s.height ∧ state'.shapePitch = s.width * 4 ∧
    ∀ y < s.height, ∀ x < s.width, s.Shows (state'.shapeData, state'.shapeXorData) x y (s.andBit x y) (s.xorBit x y)

/-- Every bit of a pixel is also what its byte has at the same distance from the other end. -/
def Mirrored : Prop :=
  ∀ y < s.height, ∀ x < s.width, bitAt (s.andByte x y) (x % 8) = bitAt (s.andByte x y) (7 - x % 8) ∧
    bitAt (s.xorByte x y) (x % 8) = bitAt (s.xorByte x y) (7 - x % 8)

/-! ### One pixel -/

theorem u32_of_lt {n : Nat} (h : n < 4294967296) : u32 n = n := Nat.mod_eq_of_lt h

theorem pitch_half : s.info.pitch.toNat * s.info.height.toNat / 2 = s.info.pitch.toNat * s.height :=
  Nat.mul_div_assoc _ s.even

variable {s} {x y : Nat}

/-- The pixel's byte is in its row of the plane. -/
theorem byte_lt (hy : y < s.height) (hx : x < s.width) :
    x / 8 + y * s.info.pitch.toNat < s.info.pitch.toNat * s.height := by
  have hw := s.wide
  have hx' : x < s.info.width.toNat := hx
  calc x / 8 + y * s.info.pitch.toNat < s.info.pitch.toNat + y * s.info.pitch.toNat := by omega
    _ = s.info.pitch.toNat * (y + 1) := by ring
    _ ≤ s.info.pitch.toNat * s.height := Nat.mul_le_mul_left _ hy

/-- The pixel's four bytes are in its row of the image. -/
theorem pixel_le (hy : y < s.height) (hx : x < s.width) :
    4 * x + y * (s.width * 4) + 4 ≤ s.width * 4 * s.height := by
  calc 4 * x + y * (s.width * 4) + 4 ≤ s.width * 4 + y * (s.width * 4) := by omega
    _ = s.width * 4 * (y + 1) := by ring
    _ ≤ s.width * 4 * s.height := Nat.mul_le_mul_left _ hy

theorem two_planes : s.info.pitch.toNat * s.height + s.info.pitch.toNat * s.height =
    s.info.pitch.toNat * s.info.height.toNat := by
  obtain ⟨k, hk⟩ := s.even
  have hheight : s.height = k := by
    rw [height, hk]
    omega
  rw [hheight, hk]
  ring

/-- Both images have the size of the shape. -/
def Sized (s : MonochromeShape) (dst : Vec × Vec) : Prop :=
  dst.1.size = s.width * 4 * s.height ∧ dst.2.size = s.width * 4 * s.height

theorem andPixel_length (aa xx : Nat) : (andPixel aa xx).length = 4 := by
  unfold andPixel
  split
  · rfl
  · split <;> rfl

theorem xorPixel_length (aa xx : Nat) : (xorPixel aa xx).length = 4 := by
  unfold xorPixel
  split
  · rfl
  · split
    · rfl
    · split <;> rfl

/-- The images after the pixel is stored. -/
def put (s : MonochromeShape) (dst : Vec × Vec) (x y aa xx : Nat) : Vec × Vec :=
  ({ dst.1 with data := store dst.1.data (4 * x + y * (s.width * 4)) (andPixel aa xx) },
    { dst.2 with data := store dst.2.data (4 * x + y * (s.width * 4)) (xorPixel aa xx) })

/-- The body of the loops is inside all vectors, and stores the pixel of the bits counted from the low end. -/
theorem convertPixel_eq {dst : Vec × Vec} (hd : s.Sized dst) (hy : y < s.height) (hx : x < s.width) :
    convertPixel s.data (u32 (s.info.pitch.toNat * s.info.height.toNat) / 2) s.info.pitch.toNat (u32 (s.width * 4)) y dst x =
      some (s.put dst x y (bitAt (s.andByte x y) (x % 8)) (bitAt (s.xorByte x y) (x % 8))) := by
  have hbyte := byte_lt hy hx
  have hpixel := pixel_le hy hx
  have htwo := two_planes (s := s)
  have hroom := s.room
  have hfits := s.fits
  have hrow : s.width * 4 < 4294967296 := s.fitsRow
  have hout : s.width * 4 * s.height < 4294967296 := s.fitsOut
  have hshr : x &&& 7 = x % 8 := Nat.and_two_pow_sub_one_eq_mod x 3
  rw [u32_of_lt hfits, pitch_half, u32_of_lt hrow]
  unfold convertPixel
  rw [u32_of_lt (n := y * s.info.pitch.toNat) (by omega), u32_of_lt (n := x / 8 + _) (by omega),
    u32_of_lt (n := 4 * x) (by omega), u32_of_lt (n := y * (s.width * 4)) (by omega), u32_of_lt (n := 4 * x + _) (by omega),
    hshr]
  have ha : s.data.read (x / 8 + y * s.info.pitch.toNat) = some (s.andByte x y) := if_pos (by omega)
  have hb : s.data.read (s.info.pitch.toNat * s.height + (x / 8 + y * s.info.pitch.toNat)) = some (s.xorByte x y) :=
    if_pos (by omega)
  simp only [ha, hb, Option.bind_eq_bind, Option.bind_some, Vec.write, andPixel_length, xorPixel_length]
  rw [if_pos (by rw [hd.1]; exact hpixel), Option.bind_some, if_pos (by rw [hd.2]; exact hpixel), Option.bind_some]
  rfl

theorem put_sized {dst : Vec × Vec} (hd : s.Sized dst) (aa xx : Nat) : s.Sized (s.put dst x y aa xx) := hd

theorem put_shows (s : MonochromeShape) (dst : Vec × Vec) (x y aa xx : Nat) :
    s.Shows (s.put dst x y aa xx) x y aa xx := by
  constructor
  · have h := load_store_self dst.1.data (4 * x + y * (s.width * 4)) (andPixel aa xx)
    rwa [andPixel_length] at h
  · have h := load_store_self dst.2.data (4 * x + y * (s.width * 4)) (xorPixel aa xx)
    rwa [xorPixel_length] at h

/-- An earlier pixel stays. -/
theorem put_keeps {dst : Vec × Vec} {x' y' aa xx aa' xx' : Nat} (hx' : x' < s.width)
    (hbefore : y' < y ∨ y' = y ∧ x' < x) (h : s.Shows dst x' y' aa' xx') : s.Shows (s.put dst x y aa xx) x' y' aa' xx' := by
  have hapart : 4 * x' + y' * (s.width * 4) + 4 ≤ 4 * x + y * (s.width * 4) := by
    rcases hbefore with hy | ⟨rfl, hx⟩
    · calc 4 * x' + y' * (s.width * 4) + 4 ≤ s.width * 4 + y' * (s.width * 4) := by omega
        _ = (y' + 1) * (s.width * 4) := by ring
        _ ≤ y * (s.width * 4) := Nat.mul_le_mul_right _ hy
        _ ≤ 4 * x + y * (s.width * 4) := Nat.le_add_left _ _
    · omega
  constructor
  · exact (load_store_disjoint (.inl hapart)).trans h.1
  · exact (load_store_disjoint (.inl hapart)).trans h.2

/-! ### The loops -/

/-- The pixels before `(x, y)` are the ones of the bits counted from the low end. -/
def Done (s : MonochromeShape) (x y : Nat) (dst : Vec × Vec) : Prop :=
  s.Sized dst ∧ ∀ y' x', x' < s.width → (y' < y ∨ y' = y ∧ x' < x) →
    s.Shows dst x' y' (bitAt (s.andByte x' y') (x' % 8)) (bitAt (s.xorByte x' y') (x' % 8))

theorem done_pixel {dst : Vec × Vec} (h : s.Done x y dst) (hy : y < s.height) (hx : x < s.width) :
    ∃ dst', convertPixel s.data (u32 (s.info.pitch.toNat * s.info.height.toNat) / 2) s.info.pitch.toNat
      (u32 (s.width * 4)) y dst x = some dst' ∧ s.Done (x + 1) y dst' := by
  refine ⟨_, convertPixel_eq h.1 hy hx, put_sized h.1 _ _, fun y' x' hx' hbefore => ?_⟩
  by_cases hnew : y' = y ∧ x' = x
  · obtain ⟨rfl, rfl⟩ := hnew
    exact put_shows s _ _ _ _ _
  · exact put_keeps hx' (by omega) (h.2 y' x' hx' (by omega))

theorem done_row {dst : Vec × Vec} (h : s.Done 0 y dst) (hy : y < s.height) :
    ∃ dst', (List.range s.width).foldlM (convertPixel s.data (u32 (s.info.pitch.toNat * s.info.height.toNat) / 2)
      s.info.pitch.toNat (u32 (s.width * 4)) y) dst = some dst' ∧ s.Done 0 (y + 1) dst' := by
  obtain ⟨dst', hrow, hdone⟩ := foldlM_range (I := fun x dst => s.Done x y dst) s.width dst h
    fun x hx dst hd => done_pixel hd hy hx
  exact ⟨dst', hrow, hdone.1, fun y' x' hx' hbefore => hdone.2 y' x' hx' (by omega)⟩

theorem update_done (s : MonochromeShape) (state : CursorState) :
    ∃ state', updateCursorShapeMonochrome state s.info s.data = some (.sOk, state') ∧
      state'.shapeWidth = s.width ∧ state'.shapeHeight = s.height ∧ state'.shapePitch = s.width * 4 ∧
      s.Done 0 s.height (state'.shapeData, state'.shapeXorData) := by
  have hw : s.info.width.toNat = s.width := rfl
  have hh : s.info.height.toNat / 2 = s.height := rfl
  have hrow : s.width * 4 < 4294967296 := s.fitsRow
  have hsize : u32 (u32 (s.width * 4) * s.height) = s.width * 4 * s.height := by
    rw [u32_of_lt hrow]
    exact u32_of_lt s.fitsOut
  have hstart : s.Done 0 0 (state.shapeData.resize (s.width * 4 * s.height),
      state.shapeXorData.resize (s.width * 4 * s.height)) :=
    ⟨⟨rfl, rfl⟩, fun y' x' _ hbefore => by omega⟩
  obtain ⟨dst, hloop, hdone⟩ := foldlM_range (I := fun y dst => s.Done 0 y dst) s.height _ hstart
    fun y hy dst hd => done_row hd hy
  have henough : ¬ s.data.size < u32 (s.info.pitch.toNat * s.info.height.toNat) := by
    rw [u32_of_lt s.fits]
    exact Nat.not_lt.mpr s.room
  rw [updateCursorShapeMonochrome, if_neg henough]
  simp only [hw, hh, hsize, hloop]
  exact ⟨_, rfl, rfl, rfl, u32_of_lt hrow, hdone⟩

/-! ### The order of the bits -/

theorem bitAt_lt (b : UInt8) (shr : Nat) : bitAt b shr < 2 := Nat.and_lt_two_pow _ (by decide : 1 < 2 ^ 1)

/-- A pixel tells its two bits. -/
theorem pixel_inj {aa xx aa' xx' : Nat} (ha : aa < 2) (hx : xx < 2) (ha' : aa' < 2) (hx' : xx' < 2)
    (hand : andPixel aa xx = andPixel aa' xx') (hxor : xorPixel aa xx = xorPixel aa' xx') : aa = aa' ∧ xx = xx' := by
  interval_cases aa <;> interval_cases xx <;> interval_cases aa' <;> interval_cases xx' <;>
    first
      | exact ⟨rfl, rfl⟩
      | exact absurd hand (by decide)
      | exact absurd hxor (by decide)

theorem mirrored_of_converted {state : CursorState} (h : s.Converted state) : s.Mirrored := by
  obtain ⟨state', hupdate, -, -, -, hdone⟩ := s.update_done state
  obtain ⟨state'', hupdate', -, -, -, hshows⟩ := h
  obtain rfl : state' = state'' := (Prod.mk.inj (Option.some.inj (hupdate.symm.trans hupdate'))).2
  intro y hy x hx
  have hlow := hdone.2 y x hx (.inl hy)
  have hhigh := hshows y hy x hx
  exact pixel_inj (bitAt_lt _ _) (bitAt_lt _ _) (bitAt_lt _ _) (bitAt_lt _ _) (hlow.1.symm.trans hhigh.1)
    (hlow.2.symm.trans hhigh.2)

end MonochromeShape

/-- **The order of the bits**: for every monochrome shape the conversion is inside its vectors, and the pixels are the
ones of their own bits exactly if the bytes have those bits in both orders. -/
theorem monochrome_converted_iff (s : MonochromeShape) (state : CursorState) :
    (∃ state', updateCursorShapeMonochrome state s.info s.data = some (.sOk, state')) ∧
      (s.Converted state ↔ s.Mirrored) := by
  obtain ⟨state', hupdate, hwidth, hheight, hpitch, hdone⟩ := s.update_done state
  refine ⟨⟨state', hupdate⟩, MonochromeShape.mirrored_of_converted, fun hm => ?_⟩
  refine ⟨state', hupdate, hwidth, hheight, hpitch, fun y hy x hx => ?_⟩
  have hlow := hdone.2 y x hx (.inl hy)
  rw [(hm y hy x hx).1, (hm y hy x hx).2] at hlow
  exact hlow

/-- An arrow's top: one row of eight pixels, of which only the leftmost is in the masks. -/
def leftPixel : MonochromeShape where
  info := ⟨8, 2, 1, 0, 0⟩
  data := ⟨2, fun i => if i = 0 then 0x7F else 0⟩
  even := by decide
  wide := by decide
  room := by decide
  fits := by decide
  fitsRow := by decide
  fitsOut := by decide

def noCursor : CursorState := ⟨false, 0, 0, 0, 0, 0, ⟨0, fun _ => 0⟩, ⟨0, fun _ => 0⟩⟩

/-- The black pixel on the left comes out on the right. -/
theorem left_pixel_moves_right :
    (updateCursorShapeMonochrome noCursor leftPixel.info leftPixel.data).map (fun r => load r.2.shapeData.data 0 32) =
      some (List.replicate 28 0 ++ [0, 0, 0, 0xFF]) ∧
    leftPixel.andBit 0 0 = 0 ∧ leftPixel.xorBit 0 0 = 0 ∧ ¬ leftPixel.Converted noCursor := by
  refine ⟨by decide, by decide, by decide, fun h => ?_⟩
  have hm := MonochromeShape.mirrored_of_converted h 0 (by decide) 0 (by decide)
  exact absurd hm (by decide)

end CloudStreaming.Streamer.Cursor
