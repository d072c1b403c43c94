import CloudStreaming.Lib.Rounding
import CloudStreaming.Streamer.SdlMessages
import Mathlib.Data.List.Forall2
import Mathlib.Data.Rat.Floor

/-!
# Replaying input (`ctrl-sdl.cpp:356-534`, `:611-631`, `:635-779`)

A message that has arrived becomes at most two `INPUT` events: a key is looked up in `keymap`, a button and a wheel are
named by flags, and a motion is scaled to the coordinates of `SendInput`. Whatever the wheel turned, one message is one
notch for each axis that is not zero, and both axes turn the same wheel.

| here | there |
| --- | --- |
| `Replayer`       | the variables of the module: the blocked keys, the scale, the crop rectangle, the screen |
| `Replayer.fl`    | the arithmetic of `double`; its values are exact |
| `mapVirtualKey`  | `MapVirtualKey(_, MAPVK_VK_TO_VSC)` |
| `none`           | a conversion whose value does not fit, or a screen without pixels |
| `Input`          | the parts of an `INPUT` that are set |
| `keySym`         | not in the source: the keys of `keymap`, by name |
| `Injects`        | not in the source: the event that a message stands for, by the values it was built from |

`SendInput` and `callback_on_input_received` are given the same events; what differs is the scale of a relative motion.
The change of the desktop (`:361-377`) and the report of the time of a motion (`:523`) are left out.
-/

namespace CloudStreaming.Streamer

open Runs Chunks KeyBlock

namespace Replay

open SdlMessages

/-! ## Keys (`:635-779`) -/

/-- `SDL_SCANCODE_TO_KEYCODE`. -/
def keycodeOf (scancode : Nat) : Int := scancode + 0x40000000

def invalidKey : UInt16 := 0xffff

/-- The assignments of `SDLKeyToKeySym_init`, in their order. -/
def keymapInit : List (Int × UInt16) :=
  -- SDLK_SCROLLLOCK, SDLK_PRINTSCREEN
  [(keycodeOf 71, 0x91), (keycodeOf 70, 0x2c),
    -- SDLK_BACKSPACE, TAB, CLEAR, RETURN, PAUSE, ESCAPE, SPACE
    (8, 0x08), (9, 0x09), (keycodeOf 156, 0x0c), (13, 0x0d), (keycodeOf 72, 0x13), (27, 0x1b), (32, 0x20),
    -- SDLK_QUOTEDBL, QUOTE, PLUS, COMMA, MINUS, PERIOD, SLASH
    (34, 0xde), (39, 0xde), (43, 0xbb), (44, 0xbc), (45, 0xbd), (46, 0xbe), (47, 0xbf),
    -- SDLK_COLON, SEMICOLON, LESS, EQUALS, GREATER, QUESTION
    (58, 0xba), (59, 0xba), (60, 0xbc), (61, 0xbb), (62, 0xbe), (63, 0xbf),
    -- SDLK_LEFTBRACKET, BACKSLASH, RIGHTBRACKET, UNDERSCORE, BACKQUOTE
    (91, 0xdb), (92, 0xdc), (93, 0xdd), (95, 0xbd), (96, 0xc0)] ++
  -- 0-9, a-z
  (List.range' 0x30 10).map (fun i : Nat => ((i : Int), UInt16.ofNat i)) ++
  (List.range' 0x61 26).map (fun i : Nat => ((i : Int), UInt16.ofNat (i &&& 0xdf))) ++
  -- SDLK_DELETE, KP0-KP9
  [(127, 0x2e), (keycodeOf 98, 0x60), (keycodeOf 89, 0x61), (keycodeOf 90, 0x62), (keycodeOf 91, 0x63),
    (keycodeOf 92, 0x64), (keycodeOf 93, 0x65), (keycodeOf 94, 0x66), (keycodeOf 95, 0x67), (keycodeOf 96, 0x68),
    (keycodeOf 97, 0x69),
    -- SDLK_KP_PERIOD, KP_DIVIDE, KP_MULTIPLY, KP_MINUS, KP_PLUS, KP_ENTER
    (keycodeOf 99, 0x6e), (keycodeOf 84, 0x6f), (keycodeOf 85, 0x6a), (keycodeOf 86, 0x6d), (keycodeOf 87, 0x6b),
    (keycodeOf 88, 0x0d),
    -- SDLK_UP, DOWN, RIGHT, LEFT, INSERT, HOME, END, PAGEUP, PAGEDOWN
    (keycodeOf 82, 0x26), (keycodeOf 81, 0x28), (keycodeOf 79, 0x27), (keycodeOf 80, 0x25), (keycodeOf 73, 0x2d),
    (keycodeOf 74, 0x24), (keycodeOf 77, 0x23), (keycodeOf 75, 0x21), (keycodeOf 78, 0x22),
    -- SDLK_F1-F15
    (keycodeOf 58, 0x70), (keycodeOf 59, 0x71), (keycodeOf 60, 0x72), (keycodeOf 61, 0x73), (keycodeOf 62, 0x74),
    (keycodeOf 63, 0x75), (keycodeOf 64, 0x76), (keycodeOf 65, 0x77), (keycodeOf 66, 0x78), (keycodeOf 67, 0x79),
    (keycodeOf 68, 0x7a), (keycodeOf 69, 0x7b), (keycodeOf 104, 0x7c), (keycodeOf 105, 0x7d), (keycodeOf 106, 0x7e),
    -- SDLK_NUMLOCK, CAPSLOCK, SCROLLOCK
    (keycodeOf 83, 0x90), (keycodeOf 57, 0x14), (keycodeOf 71, 0x91),
    -- SDLK_RSHIFT, LSHIFT, RCTRL, LCTRL, RALT, LALT, RMETA, LMETA
    (keycodeOf 229, 0xa1), (keycodeOf 225, 0xa0), (keycodeOf 228, 0xa3), (keycodeOf 224, 0xa2), (keycodeOf 230, 0xa5),
    (keycodeOf 226, 0xa4), (keycodeOf 231, 0x5c), (keycodeOf 227, 0x5b),
    -- SDLK_MODE, HELP, MENU
    (keycodeOf 257, 0x1f), (keycodeOf 117, 0x2f), (keycodeOf 118, 0x12)]

/-- `SDLKeyToKeySym` (`:770`): the last assignment counts. -/
def sdlKeyToKeySym (sdlkey : Int) : UInt16 := (keymapInit.reverse.lookup sdlkey).getD invalidKey

/-- Keys that are a character, and are not a letter or a digit: backspace, tab, return, escape, space, the punctuation of
each key with and without shift, and delete. -/
def characterSym : List (Int × UInt16) :=
  [(8, 0x08), (9, 0x09), (13, 0x0d), (27, 0x1b), (32, 0x20), (34, 0xde), (39, 0xde), (43, 0xbb), (61, 0xbb), (44, 0xbc),
    (60, 0xbc), (45, 0xbd), (95, 0xbd), (46, 0xbe), (62, 0xbe), (47, 0xbf), (63, 0xbf), (58, 0xba), (59, 0xba),
    (91, 0xdb), (92, 0xdc), (93, 0xdd), (96, 0xc0), (127, 0x2e)]

/-- Keys by their scancode, other than F1 to F15 and the digits of the keypad: the locks and print screen, pause, insert,
home, page up, end, page down and the arrows, the keypad's operators, clear, help, menu, mode, and the modifiers. -/
def scancodeSym : List (Int × UInt16) :=
  [(57, 0x14), (83, 0x90), (71, 0x91), (70, 0x2c), (72, 0x13), (73, 0x2d), (74, 0x24), (75, 0x21), (77, 0x23), (78, 0x22),
    (79, 0x27), (80, 0x25), (81, 0x28), (82, 0x26), (84, 0x6f), (85, 0x6a), (86, 0x6d), (87, 0x6b), (88, 0x0d),
    (99, 0x6e), (156, 0x0c), (117, 0x2f), (118, 0x12), (257, 0x1f), (224, 0xa2), (225, 0xa0), (226, 0xa4), (227, 0x5b),
    (228, 0xa3), (229, 0xa1), (230, 0xa5), (231, 0x5c)]

/-- The virtual key of a key: digits are themselves, letters their upper case. -/
def keySym (key : Int) : Option UInt16 :=
  let scancode := key - 0x40000000
  if 48 ≤ key ∧ key ≤ 57 then some (.ofInt key)
  else if 97 ≤ key ∧ key ≤ 122 then some (.ofInt (key - 32))
  -- F1–F12 and F13–F15
  else if 58 ≤ scancode ∧ scancode ≤ 69 then some (.ofInt (0x70 + (scancode - 58)))
  else if 104 ≤ scancode ∧ scancode ≤ 106 then some (.ofInt (0x7c + (scancode - 104)))
  -- 1–9 and 0 of the keypad
  else if 89 ≤ scancode ∧ scancode ≤ 97 then some (.ofInt (0x61 + (scancode - 89)))
  else if scancode = 98 then some 0x60
  else (characterSym.lookup key).or (scancodeSym.lookup scancode)

/-- A key that is in none of the tables. -/
theorem lookup_eq_none_of_mem {α β : Type} [BEq α] [LawfulBEq α] {l : List (α × β)} {P : α → Prop} {a : α}
    (hl : ∀ e ∈ l, P e.1) (ha : ¬ P a) : l.lookup a = none := by
  rw [List.lookup_eq_none_iff]
  intro e he
  rw [bne_iff_ne]
  rintro rfl
  exact ha (hl e he)

/-- A key is a character, or the bit of the scancodes and a scancode. -/
def IsKey (key : Int) : Prop := (0 ≤ key ∧ key < 128) ∨ 0 ≤ key - 0x40000000 ∧ key - 0x40000000 < 258

theorem keymapInit_range : ∀ e ∈ keymapInit, IsKey e.1 := by
  unfold IsKey
  decide +kernel

theorem characterSym_range : ∀ e ∈ characterSym, 0 ≤ e.1 ∧ e.1 < 128 := by decide

theorem scancodeSym_range : ∀ e ∈ scancodeSym, 0 ≤ e.1 ∧ e.1 < 258 := by decide

/-- Both ranges of keys, each through the whole table. -/
theorem keymap_characters : ∀ n : Fin 128, keymapInit.reverse.lookup (n : Int) = keySym n := by decide +kernel

theorem keymap_scancodes : ∀ n : Fin 258, keymapInit.reverse.lookup (0x40000000 + n : Int) = keySym (0x40000000 + n) := by
  decide +kernel

/-- **The table of keys** holds the keys that are named, with their virtual keys. -/
theorem keymap_lookup (key : Int) : keymapInit.reverse.lookup key = keySym key := by
  by_cases hchar : 0 ≤ key ∧ key < 128
  · obtain ⟨n, rfl⟩ := Int.eq_ofNat_of_zero_le hchar.1
    exact keymap_characters ⟨n, by omega⟩
  · by_cases hscan : 0 ≤ key - 0x40000000 ∧ key - 0x40000000 < 258
    · obtain ⟨n, hn⟩ := Int.eq_ofNat_of_zero_le hscan.1
      obtain rfl : key = 0x40000000 + n := by omega
      exact keymap_scancodes ⟨n, by omega⟩
    · have hnone : keymapInit.reverse.lookup key = none :=
        lookup_eq_none_of_mem (P := IsKey) (fun e he => keymapInit_range e (List.mem_reverse.mp he))
          (not_or.mpr ⟨hchar, hscan⟩)
      have hsym : keySym key = none := by
        unfold keySym
        rw [if_neg (by omega), if_neg (by omega), if_neg (by omega), if_neg (by omega), if_neg (by omega),
          if_neg (by omega), lookup_eq_none_of_mem (P := fun k => 0 ≤ k ∧ k < 128) characterSym_range hchar,
          lookup_eq_none_of_mem (P := fun k => 0 ≤ k ∧ k < 258) scancodeSym_range hscan]
        rfl
      rw [hnone, hsym]

/-- None of the keys has the value that stands for no key. -/
theorem keySym_valid {key : Int} {vk : UInt16} (h : keySym key = some vk) : vk ≠ invalidKey := by
  have hvalid : ∀ e ∈ keymapInit, e.2 ≠ invalidKey := by decide +kernel
  rw [← keymap_lookup] at h
  obtain ⟨before, after, heq, -⟩ := List.lookup_eq_some_iff.mp h
  exact hvalid (key, vk) (List.mem_reverse.mp (heq ▸ List.mem_append_right before List.mem_cons_self))

theorem sdlKeyToKeySym_eq (key : Int) : sdlKeyToKeySym key = (keySym key).getD invalidKey := by
  rw [sdlKeyToKeySym, keymap_lookup]

/-! ## Events -/

structure MouseInput where
  dx : Int32
  dy : Int32
  mouseData : Int32
  dwFlags : UInt32
  deriving DecidableEq

inductive Input where
  | keyboard (wVk wScan : UInt16) (keyup : Bool)
  | mouse (mi : MouseInput)
  deriving DecidableEq

structure Replayer where
  kb : Blocked
  fl : Rounding Rat 53
  scaleFactorX : Rat
  scaleFactorY : Rat
  /-- `left` and `top`. -/
  prect : Option (Int × Int)
  cxsize : Nat
  cysize : Nat
  callback : Bool
  mapVirtualKey : UInt16 → UInt16

/-- A `double` as a `DWORD`. -/
def dword (q : Rat) : Option Nat :=
  let t := Rounding.trunc q
  if 0 ≤ t ∧ t < 4294967296 then some t.toNat else none

/-- A `double` as a `short`. -/
def short (q : Rat) : Option Int32 :=
  let t := Rounding.trunc q
  if -32768 ≤ t ∧ t < 32768 then some (Int32.ofInt t) else none

/-- `(short)` of a `LONG`. -/
def shortOf (x : Int32) : Int := x.toInt16.toInt

namespace Replayer

variable (r : Replayer)

/-- The `double` of an absolute coordinate (`:492-499`); `edge` is the rectangle's. -/
def position (scale : Rat) (edge : Option Int) (x : Int32) : Rat :=
  match edge with
  | none => r.fl.round (r.fl.round (65536 * scale) * x.toInt)
  | some e => r.fl.round (65536 * r.fl.round (e + r.fl.round (scale * x.toInt)))

/-- The cast to `DWORD` binds tighter than the division by the size of the screen. -/
def absolute (scale : Rat) (edge : Option Int) (x : Int32) (size : Nat) : Option Int32 := do
  let n ← dword (r.position scale edge x)
  if size = 0 then none else some (Int32.ofNat (n / size))

/-- A relative coordinate (`:503-509`). -/
def relative (scale : Rat) (x : Int32) : Option Int32 :=
  if r.callback then some (Int32.ofInt (shortOf x)) else short (r.fl.round (scale * shortOf x))

/-! ## `sdlmsg_replay_native` (`:379-532`) -/

/-- A key (`:383-395`). -/
def key (k : SdlmsgKeyboard) : List Input :=
  let wVk := sdlKeyToKeySym k.sdlkey.toInt
  if wVk ≠ invalidKey then [.keyboard wVk (r.mapVirtualKey wVk) (k.isPressed = 0)] else []

/-- `MOUSEEVENTF_` of a button, pressed or not (`:410-437`), with the turn of the wheel; none for the buttons that are not
named, or are released where only the press is. -/
def buttonFlags (button : UInt8) (pressed : Bool) : UInt32 × Int32 :=
  if button = 1 then (if pressed then 0x0002 else 0x0004, 0)
  else if button = 2 then (if pressed then 0x0020 else 0x0040, 0)
  else if button = 3 then (if pressed then 0x0008 else 0x0010, 0)
  else if button = 4 ∧ pressed then (0x0800, 1)
  else if button = 5 ∧ pressed then (0x0800, -1)
  else (0, 0)

/-- A button (`:407-442`): an event also when no flag is set. -/
def button (m : SdlmsgMouse) : List Input :=
  let (flags, data) := buttonFlags m.mousebutton (m.isPressed ≠ 0)
  [.mouse ⟨0, 0, data, flags⟩]

def wheelDelta : Int32 := 120

/-- One axis of the wheel (`:446-464`): a `LONG` that is not zero and has no sign as a `short` is an event without flags. -/
def wheelAxis (x : Int32) : List Input :=
  if x = 0 then []
  else if 0 < shortOf x then [.mouse ⟨0, 0, wheelDelta, 0x0800⟩]
  else if shortOf x < 0 then [.mouse ⟨0, 0, -wheelDelta, 0x0800⟩]
  else [.mouse ⟨0, 0, 0, 0⟩]

def wheel (m : SdlmsgMouse) : List Input := wheelAxis m.mousex ++ wheelAxis m.mousey

/-- A motion (`:486-528`). -/
def motion (m : SdlmsgMouse) : Option (List Input) :=
  if m.relativeMouseMode = 0 then do
    let dx ← r.absolute r.scaleFactorX (r.prect.map Prod.fst) m.mousex r.cxsize
    let dy ← r.absolute r.scaleFactorY (r.prect.map Prod.snd) m.mousey r.cysize
    pure [.mouse ⟨dx, dy, 0, 0x8001⟩]
  else if m.relativeMouseMode = 1 then do
    let dx ← r.relative r.scaleFactorX m.mouseRelX
    let dy ← r.relative r.scaleFactorY m.mouseRelY
    pure [.mouse ⟨dx, dy, 0, 0x0001⟩]
  else pure [.mouse ⟨m.mousex, m.mousey, 0, 0x0001⟩]

def native (b : List UInt8) : Option (List Input) :=
  if msgtypeOf b = msgtypeKeyboard then some (r.key (.ofBytes b))
  else if msgtypeOf b = msgtypeMousekey then some (button (.ofBytes b))
  else if msgtypeOf b = msgtypeMousewheel then some (wheel (.ofBytes b))
  else if msgtypeOf b = msgtypeMousemotion then r.motion (.ofBytes b)
  else some []

/-- `sdlmsg_key_blocked` (`:594`). -/
def keyBlocked (b : List UInt8) : Bool :=
  let k := SdlmsgKeyboard.ofBytes b
  sdlmsgKeyBlocked r.kb ⟨msgtypeOf b, k.scancode, k.sdlkey.toUInt32⟩

/-- `sdlmsg_replay` (`:612`): the events injected. -/
def replay (b : List UInt8) : Option (List Input) :=
  let b := sdlmsgNtoh b
  if r.keyBlocked b then some [] else r.native b

/-- `sdlmsg_replay_callback` (`:623`) as the controller's hook: the message is converted in place, whatever its length. -/
def hook (b : List UInt8) : List UInt8 := sdlmsgNtoh b

/-! ## What a built message does -/

/-- One axis of the wheel, by the sign of its 16 bits: `WHEEL_DELTA` forward or backward. -/
def notch (x : UInt16) : List Input :=
  if x = 0 then []
  else if x < 32768 then [.mouse ⟨0, 0, 120, 0x0800⟩]
  else [.mouse ⟨0, 0, -120, 0x0800⟩]

/-- A button, pressed or released: left, middle, right, and a turn of the wheel by the fourth and the fifth; what has no
meaning is an event without flags. -/
inductive ButtonInput : UInt8 → Bool → MouseInput → Prop
  | leftDown : ButtonInput 1 true ⟨0, 0, 0, 0x0002⟩
  | leftUp : ButtonInput 1 false ⟨0, 0, 0, 0x0004⟩
  | middleDown : ButtonInput 2 true ⟨0, 0, 0, 0x0020⟩
  | middleUp : ButtonInput 2 false ⟨0, 0, 0, 0x0040⟩
  | rightDown : ButtonInput 3 true ⟨0, 0, 0, 0x0008⟩
  | rightUp : ButtonInput 3 false ⟨0, 0, 0, 0x0010⟩
  | forward : ButtonInput 4 true ⟨0, 0, 1, 0x0800⟩
  | backward : ButtonInput 5 true ⟨0, 0, -1, 0x0800⟩
  | other {button : UInt8} {pressed : Bool} (hmouse : button ≠ 1 ∧ button ≠ 2 ∧ button ≠ 3)
      (hwheel : pressed = true → button ≠ 4 ∧ button ≠ 5) : ButtonInput button pressed ⟨0, 0, 0, 0⟩

/-- `dx` is the coordinate of `SendInput` for the product `q`: its whole part fits a `DWORD`, and is divided by the size of
the screen. -/
def Placed (q : Rat) (size : Nat) (dx : Int32) : Prop :=
  ∃ n : Int, Rounding.IsWhole q n ∧ 0 ≤ n ∧ n < 4294967296 ∧ size ≠ 0 ∧ dx = .ofNat (n.toNat / size)

/-- `dx` is the whole part of `q`, as 16 bits with a sign. -/
def Moved (q : Rat) (dx : Int32) : Prop :=
  ∃ n : Int, Rounding.IsWhole q n ∧ -32768 ≤ n ∧ n < 32768 ∧ dx = .ofInt n

/-- The low 16 bits with their sign. -/
def low16 (x : Int32) : Int := x.toInt.bmod 65536

/-- The product for a coordinate on the screen, and behind the edge of the cropped rectangle. -/
def product (scale : Rat) (x : Int32) : Option Int → Rat
  | none => r.fl.round (r.fl.round (65536 * scale) * x.toInt)
  | some edge => r.fl.round (65536 * r.fl.round (edge + r.fl.round (scale * x.toInt)))

/-- A motion, by the low byte of its mode: a place on the screen, a relative motion, which is scaled for `SendInput` and
not for the callback, or the position of the hardware. -/
inductive MotionInput : SdlMessages.Built → MouseInput → Prop
  | absolute {x y relx rely mode dx dy : Int32} {state : UInt8} (hmode : mode.toUInt32.toUInt8 = 0)
      (hx : Placed (r.product r.scaleFactorX x (r.prect.map Prod.fst)) r.cxsize dx)
      (hy : Placed (r.product r.scaleFactorY y (r.prect.map Prod.snd)) r.cysize dy) :
      MotionInput (.mousemotion x y relx rely state mode) ⟨dx, dy, 0, 0x8001⟩
  | relative {x y relx rely mode dx dy : Int32} {state : UInt8} (hmode : mode.toUInt32.toUInt8 = 1)
      (hcallback : r.callback = false) (hx : Moved (r.fl.round (r.scaleFactorX * low16 relx)) dx)
      (hy : Moved (r.fl.round (r.scaleFactorY * low16 rely)) dy) :
      MotionInput (.mousemotion x y relx rely state mode) ⟨dx, dy, 0, 0x0001⟩
  | reported {x y relx rely mode : Int32} {state : UInt8} (hmode : mode.toUInt32.toUInt8 = 1)
      (hcallback : r.callback = true) :
      MotionInput (.mousemotion x y relx rely state mode) ⟨.ofInt (low16 relx), .ofInt (low16 rely), 0, 0x0001⟩
  | hardware {x y relx rely mode : Int32} {state : UInt8} (h0 : mode.toUInt32.toUInt8 ≠ 0)
      (h1 : mode.toUInt32.toUInt8 ≠ 1) : MotionInput (.mousemotion x y relx rely state mode) ⟨x, y, 0, 0x0001⟩

/-- The key is blocked by its scancode or its code. -/
def BlocksKey (scancode : UInt16) (key : Int32) : Prop := scancode ∈ r.kb.kbScancode ∨ key.toInt ∈ r.kb.kbSdlkey

/-- **The events a message stands for**, by the values it was built from. -/
inductive Injects : Built → List Input → Prop
  | blocked {pressed : UInt8} {scancode mod : UInt16} {key : Int32} {unicode : UInt32} (h : r.BlocksKey scancode key) :
      Injects (.keyboard pressed scancode key mod unicode) []
  | unknown {pressed : UInt8} {scancode mod : UInt16} {key : Int32} {unicode : UInt32}
      (hblocked : ¬ r.BlocksKey scancode key) (h : keySym key.toInt = none) :
      Injects (.keyboard pressed scancode key mod unicode) []
  | key {pressed : UInt8} {scancode mod vk : UInt16} {key : Int32} {unicode : UInt32}
      (hblocked : ¬ r.BlocksKey scancode key) (h : keySym key.toInt = some vk) :
      Injects (.keyboard pressed scancode key mod unicode) [.keyboard vk (r.mapVirtualKey vk) (pressed = 0)]
  | button {pressed button : UInt8} {x y : UInt16} {mi : MouseInput} (h : ButtonInput button (pressed ≠ 0) mi) :
      Injects (.mousekey pressed button x y) [.mouse mi]
  | wheel {x y : UInt16} : Injects (.mousewheel x y) (notch x ++ notch y)
  | motion {x y relx rely mode : Int32} {state : UInt8} {mi : MouseInput}
      (h : r.MotionInput (.mousemotion x y relx rely state mode) mi) :
      Injects (.mousemotion x y relx rely state mode) [.mouse mi]

/-- What the functions for keys, buttons, wheel and motion make of the values. -/
def inject : Built → Option (List Input)
  | .keyboard pressed scancode key _ _ =>
    let wVk := sdlKeyToKeySym key.toInt
    some (if scancode ∈ r.kb.kbScancode ∨ key.toInt ∈ r.kb.kbSdlkey ∨ wVk = invalidKey then []
      else [.keyboard wVk (r.mapVirtualKey wVk) (pressed = 0)])
  | .mousekey pressed button _ _ =>
    let (flags, data) := buttonFlags button (pressed ≠ 0)
    some [.mouse ⟨0, 0, data, flags⟩]
  | .mousewheel x y => some (notch x ++ notch y)
  | .mousemotion x y relx rely state mode => r.motion (sdlmsgMousemotion x y relx rely state mode)

theorem toInt_long (x : UInt16) : (long x).toInt = x.toNat := by
  have hx := x.toNat_lt
  have hnat : (long x).toBitVec.toNat = x.toNat := x.toNat_toUInt32
  rw [← Int32.toInt_toBitVec, BitVec.toInt_eq_toNat_of_lt (by omega), hnat]

/-- The `short` has the sign of the upper bit. -/
theorem shortOf_long (x : UInt16) : shortOf (long x) = if x.toNat < 32768 then (x.toNat : Int) else x.toNat - 65536 := by
  have hx := x.toNat_lt
  rw [shortOf, Int32.toInt_toInt16, toInt_long, Int.bmod_def]
  omega

theorem long_eq_zero {x : UInt16} : long x = 0 ↔ x = 0 := long_inj (y := 0)

theorem wheelAxis_long (x : UInt16) : wheelAxis (long x) = notch x := by
  unfold wheelAxis notch
  rw [shortOf_long]
  by_cases hx : x = 0
  · rw [if_pos (long_eq_zero.mpr hx), if_pos hx]
  · have hpos : 0 < x.toNat := Nat.pos_of_ne_zero fun h => hx (UInt16.toNat_inj.mp h)
    rw [if_neg (mt long_eq_zero.mp hx), if_neg hx]
    have hlt : x < 32768 ↔ x.toNat < 32768 := UInt16.lt_iff_toNat_lt
    by_cases h : x.toNat < 32768
    · rw [if_pos h, if_pos (by omega), if_pos (hlt.mpr h)]
      rfl
    · have hx' := x.toNat_lt
      rw [if_neg h, if_neg (by omega), if_pos (by omega), if_neg (mt hlt.mp h)]
      rfl

/-- A message that is not of the keyboard is not blocked. -/
theorem keyBlocked_mouse (m : SdlmsgMouse) (rest : List UInt8) (h : m.msgtype ≠ msgtypeKeyboard) :
    r.keyBlocked (m.bytes ++ rest) = false := by
  simp [keyBlocked, sdlmsgKeyBlocked, SdlmsgMouse.msgtype_bytes, h]

/-- **One message**: what is injected is what the call that built it says, wherever the message lies. -/
theorem replay_message (e : Built) (rest : List UInt8) : r.replay (e.message ++ rest) = r.inject e := by
  rw [replay, sdlmsgNtoh_message]
  cases e with
  | keyboard pressed scancode sdlkey mod unicode =>
    simp only [Built.arrived, keyBlocked, native, SdlmsgKeyboard.msgtype_bytes, SdlmsgKeyboard.ofBytes_bytes]
    simp only [sdlmsgKeyboard, sdlmsgKeyBlocked, inject, Replayer.key, ne_eq, not_true_eq_false, if_false, if_true,
      Int32.toInt32_toUInt32]
    by_cases hscan : scancode ∈ r.kb.kbScancode
    · simp [hscan]
    · by_cases hkey : sdlkey.toInt ∈ r.kb.kbSdlkey
      · simp [hkey]
      · by_cases hsym : sdlKeyToKeySym sdlkey.toInt = invalidKey
        · simp [hscan, hkey, hsym]
        · simp only [hscan, hkey, hsym, or_self, if_false, not_false_eq_true, if_true, Bool.false_eq_true]
          rfl
  | mousekey pressed button x y =>
    have hblocked := r.keyBlocked_mouse { sdlmsgMousekey pressed button x y with mousex := long x, mousey := long y } rest
      (show msgtypeMousekey ≠ msgtypeKeyboard by decide)
    simp only [Built.arrived, hblocked, native, SdlmsgMouse.msgtype_bytes, SdlmsgMouse.ofBytes_bytes]
    rfl
  | mousewheel x y =>
    have hblocked := r.keyBlocked_mouse { sdlmsgMousewheel x y with mousex := long x, mousey := long y } rest
      (show msgtypeMousewheel ≠ msgtypeKeyboard by decide)
    simp only [Built.arrived, hblocked, native, SdlmsgMouse.msgtype_bytes, SdlmsgMouse.ofBytes_bytes]
    rw [inject, ← wheelAxis_long, ← wheelAxis_long]
    rfl
  | mousemotion x y relx rely state mode =>
    have hblocked := r.keyBlocked_mouse (sdlmsgMousemotion x y relx rely state mode) rest
      (show msgtypeMousemotion ≠ msgtypeKeyboard by decide)
    simp only [Built.arrived, hblocked, native, SdlmsgMouse.msgtype_bytes, SdlmsgMouse.ofBytes_bytes]
    rfl

/-! ### The functions give the events -/

theorem buttonFlags_iff {button : UInt8} {pressed : Bool} {mi : MouseInput} :
    ButtonInput button pressed mi ↔ mi = ⟨0, 0, (buttonFlags button pressed).2, (buttonFlags button pressed).1⟩ := by
  constructor
  · intro h
    cases h with
    | leftDown | leftUp | middleDown | middleUp | rightDown | rightUp | forward | backward => rfl
    | other hmouse hwheel =>
      have hforward : ¬ (button = 4 ∧ pressed = true) := fun h => (hwheel h.2).1 h.1
      have hbackward : ¬ (button = 5 ∧ pressed = true) := fun h => (hwheel h.2).2 h.1
      simp only [buttonFlags, if_neg hmouse.1, if_neg hmouse.2.1, if_neg hmouse.2.2, if_neg hforward, if_neg hbackward]
  · rintro rfl
    unfold buttonFlags
    by_cases h1 : button = 1
    · subst h1
      cases pressed
      · exact .leftUp
      · exact .leftDown
    by_cases h2 : button = 2
    · subst h2
      cases pressed
      · exact .middleUp
      · exact .middleDown
    by_cases h3 : button = 3
    · subst h3
      cases pressed
      · exact .rightUp
      · exact .rightDown
    rw [if_neg h1, if_neg h2, if_neg h3]
    by_cases h4 : button = 4 ∧ pressed = true
    · obtain ⟨rfl, rfl⟩ := h4
      exact .forward
    by_cases h5 : button = 5 ∧ pressed = true
    · obtain ⟨rfl, rfl⟩ := h5
      exact .backward
    rw [if_neg h4, if_neg h5]
    exact .other ⟨h1, h2, h3⟩ fun hp => ⟨fun h => h4 ⟨h, hp⟩, fun h => h5 ⟨h, hp⟩⟩

theorem absolute_iff {scale : Rat} {edge : Option Int} {x dx : Int32} {size : Nat} :
    Placed (r.product scale x edge) size dx ↔ r.absolute scale edge x size = some dx := by
  have hproduct : r.product scale x edge = r.position scale edge x := by cases edge <;> rfl
  unfold Placed
  simp only [hproduct, Rounding.isWhole_iff, exists_eq_left', absolute, dword]
  split
  · next h =>
    show _ ↔ (if size = 0 then none else some (Int32.ofNat _)) = some dx
    by_cases hsize : size = 0
    · simp [hsize]
    · simp [hsize, h, eq_comm]
  · next h => exact iff_of_false (fun h' => h ⟨h'.1, h'.2.1⟩) (by simp)

theorem shortOf_eq (x : Int32) : shortOf x = low16 x := by rw [shortOf, Int32.toInt_toInt16, low16]

theorem relative_iff {scale : Rat} {x dx : Int32} :
    (if r.callback then dx = .ofInt (low16 x) else Moved (r.fl.round (scale * low16 x)) dx) ↔
      r.relative scale x = some dx := by
  unfold relative
  rw [shortOf_eq]
  split
  · simp [eq_comm]
  · unfold Moved short
    simp only [Rounding.isWhole_iff, exists_eq_left']
    split
    · next h => simp [h, eq_comm]
    · next h => exact iff_of_false (fun h' => h ⟨h'.1, h'.2.1⟩) (by simp)

/-- One coordinate, then the other. -/
theorem mouse_iff {a b : Option Int32} {flags : UInt32} {inputs : List Input} :
    (do let dx ← a; let dy ← b; pure [.mouse ⟨dx, dy, 0, flags⟩] : Option (List Input)) = some inputs ↔
      ∃ dx dy, a = some dx ∧ b = some dy ∧ inputs = [.mouse ⟨dx, dy, 0, flags⟩] := by
  cases a with
  | none => simp
  | some dx =>
    cases b with
    | none => simp
    | some dy => simp [eq_comm]

theorem motion_iff {x y relx rely mode : Int32} {state : UInt8} {inputs : List Input} :
    (∃ mi, inputs = [.mouse mi] ∧ r.MotionInput (.mousemotion x y relx rely state mode) mi) ↔
      r.motion (sdlmsgMousemotion x y relx rely state mode) = some inputs := by
  have hmode : (sdlmsgMousemotion x y relx rely state mode).relativeMouseMode = mode.toUInt32.toUInt8 := rfl
  unfold motion
  rw [hmode]
  by_cases h0 : mode.toUInt32.toUInt8 = 0
  · rw [if_pos h0, mouse_iff]
    constructor
    · rintro ⟨mi, rfl, h⟩
      cases h with
      | absolute _ hx hy => exact ⟨_, _, r.absolute_iff.mp hx, r.absolute_iff.mp hy, rfl⟩
      | relative hmode => exact absurd (h0.symm.trans hmode) (by decide)
      | reported hmode => exact absurd (h0.symm.trans hmode) (by decide)
      | hardware hne => exact absurd h0 hne
    · rintro ⟨dx, dy, hx, hy, rfl⟩
      exact ⟨_, rfl, .absolute h0 (r.absolute_iff.mpr hx) (r.absolute_iff.mpr hy)⟩
  · rw [if_neg h0]
    by_cases h1 : mode.toUInt32.toUInt8 = 1
    · rw [if_pos h1, mouse_iff]
      constructor
      · rintro ⟨mi, rfl, h⟩
        cases h with
        | absolute hmode => exact absurd hmode h0
        | relative _ hcallback hx hy =>
          have hx := r.relative_iff.mp (by rw [hcallback]; exact hx)
          have hy := r.relative_iff.mp (by rw [hcallback]; exact hy)
          exact ⟨_, _, hx, hy, rfl⟩
        | reported _ hcallback =>
          have hx : r.relative r.scaleFactorX relx = _ := r.relative_iff.mp (by rw [hcallback]; exact rfl)
          have hy : r.relative r.scaleFactorY rely = _ := r.relative_iff.mp (by rw [hcallback]; exact rfl)
          exact ⟨_, _, hx, hy, rfl⟩
        | hardware _ hne => exact absurd h1 hne
      · rintro ⟨dx, dy, hx, hy, rfl⟩
        have hx := r.relative_iff.mpr hx
        have hy := r.relative_iff.mpr hy
        by_cases hcallback : r.callback = true
        · rw [if_pos hcallback] at hx hy
          subst hx hy
          exact ⟨_, rfl, .reported h1 hcallback⟩
        · rw [if_neg hcallback] at hx hy
          exact ⟨_, rfl, .relative h1 (Bool.eq_false_iff.mpr hcallback) hx hy⟩
    · rw [if_neg h1]
      constructor
      · rintro ⟨mi, rfl, h⟩
        cases h with
        | absolute hmode => exact absurd hmode h0
        | relative hmode => exact absurd hmode h1
        | reported hmode => exact absurd hmode h1
        | hardware => rfl
      · intro h
        obtain rfl := Option.some.inj h
        exact ⟨_, rfl, .hardware h0 h1⟩

theorem key_iff {pressed : UInt8} {scancode mod : UInt16} {key : Int32} {unicode : UInt32} {inputs : List Input} :
    r.Injects (.keyboard pressed scancode key mod unicode) inputs ↔
      r.inject (.keyboard pressed scancode key mod unicode) = some inputs := by
  simp only [inject, ← or_assoc, Option.some.injEq]
  by_cases hblocked : r.BlocksKey scancode key
  · rw [if_pos (.inl hblocked)]
    constructor
    · intro h
      cases h with
      | blocked => rfl
      | unknown hnot => exact absurd hblocked hnot
      | key hnot => exact absurd hblocked hnot
    · rintro rfl
      exact .blocked hblocked
  · cases hsym : keySym key.toInt with
    | none =>
      have hinvalid : sdlKeyToKeySym key.toInt = invalidKey := by rw [sdlKeyToKeySym_eq, hsym]; rfl
      rw [if_pos (.inr hinvalid)]
      constructor
      · intro h
        cases h with
        | blocked h => exact absurd h hblocked
        | unknown => rfl
        | key _ h => exact absurd (hsym.symm.trans h) (by simp)
      · rintro rfl
        exact .unknown hblocked hsym
    | some vk =>
      have hvk : sdlKeyToKeySym key.toInt = vk := by rw [sdlKeyToKeySym_eq, hsym]; rfl
      have hnot : ¬ ((scancode ∈ r.kb.kbScancode ∨ key.toInt ∈ r.kb.kbSdlkey) ∨ vk = invalidKey) :=
        not_or.mpr ⟨hblocked, keySym_valid hsym⟩
      rw [hvk, if_neg hnot]
      constructor
      · intro h
        cases h with
        | blocked h => exact absurd h hblocked
        | unknown _ h => exact absurd (hsym.symm.trans h) (by simp)
        | key _ h =>
          obtain rfl := Option.some.inj (hsym.symm.trans h)
          rfl
      · rintro rfl
        exact .key hblocked hsym

/-- **One message** gives the events it stands for, and none if it stands for none. -/
theorem inject_iff {e : Built} {inputs : List Input} : r.Injects e inputs ↔ r.inject e = some inputs := by
  cases e with
  | keyboard pressed scancode key mod unicode => exact r.key_iff
  | mousekey pressed button x y =>
    constructor
    · intro h
      cases h with
      | button h =>
        rw [buttonFlags_iff.mp h]
        rfl
    · intro h
      obtain rfl := Option.some.inj h
      exact .button (buttonFlags_iff.mpr rfl)
  | mousewheel x y =>
    constructor
    · intro h
      cases h with
      | wheel => rfl
    · intro h
      obtain rfl := Option.some.inj h
      exact .wheel
  | mousemotion x y relx rely state mode =>
    rw [inject, ← motion_iff]
    constructor
    · intro h
      cases h with
      | motion h => exact ⟨_, rfl, h⟩
    · rintro ⟨mi, rfl, h⟩
      exact .motion h

end Replayer

/-! ## A connection -/

/-- What a client sends: input, or a report. -/
inductive Sent where
  | input (e : Built)
  | netreport (duration framecount pktcount pktloss bytecount capacity : UInt32)
  | netreportDelay (firstDelay lastDelay estimatedBw : UInt32)

namespace Sent

/-- The words of a report. -/
def words : Sent → Option (List UInt32)
  | input _ => none
  | netreport duration framecount pktcount pktloss bytecount capacity =>
    some [duration, framecount, pktcount, pktloss, bytecount, capacity]
  | netreportDelay firstDelay lastDelay estimatedBw => some [delayMagic, firstDelay, lastDelay, estimatedBw, 3, 0]

def event : Sent → Option Built
  | input e => some e
  | _ => none

def message : Sent → List UInt8
  | input e => e.message
  | netreport duration framecount pktcount pktloss bytecount capacity =>
    ctrlsysNetreport duration framecount pktcount pktloss bytecount capacity
  | netreportDelay firstDelay lastDelay estimatedBw => ctrlsysNetreportDelay firstDelay lastDelay estimatedBw

end Sent

/-- What `ctrlsys_handle_message` comes to: input is left to the replay, and a report is given to its handler in host
order, if there is one. -/
def answer (hooks : Hooks) (m : Sent) : Bool × List UInt8 :=
  match m.words with
  | none => (false, m.message)
  | some ws =>
    (true, match hooks.handlerList ctrlMsgsysSubtypeNetreport with
      | none => m.message
      | some handler => handler (reportArrived ws))

section
variable {hooks : Hooks}

/-- Every message of a client is a report or input. -/
theorem message_cases (m : Sent) :
    (∃ e, m.event = some e ∧ m.words = none ∧ m.message = e.message) ∨
      ∃ ws : List UInt32, ws.length = 6 ∧ m.event = none ∧ m.words = some ws ∧ m.message = report ws := by
  cases m with
  | input e => exact .inl ⟨e, rfl, rfl, rfl⟩
  | netreport a b c d e f => exact .inr ⟨[a, b, c, d, e, f], rfl, rfl, rfl, rfl⟩
  | netreportDelay a b c => exact .inr ⟨[delayMagic, a, b, c, 3, 0], rfl, rfl, rfl, rfl⟩

theorem report_wellFormed {words : List UInt32} (h : words.length = 6) : WellFormed (report words) := by
  have hlen := report_length h
  exact ⟨by rw [hlen]; decide, by rw [hlen]; decide, by rw [hlen]; exact netLength_encode _ _⟩

theorem sent_wellFormed (m : Sent) : WellFormed m.message := by
  obtain ⟨e, -, -, he⟩ | ⟨ws, hws, -, -, he⟩ := message_cases m
  · rw [he]
    exact message_wellFormed e
  · rw [he]
    exact report_wellFormed hws

theorem report_head {words : List UInt32} (h : words.length = 6) :
    (report words).getD 2 0 = ctrlMsgtypeSystem ∧ (report words).getD 3 0 = ctrlMsgsysSubtypeNetreport := by
  match words, h with
  | [a, b, c, d, e, f], _ => exact ⟨rfl, rfl⟩

/-- **The handler**: what `ctrlsys_handle_message` does with a message. -/
theorem handle_sent (m : Sent) : ctrlsysHandleMessage hooks m.message = answer hooks m := by
  obtain ⟨e, -, hwords, he⟩ | ⟨ws, hws, -, hwords, he⟩ := message_cases m
  · unfold answer
    rw [hwords, he, message_not_system]
  · obtain ⟨htype, hsub⟩ := report_head hws
    unfold answer ctrlsysHandleMessage
    rw [hwords, he, report_length hws, htype, hsub, if_neg (by decide), if_neg (by decide), if_neg (by decide)]
    cases hooks.handlerList ctrlMsgsysSubtypeNetreport with
    | none => rfl
    | some handler =>
      simp only [ctrlsysNtoh_report hws]
      rfl

/-- Input is replayed. -/
theorem replays_sent (hreplay : hooks.replay.isSome) (m : Sent) : replays hooks m.message = m.event.isSome := by
  rw [replays, handle_sent, answer, hreplay]
  obtain ⟨e, hevent, hwords, -⟩ | ⟨ws, -, hevent, hwords, -⟩ := message_cases m
  · rw [hwords, hevent]
    rfl
  · rw [hwords, hevent]
    rfl

end

/-- **A control connection**: however the client's stream is cut, as long as it is cut inside a message only behind its
start, the input it sends is injected in its order, each message as the events it stands for and without blocked keys, and
every report is given to its handler in host order. -/
theorem session_replayed (r : Replayer) (hooks : Hooks) (hreplay : hooks.replay = some Replayer.hook) (mem : Nat → UInt8)
    (queue : CtrlQueue) (sent : List Sent) (segs : List (List UInt8))
    (hall : segs.flatten = (sent.map Sent.message).flatten)
    (hrecv : Meets (Server.recv hooks) Server.Received (Server.accepted mem queue) segs)
    (hcut : CutsBehindStart (sent.map Sent.message) segs) :
    let s := segs.foldl (Server.recv hooks) (Server.accepted mem queue)
    List.Forall₂ (fun msg e => ∀ inputs, r.replay msg = some inputs ↔ r.Injects e inputs) s.replayed
        (sent.filterMap Sent.event) ∧
      s.handed.map (fun h => ctrlsysHandleMessage hooks h.bytes) = sent.map (answer hooks) := by
  have hwf : ∀ m ∈ sent.map Sent.message, WellFormed m := by
    intro m hm
    obtain ⟨m', -, rfl⟩ := List.mem_map.mp hm
    exact sent_wellFormed m'
  have h0 : Server.Progress hooks (sent.map Sent.message) [] (Server.accepted mem queue) :=
    ⟨[], _, [], rfl, rfl, .inl rfl, ⟨rfl, rfl, rfl, rfl, rfl⟩⟩
  have hdone := (Server.Progress.run hwf hcut hall segs [] _ rfl h0 hrecv).complete hwf hall
  intro s
  constructor
  · rw [show s.replayed = _ from hdone.replayed, List.filter_map]
    have hfilter : sent.filter (replays hooks ∘ Sent.message) = sent.filter fun m => m.event.isSome :=
      List.filter_congr fun m _ => replays_sent (by rw [hreplay]; rfl) m
    rw [hfilter]
    clear hall hrecv hcut hwf h0 hdone hfilter s
    induction sent with
    | nil => exact .nil
    | cons m sent ih =>
      obtain ⟨e, hevent, -, he⟩ | ⟨ws, -, hevent, -, -⟩ := message_cases m
      · have hone := r.replay_message e []
        rw [List.append_nil, ← he] at hone
        have hevents : (m :: sent).filterMap Sent.event = e :: sent.filterMap Sent.event := by simp [hevent]
        have hmessages : (m :: sent).filter (fun m => m.event.isSome) = m :: sent.filter fun m => m.event.isSome := by
          simp [hevent]
        rw [hevents, hmessages]
        refine .cons (fun inputs => ?_) ih
        rw [hone, r.inject_iff]
      · have hevents : (m :: sent).filterMap Sent.event = sent.filterMap Sent.event := by simp [hevent]
        have hmessages : (m :: sent).filter (fun m => m.event.isSome) = sent.filter fun m => m.event.isSome := by
          simp [hevent]
        rw [hevents, hmessages]
        exact ih
  · rw [show s.handed = _ from hdone.handed, List.map_map, List.map_map]
    exact List.map_congr_left fun m _ => handle_sent m

/-- No key is blocked, and the clients see the screen as it is. -/
def plain : Replayer where
  kb := ⟨∅, ∅⟩
  fl := Rounding.exact
  scaleFactorX := 1
  scaleFactorY := 1
  prect := none
  cxsize := 1920
  cysize := 1080
  callback := false
  mapVirtualKey := id

/-- The letter `a`, its message cut in two, and a report. -/
theorem session_replayed_cut :
    let hooks : Hooks :=
      ⟨fun subtype => if subtype = ctrlMsgsysSubtypeNetreport then some id else none, some Replayer.hook⟩
    let sent : List Sent := [.input (.keyboard 1 4 97 0 0), .netreport 1 2 3 4 5 6]
    let key := (Built.keyboard 1 4 97 0 0).message
    let segs := [key.take 7, key.drop 7, report [1, 2, 3, 4, 5, 6]]
    let s := segs.foldl (Server.recv hooks) (Server.accepted (fun _ => 0) (CtrlQueue.init (fun _ => 0) 40 6))
    List.Forall₂ (fun msg e => ∀ inputs, plain.replay msg = some inputs ↔ plain.Injects e inputs) s.replayed
        (sent.filterMap Sent.event) ∧
      s.handed.map (fun h => ctrlsysHandleMessage hooks h.bytes) =
        [(false, key), (true, reportArrived [1, 2, 3, 4, 5, 6])] := by
  intro hooks sent key segs s
  refine session_replayed plain hooks rfl (fun _ => 0) (CtrlQueue.init (fun _ => 0) 40 6) sent segs ?_ ?_ ?_
  · decide +kernel
  · exact ⟨⟨by decide, by decide⟩, ⟨by decide, by decide +kernel⟩, ⟨by decide, by decide +kernel⟩, trivial⟩
  · intro pre _ done m rest he _ _
    rcases done with _ | ⟨d, _ | ⟨d', done⟩⟩
    · exact ⟨[], List.nil_prefix, rfl⟩
    · have hd : key = d := (List.cons.inj he).1
      rw [← hd]
      exact ⟨[key.take 7, key.drop 7], by decide, by decide⟩
    · have hlen := congrArg List.length he
      simp [sent] at hlen

end Replay

end CloudStreaming.Streamer
