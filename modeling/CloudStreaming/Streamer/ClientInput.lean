import CloudStreaming.Lib.Scaling
import CloudStreaming.Streamer.ClientMessages
import CloudStreaming.Streamer.SdlController

/-!
# Input of the Windows client (`apps/webrtc-client/control-handler.cc`, `ga-option.cc:55-160`)

`InputEventHandler` makes a JSON message of everything the client's window receives, and the server's SDL controller makes
input of it again. A position goes through three scales on its way: from the client's window to 32767, from there to the
server's display, and from the display to the 65536 of `SendInput`.

| here | there |
| --- | --- |
| `ClientEvent`   | a call of a function of `InputEventHandler`; raw input gives `key` any message |
| `message`       | the JSON that is sent; `none` if a conversion to `int` is undefined |
| `Window`        | the size of the client's window, and `screen_scale_factor_` |
| `onMessageReceived` | `ICSP2PClient::OnMessageReceived` of a Windows build (`ics-p2p-client.cpp:467-567`), for JSON |

What one library writes the other reads as the same value; the text is left out. So are the time of the event that the
encoder is told (`ics-p2p-client.cpp:569-601`), and `send_blocked_`, which no input depends on.
-/

namespace CloudStreaming.Streamer.ClientInput

open SdlMessages Replay Sdl

inductive Button where
  | left
  | middle
  | right
  deriving DecidableEq

inductive ClientEvent where
  | key (wParam msg : Nat)
  | move (x y : Int)
  | button (b : Button) (down : Bool) (x y : Int)
  | wheel (delta x y : Int)
  | sizeChange (width height : Nat)
  | pointerlock (locked : Bool)
  | stats (ts size delay startDelay loss : Int) (latency : Nat)

structure Window where
  width : Int
  height : Int
  scale : Rat

def wmKeydown : Nat := 0x100
def wmKeyup : Nat := 0x101

/-- `(int)` of a `float`. -/
def toInt (q : Rat) : Option Int :=
  let t := Rounding.trunc q
  if -2147483648 ≤ t ∧ t < 2147483648 then some t else none

section
variable (fl : Rounding Rat 24) (win : Window)

/-- A coordinate (`control-handler.cc:58-59`). -/
def coordinate (pos size : Int) : Option Int :=
  if size = 0 then none
  else toInt (fl.round (fl.round (fl.round (fl.round pos * win.scale) / fl.round size) * 32767))

def control (data : List (String × Json)) : Json := .obj [("type", .str "control"), ("data", .obj data)]

/-- `OnKeyboardEvent` (`:15`): a message that is neither of the two has no event. -/
def onKeyboardEvent (wParam msg : Nat) : Json :=
  let event :=
    if msg = wmKeydown then [("event", .str "keydown")] else if msg = wmKeyup then [("event", .str "keyup")] else []
  control (event ++ [("parameters", .obj [("which", .int wParam)])])

/-- The fields of every mouse event (`:64-67`). -/
def mouseFields (x y : Int) : List (String × Json) :=
  [("x", .int x), ("y", .int y), ("movementX", .int x), ("movementY", .int y)]

/-- `OnMouseEvent` (`:48`). -/
def onMouseEvent (event : String) (extra : List (String × Json)) (x y : Int) : Option Json := do
  let x ← coordinate fl win x win.width
  let y ← coordinate fl win y win.height
  pure (control [("event", .str event), ("parameters", .obj (mouseFields x y ++ extra))])

def Button.which : Button → Int
  | left => 1
  | middle => 2
  | right => 3

def sizeFields (width height : Int) : Json :=
  .obj [("mode", .str "stretch"), ("rendererSize", .obj [("width", .int width), ("height", .int height)])]

/-- `OnSizeChange` (`:124`): here the scale is at least one. -/
def onSizeChange (width height : Nat) : Option Json := do
  let scale := if win.scale ≥ 1 then win.scale else 1
  let x ← toInt (fl.round (fl.round width * scale))
  let y ← toInt (fl.round (fl.round height * scale))
  pure (control [("event", .str "sizechange"), ("parameters", sizeFields x y)])

/-- `onPointerlockchange` (`:159`). -/
def onPointerlockchange (locked : Bool) : Json :=
  control [("event", .str "pointerlockchange"), ("parameters", .obj [("locked", .bool locked)])]

/-- `OnStatsRequest` (`:182`). -/
def onStatsRequest (ts size delay startDelay loss : Int) (latency : Nat) : Json :=
  control [("event", .str "framestats"), ("parameters", .obj
    ([("framets", .int ts), ("framesize", .int size), ("framedelay", .int delay), ("framestartdelay", .int startDelay),
      ("packetloss", .int loss)] ++ if latency > 0 then [("E2ELatency", .int latency)] else []))]

def message : ClientEvent → Option Json
  | .key wParam msg => some (onKeyboardEvent wParam msg)
  | .move x y => onMouseEvent fl win "mousemove" [] x y
  | .button b down x y => onMouseEvent fl win (if down then "mousedown" else "mouseup") [("which", .int b.which)] x y
  | .wheel delta x y => onMouseEvent fl win "wheel" [("deltaX", .int 0), ("deltaY", .int delta), ("deltaZ", .int 0)] x y
  | .sizeChange width height => onSizeChange fl win width height
  | .pointerlock locked => some (onPointerlockchange locked)
  | .stats ts size delay startDelay loss latency => some (onStatsRequest ts size delay startDelay loss latency)

end

/-- `OnMessageReceived`: the statistics stay with the encoder, everything else goes to the controller. -/
def onMessageReceived (cenv : ClientMessages.Env) (env : Env) (r : Replayer) (c : SdlController) (j : Json) :
    Except Fault (SdlController × List Input) := do
  match ← header j with
  | some ("framestats", param) => do
    let _ ← orThrow (ClientMessages.frameStats cenv param)
    pure (c, [])
  | _ => pushClientEvent env r c j

/-- The messages of a run, one after the other. -/
def session (cenv : ClientMessages.Env) (env : Env) (r : Replayer) :
    SdlController → List Json → Except Fault (SdlController × List (List Input))
  | c, [] => .ok (c, [])
  | c, j :: js => do
    let (c, inputs) ← onMessageReceived cenv env r c j
    let (c, rest) ← session cenv env r c js
    pure (c, inputs :: rest)

/-! ## Positions -/

/-- A position of the client's window on the server's display, in pixels. -/
def pixel (env : Env) (size display pos : Int) : Int :=
  env.double.scaled (env.float.scaled pos size 32767) 32767 display

/-- The same in the coordinates of `SendInput`. -/
def normalized (env : Env) (size display pos : Int) : Int := 65536 * pixel env size display pos / display

section
variable {env : Env} {r : Replayer} {win : Window} {size display pos : Int}

/-- The client's scale, for a window at the scale of the screen. -/
theorem coordinate_eq (fl : Rounding Rat 24) (hscale : win.scale = 1) (h0 : 0 ≤ pos) (hpos : pos ≤ size)
    (hsize : 0 < size) (hmax : size ≤ 2 ^ 24) : coordinate fl win pos size = some (fl.scaled pos size 32767) := by
  have hp : |pos| ≤ 2 ^ 24 := by rw [abs_of_nonneg h0]; omega
  have hs : |size| ≤ 2 ^ 24 := by rw [abs_of_pos hsize]; exact hmax
  obtain ⟨hlo, hhi⟩ := fl.scaled_mem h0 hpos hsize (m := 32767) (by norm_num) (by norm_num)
  have hval : Rounding.trunc (fl.round (fl.round (fl.round (fl.round (pos : Rat) * win.scale) / fl.round size) * 32767)) =
      fl.scaled pos size 32767 := by
    rw [hscale, mul_one, fl.round_int hp, fl.round_int hp, fl.round_int hs]
    rfl
  rw [coordinate, if_neg hsize.ne', toInt]
  simp only [hval]
  rw [if_pos (by omega)]

/-- The controller's scale. -/
theorem calcuateMousePosition_eq {c : Int} (h0 : 0 ≤ c) (hc : c ≤ 32767) (hd : 0 ≤ display)
    (hmax : display < 2147483648) :
    calcuateMousePosition env c display = .ok (env.double.scaled c 32767 display) := by
  obtain ⟨hlo, hhi⟩ := env.double.scaled_mem h0 hc (m := display) (by norm_num) hd (by omega)
  have hval : Rounding.trunc (env.double.round (env.double.round ((c : Rat) / 32767) * display)) =
      env.double.scaled c 32767 display := rfl
  rw [calcuateMousePosition, Sdl.int32]
  simp only [hval]
  rw [if_pos (by omega)]

/-- The replayer's scale. -/
theorem absolute_eq {p : Int} (h0 : 0 ≤ p) (hp : p ≤ display) (hd : 0 < display) (hmax : display ≤ 65535) :
    r.absolute 1 none (.ofInt p) display.toNat = some (.ofInt (65536 * p / display)) := by
  have hx : (Int32.ofInt p).toInt = p := Int32.toInt_ofInt_of_le (by omega) (by omega)
  have hone : r.fl.round (65536 * 1 : Rat) = ((65536 : ℤ) : Rat) := by
    have h := r.fl.round_int (n := 65536) (by norm_num)
    rw [mul_one]
    exact_mod_cast h
  have hpos : r.position 1 none (.ofInt p) = ((65536 * p : ℤ) : Rat) := by
    rw [Replayer.position, hone, hx, ← Int.cast_mul, r.fl.round_int (by rw [abs_of_nonneg (by omega)]; omega)]
  have hdword : dword ((65536 * p : ℤ) : Rat) = some (65536 * p).toNat := by
    simp only [dword, Rounding.trunc_intCast]
    rw [if_pos (by omega)]
  have hdiv : (((65536 * p).toNat / display.toNat : ℕ) : ℤ) = 65536 * p / display := by
    rw [Int.natCast_ediv, Int.toNat_of_nonneg (by omega), Int.toNat_of_nonneg hd.le]
  rw [Replayer.absolute, hpos, hdword]
  show (if display.toNat = 0 then none else some (Int32.ofNat ((65536 * p).toNat / display.toNat))) = _
  rw [if_neg (by omega), ← hdiv]
  rfl

variable (env) in
theorem pixel_mem (h0 : 0 ≤ pos) (hpos : pos ≤ size) (hsize : 0 < size) (hd : 0 ≤ display) (hmax : display ≤ 65535) :
    0 ≤ pixel env size display pos ∧ pixel env size display pos ≤ display := by
  obtain ⟨hlo, hhi⟩ := env.float.scaled_mem h0 hpos hsize (m := 32767) (by norm_num) (by norm_num)
  exact env.double.scaled_mem hlo hhi (by norm_num) hd (by omega)

theorem normalized_mono {pos' : Int} (h0 : 0 ≤ pos) (hle : pos ≤ pos') (hpos : pos' ≤ size) (hsize : 0 < size)
    (hd : 0 < display) : normalized env size display pos ≤ normalized env size display pos' := by
  have hfirst := env.float.scaled_mono h0 hle hsize (m := 32767) (by norm_num)
  have hlo := (env.float.scaled_mem h0 (hle.trans hpos) hsize (m := 32767) (by norm_num) (by norm_num)).1
  have hsecond := env.double.scaled_mono hlo hfirst (n := 32767) (by norm_num) hd.le
  exact Int.ediv_le_ediv hd (Int.mul_le_mul_of_nonneg_left hsecond (by norm_num))

theorem normalized_zero : normalized env size display 0 = 0 := by
  simp [normalized, pixel, Rounding.scaled_zero]

theorem normalized_full (hsize : 0 < size) (hd : 0 < display) (hmax : display ≤ 65535) :
    normalized env size display size = 65536 := by
  rw [normalized, pixel, env.float.scaled_full hsize (by norm_num) (by norm_num),
    env.double.scaled_full (by norm_num) hd.le (by omega)]
  exact Int.mul_ediv_cancel _ hd.ne'

end

/-! ## What arrives -/

/-- The plain setup: a client's window at the scale 1, a display that the controller measures, and a replay that neither
scales nor crops, on a screen of that size. -/
structure Setup (env : Env) (r : Replayer) (win : Window) (dw dh : Int) : Prop where
  scale : win.scale = 1
  width : 0 < win.width ∧ win.width ≤ 2 ^ 24
  height : 0 < win.height ∧ win.height ≤ 2 ^ 24
  bounds : env.windowBounds = some (dw, dh)
  displayWidth : 0 < dw ∧ dw ≤ 65535
  displayHeight : 0 < dh ∧ dh ≤ 65535
  scaleFactor : r.scaleFactorX = 1 ∧ r.scaleFactorY = 1
  prect : r.prect = none
  screen : r.cxsize = dw.toNat ∧ r.cysize = dh.toNat

/-- A position in the window. -/
def Window.Contains (win : Window) (x y : Int) : Prop := (0 ≤ x ∧ x ≤ win.width) ∧ 0 ≤ y ∧ y ≤ win.height

/-- What a window receives: positions in it, and numbers that a `float` has. -/
def Inside (win : Window) : ClientEvent → Prop
  | .move x y => win.Contains x y
  | .button _ _ x y => win.Contains x y
  | .wheel delta x y => win.Contains x y ∧ |delta| ≤ 2 ^ 24
  | .sizeChange width height => width ≤ 2 ^ 24 ∧ height ≤ 2 ^ 24
  | _ => True

/-- The keys: a known key is its own virtual key, unless it is blocked; other keys are nothing. -/
def keyInputs (r : Replayer) (wParam msg : Nat) : List Input :=
  let which := ((wParam % 4294967296 : Nat) : Int).bmod 4294967296
  if msg = wmKeydown ∨ msg = wmKeyup then
    match knownKey which with
    | some (keyCode, scanCode) =>
      if scanCode ∈ r.kb.kbScancode ∨ (Int32.ofInt keyCode).toInt ∈ r.kb.kbSdlkey then []
      else [.keyboard (virtualKey which) (r.mapVirtualKey (virtualKey which)) (msg = wmKeyup)]
    | none => []
  else []

def Button.flags : Button → Bool → UInt32
  | left, down => if down then 0x0002 else 0x0004
  | middle, down => if down then 0x0020 else 0x0040
  | right, down => if down then 0x0008 else 0x0010

/-- The input that an event of the client becomes. -/
def injected (env : Env) (r : Replayer) (win : Window) (dw dh : Int) : ClientEvent → List Input
  | .key wParam msg => keyInputs r wParam msg
  | .move x y =>
    [.mouse ⟨.ofInt (normalized env win.width dw x), .ofInt (normalized env win.height dh y), 0, 0x8001⟩]
  | .button b down _ _ => [.mouse ⟨0, 0, 0, b.flags down⟩]
  | .wheel delta _ _ => Replayer.notch (.ofInt delta)
  | _ => []

/-- The controller between two messages: nothing is left of the wheel. -/
structure Ready (dw dh : Int) (c : SdlController) : Prop where
  displayWidth : c.displayWidth = dw
  displayHeight : c.displayHeight = dh
  accumulatedWheelX : c.accumulatedWheelX = 0
  accumulatedWheelY : c.accumulatedWheelY = 0

section
variable {cenv : ClientMessages.Env} {env : Env} {r : Replayer} {win : Window} {dw dh : Int} {c : SdlController}

theorem header_control (event : String) (param : Json) :
    header (control [("event", .str event), ("parameters", param)]) = .ok (some (event, param)) := by
  simp [header, control, Json.index, List.lookup_cons, orThrow, Json.isObject]
  rfl

theorem convert_control (event : String) (param : Json) :
    convertToSdlMessage env c (control [("event", .str event), ("parameters", param)]) = handleEvent env c event param := by
  rw [convertToSdlMessage, header_control]
  rfl

/-- What is not statistics goes to the controller. -/
theorem received_control {event : String} (hne : event ≠ "framestats") (param : Json) :
    onMessageReceived cenv env r c (control [("event", .str event), ("parameters", param)]) =
      pushClientEvent env r c (control [("event", .str event), ("parameters", param)]) := by
  unfold onMessageReceived
  rw [header_control]
  show (match (some (event, param) : Option (String × Json)) with
    | some ("framestats", param) => _
    | _ => _) = _
  split
  next heq => exact absurd (Prod.mk.inj (Option.some.inj heq)).1 hne
  next => rfl

/-- An event that builds a message. -/
theorem received_some {event : String} {param : Json} {c' : SdlController} {m : Built} {inputs : List Input}
    (hne : event ≠ "framestats") (h : handleEvent env c event param = .ok (c', some m)) (hm : r.inject m = some inputs) :
    onMessageReceived cenv env r c (control [("event", .str event), ("parameters", param)]) = .ok (c', inputs) := by
  have hreplay : r.replay m.message = some inputs := by
    have h := r.replay_message m []
    rwa [List.append_nil, hm] at h
  rw [received_control hne, pushClientEvent, convert_control, h]
  simp only [Except.bind, bind, hreplay]
  rfl

/-- A mouse event carries its position, scaled to the window. -/
theorem onMouseEvent_eq (hs : Setup env r win dw dh) {x y : Int} (hin : win.Contains x y) (event : String)
    (extra : List (String × Json)) :
    onMouseEvent env.float win event extra x y =
      some (control [("event", .str event), ("parameters", .obj
        (mouseFields (env.float.scaled x win.width 32767) (env.float.scaled y win.height 32767) ++ extra))]) := by
  obtain ⟨⟨hx0, hx⟩, hy0, hy⟩ := hin
  rw [onMouseEvent, coordinate_eq env.float hs.scale hx0 hx hs.width.1 hs.width.2,
    coordinate_eq env.float hs.scale hy0 hy hs.height.1 hs.height.2]
  rfl

theorem getInt32_of_mem {n : Int} (h0 : 0 ≤ n) (h : n ≤ 32767) : (Json.int n).getInt32 = some n := by
  rw [Json.getInt32_int, Int.bmod_def]
  congr 1
  omega

/-- The position is read back and scaled to the display. -/
theorem mousePosition_eq (hs : Setup env r win dw dh) (hready : Ready dw dh c) {x y : Int} (hin : win.Contains x y)
    (extra : List (String × Json)) :
    mousePosition env c (.obj
      (mouseFields (env.float.scaled x win.width 32767) (env.float.scaled y win.height 32767) ++ extra)) =
      .ok (pixel env win.width dw x, pixel env win.height dh y) := by
  obtain ⟨⟨hx0, hx⟩, hy0, hy⟩ := hin
  obtain ⟨hcx0, hcx⟩ := env.float.scaled_mem hx0 hx hs.width.1 (m := 32767) (by norm_num) (by norm_num)
  obtain ⟨hcy0, hcy⟩ := env.float.scaled_mem hy0 hy hs.height.1 (m := 32767) (by norm_num) (by norm_num)
  generalize hcxe : env.float.scaled x win.width 32767 = cx at hcx0 hcx
  generalize hcye : env.float.scaled y win.height 32767 = cy at hcy0 hcy
  have hrx : (Json.obj (mouseFields cx cy ++ extra)).read Json.getInt32 "x" = some cx := getInt32_of_mem hcx0 hcx
  have hry : (Json.obj (mouseFields cx cy ++ extra)).read Json.getInt32 "y" = some cy := getInt32_of_mem hcy0 hcy
  have hdw := hs.displayWidth
  have hdh := hs.displayHeight
  rw [mousePosition, hrx, hry]
  show (do
    let px ← calcuateMousePosition env cx c.displayWidth
    let py ← calcuateMousePosition env cy c.displayHeight
    pure (px, py)) = _
  rw [hready.displayWidth, hready.displayHeight, calcuateMousePosition_eq hcx0 hcx (by omega) (by omega),
    calcuateMousePosition_eq hcy0 hcy (by omega) (by omega), pixel, pixel, hcxe, hcye]
  rfl

/-- A motion is injected at its place on the display. -/
theorem move_inject (hs : Setup env r win dw dh) {x y : Int} (hin : win.Contains x y) :
    r.inject (.mousemotion (.ofInt (pixel env win.width dw x)) (.ofInt (pixel env win.height dh y)) 0 0 0 0) =
      some [.mouse ⟨.ofInt (normalized env win.width dw x), .ofInt (normalized env win.height dh y), 0, 0x8001⟩] := by
  obtain ⟨⟨hx0, hx⟩, hy0, hy⟩ := hin
  obtain ⟨hpx0, hpx⟩ := pixel_mem env hx0 hx hs.width.1 hs.displayWidth.1.le hs.displayWidth.2
  obtain ⟨hpy0, hpy⟩ := pixel_mem env hy0 hy hs.height.1 hs.displayHeight.1.le hs.displayHeight.2
  have hdx := absolute_eq (r := r) hpx0 hpx hs.displayWidth.1 hs.displayWidth.2
  have hdy := absolute_eq (r := r) hpy0 hpy hs.displayHeight.1 hs.displayHeight.2
  have hmode : ∀ px py : Int32, (sdlmsgMousemotion px py 0 0 0 0).relativeMouseMode = 0 := fun _ _ => rfl
  rw [Replayer.inject, Replayer.motion, if_pos (hmode _ _), hs.prect, hs.scaleFactor.1, hs.scaleFactor.2,
    hs.screen.1, hs.screen.2]
  show ((r.absolute 1 none (.ofInt (pixel env win.width dw x)) dw.toNat).bind fun dx =>
    (r.absolute 1 none (.ofInt (pixel env win.height dh y)) dh.toNat).bind fun dy =>
      some [Input.mouse ⟨dx, dy, 0, 0x8001⟩]) = _
  rw [hdx, hdy]
  rfl

variable (cenv) in
/-- **A motion.** -/
theorem move_received (hs : Setup env r win dw dh) (hready : Ready dw dh c) {x y : Int} (hin : win.Contains x y) :
    ∃ j, message env.float win (.move x y) = some j ∧
      onMessageReceived cenv env r c j = .ok (c, injected env r win dw dh (.move x y)) := by
  refine ⟨_, onMouseEvent_eq hs hin "mousemove" [], received_some (by decide) ?_ (move_inject hs hin)⟩
  rw [handleEvent, if_pos rfl, mouseMove, mousePosition_eq hs hready hin]
  rfl

end

/-- A scale that keeps the order of the positions and brings the window's edges to the screen's. -/
structure Scale (f : Int → Int) (size : Int) : Prop where
  zero : f 0 = 0
  full : f size = 65536
  mono : ∀ pos pos', 0 ≤ pos → pos ≤ pos' → pos' ≤ size → f pos ≤ f pos'

/-- **Where the pointer goes**: in the setup above, through all roundings of the client, the controller and the replayer,
the positions of the window keep their order on the screen, and its edges come to the edges of the screen. -/
theorem pointer_scales (cenv : ClientMessages.Env) {env : Env} {r : Replayer} {win : Window} {dw dh : Int}
    (hs : Setup env r win dw dh) :
    ∃ f g : Int → Int, Scale f win.width ∧ Scale g win.height ∧
      ∀ c, Ready dw dh c → ∀ x y, win.Contains x y →
        ∃ j, message env.float win (.move x y) = some j ∧
          onMessageReceived cenv env r c j = .ok (c, [.mouse ⟨.ofInt (f x), .ofInt (g y), 0, 0x8001⟩]) := by
  refine ⟨normalized env win.width dw, normalized env win.height dh, ?_, ?_, fun c hready x y hin => ?_⟩
  · exact ⟨normalized_zero, normalized_full hs.width.1 hs.displayWidth.1 hs.displayWidth.2,
      fun pos pos' h0 hle hpos => normalized_mono h0 hle hpos hs.width.1 hs.displayWidth.1⟩
  · exact ⟨normalized_zero, normalized_full hs.height.1 hs.displayHeight.1 hs.displayHeight.2,
      fun pos pos' h0 hle hpos => normalized_mono h0 hle hpos hs.height.1 hs.displayHeight.1⟩
  · exact move_received _ hs hready hin

/-- A window of the size of the display. -/
theorem plain_setup : Setup plainEnv plain ⟨1280, 720, 1⟩ 1920 1080 where
  scale := rfl
  width := by decide
  height := by decide
  bounds := rfl
  displayWidth := by decide
  displayHeight := by decide
  scaleFactor := ⟨rfl, rfl⟩
  prect := rfl
  screen := ⟨rfl, rfl⟩

theorem pointer_scales_plain :
    ∃ f g : Int → Int, Scale f 1280 ∧ Scale g 720 ∧
      ∀ c, Ready 1920 1080 c → ∀ x y, Window.Contains ⟨1280, 720, 1⟩ x y →
        ∃ j, message plainEnv.float ⟨1280, 720, 1⟩ (.move x y) = some j ∧
          onMessageReceived ClientMessages.idle plainEnv plain c j = .ok (c, [.mouse ⟨.ofInt (f x), .ofInt (g y), 0, 0x8001⟩]) :=
  pointer_scales ClientMessages.idle plain_setup

end CloudStreaming.Streamer.ClientInput
