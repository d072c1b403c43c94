import CloudStreaming.Lib.Carry
import CloudStreaming.Lib.Json
import CloudStreaming.Streamer.Replay

/-!
# The SDL controller (`server-webrtc/ga-controller-sdl.cpp`)

Input of a web client comes as JSON. `ConvertToSdlMessage` reads the event and its parameters, and calls the function that
builds the message; `PushClientEvent` gives the message to `sdlmsg_replay`. A key is looked up twice, in `key_map` here and
in `keymap` there; a pointer is scaled twice, from 32767 to the display here and from the display to 65536 there; what the
wheel turns is added up here and given away in whole units.

| here | there |
| --- | --- |
| `SdlController`  | the members that are read: the size of the display and of the renderer, what the wheels have left |
| `Env`            | the arithmetic of `float` and `double`, and what `ga_window_bounds` returns |
| `Fault`          | an exception of the JSON library, which nothing catches, or a conversion that is undefined |
| `Json`           | the message after `json::parse` |

The paddings, the mode and the position of the mouse are written and never read; they are left out, with `latency_msg`.
-/

namespace CloudStreaming.Streamer

open KeyBlock SdlMessages Replay

namespace Sdl

inductive Fault where
  | thrown
  | undefined
  deriving DecidableEq

structure SdlController where
  displayWidth : Int
  displayHeight : Int
  rendererWidth : Nat
  rendererHeight : Nat
  accumulatedWheelX : Rat
  accumulatedWheelY : Rat
  deriving DecidableEq

structure Env where
  float : Rounding Rat 24
  double : Rounding Rat 53
  /-- The size of the display, if the call succeeds. -/
  windowBounds : Option (Int × Int)

/-- `key_map` (`:24-123`): for a key code of the web client the SDL key code and scancode. -/
def keyMap : List (Int × (Int × UInt16)) :=
  let named : List (Int × (Int × UInt16)) :=
    [(8, (8, 42)), (9, (9, 43)), (18, (keycodeOf 226, 226)), (19, (keycodeOf 72, 72)), (20, (keycodeOf 57, 57)),
      (33, (keycodeOf 75, 75)), (34, (keycodeOf 78, 78)), (35, (keycodeOf 77, 77)), (36, (keycodeOf 74, 74)),
      (44, (keycodeOf 70, 70)), (45, (keycodeOf 73, 73)), (46, (127, 76)), (91, (keycodeOf 227, 227)),
      (92, (keycodeOf 231, 231)), (96, (keycodeOf 98, 98)), (97, (keycodeOf 89, 89)), (98, (keycodeOf 90, 90)),
      (99, (keycodeOf 91, 91)), (100, (keycodeOf 92, 92)), (101, (keycodeOf 93, 93)), (102, (keycodeOf 94, 94)),
      (103, (keycodeOf 95, 95)), (104, (keycodeOf 96, 96)), (105, (keycodeOf 97, 97)), (106, (keycodeOf 85, 85)),
      (107, (keycodeOf 87, 87)), (108, (keycodeOf 88, 88)), (109, (keycodeOf 86, 86)), (110, (keycodeOf 99, 99)),
      (111, (keycodeOf 84, 84)), (144, (keycodeOf 83, 83)), (145, (keycodeOf 71, 71)), (164, (keycodeOf 226, 226)),
      (165, (keycodeOf 230, 230)), (186, (59, 51)), (187, (61, 46)), (188, (44, 54)), (189, (45, 45)), (190, (46, 55)),
      (191, (47, 56)), (192, (96, 53)), (219, (91, 47)), (220, (92, 49)), (221, (93, 48)), (222, (39, 52)),
      (13, (13, 40)), (16, (keycodeOf 225, 225)), (17, (keycodeOf 224, 224)), (27, (27, 41)), (32, (32, 44)),
      (37, (keycodeOf 80, 80)), (38, (keycodeOf 82, 82)), (39, (keycodeOf 79, 79)), (40, (keycodeOf 81, 81))]
  -- 0-9: the scancode of 0 is behind that of 9
  let digits := (List.range 10).map fun i : Nat =>
    ((48 + i : Int), ((48 + i : Int), UInt16.ofNat (if i = 0 then 39 else 29 + i)))
  let letters := (List.range 26).map fun i : Nat => ((65 + i : Int), ((97 + i : Int), UInt16.ofNat (4 + i)))
  let functions := (List.range 12).map fun i : Nat => ((112 + i : Int), (keycodeOf (58 + i), UInt16.ofNat (58 + i)))
  named ++ digits ++ letters ++ functions

/-- The library throws where there is no value. -/
def orThrow {α : Type} (o : Option α) : Except Fault α := o.elim (.error .thrown) .ok

/-- A `double` as an `int32_t`. -/
def int32 (q : Rat) : Except Fault Int :=
  let t := Rounding.trunc q
  if -2147483648 ≤ t ∧ t < 2147483648 then .ok t else .error .undefined

/-- `CalcuateMousePosition` (`:126`), one coordinate. -/
def calcuateMousePosition (env : Env) (mouse display : Int) : Except Fault Int :=
  int32 (env.double.round (env.double.round (mouse / 32767) * display))

/-- `CalculatePaddings` (`:286`). -/
def calculatePaddings (env : Env) (c : SdlController) : SdlController :=
  match env.windowBounds with
  | none =>
    { c with
      displayWidth := (c.rendererWidth : Int).bmod 4294967296
      displayHeight := (c.rendererHeight : Int).bmod 4294967296 }
  | some (width, height) => { c with displayWidth := width, displayHeight := height }

/-- `SdlController::SdlController` (`:145`). -/
def init (env : Env) : SdlController := calculatePaddings env ⟨0, 0, 1280, 720, 0, 0⟩

/-- One axis of the wheel (`:257-275`): the units given, and what is left of `accumulated_wheel`. -/
def wheelAxis (env : Env) (accumulated delta : Rat) : Except Fault (Rat × Int) :=
  let (rest, integral) := Carry.step env.float accumulated delta
  if -2147483648 ≤ integral ∧ integral < 2147483648 then .ok (rest, integral) else .error .undefined

/-- The header of a control message (`:177-191`), and its parameters; `none` is a message of another kind. -/
def header (j : Json) : Except Fault (Option (String × Json)) := do
  match ← orThrow (j.index "type") with
  | .str "control" => do
    let data ← orThrow (j.index "data")
    if data.isObject then do
      match ← orThrow (data.index "event") with
      | .str event => do
        let param ← orThrow (data.index "parameters")
        pure (some (event, param))
      | _ => pure none
    else pure none
  | _ => pure none

section
variable (env : Env)

/-- The position of the mouse in the display (`:195-198`, `:206-208`). -/
def mousePosition (c : SdlController) (param : Json) : Except Fault (Int × Int) := do
  let x ← orThrow (param.read Json.getInt32 "x")
  let y ← orThrow (param.read Json.getInt32 "y")
  let px ← calcuateMousePosition env x c.displayWidth
  let py ← calcuateMousePosition env y c.displayHeight
  pure (px, py)

/-- "mousemove" (`:192-199`). -/
def mouseMove (c : SdlController) (param : Json) : Except Fault Built := do
  let (x, y) ← mousePosition env c param
  pure (.mousemotion (.ofInt x) (.ofInt y) 0 0 0 0)

/-- "mouseup" and "mousedown" (`:200-213`). -/
def mouseKey (c : SdlController) (param : Json) (pressed : Bool) : Except Fault (Option Built) :=
  if param.size < 3 then pure none
  else do
    let (x, y) ← mousePosition env c param
    let which ← orThrow (param.read Json.getUInt32 "which")
    pure (some (.mousekey (if pressed then 1 else 0) (.ofNat which) (.ofInt x) (.ofInt y)))

/-- "keydown" and "keyup" (`:214-238`). -/
def key (param : Json) (pressed : Bool) : Except Fault (Option Built) := do
  let which ← orThrow (param.read Json.getUInt32 "which")
  pure ((keyMap.lookup ((which : Int).bmod 4294967296)).map fun (keyCode, scanCode) =>
    .keyboard (if pressed then 1 else 0) scanCode (.ofInt keyCode) 0 0)

/-- "sizechange" (`:239-253`). -/
def sizeChange (c : SdlController) (param : Json) : Except Fault SdlController := do
  let videoSize ← orThrow (param.index "rendererSize")
  let height ← orThrow (videoSize.read Json.getUInt32 "height")
  let width ← orThrow (videoSize.read Json.getUInt32 "width")
  let _ ← orThrow (param.read Json.getString "mode")
  pure (calculatePaddings env { c with rendererHeight := height, rendererWidth := width })

/-- "wheel" (`:254-279`). -/
def wheel (c : SdlController) (param : Json) : Except Fault (SdlController × Built) := do
  let x ← orThrow (param.read Json.arithmetic "deltaX")
  let y ← orThrow (param.read Json.arithmetic "deltaY")
  let (restX, integralX) ← wheelAxis env c.accumulatedWheelX (env.float.round x)
  let (restY, integralY) ← wheelAxis env c.accumulatedWheelY (env.float.round y)
  pure ({ c with accumulatedWheelX := restX, accumulatedWheelY := restY },
    .mousewheel (.ofInt integralX) (.ofInt integralY))

/-- The branch of an event: the controller, and the message that is built, if one is. -/
def handleEvent (c : SdlController) (event : String) (param : Json) : Except Fault (SdlController × Option Built) :=
  if event = "mousemove" then do pure (c, some (← mouseMove env c param))
  else if event = "mouseup" ∨ event = "mousedown" then do pure (c, ← mouseKey env c param (event = "mousedown"))
  else if event = "keydown" ∨ event = "keyup" then do pure (c, ← key param (event = "keydown"))
  else if event = "sizechange" then do pure (← sizeChange env c param, none)
  else if event = "wheel" then do
    let (c, m) ← wheel env c param
    pure (c, some m)
  else pure (c, none)

/-- `ConvertToSdlMessage` (`:175`). -/
def convertToSdlMessage (c : SdlController) (j : Json) : Except Fault (SdlController × Option Built) := do
  match ← header j with
  | none => pure (c, none)
  | some (event, param) => handleEvent env c event param

/-- `PushClientEvent` (`:166`): the controller, and the events that are injected. -/
def pushClientEvent (r : Replayer) (c : SdlController) (j : Json) : Except Fault (SdlController × List Input) := do
  match ← convertToSdlMessage env c j with
  | (c, none) => pure (c, [])
  | (c, some m) => do
    match r.replay m.message with
    | some inputs => pure (c, inputs)
    | none => .error .undefined

end

/-! ## Keys -/

/-- A key that has no character has the key code of its scancode. -/
def scancodeKey (scancode : Int) : Int × UInt16 := (0x40000000 + scancode, .ofInt scancode)

/-- The known keys that are not letters, digits or function keys: backspace, tab, return, escape, space and delete; shift,
control, alt and the system keys; pause and the locks; the arrows and the keys above them; the keypad's operators; the
punctuation of the US layout. -/
def namedKeys : List (Int × (Int × UInt16)) :=
  [(8, (8, 42)), (9, (9, 43)), (13, (13, 40)), (27, (27, 41)), (32, (32, 44)), (46, (127, 76)),
    (16, scancodeKey 225), (17, scancodeKey 224), (18, scancodeKey 226), (91, scancodeKey 227), (92, scancodeKey 231),
    (164, scancodeKey 226), (165, scancodeKey 230),
    (19, scancodeKey 72), (20, scancodeKey 57), (144, scancodeKey 83), (145, scancodeKey 71), (44, scancodeKey 70),
    (33, scancodeKey 75), (34, scancodeKey 78), (35, scancodeKey 77), (36, scancodeKey 74), (37, scancodeKey 80),
    (38, scancodeKey 82), (39, scancodeKey 79), (40, scancodeKey 81), (45, scancodeKey 73),
    (106, scancodeKey 85), (107, scancodeKey 87), (108, scancodeKey 88), (109, scancodeKey 86), (110, scancodeKey 99),
    (111, scancodeKey 84),
    (186, (59, 51)), (187, (61, 46)), (188, (44, 54)), (189, (45, 45)), (190, (46, 55)), (191, (47, 56)), (192, (96, 53)),
    (219, (91, 47)), (220, (92, 49)), (221, (93, 48)), (222, (39, 52))]

/-- The known keys: for the code of the client, the key code of SDL, which of a letter is the lower case, and the
scancode. -/
def knownKey (which : Int) : Option (Int × UInt16) :=
  if 65 ≤ which ∧ which ≤ 90 then some (which + 32, .ofInt (which - 61))
  else if which = 48 then some (48, 39)
  else if 49 ≤ which ∧ which ≤ 57 then some (which, .ofInt (which - 19))
  -- the keypad: 0, and 1–9
  else if which = 96 then some (scancodeKey 98)
  else if 97 ≤ which ∧ which ≤ 105 then some (scancodeKey (which - 8))
  -- F1–F12
  else if 112 ≤ which ∧ which ≤ 123 then some (scancodeKey (which - 54))
  else namedKeys.lookup which

/-- The virtual key of a key code: the code itself, but for the shift, control and alt keys without a side, and the second
return key. -/
def virtualKey (which : Int) : UInt16 :=
  if which = 16 then 160 else if which = 17 then 162 else if which = 18 then 164 else if which = 108 then 13
  else .ofInt which

theorem bind_eq_ok {ε α β : Type} {x : Except ε α} {f : α → Except ε β} {b : β} :
    (x >>= f) = .ok b ↔ ∃ a, x = .ok a ∧ f a = .ok b := by
  cases x with
  | error e => exact ⟨fun h => (nomatch h), fun ⟨_, h, _⟩ => (nomatch h)⟩
  | ok a => exact ⟨fun h => ⟨a, rfl, h⟩, fun ⟨_, ha, h⟩ => Except.ok.inj ha ▸ h⟩

theorem pure_eq_ok {ε α : Type} {a b : α} : (pure a : Except ε α) = .ok b ↔ a = b := by
  rw [show (pure a : Except ε α) = .ok a from rfl, Except.ok.injEq]

theorem orThrow_eq_ok {α : Type} {o : Option α} {a : α} : orThrow o = .ok a ↔ o = some a := by
  cases o <;> simp [orThrow]

/-- What a message turns the wheel by: a control message with the event "wheel", by its two numbers. -/
def deltas (j : Json) : Option (Rat × Rat) :=
  if j.read Json.getString "type" = some "control" then
    (j.index "data").bind fun data =>
      if data.isObject ∧ data.read Json.getString "event" = some "wheel" then
        (data.index "parameters").bind fun param =>
          (param.read Json.arithmetic "deltaX").bind fun x =>
            (param.read Json.arithmetic "deltaY").map fun y => (x, y)
      else none
  else none

/-- The units in a message, each as 16 bits with a sign. -/
def units : Built → Option (Int × Int)
  | .mousewheel x y => some (x.toInt16.toInt, y.toInt16.toInt)
  | _ => none

/-- No axis is turned by more than a message has room for, with the fraction that is kept. -/
def Turnable (j : Json) : Prop := ∀ d, deltas j = some d → |d.1| ≤ 32766 ∧ |d.2| ≤ 32766

theorem toInt16_ofInt {n : Int} (h : |n| ≤ 32767) : (UInt16.ofInt n).toInt16.toInt = n := by
  obtain ⟨hlo, hhi⟩ := abs_le.mp h
  have hnat : (UInt16.ofInt n).toInt16.toBitVec.toNat = (n % 65536).toNat % 65536 := UInt16.toNat_ofNat'
  rw [← Int16.toInt_toBitVec, BitVec.toInt_eq_toNat_bmod, hnat, Int.bmod_def]
  omega

/-- What is given at once fits a message. -/
theorem step_fits (fl : Rounding Rat 24) {acc x : Rat} (hacc : |acc| < 1) (hx : |x| ≤ 32766) :
    |(Carry.step fl acc (fl.round x)).2| ≤ 32767 := by
  have hround : |fl.round x| ≤ ((32766 : Int) : Rat) := fl.abs_round_le (by norm_num) (by exact_mod_cast hx)
  exact Carry.step_snd_le hacc hround (by norm_num) (by norm_num)

/-- The header is the one of a control message. -/
theorem deltas_header {j : Json} {hd : Option (String × Json)} (h : header j = .ok hd) :
    deltas j = hd.bind fun d =>
      if d.1 = "wheel" then
        (d.2.read Json.arithmetic "deltaX").bind fun x => (d.2.read Json.arithmetic "deltaY").map fun y => (x, y)
      else none := by
  obtain ⟨type, htype, h⟩ := bind_eq_ok.mp h
  have htype := orThrow_eq_ok.mp htype
  unfold deltas
  simp only [Json.read, htype, Option.bind_some]
  split at h
  · obtain ⟨data, hdata, h⟩ := bind_eq_ok.mp h
    have hdata := orThrow_eq_ok.mp hdata
    simp only [Json.getString, if_true, hdata, Option.bind_some]
    split at h
    · next hobject =>
      obtain ⟨event, hevent, h⟩ := bind_eq_ok.mp h
      have hevent := orThrow_eq_ok.mp hevent
      simp only [hobject, hevent, Option.bind_some, true_and]
      split at h
      · obtain ⟨param, hparam, h⟩ := bind_eq_ok.mp h
        have hparam := orThrow_eq_ok.mp hparam
        obtain rfl := pure_eq_ok.mp h
        simp only [Json.getString, hparam, Option.bind_some, Option.some.injEq]
      · next hne =>
        obtain rfl := pure_eq_ok.mp h
        rw [if_neg]
        · rfl
        · intro hstr
          cases event with
          | str s => exact hne s rfl
          | _ => cases hstr
    · next hobject =>
      obtain rfl := pure_eq_ok.mp h
      have hnot : ¬ (data.isObject = true ∧ (data.index "event").bind Json.getString = some "wheel") :=
        fun h' => hobject h'.1
      exact if_neg hnot
  · next hne =>
    obtain rfl := pure_eq_ok.mp h
    rw [if_neg]
    · rfl
    · intro hstr
      cases type with
      | str s => exact hne (congrArg Json.str (Option.some.inj hstr))
      | _ => cases hstr

theorem wheelAxis_eq_ok {env : Env} {accumulated delta rest : Rat} {n : Int}
    (h : wheelAxis env accumulated delta = .ok (rest, n)) : Carry.step env.float accumulated delta = (rest, n) := by
  simp only [wheelAxis] at h
  split at h
  · exact Except.ok.inj h
  · cases h

theorem calculatePaddings_wheel (env : Env) (c : SdlController) :
    (calculatePaddings env c).accumulatedWheelX = c.accumulatedWheelX ∧
      (calculatePaddings env c).accumulatedWheelY = c.accumulatedWheelY := by
  unfold calculatePaddings
  split <;> exact ⟨rfl, rfl⟩

section
variable {env : Env} {c c' : SdlController} {param : Json} {m : Option Built}

theorem mouseKey_units {pressed : Bool} (h : mouseKey env c param pressed = .ok m) : m.bind units = none := by
  unfold mouseKey at h
  split at h
  · obtain rfl := pure_eq_ok.mp h
    rfl
  · obtain ⟨p, -, h⟩ := bind_eq_ok.mp h
    obtain ⟨which, -, h⟩ := bind_eq_ok.mp h
    obtain rfl := pure_eq_ok.mp h
    rfl

theorem key_units {pressed : Bool} (h : key param pressed = .ok m) : m.bind units = none := by
  obtain ⟨which, -, h⟩ := bind_eq_ok.mp h
  obtain rfl := pure_eq_ok.mp h
  cases keyMap.lookup ((which : Int).bmod 4294967296) <;> rfl

theorem sizeChange_wheel (h : sizeChange env c param = .ok c') :
    c'.accumulatedWheelX = c.accumulatedWheelX ∧ c'.accumulatedWheelY = c.accumulatedWheelY := by
  obtain ⟨size, -, h⟩ := bind_eq_ok.mp h
  obtain ⟨height, -, h⟩ := bind_eq_ok.mp h
  obtain ⟨width, -, h⟩ := bind_eq_ok.mp h
  obtain ⟨mode, -, h⟩ := bind_eq_ok.mp h
  obtain rfl := pure_eq_ok.mp h
  exact calculatePaddings_wheel env _

/-- The events that are not of the wheel. -/
theorem handleEvent_other {event : String} (hne : event ≠ "wheel") (h : handleEvent env c event param = .ok (c', m)) :
    m.bind units = none ∧ c'.accumulatedWheelX = c.accumulatedWheelX ∧ c'.accumulatedWheelY = c.accumulatedWheelY := by
  simp only [handleEvent, if_neg hne] at h
  split at h
  · obtain ⟨b, hb, h⟩ := bind_eq_ok.mp h
    obtain ⟨rfl, rfl⟩ := Prod.mk.inj (pure_eq_ok.mp h)
    obtain ⟨p, -, hb⟩ := bind_eq_ok.mp hb
    obtain rfl := pure_eq_ok.mp hb
    exact ⟨rfl, rfl, rfl⟩
  split at h
  · obtain ⟨b, hb, h⟩ := bind_eq_ok.mp h
    obtain ⟨rfl, rfl⟩ := Prod.mk.inj (pure_eq_ok.mp h)
    exact ⟨mouseKey_units hb, rfl, rfl⟩
  split at h
  · obtain ⟨b, hb, h⟩ := bind_eq_ok.mp h
    obtain ⟨rfl, rfl⟩ := Prod.mk.inj (pure_eq_ok.mp h)
    exact ⟨key_units hb, rfl, rfl⟩
  split at h
  · obtain ⟨b, hb, h⟩ := bind_eq_ok.mp h
    obtain ⟨rfl, rfl⟩ := Prod.mk.inj (pure_eq_ok.mp h)
    exact ⟨rfl, sizeChange_wheel hb⟩
  · obtain ⟨rfl, rfl⟩ := Prod.mk.inj (pure_eq_ok.mp h)
    exact ⟨rfl, rfl, rfl⟩

/-- The event of the wheel. -/
theorem wheel_eq_ok {b : Built} (h : wheel env c param = .ok (c', b)) :
    ∃ x y nx ny, param.read Json.arithmetic "deltaX" = some x ∧ param.read Json.arithmetic "deltaY" = some y ∧
      b = .mousewheel (.ofInt nx) (.ofInt ny) ∧
      Carry.step env.float c.accumulatedWheelX (env.float.round x) = (c'.accumulatedWheelX, nx) ∧
      Carry.step env.float c.accumulatedWheelY (env.float.round y) = (c'.accumulatedWheelY, ny) := by
  obtain ⟨x, hx, h⟩ := bind_eq_ok.mp h
  obtain ⟨y, hy, h⟩ := bind_eq_ok.mp h
  obtain ⟨⟨restX, nx⟩, hnx, h⟩ := bind_eq_ok.mp h
  obtain ⟨⟨restY, ny⟩, hny, h⟩ := bind_eq_ok.mp h
  obtain ⟨rfl, rfl⟩ := Prod.mk.inj (pure_eq_ok.mp h)
  exact ⟨x, y, nx, ny, orThrow_eq_ok.mp hx, orThrow_eq_ok.mp hy, rfl, wheelAxis_eq_ok hnx, wheelAxis_eq_ok hny⟩

/-- **One message**: a message of the wheel gives whole units away, and no other message turns it. -/
theorem convert_wheel {j : Json} (hx : |c.accumulatedWheelX| < 1) (hy : |c.accumulatedWheelY| < 1) (hj : Turnable j)
    (h : convertToSdlMessage env c j = .ok (c', m)) :
    (∃ x y nx ny, deltas j = some (x, y) ∧ m.bind units = some (nx, ny) ∧
      Carry.step env.float c.accumulatedWheelX (env.float.round x) = (c'.accumulatedWheelX, nx) ∧
      Carry.step env.float c.accumulatedWheelY (env.float.round y) = (c'.accumulatedWheelY, ny)) ∨
    (deltas j = none ∧ m.bind units = none ∧ c'.accumulatedWheelX = c.accumulatedWheelX ∧
      c'.accumulatedWheelY = c.accumulatedWheelY) := by
  obtain ⟨hd, hhead, h⟩ := bind_eq_ok.mp h
  have hdeltas := deltas_header hhead
  cases hd with
  | none =>
    obtain ⟨rfl, rfl⟩ := Prod.mk.inj (pure_eq_ok.mp h)
    exact .inr ⟨hdeltas, rfl, rfl, rfl⟩
  | some d =>
    obtain ⟨event, param⟩ := d
    rw [Option.bind_some] at hdeltas
    by_cases he : event = "wheel"
    · subst he
      obtain ⟨⟨c₁, b⟩, hb, h⟩ := bind_eq_ok.mp h
      obtain ⟨rfl, rfl⟩ := Prod.mk.inj (pure_eq_ok.mp h)
      obtain ⟨x, y, nx, ny, hreadx, hready, rfl, hsx, hsy⟩ := wheel_eq_ok hb
      rw [if_pos rfl, hreadx, hready] at hdeltas
      obtain ⟨hbx, hby⟩ := hj (x, y) hdeltas
      have hfitx := step_fits env.float hx hbx
      have hfity := step_fits env.float hy hby
      rw [hsx] at hfitx
      rw [hsy] at hfity
      have hunits : (some (Built.mousewheel (.ofInt nx) (.ofInt ny))).bind units = some (nx, ny) := by
        rw [Option.bind_some, units, toInt16_ofInt hfitx, toInt16_ofInt hfity]
      exact .inl ⟨x, y, nx, ny, hdeltas, hunits, hsx, hsy⟩
    · rw [if_neg he] at hdeltas
      exact .inr ⟨hdeltas, handleEvent_other he h⟩

end

/-- The messages built over a run. -/
def convertAll (env : Env) : SdlController → List Json → Except Fault (SdlController × List Built)
  | c, [] => .ok (c, [])
  | c, j :: js => do
    let (c, m) ← convertToSdlMessage env c j
    let (c, ms) ← convertAll env c js
    pure (c, m.toList ++ ms)

/-- The turns of a run are the turns of an accumulator each. -/
theorem convertAll_wheel {env : Env} {u : Rat} (hfl : env.float.Precise u) :
    ∀ {js : List Json} {c c' : SdlController} {ms : List Built}, |c.accumulatedWheelX| < 1 → |c.accumulatedWheelY| < 1 →
    (∀ j ∈ js, Turnable j) → convertAll env c js = .ok (c', ms) →
      Carry.run env.float c.accumulatedWheelX ((js.filterMap deltas).map fun d => env.float.round d.1) =
        (c'.accumulatedWheelX, (ms.filterMap units).map Prod.fst) ∧
      Carry.run env.float c.accumulatedWheelY ((js.filterMap deltas).map fun d => env.float.round d.2) =
        (c'.accumulatedWheelY, (ms.filterMap units).map Prod.snd)
  | [], c, c', ms, _, _, _, h => by
    obtain ⟨rfl, rfl⟩ := Prod.mk.inj (Except.ok.inj h)
    exact ⟨rfl, rfl⟩
  | j :: js, c, c', ms, hx, hy, hturn, h => by
    obtain ⟨⟨c₁, m⟩, hone, h⟩ := bind_eq_ok.mp h
    obtain ⟨⟨c₂, ms'⟩, hrest, h⟩ := bind_eq_ok.mp h
    obtain ⟨rfl, rfl⟩ := Prod.mk.inj (pure_eq_ok.mp h)
    have hturn' : ∀ j ∈ js, Turnable j := fun j' hj' => hturn j' (List.mem_cons_of_mem j hj')
    have hunits : (m.toList ++ ms').filterMap units = (m.bind units).toList ++ ms'.filterMap units := by
      rw [List.filterMap_append]
      cases m with
      | none => rfl
      | some b => cases hb : units b <;> simp [hb]
    rcases convert_wheel hx hy (hturn j List.mem_cons_self) hone with ⟨x, y, nx, ny, hd, hm, hsx, hsy⟩ | ⟨hd, hm, hsx, hsy⟩
    · have hx₁ : |c₁.accumulatedWheelX| < 1 := by
        have hlt := Carry.step_lt hfl c.accumulatedWheelX (env.float.round x)
        rwa [hsx] at hlt
      have hy₁ : |c₁.accumulatedWheelY| < 1 := by
        have hlt := Carry.step_lt hfl c.accumulatedWheelY (env.float.round y)
        rwa [hsy] at hlt
      obtain ⟨hrx, hry⟩ := convertAll_wheel hfl hx₁ hy₁ hturn' hrest
      rw [hunits, hm]
      constructor
      · simp [hd, Carry.run, hsx, hrx]
      · simp [hd, Carry.run, hsy, hry]
    · obtain ⟨hrx, hry⟩ := convertAll_wheel hfl (hsx ▸ hx) (hsy ▸ hy) hturn' hrest
      rw [hunits, hm, List.filterMap_cons, hd, ← hsx, ← hsy]
      exact ⟨hrx, hry⟩

/-- **Nothing of the wheel is lost**: over every run of messages, of whatever kinds, that do not turn it by more than a
message has room for, the units in the messages that are built and what the controller keeps make up what the wheel was
turned, but for the rounding of the additions; and what it keeps is less than a unit. -/
theorem wheel_conserved {env : Env} {u : Rat} (hfl : env.float.Precise u) (hu : 0 ≤ u) {js : List Json}
    {c c' : SdlController} {ms : List Built} (hx : |c.accumulatedWheelX| < 1) (hy : |c.accumulatedWheelY| < 1)
    (hturn : ∀ j ∈ js, Turnable j) (hrun : convertAll env c js = .ok (c', ms)) :
    |c'.accumulatedWheelX| < 1 ∧ |c'.accumulatedWheelY| < 1 ∧
      (let xs := (js.filterMap deltas).map fun d => env.float.round d.1
       |(c.accumulatedWheelX + xs.sum) - ((((ms.filterMap units).map Prod.fst).sum : Int) + c'.accumulatedWheelX)| ≤
        u * (xs.map fun x => 1 + |x|).sum) ∧
      (let ys := (js.filterMap deltas).map fun d => env.float.round d.2
       |(c.accumulatedWheelY + ys.sum) - ((((ms.filterMap units).map Prod.snd).sum : Int) + c'.accumulatedWheelY)| ≤
        u * (ys.map fun y => 1 + |y|).sum) := by
  obtain ⟨hrx, hry⟩ := convertAll_wheel hfl hx hy hturn hrun
  have hltx := Carry.run_lt hfl ((js.filterMap deltas).map fun d => env.float.round d.1) _ hx
  have hlty := Carry.run_lt hfl ((js.filterMap deltas).map fun d => env.float.round d.2) _ hy
  have hdx := Carry.run_drift hfl hu ((js.filterMap deltas).map fun d => env.float.round d.1) _ hx
  have hdy := Carry.run_drift hfl hu ((js.filterMap deltas).map fun d => env.float.round d.2) _ hy
  rw [hrx] at hltx hdx
  rw [hry] at hlty hdy
  exact ⟨hltx, hlty, hdx, hdy⟩

/-- Numbers as they are, and a display of 1920 by 1080. -/
def plainEnv : Env := ⟨Rounding.exact, Rounding.exact, some (1920, 1080)⟩

def control (event : String) (param : Json) : Json :=
  .obj [("type", .str "control"), ("data", .obj [("event", .str event), ("parameters", param)])]

def wheelTurn (y : Rat) : Json := control "wheel" (.obj [("deltaX", .int 0), ("deltaY", .float y)])

/-- Half a unit and three quarters of one: one unit is given, in the second message. -/
theorem wheel_conserved_fractions :
    |(0 : Rat)| < 1 ∧ |(1 / 4 : Rat)| < 1 ∧
      |((0 : Rat) + ([0, 0] : List Rat).sum) -
          (((([Built.mousewheel 0 0, .mousewheel 0 1].filterMap units).map Prod.fst).sum : Int) + 0)| ≤
        0 * (([0, 0] : List Rat).map fun x => 1 + |x|).sum ∧
      |((0 : Rat) + ([1 / 2, 3 / 4] : List Rat).sum) -
          (((([Built.mousewheel 0 0, .mousewheel 0 1].filterMap units).map Prod.snd).sum : Int) + 1 / 4)| ≤
        0 * (([1 / 2, 3 / 4] : List Rat).map fun y => 1 + |y|).sum := by
  have hturn : ∀ j ∈ [wheelTurn (1 / 2), wheelTurn (3 / 4)], Turnable j := by
    intro j hj d hd
    simp only [List.mem_cons, List.not_mem_nil, or_false] at hj
    rcases hj with rfl | rfl
    · obtain rfl : (0, 1 / 2) = d := Option.some.inj hd
      norm_num
    · obtain rfl : (0, 3 / 4) = d := Option.some.inj hd
      norm_num
  exact @wheel_conserved plainEnv 0 Rounding.exact_precise le_rfl [wheelTurn (1 / 2), wheelTurn (3 / 4)] (init plainEnv)
    { init plainEnv with accumulatedWheelY := 1 / 4 } _ (by decide) (by decide) hturn (by decide +kernel)

end Sdl

end CloudStreaming.Streamer
