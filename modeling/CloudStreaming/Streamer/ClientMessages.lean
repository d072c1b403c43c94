import CloudStreaming.Streamer.CameraInfo
import CloudStreaming.Streamer.Conf
import CloudStreaming.Lib.Json

/-!
# Messages of the client (`server-webrtc/ics-p2p-client.cpp:424-604`, `ga-controller-android.cpp:85-210`)

Everything a client sends on the data channel comes to `OnMessageReceived` as a string. It is "start", or a JSON object
with an event and its parameters, which `OnMessageReceived` handles itself or hands on to the sensors, the cameras, the
command channel or the controller. Nothing in this chain catches an exception. Some events look at a field before they
read it; "gps", "touch", "joystick", "mousemove" and "mousedown" convert what they find. Before it looks at the string,
`OnMessageReceived` lets the client be sent to again, which nobody may be at first and after failures (`:426`, `:632`).

| here | there |
| --- | --- |
| `none`              | an exception leaves `OnMessageReceived` |
| `Effect`            | a call into the rest of the streamer, the new state of the controller, or `send_blocked_` cleared |
| `Env.scaleX`, `scaleY` | `TranslateX`, `TranslateY`: in floating point with `OLD_INPUT_PROTOCOL`, else the identity |
| `Env.e2eLatency`    | `E2ELATENCY_TELEMETRY_ENABLED` |
| `AndroidController` | the members that mouse events change |

The message is parsed again by every handler; here the value is handed on, except to the cameras. The data of a sensor
is recorded as it is read, before `updateCoordinates` turns it.
-/

namespace CloudStreaming.Streamer.ClientMessages

open Conf Camera

/-- `MAX_SENSOR_DATA_VAL_CNT` (`SensorHandler.h:25`). -/
def maxSensorDataValCnt : Nat := 6

structure AndroidController where
  absX : Int
  absY : Int
  absGameWidth : Int
  absGameHeight : Int
  isPressed : Bool
  isMouse : Bool
  gameOffsetX : Int
  gameOffsetY : Int
  deriving DecidableEq, Repr

inductive Effect where
  | unblockSend
  | publish (user : String)
  | remoteUser (user : String)
  | publishAudio (user : String)
  | send (text : String)
  | setFrameStats (ts size delay startDelay loss : Int)
  | latency (sendTimeMs : Int)
  | setCameraCapabilty (infos : List CameraInfo)
  | changeRenderResolution (width height : Int)
  | setVideoAlpha (action : Nat)
  | sensorCheck
  | sensorData (type : Int) (data : List Rat)
  | gps (data : String)
  | activityMonitor (text : String)
  | aicCommand (text : String)
  | controller (state : AndroidController)
  | inputMessage (dev : Nat) (text : String)
  | joystickMessage (dev : Nat) (text : String)
  deriving DecidableEq

/-- What the handlers read besides the message. -/
structure Env where
  sendBlocked : Bool
  e2eLatency : Bool
  hasClientStats : Bool
  gaEncoder : Bool
  enableRenderDrc : Bool
  localAudioStream : Bool
  halCapability : Bool
  conf : Vars
  scaleX : Int → Int
  scaleY : Int → Int

inductive Event where
  | framestats
  | camerainfo
  | sizechange
  | videoalpha
  | sensorcheck
  | sensordata
  | gps
  | cmdchannel
  | touch
  | joystick
  | mousemove
  | mousedown
  | mouseup
  | unknown
  deriving DecidableEq, Repr

def Event.ofString (name : String) : Event :=
  (List.lookup name
    [("framestats", framestats), ("camerainfo", camerainfo), ("sizechange", sizechange), ("videoalpha", videoalpha),
      ("sensorcheck", sensorcheck), ("sensordata", sensordata), ("gps", gps), ("cmdchannel", cmdchannel),
      ("touch", touch), ("joystick", joystick), ("mousemove", mousemove), ("mousedown", mousedown),
      ("mouseup", mouseup)]).getD unknown

def multiUser (conf : Vars) : Bool := gaConfReadbool conf "enable-multi-user".toList 0 != 0

/-- The "start" message (`:427-466`). -/
def startStreaming (env : Env) (user : String) : List Effect :=
  let cloneClient := gaConfReadint env.conf "client-clones".toList ≥ 1 ∧ "-clone".toList <:+: user.toList
  [.publish user] ++
    (if cloneClient then [] else [.remoteUser user]) ++
    (if env.localAudioStream then [.publishAudio user] else []) ++
    (if multiUser env.conf then
      [.send ("\x7b\"key\":\"user-id\",\"val\":\"" ++ toString (gaConfReadint env.conf "user".toList) ++ "\"\x7d")]
    else [])

/-! ## Events of `OnMessageReceived` -/

/-- `HandleLatencyMessage` with the number `v` (`:204`): a message that waits for its frame is kept. -/
def handleLatencyMessage (env : Env) (v : Json) : Option (List Effect) := do
  let ms ← v.arithmetic
  pure (if env.hasClientStats then [] else [.latency (Json.truncate ms % 18446744073709551616)])

/-- The latency part of "framestats" and "touch" (`:477-480`, `:559-562`). -/
def e2eLatency (env : Env) (param : Json) : Option (List Effect) :=
  if env.e2eLatency then do
    let v ← param.index "E2ELatency"
    if v.isNumber then handleLatencyMessage env v else pure []
  else pure []

/-- "framestats" (`:474-502`); the test of `E2ELatency` inserts the key. -/
def frameStats (env : Env) (param : Json) : Option (List Effect) :=
  if param.isObject then do
    let latency ← e2eLatency env param
    let param := if env.e2eLatency then param.indexed "E2ELatency" else param
    let ts ← param.index "framets"
    let size ← param.index "framesize"
    let delay ← param.index "framedelay"
    let startDelay ← param.index "framestartdelay"
    let loss ← param.index "packetloss"
    if param.size ≥ 5 ∧ ts.isNumber ∧ size.isNumber ∧ delay.isNumber ∧ startDelay.isNumber ∧ loss.isNumber then do
      let stats := Effect.setFrameStats (← ts.getInt32) (← size.getInt32) (← delay.getInt32) (← startDelay.getInt32)
        (← loss.getInt32)
      pure (latency ++ if env.gaEncoder then [stats] else [])
    else pure latency
  else pure []

/-- "camerainfo": `updateCameraInfo` (`CameraClientHandler.cpp:191`). -/
def updateCameraInfo (env : Env) (parse : String → Option Json) (message : String) : Option (List Effect) :=
  if env.halCapability then do
    let infos ← processClientCameraMsg env.conf parse message
    pure [.setCameraCapabilty infos]
  else pure []

/-- "sizechange" (`:510-524`). -/
def sizeChange (env : Env) (param : Json) : Option (List Effect) :=
  if param.isObject then do
    let size ← param.index "rendererSize"
    if size.isObject then do
      let width ← size.index "width"
      let height ← size.index "height"
      if size.size = 2 ∧ width.isNumber ∧ height.isNumber then do
        let resolution := Effect.changeRenderResolution (← width.getInt32) (← height.getInt32)
        pure (if env.gaEncoder then [resolution] else [])
      else pure []
    else pure []
  else pure []

/-- "videoalpha" (`:525-537`). -/
def videoAlpha (env : Env) (param : Json) : Option (List Effect) :=
  if param.isObject then do
    let action ← param.index "action"
    if action.isNumber then do
      let alpha := Effect.setVideoAlpha (← action.getUInt32)
      pure (if env.gaEncoder then [alpha, .send "\x7b\"key\":\"video-alpha-success\"\x7d"] else [])
    else pure []
  else pure []

/-- "sensordata": `SensorHandler::processClientMsg` (`SensorHandler.cpp:83`). -/
def sensorData (param : Json) : Option (List Effect) :=
  if param.isString then pure []
  else do
    let type ← param.index "type"
    if type.isNumber then do
      let data ← param.read (Json.getVector Json.arithmetic) "data"
      if data.length > maxSensorDataValCnt then pure []
      else pure [.sensorData (← type.getInt32) data]
    else pure []

/-- "gps" (`:545-553`). -/
def gpsData (param : Json) : Option (List Effect) := do
  let data ← param.read Json.getString "data"
  pure [.gps data]

/-- A string field that is tested first, with what is sent when it is not empty (`CommandChannelHandler.cpp:60-76`). -/
def guardedText (param : Json) (key : String) (effect : String → Effect) : Option (List Effect) := do
  let v ← param.index key
  if v.isString then do
    let text ← v.getString
    pure (if text = "" then [] else [effect text])
  else pure []

/-- "cmdchannel": `CommandChannelHandler::processClientMsg` (`CommandChannelHandler.cpp:51`). -/
def cmdChannel (env : Env) (param : Json) : Option (List Effect) :=
  if param.isObject then do
    let user := if multiUser env.conf then ":" ++ toString (gaConfReadint env.conf "user".toList) else ""
    let pkg ← guardedText param "pkg" fun pkg => .activityMonitor ("0:" ++ pkg ++ user)
    let cmd ← guardedText param "cmd" .aicCommand
    pure (pkg ++ cmd)
  else pure []

/-! ## Events of the controller -/

/-- The number of input devices (`ga-controller-android.cpp:39-45`). -/
def inputDevs (conf : Vars) : Int := min (max (gaConfReadint conf "virtual-input-num".toList) 1) 31

/-- `int` arithmetic. -/
def int32 (x : Int) : Int := x.bmod 4294967296

/-- The line for the first input device at the position of the controller, and the commit behind it. -/
def pointer (env : Env) (c : AndroidController) (verb : String) : List Effect :=
  [.inputMessage 0 (verb ++ " 0 " ++ toString (int32 (c.gameOffsetX + env.scaleX c.absX)) ++ " " ++
      toString (int32 (c.gameOffsetY + env.scaleY c.absY)) ++ " 255\n"),
    .inputMessage 0 "c\n"]

/-- A position of the mouse kept between 0 and the width or height (`:113-116`). -/
def clampPosition (pos limit : Int) : Int :=
  let pos := if pos < 0 then 0 else pos
  if pos > limit then limit else pos

/-- "mousemove" (`:104-130`). -/
def mouseMove (env : Env) (c : AndroidController) (param : Json) : Option (List Effect) := do
  let x ← param.read Json.getInt32 "x"
  let y ← param.read Json.getInt32 "y"
  let c : AndroidController :=
    if c.isMouse then
      { c with absX := clampPosition (int32 (c.absX + x)) c.absGameWidth,
               absY := clampPosition (int32 (c.absY + y)) c.absGameHeight }
    else { c with absX := x, absY := y }
  pure (.controller c :: if c.isPressed then pointer env c "m" else [])

/-- "mousedown" (`:131-164`). -/
def mouseDown (env : Env) (c : AndroidController) (param : Json) : Option (List Effect) :=
  if param.size < 3 then pure []
  else do
    let x ← param.read Json.getInt32 "x"
    let y ← param.read Json.getInt32 "y"
    let isMouse := !decide (x > 4 ∨ y > 4)
    let c := { c with isMouse := isMouse, isPressed := true }
    let c := if isMouse then c else { c with absX := x, absY := y }
    pure (.controller c :: pointer env c "d")

/-- "mouseup" (`:165-170`). -/
def mouseUp (c : AndroidController) : List Effect :=
  [.controller { c with isPressed := false, isMouse := true }, .inputMessage 0 "u 0\n", .inputMessage 0 "c\n"]

/-- "touch" and "joystick" (`:171-208`): a text for the device whose number is in the field `id`. -/
def deviceText (env : Env) (param : Json) (id : String) (effect : Nat → String → Effect) : Option (List Effect) := do
  let data ← param.read Json.getString "data"
  let dev ← param.read Json.getUInt32 id
  pure (if (dev : Int) ≥ inputDevs env.conf then [] else [effect dev data])

/-! ## The whole chain -/

/-- The header of a control message (`:470-473`): the event and its parameters, null if there are none. `some none` is
a message of another kind. -/
def header (j : Json) : Option (Option (Event × Json)) := do
  let type ← j.index "type"
  let data ← j.index "data"
  match type, data.isObject with
  | .str "control", true => do
    match ← data.index "event" with
    | .str event => pure (some (Event.ofString event, ← data.index "parameters"))
    | _ => pure none
  | _, _ => pure none

/-- The branch of an event. -/
def handleEvent (env : Env) (c : AndroidController) (parse : String → Option Json) (message : String) (param : Json) :
    Event → Option (List Effect)
  | .framestats => frameStats env param
  | .camerainfo => updateCameraInfo env parse message
  | .sizechange => if env.enableRenderDrc then sizeChange env param else pure []
  | .videoalpha => videoAlpha env param
  | .sensorcheck => pure [.sensorCheck]
  | .sensordata => sensorData param
  | .gps => gpsData param
  | .cmdchannel => cmdChannel env param
  | .touch => do
    let latency ← e2eLatency env param
    let input ← deviceText env param "tID" .inputMessage
    pure (latency ++ input)
  | .joystick => deviceText env param "jID" .joystickMessage
  | .mousemove => mouseMove env c param
  | .mousedown => mouseDown env c param
  | .mouseup => pure (mouseUp c)
  | .unknown => pure []

/-- `OnMessageReceived` after its first line, with `PushClientEvent` (`ga-controller-android.cpp:85`). -/
def handleMessage (env : Env) (c : AndroidController) (parse : String → Option Json) (user message : String) :
    Option (List Effect) :=
  if message = "start" then pure (startStreaming env user)
  else do
    match ← header (← parse message) with
    | none => pure []
    | some (event, param) => handleEvent env c parse message param event

/-- `OnMessageReceived` (`:424`), whose first line is `send_blocked_ = false`. -/
def onMessageReceived (env : Env) (c : AndroidController) (parse : String → Option Json) (user message : String) :
    Option (List Effect) := do
  let effects ← handleMessage env c parse user message
  pure (if env.sendBlocked then .unblockSend :: effects else effects)

/-! ## The protocol -/

def isArithmetic (j : Json) : Bool := j.arithmetic.isSome

def isFloats (j : Json) : Bool := (j.getVector Json.arithmetic).isSome

/-- The fields that the branch of an event reads, of the types it reads them as. The branches that test a field first
read the rest only when the test succeeds. -/
def Fields (env : Env) (param : Json) : Event → Prop
  | .framestats =>
    (param.has "framets" Json.isNumber ∧ param.has "framesize" Json.isNumber ∧ param.has "framedelay" Json.isNumber ∧
      param.has "framestartdelay" Json.isNumber ∧ param.has "packetloss" Json.isNumber) ∨
      param.has "E2ELatency" Json.isNumber
  | .camerainfo => Camera.Fields env.conf param
  | .sizechange => param.has "rendererSize" fun size => size.has "width" Json.isNumber && size.has "height" Json.isNumber
  | .videoalpha => param.has "action" Json.isNumber
  | .sensorcheck => True
  | .sensordata => param.has "type" Json.isNumber ∧ param.has "data" isFloats
  | .gps => param.has "data" Json.isString
  | .cmdchannel => param.has "pkg" Json.isString ∨ param.has "cmd" Json.isString
  | .touch => (param.has "data" Json.isString ∧ param.has "tID" isArithmetic) ∨ param.has "E2ELatency" Json.isNumber
  | .joystick => param.has "data" Json.isString ∧ param.has "jID" isArithmetic
  | .mousemove => param.has "x" isArithmetic ∧ param.has "y" isArithmetic
  | .mousedown => param.has "x" isArithmetic ∧ param.has "y" isArithmetic
  | .mouseup => True
  | .unknown => False

/-- "start", or a control message with the fields of its event. -/
def Conforms (env : Env) (parse : String → Option Json) (message : String) : Prop :=
  message = "start" ∨
    ∃ j event param, parse message = some j ∧ header j = some (some (event, param)) ∧ Fields env param event

/-- The message is answered without an exception, and it has an effect only if it conforms to the protocol. -/
def Orderly (env : Env) (c : AndroidController) (parse : String → Option Json) (user message : String) : Prop :=
  ∃ effects, onMessageReceived env c parse user message = some effects ∧
    (effects ≠ [] → Conforms env parse message)

/-- What the parameters of an event must be for its branch to get through: nothing where it tests the fields, the fields
themselves where it does not. -/
def Readable (env : Env) (param : Json) : Event → Prop
  | .camerainfo => env.halCapability = true → Camera.Readable env.conf param
  | .sensordata => param.isString = true ∨
      param.indexable = true ∧ (param.has "type" Json.isNumber → param.has "data" isFloats)
  | .gps => param.has "data" Json.isString
  | .touch => param.has "data" Json.isString ∧ param.has "tID" isArithmetic
  | .joystick => param.has "data" Json.isString ∧ param.has "jID" isArithmetic
  | .mousemove => param.has "x" isArithmetic ∧ param.has "y" isArithmetic
  | .mousedown => param.size < 3 ∨ param.has "x" isArithmetic ∧ param.has "y" isArithmetic
  | _ => True

/-- "start", or JSON whose top is an object or null and, if it is a control message, has parameters that can be read. -/
def Handled (env : Env) (parse : String → Option Json) (message : String) : Prop :=
  message = "start" ∨ ∃ j, parse message = some j ∧ j.indexable = true ∧
    ∀ event param, header j = some (some (event, param)) → Readable env param event

/-- The branch ends without an exception, and has an effect only if `F`. -/
def Answers (F : Prop) (r : Option (List Effect)) : Prop := ∃ effects, r = some effects ∧ (effects ≠ [] → F)

section
variable {F G : Prop} {env : Env} {param : Json}

theorem Answers.mono {r : Option (List Effect)} (h : F → G) (ha : Answers F r) : Answers G r := by
  obtain ⟨effects, hr, hf⟩ := ha
  exact ⟨effects, hr, fun hne => h (hf hne)⟩

/-- Two parts one after the other. -/
theorem Answers.append {r r' : Option (List Effect)} (h : Answers F r) (h' : Answers F r') :
    Answers F (do let a ← r; let b ← r'; pure (a ++ b)) := by
  obtain ⟨a, rfl, ha⟩ := h
  obtain ⟨b, rfl, hb⟩ := h'
  refine ⟨a ++ b, rfl, fun hne => ?_⟩
  by_cases hnil : a = []
  · exact hb (by simpa [hnil] using hne)
  · exact ha hnil

end

/-! ## The header -/

def idle : Env := ⟨false, false, false, true, false, false, false, ∅, id, id⟩

end CloudStreaming.Streamer.ClientMessages
