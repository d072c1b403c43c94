import CloudStreaming.Lib.Json
import CloudStreaming.Streamer.Conf

/-!
# Cameras of the client (`server-webrtc/aic-vhal-client/CameraClientHandler.cpp:38-189`)

A client says in a "camerainfo" message how many cameras it has and, in three arrays, the resolution, the orientation
and the facing of each. `processClientCameraMsg` makes the list for the vHAL from the first two of them. The count is
converted to `int` and taken as the size of the list, whatever its sign, and the arrays are read up to it without a
look at their lengths.

| here | there |
| --- | --- |
| `parse`        | `json::parse`; `none` is a parse error |
| `none`         | an exception leaves the function, or a vector is read past its end |
| `newVector`    | `std::vector<…>(n)`: a negative size is a `length_error` |
| `cameraInfo`   | the body of the loop (`:88-184`) |

The vHAL enumerations are those of `vhal::client::VideoSink`.
-/

namespace CloudStreaming.Streamer.Camera

open Conf

def MAX_NUM_CAMERAS_SUPPORTED : Int := 2

inductive VideoCodecType where
  | kH264
  | kH265
  | kAV1
  deriving DecidableEq, Repr

inductive FrameResolution where
  | k480p
  | k720p
  | k1080p
  deriving DecidableEq, Repr

inductive SensorOrientation where
  | orientation0
  | orientation90
  | orientation180
  | orientation270
  deriving DecidableEq, Repr

inductive CameraFacing where
  | backFacing
  | frontFacing
  deriving DecidableEq, Repr

structure CameraInfo where
  cameraId : Int
  codecType : VideoCodecType
  resolution : FrameResolution
  sensorOrientation : SensorOrientation
  facing : CameraFacing
  deriving DecidableEq, Repr

/-! ## What the names mean -/

/-- `ga_is_h265`, `ga_is_av1` (`ga-common.cpp:1074`): anything else is H264 (`:100-113`). -/
def codecOf (codec : String) : VideoCodecType :=
  if codec = "hevc" ∨ codec = "h265" then .kH265 else if codec = "av1" then .kAV1 else .kH264

/-- 1080p is the most that the vHAL supports (`:126-137`). -/
def resolutionOf (res : String) : FrameResolution :=
  if res = "1080p" ∨ res = "2160p" ∨ res = "4320p" then .k1080p
  else if res = "720p" then .k720p
  else .k480p

def orientationOf (orientation : String) : SensorOrientation :=
  if orientation = "270" then .orientation270
  else if orientation = "180" then .orientation180
  else if orientation = "90" then .orientation90
  else .orientation0

def facingOf (facing : String) : CameraFacing := if facing = "front" then .frontFacing else .backFacing

/-! ## The message -/

def readstr (conf : Vars) (key : String) : String := String.ofList (gaConfReadstr conf key.toList)

/-- What the client named, or the configured default: for `"NULL"`, and where the capabilities of the client are not
used. -/
def named (conf : Vars) (hw : Bool) (name key : String) (i : Nat) : String :=
  if name ≠ "NULL" ∧ hw = true then name else readstr conf (key ++ toString i)

/-- The entry of camera `i`, for the three strings at its index. -/
def cameraInfo (conf : Vars) (hw : Bool) (i : Nat) (res orientation facing : String) : CameraInfo where
  cameraId := i
  codecType := codecOf (readstr conf "video-codec")
  resolution := resolutionOf (named conf hw res "camera-res-" i)
  sensorOrientation := orientationOf (named conf hw orientation "camera-orientation-" i)
  facing := facingOf (named conf hw facing "camera-facing-" i)

def newVector (n : Int) : Option (List String) := if n < 0 then none else some (List.replicate n.toNat "")

/-- The loop over the cameras (`:79-185`). -/
def cameraInfos (conf : Vars) (hw : Bool) (n : Nat) (maxCameraRes camOrientation camFacing : List String) :
    Option (List CameraInfo) :=
  (List.range n).mapM fun i => do
    let res ← maxCameraRes[i]?
    let orientation ← camOrientation[i]?
    let facing ← camFacing[i]?
    pure (cameraInfo conf hw i res orientation facing)

/-- The number of cameras requested (`:48-60`). -/
def numOfCamerasRequested (conf : Vars) (hw : Bool) (param : Json) : Option Int :=
  if hw then do
    let count ← param.index "numOfCameras"
    if count.isNumber then count.getInt32 else pure 0
  else pure (gaConfReadint conf "number-of-cameras-supported".toList)

/-- The array of strings in a field. -/
def strings (param : Json) (key : String) : Option (List String) := param.read (Json.getVector Json.getString) key

/-- The three arrays for `n` cameras (`:75-83`): `n` empty strings each, replaced by those of the message. -/
def cameraArrays (hw : Bool) (n : Int) (param : Json) : Option (List String × List String × List String) := do
  let maxCameraRes ← newVector n
  let camOrientation ← newVector n
  let camFacing ← newVector n
  if hw then
    let maxCameraRes ← strings param "maxCameraRes"
    let camOrientation ← strings param "camOrientation"
    let camFacing ← strings param "camFacing"
    pure (maxCameraRes, camOrientation, camFacing)
  else pure (maxCameraRes, camOrientation, camFacing)

/-- The list for the parameters of a message (`:48-186`). -/
def camerasOf (conf : Vars) (hw : Bool) (param : Json) : Option (List CameraInfo) := do
  let requested ← numOfCamerasRequested conf hw param
  if requested = 0 then pure []
  else
    let n := if requested > MAX_NUM_CAMERAS_SUPPORTED then MAX_NUM_CAMERAS_SUPPORTED else requested
    let (maxCameraRes, camOrientation, camFacing) ← cameraArrays hw n param
    cameraInfos conf hw n.toNat maxCameraRes camOrientation camFacing

/-- The capabilities of the client are used, not those of the configuration. -/
def getHwCapability (conf : Vars) : Bool := gaConfReadbool conf "get-hw-capability".toList 1 != 0

/-- `processClientCameraMsg` (`:38`). -/
def processClientCameraMsg (conf : Vars) (parse : String → Option Json) (message : String) :
    Option (List CameraInfo) := do
  let j ← parse message
  let param ← (← j.index "data").index "parameters"
  camerasOf conf (getHwCapability conf) param

/-! ## A message of the expected types -/

/-- The parameters of the message have the four fields, of the expected types. -/
structure WellTyped (j : Json) (count : Int) (res orientation facing : List String) : Prop where
  fields : ∃ data param, j.index "data" = some data ∧ data.index "parameters" = some param ∧
    param.index "numOfCameras" = some (.int count) ∧
    param.index "maxCameraRes" = some (.arr (res.map .str)) ∧
    param.index "camOrientation" = some (.arr (orientation.map .str)) ∧
    param.index "camFacing" = some (.arr (facing.map .str))

def codecs : List (String × VideoCodecType) :=
  [("avc", .kH264), ("h264", .kH264), ("hevc", .kH265), ("h265", .kH265), ("av1", .kAV1)]

def resolutions : List (String × FrameResolution) :=
  [("480p", .k480p), ("720p", .k720p), ("1080p", .k1080p), ("2160p", .k1080p), ("4320p", .k1080p)]

def orientations : List (String × SensorOrientation) :=
  [("0", .orientation0), ("90", .orientation90), ("180", .orientation180), ("270", .orientation270)]

def facings : List (String × CameraFacing) := [("back", .backFacing), ("front", .frontFacing)]

/-- What a name stands for. -/
def meaning {α : Type} (table : List (String × α)) (default : α) (name : String) : α := (table.lookup name).getD default

/-- The name at index `i`, or the configured one: for `"NULL"`, and where the array is too short. -/
def capability (conf : Vars) (key : String) (names : List String) (i : Nat) : String :=
  (names[i]?.filter (· ≠ "NULL")).getD (readstr conf (key ++ toString i))

/-- The entry camera `i` should have. -/
def expected (conf : Vars) (res orientation facing : List String) (i : Nat) : CameraInfo where
  cameraId := i
  codecType := meaning codecs .kH264 (readstr conf "video-codec")
  resolution := meaning resolutions .k480p (capability conf "camera-res-" res i)
  sensorOrientation := meaning orientations .orientation0 (capability conf "camera-orientation-" orientation i)
  facing := meaning facings .backFacing (capability conf "camera-facing-" facing i)

/-- The list there should be. -/
def expectedList (conf : Vars) (count : Int) (res orientation facing : List String) : List CameraInfo :=
  (List.range (min (max count 0) MAX_NUM_CAMERAS_SUPPORTED).toNat).map (expected conf res orientation facing)

/-- The number of entries that are made of the count `n`, which is an `int`. -/
def supported (n : Int) : Int := min n MAX_NUM_CAMERAS_SUPPORTED

/-- The count is not negative as an `int` and asks for as many cameras as it says, and the arrays reach that far. -/
def Sensible (count : Int) (res orientation facing : List String) : Prop :=
  let n := count.bmod 4294967296
  0 ≤ n ∧ supported n = min (max count 0) MAX_NUM_CAMERAS_SUPPORTED ∧
    supported n ≤ res.length ∧ supported n ≤ orientation.length ∧ supported n ≤ facing.length

instance (count : Int) (res orientation facing : List String) : Decidable (Sensible count res orientation facing) :=
  inferInstanceAs (Decidable (_ ∧ _))

section
variable {conf : Vars} {hw : Bool} {res orientation facing : List String}

/-! The loop body against the tables. -/

theorem meaning_nil {α : Type} (default : α) (name : String) : meaning [] default name = default := rfl

theorem meaning_cons {α : Type} (key : String) (x : α) (table : List (String × α)) (default : α) (name : String) :
    meaning ((key, x) :: table) default name = if name = key then x else meaning table default name := by
  by_cases h : name = key
  · simp [meaning, h]
  · have hne : (name == key) = false := beq_eq_false_iff_ne.mpr h
    rw [if_neg h, meaning, List.lookup_cons, hne]
    rfl

theorem codecOf_eq (codec : String) : codecOf codec = meaning codecs .kH264 codec := by
  simp only [codecOf, codecs, meaning_cons, meaning_nil]
  grind

theorem resolutionOf_eq (name : String) : resolutionOf name = meaning resolutions .k480p name := by
  simp only [resolutionOf, resolutions, meaning_cons, meaning_nil]
  grind

theorem orientationOf_eq (name : String) : orientationOf name = meaning orientations .orientation0 name := by
  simp only [orientationOf, orientations, meaning_cons, meaning_nil]
  grind

theorem facingOf_eq (name : String) : facingOf name = meaning facings .backFacing name := by
  simp only [facingOf, facings, meaning_cons, meaning_nil]
  grind

theorem named_eq (key : String) (names : List String) (i : Nat) :
    named conf true (names.getD i "NULL") key i = capability conf key names i := by
  rw [List.getD_eq_getElem?_getD, capability]
  cases names[i]? with
  | none => simp [named]
  | some name =>
    by_cases hnull : name = "NULL"
    · simp [named, Option.filter, hnull]
    · simp [named, Option.filter, hnull]

theorem cameraInfo_eq (i : Nat) :
    cameraInfo conf true i (res.getD i "NULL") (orientation.getD i "NULL") (facing.getD i "NULL") =
      expected conf res orientation facing i := by
  simp only [cameraInfo, expected, named_eq, codecOf_eq, resolutionOf_eq, orientationOf_eq, facingOf_eq]

/-- Arrays that are long enough. -/
theorem cameraInfos_of_le {n : Nat} (hr : n ≤ res.length) (ho : n ≤ orientation.length) (hf : n ≤ facing.length) :
    cameraInfos conf hw n res orientation facing = some ((List.range n).map fun i =>
      cameraInfo conf hw i (res.getD i "NULL") (orientation.getD i "NULL") (facing.getD i "NULL")) := by
  refine Json.mapM_eq_some ?_
  intro i hi
  have hi := List.mem_range.mp hi
  rw [List.getElem?_eq_getElem (by omega), List.getElem?_eq_getElem (by omega), List.getElem?_eq_getElem (by omega)]
  simp [List.getD_eq_getElem?_getD, List.getElem?_eq_getElem (by omega : i < res.length),
    List.getElem?_eq_getElem (by omega : i < orientation.length),
    List.getElem?_eq_getElem (by omega : i < facing.length)]

/-- One that is too short is read past its end. -/
theorem cameraInfos_of_lt {n : Nat} (h : res.length < n ∨ orientation.length < n ∨ facing.length < n) :
    cameraInfos conf hw n res orientation facing = none := by
  -- the last camera is past the end of that array
  refine Json.mapM_eq_none (a := n - 1) (List.mem_range.mpr (by omega)) ?_
  cases hr : res[n - 1]? with
  | none => rfl
  | some r =>
    cases ho : orientation[n - 1]? with
    | none => simp
    | some o =>
      have hrl := (List.getElem?_eq_some_iff.mp hr).1
      have hol := (List.getElem?_eq_some_iff.mp ho).1
      have hf : facing[n - 1]? = none := List.getElem?_eq_none (by omega)
      simp [hf]

theorem cameraArrays_eq {n : Int} {param : Json} (hn : 0 ≤ n) (hres : strings param "maxCameraRes" = some res)
    (hor : strings param "camOrientation" = some orientation) (hfac : strings param "camFacing" = some facing) :
    cameraArrays true n param = some (res, orientation, facing) := by
  simp [cameraArrays, newVector, not_lt.mpr hn, hres, hor, hfac]

theorem cameraArrays_of_neg {n : Int} {param : Json} (hn : n < 0) : cameraArrays hw n param = none := by
  simp [cameraArrays, newVector, hn]

/-- A count and arrays that could be read. -/
theorem camerasOf_eq {param : Json} {n : Int} (hcount : numOfCamerasRequested conf true param = some n)
    (hres : strings param "maxCameraRes" = some res) (hor : strings param "camOrientation" = some orientation)
    (hfac : strings param "camFacing" = some facing) :
    camerasOf conf true param =
      if n < 0 then none else cameraInfos conf true (supported n).toNat res orientation facing := by
  have hsup : (if n > MAX_NUM_CAMERAS_SUPPORTED then MAX_NUM_CAMERAS_SUPPORTED else n) = supported n := by
    unfold supported
    split <;> omega
  unfold camerasOf
  simp only [hcount, Option.bind_eq_bind, Option.bind_some, hsup]
  by_cases hz : n = 0
  · subst hz
    rfl
  · rw [if_neg hz]
    by_cases hneg : n < 0
    · have hsneg : supported n < 0 := by
        unfold supported
        omega
      rw [if_pos hneg, cameraArrays_of_neg hsneg]
      rfl
    · have hspos : 0 ≤ supported n := by
        unfold supported MAX_NUM_CAMERAS_SUPPORTED
        omega
      rw [if_neg hneg, cameraArrays_eq hspos hres hor hfac]
      rfl

/-- The whole function on a message of the expected types. -/
theorem processClientCameraMsg_eq {parse : String → Option Json} {message : String} {j : Json} {count : Int}
    (hhw : getHwCapability conf = true) (hparse : parse message = some j)
    (h : WellTyped j count res orientation facing) :
    processClientCameraMsg conf parse message =
      if count.bmod 4294967296 < 0 then none
      else cameraInfos conf true (supported (count.bmod 4294967296)).toNat res orientation facing := by
  obtain ⟨data, param, hdata, hparam, hcount, hres, hor, hfac⟩ := h.fields
  have hreq : numOfCamerasRequested conf true param = some (count.bmod 4294967296) := by
    simp [numOfCamerasRequested, hcount, Json.isNumber, Json.getInt32_int]
  have harray : ∀ key strs, param.index key = some (.arr (strs.map .str)) → strings param key = some strs := by
    intro key strs hkey
    rw [strings, Json.read, hkey]
    exact Json.getVector_strings strs
  rw [← camerasOf_eq hreq (harray _ _ hres) (harray _ _ hor) (harray _ _ hfac)]
  simp [processClientCameraMsg, hparse, hdata, hparam, hhw]

/-! ## Which parameters can be read -/

/-- The parameters have the fields that are read, of the types they are read as: the arrays only for a count other than
zero, and nothing where the configuration says it all. -/
def Fields (conf : Vars) (param : Json) : Prop :=
  getHwCapability conf = true → ∃ count, param.index "numOfCameras" = some count ∧ count.isNumber = true ∧
    (count.getInt32 ≠ some 0 → (strings param "maxCameraRes").isSome ∧ (strings param "camOrientation").isSome ∧
      (strings param "camFacing").isSome)

/-- And the count is not negative, and the arrays reach up to it. -/
def Readable (conf : Vars) (param : Json) : Prop :=
  if getHwCapability conf then
    ∃ count n, param.index "numOfCameras" = some count ∧ count.isNumber = true ∧ count.getInt32 = some n ∧ 0 ≤ n ∧
      (n ≠ 0 → ∃ res orientation facing, strings param "maxCameraRes" = some res ∧
        strings param "camOrientation" = some orientation ∧ strings param "camFacing" = some facing ∧
        supported n ≤ res.length ∧ supported n ≤ orientation.length ∧ supported n ≤ facing.length)
  else 0 ≤ gaConfReadint conf "number-of-cameras-supported".toList

end

/-- **Cameras.** For a message of the expected types the list is the expected one exactly when the count, which is
converted to `int`, is sensible and the arrays are as long as it says. -/
theorem camera_list_iff (conf : Vars) (parse : String → Option Json) (message : String) (j : Json) (count : Int)
    (res orientation facing : List String) (hhw : getHwCapability conf = true)
    (hparse : parse message = some j) (h : WellTyped j count res orientation facing) :
    processClientCameraMsg conf parse message = some (expectedList conf count res orientation facing) ↔
      Sensible count res orientation facing := by
  rw [processClientCameraMsg_eq hhw hparse h]
  unfold Sensible
  by_cases hneg : count.bmod 4294967296 < 0
  · simp [hneg]
  · rw [if_neg hneg]
    have hn : 0 ≤ supported (count.bmod 4294967296) := by
      unfold supported MAX_NUM_CAMERAS_SUPPORTED
      omega
    constructor
    · intro heq
      by_cases hlong : (supported (count.bmod 4294967296)).toNat ≤ res.length ∧
          (supported (count.bmod 4294967296)).toNat ≤ orientation.length ∧
          (supported (count.bmod 4294967296)).toNat ≤ facing.length
      · rw [cameraInfos_of_le hlong.1 hlong.2.1 hlong.2.2] at heq
        have hlen := congrArg List.length (Option.some.inj heq)
        simp only [expectedList, List.length_map, List.length_range] at hlen
        have hcap : 0 ≤ min (max count 0) MAX_NUM_CAMERAS_SUPPORTED := by
          unfold MAX_NUM_CAMERAS_SUPPORTED
          omega
        refine ⟨by omega, by omega, by omega, by omega, by omega⟩
      · rw [cameraInfos_of_lt (by omega)] at heq
        cases heq
    · rintro ⟨-, hcount, hr, ho, hf⟩
      rw [cameraInfos_of_le (by omega) (by omega) (by omega), expectedList, ← hcount]
      simp only [cameraInfo_eq]

/-- The value of a message with the given fields. -/
def cameraMessage (count : Int) (res orientation facing : List String) : Json :=
  .obj [("type", .str "control"), ("data", .obj [("event", .str "camerainfo"), ("parameters", .obj
    [("numOfCameras", .int count), ("maxCameraRes", .arr (res.map .str)),
      ("camOrientation", .arr (orientation.map .str)), ("camFacing", .arr (facing.map .str))])])]

theorem cameraMessage_wellTyped (count : Int) (res orientation facing : List String) :
    WellTyped (cameraMessage count res orientation facing) count res orientation facing :=
  ⟨_, _, rfl, rfl, rfl, rfl, rfl, rfl⟩

/-- Two cameras, the first of which leaves its orientation to the configuration. -/
def twoCameras : String :=
  "\x7b\"type\":\"control\",\"data\":\x7b\"event\":\"camerainfo\",\"parameters\":\x7b\"numOfCameras\":2," ++
    "\"maxCameraRes\":[\"1080p\",\"720p\"],\"camOrientation\":[\"NULL\",\"90\"]," ++
    "\"camFacing\":[\"back\",\"front\"]\x7d\x7d\x7d"

theorem camera_list_two_cameras :
    (processClientCameraMsg ∅
        (fun _ => some (cameraMessage 2 ["1080p", "720p"] ["NULL", "90"] ["back", "front"])) twoCameras =
      some (expectedList ∅ 2 ["1080p", "720p"] ["NULL", "90"] ["back", "front"]) ↔
        Sensible 2 ["1080p", "720p"] ["NULL", "90"] ["back", "front"]) ∧
      Sensible 2 ["1080p", "720p"] ["NULL", "90"] ["back", "front"] ∧
      expectedList ∅ 2 ["1080p", "720p"] ["NULL", "90"] ["back", "front"] =
        [⟨0, .kH264, .k1080p, .orientation0, .backFacing⟩, ⟨1, .kH264, .k720p, .orientation90, .frontFacing⟩] :=
  ⟨camera_list_iff ∅ _ twoCameras _ 2 _ _ _ (by decide) rfl (cameraMessage_wellTyped _ _ _ _), by decide, by decide⟩

/-- A count of -1 with empty arrays. -/
def minusOneCamera : String :=
  "\x7b\"type\":\"control\",\"data\":\x7b\"event\":\"camerainfo\",\"parameters\":\x7b\"numOfCameras\":-1," ++
    "\"maxCameraRes\":[],\"camOrientation\":[],\"camFacing\":[]\x7d\x7d\x7d"

/-- A negative count raises an exception, where an empty list is expected; one camera and no capabilities read past the
end of an array, where the defaults are expected. -/
theorem negative_count_and_short_array_fail :
    getHwCapability ∅ = true ∧
      WellTyped (cameraMessage (-1) [] [] []) (-1) [] [] [] ∧
      processClientCameraMsg ∅ (fun _ => some (cameraMessage (-1) [] [] [])) minusOneCamera ≠
        some (expectedList ∅ (-1) [] [] []) ∧
      ∀ message, processClientCameraMsg ∅ (fun _ => some (cameraMessage 1 [] [] [])) message ≠
        some (expectedList ∅ 1 [] [] []) := by
  have hhw : getHwCapability ∅ = true := by decide
  refine ⟨hhw, cameraMessage_wellTyped _ _ _ _, ?_, ?_⟩
  · rw [processClientCameraMsg_eq hhw rfl (cameraMessage_wellTyped _ _ _ _)]
    decide
  · intro message
    rw [processClientCameraMsg_eq hhw rfl (cameraMessage_wellTyped _ _ _ _)]
    decide

end CloudStreaming.Streamer.Camera
