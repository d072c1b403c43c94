import CloudStreaming.Encoder.Lifecycle
import Mathlib.Algebra.Group.Nat.Defs
import Mathlib.Algebra.Ring.Int.Defs

/-!
# The options of the encoder (`encoder/shared/encoder.cpp:134-247`, `:296-472`)

`irr_check_options` replaces what it can by a default and refuses the rest. Whatever it accepts has one of six urls
and one of two plugins, `vaapi` being the default (`main.cpp:46`, `irrv.h:167`); `irr_encoder_start` then sets the
surface flags from the plugin, and the blank frame that `IrrStreamer::start` sends first is made by
`create_internal_surface`, which "supports only QSV path" (`encoder.cpp:729`). So the plugin alone decides whether
accepted options start.

| here | there |
| --- | --- |
| `EncoderInfo`     | `encoder_info_t`; a null string is `none` |
| `Platform`        | `FFMPEG_v42`, and what `convert_bitrate` and the frame size compute in floating point |
| `irrCheckOptions` | `irr_check_options`: the record it leaves and what it returns |
| `toService`       | the fields that decide where `irr_encoder_start` returns |

A check that fails leaves the rate control as it was. The log is left out.
-/

namespace CloudStreaming.Encoder.Options

open Service

structure RateControlInfo where
  bitrate : Option Str
  qfactor : Option Str
  qp : Option Str
  maxrate : Option Str
  ratectrl : Option Str
  bufsize : Option Str
  qmaxI : Int
  qminI : Int
  qmaxP : Int
  qminP : Int
deriving DecidableEq

structure RefInfo where
  intRefType : Option Str
  intRefCycleSize : Int
  intRefQpDelta : Int
deriving DecidableEq

structure RoiInfo where
  roiEnabled : Bool
  x : Int
  y : Int
  width : Int
  height : Int
  roiValue : Int
deriving DecidableEq

structure EncoderInfo where
  url : Option Str
  plugin : Option Str
  streaming : Bool
  encodeType : EncodeType
  encoderInstanceID : Int
  width : Int
  height : Int
  framerate : Option Str
  rateContrlParam : RateControlInfo
  refInfo : RefInfo
  roiInfo : RoiInfo
  profile : Option Str
  level : Option Str
  quality : Int
  maxFrameSize : Int
  gopSize : Int
  slices : Int
  renderfpsEnc : Int
  minfpsEnc : Int
  lowDelayBrc : Bool
deriving DecidableEq

/-- `atofPositive`: `atof(..) > 0`; `averageFrameSize b fr`: `b / atof(fr) / 8`. -/
structure Platform where
  ffmpegV42 : Bool
  convertBitrate : Option Str → Int
  atofPositive : Str → Bool
  averageFrameSize : Int → Str → Int

/-! ## Strings -/

def isspace (c : Char) : Bool :=
  c = ' ' || c = '\t' || c = '\n' || c = '\r' || c.toNat = 11 || c.toNat = 12

def digits (s : Str) : Int :=
  (s.takeWhile Char.isDigit).foldl (fun n c => 10 * n + (c.toNat - '0'.toNat : Nat)) 0

def signedDigits (s : Str) : Int :=
  match s with
  | '-' :: ds => -digits ds
  | '+' :: ds => digits ds
  | ds => digits ds

/-- The number at the front of the string, 0 without one. -/
def leadingInt (s : Str) : Int := signedDigits (s.dropWhile isspace)

/-- `atoi`: `strtol`, which stays within 64 bits, cut down to an `int`. -/
def atoi (s : Str) : Int := (max (-2 ^ 63) (min (2 ^ 63 - 1) (leadingInt s))).bmod (2 ^ 32)

/-- `strcasecmp(s, word) == 0`. -/
def sameNocase (s : Str) (word : String) : Bool := s.map Char.toLower == word.toList.map Char.toLower

/-! ## Tables -/

def validUrl : List Str :=
  ["irrv:264".toList, "irrv:265".toList, "irrv:av1".toList, "local:264".toList, "local:265".toList,
    "local:av1".toList]

def defaultUrl : Str := "irrv:264".toList

def validPlugin : List Str := ["vaapi".toList, "qsv".toList]

def defaultPlugin : Str := "vaapi".toList

def qpMaxValue : Int := 51

structure RateCtrlOptions where
  needQp : Bool
  needQfactor : Bool
  needBitrate : Bool
  needMaxbitrate : Bool
deriving DecidableEq

/-- `irr_rate_ctrl_type_map` (`:62`). -/
def irrRateCtrlTypeMap (p : Platform) : List (String × RateCtrlOptions) :=
  [("CQP", ⟨true, false, false, false⟩), ("CBR", ⟨false, false, true, true⟩), ("VBR", ⟨false, false, true, true⟩),
    ("QVBR", ⟨false, true, true, true⟩)] ++
  if p.ffmpegV42 then [("ICQ", ⟨false, true, false, false⟩), ("AVBR", ⟨false, false, true, false⟩)] else []

/-- The names of `vaapi_encode_*_profiles` (`ProfileLevel.h:27-54`), by the part of the url after the colon. -/
def encodeProfiles (p : Platform) (encodeType : Str) : List String :=
  if encodeType = "264".toList then ["high", "main", "constrained_baseline", "default"]
  else if encodeType = "265".toList then
    ["main", "main10", "rext", "default"] ++ if p.ffmpegV42 then ["scc"] else []
  else if encodeType = "av1".toList then ["main", "high", "professional", "default"]
  else []

/-- The names of `vaapi_encode_*_levels` (`ProfileLevel.h:56-122`); the blank in "7 " is the source's. -/
def encodeLevels (encodeType : Str) : List String :=
  if encodeType = "264".toList then
    ["1", "1.1", "1.2", "1.3", "2", "2.1", "2.2", "3", "3.1", "3.2", "4", "4.1", "4.2", "5", "5.1", "5.2", "6", "6.1",
      "6.2", "default"]
  else if encodeType = "265".toList then
    ["1", "2", "2.1", "3", "3.1", "4", "4.1", "5", "5.1", "5.2", "6", "6.1", "6.2", "default"]
  else if encodeType = "av1".toList then
    ["2", "2.1", "2.2", "2.3", "3", "3.1", "3.2", "3.3", "4", "4.1", "4.2", "4.3", "5", "5.1", "5.2", "5.3", "6",
      "6.1", "6.2", "6.3", "7 ", "7.1", "7.2", "7.3", "default"]
  else []

/-! ## Checks -/

/-- A number that has to be there and to be positive. -/
def isPositive (v : Option Str) : Bool :=
  match v with
  | none => false
  | some s => decide (0 < atoi s)

/-- `qmaxI`, `qmaxP`: cut off at both ends. -/
def clampMax (q : Int) : Int :=
  let q := if q > qpMaxValue then qpMaxValue else q
  if q > 0 then q else 0

/-- `qminI`, `qminP`: dropped when out of range. -/
def clampMin (q : Int) : Int := if q > 0 && q ≤ qpMaxValue then q else 0

def checkQp (o : RateCtrlOptions) (rc : RateControlInfo) : Option RateControlInfo :=
  if o.needQp then
    if isPositive rc.qp && decide (atoi (rc.qp.getD []) ≤ qpMaxValue) then some rc else none
  else some { rc with qp := none }

def checkQfactor (o : RateCtrlOptions) (rc : RateControlInfo) : Option RateControlInfo :=
  if o.needQfactor then
    if isPositive rc.qfactor then some rc else none
  else some { rc with qfactor := none }

def checkBitrate (o : RateCtrlOptions) (rc : RateControlInfo) : Option RateControlInfo :=
  if o.needBitrate then
    if isPositive rc.bitrate then
      some { rc with
        bufsize := if isPositive rc.bufsize then rc.bufsize else none
        qmaxI := clampMax rc.qmaxI
        qminI := clampMin rc.qminI
        qmaxP := clampMax rc.qmaxP
        qminP := clampMin rc.qminP }
    else none
  else
    some { rc with
      qmaxI := 0
      qminI := 0
      qmaxP := 0
      qminP := 0
      bufsize := none
      bitrate := none }

def checkMaxrate (o : RateCtrlOptions) (rc : RateControlInfo) : Option RateControlInfo :=
  if o.needMaxbitrate then
    if isPositive rc.maxrate then some rc else none
  else some { rc with maxrate := none }

/-- Equal in CBR, ordered in VBR and QVBR (`:407-424`). -/
def ratesAgree (p : Platform) (ratectrl : Str) (rc : RateControlInfo) : Bool :=
  if rc.maxrate.isSome && rc.bitrate.isSome then
    if sameNocase ratectrl "CBR" && p.convertBitrate rc.bitrate != p.convertBitrate rc.maxrate then false
    else !((sameNocase ratectrl "VBR" || sameNocase ratectrl "QVBR") &&
      decide (p.convertBitrate rc.bitrate > p.convertBitrate rc.maxrate))
  else true

/-- `irr_check_rate_ctrl_options` (`:296`). -/
def irrCheckRateCtrlOptions (p : Platform) (rc : RateControlInfo) : Option RateControlInfo := do
  let ratectrl ← rc.ratectrl
  let entry ← (irrRateCtrlTypeMap p).find? fun e => sameNocase ratectrl e.1
  let rc ← checkQp entry.2 rc
  let rc ← checkQfactor entry.2 rc
  let rc ← checkBitrate entry.2 rc
  let rc ← checkMaxrate entry.2 rc
  if ratesAgree p ratectrl rc then some rc else none

/-- `irr_check_rir_options` (`:431`). -/
def irrCheckRirOptions (p : Platform) (info : EncoderInfo) : Bool :=
  match info.refInfo.intRefType with
  | none => true
  | some type =>
    (if type = "vertical".toList || type = "horizontal".toList then decide (0 < info.refInfo.intRefCycleSize)
      else if type = "slice".toList then p.ffmpegV42 && decide (0 < info.slices)
      else false) &&
    decide (-qpMaxValue ≤ info.refInfo.intRefQpDelta) && decide (info.refInfo.intRefQpDelta ≤ qpMaxValue)

/-- `url.substr(url.find(":") + 1)`: the whole url without a colon. -/
def urlEncodeType (url : Str) : Str :=
  match url.dropWhile (· != ':') with
  | [] => url
  | _ :: rest => rest

/-- `irr_check_encode_profile` and `irr_check_encode_level` (`:249`, `:273`) on a name that is there. -/
def nameIn (names : List String) (name : Str) : Bool := names.any fun n => n.toList == name

/-- `irr_check_roi_options` (`:473`). -/
def irrCheckRoiOptions (info : EncoderInfo) : Bool :=
  let roi := info.roiInfo
  decide (0 ≤ roi.x) && decide (0 ≤ roi.y) && decide (0 < roi.width) && decide (0 < roi.height) &&
  decide (-51 ≤ roi.roiValue) && decide (roi.roiValue ≤ 51) &&
  decide (roi.x + roi.width ≤ info.width) && decide (roi.y + roi.height ≤ info.height)

/-- A field outside the list takes the default (`url`, `plugin`). -/
def orDefault (valid : List Str) (default : Str) (v : Option Str) : Str :=
  match v with
  | none => default
  | some s => if valid.contains s then s else default

/-- `max_frame_size` (`:183-198`), once the frame rate is there. -/
def checkMaxFrameSize (p : Platform) (framerate : Str) (rc : RateControlInfo) (size : Int) : Int :=
  let size := if size < 0 then 0 else size
  if rc.bitrate.isNone then 0
  else if size > 0 && p.atofPositive framerate then
    max size (p.averageFrameSize (max (p.convertBitrate rc.bitrate) (p.convertBitrate rc.maxrate)) framerate)
  else size

/-- The rest of `irr_check_options` once nothing can fail (`:153-241`). -/
def applyDefaults (p : Platform) (info : EncoderInfo) (url : Str) (rc : RateControlInfo) : EncoderInfo :=
  let framerate := if isPositive info.framerate then info.framerate.getD [] else "30".toList
  { info with
    url := some url
    plugin := some (orDefault validPlugin defaultPlugin info.plugin)
    framerate := some framerate
    rateContrlParam := rc
    profile := info.profile.map fun name =>
      if nameIn (encodeProfiles p (urlEncodeType url)) name then name else "default".toList
    level := info.level.map fun name =>
      if nameIn (encodeLevels (urlEncodeType url)) name then name else "default".toList
    roiInfo := { info.roiInfo with roiEnabled := info.roiInfo.roiEnabled && irrCheckRoiOptions info }
    maxFrameSize := checkMaxFrameSize p framerate rc info.maxFrameSize
    gopSize := if info.gopSize ≤ 0 then 120 else info.gopSize
    slices := if info.slices < 0 then 0 else info.slices
    quality := if info.quality ≤ 0 || info.quality > 7 then 4 else info.quality
    minfpsEnc := if info.renderfpsEnc ≠ 0 && info.minfpsEnc ≤ 0 then 3 else info.minfpsEnc
    lowDelayBrc := info.lowDelayBrc &&
      (sameNocase (rc.ratectrl.getD []) "VBR" || sameNocase (rc.ratectrl.getD []) "QVBR") }

/-- `irr_check_options` (`:134`). -/
def irrCheckOptions (p : Platform) (info : EncoderInfo) : EncoderInfo × Int :=
  let url := orDefault validUrl defaultUrl info.url
  match irrCheckRateCtrlOptions p info.rateContrlParam with
  | none => ({ info with url := some url }, einval)
  | some rc =>
    if irrCheckRirOptions p info then (applyDefaults p info url rc, 0)
    else ({ info with url := some url, rateContrlParam := rc }, einval)

def EncoderInfo.toService (info : EncoderInfo) : Service.EncoderInfo :=
  ⟨info.streaming, info.url.getD [], info.plugin.getD [], info.encodeType, info.encoderInstanceID⟩

/-! ## Accepted options -/

theorem orDefault_mem {valid : List Str} {default : Str} (hdef : default ∈ valid) (v : Option Str) :
    orDefault valid default v ∈ valid := by
  unfold orDefault
  split
  · exact hdef
  · split
    · next s hs => exact List.contains_iff_mem.mp hs
    · exact hdef

/-- A value other than the default is there only if it was asked for. -/
theorem orDefault_eq_iff {valid : List Str} {default s : Str} (hs : s ∈ valid) (hne : s ≠ default) (v : Option Str) :
    orDefault valid default v = s ↔ v = some s := by
  unfold orDefault
  cases v with
  | none => simpa using hne.symm
  | some t =>
    by_cases ht : t ∈ valid
    · simp [ht]
    · simp only [List.contains_iff_mem, ht, if_false, Option.some.injEq]
      refine iff_of_false hne.symm ?_
      rintro rfl
      exact ht hs

/-- What `irr_check_options` accepts, as far as `irr_encoder_start` looks at it. -/
theorem accepted_toService {p : Platform} {info info' : EncoderInfo} (h : irrCheckOptions p info = (info', 0)) :
    info'.toService =
      ⟨info.streaming, orDefault validUrl defaultUrl info.url, orDefault validPlugin defaultPlugin info.plugin,
        info.encodeType, info.encoderInstanceID⟩ := by
  unfold irrCheckOptions at h
  split at h
  · simp [einval] at h
  · split at h
    · obtain ⟨rfl, -⟩ := Prod.mk.inj h
      rfl
    · simp [einval] at h

/-- A url of the list is a server's or a local one with a format. -/
theorem validUrl_cases {url : Str} (h : url ∈ validUrl) :
    startsWith url "irrv" = true ∧ startsWith url "local" = false ∨
      startsWith url "irrv" = false ∧ startsWith url "local" = true ∧ ':' ∈ url := by
  simp only [validUrl, List.mem_cons, List.not_mem_nil, or_false] at h
  rcases h with rfl | rfl | rfl | rfl | rfl | rfl
  · exact .inl ⟨rfl, rfl⟩
  · exact .inl ⟨rfl, rfl⟩
  · exact .inl ⟨rfl, rfl⟩
  · exact .inr ⟨rfl, rfl, by decide⟩
  · exact .inr ⟨rfl, rfl, by decide⟩
  · exact .inr ⟨rfl, rfl, by decide⟩

/-- Of the two plugins only one begins with "qsv". -/
theorem validPlugin_qsv {plugin : Str} (h : plugin ∈ validPlugin) :
    startsWith plugin "qsv" = true ↔ plugin = "qsv".toList := by
  simp only [validPlugin, List.mem_cons, List.not_mem_nil, or_false] at h
  rcases h with rfl | rfl
  · exact iff_of_false (by decide) (by decide)
  · exact iff_of_true rfl rfl

/-! ## Starting with them -/

/-- Every call to the outside succeeds. -/
structure AllSucceed (io : StartIo) (encoderInstanceID : Int) : Prop where
  port : ∃ port, io.renderPort = some port ∧ port ≤ 2147483647 - 1000 - encoderInstanceID
  serverInit : io.serverInit = true
  auxiliaryInit : io.auxiliaryInit = true
  blankSurface : io.blankSurface = true
  packet : io.packet = true
  thread : io.thread = true

theorem AllSucceed.openServers {s : Globals} {info : Service.EncoderInfo} {io : StartIo}
    (h : AllSucceed io info.encoderInstanceID) : (openServers s info io).2 = true := by
  obtain ⟨port, hport, hle⟩ := h.port
  unfold Service.openServers
  simp only [hport, h.serverInit, h.auxiliaryInit]
  rw [if_neg (by omega)]
  simp only [Bool.not_true, Bool.and_false, Bool.false_eq_true, if_false]
  split <;> rfl

section
variable {s : Globals} {info : Service.EncoderInfo} {io : StartIo}

theorem failsLate_validUrl (hurl : info.url ∈ validUrl) (hthread : io.thread = true) : failsLate info io = false := by
  rcases validUrl_cases hurl with ⟨-, hlocal⟩ | ⟨-, -, hcolon⟩
  · simp [failsLate, hlocal, hthread]
  · simp [failsLate, hcolon, hthread]

theorem surfaceFlags_vaSurfaceId (htype : info.encodeType = .vaSurfaceId) :
    (surfaceFlags info).2 = startsWith info.plugin "qsv" := by
  cases h : startsWith info.plugin "qsv" with
  | false => simp [surfaceFlags, htype, h]
  | true => simp [surfaceFlags, htype, h]

/-- With a url of the list, and everything outside succeeding, it is the plugin that decides. -/
theorem reachesDemux_validUrl (hurl : info.url ∈ validUrl) (hstreaming : info.streaming = true)
    (htype : info.encodeType = .vaSurfaceId) (hio : AllSucceed io info.encoderInstanceID) :
    reachesDemux s info io = startsWith info.plugin "qsv" := by
  have hmux : (if startsWith info.url "irrv" then (openServers s info io).2 else startsWith info.url "local") =
      true := by
    rcases validUrl_cases hurl with ⟨hirrv, -⟩ | ⟨hirrv, hlocal, -⟩
    · rw [if_pos hirrv]
      exact hio.openServers
    · rw [hirrv]
      exact hlocal
  simp [reachesDemux, hstreaming, hmux, surfaceFlags_vaSurfaceId htype, hio.blankSurface, hio.packet]

end

/-- The call returned 0 and there is a transcoder. -/
def Started (r : Option (Globals × Int)) : Prop :=
  ∃ s' st, r = some (s', 0) ∧ s'.streamer = some st ∧ st.pTrans.isSome

/-- A start that does not fail late is whole or returns early. -/
theorem started_iff {s : Globals} {info : Service.EncoderInfo} {io : StartIo} (hnew : s.streamer = some .new)
    (hfail : failsLate info io = false) :
    Started (startRegistered s info io) ↔ reachesDemux s info io = true := by
  cases hd : reachesDemux s info io with
  | true =>
    obtain ⟨s', st, heq, hst, htrans, -⟩ := start_whole hnew hd hfail
    exact iff_of_true ⟨s', st, heq, hst, htrans⟩ rfl
  | false =>
    obtain ⟨s', r, st, heq, hne, -⟩ := start_early hnew hd
    refine iff_of_false ?_ (by simp)
    rintro ⟨s'', st'', h, -⟩
    exact hne (Prod.mk.inj (Option.some.inj (heq.symm.trans h))).2

/-- **Accepted options start exactly with the QSV plugin.** For options that `irr_check_options` accepts, with
streaming on and the encode type of `main`, and every outside call succeeding, `irr_encoder_start` gets to a started
transcoder if and only if the plugin asked for was "qsv" (and the streamer before could be destroyed). -/
theorem accepted_starts_iff (p : Platform) (info info' : EncoderInfo) (s : Globals) (io : StartIo)
    (hcheck : irrCheckOptions p info = (info', 0)) (hstreaming : info.streaming = true)
    (htype : info.encodeType = .vaSurfaceId) (hio : AllSucceed io info.encoderInstanceID) :
    Started (irrEncoderStart s info'.toService io) ↔ (register s).isSome ∧ info.plugin = some "qsv".toList := by
  have hurl : orDefault validUrl defaultUrl info.url ∈ validUrl := orDefault_mem (by decide) info.url
  have hqsv : startsWith (orDefault validPlugin defaultPlugin info.plugin) "qsv" = true ↔
      info.plugin = some "qsv".toList := by
    rw [validPlugin_qsv (orDefault_mem (by decide) info.plugin)]
    exact orDefault_eq_iff (by decide) (by decide) info.plugin
  rw [accepted_toService hcheck, ← hqsv]
  cases hr : register s with
  | none => simp [Started, irrEncoderStart, hr]
  | some s₁ =>
    obtain ⟨hnew, -⟩ := register_spec hr
    simp only [irrEncoderStart, hr, Option.bind_eq_bind, Option.bind_some, Option.isSome_some, true_and]
    rw [started_iff hnew (failsLate_validUrl hurl hio.thread), reachesDemux_validUrl hurl hstreaming htype hio]

/-- Constant QP at 720p with nothing else set, as `main` fills it in. -/
def cqpInfo (plugin : String) : EncoderInfo where
  url := some "irrv:264".toList
  plugin := some plugin.toList
  streaming := true
  encodeType := .vaSurfaceId
  encoderInstanceID := 0
  width := 1280
  height := 720
  framerate := some "30".toList
  rateContrlParam := ⟨none, none, some "25".toList, none, some "CQP".toList, none, 0, 0, 0, 0⟩
  refInfo := ⟨none, 0, 0⟩
  roiInfo := ⟨false, 0, 0, 0, 0, 0⟩
  profile := none
  level := none
  quality := 4
  maxFrameSize := 0
  gopSize := 120
  slices := 0
  renderfpsEnc := 0
  minfpsEnc := 3
  lowDelayBrc := false

def portIo : StartIo := ⟨some 23432, true, false, true, true, true, true⟩

/-- `convert_bitrate` and the rest on whole numbers, where no rounding takes place. -/
def wholeRates : Platform where
  ffmpegV42 := false
  convertBitrate := fun b =>
    match b with
    | none => 0
    | some s =>
      if s.getLast? = some 'M' then atoi s * 1000000
      else if s.getLast? = some 'K' then atoi s * 1000
      else atoi s
  atofPositive := fun s => decide (0 < atoi s)
  averageFrameSize := fun b fr => b / atoi fr / 8

theorem cqp_starts_with_qsv :
    Started (irrEncoderStart init (irrCheckOptions wholeRates (cqpInfo "qsv")).1.toService portIo) :=
  (accepted_starts_iff wholeRates (cqpInfo "qsv") _ init portIo rfl rfl rfl
    ⟨⟨23432, rfl, by decide⟩, rfl, rfl, rfl, rfl, rfl⟩).mpr ⟨rfl, rfl⟩

/-- The same options with the default plugin are accepted and do not start. -/
theorem cqp_does_not_start_with_vaapi :
    (irrCheckOptions wholeRates (cqpInfo "vaapi")).2 = 0 ∧ AllSucceed portIo (cqpInfo "vaapi").encoderInstanceID ∧
      ¬Started (irrEncoderStart init (irrCheckOptions wholeRates (cqpInfo "vaapi")).1.toService portIo) := by
  refine ⟨rfl, ⟨⟨23432, rfl, by decide⟩, rfl, rfl, rfl, rfl, rfl⟩, ?_⟩
  rintro ⟨s', st, h, -⟩
  have hret : (irrEncoderStart init (irrCheckOptions wholeRates (cqpInfo "vaapi")).1.toService portIo).map Prod.snd =
      some einval := rfl
  rw [h] at hret
  cases hret

end CloudStreaming.Encoder.Options
