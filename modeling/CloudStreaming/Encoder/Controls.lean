import CloudStreaming.Lib.PtrMap
import CloudStreaming.Lib.Runs
import CloudStreaming.Irrv.Dispatch
import CloudStreaming.Encoder.Codec
import CloudStreaming.Encoder.Resolution
import CloudStreaming.Encoder.Roi

/-!
# Controls and the maps of the transcoder (`encoder/shared/CTransCoder.cpp`)

The decoders, filters and encoders are in maps from stream indices to pointers. They are filled as the stream goes:
a decoder with the first packet of a stream, a filter with the first packet that is decoded, an encoder with the first
frame of a filter; filters and encoders are thrown away on an error or a change of the settings and made again. The
controls of a client come at any time, also before the first packet, since `run` polls the clients first.

Two setters use the maps: `changeEncoderProfileLevel` asks encoder 0 for the names of the profile and the level, and
`setRegionOfInterest` asks decoder 0 for its size. Both get it with `operator[]`, which adds a null pointer where there
is no entry.

| here | there |
| --- | --- |
| `PtrMap`     | `std::map<int, T *>`: `none` is a key without an entry, `some none` an entry that is null |
| `Names`      | `getProfileNameByValue`, `getLevelNameByValue` of an encoder, with the constants of FFmpeg |
| `Op.packet`  | one packet in `processInput` |
| `Op.flush`   | one decoder in `processInput`, at the end of the input |
| `Op.frame`   | one filter that has a frame, in `doOutput` |
| `none`       | a null pointer is used, or `roi_para` is written past its end |

The steps come in any order here, which is more than the threads of the program can do.
-/

namespace CloudStreaming.Encoder.Controls

open Irrv

inductive MediaType where
  | video
  | audio
  | other
  deriving DecidableEq, Repr

structure CDecoder where
  type : MediaType
  width : Int
  height : Int

structure CFilter where
  type : MediaType
  width : Int
  height : Int

/-- An encoder, by the name it was made with. -/
structure CEncoder where
  codec : String

/-- The names an encoder has for the values of a profile and a level; `""` for a value it does not know. -/
structure Names where
  profile : CEncoder → Int → String
  level : CEncoder → Int → String

structure CTransCoder where
  codec : Encoder.CTransCoder
  streamerCodecId : UInt32
  isEncHWError : Bool
  isResolutionChange : Bool
  isProfileLevelChange : Bool
  setFramerate : Bool
  newWidth : Int
  newHeight : Int
  setROI : Bool
  numROI : Int
  roiPara : Nat → Roi.AVRoI
  streamFound : Int → Option Bool
  decoders : PtrMap Int CDecoder
  filters : Int → Option CFilter
  encoders : PtrMap Int CEncoder

/-! ## The frames -/

/-- The stream is noted as not found yet (`:323`). -/
def noteStream (s : CTransCoder) (idx : Int) : CTransCoder :=
  if s.streamFound idx = none then { s with streamFound := Function.update s.streamFound idx (some false) } else s

/-- A decoder is made for it, if it is one to decode (`:326-346`). -/
def addDecoder (s : CTransCoder) (idx : Int) (dec : CDecoder) : CTransCoder :=
  if s.streamFound idx = some true then s
  else
    match dec.type with
    | .video | .audio => { s with decoders := s.decoders.set idx dec }
    | .other => { s with streamFound := Function.update s.streamFound idx (some true) }

/-- `newInputStream` (`:319`). -/
def newInputStream (s : CTransCoder) (idx : Int) (dec : CDecoder) : CTransCoder := addDecoder (noteStream s idx) idx dec

def eraseFilters (s : CTransCoder) : CTransCoder := { s with filters := fun _ => none }

def eraseEncoders (s : CTransCoder) : CTransCoder := { s with encoders := PtrMap.empty }

/-- The new resolution goes to the decoder (`:461-469`), and with it to the filter. -/
def resized (s : CTransCoder) (dec : CDecoder) : CDecoder :=
  if s.isResolutionChange then { dec with width := s.newWidth, height := s.newHeight } else dec

/-- The filters are thrown away after an error or for a new resolution (`:373-383`). -/
def restartFilters (s : CTransCoder) : CTransCoder :=
  if s.isEncHWError || s.isResolutionChange then eraseFilters s else s

/-- The filter is made where there is none (`:386-475`); `ready` says whether the options let it be made. -/
def createFilter (s : CTransCoder) (idx : Int) (dec : CDecoder) (ready : Bool) : CTransCoder :=
  if s.filters idx = none ∧ ready then
    let dec := resized s dec
    { s with
      decoders := s.decoders.set idx dec
      filters := Function.update s.filters idx (some ⟨dec.type, dec.width, dec.height⟩) }
  else s

/-- `decode` (`:352`). -/
def decode (s : CTransCoder) (idx : Int) (ready : Bool) : Option CTransCoder :=
  match s.decoders.index idx with
  | (_, none) => none
  | (decoders, some dec) => some (createFilter (restartFilters { s with decoders := decoders }) idx dec ready)

/-- A stream without a decoder is discarded (`:643`). -/
def decodeStream (s : CTransCoder) (idx : Int) (ready : Bool) : Option CTransCoder :=
  if s.decoders idx = none then some s else decode s idx ready

/-- A packet in `processInput` (`:634-680`); `dec` is what a new stream would be decoded with. -/
def packet (s : CTransCoder) (idx : Int) (dec : CDecoder) (ready : Bool) : Option CTransCoder :=
  decodeStream (if s.streamFound idx = none then newInputStream s idx dec else s) idx ready

/-- `getOutOptVal`. -/
def getOutOptVal (s : CTransCoder) (shortName longName default : String) : String :=
  ((s.codec.outProp shortName).or (s.codec.outProp longName)).getD default

/-- The encoder of a codec, by the plugin (`:766-782`). -/
def pluginCodec (s : CTransCoder) (qsv vaapi : String) : String :=
  if s.codec.qsvPlugin then getOutOptVal s "c" "codec" qsv
  else if s.codec.vaapiPlugin then getOutOptVal s "c" "codec" vaapi
  else ""

/-- The name of the encoder for a filter (`:761-785`). -/
def encoderName (s : CTransCoder) (type : MediaType) : String :=
  if type = .video then
    if s.codec.codecId = avCodecIdH264 ∨ s.codec.codecId = 0 then pluginCodec s "h264_qsv" "h264_vaapi"
    else if s.codec.codecId = avCodecIdHevc then pluginCodec s "hevc_qsv" "hevc_vaapi"
    else if s.codec.codecId = avCodecIdAv1 then pluginCodec s "av1_qsv" "av1_vaapi"
    else ""
  else getOutOptVal s "ac" "acodec" "aac"

/-- The encoders are thrown away for any of the four flags (`:737-758`). -/
def restartEncoders (s : CTransCoder) : CTransCoder :=
  if s.isEncHWError || s.isResolutionChange || s.codec.isCodecChange || s.isProfileLevelChange then
    { eraseEncoders s with
      codec := { s.codec with isCodecChange := false }
      isEncHWError := false
      isResolutionChange := false
      isProfileLevelChange := false }
  else s

/-- The encoder is made where there is no entry (`:760-801`). -/
def createEncoder (s : CTransCoder) (idx : Int) (filt : CFilter) : CTransCoder :=
  if s.encoders idx = none then { s with encoders := s.encoders.set idx ⟨encoderName s filt.type⟩ } else s

/-- A new frame rate goes to the filter, the decoder and the encoder (`:835`, `:1910`). -/
def updateDynamicChangedFramerate (s : CTransCoder) (idx : Int) : Option CTransCoder :=
  if s.setFramerate then
    match s.decoders.index idx, s.encoders.index idx with
    | (decoders, some _), (encoders, some _) =>
      some { s with decoders := decoders, encoders := encoders, setFramerate := false }
    | _, _ => none
  else some s

/-- A frame of the filter `idx` in `doOutput` (`:728-858`), up to its encoder. -/
def frame (s : CTransCoder) (idx : Int) : Option CTransCoder :=
  match s.filters idx with
  | none => some s
  | some filt =>
    let s := createEncoder (restartEncoders s) idx filt
    match s.encoders.index idx with
    | (_, none) => none
    | (encoders, some _) => updateDynamicChangedFramerate { s with encoders := encoders } idx

/-! ## The controls -/

/-- `CTransCoder::changeResolution` (`:1485`). -/
def changeResolution (s : CTransCoder) (width height : Int) : CTransCoder :=
  if Resolution.accepted width height then
    { s with isResolutionChange := true, newWidth := width, newHeight := height }
  else s

/-- `IrrStreamer::change_resolution` (`IrrStreamer.cpp:648`), which knows a least size for each codec. -/
def streamerChangeResolution (s : CTransCoder) (width height : Int) : CTransCoder :=
  if s.streamerCodecId = avCodecIdH264 ∧ (width < 32 ∨ height < 32) then s
  else if s.streamerCodecId = avCodecIdHevc ∧ (width < 128 ∨ height < 128) then s
  else if s.streamerCodecId = avCodecIdAv1 ∧ (width < 128 ∨ height < 128) then s
  else changeResolution s width height

/-- `IrrStreamer::change_codec` (`IrrStreamer.cpp:681`). -/
def changeCodec (s : CTransCoder) (codecType : UInt32) : CTransCoder :=
  if s.streamerCodecId ≠ avCodecIdH264 ∧ s.streamerCodecId ≠ avCodecIdHevc ∧ s.streamerCodecId ≠ avCodecIdAv1 then s
  else
    let r := s.codec.changeCodec codecType
    { s with codec := r.1, streamerCodecId := if r.2 = 0 then codecType else s.streamerCodecId }

/-- The properties of a new profile and level, where they have names (`:1944-1952`). -/
def setProfileLevel (t : Encoder.CTransCoder) (profile level : String) : Encoder.CTransCoder :=
  let t := if profile ≠ "" then t.setOutputProp "profile" (some profile) else t
  if level ≠ "" then t.setOutputProp "level" (some level) else t

/-- `changeEncoderProfileLevel` (`:1934`). -/
def changeEncoderProfileLevel (names : Names) (s : CTransCoder) (profile level : Int) : Option CTransCoder :=
  match s.encoders.index 0 with
  | (_, none) => none
  | (encoders, some enc) =>
    let s := { s with encoders := encoders }
    let profileName := names.profile enc profile
    let levelName := names.level enc level
    if profileName = "" ∧ levelName = "" then some s
    else some { s with codec := setProfileLevel s.codec profileName levelName, isProfileLevelChange := true }

/-- `setRegionOfInterest`: decoder 0 is looked up with `operator[]` once the count is in range. -/
def setRegionOfInterest (s : CTransCoder) (roiNum : Int) (roiPara : Nat → Roi.AVRoI) : Option CTransCoder :=
  let decoder0 := (s.decoders.index 0).2.map fun dec => (dec.width, dec.height)
  -- where this returns, the lookup was not made or has found an entry, and the map is as it was
  (Roi.setRegionOfInterest ⟨decoder0, s.setROI, s.numROI, s.roiPara⟩ roiNum roiPara).map fun r =>
    { s with setROI := r.setROI, numROI := r.numROI, roiPara := r.roiPara }

/-- A call of a control. The setters that are not named write members that neither the maps nor the flags depend on. -/
def streamCall (names : Names) (s : CTransCoder) : StreamCall → Option CTransCoder
  | .changeResolution width height => some (streamerChangeResolution s width.toInt32.toInt height.toInt32.toInt)
  | .changeCodec value => some (changeCodec s value)
  | .setFramerate value => some { s with setFramerate := decide (value ≠ 0) }
  | .changeProfileLevel profile level =>
    changeEncoderProfileLevel names s profile.toInt32.toInt level.toInt32.toInt
  | _ => some s

/-- A control of the type `t`, with the payload of `v`. -/
def dispatched (t : VctrlType) (v : Vctrl) : Vctrl := { v with ctrlType := t.code }

/-- The control is dispatched; `events` are the ones after it, of which regions of interest take more. -/
def control (names : Names) (v42 : Bool) (s : CTransCoder) (t : VctrlType) (v : Vctrl) (events : Nat → Vctrl) :
    Option CTransCoder :=
  if v42 ∧ t = .roiSetting then
    match Roi.roiSetting (dispatched t v) events with
    | none => none
    | some (count, para) => setRegionOfInterest s count para
  else (World.dispatch (dispatched t v)).foldlM (streamCall names) s

/-! ## Runs -/

inductive Op where
  | packet (idx : Int) (dec : CDecoder) (ready : Bool)
  | flush (idx : Int) (ready : Bool)
  | frame (idx : Int)
  | streamAdded (idx : Int)
  | filterError
  | hwError
  /-- A shared buffer is created (`IrrStreamer.cpp:421`). -/
  | bufferCreated
  /-- The rectangle of the client has changed (`CTransCoder.cpp:656`). -/
  | crop (width height : Int)
  | control (t : VctrlType) (v : Vctrl) (events : Nat → Vctrl)

def step (names : Names) (v42 : Bool) (s : CTransCoder) : Op → Option CTransCoder
  | .packet idx dec ready => packet s idx dec ready
  | .flush idx ready => decodeStream s idx ready
  | .frame idx => frame s idx
  | .streamAdded idx => some { s with streamFound := Function.update s.streamFound idx (some true) }
  | .filterError => some (eraseFilters s)
  | .hwError => some { s with isEncHWError := true }
  | .bufferCreated => some (eraseEncoders s)
  | .crop width height => some (changeResolution s width height)
  | .control t v events => control names v42 s t v events

/-- Before the first packet. -/
def start (codec : Encoder.CTransCoder) (streamerCodecId : UInt32) : CTransCoder where
  codec := codec
  streamerCodecId := streamerCodecId
  isEncHWError := false
  isResolutionChange := false
  isProfileLevelChange := false
  setFramerate := false
  newWidth := 0
  newHeight := 0
  setROI := false
  numROI := 0
  roiPara := fun _ => .zero
  streamFound := fun _ => none
  decoders := PtrMap.empty
  filters := fun _ => none
  encoders := PtrMap.empty

/-- What a control has to leave: no null entry, and every filter gets an encoder with its next frame. -/
structure Sound (s : CTransCoder) : Prop where
  decoders : s.decoders.NoNull
  encoders : s.encoders.NoNull
  creates : ∀ idx filt, s.filters idx = some filt → ∃ s', frame s idx = some s' ∧ s'.encoders.Present idx

/-- Between one and eight regions are announced; and decoder 0 is there, unless the last event has another count that
the setter rejects. -/
def RoiReady (s : CTransCoder) (v : Vctrl) (events : Nat → Vctrl) : Prop :=
  1 ≤ v.u0.toNat ∧ v.u0.toNat ≤ Roi.MAX_ROI_NUM ∧
    let count := (Roi.lastEvent events v 0 v.u0.toNat).u0.toInt32.toInt
    (0 < count → count ≤ Roi.MAX_ROI_NUM → s.decoders.Present 0)

/-- For a profile or a level encoder 0 is there, and for regions of interest decoder 0. -/
def Ready (v42 : Bool) (s : CTransCoder) : Op → Prop
  | .control t v events =>
    (t = .profileLevel → s.encoders.Present 0) ∧
      (v42 = true → t = .roiSetting → RoiReady s (dispatched t v) events)
  | _ => True

/-! ## The maps hold no null pointer -/

/-- No entry is null, and a filter has a decoder. -/
structure Inv (s : CTransCoder) : Prop where
  decoders : s.decoders.NoNull
  encoders : s.encoders.NoNull
  decoded : ∀ idx, s.filters idx ≠ none → s.decoders.Present idx

/-- The three maps are as they were. -/
structure Kept (s s' : CTransCoder) : Prop where
  decoders : s'.decoders = s.decoders
  filters : s'.filters = s.filters
  encoders : s'.encoders = s.encoders

section
variable {s s' : CTransCoder} {idx : Int}

theorem Kept.refl (s : CTransCoder) : Kept s s := ⟨rfl, rfl, rfl⟩

theorem Kept.trans {s'' : CTransCoder} (h : Kept s s') (h' : Kept s' s'') : Kept s s'' :=
  ⟨h'.decoders.trans h.decoders, h'.filters.trans h.filters, h'.encoders.trans h.encoders⟩

theorem Inv.kept (h : Inv s) (hk : Kept s s') : Inv s' := by
  refine ⟨?_, ?_, fun idx hne => ?_⟩
  · rw [hk.decoders]; exact h.decoders
  · rw [hk.encoders]; exact h.encoders
  · rw [hk.decoders]
    exact h.decoded idx (hk.filters ▸ hne)

theorem Inv.start (codec : Encoder.CTransCoder) (streamerCodecId : UInt32) : Inv (start codec streamerCodecId) :=
  ⟨PtrMap.empty_noNull, PtrMap.empty_noNull, fun _ hne => absurd rfl hne⟩

theorem Inv.eraseFilters (h : Inv s) : Inv (eraseFilters s) := ⟨h.decoders, h.encoders, fun _ hne => absurd rfl hne⟩

theorem Inv.eraseEncoders (h : Inv s) : Inv (eraseEncoders s) := ⟨h.decoders, PtrMap.empty_noNull, h.decoded⟩

theorem Inv.setDecoder (h : Inv s) (idx : Int) (dec : CDecoder) :
    Inv { s with decoders := s.decoders.set idx dec } :=
  ⟨h.decoders.set idx dec, h.encoders, fun idx' hne => (h.decoded idx' hne).set idx dec⟩

theorem Inv.noteStream (h : Inv s) (idx : Int) : Inv (noteStream s idx) := by
  unfold Controls.noteStream
  split
  · exact h.kept ⟨rfl, rfl, rfl⟩
  · exact h

theorem Inv.addDecoder (h : Inv s) (idx : Int) (dec : CDecoder) : Inv (addDecoder s idx dec) := by
  unfold Controls.addDecoder
  split
  · exact h
  · cases dec.type with
    | video => exact h.setDecoder idx dec
    | audio => exact h.setDecoder idx dec
    | other => exact h.kept ⟨rfl, rfl, rfl⟩

theorem Inv.restartFilters (h : Inv s) : Inv (restartFilters s) := by
  unfold Controls.restartFilters
  split
  · exact h.eraseFilters
  · exact h

theorem Inv.createFilter (h : Inv s) (idx : Int) (dec : CDecoder) (ready : Bool) :
    Inv (createFilter s idx dec ready) := by
  unfold Controls.createFilter
  split
  · have hset := h.setDecoder idx (resized s dec)
    refine ⟨hset.decoders, hset.encoders, fun idx' hne => ?_⟩
    by_cases heq : idx' = idx
    · subst heq
      exact PtrMap.set_present _ _ _
    · exact hset.decoded idx' (by simpa [Function.update_of_ne heq] using hne)
  · exact h

/-- A stream with a decoder is decoded, with a filter or without. -/
theorem Inv.decode (h : Inv s) (hdec : s.decoders.Present idx) (ready : Bool) :
    ∃ s', decode s idx ready = some s' ∧ Inv s' := by
  obtain ⟨dec, hdec⟩ := hdec
  refine ⟨Controls.createFilter (Controls.restartFilters s) idx dec ready, ?_, h.restartFilters.createFilter idx dec ready⟩
  simp only [Controls.decode, PtrMap.index_of_present hdec]

theorem Inv.decodeStream (h : Inv s) (idx : Int) (ready : Bool) : ∃ s', decodeStream s idx ready = some s' ∧ Inv s' := by
  unfold Controls.decodeStream
  split
  · exact ⟨s, rfl, h⟩
  · next hne => exact h.decode (h.decoders.present hne) ready

theorem Inv.packet (h : Inv s) (idx : Int) (dec : CDecoder) (ready : Bool) :
    ∃ s', packet s idx dec ready = some s' ∧ Inv s' := by
  refine Inv.decodeStream ?_ idx ready
  split
  · exact (h.noteStream idx).addDecoder idx dec
  · exact h

theorem Inv.restartEncoders (h : Inv s) : Inv (restartEncoders s) := by
  unfold Controls.restartEncoders
  split
  · exact h.eraseEncoders.kept ⟨rfl, rfl, rfl⟩
  · exact h

theorem restartEncoders_filters (s : CTransCoder) : (restartEncoders s).filters = s.filters := by
  unfold restartEncoders
  split <;> rfl

theorem Inv.createEncoder (h : Inv s) (idx : Int) (filt : CFilter) :
    Inv (createEncoder s idx filt) ∧ (createEncoder s idx filt).encoders.Present idx := by
  unfold Controls.createEncoder
  split
  · exact ⟨⟨h.decoders, h.encoders.set idx _, h.decoded⟩, PtrMap.set_present _ _ _⟩
  · next hne => exact ⟨h, h.encoders.present hne⟩

theorem createEncoder_filters (s : CTransCoder) (idx : Int) (filt : CFilter) :
    (createEncoder s idx filt).filters = s.filters := by
  unfold createEncoder
  split <;> rfl

/-- Where decoder and encoder are there, the frame rate gets to them and the maps stay. -/
theorem updateDynamicChangedFramerate_kept (hdec : s.decoders.Present idx) (henc : s.encoders.Present idx) :
    ∃ s', updateDynamicChangedFramerate s idx = some s' ∧ Kept s s' := by
  obtain ⟨dec, hdec⟩ := hdec
  obtain ⟨enc, henc⟩ := henc
  unfold updateDynamicChangedFramerate
  rw [PtrMap.index_of_present hdec, PtrMap.index_of_present henc]
  split
  · exact ⟨_, rfl, rfl, rfl, rfl⟩
  · exact ⟨s, rfl, Kept.refl s⟩

/-- A frame finds its encoder, or makes it. -/
theorem Inv.frame (h : Inv s) {filt : CFilter} (hfilt : s.filters idx = some filt) :
    ∃ s', frame s idx = some s' ∧ Inv s' ∧ s'.encoders.Present idx := by
  obtain ⟨hinv, henc⟩ := h.restartEncoders.createEncoder idx filt
  have hdec : (Controls.createEncoder (Controls.restartEncoders s) idx filt).decoders.Present idx := by
    refine hinv.decoded idx ?_
    rw [createEncoder_filters, restartEncoders_filters, hfilt]
    exact Option.some_ne_none filt
  obtain ⟨enc, hentry⟩ := henc
  obtain ⟨s', hs', hkept⟩ := updateDynamicChangedFramerate_kept hdec ⟨enc, hentry⟩
  refine ⟨s', ?_, hinv.kept hkept, enc, ?_⟩
  · simp only [Controls.frame, hfilt, PtrMap.index_of_present hentry]
    exact hs'
  · rw [hkept.encoders]
    exact hentry

theorem Inv.sound (h : Inv s) : Sound s where
  decoders := h.decoders
  encoders := h.encoders
  creates := by
    intro idx filt hfilt
    obtain ⟨s', hs', -, henc⟩ := h.frame hfilt
    exact ⟨s', hs', henc⟩

/-! ## The controls keep the maps -/

theorem changeResolution_kept (s : CTransCoder) (width height : Int) : Kept s (changeResolution s width height) := by
  unfold changeResolution
  split
  · exact ⟨rfl, rfl, rfl⟩
  · exact Kept.refl s

/-- Every call but the one for the profile returns with the maps as they were. -/
theorem streamCall_kept (names : Names) (s : CTransCoder) (call : StreamCall)
    (hcall : ∀ profile level, call ≠ .changeProfileLevel profile level) :
    ∃ s', streamCall names s call = some s' ∧ Kept s s' := by
  cases call with
  | changeProfileLevel profile level => exact absurd rfl (hcall profile level)
  | changeResolution width height =>
    refine ⟨_, rfl, ?_⟩
    unfold streamerChangeResolution
    split
    · exact Kept.refl s
    · split
      · exact Kept.refl s
      · split
        · exact Kept.refl s
        · exact changeResolution_kept s _ _
  | changeCodec value =>
    refine ⟨_, rfl, ?_⟩
    unfold changeCodec
    split
    · exact Kept.refl s
    · exact ⟨rfl, rfl, rfl⟩
  | setFramerate value => exact ⟨_, rfl, rfl, rfl, rfl⟩
  | _ => exact ⟨s, rfl, Kept.refl s⟩

/-- The call for the profile returns exactly where encoder 0 is there. -/
theorem changeEncoderProfileLevel_spec (names : Names) (s : CTransCoder) (profile level : Int) :
    (s.encoders.Present 0 → ∃ s', changeEncoderProfileLevel names s profile level = some s' ∧ Kept s s') ∧
      (¬ s.encoders.Present 0 → changeEncoderProfileLevel names s profile level = none) := by
  unfold changeEncoderProfileLevel
  constructor
  · rintro ⟨enc, henc⟩
    rw [PtrMap.index_of_present henc]
    simp only
    split
    · exact ⟨_, rfl, rfl, rfl, rfl⟩
    · exact ⟨_, rfl, rfl, rfl, rfl⟩
  · intro habsent
    obtain ⟨m, hm⟩ := PtrMap.index_of_absent habsent
    rw [hm]

/-- The setter of the regions returns exactly where the count is out of range or decoder 0 is there. -/
theorem setRegionOfInterest_spec (s : CTransCoder) (roiNum : Int) (roiPara : Nat → Roi.AVRoI) :
    ((0 < roiNum → roiNum ≤ Roi.MAX_ROI_NUM → s.decoders.Present 0) →
        ∃ s', setRegionOfInterest s roiNum roiPara = some s' ∧ Kept s s') ∧
      (¬ (0 < roiNum → roiNum ≤ Roi.MAX_ROI_NUM → s.decoders.Present 0) →
        setRegionOfInterest s roiNum roiPara = none) := by
  unfold setRegionOfInterest Roi.setRegionOfInterest
  by_cases hrange : roiNum ≤ 0 ∨ roiNum > Roi.MAX_ROI_NUM
  · refine ⟨fun _ => ?_, fun h => absurd (fun h1 h2 => ?_) h⟩
    · simp only [if_pos hrange]
      exact ⟨_, rfl, rfl, rfl, rfl⟩
    · omega
  · simp only [if_neg hrange]
    have hiff : (0 < roiNum → roiNum ≤ Roi.MAX_ROI_NUM → s.decoders.Present 0) ↔ s.decoders.Present 0 := by
      refine ⟨fun h => h (by omega) (by omega), fun h _ _ => h⟩
    rw [hiff]
    constructor
    · rintro ⟨dec, hdec⟩
      rw [PtrMap.index_of_present hdec]
      exact ⟨_, rfl, rfl, rfl, rfl⟩
    · intro habsent
      obtain ⟨m, hm⟩ := PtrMap.index_of_absent habsent
      rw [hm]
      rfl

/-- Calls that are not for the profile are made one after the other. -/
theorem foldlM_streamCall_kept (names : Names) (calls : List StreamCall)
    (hcalls : ∀ call ∈ calls, ∀ profile level, call ≠ .changeProfileLevel profile level) (s : CTransCoder) :
    ∃ s', calls.foldlM (streamCall names) s = some s' ∧ Kept s s' := by
  induction calls generalizing s with
  | nil => exact ⟨s, rfl, Kept.refl s⟩
  | cons call calls ih =>
    obtain ⟨s', hs', hkept⟩ := streamCall_kept names s call (hcalls call List.mem_cons_self)
    obtain ⟨s'', hs'', hkept'⟩ := ih (fun c hc => hcalls c (List.mem_cons_of_mem _ hc)) s'
    refine ⟨s'', ?_, hkept.trans hkept'⟩
    rw [List.foldlM_cons, hs']
    exact hs''

/-- Only the control for the profile makes that call. -/
theorem setter_calls {t : VctrlType} (ht : t ≠ .profileLevel) (v : Vctrl) :
    ∀ call ∈ t.setter v, ∀ profile level, call ≠ .changeProfileLevel profile level := by
  intro call hcall profile level heq
  subst heq
  cases t with
  | profileLevel => exact ht rfl
  | skipFrameSetting =>
    simp only [VctrlType.setter] at hcall
    split at hcall
    · simp at hcall
    · split at hcall <;> simp at hcall
  | _ => simp [VctrlType.setter] at hcall

/-- A control returns exactly where what it uses is there, and then the maps are as they were. -/
theorem control_spec (names : Names) (v42 : Bool) (s : CTransCoder) (t : VctrlType) (v : Vctrl)
    (events : Nat → Vctrl) :
    (Ready v42 s (.control t v events) → ∃ s', control names v42 s t v events = some s' ∧ Kept s s') ∧
      (¬ Ready v42 s (.control t v events) → control names v42 s t v events = none) := by
  unfold control Ready
  by_cases hroi : v42 = true ∧ t = .roiSetting
  · obtain ⟨rfl, rfl⟩ := hroi
    obtain ⟨hin, hout⟩ := Roi.roiSetting_spec (dispatched .roiSetting v) events
    rw [if_pos ⟨rfl, rfl⟩]
    by_cases hcount : 1 ≤ (dispatched .roiSetting v).u0.toNat ∧ (dispatched .roiSetting v).u0.toNat ≤ Roi.MAX_ROI_NUM
    · obtain ⟨para, hpara⟩ := hin hcount
      obtain ⟨hset, hnone⟩ := setRegionOfInterest_spec s
        (Roi.lastEvent events (dispatched .roiSetting v) 0 (dispatched .roiSetting v).u0.toNat).u0.toInt32.toInt para
      rw [hpara]
      refine ⟨fun h => hset (h.2 rfl rfl).2.2, fun h => hnone fun hpres => ?_⟩
      exact h ⟨fun ht => absurd ht (by decide), fun _ _ => ⟨hcount.1, hcount.2, hpres⟩⟩
    · rw [hout hcount]
      exact ⟨fun h => absurd ⟨(h.2 rfl rfl).1, (h.2 rfl rfl).2.1⟩ hcount, fun _ => rfl⟩
  · rw [if_neg hroi, switch_setter (dispatched t v) t rfl]
    have hnot : ∀ h1 : v42 = true, t = .roiSetting → RoiReady s (dispatched t v) events :=
      fun h1 h2 => absurd ⟨h1, h2⟩ hroi
    by_cases ht : t = .profileLevel
    · subst ht
      obtain ⟨hset, hnone⟩ := changeEncoderProfileLevel_spec names s v.u1.toInt32.toInt v.u2.toInt32.toInt
      have hfold : (VctrlType.profileLevel.setter (dispatched .profileLevel v)).foldlM (streamCall names) s =
          changeEncoderProfileLevel names s v.u1.toInt32.toInt v.u2.toInt32.toInt := by
        simp [VctrlType.setter, streamCall, dispatched]
      rw [hfold]
      exact ⟨fun h => hset (h.1 rfl), fun h => hnone fun hpres => h ⟨fun _ => hpres, hnot⟩⟩
    · refine ⟨fun _ => foldlM_streamCall_kept names _ (setter_calls ht _) s, fun h => ?_⟩
      exact absurd ⟨fun h' => absurd h' ht, hnot⟩ h

/-! ## Whole runs -/

/-- The steps other than controls always get through. -/
theorem Inv.step (h : Inv s) (names : Names) (v42 : Bool) {op : Op} (hready : Ready v42 s op) :
    ∃ s', step names v42 s op = some s' ∧ Inv s' := by
  cases op with
  | packet idx dec ready => exact h.packet idx dec ready
  | flush idx ready => exact h.decodeStream idx ready
  | frame idx =>
    cases hfilt : s.filters idx with
    | none => exact ⟨s, by simp only [Controls.step, Controls.frame, hfilt], h⟩
    | some filt =>
      obtain ⟨s', hs', hinv, -⟩ := h.frame hfilt
      exact ⟨s', hs', hinv⟩
  | streamAdded idx => exact ⟨_, rfl, h.kept ⟨rfl, rfl, rfl⟩⟩
  | filterError => exact ⟨_, rfl, h.eraseFilters⟩
  | hwError => exact ⟨_, rfl, h.kept ⟨rfl, rfl, rfl⟩⟩
  | bufferCreated => exact ⟨_, rfl, h.eraseEncoders⟩
  | crop width height => exact ⟨_, rfl, h.kept (changeResolution_kept s width height)⟩
  | control t v events =>
    obtain ⟨s', hs', hkept⟩ := (control_spec names v42 s t v events).1 hready
    exact ⟨s', hs', h.kept hkept⟩

theorem step_iff (h : Inv s) (names : Names) (v42 : Bool) (op : Op) :
    (∃ s', step names v42 s op = some s' ∧ Sound s') ↔ Ready v42 s op := by
  constructor
  · rintro ⟨s', hs', -⟩
    cases op with
    | control t v events =>
      by_contra hready
      rw [step, (control_spec names v42 s t v events).2 hready] at hs'
      cases hs'
    | _ => trivial
  · intro hready
    obtain ⟨s', hs', hinv⟩ := h.step names v42 hready
    exact ⟨s', hs', hinv.sound⟩

end

/-- **Controls in any state.** A run of packets, frames, errors and controls, in any order and from the start, gets
through with no null entry and an encoder for every filter after each step, exactly when encoder 0 is there at every
control for a profile or level, and decoder 0 at every one for regions of interest whose count is accepted. -/
theorem controls_iff_ready (names : Names) (v42 : Bool) (codec : Encoder.CTransCoder) (streamerCodecId : UInt32)
    (ops : List Op) :
    Runs.Succeeds (step names v42) (fun _ _ s' => Sound s') (start codec streamerCodecId) ops ↔
      Runs.Requires (step names v42) (Ready v42) (start codec streamerCodecId) ops := by
  refine Runs.succeeds_iff (I := Inv) (fun s op h => step_iff h names v42 op) ?_ ops _ (Inv.start codec streamerCodecId)
  intro s op s' h hs' hsound
  obtain ⟨s'', hs'', hinv⟩ := h.step names v42 ((step_iff h names v42 op).mp ⟨s', hs', hsound⟩)
  obtain rfl := Option.some.inj (hs'.symm.trans hs'')
  exact hinv

/-- A control for the profile before the first frame. -/
theorem early_profile_control :
    ¬ Runs.Succeeds (step ⟨fun _ _ => "high", fun _ _ => "4"⟩ false) (fun _ _ s' => Sound s')
      (start ⟨avCodecIdH264, false, false, true, fun _ => none⟩ avCodecIdH264)
      [.control .profileLevel ⟨0, 0, 100, 40, 0, 0, 0, 0⟩ fun _ => ⟨0, 0, 0, 0, 0, 0, 0, 0⟩] := by
  rintro ⟨s', hs', -⟩
  cases hs'

end CloudStreaming.Encoder.Controls
