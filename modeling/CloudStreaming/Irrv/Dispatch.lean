import CloudStreaming.Irrv.Control

/-!
# The dispatch of a control (`irrv_protocol.cpp:44-75`, `:323-454`)

The type of a control is a 32-bit number from the network. It is used twice: as the key of `VCtrlTypeMap`, for
the log line, and as the selector of the `switch`. The enumeration, the table and the `switch` are three lists;
`switch_setter` says that the `switch` calls the setter of each enumerator, and `vctrlName_iff` that the table
has every enumerator and nothing else. `std::map::at` throws where there is no entry, so the `default:` branch,
which is there for numbers that are no control (`ERROR encode setting (type < %d)`, `:451`), is reached by no
number above `IRRV_CTRL_END`: `vctrl_handled_iff`, `vctrl_unknown_aborts`.

| here | there |
| --- | --- |
| `VctrlType`, `code`   | `irrv_vctrl_type` (`irrv/irrv_protocol.h:146-177`) |
| `vctrlName`           | `VCtrlTypeMap.at(vctrl.ctrl_type)`; `none` is the exception |
| `controlCalls`        | the calls into the encoder of the VCTRL branch (`:325-453`) |
| `VctrlType.setter`    | not in the source: what each control is for, by its name |
-/

namespace CloudStreaming.Irrv

open Bytes

inductive VctrlType where
  | none
  | keyframeSetting
  | bitrateSetting
  | qpSetting
  | gopSetting
  | start
  | pause
  | stop
  | dumpStart
  | dumpStop
  | dumpFrames
  | resolution
  | framerateSetting
  | maxframesizeSetting
  | rirSetting
  | minMaxQpSetting
  | inputDumpStart
  | inputDumpStop
  | outputDumpStart
  | outputDumpStop
  | seiSetting
  | screenCaptureStart
  | screenCaptureStop
  | roiSetting
  | changeCodecType
  | maxBitrateSetting
  | skipFrameSetting
  | profileLevel
  | clientFeedback
  | ctrlEnd
  deriving DecidableEq, Repr

namespace VctrlType

/-- The value of an enumerator. -/
def code : VctrlType → UInt32
  | none => 0
  | keyframeSetting => 1
  | bitrateSetting => 2
  | qpSetting => 3
  | gopSetting => 4
  | start => 5
  | pause => 6
  | stop => 7
  | dumpStart => 8
  | dumpStop => 9
  | dumpFrames => 10
  | resolution => 11
  | framerateSetting => 12
  | maxframesizeSetting => 13
  | rirSetting => 14
  | minMaxQpSetting => 15
  | inputDumpStart => 16
  | inputDumpStop => 17
  | outputDumpStart => 18
  | outputDumpStop => 19
  | seiSetting => 20
  | screenCaptureStart => 21
  | screenCaptureStop => 22
  | roiSetting => 23
  | changeCodecType => 24
  | maxBitrateSetting => 25
  | skipFrameSetting => 26
  | profileLevel => 27
  | clientFeedback => 28
  | ctrlEnd => 29

/-- The calls a control asks for. `NONE` and `END` are no settings; the setter of `ROI_SETTING` is not part of
a build without `FFMPEG_v42`. -/
def setter (v : Vctrl) : VctrlType → List StreamCall
  | none | roiSetting | ctrlEnd => []
  | keyframeSetting => [.forceKeyframe v.u0]
  | bitrateSetting => [.setBitrate v.u0]
  | qpSetting => [.setQp v.u0]
  | gopSetting => [.setGopSize v.u0]
  | start => [.setEncodeFlag true, .setTransmitFlag true, .firstStartEncoding true]
  | pause => [.setTransmitFlag false]
  | stop => [.setEncodeFlag false, .setTransmitFlag false, .firstStartEncoding false]
  | dumpStart => [.runtimeWriterStart true true]
  | dumpStop => [.runtimeWriterStop true true]
  | dumpFrames => [.runtimeWriterStartWithFrameNum v.u0]
  | resolution => [.changeResolution v.u1 v.u2]
  | framerateSetting => [.setFramerate v.u0]
  | maxframesizeSetting => [.setMaxFrameSize v.u0]
  | rirSetting => [.setRollingIntraRefresh v.u1 v.u2 v.u3]
  | minMaxQpSetting => [.setMinMaxQp v.u1 v.u2]
  | inputDumpStart => [.runtimeWriterStart true false]
  | inputDumpStop => [.runtimeWriterStop true false]
  | outputDumpStart => [.runtimeWriterStart false true]
  | outputDumpStop => [.runtimeWriterStop false true]
  | seiSetting => [.setSei v.u1 v.u2]
  | screenCaptureStart => [.setScreenCaptureInterval v.u0, .setScreenCaptureQuality v.u1, .setScreenCaptureFlag true]
  | screenCaptureStop => [.setScreenCaptureFlag false]
  | changeCodecType => [.changeCodec v.u0]
  | maxBitrateSetting => [.setMaxBitrate v.u0]
  -- any other value is an error that only the log reports
  | skipFrameSetting => if v.u0 = 1 then [.setSkipframe true] else if v.u0 = 0 then [.setSkipframe false] else []
  | profileLevel => [.changeProfileLevel v.u1 v.u2]
  | clientFeedback => [.setClientFeedback v.u0 v.u1]

end VctrlType

/-- `VCtrlTypeMap` (`:44`). -/
def vCtrlTypeMap : List (VctrlType × String) :=
  [(.none, "IRRV_CTRL_NONE                 "),
    (.keyframeSetting, "IRRV_CTRL_KEYFRAME_SETTING     "),
    (.bitrateSetting, "IRRV_CTRL_BITRATE_SETTING      "),
    (.qpSetting, "IRRV_CTRL_QP_SETTING           "),
    (.gopSetting, "IRRV_CTRL_GOP_SETTING          "),
    (.start, "IRRV_CTRL_START                "),
    (.pause, "IRRV_CTRL_PAUSE                "),
    (.stop, "IRRV_CTRL_STOP                 "),
    (.dumpStart, "IRRV_CTRL_DUMP_START           "),
    (.dumpStop, "IRRV_CTRL_DUMP_STOP            "),
    (.dumpFrames, "IRRV_CTRL_DUMP_FRAMES          "),
    (.resolution, "IRRV_CTRL_RESOLUTION           "),
    (.framerateSetting, "IRRV_CTRL_FRAMERATE_SETTING    "),
    (.maxframesizeSetting, "IRRV_CTRL_MAXFRAMESIZE_SETTING "),
    (.rirSetting, "IRRV_CTRL_RIR_SETTING          "),
    (.minMaxQpSetting, "IRRV_CTRL_MIN_MAX_QP_SETTING   "),
    (.inputDumpStart, "IRRV_CTRL_INPUT_DUMP_START     "),
    (.inputDumpStop, "IRRV_CTRL_INPUT_DUMP_STOP      "),
    (.outputDumpStart, "IRRV_CTRL_OUTPUT_DUMP_START    "),
    (.outputDumpStop, "IRRV_CTRL_OUTPUT_DUMP_STOP     "),
    (.seiSetting, "IRRV_CTRL_SEI_SETTING          "),
    (.screenCaptureStart, "IRRV_CTRL_SCREEN_CAPTURE_START "),
    (.screenCaptureStop, "IRRV_CTRL_SCREEN_CAPTURE_STOP  "),
    (.roiSetting, "IRRV_CTRL_ROI_SETTING          "),
    (.changeCodecType, "IRRV_CTRL_CHANGE_CODEC_TYPE    "),
    (.maxBitrateSetting, "IRRV_CTRL_MAX_BITRATE_SETTING  "),
    (.skipFrameSetting, "IRRV_CTRL_SKIP_FRAME_SETTING   "),
    (.profileLevel, "IRRV_CTRL_PROFILE_LEVEL        "),
    (.clientFeedback, "IRRV_CTRL_CLIENT_FEEDBACK    "),
    (.ctrlEnd, "IRRV_CTRL_END                  ")]

def vctrlName (ctrlType : UInt32) : Option String :=
  (vCtrlTypeMap.find? fun e => e.1.code == ctrlType).map Prod.snd

/-- The VCTRL branch: the name for the log line, then the `switch`. -/
def controlCalls (v : Vctrl) : Option (List StreamCall) := (vctrlName v.ctrlType).map fun _ => World.dispatch v

/-! ## The three lists agree -/

theorem mem_vCtrlTypeMap (t : VctrlType) : ∃ name, (t, name) ∈ vCtrlTypeMap := by
  cases t <;> exact ⟨_, by simp [vCtrlTypeMap]; rfl⟩

theorem VctrlType.code_le (t : VctrlType) : t.code ≤ irrvCtrlEnd := by cases t <;> decide

/-- The enumerators are the numbers up to `IRRV_CTRL_END`. -/
theorem VctrlType.exists_code (k : UInt32) (h : k ≤ irrvCtrlEnd) : ∃ t : VctrlType, t.code = k := by
  have hall : ∀ n < 30, ∃ e ∈ vCtrlTypeMap, e.1.code = UInt32.ofNat n := by decide
  have hlt : k.toNat < 30 := Nat.lt_succ_of_le (UInt32.le_iff_toNat_le.mp h)
  obtain ⟨e, -, he⟩ := hall k.toNat hlt
  exact ⟨e.1, he.trans UInt32.ofNat_toNat⟩

theorem vctrlName_iff (k : UInt32) : (∃ name, vctrlName k = some name) ↔ k ≤ irrvCtrlEnd := by
  constructor
  · rintro ⟨name, h⟩
    obtain ⟨e, he, -⟩ := Option.map_eq_some_iff.mp h
    have hk : e.1.code = k := by simpa using List.find?_some he
    rw [← hk]
    exact e.1.code_le
  · intro h
    obtain ⟨t, ht⟩ := VctrlType.exists_code k h
    obtain ⟨name, hname⟩ := mem_vCtrlTypeMap t
    have hfound : (vCtrlTypeMap.find? fun e => e.1.code == k).isSome :=
      List.find?_isSome.mpr ⟨_, hname, by simpa using ht⟩
    obtain ⟨e, he⟩ := Option.isSome_iff_exists.mp hfound
    exact ⟨e.2, by rw [vctrlName, he]; rfl⟩

/-- Every case of the `switch` calls the setter of its enumerator. -/
theorem switch_setter (v : Vctrl) (t : VctrlType) (h : t.code = v.ctrlType) : World.dispatch v = t.setter v := by
  unfold World.dispatch
  rw [← h]
  cases t <;> rfl

theorem controlCalls_known (v : Vctrl) (t : VctrlType) (h : t.code = v.ctrlType) :
    controlCalls v = some (t.setter v) := by
  obtain ⟨name, hname⟩ := (vctrlName_iff v.ctrlType).mpr (h ▸ t.code_le)
  rw [controlCalls, hname, ← switch_setter v t h]
  rfl

theorem controlCalls_unknown (v : Vctrl) (h : ¬ v.ctrlType ≤ irrvCtrlEnd) : controlCalls v = none := by
  cases hn : vctrlName v.ctrlType with
  | none => rw [controlCalls, hn]; rfl
  | some name => exact absurd ((vctrlName_iff v.ctrlType).mp ⟨name, hn⟩) h

/-! ## A poll that reads a control -/

namespace World

/-- The control is read and logged. -/
def received (w : World) (s : Server) (c : Conn) (v : Vctrl) : World :=
  (w.afterHeader c (eventLen + bodyLen)).record (.vctrl s c v)

/-- The poll of server `s` reads a VCTRL event with the payload `v` whole, from a client `c` that is permitted
to control the encoder. Of the header only the type is looked at. -/
structure ReceivesVctrl (w : World) (s : Server) (c : Conn) (io : Io) (v : Vctrl) : Prop where
  live : w.aborted = false
  polls : w.Polls c s io
  event : ∃ head more, w.inbox c = head ++ v.toBytes ++ more ∧ head.length = eventLen ∧
    wordAt head 1 = irrvEventVctrl
  headerWhole : sockServerRecv io.recvHeader eventLen (w.inbox c) = eventLen
  bodyWhole : sockServerRecv io.recvBody bodyLen ((w.inbox c).drop eventLen) = bodyLen
  permitted : (!w.authFlag || (w.pollAccept s io).authPass s) = true

theorem pollAccept_aborted (w : World) (s : Server) (io : Io) : (w.pollAccept s io).aborted = w.aborted := by
  unfold pollAccept acceptClient
  split
  · cases io.created <;> rfl
  · rfl

/-- What the poll does with the control: the branch, or the exception. -/
theorem ReceivesVctrl.readEvent {w : World} {s : Server} {c : Conn} {io : Io} {v : Vctrl}
    (h : ReceivesVctrl w s c io v) :
    let w' := w.pollAccept s io
    w.irrvChecknewconn s io =
      match controlCalls v with
      | some calls => calls.foldl streamCall (w'.received s c v)
      | none => { w'.afterHeader c (eventLen + bodyLen) with aborted := true } := by
  intro w'
  obtain ⟨hsel, hc, hread⟩ := h.polls
  obtain ⟨head, more, hin, hlen, htype⟩ := h.event
  have hinbox : w'.inbox c = head ++ (v.toBytes ++ more) := by
    rw [← List.append_assoc, ← hin]
    exact pollAccept_inbox w s io c
  have hread' : w'.checkConnect c io = .readable := by
    rw [← hread]
    simp only [checkConnect, w', pollAccept_inbox]
  have hpoll : w.irrvChecknewconn s io = w'.readEvent s c io w.authFlag := by
    simp only [irrvChecknewconn]
    rw [if_pos hsel]
    simp only [show (w.pollAccept s io).clients s = some c from hc,
      show (w.pollAccept s io).checkConnect c io = .readable from hread']
    rfl
  have hwhole : sockServerRecv io.recvHeader eventLen (w'.inbox c) = eventLen := by
    rw [pollAccept_inbox]; exact h.headerWhole
  -- the buffer under `vctrl` is overwritten from end to end
  let buf := overlay (io.uninit.take bodyLen) (zeros bodyLen)
  have hbuf : buf.length = bodyLen := by
    simp only [buf, overlay, List.length_append, List.length_drop, List.length_take, zeros_length]
    omega
  have hbody : sockServerRecv io.recvBody buf.length ((w'.inbox c).drop eventLen) = buf.length := by
    rw [hbuf, pollAccept_inbox]; exact h.bodyWhole
  have hpayload : ((w'.inbox c).drop eventLen).take bodyLen = v.toBytes := by
    rw [hinbox, ← hlen, List.drop_left, ← v.toBytes_length, List.take_left]
  have hof : Vctrl.ofBytes v.toBytes = v := by simpa using v.ofBytes_toBytes []
  have hhead : wordAt ((w'.inbox c).take eventLen) 1 = irrvEventVctrl := by
    rw [hinbox, ← hlen, List.take_left]; exact htype
  rw [hpoll]
  simp only [World.readEvent]
  rw [readHeader_whole hwhole, hhead, if_neg (fun hh => absurd hh.1 (by decide)), if_pos ⟨rfl, h.permitted⟩]
  simp only [readVctrl]
  rw [recvBody_whole buf hbody, hbuf, hpayload, hof]
  by_cases hk : v.ctrlType ≤ irrvCtrlEnd
  · obtain ⟨t, ht⟩ := VctrlType.exists_code v.ctrlType hk
    rw [if_pos hk, controlCalls_known v t ht, applyVctrl, switch_setter v t ht]
    rfl
  · rw [if_neg hk, controlCalls_unknown v hk]

/-- A call into the encoder does not end the process. -/
theorem foldl_streamCall_aborted (calls : List StreamCall) (w : World) :
    (calls.foldl streamCall w).aborted = w.aborted := by
  induction calls generalizing w with
  | nil => rfl
  | cons call calls ih =>
    rw [List.foldl_cons, ih]
    cases call <;> rfl

/-- The poll that leads from `w` to `r` returns, has made exactly the calls of the control's setter, and for a
type that is no control has changed neither the encoder nor the connections. -/
structure Handled (w r : World) (s : Server) (c : Conn) (v : Vctrl) : Prop where
  returns : r.aborted = false
  setter : ∀ t : VctrlType, t.code = v.ctrlType →
    controlCalls v = some (t.setter v) ∧ r = (t.setter v).foldl streamCall (w.received s c v)
  undefined : (∀ t : VctrlType, t.code ≠ v.ctrlType) →
    controlCalls v = some [] ∧ r.streamer = w.streamer ∧ r.clients = w.clients ∧ r.authPass = w.authPass

/-- **Controls are handled**: a poll that reads a control handles it if and only if its type is one of the
enumerators, `IRRV_CTRL_END` included. -/
theorem vctrl_handled_iff (w : World) (s : Server) (c : Conn) (io : Io) (v : Vctrl)
    (h : w.ReceivesVctrl s c io v) :
    Handled (w.pollAccept s io) (w.irrvChecknewconn s io) s c v ↔ v.ctrlType ≤ irrvCtrlEnd := by
  have hr := h.readEvent
  have hlive : (w.pollAccept s io).aborted = false := (pollAccept_aborted w s io).trans h.live
  constructor
  · intro hh
    by_contra hk
    rw [controlCalls_unknown v hk] at hr
    have habort : (w.irrvChecknewconn s io).aborted = true := by rw [hr]
    exact absurd (habort.symm.trans hh.returns) (by simp)
  · intro hk
    obtain ⟨t, ht⟩ := VctrlType.exists_code v.ctrlType hk
    rw [controlCalls_known v t ht] at hr
    constructor
    case returns =>
      rw [hr, foldl_streamCall_aborted]
      exact hlive
    case setter =>
      intro u hu
      have hsame : u.setter v = t.setter v := by rw [← switch_setter v u hu, switch_setter v t ht]
      rw [hsame]
      exact ⟨controlCalls_known v t ht, hr⟩
    case undefined => exact fun hn => absurd ht (hn t)

/-- One client without authentication, whose connection 0 has sent one control. -/
def oneControl (v : Vctrl) : World :=
  { World.init (some ⟨false, 1, false, false⟩) with
    clients := fun _ => some 0, sent := fun _ => vctrlEvent v, nextConn := 1 }

/-- A control of the given type. -/
def ofType (ctrlType : UInt32) : Vctrl := ⟨ctrlType, 0, 0, 0, 0, 0, 0, 0⟩

theorem oneControl_receives (v : Vctrl) : (oneControl v).ReceivesVctrl 0 0 Io.ready v := by
  refine ⟨rfl, ⟨rfl, rfl, rfl⟩, ⟨event irrvMagic irrvEventVctrl 48 0, [], ?_, rfl, header_type ..⟩, rfl, rfl, rfl⟩
  simp [oneControl, inbox, vctrlEvent, World.init]

theorem vctrl_pause_handled :
    Handled ((oneControl (ofType 6)).pollAccept 0 Io.ready) ((oneControl (ofType 6)).irrvChecknewconn 0 Io.ready) 0 0
      (ofType 6) :=
  (vctrl_handled_iff _ 0 0 Io.ready (ofType 6) (oneControl_receives _)).mpr (by decide)

/-- **An unknown control ends the process**: with the type 30, the first number that is no control, the poll
does not return. -/
theorem vctrl_unknown_aborts :
    let w := oneControl (ofType 30)
    w.ReceivesVctrl 0 0 Io.ready (ofType 30) ∧ (∀ t : VctrlType, t.code ≠ 30) ∧
      (w.irrvChecknewconn 0 Io.ready).aborted = true ∧
      ¬ Handled (w.pollAccept 0 Io.ready) (w.irrvChecknewconn 0 Io.ready) 0 0 (ofType 30) := by
  intro w
  have habort : (w.irrvChecknewconn 0 Io.ready).aborted = true := by decide
  refine ⟨oneControl_receives _, fun t => ?_, habort, fun h => ?_⟩
  · cases t <;> decide
  · exact absurd (habort.symm.trans h.returns) (by simp)

end World
end CloudStreaming.Irrv
