import CloudStreaming.Irrv.Receiver

/-!
# Changing the codec (`encoder/shared/IrrStreamer.cpp:681-700`, `encoder/shared/CTransCoder.cpp:1499-1539`)

The id of the codec is kept three times: by `IrrStreamer`, which puts it in `VHEAD`, by `CTransCoder` and by the
runtime writer. `IrrStreamer::change_codec` announces a change to the clients when `CTransCoder::changeCodec` returns
0. It returns 0 also when the codec is the one in use, where its header (`CTransCoder.h:154`) promises -1; the
receiver takes the announcement for an unknown event and disconnects (`CSendRecvMessage.cpp:636`).

| here | there |
| --- | --- |
| `CTransCoder`      | what `changeCodec` reads and writes; `outProp` is `m_pOutProp` |
| `Streamer`         | `IrrStreamer` with a running transcoder, its mux and its runtime writer |
| `CallbackMux`      | `CCallbackMux`: `m_Opaque`, `m_Opaque2`, the servers a message goes to |
| `Request`          | `IRRV_CTRL_CHANGE_CODEC_TYPE` of a client of `server`; `clients`: who is connected then |
| `messages`         | not in the source: the messages sent, the oldest first |

The mux is the IRRV one: control messages come over nothing else.
-/

namespace CloudStreaming.Encoder

open Irrv Bytes

/-- `H264`, `H265`, `AV1` of `irrv_protocol.h:289-291`, equal to the ids of FFmpeg. -/
def avCodecIdH264 : UInt32 := 27
def avCodecIdHevc : UInt32 := 173
def avCodecIdAv1 : UInt32 := 226

/-- `IRRV_MESSAGE_VIDEO_FORMAT_CHANGE`. -/
def irrvMessageVideoFormatChange : UInt32 := 1

structure CTransCoder where
  codecId : UInt32
  isCodecChange : Bool
  vaapiPlugin : Bool
  qsvPlugin : Bool
  outProp : String → Option String

/-- `setOutputProp`: `av_dict_set`, which removes the entry for a null value. -/
def CTransCoder.setOutputProp (t : CTransCoder) (key : String) (value : Option String) : CTransCoder :=
  { t with outProp := Function.update t.outProp key value }

/-- The encoder of a codec with the plugin in use; with none of them the property stays. -/
def CTransCoder.setEncoder (t : CTransCoder) (vaapi qsv : String) : CTransCoder :=
  if t.vaapiPlugin then t.setOutputProp "c" (some vaapi)
  else if t.qsvPlugin then t.setOutputProp "c" (some qsv)
  else t

/-- `CTransCoder::changeCodec` (`CTransCoder.cpp:1499`). -/
def CTransCoder.changeCodec (t : CTransCoder) (codecType : UInt32) : CTransCoder × Int :=
  if codecType ≠ avCodecIdH264 ∧ codecType ≠ avCodecIdHevc then (t, -1)
  else if t.codecId ≠ codecType then
    let t := { t with codecId := codecType, isCodecChange := true }
    let t := t.setOutputProp "profile" none
    let t := t.setOutputProp "level" none
    if t.codecId = avCodecIdH264 then (t.setEncoder "h264_vaapi" "h264_qsv", 0)
    else if t.codecId = avCodecIdHevc then (t.setEncoder "hevc_vaapi" "hevc_qsv", 0)
    else if t.codecId = avCodecIdAv1 then (t.setEncoder "av1_vaapi" "av1_qsv", 0)
    else (t, 0)
  else (t, 0)

structure CallbackMux where
  opaque1 : Option Server
  opaque2 : Option Server

structure Streamer where
  trans : CTransCoder
  codecId : UInt32
  mux : CallbackMux
  writerCodecId : UInt32
  messages : List (Conn × Buf)

structure Request where
  server : Server
  clients : Server → Option Conn
  value : UInt32

/-- `irrv_send_message` (`irrv_protocol.cpp:226`): nothing is sent to no server and to a server with no client. -/
def messageTo (clients : Server → Option Conn) (server : Option Server) (msg value : UInt32) : List (Conn × Buf) :=
  match server.bind clients with
  | none => []
  | some c => [(c, messageEvent msg value)]

/-- `CCallbackMux::sendMessage` (`CCallbackMux.cpp:176`). -/
def CallbackMux.sendMessage (m : CallbackMux) (clients : Server → Option Conn) (msg value : UInt32) :
    List (Conn × Buf) :=
  messageTo clients m.opaque1 msg value ++ messageTo clients m.opaque2 msg value

/-- `IrrStreamer::change_codec` (`IrrStreamer.cpp:681`) up to its return value, which nobody reads. -/
def Streamer.changeCodec (s : Streamer) (clients : Server → Option Conn) (codecType : UInt32) : Streamer :=
  if s.codecId ≠ avCodecIdH264 ∧ s.codecId ≠ avCodecIdHevc ∧ s.codecId ≠ avCodecIdAv1 then s
  else
    let (trans, ret) := s.trans.changeCodec codecType
    if ret = 0 then
      { s with
        trans := trans
        codecId := codecType
        messages := s.messages ++ s.mux.sendMessage clients irrvMessageVideoFormatChange codecType
        writerCodecId := codecType }
    else { s with trans := trans }

/-- The request comes over one of the servers of the mux, and so from its client. -/
def Request.Arrives (s : Streamer) (req : Request) : Prop :=
  (s.mux.opaque1 = some req.server ∨ s.mux.opaque2 = some req.server) ∧ (req.clients req.server).isSome

instance (s : Streamer) (req : Request) : Decidable (req.Arrives s) :=
  inferInstanceAs (Decidable ((_ ∨ _) ∧ _))

def step (s : Streamer) (req : Request) : Streamer :=
  if req.Arrives s then s.changeCodec req.clients req.value else s

/-- The codec of the url (`IrrStreamer.cpp:181-192`). -/
def codecOfUrl (url : List Char) : UInt32 :=
  if "irrv:264".toList.isPrefixOf url then avCodecIdH264
  else if "irrv:265".toList.isPrefixOf url then avCodecIdHevc
  else if "irrv:av1".toList.isPrefixOf url then avCodecIdAv1
  else avCodecIdH264

/-- After `IrrStreamer::start`. -/
def started (url : List Char) (vaapiPlugin qsvPlugin : Bool) (outProp : String → Option String) (mux : CallbackMux) :
    Streamer where
  trans := ⟨codecOfUrl url, false, vaapiPlugin, qsvPlugin, outProp⟩
  codecId := codecOfUrl url
  mux := mux
  writerCodecId := codecOfUrl url
  messages := []

/-! ## One request -/

/-- The three ids agree on a codec there is. -/
structure Agree (s : Streamer) : Prop where
  trans : s.trans.codecId = s.codecId
  writer : s.writerCodecId = s.codecId
  known : s.codecId = avCodecIdH264 ∨ s.codecId = avCodecIdHevc ∨ s.codecId = avCodecIdAv1

/-- The request is answered as it should be: it is announced if it changes the codec and only then, the three ids
agree after it, and a request for the codec in use does nothing. -/
structure Answered (s : Streamer) (req : Request) : Prop where
  announced : (∃ c, (c, messageEvent irrvMessageVideoFormatChange req.value) ∈
      (step s req).messages.drop s.messages.length) ↔ (step s req).trans.codecId ≠ s.trans.codecId
  agree : Agree (step s req)
  idle : req.value = s.trans.codecId → step s req = s

/-- The request does not ask for H264 or HEVC when that is the codec in use. -/
def Differs (s : Streamer) (req : Request) : Prop :=
  req.Arrives s → req.value = avCodecIdH264 ∨ req.value = avCodecIdHevc → req.value ≠ s.trans.codecId

/-- What `changeCodec` answers and which codec it leaves. -/
theorem changeCodec_spec (t : CTransCoder) (codecType : UInt32) :
    if codecType = avCodecIdH264 ∨ codecType = avCodecIdHevc then
      (t.changeCodec codecType).2 = 0 ∧ (t.changeCodec codecType).1.codecId = codecType ∧
        (t.codecId = codecType → (t.changeCodec codecType).1 = t)
    else t.changeCodec codecType = (t, -1) := by
  have hset : ∀ (u : CTransCoder) (vaapi qsv : String), (u.setEncoder vaapi qsv).codecId = u.codecId := by
    intro u vaapi qsv
    unfold CTransCoder.setEncoder
    split
    · rfl
    · split <;> rfl
  by_cases hok : codecType = avCodecIdH264 ∨ codecType = avCodecIdHevc
  · rw [if_pos hok]
    have hnot : ¬(codecType ≠ avCodecIdH264 ∧ codecType ≠ avCodecIdHevc) := by tauto
    unfold CTransCoder.changeCodec
    rw [if_neg hnot]
    by_cases hne : t.codecId ≠ codecType
    · rw [if_pos hne]
      rcases hok with rfl | rfl
      · exact ⟨rfl, hset _ _ _, fun h => absurd h hne⟩
      · exact ⟨rfl, hset _ _ _, fun h => absurd h hne⟩
    · rw [if_neg hne]
      exact ⟨rfl, not_not.mp hne, fun _ => rfl⟩
  · rw [if_neg hok]
    unfold CTransCoder.changeCodec
    rw [if_pos (not_or.mp hok)]

/-- The client that asked gets the message. -/
theorem sendMessage_requester {s : Streamer} {req : Request} (h : req.Arrives s) (msg value : UInt32) :
    ∃ c, (c, messageEvent msg value) ∈ s.mux.sendMessage req.clients msg value := by
  obtain ⟨hserver, hclient⟩ := h
  obtain ⟨c, hc⟩ := Option.isSome_iff_exists.mp hclient
  refine ⟨c, ?_⟩
  unfold CallbackMux.sendMessage
  rcases hserver with h | h
  · simp [messageTo, h, hc]
  · simp [messageTo, h, hc]

/-- A request for a codec that is not accepted changes nothing. -/
theorem step_rejected {s : Streamer} {req : Request} (hagree : Agree s)
    (hno : ¬(req.value = avCodecIdH264 ∨ req.value = avCodecIdHevc)) : step s req = s := by
  unfold step
  split
  · have hspec := changeCodec_spec s.trans req.value
    rw [if_neg hno] at hspec
    have hknown := hagree.known
    unfold Streamer.changeCodec
    rw [if_neg (by tauto), hspec]
    rfl
  · rfl

/-- A request for a codec that is accepted: all three ids are set, and it is announced. -/
theorem step_accepted {s : Streamer} {req : Request} (hagree : Agree s) (harr : req.Arrives s)
    (hok : req.value = avCodecIdH264 ∨ req.value = avCodecIdHevc) :
    step s req = { s with
      trans := (s.trans.changeCodec req.value).1
      codecId := req.value
      messages := s.messages ++ s.mux.sendMessage req.clients irrvMessageVideoFormatChange req.value
      writerCodecId := req.value } := by
  have hspec := changeCodec_spec s.trans req.value
  rw [if_pos hok] at hspec
  have hknown := hagree.known
  unfold step Streamer.changeCodec
  rw [if_pos harr, if_neg (by tauto)]
  simp only [hspec.1, if_true]

theorem Agree.step {s : Streamer} (hagree : Agree s) (req : Request) : Agree (step s req) := by
  by_cases harr : req.Arrives s
  · by_cases hok : req.value = avCodecIdH264 ∨ req.value = avCodecIdHevc
    · have hspec := changeCodec_spec s.trans req.value
      rw [if_pos hok] at hspec
      rw [step_accepted hagree harr hok]
      exact ⟨hspec.2.1, rfl, by tauto⟩
    · rw [step_rejected hagree hok]
      exact hagree
  · rw [Encoder.step, if_neg harr]
    exact hagree

theorem answered_iff {s : Streamer} (hagree : Agree s) (req : Request) : Answered s req ↔ Differs s req := by
  by_cases harr : req.Arrives s
  · by_cases hok : req.value = avCodecIdH264 ∨ req.value = avCodecIdHevc
    · have hspec := changeCodec_spec s.trans req.value
      rw [if_pos hok] at hspec
      have hstep := step_accepted hagree harr hok
      have hsent : ∃ c, (c, messageEvent irrvMessageVideoFormatChange req.value) ∈
          (step s req).messages.drop s.messages.length := by
        rw [hstep]
        simpa using sendMessage_requester harr irrvMessageVideoFormatChange req.value
      have hcodec : (step s req).trans.codecId = req.value := by
        rw [hstep]
        exact hspec.2.1
      constructor
      · intro h _ _ heq
        exact h.announced.mp hsent (hcodec.trans heq)
      · intro h
        have hne := h harr hok
        refine ⟨iff_of_true hsent ?_, hagree.step req, fun heq => absurd heq hne⟩
        rw [hcodec]
        exact hne
    · have hstep := step_rejected hagree hok
      refine iff_of_true ⟨?_, hagree.step req, fun _ => hstep⟩ fun _ h => absurd h hok
      rw [hstep]
      simp
  · have hstep : step s req = s := if_neg harr
    refine iff_of_true ⟨?_, hagree.step req, fun _ => hstep⟩ fun h => absurd h harr
    rw [hstep]
    simp

/-! ## Every sequence of requests -/

theorem Agree.started (url : List Char) (vaapiPlugin qsvPlugin : Bool) (outProp : String → Option String)
    (mux : CallbackMux) : Agree (started url vaapiPlugin qsvPlugin outProp mux) := by
  refine ⟨rfl, rfl, ?_⟩
  show codecOfUrl url = _ ∨ codecOfUrl url = _ ∨ codecOfUrl url = _
  unfold codecOfUrl
  split
  · exact .inl rfl
  · split
    · exact .inr (.inl rfl)
    · split
      · exact .inr (.inr rfl)
      · exact .inl rfl

/-- **When codec changes are announced right.** Every request of a sequence, from any started streamer, is announced
if and only if it changes the codec, leaves the three ids equal and does nothing when it asks for the codec in use,
exactly when no request asks for H264 or HEVC while that is the codec in use. -/
theorem codec_requests_answered_iff (url : List Char) (vaapiPlugin qsvPlugin : Bool)
    (outProp : String → Option String) (mux : CallbackMux) (reqs : List Request) :
    Runs.Meets step Answered (started url vaapiPlugin qsvPlugin outProp mux) reqs ↔
      Runs.Meets step Differs (started url vaapiPlugin qsvPlugin outProp mux) reqs := by
  refine Runs.meets_iff (I := Agree) ?_ ?_ reqs _ (Agree.started url vaapiPlugin qsvPlugin outProp mux)
  · intro s req h
    exact answered_iff h req
  · intro s req h _
    exact h.step req

/-! ## What the receiver makes of it -/

/-- Whatever is announced, the receiver that reads the header of the message disconnects. -/
theorem message_disconnects {bs rest : Buf} {r : Receiver} {call : Call} {msg value : UInt32}
    (hconn : r.connected = true) (hfill : r.filling = none) (hpoll : call.polled = .ready)
    (hbs : bs.drop r.pos = messageEvent msg value ++ rest)
    (hhead : sockClientRecv call.header eventLen (bs.drop r.pos) = some eventLen) :
    (r.recvEsStream bs call).connected = false := by
  unfold messageEvent at hbs
  rw [List.append_assoc] at hbs
  have hread : r.recvInto bs call.header eventLen = some ({ r with pos := r.pos + eventLen }, _) :=
    Receiver.recvInto_whole hbs hhead
  have htype : wordAt (event irrvMagic irrvEventMessage 48 0) 1 = irrvEventMessage := by decide
  unfold Receiver.recvEsStream
  simp only [hconn, hfill, hpoll, Bool.not_true, Bool.false_eq_true, if_false]
  unfold Receiver.readEvent
  simp only [hread, htype]
  rfl

/-- The defect: a client asks for the codec in use, the codec stays, and the message that announces the change makes
the receiver disconnect. -/
theorem same_codec_disconnects :
    let mux : CallbackMux := ⟨some 0, none⟩
    let s := started "irrv:264".toList false true (fun _ => none) mux
    let req : Request := ⟨0, fun _ => some 7, avCodecIdH264⟩
    let call : Call := ⟨.ready, .got 15, .again, []⟩
    (step s req).trans.codecId = s.trans.codecId ∧
      (step s req).messages = [(7, messageEvent irrvMessageVideoFormatChange avCodecIdH264)] ∧
      (Receiver.recvEsStream (messageEvent irrvMessageVideoFormatChange avCodecIdH264) Receiver.init call).connected =
        false := by
  decide

end CloudStreaming.Encoder
