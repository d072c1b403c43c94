import CloudStreaming.Irrv.Protocol
import Mathlib.Logic.Function.Basic

/-!
# The IRRV server (`shared/irrv/irrv_protocol.cpp`, `sock_util/sock_server.cpp`)

The state is the two maps of the file, `clients` and `auth_pass`, the registered `IrrStreamer`, and what
the peers of the connections have sent. A connection gets a new number when it is accepted, so that two
connections of one server are told apart; the map has the proxy of the current one. What the operating
system decides is the argument `Io` of a call: whether there is a new connection, whether it can be
accepted, what `select` and `FIONREAD` report, and the outcome of each `send` and `recv`.

| here | there |
| --- | --- |
| `World.log`     | not in the source: what was accepted, sent, read and applied, newest first |
| `Dims`          | what `irr_stream_get_encode_new_width` and its kind return during a call |
| `aborted`       | `VCtrlTypeMap.at` threw and nothing catches: the process is gone |
| `uninit`        | the stack bytes under `irrv_vctrl_t vctrl;` (`:318`) |

The null test of `opaque`, the logging and `TimeLog` are left out. The build flag `FFMPEG_v42` is set
nowhere in the repository, so `IRRV_CTRL_ROI_SETTING` has no case.
-/

namespace CloudStreaming.Irrv

open Bytes

/-- `sock_server_t *`. -/
abbrev Server := Nat
/-- One accepted connection. -/
abbrev Conn := Nat

/-! ## `sock_server_send`, `sock_server_recv` -/

/-- What one `send` or `recv` returns: some of the bytes asked for, `EINTR` or `EAGAIN`, or another error;
and whether `sock_timeout` says after it that the 10 seconds are over. -/
inductive SysOutcome where
  | moved (more : Nat) (timeout : Bool)
  | again (timeout : Bool)
  | error
  deriving DecidableEq, Repr

/-- The loop the two functions share (`:486-524`, `:552-590`): how many of `left` bytes are moved when
`avail` can be. `moved n` is a return value of at most `n + 1`; the outcomes run out at the time-out. -/
def sockLoop : List SysOutcome → Nat → Nat → Nat
  | [], _, _ => 0
  | .error :: _, _, _ => 0
  | .again timeout :: os, left, avail => if timeout || left == 0 then 0 else sockLoop os left avail
  | .moved n timeout :: os, left, avail =>
    let k := min (n + 1) (min left avail)
    if timeout || left - k == 0 then k else k + sockLoop os (left - k) (avail - k)

/-- `sock_server_send`: the bytes of the buffer that go out. No caller looks at the return value. -/
def sockServerSend (os : List SysOutcome) (data : Buf) : Buf := data.take (sockLoop os data.length data.length)

/-- `sock_server_recv` of a buffer of `len` bytes: how many of the bytes the peer has sent are read. -/
def sockServerRecv (os : List SysOutcome) (len : Nat) (sent : Buf) : Nat := sockLoop os len sent.length

/-- `sock_conn_status_t`. -/
inductive SockConnStatus where
  | normal
  | readable
  | disconnect
  deriving DecidableEq, Repr

/-! ## State -/

/-- The members of `IrrStreamer` the callbacks use. -/
structure Streamer where
  auth : Bool
  clientNum : Int
  allowEncode : Bool
  allowTransmit : Bool
  deriving DecidableEq, Repr

/-- The calls into the encoder a control message makes (`:330-452`). -/
inductive StreamCall where
  | forceKeyframe (value : UInt32)
  | setBitrate (value : UInt32)
  | setMaxBitrate (value : UInt32)
  | setSkipframe (on : Bool)
  | setQp (value : UInt32)
  | setEncodeFlag (on : Bool)
  | setTransmitFlag (on : Bool)
  | firstStartEncoding (on : Bool)
  | runtimeWriterStart (input output : Bool)
  | runtimeWriterStop (input output : Bool)
  | runtimeWriterStartWithFrameNum (value : UInt32)
  | setFramerate (value : UInt32)
  | setMaxFrameSize (value : UInt32)
  | setRollingIntraRefresh (type cycleSize qpDelta : UInt32)
  | setMinMaxQp (minQp maxQp : UInt32)
  | changeResolution (width height : UInt32)
  | changeCodec (value : UInt32)
  | setSei (type id : UInt32)
  | setGopSize (value : UInt32)
  | setScreenCaptureInterval (value : UInt32)
  | setScreenCaptureQuality (value : UInt32)
  | setScreenCaptureFlag (on : Bool)
  | changeProfileLevel (profile level : UInt32)
  | setClientFeedback (delay size : UInt32)
  deriving DecidableEq, Repr

/-- A frame handed to a write-back. -/
structure Frame where
  data : Buf
  flags : UInt32
  deriving DecidableEq, Repr

/-- What happened, for stating what may happen: a `VAUTH` is recorded with the body that was read, before it is looked
at. -/
inductive Event where
  | accept (s : Server) (c : Conn)
  | send (c : Conn) (data : Buf) (os : List SysOutcome)
  | vframe (s : Server) (c : Conn) (f : Frame)
  | header (c : Conn) (pos : Nat)
  | vauth (s : Server) (c : Conn) (body : Buf)
  | vctrl (s : Server) (c : Conn) (v : Vctrl)
  | drop (s : Server) (c : Conn)
  deriving DecidableEq, Repr

structure World where
  streamer : Option Streamer
  clients : Server → Option Conn
  authPass : Server → Bool
  /-- Everything the peer of a connection has sent, and how much of it is read. -/
  sent : Conn → Buf
  pos : Conn → Nat
  nextConn : Conn
  aborted : Bool
  log : List Event

/-- What `irr_stream_get_encode_new_width`, … `get_encoder_type` return. -/
structure Dims where
  newWidth : Int
  newHeight : Int
  width : Int
  height : Int
  encoderType : Int

/-- What the system decides during one `irrv_checknewconn`. -/
structure Io where
  newconn : Bool
  created : Bool
  selected : Bool
  isset : Bool
  nread : Bool
  recvHeader : List SysOutcome
  recvBody : List SysOutcome
  sendHead : List SysOutcome
  sendAck : List SysOutcome
  dims : Dims
  uninit : Buf

/-- And during the rest of one `irrv_writeback`. -/
structure FrameIo where
  sendInfo : List SysOutcome
  sendData : List SysOutcome
  dims : Dims

/-- No frame size known. -/
def Dims.none : Dims := ⟨0, 0, 0, 0, 0⟩

/-- A poll that finds nothing to do. -/
def Io.idle : Io where
  newconn := false
  created := false
  selected := false
  isset := false
  nread := false
  recvHeader := []
  recvBody := []
  sendHead := []
  sendAck := []
  dims := .none
  uninit := []

/-- A poll that finds bytes from its client, after accepting it if it is new, and gets all it asks for. -/
def Io.ready : Io :=
  { Io.idle with
    newconn := true, created := true, selected := true, isset := true, nread := true
    recvHeader := [.moved 15 false], recvBody := [.moved 59 false]
    sendHead := [.moved 47 false], sendAck := [.moved 75 false] }

namespace World

/-! ## The streamer (`stream.cpp`) -/

/-- `irr_stream_getAuthFlag` (`stream.cpp:258`). -/
def authFlag (w : World) : Bool :=
  match w.streamer with
  | none => false
  | some st => st.auth

def onStreamer (w : World) (f : Streamer → Streamer) : World := { w with streamer := w.streamer.map f }

def incClient (w : World) : World := w.onStreamer (fun st => { st with clientNum := st.clientNum + 1 })

def decClient (w : World) : World := w.onStreamer (fun st => { st with clientNum := st.clientNum - 1 })

/-- `irr_stream_getClientNum` (`stream.cpp:198`). -/
def getClientNum (w : World) : Int :=
  match w.streamer with
  | none => -22
  | some st => st.clientNum

def setEncodeFlag (w : World) (on : Bool) : World := w.onStreamer (fun st => { st with allowEncode := on })

def setTransmitFlag (w : World) (on : Bool) : World := w.onStreamer (fun st => { st with allowTransmit := on })

/-- A call into the encoder; the ones that only reach the transcoder leave this state alone. -/
def streamCall (w : World) : StreamCall → World
  | .setEncodeFlag on => w.setEncodeFlag on
  | .setTransmitFlag on => w.setTransmitFlag on
  | _ => w

/-! ## Pieces of `irrv_checknewconn` -/

def record (w : World) (e : Event) : World := { w with log := e :: w.log }

/-- `irrv_check_authentication` (`:93`). -/
def irrvCheckAuthentication (id key : Buf) : Bool := id == authId && key == authKey

/-- `irrv_get_auth_state` (`:103`): a server without an entry is not authenticated. -/
def irrvGetAuthState (w : World) (s : Server) : Bool := w.authPass s

/-- `irrv_have_client` (`:113`). -/
def irrvHaveClient (w : World) (s : Server) : Bool := (w.clients s).isSome

/-- `sock_server_send` to the proxy of a server; to a null proxy it returns at once. -/
def sendTo (w : World) (client : Option Conn) (data : Buf) (os : List SysOutcome) : World :=
  match client with
  | none => w
  | some c => w.record (.send c data os)

/-- What the peer has sent and the server has not read. -/
def inbox (w : World) (c : Conn) : Buf := (w.sent c).drop (w.pos c)

/-- `sock_server_recv` into a buffer. -/
def recvInto (w : World) (c : Conn) (os : List SysOutcome) (buf : Buf) : World × Buf :=
  let n := sockServerRecv os buf.length (w.inbox c)
  ({ w with pos := Function.update w.pos c (w.pos c + n) }, overlay ((w.inbox c).take n) buf)

/-- The size the events carry (`:139-145`, `:262-276`). -/
def frameWidth (d : Dims) : UInt32 :=
  let width := if d.newWidth ≤ 0 ∨ d.newHeight ≤ 0 then d.width else d.newWidth
  if width > 0 then UInt32.ofInt width else 720

def frameHeight (d : Dims) : UInt32 :=
  let height := if d.newWidth ≤ 0 ∨ d.newHeight ≤ 0 then d.height else d.newHeight
  if height > 0 then UInt32.ofInt height else 1280

/-- `ConvertCodecTypeToStreamFormat` (`:77`). -/
def convertCodecTypeToStreamFormat (codecId : Int) : UInt32 :=
  if codecId = 226 then 5
  else if codecId = 7 then 4
  else if codecId = 27 then 1
  else if codecId = 173 then 3
  else UInt32.ofInt (-1)

/-- `head_ev` (`:268-279`). -/
def headEvent (d : Dims) (authRequired : Bool) : Buf :=
  vheadEvent irrvEventVhead 0 0 (frameWidth d) (frameHeight d) (convertCodecTypeToStreamFormat d.encoderType)
    (if authRequired then 1 else 0)

/-- A new connection (`:253-281`). Where the proxy cannot be created the rest is done all the same. -/
def acceptClient (w : World) (s : Server) (io : Io) (authRequired : Bool) : World :=
  let client := if io.created then some w.nextConn else none
  let w := { w with clients := Function.update w.clients s client, nextConn := w.nextConn + 1 }
  let w := match client with
    | none => w
    | some c => w.record (.accept s c)
  w.incClient.sendTo client (headEvent io.dims authRequired) io.sendHead

/-- `sock_server_check_connect`: `FIONREAD` cannot report bytes where none were sent. -/
def checkConnect (w : World) (c : Conn) (io : Io) : SockConnStatus :=
  if !io.isset then .normal
  else if io.nread && !(w.inbox c).isEmpty then .readable
  else .disconnect

/-- `vauth.id`, `vauth.key` of a received body. -/
def vauthId (body : Buf) : Buf := body.take 16
def vauthKey (body : Buf) : Buf := (body.drop 16).take 16

/-- A matching request (`:306-310`). -/
def passVauth (w : World) (s : Server) (c : Conn) (os : List SysOutcome) : World :=
  let w := { w with authPass := Function.update w.authPass s true }
  w.sendTo (some c) (vauthAckEvent .passed) os

/-- A request that does not match (`:311-319`): the connection is closed. -/
def failVauth (w : World) (s : Server) (c : Conn) (os : List SysOutcome) : World :=
  let w := { w with authPass := Function.update w.authPass s false }
  let w := w.sendTo (some c) (vauthAckEvent .failed) os
  { w with clients := Function.update w.clients s none }

/-- An authentication request (`:294-321`). -/
def readVauth (w : World) (s : Server) (c : Conn) (io : Io) : World :=
  let r := w.recvInto c io.recvBody (zeros vauthLen)
  let w := r.1.record (.vauth s c r.2)
  if irrvCheckAuthentication (vauthId r.2) (vauthKey r.2) then w.passVauth s c io.sendAck
  else w.failVauth s c io.sendAck

/-- The calls of a control message (`:330-452`). -/
def dispatch (v : Vctrl) : List StreamCall :=
  match v.ctrlType.toNat with
  | 1 => [.forceKeyframe v.u0]
  | 2 => [.setBitrate v.u0]
  | 25 => [.setMaxBitrate v.u0]
  | 26 => if v.u0 = 1 then [.setSkipframe true] else if v.u0 = 0 then [.setSkipframe false] else []
  | 3 => [.setQp v.u0]
  | 5 => [.setEncodeFlag true, .setTransmitFlag true, .firstStartEncoding true]
  | 6 => [.setTransmitFlag false]
  | 7 => [.setEncodeFlag false, .setTransmitFlag false, .firstStartEncoding false]
  | 8 => [.runtimeWriterStart true true]
  | 9 => [.runtimeWriterStop true true]
  | 10 => [.runtimeWriterStartWithFrameNum v.u0]
  | 12 => [.setFramerate v.u0]
  | 13 => [.setMaxFrameSize v.u0]
  | 14 => [.setRollingIntraRefresh v.u1 v.u2 v.u3]
  | 15 => [.setMinMaxQp v.u1 v.u2]
  | 11 => [.changeResolution v.u1 v.u2]
  | 24 => [.changeCodec v.u0]
  | 16 => [.runtimeWriterStart true false]
  | 17 => [.runtimeWriterStop true false]
  | 18 => [.runtimeWriterStart false true]
  | 19 => [.runtimeWriterStop false true]
  | 20 => [.setSei v.u1 v.u2]
  | 4 => [.setGopSize v.u0]
  | 21 => [.setScreenCaptureInterval v.u0, .setScreenCaptureQuality v.u1, .setScreenCaptureFlag true]
  | 22 => [.setScreenCaptureFlag false]
  | 27 => [.changeProfileLevel v.u1 v.u2]
  | 28 => [.setClientFeedback v.u0 v.u1]
  | _ => []

/-- A control message of a known type. -/
def applyVctrl (w : World) (s : Server) (c : Conn) (v : Vctrl) : World :=
  (dispatch v).foldl streamCall (w.record (.vctrl s c v))

/-- A control message (`:323-454`): the lookup for the log line comes first and may throw. -/
def readVctrl (w : World) (s : Server) (c : Conn) (io : Io) : World :=
  let r := w.recvInto c io.recvBody (overlay (io.uninit.take bodyLen) (zeros bodyLen))
  let v := Vctrl.ofBytes r.2
  if v.ctrlType ≤ irrvCtrlEnd then r.1.applyVctrl s c v else { r.1 with aborted := true }

/-- The header of the next event (`:288-290`). -/
def readHeader (w : World) (c : Conn) (os : List SysOutcome) : World × Buf :=
  (w.record (.header c (w.pos c))).recvInto c os (zeros eventLen)

/-- Case `readable` (`:287-456`): a header, and for two types a body. -/
def readEvent (w : World) (s : Server) (c : Conn) (io : Io) (authRequired : Bool) : World :=
  let r := w.readHeader c io.recvHeader
  let type := wordAt r.2 1
  if type = irrvEventVauth ∧ authRequired then r.1.readVauth s c io
  else if type = irrvEventVctrl ∧ (!authRequired || r.1.irrvGetAuthState s) then r.1.readVctrl s c io
  else r.1

/-- Case `disconnect` (`:458-471`). -/
def dropClient (w : World) (s : Server) (c : Conn) : World :=
  let w := { w with clients := Function.update w.clients s none, authPass := Function.update w.authPass s false }
  let w := (w.record (.drop s c)).decClient
  if w.getClientNum = 0 then (w.setEncodeFlag false).setTransmitFlag false else w

/-! ## The callbacks -/

/-- The accept of a poll (`:250-282`). -/
def pollAccept (w : World) (s : Server) (io : Io) : World :=
  if !w.irrvHaveClient s && io.newconn then w.acceptClient s io w.authFlag else w

/-- `irrv_checknewconn` (`:246`). The authentication flag is read once, before the accept. -/
def irrvChecknewconn (w : World) (s : Server) (io : Io) : World :=
  let authRequired := w.authFlag
  let w := w.pollAccept s io
  if io.selected then
    match w.clients s with
    | none => w
    | some c =>
      match w.checkConnect c io with
      | .readable => w.readEvent s c io authRequired
      | .disconnect => w.dropClient s c
      | .normal => w
  else w

/-- The two sends of a frame (`:147-158`); `data_size` is the low word of the size. -/
def sendVframe (w : World) (s : Server) (c : Conn) (data : Buf) (flags : UInt32) (io : FrameIo) : World :=
  let info := vframeEvent flags (UInt32.ofNat data.length) (frameWidth io.dims) (frameHeight io.dims)
  ((w.record (.vframe s c ⟨data, flags⟩)).sendTo (some c) info io.sendInfo).sendTo (some c) data io.sendData

/-- The frame of a write-back, after its poll (`:135-158`). -/
def sendFrame (w : World) (s : Server) (authRequired : Bool) (data : Buf) (flags : UInt32) (io : FrameIo) : World :=
  match w.clients s with
  | none => w
  | some c => if !authRequired || w.irrvGetAuthState s then w.sendVframe s c data flags io else w

/-- `irrv_writeback` (`:123`): the flag is read before the poll, which reads it again. -/
def irrvWriteback (w : World) (s : Server) (data : Buf) (flags : UInt32) (io : Io) (fio : FrameIo) : World :=
  let authRequired := w.authFlag
  let w := w.irrvChecknewconn s io
  if w.aborted then w else w.sendFrame s authRequired data flags fio

/-- `irrv_writeback2` (`:183`): only for `H264` and `MJPEG`, with the type as the flags. -/
def irrvWriteback2 (w : World) (s : Server) (data : Buf) (type : UInt32) (io : Io) (fio : FrameIo) : World :=
  let authRequired := w.authFlag
  let w := w.irrvChecknewconn s io
  if w.aborted then w
  else if type = 27 ∨ type = 7 then w.sendFrame s authRequired data type fio
  else w

/-- `irrv_send_message` (`:226`). -/
def irrvSendMessage (w : World) (s : Server) (msg value : UInt32) (os : List SysOutcome) : World :=
  w.sendTo (w.clients s) (messageEvent msg value) os

/-- `irrv_close` (`:484`). -/
def irrvClose (w : World) (s : Server) : World :=
  { w with clients := Function.update w.clients s none, authPass := Function.update w.authPass s false }

/-- The peer of a connection, or the one about to be accepted, sends bytes. -/
def peerSends (w : World) (c : Conn) (bytes : Buf) : World :=
  { w with sent := Function.update w.sent c (w.sent c ++ bytes) }

end World

/-! ## Runs -/

/-- A call of a callback, or bytes from a peer. -/
inductive Op where
  | checknewconn (s : Server) (io : Io)
  | writeback (s : Server) (data : Buf) (flags : UInt32) (io : Io) (fio : FrameIo)
  | writeback2 (s : Server) (data : Buf) (type : UInt32) (io : Io) (fio : FrameIo)
  | sendMessage (s : Server) (msg value : UInt32) (os : List SysOutcome)
  | close (s : Server)
  | peer (c : Conn) (bytes : Buf)

/-- The poll an operation makes. -/
def Op.poll : Op → Option (Server × Io)
  | .checknewconn s io => some (s, io)
  | .writeback s _ _ io _ => some (s, io)
  | .writeback2 s _ _ io _ => some (s, io)
  | _ => none

/-- Nothing happens after the process is gone. -/
def step (w : World) (o : Op) : World :=
  if w.aborted then w
  else
    match o with
    | .checknewconn s io => w.irrvChecknewconn s io
    | .writeback s data flags io fio => w.irrvWriteback s data flags io fio
    | .writeback2 s data type io fio => w.irrvWriteback2 s data type io fio
    | .sendMessage s msg value os => w.irrvSendMessage s msg value os
    | .close s => w.irrvClose s
    | .peer c bytes => w.peerSends c bytes

/-- Before the first call: a registered streamer without clients. -/
def World.init (streamer : Option Streamer) : World where
  streamer := streamer
  clients := fun _ => none
  authPass := fun _ => false
  sent := fun _ => []
  pos := fun _ => 0
  nextConn := 0
  aborted := false
  log := []

end CloudStreaming.Irrv
