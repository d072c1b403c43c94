import CloudStreaming.Lib.Heap
import CloudStreaming.Lib.Runs

/-!
# The encoder service (`encoder/shared/encoder.cpp:861-1104`, `encoder/shared/IrrStreamer.cpp:26-368`)

`irr_encoder_start` registers a new streamer, which destroys the one before, and then starts it unless it returns
early. `IrrStreamer::start` makes a demuxer and a transcoder that owns it; several of its error paths delete the
demuxer and keep the pointer. `IrrStreamer::stop`, which the destructor runs as well, uses `m_pTrans` untested: a
streamer that was never started, or was stopped, cannot be stopped or destroyed.

| here | there |
| --- | --- |
| `heap`, `Obj`     | the `CIrrVideoDemux` and `CTransCoder` objects |
| `Globals`         | `pStreamer` and the two static servers of `irr_encoder_start` |
| `Streamer`        | `IrrStreamer`; `pTrans`, `pDemux` are `m_pTrans`, `m_pDemux`, `none` is `nullptr` |
| `none` of a call  | a null or deleted transcoder or demuxer is used |
| `StartIo`, `WriteIo` | what the calls to the outside return |

Of the options those are kept that decide where a call returns. The object behind `new` is always there; a pointer
that a failing `start` leaves in `m_pDemux` after `delete` names a cell that is free.
-/

namespace CloudStreaming.Encoder.Service

open Alloc

abbrev Str := List Char

inductive Obj where
  | demux
  | trans (pDemux : Nat)
deriving DecidableEq

structure Streamer where
  pTrans : Option Nat
  pDemux : Option Nat
  bVASurface : Bool
  bQSVSurface : Bool
  blankSurface : Bool

structure Globals where
  heap : Heap Obj
  streamer : Option Streamer
  irrvServer : Bool
  irrvAuxiliaryServer : Bool

inductive EncodeType where
  | dataBuffer
  | vaSurfaceId
  | qsvSurfaceId
deriving DecidableEq

structure EncoderInfo where
  streaming : Bool
  url : Str
  plugin : Str
  encodeType : EncodeType
  encoderInstanceID : Int

/-- `renderPort`: `atoi` of `render_server_port`, if it is set; `auxiliaryServer`: the variable of that name is "1";
`serverInit`, `auxiliaryInit`: the sockets; `blankSurface`: the memory and the VA calls of the blank surface; `packet`:
the buffer of its packet; `thread`: the thread of the transcoder. -/
structure StartIo where
  renderPort : Option Int
  serverInit : Bool
  auxiliaryServer : Bool
  auxiliaryInit : Bool
  blankSurface : Bool
  packet : Bool
  thread : Bool

/-- `readable`: the VA calls that read a surface into a buffer; `send`: the result of `sendPacket`. -/
structure WriteIo where
  readable : Bool
  packet : Bool
  send : Int

/-- `AVERROR(EINVAL)`, `AVERROR(ENOMEM)`. -/
def einval : Int := -22
def enomem : Int := -12

/-- `strncmp(s, word, strlen(word)) == 0`. -/
def startsWith (s : Str) (word : String) : Bool := word.toList.isPrefixOf s

/-! ## Objects -/

/-- A call of a method of the demuxer. -/
def demuxAt (heap : Heap Obj) (d : Nat) : Option Unit :=
  match heap.cells d with
  | some .demux => some ()
  | _ => none

/-- A call of a method of the transcoder: `m_pDemux` of it. -/
def transAt (heap : Heap Obj) (t : Nat) : Option Nat :=
  match heap.cells t with
  | some (.trans d) => some d
  | _ => none

/-- `CTransCoder::stop` (`CTransCoder.cpp:210`), which ends with `m_pDemux->stop()`. -/
def transStop (heap : Heap Obj) (t : Nat) : Option Unit := do
  let d ← transAt heap t
  demuxAt heap d

/-- `delete m_pTrans`: the destructor (`CTransCoder.cpp:95`) stops again and deletes the demuxer. -/
def deleteTrans (heap : Heap Obj) (t : Nat) : Option (Heap Obj) := do
  transStop heap t
  let d ← transAt heap t
  some ((heap.free d).free t)

namespace Streamer

/-- The constructor (`IrrStreamer.cpp:43`). -/
def new : Streamer := ⟨none, none, false, false, false⟩

/-- `IrrStreamer::stop` (`:277`). -/
def stop (st : Streamer) (heap : Heap Obj) : Option (Heap Obj × Streamer) := do
  let t ← st.pTrans
  transStop heap t
  let heap ← deleteTrans heap t
  some (heap, { st with pTrans := none, pDemux := none })

/-- The destructor (`:70`). -/
def destroy (st : Streamer) (heap : Heap Obj) : Option (Heap Obj) := (st.stop heap).map Prod.fst

/-- `if (m_pDemux) m_pDemux->set..SurfaceFlag(..)`. -/
def tellDemux (st : Streamer) (heap : Heap Obj) : Option Unit :=
  match st.pDemux with
  | none => some ()
  | some d => demuxAt heap d

/-- `setVASurfaceFlag` (`:728`). -/
def setVASurfaceFlag (st : Streamer) (heap : Heap Obj) : Option Streamer := do
  st.tellDemux heap
  some { st with bVASurface := true }

/-- `setQSVSurfaceFlag` (`:739`). -/
def setQSVSurfaceFlag (st : Streamer) (heap : Heap Obj) : Option Streamer := do
  st.tellDemux heap
  some { st with bQSVSurface := true }

/-- `InitBlankFramePacket` (`:1172`); `create_internal_surface` (`encoder.cpp:726`) has only the QSV path. -/
def initBlankFramePacket (st : Streamer) (io : StartIo) : Streamer × Int :=
  if st.blankSurface then (st, 0)
  else if st.bQSVSurface && io.blankSurface then
    ({ st with blankSurface := true }, if io.packet then 0 else enomem)
  else (st, -1)

/-- The rest of `start` from the transcoder on (`:143`, `:160-274`); the demuxer itself always starts. -/
def startTrans (st : Streamer) (heap : Heap Obj) (d : Nat) (io : StartIo) : Option (Heap Obj × Streamer × Int) := do
  let t := heap.next
  let heap := heap.alloc (.trans d)
  let st := { st with pTrans := some t }
  transStop heap t
  some (heap, st, if io.thread then 0 else -1)

/-- `IrrStreamer::start` (`:87`). No url begins with both words, so the two tests for them are one. -/
def start (st : Streamer) (heap : Heap Obj) (url : Str) (io : StartIo) : Option (Heap Obj × Streamer × Int) :=
  if st.pTrans.isSome then some (heap, st, einval)
  else
    let (st, ret) := st.initBlankFramePacket io
    if ret ≠ 0 then some (heap, st, einval)
    else do
      let d := heap.next
      let heap := heap.alloc .demux
      let st := { st with pDemux := some d }
      demuxAt heap d
      if startsWith url "local" then
        if ':' ∈ url then st.startTrans heap d io
        else some (heap.free d, st, einval)
      else if startsWith url "irrv" then st.startTrans heap d io
      else some (heap.free d, st, enomem)

end Streamer

/-! ## Calls -/

/-- `IrrStreamer::Register` (`IrrStreamer.cpp:33`). -/
def register (s : Globals) : Option Globals :=
  match s.streamer with
  | none => some { s with streamer := some .new }
  | some old => do
    let heap ← old.destroy s.heap
    some { s with heap := heap, streamer := some .new }

/-- The sockets of `irr_encoder_start` (`encoder.cpp:900-945`): whether they are there. -/
def openServers (s : Globals) (info : EncoderInfo) (io : StartIo) : Globals × Bool :=
  match io.renderPort with
  | none => (s, false)
  | some port =>
    if port > 2147483647 - 1000 - info.encoderInstanceID then (s, false)
    else if !s.irrvServer && !io.serverInit then (s, false)
    else
      let s := { s with irrvServer := true }
      if io.auxiliaryServer then
        if !s.irrvAuxiliaryServer && !io.auxiliaryInit then (s, false)
        else ({ s with irrvAuxiliaryServer := true }, true)
      else (s, true)

/-- `info.bVASurface` and `info.bQSVSurface` (`encoder.cpp:1050-1064`). -/
def surfaceFlags (info : EncoderInfo) : Bool × Bool :=
  if info.encodeType = .vaSurfaceId then
    if startsWith info.plugin "qsv" then (false, true) else (true, false)
  else (false, false)

/-- `irr_stream_start` (`stream.cpp:21`). -/
def irrStreamStart (s : Globals) (info : EncoderInfo) (io : StartIo) : Option (Globals × Int) :=
  match s.streamer with
  | none => some (s, einval)
  | some st => do
    let st ←
      if (surfaceFlags info).1 then st.setVASurfaceFlag s.heap
      else if (surfaceFlags info).2 then st.setQSVSurfaceFlag s.heap
      else some st
    let (heap, st, ret) ← st.start s.heap info.url io
    some ({ s with heap := heap, streamer := some st }, ret)

/-- `irr_encoder_start` after `Register`. -/
def startRegistered (s : Globals) (info : EncoderInfo) (io : StartIo) : Option (Globals × Int) :=
  if !info.streaming then some (s, -1)
  else if startsWith info.url "irrv" then
    let (s, opened) := openServers s info io
    if opened then irrStreamStart s info io else some (s, einval)
  else if startsWith info.url "local" then irrStreamStart s info io
  else some (s, einval)

/-- `irr_encoder_start` (`encoder.cpp:861`). -/
def irrEncoderStart (s : Globals) (info : EncoderInfo) (io : StartIo) : Option (Globals × Int) := do
  let s ← register s
  startRegistered s info io

/-- `irr_stream_stop` (`stream.cpp:35`). -/
def irrStreamStop (s : Globals) : Option (Globals × Int) :=
  match s.streamer with
  | none => some (s, 0)
  | some st => do
    let (heap, st) ← st.stop s.heap
    some ({ s with heap := heap, streamer := some st }, 0)

/-- `irr_encoder_stop` (`encoder.cpp:1100`). -/
def irrEncoderStop (s : Globals) : Option (Globals × Int) :=
  match s.streamer with
  | none => some (s, 0)
  | some st => do
    let heap ← st.destroy s.heap
    some ({ s with heap := heap, streamer := none }, 0)

/-- `irr_encoder_write` (`encoder.cpp:1262`) and `IrrStreamer::write` (`IrrStreamer.cpp:351`). -/
def irrEncoderWrite (s : Globals) (io : WriteIo) : Option (Globals × Int) :=
  match s.streamer with
  | none => some (s, -1)
  | some st =>
    if !st.bVASurface && !st.bQSVSurface && !io.readable then some (s, -1)
    else
      match st.pDemux with
      | none => some (s, einval)
      | some d =>
        if io.packet then do
          demuxAt s.heap d
          some (s, io.send)
        else some (s, enomem)

inductive Op where
  | start (info : EncoderInfo) (io : StartIo)
  | streamStop
  | write (io : WriteIo)
  | encoderStop

def call (s : Globals) : Op → Option (Globals × Int)
  | .start info io => irrEncoderStart s info io
  | .streamStop => irrStreamStop s
  | .write io => irrEncoderWrite s io
  | .encoderStop => irrEncoderStop s

/-- A state with what the last call returned. -/
def step (s : Globals × Int) (op : Op) : Option (Globals × Int) := call s.1 op

def init : Globals := ⟨Heap.empty, none, false, false⟩

end CloudStreaming.Encoder.Service
