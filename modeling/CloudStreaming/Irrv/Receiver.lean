import CloudStreaming.Irrv.Control

/-!
# The IRRV receiver (`irrv-receiver/CSendRecvMessage.cpp`, `sock_client.cpp`)

One call of `recv_es_stream` reads one event with non-blocking `recv`s: one for the header, one for the
fixed part of the body, and for a frame a loop until all its data is there. Only the loop looks at how much
a `recv` returned. Where the header or the body comes in two pieces, or the body later than the header, the
rest is taken for the next header.

| here | there |
| --- | --- |
| `Receiver.connected` | `m_client >= 0` |
| `Receiver.pos`       | how much of the connection's bytes has been received |
| `Receiver.filling`   | the call is still in the loop of `:592-598` |
| `Receiver.packets`   | what `encoder_send_packet` got, oldest first |
| `Receiver.sent`      | what was sent in answer to `VHEAD` |

The bytes of the connection are a parameter; a `recv` that comes before they do is an `EAGAIN`. After a
disconnect the library opens a new connection, with which the state here has nothing to do. Left out are a
`recv` of 0 bytes (the server has closed), the dump file, the packet's time stamps, and allocations that fail.
-/

namespace CloudStreaming.Irrv

open Bytes Runs

/-- What one `recv` with `MSG_DONTWAIT` does: fail with `EAGAIN`, or return some of the bytes, at most
`more + 1`. -/
inductive Recv where
  | again
  | got (more : Nat)
  deriving DecidableEq, Repr

/-- `sock_client_recv` (`sock_client.cpp:168`) of `len` bytes; `none` is a negative return value. -/
def sockClientRecv (o : Recv) (len : Nat) (avail : Buf) : Option Nat :=
  match o with
  | .again => none
  | .got more => if avail.isEmpty then none else some (min (more + 1) (min len avail.length))

/-- The return value of `poll`. -/
inductive Poll where
  | error
  | timeout
  | ready
  deriving DecidableEq, Repr

/-- What the system decides during one `recv_es_stream`. -/
structure Call where
  polled : Poll
  header : Recv
  body : Recv
  payload : List Recv

/-- The packet handed to `encoder_send_packet`, without its side data. -/
structure Packet where
  data : Buf
  size : Int
  flags : Int32
  deriving DecidableEq, Repr

/-- `frame.data_size`, `frame.flags` and how much of the data is there. -/
structure Filling where
  size : UInt32
  flags : UInt32
  filled : Nat
  deriving DecidableEq, Repr

structure Receiver where
  connected : Bool
  width : UInt32
  height : UInt32
  format : UInt32
  frameData : Buf
  filling : Option Filling
  pos : Nat
  packets : List Packet
  sent : List ClientEvent

/-- `std::vector::resize`. -/
def resize (n : Nat) (b : Buf) : Buf := b.take n ++ zeros (n - b.length)

/-- Bytes received at an offset of a buffer. -/
def writeAt (b : Buf) (off : Nat) (got : Buf) : Buf := b.take off ++ got ++ b.drop (off + got.length)

namespace Receiver

/-- A connected receiver that has read nothing (`:46-49`). -/
def init : Receiver where
  connected := true
  width := 0
  height := 0
  format := 0
  frameData := []
  filling := none
  pos := 0
  packets := []
  sent := []

/-- One `sock_client_recv` into a zeroed structure. -/
def recvInto (bs : Buf) (r : Receiver) (o : Recv) (len : Nat) : Option (Receiver × Buf) :=
  match sockClientRecv o len (bs.drop r.pos) with
  | none => none
  | some n => some ({ r with pos := r.pos + n }, overlay ((bs.drop r.pos).take n) (zeros len))

/-- `VHEAD` (`:518-553`). -/
def readVhead (bs : Buf) (r : Receiver) (call : Call) : Receiver :=
  match r.recvInto bs call.body bodyLen with
  | none => r
  | some (r, head) =>
    let ack := .vheadAck (wordAt head 1) (wordAt head 2) (wordAt head 3)
    { r with
      width := wordAt head 1
      height := wordAt head 2
      format := wordAt head 3
      sent := r.sent ++ (if wordAt head 4 ≠ 0 then [.vauth, ack] else [ack]) }

/-- `VAUTH_ACK` (`:554-570`): the result is only logged. -/
def readVauthAck (bs : Buf) (r : Receiver) (call : Call) : Receiver :=
  match r.recvInto bs call.body vauthLen with
  | none => r
  | some (r, _) => r

/-- A complete frame (`:613-633`). -/
def sendPacket (r : Receiver) (l : Filling) : Receiver :=
  { r with filling := none, packets := r.packets ++ [⟨r.frameData, l.size.toInt32.toInt, l.flags.toInt32⟩] }

/-- The loop (`:590-598`): `left_size` is an `int`. -/
def fill (bs : Buf) : List Recv → Receiver → Filling → Receiver
  | os, r, l =>
    let left := l.size.toInt32.toInt - l.filled
    if left ≤ 0 then r.sendPacket l
    else
      match os with
      | [] => { r with filling := some l }
      | o :: os =>
        match sockClientRecv o left.toNat (bs.drop r.pos) with
        | none => fill bs os r l
        | some n =>
          fill bs os
            { r with pos := r.pos + n, frameData := writeAt r.frameData l.filled ((bs.drop r.pos).take n) }
            { l with filled := l.filled + n }

/-- `VFRAME` (`:571-635`). A frame that looks broken is left in the socket. -/
def readVframe (bs : Buf) (r : Receiver) (call : Call) : Receiver :=
  match r.recvInto bs call.body bodyLen with
  | none => r
  | some (r, frame) =>
    let size := wordAt frame 1
    if size = 0 ∨ size < wordAt frame 2 ∨ 4 * r.width * r.height < size then r
    else fill bs call.payload { r with frameData := resize size.toNat r.frameData } ⟨size, wordAt frame 0, 0⟩

/-- The header and the switch (`:512-643`). -/
def readEvent (bs : Buf) (r : Receiver) (call : Call) : Receiver :=
  match r.recvInto bs call.header eventLen with
  | none => r
  | some (r, ev) =>
    let type := wordAt ev 1
    if type = irrvEventVhead then r.readVhead bs call
    else if type = irrvEventVauthAck then r.readVauthAck bs call
    else if type = irrvEventVframe then r.readVframe bs call
    else { r with connected := false }

/-- `recv_es_stream` (`:471`), or some more turns of the loop it is in. -/
def recvEsStream (bs : Buf) (r : Receiver) (call : Call) : Receiver :=
  if !r.connected then r
  else
    match r.filling with
    | some l => fill bs call.payload r l
    | none =>
      match call.polled with
      | .error => { r with connected := false }
      | .timeout => r
      | .ready => r.readEvent bs call

end Receiver

/-! ## What the server sends -/

/-- After the `VHEAD`, with a frame's own size. -/
inductive ServerEvent where
  | vauthAck (result : AuthResult)
  | vframe (f : Frame) (width height : UInt32)

def ServerEvent.bytes : ServerEvent → Buf
  | .vauthAck result => vauthAckEvent result
  | .vframe f width height => vframeEvent f.flags (UInt32.ofNat f.data.length) width height ++ f.data

/-- The bytes after the `VHEAD`. -/
def outStream (es : List ServerEvent) : Buf := es.flatMap ServerEvent.bytes

def ServerEvent.frame : ServerEvent → Option Frame
  | .vauthAck _ => none
  | .vframe f _ _ => some f

def framesIn (es : List ServerEvent) : List Frame := es.filterMap ServerEvent.frame

/-- A frame as a packet. -/
def packetOf (f : Frame) : Packet := ⟨f.data, f.data.length, f.flags.toInt32⟩

theorem ServerEvent.bytes_pos (e : ServerEvent) : 0 < e.bytes.length := by
  cases e with
  | vauthAck result => simp [bytes, vauthAckEvent, eventLen]
  | vframe f width height => rw [bytes, List.length_append, vframeEvent_length]; omega

theorem outStream_append (a b : List ServerEvent) : outStream (a ++ b) = outStream a ++ outStream b :=
  List.flatMap_append ..

theorem framesIn_append (a b : List ServerEvent) : framesIn (a ++ b) = framesIn a ++ framesIn b :=
  List.filterMap_append ..

/-! ## Reads -/

theorem sockClientRecv_some {o : Recv} {len n : Nat} {avail : Buf} (h : sockClientRecv o len avail = some n) :
    n ≤ len ∧ n ≤ avail.length ∧ (0 < len → 0 < n) := by
  cases o with
  | again => cases h
  | got more =>
    simp only [sockClientRecv] at h
    split at h
    · cases h
    · rename_i hne
      have hpos : 0 < avail.length := List.length_pos_iff.2 (by simpa using hne)
      simp only [Option.some.injEq] at h
      omega

namespace Receiver

variable {bs : Buf} {r : Receiver} {call : Call}

/-- A read of a whole structure. -/
theorem recvInto_whole {o : Recv} {body more : Buf} (hav : bs.drop r.pos = body ++ more)
    (h : sockClientRecv o body.length (bs.drop r.pos) = some body.length) :
    r.recvInto bs o body.length = some ({ r with pos := r.pos + body.length }, body) := by
  unfold recvInto
  rw [h]
  dsimp only
  rw [hav, List.take_left, overlay_eq (Nat.le_of_eq (zeros_length _))]

theorem writeAt_length {b : Buf} {off : Nat} {got : Buf} (h : off + got.length ≤ b.length) :
    (writeAt b off got).length = b.length := by
  simp only [writeAt, List.length_append, List.length_take, List.length_drop]
  omega

theorem writeAt_take {b data : Buf} {off n : Nat} (hl : b.length = data.length) (hn : off + n ≤ data.length)
    (h : b.take off = data.take off) :
    (writeAt b off ((data.drop off).take n)).take (off + n) = data.take (off + n) := by
  have hgot : ((data.drop off).take n).length = n := by rw [List.length_take, List.length_drop]; omega
  have hfront : (b.take off ++ (data.drop off).take n).length = off + n := by
    rw [List.length_append, hgot, List.length_take]; omega
  rw [writeAt, ← hfront, List.take_left, hfront, h, List.take_add]

/-- The loop has `filled` bytes of `data`, which starts at `start`. -/
structure Fills (bs : Buf) (start : Nat) (data : Buf) (r : Receiver) (l : Filling) : Prop where
  size : l.size.toInt32.toInt = data.length
  pos : r.pos = start + l.filled
  bound : l.filled ≤ data.length
  length : r.frameData.length = data.length
  got : r.frameData.take l.filled = data.take l.filled

/-- With all the data there, the frame is handed over. -/
theorem Fills.done {start : Nat} {data : Buf} {l : Filling} (h : Fills bs start data r l)
    (hle : data.length ≤ l.filled) (os : List Recv) :
    fill bs os r l = { r with
      pos := start + data.length
      frameData := data
      filling := none
      packets := r.packets ++ [⟨data, data.length, l.flags.toInt32⟩] } := by
  have hk : l.filled = data.length := Nat.le_antisymm h.bound hle
  have hd : r.frameData = data := by
    have := h.got
    rwa [hk, List.take_length, ← h.length, List.take_length] at this
  have hp : r.pos = start + data.length := by rw [h.pos, hk]
  unfold fill
  dsimp only
  rw [if_pos (by rw [h.size, hk]; omega), sendPacket, h.size, hd, hp]

/-- One `recv` of the loop. -/
theorem Fills.recv {start n : Nat} {data more : Buf} {l : Filling} (h : Fills bs start data r l)
    (hav : bs.drop start = data ++ more) (hn : l.filled + n ≤ data.length) :
    Fills bs start data
      { r with pos := r.pos + n, frameData := writeAt r.frameData l.filled ((bs.drop r.pos).take n) }
      { l with filled := l.filled + n } := by
  have hbytes : (bs.drop r.pos).take n = (data.drop l.filled).take n := by
    rw [h.pos, ← List.drop_drop, hav, List.drop_append_of_le_length h.bound,
      List.take_append_of_le_length (by rw [List.length_drop]; omega)]
  have hgot : ((data.drop l.filled).take n).length = n := by rw [List.length_take, List.length_drop]; omega
  refine ⟨h.size, ?_, hn, ?_, ?_⟩
  · show r.pos + n = start + (l.filled + n)
    rw [h.pos]; omega
  · show (writeAt _ _ _).length = _
    rw [hbytes, writeAt_length (by rw [hgot, h.length]; omega), h.length]
  · show (writeAt _ _ _).take (l.filled + n) = _
    rw [hbytes, writeAt_take h.length hn h.got]

/-- **The loop** delivers the frame with all its bytes, or is still in it with some of them. -/
theorem fill_spec {start : Nat} {data more : Buf} (hav : bs.drop start = data ++ more) :
    ∀ (os : List Recv) (r : Receiver) (l : Filling), Fills bs start data r l →
      fill bs os r l = { r with
        pos := start + data.length
        frameData := data
        filling := none
        packets := r.packets ++ [⟨data, data.length, l.flags.toInt32⟩] } ∨
      ∃ k b, k < data.length ∧ b.length = data.length ∧ b.take k = data.take k ∧
        fill bs os r l = { r with
          pos := start + k
          frameData := b
          filling := some { l with filled := k } } := by
  intro os
  induction os with
  | nil =>
    intro r l h
    by_cases hle : data.length ≤ l.filled
    · exact Or.inl (h.done hle [])
    · refine Or.inr ⟨l.filled, r.frameData, by omega, h.length, h.got, ?_⟩
      unfold fill
      dsimp only
      rw [if_neg (by rw [h.size]; omega), ← h.pos]
  | cons o os ih =>
    intro r l h
    by_cases hle : data.length ≤ l.filled
    · exact Or.inl (h.done hle (o :: os))
    · unfold fill
      dsimp only
      rw [if_neg (by rw [h.size]; omega)]
      split
      · exact ih r l h
      · rename_i n hn
        have hlen := (sockClientRecv_some hn).1
        rw [h.size] at hlen
        have hbound : l.filled + n ≤ data.length := by omega
        rcases ih _ _ (h.recv hav hbound) with hr | ⟨k, b, hk, hb, ht, hr⟩
        · exact Or.inl hr
        · exact Or.inr ⟨k, b, hk, hb, ht, hr⟩

/-! ## Calls that do not cut an event -/

/-- The fixed part of the body that the type of a header asks for. -/
def infoSize (avail : Buf) : Nat := if wordAt avail 1 = irrvEventVauthAck then vauthLen else bodyLen

/-- The poll does not fail; the header is received in one piece or not at all, and the body with it. -/
def Uncut (bs : Buf) (r : Receiver) (call : Call) : Prop :=
  call.polled ≠ .error ∧
    (r.filling = none → call.polled = .ready →
      sockClientRecv call.header eventLen (bs.drop r.pos) = none ∨
        sockClientRecv call.header eventLen (bs.drop r.pos) = some eventLen ∧
          sockClientRecv call.body (infoSize (bs.drop r.pos)) (bs.drop (r.pos + eventLen)) =
            some (infoSize (bs.drop r.pos)))

/-- The header of an event that is there in whole. -/
theorem recvInto_header {o : Recv} {type size value : UInt32} {rest : Buf}
    (hav : bs.drop r.pos = event irrvMagic type size value ++ rest)
    (hh : sockClientRecv o eventLen (bs.drop r.pos) = some eventLen) :
    r.recvInto bs o eventLen =
      some ({ r with pos := r.pos + eventLen }, event irrvMagic type size value) := by
  rw [← event_length irrvMagic type size value] at hh ⊢
  exact recvInto_whole hav hh

/-- And its body. -/
theorem recvInto_body {o : Recv} {type size value : UInt32} {body more : Buf}
    (hav : bs.drop r.pos = event irrvMagic type size value ++ (body ++ more))
    (hb : sockClientRecv o body.length (bs.drop (r.pos + eventLen)) = some body.length) :
    ({ r with pos := r.pos + eventLen } : Receiver).recvInto bs o body.length =
      some ({ r with pos := r.pos + eventLen + body.length }, body) := by
  have hrest : bs.drop (r.pos + eventLen) = body ++ more := by
    rw [← List.drop_drop, hav, ← event_length irrvMagic type size value, List.drop_left]
  exact recvInto_whole (r := { r with pos := r.pos + eventLen }) hrest hb

theorem readEvent_vhead {width height format auth : UInt32} {more : Buf}
    (hav : bs.drop r.pos = vheadEvent irrvEventVhead 0 0 width height format auth ++ more)
    (hh : sockClientRecv call.header eventLen (bs.drop r.pos) = some eventLen)
    (hb : sockClientRecv call.body bodyLen (bs.drop (r.pos + eventLen)) = some bodyLen) :
    ∃ sent, r.readEvent bs call =
      { r with pos := r.pos + 48, width := width, height := height, format := format, sent := sent } := by
  have hav' : bs.drop r.pos =
      event irrvMagic irrvEventVhead 48 0 ++ (words [0, width, height, format, auth, 0, 0, 0] ++ more) := by
    rw [hav, vheadEvent, List.append_assoc]
  have hbody := recvInto_body hav' hb
  have hw := wordAt_words [] [0, width, height, format, auth, 0, 0, 0]
  simp only [List.append_nil] at hw
  unfold readEvent
  rw [recvInto_header hav' hh]
  dsimp only
  rw [header_type, if_pos rfl]
  unfold readVhead
  rw [show bodyLen = (words [0, width, height, format, auth, 0, 0, 0]).length from rfl, hbody]
  dsimp only
  rw [hw 1 (by simp), hw 2 (by simp), hw 3 (by simp)]
  exact ⟨_, rfl⟩

theorem readEvent_vauthAck {result : AuthResult} {more : Buf} (hav : bs.drop r.pos = vauthAckEvent result ++ more)
    (hh : sockClientRecv call.header eventLen (bs.drop r.pos) = some eventLen)
    (hb : sockClientRecv call.body vauthLen (bs.drop (r.pos + eventLen)) = some vauthLen) :
    r.readEvent bs call = { r with pos := r.pos + 76 } := by
  have hav' : bs.drop r.pos = event irrvMagic irrvEventVauthAck 76 0 ++
      ((zeros 32 ++ words [result.toWord, 0, 0, 0, 0, 0, 0]) ++ more) := by
    rw [hav, vauthAckEvent, List.append_assoc, List.append_assoc, List.append_assoc]
  have hbody := recvInto_body hav' hb
  unfold readEvent
  rw [recvInto_header hav' hh]
  dsimp only
  rw [header_type, if_neg (by decide), if_pos rfl]
  unfold readVauthAck
  rw [show vauthLen = (zeros 32 ++ words [result.toWord, 0, 0, 0, 0, 0, 0]).length from rfl, hbody]
  rfl

/-- A frame that the size check lets through goes to the loop. -/
theorem readEvent_vframe {f : Frame} {width height : UInt32} {more : Buf}
    (hav : bs.drop r.pos = (ServerEvent.vframe f width height).bytes ++ more)
    (hh : sockClientRecv call.header eventLen (bs.drop r.pos) = some eventLen)
    (hb : sockClientRecv call.body bodyLen (bs.drop (r.pos + eventLen)) = some bodyLen)
    (hpos : UInt32.ofNat f.data.length ≠ 0) (hmax : UInt32.ofNat f.data.length ≤ 4 * r.width * r.height) :
    r.readEvent bs call = fill bs call.payload
      { r with pos := r.pos + 48, frameData := resize (UInt32.ofNat f.data.length).toNat r.frameData }
      ⟨UInt32.ofNat f.data.length, f.flags, 0⟩ := by
  have hav' : bs.drop r.pos = event irrvMagic irrvEventVframe 48 0 ++
      (words [f.flags, UInt32.ofNat f.data.length, 0, 0, width, height, 0, 0] ++ (f.data ++ more)) := by
    rw [hav]
    simp only [ServerEvent.bytes, vframeEvent, List.append_assoc]
  have hbody := recvInto_body hav' hb
  have hw := wordAt_words [] [f.flags, UInt32.ofNat f.data.length, 0, 0, width, height, 0, 0]
  simp only [List.append_nil] at hw
  have hcheck : ¬ (UInt32.ofNat f.data.length = 0 ∨ UInt32.ofNat f.data.length < 0 ∨
      4 * r.width * r.height < UInt32.ofNat f.data.length) := by
    rintro (h | h | h)
    · exact hpos h
    · exact absurd h (by simp [UInt32.lt_iff_toNat_lt])
    · exact absurd hmax (UInt32.not_le.2 h)
  unfold readEvent
  rw [recvInto_header hav' hh]
  dsimp only
  rw [header_type, if_neg (by decide), if_neg (by decide), if_pos rfl]
  unfold readVframe
  rw [show bodyLen = (words [f.flags, UInt32.ofNat f.data.length, 0, 0, width, height, 0, 0]).length from rfl, hbody]
  dsimp only
  rw [hw 0 (by simp), hw 1 (by simp), hw 2 (by simp)]
  simp only [List.getD_cons_zero, List.getD_cons_succ]
  rw [if_neg hcheck]
  rfl

/-! ## Where the receiver is in the stream -/

/-- The client takes a frame of this size after a `VHEAD` with this width and height. -/
def Fits (width height : UInt32) (f : Frame) : Prop :=
  0 < f.data.length ∧ f.data.length ≤ 4 * width.toNat * height.toNat ∧ f.data.length < 2 ^ 31

/-- Before the `VHEAD`, between two events, or in the data of a frame. -/
inductive Progress (width height : UInt32) (es : List ServerEvent) (r : Receiver) : Prop where
  | start (hfill : r.filling = none) (hpos : r.pos = 0) (hpackets : r.packets = [])
  | between (done rest : List ServerEvent) (hes : es = done ++ rest) (hw : r.width = width) (hh : r.height = height)
      (hfill : r.filling = none) (hpos : r.pos = 48 + (outStream done).length)
      (hpackets : r.packets = (framesIn done).map packetOf)
  | inside (done rest : List ServerEvent) (f : Frame) (fw fh : UInt32) (k : Nat)
      (hes : es = done ++ .vframe f fw fh :: rest) (hw : r.width = width) (hh : r.height = height)
      (hfill : r.filling = some ⟨UInt32.ofNat f.data.length, f.flags, k⟩) (hk : k < f.data.length)
      (hpos : r.pos = 48 + (outStream done).length + 48 + k) (hlen : r.frameData.length = f.data.length)
      (hgot : r.frameData.take k = f.data.take k) (hpackets : r.packets = (framesIn done).map packetOf)

theorem toInt32_length {n : Nat} (h : n < 2 ^ 31) : (UInt32.ofNat n).toInt32.toInt = n := by
  have hn : (UInt32.ofNat n).toNat = n := by rw [UInt32.toNat_ofNat']; omega
  show (UInt32.ofNat n).toBitVec.toInt = n
  have hb : (UInt32.ofNat n).toBitVec.toNat = n := hn
  rw [BitVec.toInt_eq_toNat_of_lt (by omega), hb]

section
variable {width height format auth : UInt32} {es : List ServerEvent}

/-- The stream from an event on. -/
theorem drop_outStream (head : Buf) (done : List ServerEvent) (e : ServerEvent) (rest : List ServerEvent)
    (hhead : head.length = 48) :
    (head ++ outStream (done ++ e :: rest)).drop (48 + (outStream done).length) = e.bytes ++ outStream rest := by
  rw [outStream_append, ← List.append_assoc, ← hhead, ← List.length_append, List.drop_left]
  rfl

/-- **The loop**, in terms of the stream. -/
theorem Progress.fill {done rest : List ServerEvent} {f : Frame} {fw fh : UInt32} {k : Nat} (os : List Recv)
    (hav : bs.drop (48 + (outStream done).length + 48) = f.data ++ outStream rest)
    (hes : es = done ++ .vframe f fw fh :: rest) (hw : r.width = width) (hh : r.height = height)
    (hpackets : r.packets = (framesIn done).map packetOf)
    (hf : Fills bs (48 + (outStream done).length + 48) f.data r ⟨UInt32.ofNat f.data.length, f.flags, k⟩) :
    Progress width height es (Receiver.fill bs os r ⟨UInt32.ofNat f.data.length, f.flags, k⟩) ∧
      (Receiver.fill bs os r ⟨UInt32.ofNat f.data.length, f.flags, k⟩).connected = r.connected := by
  rcases fill_spec hav os r _ hf with he | ⟨j, b, hj, hlen, hgot, he⟩
  · rw [he]
    refine ⟨.between (done ++ [.vframe f fw fh]) rest (by rw [hes]; simp) hw hh rfl ?_ ?_, rfl⟩
    · show 48 + (outStream done).length + 48 + f.data.length = _
      rw [outStream_append]
      simp [outStream, ServerEvent.bytes]
      omega
    · show r.packets ++ [packetOf f] = _
      rw [hpackets, framesIn_append, List.map_append]
      rfl
  · rw [he]
    exact ⟨.inside done rest f fw fh j hes hw hh rfl hj rfl hlen hgot hpackets, rfl⟩

theorem readEvent_none (h : sockClientRecv call.header eventLen (bs.drop r.pos) = none) : r.readEvent bs call = r := by
  unfold readEvent recvInto
  rw [h]

theorem resize_length (n : Nat) (b : Buf) : (resize n b).length = n := by
  simp only [resize, List.length_append, List.length_take, zeros_length]
  omega

/-- A header of another type than `VAUTH_ACK` asks for a body of 32 bytes. -/
theorem infoSize_event {type size value : UInt32} {rest : Buf} (h : type ≠ irrvEventVauthAck) :
    infoSize (event irrvMagic type size value ++ rest) = bodyLen := by
  rw [infoSize, event_type, if_neg h]

/-- The data of a frame in the stream. -/
theorem drop_frameData (head : Buf) (done : List ServerEvent) (f : Frame) (fw fh : UInt32) (rest : List ServerEvent)
    (hhead : head.length = 48) :
    (head ++ outStream (done ++ .vframe f fw fh :: rest)).drop (48 + (outStream done).length + 48) =
      f.data ++ outStream rest := by
  rw [← List.drop_drop, drop_outStream head done _ rest hhead, ServerEvent.bytes, List.append_assoc,
    ← vframeEvent_length f.flags (UInt32.ofNat f.data.length) fw fh, List.drop_left]

theorem mem_framesIn (done rest : List ServerEvent) (f : Frame) (fw fh : UInt32) :
    f ∈ framesIn (done ++ .vframe f fw fh :: rest) := by
  rw [framesIn_append]
  exact List.mem_append_right _ List.mem_cons_self

/-- A frame that fits passes the size check of the receiver. -/
theorem Fits.check {f : Frame} (h : Fits width height f) (hmax : 4 * width.toNat * height.toNat < 2 ^ 32) :
    UInt32.ofNat f.data.length ≠ 0 ∧ UInt32.ofNat f.data.length ≤ 4 * width * height := by
  obtain ⟨hpos, hle, hint⟩ := h
  have hn : (UInt32.ofNat f.data.length).toNat = f.data.length := by rw [UInt32.toNat_ofNat']; omega
  constructor
  · intro h0
    rw [h0] at hn
    have : f.data.length = 0 := hn.symm
    omega
  · have h4 : (4 : UInt32).toNat = 4 := rfl
    rw [UInt32.le_iff_toNat_le, hn, UInt32.toNat_mul, UInt32.toNat_mul, h4, Nat.mod_mul_mod, Nat.mod_eq_of_lt hmax]
    exact hle

theorem Progress.ack {done rest : List ServerEvent} {result : AuthResult}
    (hav : bs.drop r.pos = (ServerEvent.vauthAck result).bytes ++ outStream rest)
    (hes : es = done ++ .vauthAck result :: rest) (hw : r.width = width) (hh : r.height = height)
    (hpos : r.pos = 48 + (outStream done).length) (hfill : r.filling = none)
    (hpackets : r.packets = (framesIn done).map packetOf)
    (hhead : sockClientRecv call.header eventLen (bs.drop r.pos) = some eventLen)
    (hinfo : sockClientRecv call.body (infoSize (bs.drop r.pos)) (bs.drop (r.pos + eventLen)) =
      some (infoSize (bs.drop r.pos))) :
    Progress width height es (r.readEvent bs call) ∧ (r.readEvent bs call).connected = r.connected := by
  have hsize : infoSize (bs.drop r.pos) = vauthLen := by
    rw [hav, infoSize]
    simp only [ServerEvent.bytes, vauthAckEvent, List.append_assoc]
    rw [event_type, if_pos rfl]
  rw [hsize] at hinfo
  rw [readEvent_vauthAck hav hhead hinfo]
  refine ⟨.between (done ++ [.vauthAck result]) rest (by rw [hes]; simp) hw hh hfill ?_ ?_, rfl⟩
  · show r.pos + 76 = _
    rw [hpos, outStream_append, List.length_append, Nat.add_assoc]
    rfl
  · have hnone : framesIn [.vauthAck result] = [] := rfl
    rw [framesIn_append, hnone, List.append_nil]
    exact hpackets

theorem Progress.frame {done rest : List ServerEvent} {f : Frame} {fw fh : UInt32}
    (hbs : bs = vheadEvent irrvEventVhead 0 0 width height format auth ++ outStream es)
    (hmax : 4 * width.toNat * height.toNat < 2 ^ 32) (hfit : Fits width height f)
    (hav : bs.drop r.pos = (ServerEvent.vframe f fw fh).bytes ++ outStream rest)
    (hes : es = done ++ .vframe f fw fh :: rest) (hw : r.width = width) (hh : r.height = height)
    (hpos : r.pos = 48 + (outStream done).length) (hpackets : r.packets = (framesIn done).map packetOf)
    (hhead : sockClientRecv call.header eventLen (bs.drop r.pos) = some eventLen)
    (hinfo : sockClientRecv call.body (infoSize (bs.drop r.pos)) (bs.drop (r.pos + eventLen)) =
      some (infoSize (bs.drop r.pos))) :
    Progress width height es (r.readEvent bs call) ∧ (r.readEvent bs call).connected = r.connected := by
  have hsize : infoSize (bs.drop r.pos) = bodyLen := by
    rw [hav]
    simp only [ServerEvent.bytes, vframeEvent, List.append_assoc]
    exact infoSize_event (by decide)
  obtain ⟨hne, hlimit⟩ := hfit.check hmax
  have hint := hfit.2.2
  rw [hsize] at hinfo
  rw [readEvent_vframe hav hhead hinfo hne (by rw [hw, hh]; exact hlimit)]
  refine Progress.fill _ ?_ hes hw hh hpackets ⟨toInt32_length hint, ?_, Nat.zero_le _, ?_, by simp⟩
  · rw [hbs, hes]
    exact drop_frameData _ done f fw fh rest rfl
  · show r.pos + 48 = _
    rw [hpos]; rfl
  · show (resize _ _).length = _
    rw [resize_length, UInt32.toNat_ofNat']
    omega

/-- **A header that is there**, between two events: the event is read in whole. -/
theorem Progress.next {done rest : List ServerEvent}
    (hbs : bs = vheadEvent irrvEventVhead 0 0 width height format auth ++ outStream es)
    (hmax : 4 * width.toNat * height.toNat < 2 ^ 32) (hfit : ∀ f ∈ framesIn es, Fits width height f)
    (hes : es = done ++ rest) (hw : r.width = width) (hh : r.height = height)
    (hpos : r.pos = 48 + (outStream done).length) (hfill : r.filling = none)
    (hpackets : r.packets = (framesIn done).map packetOf)
    (hhead : sockClientRecv call.header eventLen (bs.drop r.pos) = some eventLen)
    (hinfo : sockClientRecv call.body (infoSize (bs.drop r.pos)) (bs.drop (r.pos + eventLen)) =
      some (infoSize (bs.drop r.pos))) :
    Progress width height es (r.readEvent bs call) ∧ (r.readEvent bs call).connected = r.connected := by
  cases rest with
  | nil =>
    -- everything is read: there is no header to receive
    have hlen := (sockClientRecv_some hhead).2.1
    rw [hbs, hes, hpos, List.append_nil, List.length_drop, List.length_append] at hlen
    simp [vheadEvent, eventLen] at hlen
  | cons e rest =>
    have hav : bs.drop r.pos = e.bytes ++ outStream rest := by
      rw [hbs, hes, hpos]
      exact drop_outStream _ done e rest rfl
    cases e with
    | vauthAck result => exact Progress.ack hav hes hw hh hpos hfill hpackets hhead hinfo
    | vframe f fw fh =>
      have hf : Fits width height f := hfit f (by rw [hes]; exact mem_framesIn done rest f fw fh)
      exact Progress.frame hbs hmax hf hav hes hw hh hpos hpackets hhead hinfo

/-- The `VHEAD`. -/
theorem Progress.vhead (hbs : bs = vheadEvent irrvEventVhead 0 0 width height format auth ++ outStream es)
    (hpos : r.pos = 0) (hfill : r.filling = none) (hpackets : r.packets = [])
    (hhead : sockClientRecv call.header eventLen (bs.drop r.pos) = some eventLen)
    (hinfo : sockClientRecv call.body (infoSize (bs.drop r.pos)) (bs.drop (r.pos + eventLen)) =
      some (infoSize (bs.drop r.pos))) :
    Progress width height es (r.readEvent bs call) ∧ (r.readEvent bs call).connected = r.connected := by
  have hav : bs.drop r.pos = vheadEvent irrvEventVhead 0 0 width height format auth ++ outStream es := by
    rw [hpos, hbs, List.drop_zero]
  have hsize : infoSize (bs.drop r.pos) = bodyLen := by
    rw [hav, vheadEvent, List.append_assoc]
    exact infoSize_event (by decide)
  rw [hsize] at hinfo
  obtain ⟨sent, hr⟩ := readEvent_vhead hav hhead hinfo
  rw [hr]
  refine ⟨.between [] es rfl rfl rfl hfill ?_ hpackets, rfl⟩
  show r.pos + 48 = _
  rw [hpos]
  rfl

/-- A call between two events does nothing, or reads the next one. -/
theorem recvEsStream_idle (hc : r.connected = true) (hfill : r.filling = none) (hcall : Uncut bs r call) :
    recvEsStream bs r call = r ∨
      recvEsStream bs r call = r.readEvent bs call ∧
        sockClientRecv call.header eventLen (bs.drop r.pos) = some eventLen ∧
        sockClientRecv call.body (infoSize (bs.drop r.pos)) (bs.drop (r.pos + eventLen)) =
          some (infoSize (bs.drop r.pos)) := by
  have hstep : recvEsStream bs r call =
      match call.polled with
      | .error => { r with connected := false }
      | .timeout => r
      | .ready => r.readEvent bs call := by
    unfold recvEsStream
    rw [hc, hfill]
    rfl
  rw [hstep]
  cases hp : call.polled with
  | error => exact absurd hp hcall.1
  | timeout => exact Or.inl rfl
  | ready =>
    rcases hcall.2 hfill hp with hnone | hsome
    · exact Or.inl (readEvent_none hnone)
    · exact Or.inr ⟨rfl, hsome⟩

/-- **One call.** -/
theorem Progress.step (hbs : bs = vheadEvent irrvEventVhead 0 0 width height format auth ++ outStream es)
    (hmax : 4 * width.toNat * height.toNat < 2 ^ 32) (hfit : ∀ f ∈ framesIn es, Fits width height f)
    (h : Progress width height es r) (hc : r.connected = true) (hcall : Uncut bs r call) :
    Progress width height es (recvEsStream bs r call) ∧ (recvEsStream bs r call).connected = r.connected := by
  cases h with
  | start hfill hpos hpackets =>
    rcases recvEsStream_idle hc hfill hcall with he | ⟨he, hhead, hinfo⟩
    · rw [he]; exact ⟨.start hfill hpos hpackets, rfl⟩
    · rw [he]; exact Progress.vhead hbs hpos hfill hpackets hhead hinfo
  | between done rest hes hw hh hfill hpos hpackets =>
    rcases recvEsStream_idle hc hfill hcall with he | ⟨he, hhead, hinfo⟩
    · rw [he]; exact ⟨.between done rest hes hw hh hfill hpos hpackets, rfl⟩
    · rw [he]; exact Progress.next hbs hmax hfit hes hw hh hpos hfill hpackets hhead hinfo
  | inside done rest f fw fh k hes hw hh hfill hk hpos hlen hgot hpackets =>
    have hstep : recvEsStream bs r call =
        Receiver.fill bs call.payload r ⟨UInt32.ofNat f.data.length, f.flags, k⟩ := by
      unfold recvEsStream
      rw [hc, hfill]
      rfl
    have hf : Fits width height f := hfit f (by rw [hes]; exact mem_framesIn done rest f fw fh)
    have hav : bs.drop (48 + (outStream done).length + 48) = f.data ++ outStream rest := by
      rw [hbs, hes]
      exact drop_frameData _ done f fw fh rest rfl
    rw [hstep]
    exact Progress.fill _ hav hes hw hh hpackets ⟨toInt32_length hf.2.2, hpos, Nat.le_of_lt hk, hlen, hgot⟩

end

/-- The connection is up, the packets are the frames in order, and all of them once the bytes are read. -/
structure Delivers (bs : Buf) (frames : List Frame) (r : Receiver) : Prop where
  up : r.connected = true
  packets : r.packets <+: frames.map packetOf
  all : r.pos = bs.length → r.packets = frames.map packetOf

theorem Progress.delivers {width height format auth : UInt32} {es : List ServerEvent}
    (hbs : bs = vheadEvent irrvEventVhead 0 0 width height format auth ++ outStream es)
    (h : Progress width height es r) (hc : r.connected = true) : Delivers bs (framesIn es) r := by
  have hlen : bs.length = 48 + (outStream es).length := by rw [hbs, List.length_append]; rfl
  cases h with
  | start hfill hpos hpackets =>
    refine ⟨hc, by rw [hpackets]; exact List.nil_prefix, fun hall => ?_⟩
    omega
  | between done rest hes hw hh hfill hpos hpackets =>
    refine ⟨hc, ?_, fun hall => ?_⟩
    · rw [hpackets, hes, framesIn_append, List.map_append]
      exact List.prefix_append ..
    · rw [hlen, hpos, hes, outStream_append, List.length_append] at hall
      have hrest : rest = [] := by
        cases rest with
        | nil => rfl
        | cons e rest =>
          have := e.bytes_pos
          simp only [outStream, List.flatMap_cons, List.length_append] at hall
          omega
      rw [hpackets, hes, hrest, List.append_nil]
  | inside done rest f fw fh k hes hw hh hfill hk hpos hlen' hgot hpackets =>
    refine ⟨hc, ?_, fun hall => ?_⟩
    · rw [hpackets, hes, framesIn_append, List.map_append]
      exact List.prefix_append ..
    · rw [hlen, hpos, hes, outStream_append, List.length_append] at hall
      simp only [outStream, List.flatMap_cons, List.length_append, ServerEvent.bytes, vframeEvent_length] at hall
      omega

/-- **The receiver**, for any calls that do not cut an event, whatever pieces the frames' data comes in. -/
theorem delivers_of_uncut {width height format auth : UInt32} {es : List ServerEvent}
    (hbs : bs = vheadEvent irrvEventVhead 0 0 width height format auth ++ outStream es)
    (hmax : 4 * width.toNat * height.toNat < 2 ^ 32) (hfit : ∀ f ∈ framesIn es, Fits width height f)
    (calls : List Call) (hcalls : Meets (recvEsStream bs) (Uncut bs) init calls) :
    Delivers bs (framesIn es) (calls.foldl (recvEsStream bs) init) := by
  have hstep : ∀ r call, Progress width height es r ∧ r.connected = true → Uncut bs r call →
      Progress width height es (recvEsStream bs r call) ∧ (recvEsStream bs r call).connected = true := by
    rintro r call ⟨hp, hc⟩ hu
    obtain ⟨hp', hc'⟩ := hp.step hbs hmax hfit hc hu
    exact ⟨hp', hc'.trans hc⟩
  obtain ⟨hp, hc⟩ := Meets.inv hstep calls init ⟨.start rfl rfl rfl, rfl⟩ hcalls
  exact hp.delivers hbs hc

/-- On a connection nothing was sent on, nothing is received. -/
theorem delivers_nil (calls : List Call) (hcalls : Meets (recvEsStream []) (Uncut []) init calls) :
    Delivers [] [] (calls.foldl (recvEsStream []) init) := by
  have hstep : ∀ r call, r.connected = true ∧ r.filling = none ∧ r.packets = [] → Uncut [] r call →
      (recvEsStream [] r call).connected = true ∧ (recvEsStream [] r call).filling = none ∧
        (recvEsStream [] r call).packets = [] := by
    rintro r call ⟨hc, hfill, hp⟩ hu
    rcases recvEsStream_idle hc hfill hu with he | ⟨-, hhead, -⟩
    · rw [he]; exact ⟨hc, hfill, hp⟩
    · have hlen := (sockClientRecv_some hhead).2.1
      simp [eventLen] at hlen
  obtain ⟨hc, -, hp⟩ := Meets.inv hstep calls init ⟨rfl, rfl, rfl⟩ hcalls
  exact ⟨hc, by rw [hp]; exact List.nil_prefix, fun _ => hp⟩

end Receiver

end CloudStreaming.Irrv
