import CloudStreaming.Irrv.Auth

/-!
# The control stream (`irrv_checknewconn` and `CSendRecvMessage`)

A poll reads one header and then the body of the event, but only of the events it handles; the body of an
event it skips stays in the socket, and the next poll takes its bytes for a header. With which events that
happens depends on the state:

| event | body read |
| --- | --- |
| `VHEAD_ACK` | never |
| `VAUTH`     | with authentication |
| `VCTRL`     | without authentication, or after the `VAUTH` |

`control_agreement` is the agreement of the two ends for clients that send events of the second column,
in any order the rule allows, with any arrival of the bytes; `ack_body_is_header` is the first poll after
the `VHEAD_ACK` with which every client of the library answers the `VHEAD`.
-/

namespace CloudStreaming.Irrv

open Bytes Runs

/-! ## What the client sends -/

/-- The events of `CSendRecvMessage`: the answer to `VHEAD` (`:537-548`), `irrv_send_authentication`
(`:148`) and `irrv_op` (`:212`). -/
inductive ClientEvent where
  | vheadAck (width height format : UInt32)
  | vauth
  | vctrl (v : Vctrl)
  deriving DecidableEq, Repr

def ClientEvent.bytes : ClientEvent → Buf
  | .vheadAck width height format => vheadEvent irrvEventVheadAck 1 0 width height format 0
  | .vauth => vauthEvent authId authKey
  | .vctrl v => vctrlEvent v

/-- The bytes of the connection. -/
def stream (es : List ClientEvent) : Buf := es.flatMap ClientEvent.bytes

/-- The positions where events start, from `p` on. -/
def startsFrom : Nat → List ClientEvent → List Nat
  | _, [] => []
  | p, e :: es => p :: startsFrom (p + e.bytes.length) es

/-- Whether controls are permitted after `es`, when `ok` says it before. -/
def okAfter : Bool → List ClientEvent → Bool
  | ok, [] => ok
  | _, .vauth :: es => okAfter true es
  | ok, _ :: es => okAfter ok es

/-- The controls sent while permitted. -/
def controls : Bool → List ClientEvent → List Vctrl
  | _, [] => []
  | _, .vauth :: es => controls true es
  | ok, .vctrl v :: es => if ok then v :: controls ok es else controls ok es
  | ok, _ :: es => controls ok es

/-- The server reads the body of every event, and knows the type of every control. -/
def ReadWhole (auth : Bool) : Bool → List ClientEvent → Prop
  | _, [] => True
  | _, .vheadAck _ _ _ :: _ => False
  | _, .vauth :: es => auth = true ∧ ReadWhole auth true es
  | ok, .vctrl v :: es => v.ctrlType ≤ irrvCtrlEnd ∧ ok = true ∧ ReadWhole auth ok es

theorem stream_append (a b : List ClientEvent) : stream (a ++ b) = stream a ++ stream b := List.flatMap_append ..

theorem startsFrom_append (a b : List ClientEvent) :
    ∀ p, startsFrom p (a ++ b) = startsFrom p a ++ startsFrom (p + (stream a).length) b := by
  induction a with
  | nil => intro p; rfl
  | cons e a ih =>
    intro p
    simp only [List.cons_append, startsFrom, ih, stream, List.flatMap_cons, List.length_append, Nat.add_assoc]

theorem okAfter_append (a b : List ClientEvent) : ∀ ok, okAfter ok (a ++ b) = okAfter (okAfter ok a) b := by
  induction a with
  | nil => intro ok; rfl
  | cons e a ih => intro ok; cases e <;> exact ih _

theorem controls_append (a b : List ClientEvent) :
    ∀ ok, controls ok (a ++ b) = controls ok a ++ controls (okAfter ok a) b := by
  induction a with
  | nil => intro ok; rfl
  | cons e a ih =>
    intro ok
    cases e with
    | vheadAck width height format => exact ih ok
    | vauth => exact ih true
    | vctrl v => cases ok <;> simp [controls, okAfter, ih]

theorem readWhole_append {auth : Bool} (a b : List ClientEvent) :
    ∀ ok, ReadWhole auth ok (a ++ b) ↔ ReadWhole auth ok a ∧ ReadWhole auth (okAfter ok a) b := by
  induction a with
  | nil => intro ok; simp [ReadWhole, okAfter]
  | cons e a ih =>
    intro ok
    cases e with
    | vheadAck width height format => simp [ReadWhole]
    | vauth => simp [ReadWhole, okAfter, ih, and_assoc]
    | vctrl v => simp [ReadWhole, okAfter, ih, and_assoc]

/-! ## What the server reads and applies -/

def headerOf (c : Conn) : Event → Option Nat
  | .header c' pos => if c' = c then some pos else none
  | _ => none

def controlOf (c : Conn) : Event → Option Vctrl
  | .vctrl _ c' v => if c' = c then some v else none
  | _ => none

/-- The positions of the stream of `c` at which a header was read. -/
def headersOn (c : Conn) (log : List Event) : List Nat := (log.filterMap (headerOf c)).reverse

/-- The controls of `c` that were applied, oldest first. -/
def appliedOn (c : Conn) (log : List Event) : List Vctrl := (log.filterMap (controlOf c)).reverse

theorem headersOn_cons (c : Conn) (e : Event) (log : List Event) :
    headersOn c (e :: log) = headersOn c log ++ (headerOf c e).toList :=
  reverse_filterMap_cons ..

theorem appliedOn_cons (c : Conn) (e : Event) (log : List Event) :
    appliedOn c (e :: log) = appliedOn c log ++ (controlOf c e).toList :=
  reverse_filterMap_cons ..

/-! ## A session -/

/-- The server, and what the client of connection `c` has sent; of that, the first `(sent c).length` bytes
have arrived. -/
structure Session where
  world : World
  events : List ClientEvent

inductive SessionOp where
  | client (e : ClientEvent)
  | arrive (n : Nat)
  | server (o : Op)

namespace Session

def inFlight (x : Session) (c : Conn) : Buf := (stream x.events).drop (x.world.sent c).length

def step (c : Conn) (x : Session) : SessionOp → Session
  | .client e => { x with events := x.events ++ [e] }
  | .arrive n => { x with world := Irrv.step x.world (.peer c ((x.inFlight c).take n)) }
  | .server o => { x with world := Irrv.step x.world o }

/-- Headers are read where events start; the controls applied are, in order, those sent while permitted,
and all of them once the bytes are read. -/
structure Agrees (c : Conn) (x : Session) : Prop where
  headers : ∀ p ∈ headersOn c x.world.log, p ∈ startsFrom 0 x.events
  applied : appliedOn c x.world.log <+: controls (!x.world.authFlag) x.events
  all : x.world.pos c = (stream x.events).length →
    appliedOn c x.world.log = controls (!x.world.authFlag) x.events

end Session

/-- The poll reads from connection `c`. -/
def World.Polls (w : World) (c : Conn) (s : Server) (io : Io) : Prop :=
  io.selected = true ∧ (w.pollAccept s io).clients s = some c ∧ w.checkConnect c io = .readable

/-- The bytes after a header that its type asks for. -/
def bodySize (inbox : Buf) : Nat :=
  if wordAt inbox 1 = irrvEventVauth then vauthLen else if wordAt inbox 1 = irrvEventVctrl then bodyLen else 0

/-- Neither read of the poll stops part of the way. -/
def Io.Uncut (io : Io) (inbox : Buf) : Prop :=
  sockServerRecv io.recvHeader eventLen inbox = 0 ∨
    sockServerRecv io.recvHeader eventLen inbox = eventLen ∧
      sockServerRecv io.recvBody (bodySize inbox) (inbox.drop eventLen) = bodySize inbox

/-- The client sends what the server reads whole, nobody else writes to its connection, and no read of it
stops part of the way. -/
def Session.Sound (c : Conn) (x : Session) : SessionOp → Prop
  | .client e => ReadWhole x.world.authFlag (!x.world.authFlag) (x.events ++ [e])
  | .arrive _ => True
  | .server o => (∀ bytes, o ≠ .peer c bytes) ∧
      ∀ s io, o.poll = some (s, io) → x.world.Polls c s io → io.Uncut (x.world.inbox c)

/-! ## Reads -/

theorem sockLoop_le : ∀ (os : List SysOutcome) (left avail : Nat), sockLoop os left avail ≤ avail
  | [], _, _ => Nat.zero_le _
  | .error :: _, _, _ => Nat.zero_le _
  | .again t :: os, left, avail => by
    unfold sockLoop
    split
    · exact Nat.zero_le _
    · exact sockLoop_le os left avail
  | .moved n t :: os, left, avail => by
    have ih := sockLoop_le os (left - min (n + 1) (min left avail)) (avail - min (n + 1) (min left avail))
    unfold sockLoop
    dsimp only
    split <;> omega

namespace World

/-- A read that gets all it asks for. -/
theorem recvInto_whole {w : World} {c : Conn} {os : List SysOutcome} (buf : Buf)
    (h : sockServerRecv os buf.length (w.inbox c) = buf.length) :
    w.recvInto c os buf =
      ({ w with pos := Function.update w.pos c (w.pos c + buf.length) }, (w.inbox c).take buf.length) := by
  have hle : buf.length ≤ (w.inbox c).length := h ▸ sockLoop_le os buf.length _
  unfold recvInto
  dsimp only
  rw [h, overlay_eq (by rw [List.length_take]; omega)]

/-- A read that gets nothing. -/
theorem recvInto_nothing {w : World} {c : Conn} {os : List SysOutcome} (buf : Buf)
    (h : sockServerRecv os buf.length (w.inbox c) = 0) : w.recvInto c os buf = (w, buf) := by
  unfold recvInto
  dsimp only
  rw [h, Nat.add_zero, Function.update_eq_self, List.take_zero]
  rfl

/-- The state after the header of an event, or nothing of it, is read. -/
def afterHeader (w : World) (c : Conn) (n : Nat) : World :=
  { w.record (.header c (w.pos c)) with pos := Function.update w.pos c (w.pos c + n) }

theorem afterHeader_inbox (w : World) (c : Conn) (n : Nat) : (w.afterHeader c n).inbox c = (w.inbox c).drop n := by
  simp [afterHeader, inbox, List.drop_drop, record]

theorem readHeader_whole {w : World} {c : Conn} {os : List SysOutcome}
    (h : sockServerRecv os eventLen (w.inbox c) = eventLen) :
    w.readHeader c os = (w.afterHeader c eventLen, (w.inbox c).take eventLen) :=
  recvInto_whole (w := w.record (.header c (w.pos c))) (zeros eventLen) h

theorem readHeader_nothing {w : World} {c : Conn} {os : List SysOutcome}
    (h : sockServerRecv os eventLen (w.inbox c) = 0) : w.readHeader c os = (w.afterHeader c 0, zeros eventLen) := by
  unfold readHeader
  rw [recvInto_nothing (w := w.record (.header c (w.pos c))) (zeros eventLen) h]
  simp [afterHeader, Function.update_eq_self, record]

/-- A poll that gets nothing of the header does nothing else. -/
theorem readEvent_nothing {w : World} {s : Server} {c : Conn} {io : Io} {auth : Bool}
    (h : sockServerRecv io.recvHeader eventLen (w.inbox c) = 0) : w.readEvent s c io auth = w.afterHeader c 0 := by
  unfold readEvent
  dsimp only
  rw [readHeader_nothing h]
  have hz : wordAt (zeros eventLen) 1 = 0 := by decide
  rw [hz, if_neg (fun hh => absurd hh.1 (by decide)), if_neg (fun hh => absurd hh.1 (by decide))]

/-- The body of an event whose header is read. -/
theorem recvBody_whole {w : World} {c : Conn} {os : List SysOutcome} (buf : Buf)
    (h : sockServerRecv os buf.length ((w.inbox c).drop eventLen) = buf.length) :
    (w.afterHeader c eventLen).recvInto c os buf =
      (w.afterHeader c (eventLen + buf.length), ((w.inbox c).drop eventLen).take buf.length) := by
  rw [← afterHeader_inbox] at h
  rw [recvInto_whole buf h, afterHeader_inbox]
  simp [afterHeader, Nat.add_assoc]

/-- The bytes the client sent next are `e` and `more`, of which some have arrived. -/
def Front (w : World) (c : Conn) (e : ClientEvent) : Prop := ∃ tail more, w.inbox c ++ tail = e.bytes ++ more

theorem Front.take {w : World} {c : Conn} {e : ClientEvent} (h : w.Front c e) {n : Nat}
    (hi : n ≤ (w.inbox c).length) (he : n ≤ e.bytes.length) : (w.inbox c).take n = e.bytes.take n := by
  obtain ⟨tail, more, hb⟩ := h
  calc (w.inbox c).take n = (w.inbox c ++ tail).take n := (List.take_append_of_le_length hi).symm
    _ = (e.bytes ++ more).take n := by rw [hb]
    _ = e.bytes.take n := List.take_append_of_le_length he

/-- The header of the next event, once it has arrived. -/
theorem Front.type {w : World} {c : Conn} {e : ClientEvent} (h : w.Front c e) (hi : eventLen ≤ (w.inbox c).length)
    (he : eventLen ≤ e.bytes.length) : wordAt (w.inbox c) 1 = wordAt e.bytes 1 := by
  have ht := h.take hi he
  rw [← List.take_append_drop eventLen (w.inbox c), ← List.take_append_drop eventLen e.bytes, ht,
    wordAt_append _ (by rw [List.length_take, eventLen]; rw [eventLen] at he; omega),
    wordAt_append _ (by rw [List.length_take, eventLen]; rw [eventLen] at he; omega)]

/-- The body of the next event, once it has arrived. -/
theorem Front.body {w : World} {c : Conn} {e : ClientEvent} (h : w.Front c e) {n : Nat}
    (hi : eventLen + n ≤ (w.inbox c).length) (he : e.bytes.length = eventLen + n) :
    ((w.inbox c).drop eventLen).take n = e.bytes.drop eventLen := by
  rw [List.take_drop, h.take hi (Nat.le_of_eq he.symm), ← he, List.take_length]

theorem readEvent_vauth {w : World} {s : Server} {c : Conn} {io : Io} (hf : w.Front c .vauth)
    (hh : sockServerRecv io.recvHeader eventLen (w.inbox c) = eventLen)
    (hb : sockServerRecv io.recvBody (bodySize (w.inbox c)) ((w.inbox c).drop eventLen) = bodySize (w.inbox c)) :
    w.readEvent s c io true =
      ((w.afterHeader c 76).record (.vauth s c (ClientEvent.vauth.bytes.drop eventLen))).passVauth s c io.sendAck := by
  have hlen : eventLen ≤ (w.inbox c).length := hh ▸ sockLoop_le _ _ _
  have htype : wordAt (w.inbox c) 1 = irrvEventVauth := (hf.type hlen (by decide)).trans (by decide)
  have htake : wordAt ((w.inbox c).take eventLen) 1 = irrvEventVauth := by
    rw [hf.take hlen (by decide)]; decide
  have hsize : bodySize (w.inbox c) = (zeros vauthLen).length := by rw [bodySize, if_pos htype, zeros_length]
  rw [hsize] at hb
  have hmore : vauthLen ≤ ((w.inbox c).drop eventLen).length := by
    have := sockLoop_le io.recvBody (zeros vauthLen).length ((w.inbox c).drop eventLen).length
    rw [zeros_length] at hb this
    exact hb ▸ this
  rw [List.length_drop] at hmore
  have hbody : ((w.inbox c).drop eventLen).take vauthLen = ClientEvent.vauth.bytes.drop eventLen :=
    hf.body (by omega) (by decide)
  unfold readEvent
  dsimp only
  rw [readHeader_whole hh, if_pos ⟨htake, rfl⟩]
  have hpass : irrvCheckAuthentication (vauthId (ClientEvent.vauth.bytes.drop eventLen))
      (vauthKey (ClientEvent.vauth.bytes.drop eventLen)) = true := by decide
  unfold readVauth
  dsimp only
  rw [recvBody_whole _ hb, zeros_length, hbody, if_pos hpass]
  rfl

theorem readEvent_vctrl {w : World} {s : Server} {c : Conn} {io : Io} {auth : Bool} {v : Vctrl}
    (hf : w.Front c (.vctrl v)) (hv : v.ctrlType ≤ irrvCtrlEnd) (hp : (!auth || w.authPass s) = true)
    (hh : sockServerRecv io.recvHeader eventLen (w.inbox c) = eventLen)
    (hb : sockServerRecv io.recvBody (bodySize (w.inbox c)) ((w.inbox c).drop eventLen) = bodySize (w.inbox c)) :
    w.readEvent s c io auth = (w.afterHeader c 48).applyVctrl s c v := by
  have hlen : eventLen ≤ (w.inbox c).length := hh ▸ sockLoop_le _ _ _
  have hhead : wordAt (ClientEvent.vctrl v).bytes 1 = irrvEventVctrl := event_type ..
  have htype : wordAt (w.inbox c) 1 = irrvEventVctrl :=
    (hf.type hlen (by simp [ClientEvent.bytes, eventLen])).trans hhead
  have htake : wordAt ((w.inbox c).take eventLen) 1 = irrvEventVctrl := by
    rw [hf.take hlen (by simp [ClientEvent.bytes, eventLen])]
    exact header_type ..
  have hneq : irrvEventVctrl ≠ irrvEventVauth := by decide
  let buf := overlay (io.uninit.take bodyLen) (zeros bodyLen)
  have hbuf : buf.length = bodyLen := by
    simp only [buf, overlay, List.length_append, List.length_drop, List.length_take, zeros_length]
    omega
  have hsize : bodySize (w.inbox c) = buf.length := by rw [bodySize, htype, if_neg hneq, if_pos rfl, hbuf]
  rw [hsize] at hb
  have hmore : bodyLen ≤ ((w.inbox c).drop eventLen).length := by
    have := sockLoop_le io.recvBody buf.length ((w.inbox c).drop eventLen).length
    rw [hbuf] at hb this
    exact hb ▸ this
  rw [List.length_drop] at hmore
  have hbody : ((w.inbox c).drop eventLen).take bodyLen = v.toBytes := hf.body (e := .vctrl v) (by omega) rfl
  have hof := v.ofBytes_toBytes []
  rw [List.append_nil] at hof
  unfold readEvent
  dsimp only
  rw [readHeader_whole hh, htake, if_neg (fun h => hneq h.1), if_pos ⟨rfl, hp⟩]
  unfold readVctrl
  dsimp only
  rw [recvBody_whole buf hb, hbuf, hbody, hof, if_pos hv]
  rfl

/-! ## What concerns other connections -/

/-- Nothing happens to connection `c`, except that it may be given up. -/
structure Same (c : Conn) (w w' : World) : Prop where
  sent : w'.sent c = w.sent c
  pos : w'.pos c = w.pos c
  headers : headersOn c w'.log = headersOn c w.log
  applied : appliedOn c w'.log = appliedOn c w.log
  flag : w'.authFlag = w.authFlag
  live : ∀ s, w'.clients s = some c → w.clients s = some c ∧ w'.authPass s = w.authPass s
  next : w.nextConn ≤ w'.nextConn

theorem Same.refl (c : Conn) (w : World) : Same c w w :=
  ⟨rfl, rfl, rfl, rfl, rfl, fun _ h => ⟨h, rfl⟩, Nat.le_refl _⟩

theorem Same.trans {c : Conn} {w w' w'' : World} (h : Same c w w') (h' : Same c w' w'') : Same c w w'' := by
  refine ⟨h'.sent.trans h.sent, h'.pos.trans h.pos, h'.headers.trans h.headers, h'.applied.trans h.applied,
    h'.flag.trans h.flag, fun s hs => ?_, Nat.le_trans h.next h'.next⟩
  obtain ⟨h1, hp⟩ := h'.live s hs
  obtain ⟨h2, hq⟩ := h.live s h1
  exact ⟨h2, hp.trans hq⟩

/-- The event is neither a header nor a control of `c`. -/
def Foreign (c : Conn) (e : Event) : Prop := headerOf c e = none ∧ controlOf c e = none

theorem Same.record {c : Conn} {e : Event} (h : Foreign c e) (w : World) : Same c w (w.record e) := by
  refine ⟨rfl, rfl, ?_, ?_, rfl, fun _ hs => ⟨hs, rfl⟩, Nat.le_refl _⟩
  · rw [record_log, headersOn_cons, h.1]; simp
  · rw [record_log, appliedOn_cons, h.2]; simp

/-- The connection of `s` is replaced, by none or by another one. -/
theorem Same.update {c : Conn} (w : World) (s : Server) (client : Option Conn) (pass : Bool) (n : Conn)
    (hc : client ≠ some c) (hn : w.nextConn ≤ n) :
    Same c w { w with
      clients := Function.update w.clients s client
      authPass := Function.update w.authPass s pass
      nextConn := n } := by
  refine ⟨rfl, rfl, rfl, rfl, rfl, fun s' hs => ?_, hn⟩
  by_cases he : s' = s
  · subst he
    simp only [Function.update_self] at hs
    exact absurd hs hc
  · simp only [Function.update_of_ne he] at hs
    exact ⟨hs, Function.update_of_ne he ..⟩

theorem Same.onStreamer {c : Conn} (w : World) (f : Streamer → Streamer) (h : ∀ st, (f st).auth = st.auth) :
    Same c w (w.onStreamer f) :=
  ⟨rfl, rfl, rfl, rfl, onStreamer_authFlag w f h, fun _ hs => ⟨hs, rfl⟩, Nat.le_refl _⟩

theorem Same.incClient {c : Conn} (w : World) : Same c w w.incClient := Same.onStreamer w _ (fun _ => rfl)

theorem Same.decClient {c : Conn} (w : World) : Same c w w.decClient := Same.onStreamer w _ (fun _ => rfl)

theorem Same.setFlags {c : Conn} (w : World) (on : Bool) : Same c w ((w.setEncodeFlag on).setTransmitFlag on) := by
  have h1 : Same c w (w.setEncodeFlag on) := Same.onStreamer w _ (fun _ => rfl)
  have h2 : Same c (w.setEncodeFlag on) ((w.setEncodeFlag on).setTransmitFlag on) :=
    Same.onStreamer _ _ (fun _ => rfl)
  exact h1.trans h2

theorem Same.recvInto {c c' : Conn} (w : World) (os : List SysOutcome) (buf : Buf) (hc : c ≠ c') :
    Same c w (w.recvInto c' os buf).1 :=
  ⟨rfl, Function.update_of_ne hc .., rfl, rfl, rfl, fun _ hs => ⟨hs, rfl⟩, Nat.le_refl _⟩

theorem Same.acceptClient {c : Conn} (w : World) (s : Server) (io : Io) (auth : Bool)
    (hc : io.created = true → w.nextConn ≠ c) : Same c w (w.acceptClient s io auth) := by
  have hpass : Function.update w.authPass s (w.authPass s) = w.authPass := Function.update_eq_self ..
  unfold World.acceptClient
  cases hcr : io.created with
  | false =>
    have h1 := Same.update (c := c) w s none (w.authPass s) (w.nextConn + 1) (by simp) (Nat.le_succ _)
    rw [hpass] at h1
    exact h1.trans (Same.incClient _)
  | true =>
    have hne : some w.nextConn ≠ some c := fun h => hc hcr (Option.some.inj h)
    have h1 := Same.update w s (some w.nextConn) (w.authPass s) (w.nextConn + 1) hne (Nat.le_succ _)
    rw [hpass] at h1
    refine h1.trans ((Same.record (e := .accept s w.nextConn) ⟨rfl, rfl⟩ _).trans ?_)
    exact (Same.incClient _).trans (Same.record (e := .send w.nextConn _ io.sendHead) ⟨rfl, rfl⟩ _)

theorem Same.dropClient {c : Conn} (w : World) (s : Server) (c' : Conn) : Same c w (w.dropClient s c') := by
  have h1 := Same.update (c := c) w s none false w.nextConn (by simp) (Nat.le_refl _)
  have h2 := (h1.trans (Same.record (e := .drop s c') ⟨rfl, rfl⟩ _)).trans (Same.decClient _)
  unfold World.dropClient
  dsimp only
  split
  · exact h2.trans (Same.setFlags _ false)
  · exact h2

theorem Same.passVauth {c c' : Conn} (w : World) (s : Server) (os : List SysOutcome) (hs : w.clients s = some c')
    (hc : c ≠ c') : Same c w (w.passVauth s c' os) := by
  have hne : w.clients s ≠ some c := by rw [hs]; exact fun h => hc (Option.some.inj h).symm
  have hp := Same.update w s (w.clients s) true w.nextConn hne (Nat.le_refl _)
  rw [Function.update_eq_self] at hp
  exact hp.trans (Same.record (e := .send c' (vauthAckEvent .passed) os) ⟨rfl, rfl⟩ _)

theorem Same.failVauth {c c' : Conn} (w : World) (s : Server) (os : List SysOutcome) :
    Same c w (w.failVauth s c' os) := by
  have hp := Same.update (c := c) w s none false w.nextConn (by simp) (Nat.le_refl _)
  exact hp.trans (Same.record (e := .send c' (vauthAckEvent .failed) os) ⟨rfl, rfl⟩ _)

theorem Same.readVauth {c c' : Conn} (w : World) (s : Server) (io : Io) (hs : w.clients s = some c') (hc : c ≠ c') :
    Same c w (w.readVauth s c' io) := by
  have hr : Same c w ((w.recvInto c' io.recvBody (zeros vauthLen)).1.record
      (.vauth s c' (w.recvInto c' io.recvBody (zeros vauthLen)).2)) :=
    (Same.recvInto w io.recvBody (zeros vauthLen) hc).trans (Same.record ⟨rfl, rfl⟩ _)
  unfold World.readVauth
  dsimp only
  split
  · exact hr.trans (Same.passVauth _ s io.sendAck hs hc)
  · exact hr.trans (Same.failVauth _ s io.sendAck)

theorem Same.applyVctrl {c c' : Conn} (w : World) (s : Server) (v : Vctrl) (hc : c ≠ c') :
    Same c w (w.applyVctrl s c' v) := by
  obtain ⟨f, hf, hk⟩ := applyVctrl_cases w s c' v
  rw [hf]
  have hforeign : Foreign c (.vctrl s c' v) := ⟨rfl, if_neg (fun h => hc h.symm)⟩
  exact (Same.record hforeign w).trans (Same.onStreamer _ f (fun st => (hk st).1))

theorem Same.readEvent {c c' : Conn} (w : World) (s : Server) (io : Io) (auth : Bool) (hs : w.clients s = some c')
    (hc : c ≠ c') : Same c w (w.readEvent s c' io auth) := by
  have hforeign : Foreign c (.header c' (w.pos c')) := ⟨if_neg (fun h => hc h.symm), rfl⟩
  have hh : Same c w (w.readHeader c' io.recvHeader).1 := (Same.record hforeign w).trans (Same.recvInto _ _ _ hc)
  unfold World.readEvent
  dsimp only
  split
  · exact hh.trans (Same.readVauth _ s io hs hc)
  · split
    · have hb := Same.recvInto (w.readHeader c' io.recvHeader).1 io.recvBody
        (overlay (io.uninit.take bodyLen) (zeros bodyLen)) hc
      unfold readVctrl
      dsimp only
      split
      · exact hh.trans (hb.trans (Same.applyVctrl _ s _ hc))
      · exact hh.trans (hb.trans ⟨rfl, rfl, rfl, rfl, rfl, fun _ h => ⟨h, rfl⟩, Nat.le_refl _⟩)
    · exact hh

theorem Same.sendFrame {c : Conn} (w : World) (s : Server) (auth : Bool) (data : Buf) (flags : UInt32) (fio : FrameIo) :
    Same c w (w.sendFrame s auth data flags fio) := by
  unfold World.sendFrame
  split
  · exact Same.refl c w
  · rename_i c' _
    split
    · exact (Same.record (e := .vframe s c' ⟨data, flags⟩) ⟨rfl, rfl⟩ w).trans
        ((Same.record ⟨rfl, rfl⟩ _).trans (Same.record ⟨rfl, rfl⟩ _))
    · exact Same.refl c w

theorem Same.irrvSendMessage {c : Conn} (w : World) (s : Server) (msg value : UInt32) (os : List SysOutcome) :
    Same c w (w.irrvSendMessage s msg value os) := by
  unfold World.irrvSendMessage
  cases w.clients s with
  | none => exact Same.refl c w
  | some c' => exact Same.record ⟨rfl, rfl⟩ w

/-! ## The invariant -/

/-- The server has read the events `done` of what the client of `c` sent, and nothing of the next one. -/
structure Reading (c : Conn) (w : World) (events done : List ClientEvent) : Prop where
  arrived : w.sent c <+: stream events
  whole : ReadWhole w.authFlag (!w.authFlag) events
  read : done <+: events
  pos : w.pos c = (stream done).length
  headers : ∀ p ∈ headersOn c w.log, p ∈ startsFrom 0 events
  applied : appliedOn c w.log = controls (!w.authFlag) done
  ok : ∀ s, w.clients s = some c → (!w.authFlag || w.authPass s) = okAfter (!w.authFlag) done
  uniq : ∀ s s', w.clients s = some c → w.clients s' = some c → s = s'
  unborn : w.nextConn ≤ c → done = []

section
variable {c : Conn} {w w' : World} {events done : List ClientEvent}

theorem Reading.same (h : Reading c w events done) (hs : Same c w w') : Reading c w' events done where
  arrived := hs.sent ▸ h.arrived
  whole := hs.flag ▸ h.whole
  read := h.read
  pos := hs.pos.trans h.pos
  headers := hs.headers ▸ h.headers
  applied := by rw [hs.applied, hs.flag]; exact h.applied
  ok s hl := by
    obtain ⟨hl, hp⟩ := hs.live s hl
    rw [hs.flag, hp]
    exact h.ok s hl
  uniq s s' hl hl' := h.uniq s s' (hs.live s hl).1 (hs.live s' hl').1
  unborn hn := h.unborn (Nat.le_trans hs.next hn)

/-- The next event and what of it has arrived. -/
theorem Reading.front (h : Reading c w events done) (hi : w.inbox c ≠ []) :
    ∃ e rest, events = done ++ e :: rest ∧ w.Front c e := by
  obtain ⟨rest, hrest⟩ := h.read
  obtain ⟨tail, htail⟩ := h.arrived
  have hlt : w.pos c < (w.sent c).length := by
    by_contra hge
    exact hi (List.drop_eq_nil_of_le (by omega))
  rw [← hrest, stream_append] at htail
  have hdrop : w.inbox c ++ tail = stream rest := by
    have := congrArg (List.drop (w.pos c)) htail
    rwa [List.drop_append_of_le_length (Nat.le_of_lt hlt), h.pos, List.drop_left, ← h.pos] at this
  cases rest with
  | nil =>
    have hnil : w.inbox c = [] := (List.append_eq_nil_iff.1 hdrop).1
    exact absurd hnil hi
  | cons e rest => exact ⟨e, rest, hrest.symm, tail, stream rest, hdrop⟩

theorem mem_startsFrom (e : ClientEvent) (rest : List ClientEvent) :
    (stream done).length ∈ startsFrom 0 (done ++ e :: rest) := by
  rw [startsFrom_append, Nat.zero_add]
  exact List.mem_append_right _ List.mem_cons_self

theorem afterHeader_headers (w : World) (c : Conn) (n : Nat) :
    headersOn c (w.afterHeader c n).log = headersOn c w.log ++ [w.pos c] := by
  show headersOn c (.header c (w.pos c) :: w.log) = _
  rw [headersOn_cons]
  simp [headerOf]

theorem afterHeader_applied (w : World) (c : Conn) (n : Nat) :
    appliedOn c (w.afterHeader c n).log = appliedOn c w.log := by
  show appliedOn c (.header c (w.pos c) :: w.log) = _
  rw [appliedOn_cons]
  simp [controlOf]

/-- Event `e` is read from a header at the right place to its last byte. -/
theorem Reading.advance {e : ClientEvent} {rest : List ClientEvent} (h : Reading c w events done)
    (he : events = done ++ e :: rest) (hsent : w'.sent c = w.sent c) (hpos : w'.pos c = w.pos c + e.bytes.length)
    (hheaders : headersOn c w'.log = headersOn c w.log ++ [w.pos c])
    (happlied : appliedOn c w'.log = appliedOn c w.log ++ controls (okAfter (!w.authFlag) done) [e])
    (hflag : w'.authFlag = w.authFlag) (hclients : w'.clients = w.clients)
    (hok : ∀ s, w.clients s = some c → (!w.authFlag || w'.authPass s) = okAfter (okAfter (!w.authFlag) done) [e])
    (hnext : w.nextConn ≤ w'.nextConn) (hborn : ¬ w.nextConn ≤ c) : Reading c w' events (done ++ [e]) where
  arrived := hsent ▸ h.arrived
  whole := hflag ▸ h.whole
  read := ⟨rest, by rw [he]; simp⟩
  pos := by rw [hpos, h.pos, stream_append, List.length_append]; simp [stream]
  headers p hp := by
    rw [hheaders] at hp
    rcases List.mem_append.1 hp with hp | hp
    · exact h.headers p hp
    · rw [List.mem_singleton.1 hp, he, h.pos]
      exact mem_startsFrom e rest
  applied := by rw [happlied, h.applied, hflag, controls_append]
  ok s hs := by
    rw [hclients] at hs
    rw [hflag, hok s hs, okAfter_append]
  uniq s s' hs hs' := h.uniq s s' (hclients ▸ hs) (hclients ▸ hs')
  unborn hn := absurd (Nat.le_trans hnext hn) hborn

theorem Reading.vauth {rest : List ClientEvent} {s : Server} (h : Reading c w events done)
    (he : events = done ++ .vauth :: rest) (hs : w.clients s = some c) (hborn : ¬ w.nextConn ≤ c) (body : Buf)
    (os : List SysOutcome) :
    Reading c (((w.afterHeader c 76).record (.vauth s c body)).passVauth s c os) events (done ++ [.vauth]) := by
  refine h.advance he rfl (Function.update_self ..) ?_ ?_ rfl rfl (fun s' hs' => ?_) (Nat.le_refl _) hborn
  · show headersOn c (.send c _ os :: .vauth s c body :: (w.afterHeader c 76).log) = _
    rw [headersOn_cons, headersOn_cons, afterHeader_headers]
    simp [headerOf]
  · show appliedOn c (.send c _ os :: .vauth s c body :: (w.afterHeader c 76).log) = _
    rw [appliedOn_cons, appliedOn_cons, afterHeader_applied]
    simp [controlOf, controls]
  · cases h.uniq s s' hs hs'
    show (!w.authFlag || Function.update w.authPass s true s) = _
    rw [Function.update_self, Bool.or_true]
    rfl

theorem Reading.vctrl {rest : List ClientEvent} {s : Server} {v : Vctrl} (h : Reading c w events done)
    (he : events = done ++ .vctrl v :: rest) (hok : okAfter (!w.authFlag) done = true) (hborn : ¬ w.nextConn ≤ c) :
    Reading c ((w.afterHeader c 48).applyVctrl s c v) events (done ++ [.vctrl v]) := by
  obtain ⟨f, hf, hk⟩ := applyVctrl_cases (w.afterHeader c 48) s c v
  rw [hf]
  refine h.advance he rfl (Function.update_self ..) ?_ ?_ ?_ rfl (fun s' hs' => ?_) (Nat.le_refl _) hborn
  · show headersOn c (.vctrl s c v :: (w.afterHeader c 48).log) = _
    rw [headersOn_cons, afterHeader_headers]
    simp [headerOf]
  · show appliedOn c (.vctrl s c v :: (w.afterHeader c 48).log) = _
    rw [appliedOn_cons, afterHeader_applied, hok]
    simp [controlOf, controls]
  · exact onStreamer_authFlag _ f (fun st => (hk st).1)
  · exact h.ok s' hs'

/-- Nothing of the header is read: the next poll starts at the same place. -/
theorem Reading.nothing {e : ClientEvent} {rest : List ClientEvent} (h : Reading c w events done)
    (he : events = done ++ e :: rest) : Reading c (w.afterHeader c 0) events done where
  arrived := h.arrived
  whole := h.whole
  read := h.read
  pos := (Function.update_self ..).trans h.pos
  headers p hp := by
    rw [afterHeader_headers] at hp
    rcases List.mem_append.1 hp with hp | hp
    · exact h.headers p hp
    · rw [List.mem_singleton.1 hp, he, h.pos]
      exact mem_startsFrom e rest
  applied := (afterHeader_applied w c 0).trans h.applied
  ok := h.ok
  uniq := h.uniq
  unborn := h.unborn

/-- **One read**: the whole next event, or nothing. -/
theorem Reading.readEvent {s : Server} {io : Io} (h : Reading c w events done) (hs : w.clients s = some c)
    (hborn : ¬ w.nextConn ≤ c) (hi : w.inbox c ≠ []) (hio : io.Uncut (w.inbox c)) :
    ∃ done', Reading c (w.readEvent s c io w.authFlag) events done' := by
  obtain ⟨e, rest, he, hf⟩ := h.front hi
  rcases hio with h0 | ⟨hh, hb⟩
  · rw [readEvent_nothing h0]
    exact ⟨done, h.nothing he⟩
  · have hw := h.whole
    rw [he, readWhole_append] at hw
    cases e with
    | vheadAck width height format => exact absurd hw.2 id
    | vauth =>
      rw [hw.2.1, readEvent_vauth hf hh hb]
      exact ⟨_, h.vauth he hs hborn _ io.sendAck⟩
    | vctrl v =>
      obtain ⟨-, hv, hok, -⟩ := hw
      rw [readEvent_vctrl hf hv ((h.ok s hs).trans hok) hh hb]
      exact ⟨_, h.vctrl he hok hborn⟩

/-- Connection `c` is accepted. -/
theorem Reading.born {s : Server} {io : Io} (h : Reading c w events done) (ha : AuthInv w) (hs : w.clients s = none)
    (hcr : io.created = true) (hc : w.nextConn = c) : Reading c (w.acceptClient s io w.authFlag) events done := by
  have hnone : ∀ s', w.clients s' ≠ some c := fun s' hl => by
    have hlt := ha.fresh s' c (ha.live s' c hl)
    rw [hc] at hlt
    exact Nat.lt_irrefl c hlt
  have hdone : done = [] := h.unborn (Nat.le_of_eq hc)
  have hpass : w.authPass s = false := by
    rw [← Bool.not_eq_true, ha.agrees s, hs]
    rintro ⟨c', hc', -⟩
    cases hc'
  have hflag := acceptClient_authFlag w s io w.authFlag
  have hlive : ∀ s', (w.acceptClient s io w.authFlag).clients s' = some c → s' = s := fun s' hl => by
    by_contra hne
    refine hnone s' ?_
    simpa [acceptClient, hcr, Function.update_of_ne hne, incClient, World.onStreamer] using hl
  have hlog : (w.acceptClient s io w.authFlag).log =
      .send w.nextConn (headEvent io.dims w.authFlag) io.sendHead :: .accept s w.nextConn :: w.log := by
    simp [acceptClient, hcr, incClient, World.onStreamer]
  exact {
    arrived := by simpa [acceptClient, hcr, incClient, World.onStreamer, record] using h.arrived
    whole := by rw [hflag]; exact h.whole
    read := h.read
    pos := by simpa [acceptClient, hcr, incClient, World.onStreamer, record] using h.pos
    headers := by
      rw [hlog, headersOn_cons, headersOn_cons]
      simpa [headerOf] using h.headers
    applied := by
      rw [hlog, appliedOn_cons, appliedOn_cons, hflag]
      simpa [controlOf] using h.applied
    ok := fun s' hl => by
      cases hlive s' hl
      have : (w.acceptClient s io w.authFlag).authPass s = w.authPass s := by
        simp [acceptClient, hcr, incClient, World.onStreamer]
      rw [hflag, this, hpass, hdone, Bool.or_false]
      rfl
    uniq := fun s' s'' hl hl' => (hlive s' hl).trans (hlive s'' hl').symm
    unborn := fun _ => hdone }

theorem Reading.pollAccept (h : Reading c w events done) (ha : AuthInv w) (s : Server) (io : Io) :
    Reading c (w.pollAccept s io) events done := by
  unfold World.pollAccept
  split
  · rename_i hn
    by_cases hc : io.created = true ∧ w.nextConn = c
    · exact h.born ha (clients_of_accept hn) hc.1 hc.2
    · exact h.same (Same.acceptClient w s io w.authFlag (fun hcr hn => hc ⟨hcr, hn⟩))
  · exact h

theorem pollAccept_inbox (w : World) (s : Server) (io : Io) (c : Conn) : (w.pollAccept s io).inbox c = w.inbox c := by
  unfold World.pollAccept World.acceptClient
  cases io.created <;> split <;> rfl

/-- **One poll.** -/
theorem Reading.irrvChecknewconn {s : Server} {io : Io} (h : Reading c w events done) (ha : AuthInv w)
    (hio : w.Polls c s io → io.Uncut (w.inbox c)) : ∃ done', Reading c (w.irrvChecknewconn s io) events done' := by
  have hp := h.pollAccept ha s io
  have hap : AuthInv (w.pollAccept s io) := authInv_preserved.pollAccept w s io ha
  have hconn : ∀ c', (w.pollAccept s io).checkConnect c' io = w.checkConnect c' io := fun c' => by
    unfold checkConnect
    rw [pollAccept_inbox]
  unfold World.irrvChecknewconn
  dsimp only
  split
  · rename_i hsel
    split
    · exact ⟨done, hp⟩
    · rename_i c' hc'
      split
      · rename_i hr
        rw [← pollAccept_authFlag w s io]
        by_cases hc : c = c'
        · subst hc
          have hborn : ¬ (w.pollAccept s io).nextConn ≤ c :=
            Nat.not_le_of_lt (hap.fresh s c (hap.live s c hc'))
          have hi : (w.pollAccept s io).inbox c ≠ [] := by
            intro hnil
            rw [checkConnect, hnil] at hr
            simp at hr
            split at hr <;> cases hr
          refine hp.readEvent hc' hborn hi ?_
          rw [pollAccept_inbox]
          exact hio ⟨hsel, hc', (hconn c).symm.trans hr⟩
        · exact ⟨done, hp.same (Same.readEvent _ s io _ hc' hc)⟩
      · exact ⟨done, hp.same (Same.dropClient _ s c')⟩
      · exact ⟨done, hp⟩
  · exact ⟨done, hp⟩

theorem Reading.peer {c' : Conn} (h : Reading c w events done) (bytes : Buf) (hc : c ≠ c') :
    Reading c (w.peerSends c' bytes) events done :=
  h.same ⟨Function.update_of_ne hc .., rfl, rfl, rfl, rfl, fun _ hs => ⟨hs, rfl⟩, Nat.le_refl _⟩

/-- **One step of the server.** -/
theorem Reading.step {o : Op} (h : Reading c w events done) (ha : AuthInv w) (hpeer : ∀ bytes, o ≠ .peer c bytes)
    (hio : ∀ s io, o.poll = some (s, io) → w.Polls c s io → io.Uncut (w.inbox c)) :
    ∃ done', Reading c (Irrv.step w o) events done' := by
  rcases step_cases w o with he | ⟨s, io, hp, hs⟩ | ⟨s, msg, value, os, -, he⟩ | ⟨s, he⟩ | ⟨c', bytes, ho, he⟩
  · rw [he]; exact ⟨done, h⟩
  · obtain ⟨done', h'⟩ := h.irrvChecknewconn ha (hio s io hp)
    rcases hs with he | ⟨data, flags, fio, he⟩
    · rw [he]; exact ⟨done', h'⟩
    · rw [he]; exact ⟨done', h'.same (Same.sendFrame ..)⟩
  · rw [he]; exact ⟨done, h.same (Same.irrvSendMessage w s msg value os)⟩
  · rw [he]; exact ⟨done, h.same (Same.update w s none false w.nextConn (by simp) (Nat.le_refl _))⟩
  · rw [he]; exact ⟨done, h.peer bytes (fun hc => hpeer bytes (hc ▸ ho))⟩

/-- The client sends one more event. -/
theorem Reading.client {e : ClientEvent} (h : Reading c w events done)
    (hw : ReadWhole w.authFlag (!w.authFlag) (events ++ [e])) : Reading c w (events ++ [e]) done where
  arrived := by rw [stream_append]; exact h.arrived.trans (List.prefix_append ..)
  whole := hw
  read := h.read.trans (List.prefix_append ..)
  pos := h.pos
  headers p hp := by
    rw [startsFrom_append]
    exact List.mem_append_left _ (h.headers p hp)
  applied := h.applied
  ok := h.ok
  uniq := h.uniq
  unborn := h.unborn

/-- Some more bytes arrive. -/
theorem Reading.arrive (h : Reading c w events done) (n : Nat) :
    Reading c (w.peerSends c (((stream events).drop (w.sent c).length).take n)) events done where
  arrived := by
    obtain ⟨tail, htail⟩ := h.arrived
    rw [← htail, List.drop_left]
    refine ⟨tail.drop n, ?_⟩
    show Function.update w.sent c _ c ++ _ = _
    rw [Function.update_self, List.append_assoc, List.take_append_drop]
  whole := h.whole
  read := h.read
  pos := h.pos
  headers := h.headers
  applied := h.applied
  ok := h.ok
  uniq := h.uniq
  unborn := h.unborn

end
end World

/-! ## Every run -/

theorem ClientEvent.bytes_pos (e : ClientEvent) : 0 < e.bytes.length := by
  cases e with
  | vheadAck width height format => simp [bytes, vheadEvent, eventLen]
  | vauth => decide
  | vctrl v => simp [bytes]

theorem stream_eq_nil {es : List ClientEvent} (h : (stream es).length = 0) : es = [] := by
  cases es with
  | nil => rfl
  | cons e es =>
    have := e.bytes_pos
    simp only [stream, List.flatMap_cons, List.length_append] at h
    omega

namespace Session

/-- The server is between two events of the client. -/
structure Inv (c : Conn) (x : Session) : Prop where
  auth : x.world.AuthInv
  reading : ∃ done, World.Reading c x.world x.events done

theorem Inv.step {c : Conn} {x : Session} (h : Inv c x) (o : SessionOp) (hs : x.Sound c o) : Inv c (x.step c o) := by
  obtain ⟨ha, done, hr⟩ := h
  cases o with
  | client e => exact ⟨ha, done, hr.client hs⟩
  | arrive n =>
    refine ⟨World.authInv_preserved.step x.world (.peer c ((x.inFlight c).take n)) ha, done, ?_⟩
    show World.Reading c (Irrv.step x.world (.peer c _)) x.events done
    unfold Irrv.step
    split
    · exact hr
    · exact hr.arrive n
  | server o =>
    obtain ⟨done', h'⟩ := hr.step ha hs.1 hs.2
    exact ⟨World.authInv_preserved.step _ _ ha, done', h'⟩

theorem Inv.agrees {c : Conn} {x : Session} (h : Inv c x) : Agrees c x := by
  obtain ⟨-, done, hr⟩ := h
  obtain ⟨rest, hrest⟩ := hr.read
  refine ⟨hr.headers, ?_, fun hall => ?_⟩
  · rw [hr.applied, ← hrest, controls_append]
    exact List.prefix_append ..
  · rw [hr.pos, ← hrest, stream_append, List.length_append] at hall
    have hnil : rest = [] := stream_eq_nil (by omega)
    rw [hr.applied, ← hrest, hnil, List.append_nil]

/-- No connection is open and nothing is sent. -/
def init (streamer : Option Streamer) : Session := ⟨World.init streamer, []⟩

theorem init_inv (c : Conn) (streamer : Option Streamer) : Inv c (init streamer) :=
  ⟨World.init_authInv streamer, [], List.nil_prefix, trivial, List.nil_prefix, rfl,
    fun _ hp => absurd hp List.not_mem_nil, rfl, fun _ hs => absurd hs (by simp [init, World.init]),
    fun _ _ hs => absurd hs (by simp [init, World.init]), fun _ => rfl⟩

end Session

/-- **The control stream**, over every run of the callbacks on all servers with the client of connection `c`
sending at any time and its bytes arriving in any pieces: if the client sends events the server reads
whole, and no read of its bytes stops part of the way, the two ends agree. -/
theorem control_agreement (streamer : Option Streamer) (c : Conn) (ops : List SessionOp)
    (hops : Meets (Session.step c) (Session.Sound c) (Session.init streamer) ops) :
    Session.Agrees c (ops.foldl (Session.step c) (Session.init streamer)) :=
  (Meets.inv (fun _ o h hs => h.step o hs) ops _ (Session.init_inv c streamer) hops).agrees

/-- A poll of server 0 with nothing else to do. -/
def pollOnce : SessionOp := .server (.checknewconn 0 Io.ready)

theorem pollOnce_sound {x : Session} (h : Io.ready.Uncut (x.world.inbox 0)) : x.Sound 0 pollOnce := by
  refine ⟨fun bytes hb => ?_, fun s io hp _ => ?_⟩
  · cases hb
  · cases hp
    exact h

/-- With authentication: `VAUTH` and a control, of which 80 bytes arrive before the first poll and the rest
before the second. -/
theorem control_agreement_authenticated :
    Session.Agrees 0 ([SessionOp.client .vauth, .client (.vctrl ⟨5, 1, 0, 0, 0, 0, 0, 0⟩), .arrive 80, pollOnce,
      .arrive 100, pollOnce].foldl (Session.step 0) (Session.init (some ⟨true, 0, false, false⟩))) := by
  refine control_agreement _ 0 _ ⟨⟨rfl, trivial⟩, ⟨rfl, by decide, rfl, trivial⟩, trivial, pollOnce_sound ?_, trivial,
    pollOnce_sound ?_, trivial⟩
  · exact Or.inr (by decide)
  · exact Or.inr (by decide)

/-- **The body of the acknowledgement is taken for a header**: without authentication, the client answers
the `VHEAD` of a 720x1280 stream, and the second poll reads a header at byte 16, where the width is. -/
theorem ack_body_is_header :
    ¬ Session.Agrees 0 ([SessionOp.client (.vheadAck 720 1280 1), .arrive 48, pollOnce, pollOnce].foldl
      (Session.step 0) (Session.init (some ⟨false, 0, false, false⟩))) := by
  intro h
  exact absurd (h.headers 16 (by decide)) (by decide)

end CloudStreaming.Irrv
