import CloudStreaming.Irrv.Server
import CloudStreaming.Lib.Runs

/-!
# What a callback can do

Every callback is a chain of a few small changes: accept, read a header, read a body, pass or fail an
authentication, apply a control, abort, drop a client, send a frame, send a message, close. `Preserved I`
says that each of them keeps `I`, in the situation in which it is made; `Preserved.step` is the rule all
invariants of the server are proved with.
-/

namespace CloudStreaming.Irrv

open Bytes Runs

namespace World

/-! ## Frames -/

@[simp] theorem record_clients (w : World) (e : Event) : (w.record e).clients = w.clients := rfl
@[simp] theorem record_authPass (w : World) (e : Event) : (w.record e).authPass = w.authPass := rfl
@[simp] theorem record_streamer (w : World) (e : Event) : (w.record e).streamer = w.streamer := rfl
@[simp] theorem record_log (w : World) (e : Event) : (w.record e).log = e :: w.log := rfl

@[simp] theorem sendTo_some (w : World) (c : Conn) (data : Buf) (os : List SysOutcome) :
    w.sendTo (some c) data os = w.record (.send c data os) := rfl

theorem onStreamer_authFlag (w : World) (f : Streamer → Streamer) (h : ∀ st, (f st).auth = st.auth) :
    (w.onStreamer f).authFlag = w.authFlag := by
  unfold authFlag onStreamer
  cases w.streamer with
  | none => rfl
  | some st => exact h st

/-- A call into the encoder changes at most the streamer's two flags. -/
theorem streamCall_cases (w : World) (call : StreamCall) :
    w.streamCall call = w ∨ ∃ f : Streamer → Streamer, w.streamCall call = w.onStreamer f ∧
      ∀ st, (f st).auth = st.auth ∧ (f st).clientNum = st.clientNum := by
  cases call with
  | setEncodeFlag on => exact Or.inr ⟨_, rfl, fun _ => ⟨rfl, rfl⟩⟩
  | setTransmitFlag on => exact Or.inr ⟨_, rfl, fun _ => ⟨rfl, rfl⟩⟩
  | _ => exact Or.inl rfl

/-- A control message is recorded; for the rest it changes at most the streamer's two flags. -/
theorem applyVctrl_cases (w : World) (s : Server) (c : Conn) (v : Vctrl) :
    ∃ f : Streamer → Streamer, w.applyVctrl s c v = (w.record (.vctrl s c v)).onStreamer f ∧
      ∀ st, (f st).auth = st.auth ∧ (f st).clientNum = st.clientNum := by
  have key : ∀ (calls : List StreamCall) (u : World), ∃ f : Streamer → Streamer,
      calls.foldl streamCall u = u.onStreamer f ∧ ∀ st, (f st).auth = st.auth ∧ (f st).clientNum = st.clientNum := by
    intro calls
    induction calls with
    | nil =>
      intro u
      exact ⟨id, by simp [onStreamer], fun _ => ⟨rfl, rfl⟩⟩
    | cons call calls ih =>
      intro u
      obtain ⟨g, hg, hk⟩ := ih (u.streamCall call)
      rcases streamCall_cases u call with he | ⟨f, he, hf⟩
      · exact ⟨g, by rw [List.foldl_cons, hg, he], hk⟩
      · refine ⟨g ∘ f, ?_, fun st => ⟨(hk _).1.trans (hf st).1, (hk _).2.trans (hf st).2⟩⟩
        rw [List.foldl_cons, hg, he]
        simp [onStreamer, Option.map_map]
  exact key (dispatch v) (w.record (.vctrl s c v))

theorem acceptClient_authFlag (w : World) (s : Server) (io : Io) (b : Bool) :
    (w.acceptClient s io b).authFlag = w.authFlag := by
  unfold acceptClient
  cases io.created with
  | false => exact onStreamer_authFlag _ _ (fun _ => rfl)
  | true => exact onStreamer_authFlag _ _ (fun _ => rfl)

/-! ## The preservation rule -/

/-- Each small change of a poll keeps `I`, in the situation in which it is made. -/
structure PollPreserved (I : World → Prop) : Prop where
  accept : ∀ w s io, I w → w.clients s = none → I (w.acceptClient s io w.authFlag)
  header : ∀ w c os, I w → I (w.readHeader c os).1
  body : ∀ w c os buf, I w → I (w.recvInto c os buf).1
  pass : ∀ w s c body os, I w → w.clients s = some c → w.authFlag = true →
    irrvCheckAuthentication (vauthId body) (vauthKey body) = true → I ((w.record (.vauth s c body)).passVauth s c os)
  fail : ∀ w s c body os, I w → w.clients s = some c → w.authFlag = true →
    irrvCheckAuthentication (vauthId body) (vauthKey body) = false → I ((w.record (.vauth s c body)).failVauth s c os)
  vctrl : ∀ w s c v, I w → w.clients s = some c → (w.authFlag = true → w.authPass s = true) → I (w.applyVctrl s c v)
  abort : ∀ w, I w → I { w with aborted := true }
  drop : ∀ w s c, I w → w.clients s = some c → I (w.dropClient s c)

/-- And each of the other callbacks. -/
structure Preserved (I : World → Prop) : Prop extends PollPreserved I where
  frame : ∀ w s c data flags io, I w → w.clients s = some c → (w.authFlag = true → w.authPass s = true) →
    I (w.sendVframe s c data flags io)
  message : ∀ w s msg value os, I w → I (w.irrvSendMessage s msg value os)
  close : ∀ w s, I w → I (w.irrvClose s)
  peer : ∀ w c bytes, I w → I (w.peerSends c bytes)

variable {I : World → Prop}

theorem permitted {auth pass : Bool} (h : (!auth || pass) = true) : auth = true → pass = true := by
  cases auth <;> simp_all

/-- A poll accepts for a server without a client. -/
theorem clients_of_accept {w : World} {s : Server} {b : Bool} (h : (!w.irrvHaveClient s && b) = true) :
    w.clients s = none := by
  simp only [irrvHaveClient, Bool.and_eq_true, Bool.not_eq_true'] at h
  exact Option.isNone_iff_eq_none.1 (Option.isSome_eq_false_iff.1 h.1)

theorem PollPreserved.pollAccept (h : PollPreserved I) (w : World) (s : Server) (io : Io) (hw : I w) :
    I (w.pollAccept s io) := by
  unfold World.pollAccept
  split
  · rename_i hc
    exact h.accept w s io hw (clients_of_accept hc)
  · exact hw

theorem PollPreserved.readEvent (h : PollPreserved I) (w : World) (s : Server) (c : Conn) (io : Io) (hw : I w)
    (hc : w.clients s = some c) : I (w.readEvent s c io w.authFlag) := by
  have hr := h.header w c io.recvHeader hw
  unfold World.readEvent
  dsimp only
  split
  · rename_i ht
    have hb := h.body _ c io.recvBody (zeros vauthLen) hr
    unfold readVauth
    dsimp only
    split
    · next hmatch => exact h.pass _ s c _ _ hb hc ht.2 hmatch
    · next hmatch => exact h.fail _ s c _ _ hb hc ht.2 (Bool.eq_false_iff.mpr hmatch)
  · split
    · rename_i ht
      have hb := h.body _ c io.recvBody (overlay (io.uninit.take bodyLen) (zeros bodyLen)) hr
      unfold readVctrl
      dsimp only
      split
      · exact h.vctrl _ s c _ hb hc (permitted ht.2)
      · exact h.abort _ hb
    · exact hr

theorem pollAccept_authFlag (w : World) (s : Server) (io : Io) : (w.pollAccept s io).authFlag = w.authFlag := by
  unfold World.pollAccept
  split
  · exact acceptClient_authFlag w s io _
  · rfl

theorem PollPreserved.irrvChecknewconn (h : PollPreserved I) (w : World) (s : Server) (io : Io) (hw : I w) :
    I (w.irrvChecknewconn s io) := by
  have ha := h.pollAccept w s io hw
  unfold World.irrvChecknewconn
  dsimp only
  split
  · split
    · exact ha
    · rename_i c hc
      split
      · rw [← pollAccept_authFlag w s io]; exact h.readEvent _ s c io ha hc
      · exact h.drop _ s c ha hc
      · exact ha
  · exact ha

theorem Preserved.sendFrame (h : Preserved I) (w : World) (s : Server) (data : Buf) (flags : UInt32) (fio : FrameIo)
    (hw : I w) : I (w.sendFrame s w.authFlag data flags fio) := by
  unfold World.sendFrame
  split
  · exact hw
  · rename_i c hc
    split
    · rename_i hp
      exact h.frame w s c data flags fio hw hc (permitted hp)
    · exact hw

theorem setFlags_authFlag (w : World) (on : Bool) :
    ((w.setEncodeFlag on).setTransmitFlag on).authFlag = w.authFlag := by
  have h1 : (w.setEncodeFlag on).authFlag = w.authFlag := onStreamer_authFlag w _ (fun _ => rfl)
  have h2 : ((w.setEncodeFlag on).setTransmitFlag on).authFlag = (w.setEncodeFlag on).authFlag :=
    onStreamer_authFlag (w.setEncodeFlag on) _ (fun _ => rfl)
  exact h2.trans h1

theorem dropClient_authFlag (w : World) (s : Server) (c : Conn) : (w.dropClient s c).authFlag = w.authFlag := by
  unfold dropClient
  dsimp only
  split
  · rw [setFlags_authFlag]; exact onStreamer_authFlag _ _ (fun _ => rfl)
  · exact onStreamer_authFlag _ _ (fun _ => rfl)

/-- No callback changes whether the stream requires authentication. -/
theorem authFlag_preserved (b : Bool) : Preserved (fun w => w.authFlag = b) where
  accept w s io hw _ := (acceptClient_authFlag w s io _).trans hw
  header _ _ _ hw := hw
  body _ _ _ _ hw := hw
  pass _ _ _ _ _ hw _ _ _ := hw
  fail _ _ _ _ _ hw _ _ _ := hw
  vctrl w s c v hw _ _ := by
    obtain ⟨f, hf, hk⟩ := applyVctrl_cases w s c v
    rw [hf, onStreamer_authFlag _ _ (fun st => (hk st).1)]; exact hw
  abort _ hw := hw
  drop w s c hw _ := (dropClient_authFlag w s c).trans hw
  frame _ _ _ _ _ _ hw _ _ := hw
  message w s msg value os hw := by
    unfold irrvSendMessage
    cases w.clients s <;> exact hw
  close _ _ hw := hw
  peer _ _ _ hw := hw

theorem irrvChecknewconn_authFlag (w : World) (s : Server) (io : Io) :
    (w.irrvChecknewconn s io).authFlag = w.authFlag :=
  (authFlag_preserved w.authFlag).irrvChecknewconn w s io rfl

/-- A step with a poll is the poll, after which a frame may be sent. -/
theorem step_poll_cases (w : World) (o : Op) {s : Server} {io : Io} (hp : o.poll = some (s, io))
    (ha : w.aborted = false) :
    Irrv.step w o = w.irrvChecknewconn s io ∨
      ∃ data flags fio, Irrv.step w o = (w.irrvChecknewconn s io).sendFrame s w.authFlag data flags fio := by
  unfold Irrv.step
  rw [ha]
  cases o with
  | checknewconn s' io' => cases hp; exact Or.inl rfl
  | writeback s' data flags io' fio =>
    cases hp
    simp only [Bool.false_eq_true, if_false, irrvWriteback]
    split
    · exact Or.inl rfl
    · exact Or.inr ⟨data, flags, fio, rfl⟩
  | writeback2 s' data type io' fio =>
    cases hp
    simp only [Bool.false_eq_true, if_false, irrvWriteback2]
    split
    · exact Or.inl rfl
    · split
      · exact Or.inr ⟨data, type, fio, rfl⟩
      · exact Or.inl rfl
  | sendMessage s' msg value os => cases hp
  | close s' => cases hp
  | peer c bytes => cases hp

/-- What a step can do. -/
theorem step_cases (w : World) (o : Op) :
    Irrv.step w o = w ∨
      (∃ s io, o.poll = some (s, io) ∧ (Irrv.step w o = w.irrvChecknewconn s io ∨
        ∃ data flags fio, Irrv.step w o = (w.irrvChecknewconn s io).sendFrame s w.authFlag data flags fio)) ∨
      (∃ s msg value os, o = .sendMessage s msg value os ∧ Irrv.step w o = w.irrvSendMessage s msg value os) ∨
      (∃ s, Irrv.step w o = w.irrvClose s) ∨
      ∃ c bytes, o = .peer c bytes ∧ Irrv.step w o = w.peerSends c bytes := by
  cases ha : w.aborted with
  | true => exact Or.inl (by simp [Irrv.step, ha])
  | false =>
    right
    cases hp : o.poll with
    | some x => exact Or.inl ⟨x.1, x.2, rfl, step_poll_cases w o hp ha⟩
    | none =>
      right
      cases o with
      | checknewconn s io => cases hp
      | writeback s data flags io fio => cases hp
      | writeback2 s data type io fio => cases hp
      | sendMessage s msg value os => exact Or.inl ⟨s, msg, value, os, rfl, by simp [Irrv.step, ha]⟩
      | close s => exact Or.inr (Or.inl ⟨s, by simp [Irrv.step, ha]⟩)
      | peer c bytes => exact Or.inr (Or.inr ⟨c, bytes, rfl, by simp [Irrv.step, ha]⟩)

/-- **The invariant rule**: what every small change keeps, every step keeps. -/
theorem Preserved.step (h : Preserved I) (w : World) (o : Op) (hw : I w) : I (Irrv.step w o) := by
  rcases step_cases w o with he | ⟨s, io, -, hp⟩ | ⟨s, msg, value, os, -, he⟩ | ⟨s, he⟩ | ⟨c, bytes, -, he⟩
  · rw [he]; exact hw
  · have hpoll := h.irrvChecknewconn w s io hw
    rcases hp with he | ⟨data, flags, fio, he⟩
    · rw [he]; exact hpoll
    · rw [he, ← irrvChecknewconn_authFlag w s io]
      exact h.sendFrame _ s data flags fio hpoll
  · rw [he]; exact h.message w s msg value os hw
  · rw [he]; exact h.close w s hw
  · rw [he]; exact h.peer w c bytes hw

/-- What the first state has, every reachable state has. -/
theorem Preserved.run (h : Preserved I) (ops : List Op) (w : World) (hw : I w) : I (ops.foldl Irrv.step w) :=
  foldl_inv (fun w o hw => h.step w o hw) ops w hw

end World
end CloudStreaming.Irrv
