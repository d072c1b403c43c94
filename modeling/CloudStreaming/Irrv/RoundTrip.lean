import CloudStreaming.Irrv.Framing
import CloudStreaming.Irrv.Receiver

/-!
# Frames from `irrv_writeback` to `encoder_send_packet`

What the server hands to `sock_server_send` on one connection is the `VHEAD`, and then `VAUTH_ACK`s and
frames (`Output`); messages are left out, the receiver disconnects on them. The receiver gets the frames
back from these bytes as long as no header and no fixed part of a body is cut (`frame_roundTrip`). TCP makes
no such promise: `cut_header_corrupts` is a frame event whose header comes in two pieces.
-/

namespace CloudStreaming.Irrv

open Bytes Runs

/-! ## What a connection carries -/

def frameOf (c : Conn) : Event → Option Frame
  | .vframe _ c' f => if c' = c then some f else none
  | _ => none

/-- The frames written to a connection, oldest first. -/
def framesOn (c : Conn) (log : List Event) : List Frame := (log.filterMap (frameOf c)).reverse

theorem framesOn_cons (c : Conn) (e : Event) (log : List Event) :
    framesOn c (e :: log) = framesOn c log ++ (frameOf c e).toList :=
  reverse_filterMap_cons ..

/-- The buffers an event is sent in. -/
def ServerEvent.parts : ServerEvent → List Buf
  | .vauthAck result => [vauthAckEvent result]
  | .vframe f width height => [vframeEvent f.flags (UInt32.ofNat f.data.length) width height, f.data]

theorem flatten_parts (es : List ServerEvent) : (es.flatMap ServerEvent.parts).flatten = outStream es := by
  induction es with
  | nil => rfl
  | cons e es ih =>
    rw [List.flatMap_cons, List.flatten_append, ih]
    cases e <;> simp [ServerEvent.parts, outStream, ServerEvent.bytes]

/-- Nothing yet, or the `VHEAD` and then events. -/
def Opened (c : Conn) (log : List Event) : Prop :=
  sendsOn c log = [] ∧ framesOn c log = [] ∨
    ∃ d auth es, (sendsOn c log).map Prod.fst = World.headEvent d auth :: es.flatMap ServerEvent.parts ∧
      framesOn c log = framesIn es

/-- The operation sends a `MESSAGE`. -/
def Op.isMessage : Op → Bool
  | .sendMessage _ _ _ _ => true
  | _ => false

namespace World

/-- A connection is opened when it is accepted, and only then. -/
structure Output (c : Conn) (w : World) : Prop where
  unborn : w.nextConn ≤ c → sendsOn c w.log = []
  live : ∀ s, w.clients s = some c → c < w.nextConn ∧ sendsOn c w.log ≠ []
  opened : Opened c w.log

variable {c : Conn} {w w' : World}

/-- A change that sends nothing on `c`. -/
theorem Output.frame (h : Output c w) (hs : sendsOn c w'.log = sendsOn c w.log)
    (hf : framesOn c w'.log = framesOn c w.log) (hl : ∀ s, w'.clients s = some c → w.clients s = some c)
    (hn : w.nextConn ≤ w'.nextConn) : Output c w' := by
  refine ⟨fun hb => ?_, fun s hc => ?_, ?_⟩
  · rw [hs]; exact h.unborn (Nat.le_trans hn hb)
  · rw [hs]
    obtain ⟨hlt, hne⟩ := h.live s (hl s hc)
    exact ⟨Nat.lt_of_lt_of_le hlt hn, hne⟩
  · unfold Opened
    rw [hs, hf]
    exact h.opened

/-- An event on an open connection. -/
theorem Output.append (h : Output c w) (e : ServerEvent) (xs : List Send) (hne : sendsOn c w.log ≠ [])
    (hxs : xs.map Prod.fst = e.parts) (hs : sendsOn c w'.log = sendsOn c w.log ++ xs)
    (hf : framesOn c w'.log = framesOn c w.log ++ framesIn [e])
    (hl : ∀ s, w'.clients s = some c → w.clients s = some c) (hn : w.nextConn ≤ w'.nextConn) : Output c w' := by
  refine ⟨fun hb => absurd (h.unborn (Nat.le_trans hn hb)) hne, fun s hc => ?_, ?_⟩
  · rw [hs]
    exact ⟨Nat.lt_of_lt_of_le (h.live s (hl s hc)).1 hn, List.append_ne_nil_of_left_ne_nil hne xs⟩
  · rcases h.opened with ⟨hnil, -⟩ | ⟨d, auth, es, he, hfr⟩
    · exact absurd hnil hne
    · refine Or.inr ⟨d, auth, es ++ [e], ?_, ?_⟩
      · rw [hs, List.map_append, he, hxs, List.flatMap_append]
        simp
      · rw [hf, hfr, framesIn_append]

/-- Recording what is neither a send nor a frame of `c`. -/
theorem Output.record (h : Output c w) (e : Event) (hs : sendOf c e = none) (hf : frameOf c e = none) :
    Output c (w.record e) := by
  refine h.frame ?_ ?_ (fun _ hl => hl) (Nat.le_refl _)
  · rw [record_log, sendsOn_cons, hs]; simp
  · rw [record_log, framesOn_cons, hf]; simp

theorem Output.onStreamer (h : Output c w) (f : Streamer → Streamer) : Output c (w.onStreamer f) :=
  h.frame rfl rfl (fun _ hl => hl) (Nat.le_refl _)

/-- `clients[s]` is emptied. -/
theorem Output.clear (h : Output c w) (s : Server) (pass : Server → Bool) :
    Output c { w with clients := Function.update w.clients s none, authPass := pass } := by
  refine h.frame rfl rfl (fun s' hl => ?_) (Nat.le_refl _)
  by_cases he : s' = s
  · subst he; simp at hl
  · simpa [Function.update_of_ne he] using hl

theorem Output.acceptClient (h : Output c w) (s : Server) (io : Io) (auth : Bool) :
    Output c (w.acceptClient s io auth) := by
  have hother : ∀ {client : Option Conn} {s' : Server}, client ≠ some c →
      Function.update w.clients s client s' = some c → w.clients s' = some c := by
    intro client s' hne hl
    by_cases he : s' = s
    · subst he
      rw [Function.update_self] at hl
      exact absurd hl hne
    · rwa [Function.update_of_ne he] at hl
  unfold World.acceptClient
  cases io.created with
  | false => exact h.frame rfl rfl (fun s' hl => hother (by simp) hl) (Nat.le_succ _)
  | true =>
    by_cases hc : w.nextConn = c
    · have hnil := h.unborn (Nat.le_of_eq hc)
      have hframes : framesOn c w.log = [] := by
        rcases h.opened with ⟨-, hf⟩ | ⟨d, a, es, he, -⟩
        · exact hf
        · rw [hnil] at he; cases he
      have hsends : sendsOn c (.send c (headEvent io.dims auth) io.sendHead :: .accept s c :: w.log) =
          [(headEvent io.dims auth, io.sendHead)] := by
        rw [sendsOn_cons, sendsOn_cons, hnil]
        simp [sendOf]
      subst hc
      refine ⟨fun hb => absurd hb (Nat.not_succ_le_self _), fun s' _ => ⟨Nat.lt_succ_self _, ?_⟩, Or.inr ?_⟩
      · show sendsOn _ (.send _ _ _ :: .accept s _ :: w.log) ≠ []
        rw [hsends]; simp
      · refine ⟨io.dims, auth, [], ?_, ?_⟩
        · show (sendsOn _ (.send _ _ _ :: .accept s _ :: w.log)).map Prod.fst = _
          rw [hsends]; rfl
        · show framesOn _ (.send _ _ _ :: .accept s _ :: w.log) = _
          rw [framesOn_cons, framesOn_cons, hframes]; rfl
    · have hne : some w.nextConn ≠ some c := fun h => hc (Option.some.inj h)
      refine h.frame ?_ ?_ (fun s' hl => hother hne hl) (Nat.le_succ _)
      · show sendsOn c (.send w.nextConn _ _ :: .accept s w.nextConn :: w.log) = _
        rw [sendsOn_cons, sendsOn_cons]
        simp [sendOf, hc]
      · show framesOn c (.send w.nextConn _ _ :: .accept s w.nextConn :: w.log) = _
        rw [framesOn_cons, framesOn_cons]
        simp [frameOf]

/-- The answer to a `VAUTH` goes to the connection it came from. -/
theorem Output.vauthAck (h : Output c w) (s : Server) (c' : Conn) (body : Buf) (result : AuthResult)
    (os : List SysOutcome) (hs : w.clients s = some c') :
    Output c ((w.record (.vauth s c' body)).record (.send c' (vauthAckEvent result) os)) := by
  by_cases hc : c' = c
  · subst hc
    refine h.append (.vauthAck result) [(vauthAckEvent result, os)] (h.live s hs).2 rfl ?_ ?_ (fun _ hl => hl)
      (Nat.le_refl _)
    · rw [record_log, record_log, sendsOn_cons, sendsOn_cons]
      simp [sendOf]
    · rw [record_log, record_log, framesOn_cons, framesOn_cons]
      simp [frameOf, framesIn, ServerEvent.frame]
  · exact (h.record _ rfl rfl).record _ (if_neg hc) rfl

theorem Output.sendVframe (h : Output c w) (s : Server) (c' : Conn) (data : Buf) (flags : UInt32) (io : FrameIo)
    (hs : w.clients s = some c') : Output c (w.sendVframe s c' data flags io) := by
  by_cases hc : c' = c
  · subst hc
    refine h.append (.vframe ⟨data, flags⟩ (frameWidth io.dims) (frameHeight io.dims))
      [(vframeEvent flags (UInt32.ofNat data.length) (frameWidth io.dims) (frameHeight io.dims), io.sendInfo),
        (data, io.sendData)] (h.live s hs).2 rfl ?_ ?_ (fun _ hl => hl) (Nat.le_refl _)
    · show sendsOn c' (.send c' data io.sendData :: .send c' _ io.sendInfo :: .vframe s c' ⟨data, flags⟩ :: w.log) = _
      rw [sendsOn_cons, sendsOn_cons, sendsOn_cons]
      simp [sendOf]
    · show framesOn c' (.send c' data io.sendData :: .send c' _ io.sendInfo :: .vframe s c' ⟨data, flags⟩ :: w.log) = _
      rw [framesOn_cons, framesOn_cons, framesOn_cons]
      simp [frameOf, framesIn, ServerEvent.frame]
  · have hframe := h.record (.vframe s c' ⟨data, flags⟩) rfl (if_neg hc)
    exact (hframe.record (.send c' _ io.sendInfo) (if_neg hc) rfl).record (.send c' data io.sendData)
      (if_neg hc) rfl

theorem output_preserved (c : Conn) : PollPreserved (Output c) where
  accept w s io h _ := h.acceptClient s io w.authFlag
  header w c' os h := (h.record (.header c' (w.pos c')) rfl rfl).frame rfl rfl (fun _ hl => hl) (Nat.le_refl _)
  body w c' os buf h := h.frame rfl rfl (fun _ hl => hl) (Nat.le_refl _)
  pass w s c' body os h hs _ _ := by
    have h1 : Output c { w with authPass := Function.update w.authPass s true } :=
      h.frame rfl rfl (fun _ hl => hl) (Nat.le_refl _)
    exact h1.vauthAck s c' body .passed os hs
  fail w s c' body os h hs _ _ := (h.vauthAck s c' body .failed os hs).clear s (Function.update w.authPass s false)
  vctrl w s c' v h _ _ := by
    obtain ⟨f, hf, -⟩ := applyVctrl_cases w s c' v
    rw [hf]
    exact (h.record (.vctrl s c' v) rfl rfl).onStreamer f
  abort w h := h.frame rfl rfl (fun _ hl => hl) (Nat.le_refl _)
  drop w s c' h _ := by
    have h1 := ((h.clear s (Function.update w.authPass s false)).record (.drop s c') rfl rfl).onStreamer
      (fun st => { st with clientNum := st.clientNum - 1 })
    unfold dropClient
    dsimp only
    split
    · exact h1.frame rfl rfl (fun _ hl => hl) (Nat.le_refl _)
    · exact h1

theorem Output.sendFrame (h : Output c w) (s : Server) (auth : Bool) (data : Buf) (flags : UInt32) (fio : FrameIo) :
    Output c (w.sendFrame s auth data flags fio) := by
  unfold World.sendFrame
  split
  · exact h
  · rename_i c' hs
    split
    · exact h.sendVframe s c' data flags fio hs
    · exact h

/-- **One step** that is not a message. -/
theorem Output.step (h : Output c w) (o : Op) (ho : o.isMessage = false) : Output c (Irrv.step w o) := by
  rcases step_cases w o with he | ⟨s, io, -, hs⟩ | ⟨s, msg, value, os, hm, -⟩ | ⟨s, he⟩ | ⟨c', bytes, -, he⟩
  · rw [he]; exact h
  · have hp := (output_preserved c).irrvChecknewconn w s io h
    rcases hs with he | ⟨data, flags, fio, he⟩
    · rw [he]; exact hp
    · rw [he]; exact hp.sendFrame ..
  · rw [hm] at ho; cases ho
  · rw [he]; exact h.clear s _
  · rw [he]; exact h.frame rfl rfl (fun _ hl => hl) (Nat.le_refl _)

end World

theorem World.init_output (c : Conn) (streamer : Option Streamer) : (World.init streamer).Output c :=
  ⟨fun _ => rfl, fun _ hl => absurd hl (by simp [World.init]), Or.inl ⟨rfl, rfl⟩⟩

/-- **What a connection carries** after any run without messages. -/
theorem run_opened (c : Conn) (streamer : Option Streamer) (ops : List Op) (hm : ∀ o ∈ ops, o.isMessage = false) :
    Opened c (ops.foldl step (World.init streamer)).log := by
  have h : (ops.foldl step (World.init streamer)).Output c :=
    List.foldlRecOn ops step (World.init_output c streamer) (fun w hw o ho => World.Output.step hw o (hm o ho))
  exact h.opened

/-! ## What is written to a connection -/

/-- A frame for a server gets to `c`: its client, which is authenticated where that is required. -/
def World.Reaches (w : World) (s : Server) (c : Conn) : Prop :=
  w.clients s = some c ∧ (w.authFlag = true → w.authPass s = true) ∧ w.aborted = false

instance (w : World) (s : Server) (c : Conn) : Decidable (w.Reaches s c) :=
  inferInstanceAs (Decidable (_ ∧ (_ → _) ∧ _))

/-- The frame that a call is given for `c`, in the state behind it: `irrv_writeback2` takes H264 and MJPEG. -/
def Op.frameFor (o : Op) (w : World) (c : Conn) : Option Frame :=
  match o with
  | .writeback s data flags _ _ => if w.Reaches s c then some ⟨data, flags⟩ else none
  | .writeback2 s data type _ _ => if (type = 27 ∨ type = 7) ∧ w.Reaches s c then some ⟨data, type⟩ else none
  | _ => none

/-- The frames written to `c` by a run, oldest first: what its calls are given. -/
def framesWritten (c : Conn) : World → List Op → List Frame
  | _, [] => []
  | w, o :: ops => (o.frameFor (step w o) c).toList ++ framesWritten c (step w o) ops

namespace World

/-- A poll writes no frame. -/
theorem framesOn_preserved (c : Conn) (fs : List Frame) : PollPreserved (fun w => framesOn c w.log = fs) where
  accept w s io h _ := by
    unfold acceptClient
    cases io.created with
    | false => exact h
    | true =>
      show framesOn c (.send _ _ _ :: .accept _ _ :: w.log) = fs
      rw [framesOn_cons, framesOn_cons, h]
      simp [frameOf]
  header w c' os h := by
    show framesOn c (.header _ _ :: w.log) = fs
    rw [framesOn_cons, h]
    simp [frameOf]
  body w c' os buf h := h
  pass w s c' body os h _ _ _ := by
    show framesOn c (.send _ _ _ :: .vauth _ _ _ :: w.log) = fs
    rw [framesOn_cons, framesOn_cons, h]
    simp [frameOf]
  fail w s c' body os h _ _ _ := by
    show framesOn c (.send _ _ _ :: .vauth _ _ _ :: w.log) = fs
    rw [framesOn_cons, framesOn_cons, h]
    simp [frameOf]
  vctrl w s c' v h _ _ := by
    obtain ⟨f, hf, -⟩ := applyVctrl_cases w s c' v
    rw [hf]
    show framesOn c (.vctrl _ _ _ :: w.log) = fs
    rw [framesOn_cons, h]
    simp [frameOf]
  abort w h := h
  drop w s c' h _ := by
    have hlog : framesOn c (.drop s c' :: w.log) = fs := by
      rw [framesOn_cons, h]
      simp [frameOf]
    unfold dropClient
    dsimp only
    split
    · exact hlog
    · exact hlog

/-- Nothing gets anywhere once the process is gone. -/
theorem not_reaches {w : World} (ha : w.aborted = true) (s : Server) (c : Conn) : ¬ w.Reaches s c := by
  intro h
  rw [h.2.2] at ha
  cases ha

/-- Nothing but the log is changed by a frame. -/
theorem reaches_sendFrame (w : World) (s : Server) (auth : Bool) (data : Buf) (flags : UInt32) (fio : FrameIo)
    (s' : Server) (c : Conn) : (w.sendFrame s auth data flags fio).Reaches s' c ↔ w.Reaches s' c := by
  unfold sendFrame
  split
  · exact Iff.rfl
  · split
    · exact Iff.rfl
    · exact Iff.rfl

/-- A frame is written if it gets to the connection. -/
theorem framesOn_sendFrame (w : World) (ha : w.aborted = false) (s : Server) (data : Buf) (flags : UInt32)
    (fio : FrameIo) (c : Conn) :
    framesOn c (w.sendFrame s w.authFlag data flags fio).log =
      framesOn c w.log ++ (if w.Reaches s c then some (⟨data, flags⟩ : Frame) else none).toList := by
  unfold sendFrame
  split
  · next hs =>
    have hnot : ¬ w.Reaches s c := fun h => nomatch hs.symm.trans h.1
    simp [hnot]
  · next c' hs =>
    split
    · next hp =>
      show framesOn c (.send _ _ _ :: .send _ _ _ :: .vframe s c' ⟨data, flags⟩ :: w.log) = _
      rw [framesOn_cons, framesOn_cons, framesOn_cons]
      by_cases hc : c' = c
      · have hreaches : w.Reaches s c := ⟨hc ▸ hs, permitted hp, ha⟩
        simp [frameOf, hc, hreaches]
      · have hnot : ¬ w.Reaches s c := fun h => hc (Option.some.inj (hs.symm.trans h.1))
        simp [frameOf, hc, hnot]
    · next hp =>
      have hnot : ¬ w.Reaches s c := by
        intro h
        cases hauth : w.authFlag with
        | false => exact hp (by rw [hauth]; rfl)
        | true => exact hp (by rw [irrvGetAuthState, h.2.1 hauth, Bool.or_true])
      simp [hnot]

/-- **One step** writes what its call is given. -/
theorem framesOn_step (w : World) (o : Op) (c : Conn) :
    framesOn c (Irrv.step w o).log = framesOn c w.log ++ (o.frameFor (Irrv.step w o) c).toList := by
  have hpoll : ∀ s io, framesOn c (w.irrvChecknewconn s io).log = framesOn c w.log := fun s io =>
    (framesOn_preserved c _).irrvChecknewconn w s io rfl
  have hframe : ∀ (w' : World) (auth : Bool) s data flags fio, w'.authFlag = auth → w'.aborted = false →
      framesOn c (w'.sendFrame s auth data flags fio).log = framesOn c w'.log ++
        (if (w'.sendFrame s auth data flags fio).Reaches s c then some (⟨data, flags⟩ : Frame) else none).toList := by
    rintro w' - s data flags fio rfl ha
    simp only [reaches_sendFrame]
    exact framesOn_sendFrame w' ha s data flags fio c
  unfold Irrv.step
  split
  · next ha =>
    cases o <;> simp [Op.frameFor, not_reaches ha]
  · cases o with
    | checknewconn s io => simp [Op.frameFor, hpoll]
    | writeback s data flags io fio =>
      simp only [irrvWriteback, Op.frameFor]
      split
      · next ha =>
        rw [if_neg (not_reaches ha s c), hpoll]
        simp
      · next ha =>
        rw [hframe _ _ s data flags fio (irrvChecknewconn_authFlag w s io) (Bool.eq_false_iff.mpr ha), hpoll]
    | writeback2 s data type io fio =>
      simp only [irrvWriteback2, Op.frameFor]
      split
      · next ha =>
        rw [if_neg fun h => not_reaches ha s c h.2, hpoll]
        simp
      · next ha =>
        split
        · next htype =>
          rw [hframe _ _ s data type fio (irrvChecknewconn_authFlag w s io) (Bool.eq_false_iff.mpr ha), hpoll]
          simp only [htype, true_and]
        · next htype =>
          rw [if_neg fun h => htype h.1, hpoll]
          simp
    | sendMessage s msg value os =>
      simp only [irrvSendMessage, Op.frameFor]
      cases w.clients s with
      | none => simp [sendTo]
      | some c' =>
        rw [sendTo_some, record_log, framesOn_cons]
        simp [frameOf]
    | close s => simp [Op.frameFor, irrvClose]
    | peer c' bytes => simp [Op.frameFor, peerSends]

/-- **A run** writes what its calls are given. -/
theorem framesOn_run (c : Conn) : ∀ (ops : List Op) (w : World),
    framesOn c (ops.foldl Irrv.step w).log = framesOn c w.log ++ framesWritten c w ops
  | [], w => by simp [framesWritten]
  | o :: ops, w => by
    rw [List.foldl_cons, framesOn_run c ops, framesOn_step, framesWritten, List.append_assoc]

end World

/-! ## The round trip -/

theorem vheadEvent_width (type value flags width height format auth : UInt32) (more : Buf) :
    wordAt (vheadEvent type value flags width height format auth ++ more) 5 = width :=
  wordAt_words more [irrvMagic, type, 48, value, flags, width, height, format, auth, 0, 0, 0] 5 (by simp)

theorem vheadEvent_height (type value flags width height format auth : UInt32) (more : Buf) :
    wordAt (vheadEvent type value flags width height format auth ++ more) 6 = height :=
  wordAt_words more [irrvMagic, type, 48, value, flags, width, height, format, auth, 0, 0, 0] 6 (by simp)

/-- **Frame round trip**: after any run of the server's callbacks without messages, for a connection on which
every send is complete, every frame is of a size the receiver takes and the size limit of the `VHEAD` fits
its type, and for any calls of the receiver that do not cut an event, the packets are the frames. -/
theorem frame_roundTrip (streamer : Option Streamer) (ops : List Op) (c : Conn) (calls : List Call)
    (hmsg : ∀ o ∈ ops, o.isMessage = false) :
    let log := (ops.foldl step (World.init streamer)).log
    let bs := transmitted (sendsOn c log)
    (∀ x ∈ sendsOn c log, ¬ EndsEarly x) →
    4 * (wordAt bs 5).toNat * (wordAt bs 6).toNat < 2 ^ 32 →
    (∀ f ∈ framesWritten c (World.init streamer) ops, Receiver.Fits (wordAt bs 5) (wordAt bs 6) f) →
    Meets (Receiver.recvEsStream bs) (Receiver.Uncut bs) Receiver.init calls →
    Receiver.Delivers bs (framesWritten c (World.init streamer) ops)
      (calls.foldl (Receiver.recvEsStream bs) Receiver.init) := by
  intro log bs hsends hmax hfit hcalls
  have hwritten : framesWritten c (World.init streamer) ops = framesOn c log :=
    (World.framesOn_run c ops (World.init streamer)).symm
  rw [hwritten] at hfit ⊢
  have hbytes : bs = ((sendsOn c log).map Prod.fst).flatten := transmitted_whole hsends
  rcases run_opened c streamer ops hmsg with ⟨hs, hf⟩ | ⟨d, auth, es, hs, hf⟩
  · have hnil : bs = [] := by rw [hbytes, hs]; rfl
    rw [hnil] at hcalls ⊢
    rw [hf]
    exact Receiver.delivers_nil calls hcalls
  · have hstream : bs = World.headEvent d auth ++ outStream es := by
      rw [hbytes, hs, List.flatten_cons, flatten_parts]
    have hwidth : wordAt bs 5 = World.frameWidth d := by rw [hstream]; exact vheadEvent_width ..
    have hheight : wordAt bs 6 = World.frameHeight d := by rw [hstream]; exact vheadEvent_height ..
    rw [hwidth, hheight] at hmax hfit
    rw [hf] at hfit ⊢
    exact Receiver.delivers_of_uncut hstream hmax hfit calls hcalls

/-- A connection that is accepted and gets a frame of three bytes with flags 7. -/
def oneFrame : List Op :=
  [.checknewconn 0 { Io.ready with selected := false },
    .writeback 0 [1, 2, 3] 7 Io.idle ⟨[.moved 47 false], [.moved 2 false], .none⟩]

def oneFrameLog : List Event := (oneFrame.foldl step (World.init (some ⟨false, 0, false, false⟩))).log

def oneFrameBytes : Buf := transmitted (sendsOn 0 oneFrameLog)

def oneFrameWritten : List Frame := framesWritten 0 (World.init (some ⟨false, 0, false, false⟩)) oneFrame

/-- The data comes in two pieces, and late. -/
theorem frame_roundTrip_oneFrame :
    Receiver.Delivers oneFrameBytes oneFrameWritten
      ([⟨.ready, .got 15, .got 31, []⟩, ⟨.timeout, .again, .again, []⟩,
        ⟨.ready, .got 15, .got 31, [.got 1, .again, .again, .got 7]⟩].foldl
        (Receiver.recvEsStream oneFrameBytes) Receiver.init) := by
  refine frame_roundTrip (some ⟨false, 0, false, false⟩) oneFrame 0 _ (by decide) (by decide) (by decide) ?_ ?_
  · have hf : oneFrameWritten = [⟨[1, 2, 3], 7⟩] := by decide
    intro f hm
    rw [show f = ⟨[1, 2, 3], 7⟩ from List.mem_singleton.1 (hf ▸ hm)]
    exact ⟨by decide, by decide, by decide⟩
  · exact ⟨⟨by decide, fun _ _ => Or.inr (by decide)⟩, ⟨by decide, fun _ h => by cases h⟩,
      ⟨by decide, fun _ _ => Or.inr (by decide)⟩, trivial⟩

/-- **A cut header corrupts the frame**: of the frame's header 12 bytes are there, everything else comes when
it is asked for. The receiver takes the flags for the size and hands over four bytes of the event with the
data, and the stream is drained. -/
theorem cut_header_corrupts :
    let r := [⟨.ready, .got 15, .got 31, []⟩, ⟨.ready, .got 11, .got 31, [.got 6]⟩].foldl
      (Receiver.recvEsStream oneFrameBytes) Receiver.init
    r.pos = oneFrameBytes.length ∧ r.packets = [⟨[0, 0, 0, 0, 1, 2, 3], 7, 0⟩] ∧
      ¬ Receiver.Delivers oneFrameBytes oneFrameWritten r := by
  intro r
  have hpos : r.pos = oneFrameBytes.length := by decide +kernel
  have hpackets : r.packets = [⟨[0, 0, 0, 0, 1, 2, 3], 7, 0⟩] := by decide +kernel
  refine ⟨hpos, hpackets, fun h => ?_⟩
  have hall := h.all hpos
  rw [hpackets] at hall
  exact absurd hall (by decide +kernel)

end CloudStreaming.Irrv
