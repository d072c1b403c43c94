import CloudStreaming.Lib.Runs
import Mathlib.Data.List.Chain
import Mathlib.Data.List.Range

/-!
# The desktop encoder (`streamer/capture/av-qsv-encoder.cpp:646-872`, `av-qsv-encoder.h:224-238`)

The capture thread encodes, another thread takes packets off a queue of bounded length, and any thread may ask for a
key frame. A packet that finds the queue full is dropped, and a key frame is asked for "to avoid missing refs"
(`:815`). One flag carries both wishes; `encode_frame` takes it down when it chooses the picture type, before the
codec has accepted the frame, so a frame that is then refused takes the wish with it.

| here | there |
| --- | --- |
| `context`        | `m_av_context` with the size and format it was made for (`m_frame_width`, ..), any type `F` |
| `fresh`          | the context has accepted no frame |
| `packets`        | how many packets the codec has given out; a packet is its number |
| `Phase`          | where `encode_frame` is: one phase for each access to what the threads share |
| `Session`        | not in the code: the encoder, and what its callers and the codec have seen |

With `async_depth` 1 the codec gives one packet for each frame it accepts, in the same call; it is a key packet if the
picture type was I or the context is fresh.
-/

namespace CloudStreaming.Streamer.DesktopEncoder

inductive PictType where
  | I
  | P
deriving DecidableEq

instance PictType.decidableForall (p : PictType → Prop) [DecidablePred p] : Decidable (∀ pict, p pict) :=
  decidable_of_iff (p .I ∧ p .P) ⟨fun h pict => match pict with | .I => h.1 | .P => h.2, fun h => ⟨h .I, h .P⟩⟩

structure Packet where
  id : Nat
  key : Bool
deriving DecidableEq

inductive Phase where
  | idle
  | ready
  | clearing
  | sending (pict : PictType)
  | receiving (packet : Packet)
deriving DecidableEq

structure AVQSVEncoder (F : Type*) where
  context : Option F
  fresh : Bool
  packets : Nat
  insertKeyFrame : Bool
  packetQueue : List Packet
  phase : Phase

/-- `frame`: what the frame is made of, `none` without a frame or surface; `init`: `init_av_context`; `prepare`: every
call from there to the packet; `send`: `avcodec_send_frame` accepts. -/
structure CaptureIo (F : Type*) where
  frame : Option F
  init : Bool
  prepare : Bool
  send : Bool

inductive Op (F : Type*) where
  | capture (io : CaptureIo F)
  | receivePacket
  | requestKeyFrame

/-- `m_packet_queue_max_size`. -/
def packetQueueMaxSize : Nat := 4

section
variable {F : Type*} [DecidableEq F]

/-- `encode_frame` up to the picture type (`:646-775`). -/
def prepare (s : AVQSVEncoder F) (io : CaptureIo F) : AVQSVEncoder F :=
  match io.frame with
  | none => s
  | some f =>
    if s.context = some f then { s with phase := if io.prepare then .ready else .idle }
    else if io.init then
      { s with context := some f, fresh := true, phase := if io.prepare then .ready else .idle }
    else s

/-- The packet of an accepted frame (`:809-843`), under the lock of the queue. -/
def receive (s : AVQSVEncoder F) (packet : Packet) : AVQSVEncoder F :=
  if s.packetQueue.length > packetQueueMaxSize then { s with insertKeyFrame := true, phase := .idle }
  else { s with packetQueue := s.packetQueue ++ [packet], phase := .idle }

/-- One access of the thread in `encode_frame`. -/
def capture (s : AVQSVEncoder F) (io : CaptureIo F) : AVQSVEncoder F :=
  match s.phase with
  | .idle => prepare s io
  | .ready => { s with phase := if s.insertKeyFrame then .clearing else .sending .P }
  | .clearing => { s with insertKeyFrame := false, phase := .sending .I }
  | .sending pict =>
    if io.send then
      { s with
        phase := .receiving ⟨s.packets, decide (pict = .I) || s.fresh⟩
        fresh := false
        packets := s.packets + 1 }
    else { s with phase := .idle }
  | .receiving packet => receive s packet

/-- `receive_packet` (`:855`); with an empty queue it times out. -/
def receivePacket (s : AVQSVEncoder F) : Option Packet × AVQSVEncoder F :=
  match s.packetQueue with
  | [] => (none, s)
  | packet :: rest => (some packet, { s with packetQueue := rest })

/-- `request_key_frame` (`:870`). -/
def requestKeyFrame (s : AVQSVEncoder F) : AVQSVEncoder F := { s with insertKeyFrame := true }

def call (s : AVQSVEncoder F) : Op F → AVQSVEncoder F
  | .capture io => capture s io
  | .receivePacket => (receivePacket s).2
  | .requestKeyFrame => requestKeyFrame s

end

/-! ## What is to hold -/

/-- What was seen of the encoder: the packets of the frames the codec accepted, whether the queue was full for each of
them, what `receive_packet` returned, and whether there was a request since the last accepted frame. -/
structure Session (F : Type*) where
  encoder : AVQSVEncoder F
  accepted : List Packet
  dropped : List Bool
  delivered : List Packet
  asked : Bool

section
variable {F : Type*}

/-- A call as it is seen, in the state it is made in. -/
def Session.see (s : Session F) : Op F → Session F
  | .capture io =>
    match s.encoder.phase with
    | .sending pict =>
      if io.send then
        { s with
          accepted := s.accepted ++ [⟨s.accepted.length, decide (pict = .I) || s.encoder.fresh⟩]
          asked := false }
      else s
    | .receiving _ => { s with dropped := s.dropped ++ [decide (s.encoder.packetQueue.length > packetQueueMaxSize)] }
    | _ => s
  | .receivePacket => { s with delivered := s.delivered ++ (receivePacket s.encoder).1.toList }
  | .requestKeyFrame => { s with asked := true }

def step [DecidableEq F] (s : Session F) (op : Op F) : Session F := { s.see op with encoder := call s.encoder op }

def start : Session F := ⟨⟨none, false, 0, false, [], .idle⟩, [], [], [], false⟩

/-- The packets that have come to the queue, and whether it was full. -/
def Session.encoded (s : Session F) : List (Packet × Bool) := s.accepted.zip s.dropped

/-- The packets that were not dropped. -/
def kept (encoded : List (Packet × Bool)) : List Packet := (encoded.filter fun e => !e.2).map Prod.fst

/-- Every accepted frame's packet has come to the queue, but for the one that is on its way; those delivered and those in
the queue are the ones kept, in the order of their encoding. -/
structure InOrder (s : Session F) : Prop where
  packets : s.accepted.length = s.encoder.packets
  pending : ∀ packet, s.encoder.phase = .receiving packet →
    s.accepted.length = s.dropped.length + 1 ∧ s.accepted.getLast? = some packet
  settled : (∀ packet, s.encoder.phase ≠ .receiving packet) → s.accepted.length = s.dropped.length
  keeps : s.delivered ++ s.encoder.packetQueue = kept s.encoded

/-- The packet that follows dropped ones is a key packet, unless it is dropped too. -/
def Recovers (s : Session F) : Prop :=
  s.encoded.IsChain fun e e' => e.2 = true → e'.2 = false → e'.1.key = true

/-- A call of `receive_packet` returns the oldest packet kept that has not been delivered, if there is one. -/
def Delivers (s : Session F) : Op F → Prop
  | .receivePacket => (receivePacket s.encoder).1 = ((kept s.encoded).drop s.delivered.length).head?
  | _ => True

/-- A frame that is accepted after a request has picture type I. -/
def KeyFrameGiven (s : Session F) : Op F → Prop
  | .capture io => ∀ pict, s.encoder.phase = .sending pict → io.send = true → s.asked = true → pict = .I
  | _ => True

instance (s : Session F) : (op : Op F) → Decidable (KeyFrameGiven s op)
  | .capture io => inferInstanceAs
      (Decidable (∀ pict, s.encoder.phase = .sending pict → io.send = true → s.asked = true → pict = .I))
  | .receivePacket => inferInstanceAs (Decidable True)
  | .requestKeyFrame => inferInstanceAs (Decidable True)

/-- A frame that took the flag down is accepted, and one that found it down is not accepted after a request that came
since. -/
def SendsRight (s : Session F) : Op F → Prop
  | .capture io => ∀ pict, s.encoder.phase = .sending pict →
      if io.send then pict = .I ∨ s.encoder.insertKeyFrame = false else pict = .P
  | _ => True

instance (s : Session F) : (op : Op F) → Decidable (SendsRight s op)
  | .capture io => inferInstanceAs (Decidable (∀ pict, s.encoder.phase = .sending pict →
      if io.send then pict = .I ∨ s.encoder.insertKeyFrame = false else pict = .P))
  | .receivePacket => inferInstanceAs (Decidable True)
  | .requestKeyFrame => inferInstanceAs (Decidable True)

end

/-! ## Order -/

section
variable {F : Type*} {s : Session F}

theorem kept_append (encoded : List (Packet × Bool)) (e : Packet × Bool) :
    kept (encoded ++ [e]) = kept encoded ++ if e.2 then [] else [e.1] := by
  unfold kept
  rw [List.filter_append, List.map_append]
  cases h : e.2 <;> simp [h]

/-- A frame that is not at the queue yet has no part in what came to it. -/
theorem InOrder.zip_accepted (h : InOrder s) (hphase : ∀ packet, s.encoder.phase ≠ .receiving packet) (packet : Packet) :
    (s.accepted ++ [packet]).zip s.dropped = s.encoded := by
  rw [Session.encoded, ← List.append_nil s.dropped, List.zip_append (h.settled hphase), List.zip_nil_right,
    List.append_nil, List.append_nil]

/-- The packet that is on its way is the next one that comes to the queue. -/
theorem InOrder.zip_dropped (h : InOrder s) {packet : Packet} (hphase : s.encoder.phase = .receiving packet)
    (full : Bool) : s.accepted.zip (s.dropped ++ [full]) = s.encoded ++ [(packet, full)] := by
  obtain ⟨hlen, hlast⟩ := h.pending packet hphase
  obtain ⟨before, hbefore⟩ := List.getLast?_eq_some_iff.mp hlast
  have hsame : before.length = s.dropped.length := by
    rw [hbefore, List.length_append, List.length_singleton] at hlen
    omega
  have hshort : (before ++ [packet]).zip (s.dropped ++ []) = before.zip s.dropped ++ [packet].zip [] :=
    List.zip_append hsame
  rw [List.append_nil, List.zip_nil_right, List.append_nil] at hshort
  rw [Session.encoded, hbefore, hshort, List.zip_append hsame]
  rfl

theorem InOrder.delivers (h : InOrder s) (op : Op F) : Delivers s op := by
  cases op with
  | capture io => trivial
  | requestKeyFrame => trivial
  | receivePacket =>
    have hqueue : (kept s.encoded).drop s.delivered.length = s.encoder.packetQueue := by
      rw [← h.keeps, List.drop_left]
    rw [Delivers, hqueue, receivePacket]
    split
    · next hnil => rw [hnil]; rfl
    · next packet rest hcons => rw [hcons]; rfl

/-! ## Key frames -/

/-- The last packet was dropped. -/
def Owed (s : Session F) : Prop := ∃ e ∈ s.encoded.getLast?, e.2 = true

/-- A wish for a key frame is in the flag, or in the frame that took the flag down. -/
def Covered (s : Session F) : Prop :=
  match s.encoder.phase with
  | .idle | .ready | .sending .P => s.asked = true ∨ Owed s → s.encoder.insertKeyFrame = true
  | .clearing | .sending .I => True
  | .receiving packet => (s.asked = true → s.encoder.insertKeyFrame = true) ∧ (Owed s → packet.key = true)

theorem owed_append {encoded : List (Packet × Bool)} {e : Packet × Bool} (hs : s.encoded = encoded ++ [e]) :
    Owed s ↔ e.2 = true := by
  unfold Owed
  rw [hs, List.getLast?_append_of_ne_nil _ (by simp)]
  simp

/-- A packet that is a key packet if one is owed recovers. -/
theorem Recovers.append {e : Packet × Bool} {s' : Session F} (h : Recovers s) (hs : s'.encoded = s.encoded ++ [e])
    (howed : Owed s → e.2 = false → e.1.key = true) : Recovers s' := by
  unfold Recovers
  rw [hs]
  refine List.IsChain.append h (List.isChain_singleton e) ?_
  intro d hd e' he' hdropped
  obtain rfl := Option.some.inj he'
  exact howed ⟨d, hd, hdropped⟩

/-- A wish that is there when the frame is sent is in the frame, if the flag is down. -/
theorem Covered.sending {pict : PictType} (h : Covered s) (hphase : s.encoder.phase = .sending pict)
    (hright : pict = .I ∨ s.encoder.insertKeyFrame = false) (hwish : s.asked = true ∨ Owed s) : pict = .I := by
  rcases hright with rfl | hflag
  · rfl
  · cases pict with
    | I => rfl
    | P =>
      unfold Covered at h
      rw [hphase] at h
      have hset := h hwish
      rw [hflag] at hset
      cases hset

structure Inv (s : Session F) : Prop where
  order : InOrder s
  covered : Covered s
  recovers : Recovers s

/-- A request since the last accepted frame is answered by the next one. -/
theorem Inv.keyFrameGiven (hinv : Inv s) (op : Op F) (hsends : SendsRight s op) : KeyFrameGiven s op := by
  cases op with
  | capture io =>
    intro pict hphase hsend hasked
    have hright := hsends pict hphase
    rw [hsend] at hright
    exact hinv.covered.sending hphase hright (.inl hasked)
  | receivePacket => trivial
  | requestKeyFrame => trivial

theorem InOrder.start : InOrder (start (F := F)) := by
  refine ⟨rfl, fun _ h => ?_, fun _ => rfl, rfl⟩
  cases h

theorem Inv.start : Inv (start (F := F)) := by
  refine ⟨.start, ?_, List.isChain_nil⟩
  rintro (h | ⟨e, he, -⟩)
  · cases h
  · cases he

/-! ## The steps -/

theorem receive_phase (e : AVQSVEncoder F) (packet : Packet) :
    (receive e packet).phase = .idle ∧ (receive e packet).packets = e.packets := by
  unfold receive
  split <;> exact ⟨rfl, rfl⟩

variable [DecidableEq F]

/-- Preparing a frame touches neither the flag nor the packets. -/
theorem prepare_frame (e : AVQSVEncoder F) (io : CaptureIo F) (hphase : e.phase = .idle) :
    (prepare e io).insertKeyFrame = e.insertKeyFrame ∧ (prepare e io).packetQueue = e.packetQueue ∧
      (prepare e io).packets = e.packets ∧ ((prepare e io).phase = .idle ∨ (prepare e io).phase = .ready) := by
  have hnext : (if io.prepare then Phase.ready else .idle) = .idle ∨
      (if io.prepare then Phase.ready else .idle) = .ready := by
    split
    · exact .inr rfl
    · exact .inl rfl
  unfold prepare
  split
  · exact ⟨rfl, rfl, rfl, .inl hphase⟩
  · split
    · exact ⟨rfl, rfl, rfl, hnext⟩
    · split
      · exact ⟨rfl, rfl, rfl, hnext⟩
      · exact ⟨rfl, rfl, rfl, .inl hphase⟩

/-- **What a step of `encode_frame` does**, with what is seen of it. -/
theorem capture_cases (s : Session F) (io : CaptureIo F) :
    (∃ e, s.encoder.phase = .idle ∧ step s (.capture io) = { s with encoder := e } ∧
      e.insertKeyFrame = s.encoder.insertKeyFrame ∧ e.packetQueue = s.encoder.packetQueue ∧
      e.packets = s.encoder.packets ∧ (e.phase = .idle ∨ e.phase = .ready)) ∨
    (s.encoder.phase = .ready ∧ step s (.capture io) = { s with
      encoder := { s.encoder with phase := if s.encoder.insertKeyFrame then .clearing else .sending .P } }) ∨
    (s.encoder.phase = .clearing ∧ step s (.capture io) = { s with
      encoder := { s.encoder with insertKeyFrame := false, phase := .sending .I } }) ∨
    (∃ pict, s.encoder.phase = .sending pict ∧ io.send = false ∧
      step s (.capture io) = { s with encoder := { s.encoder with phase := .idle } }) ∨
    (∃ pict, s.encoder.phase = .sending pict ∧ io.send = true ∧ step s (.capture io) = { s with
      encoder := { s.encoder with
        phase := .receiving ⟨s.encoder.packets, decide (pict = .I) || s.encoder.fresh⟩
        fresh := false
        packets := s.encoder.packets + 1 }
      accepted := s.accepted ++ [⟨s.accepted.length, decide (pict = .I) || s.encoder.fresh⟩]
      asked := false }) ∨
    ∃ packet, s.encoder.phase = .receiving packet ∧ step s (.capture io) = { s with
      encoder := receive s.encoder packet
      dropped := s.dropped ++ [decide (s.encoder.packetQueue.length > packetQueueMaxSize)] } := by
  cases hphase : s.encoder.phase with
  | idle =>
    obtain ⟨hflag, hqueue, hpackets, hnext⟩ := prepare_frame s.encoder io hphase
    refine .inl ⟨prepare s.encoder io, rfl, ?_, hflag, hqueue, hpackets, hnext⟩
    simp [step, call, capture, Session.see, hphase]
  | ready => exact .inr (.inl ⟨rfl, by simp [step, call, capture, Session.see, hphase]⟩)
  | clearing => exact .inr (.inr (.inl ⟨rfl, by simp [step, call, capture, Session.see, hphase]⟩))
  | sending pict =>
    cases hsend : io.send with
    | false =>
      exact .inr (.inr (.inr (.inl ⟨pict, rfl, rfl, by simp [step, call, capture, Session.see, hphase, hsend]⟩)))
    | true =>
      refine .inr (.inr (.inr (.inr (.inl ⟨pict, rfl, rfl, ?_⟩))))
      simp [step, call, capture, Session.see, hphase, hsend]
  | receiving packet =>
    refine .inr (.inr (.inr (.inr (.inr ⟨packet, rfl, ?_⟩))))
    simp [step, call, capture, Session.see, hphase]

theorem InOrder.capture (h : InOrder s) (io : CaptureIo F) : InOrder (step s (.capture io)) := by
  rcases capture_cases s io with ⟨e, hphase, hs, hflag, hqueue, hpackets, hnext⟩ | ⟨hphase, hs⟩ | ⟨hphase, hs⟩ |
    ⟨pict, hphase, -, hs⟩ | ⟨pict, hphase, -, hs⟩ | ⟨packet, hphase, hs⟩ <;> rw [hs]
  · have hset := h.settled (by simp [hphase])
    refine ⟨h.packets.trans hpackets.symm, fun packet hp => ?_, fun _ => hset, ?_⟩
    · rcases hnext with hn | hn <;> rw [hn] at hp <;> cases hp
    · rw [hqueue]
      exact h.keeps
  · have hset := h.settled (by simp [hphase])
    refine ⟨h.packets, fun packet hp => ?_, fun _ => hset, h.keeps⟩
    simp only at hp
    split at hp <;> cases hp
  · have hset := h.settled (by simp [hphase])
    exact ⟨h.packets, fun packet hp => (by cases hp), fun _ => hset, h.keeps⟩
  · have hset := h.settled (by simp [hphase])
    exact ⟨h.packets, fun packet hp => (by cases hp), fun _ => hset, h.keeps⟩
  · have hgoes : ∀ packet, s.encoder.phase ≠ .receiving packet := by simp [hphase]
    have hset := h.settled hgoes
    refine ⟨?_, fun packet hp => ?_, fun hp => absurd rfl (hp _), ?_⟩
    · rw [List.length_append, h.packets]
      rfl
    · obtain rfl := (Phase.receiving.inj hp).symm
      refine ⟨?_, ?_⟩
      · simp [hset]
      · rw [h.packets]
        exact List.getLast?_concat
    · rw [Session.encoded, h.zip_accepted hgoes]
      exact h.keeps
  · obtain ⟨hidle, hpackets⟩ := receive_phase s.encoder packet
    refine ⟨h.packets.trans hpackets.symm, fun p hp => ?_, fun _ => ?_, ?_⟩
    · rw [hidle] at hp
      cases hp
    · rw [List.length_append]
      exact (h.pending packet hphase).1
    · rw [Session.encoded, h.zip_dropped hphase, kept_append, ← h.keeps, receive]
      split
      · next hfull => simp [hfull]
      · next hroom => simp [hroom]

/-- **Packets are delivered in the order of their encoding, each once**, whatever the calls return. -/
theorem InOrder.step (h : InOrder s) (op : Op F) : InOrder (step s op) := by
  cases op with
  | capture io => exact h.capture io
  | requestKeyFrame => exact ⟨h.packets, h.pending, h.settled, h.keeps⟩
  | receivePacket =>
    have hkept := h.keeps
    cases hqueue : s.encoder.packetQueue with
    | nil =>
      rw [hqueue, List.append_nil] at hkept
      refine ⟨?_, ?_, ?_, ?_⟩ <;> simp only [DesktopEncoder.step, call, DesktopEncoder.receivePacket, hqueue]
      · exact h.packets
      · exact h.pending
      · exact h.settled
      · simpa [Session.see, DesktopEncoder.receivePacket, hqueue, Session.encoded] using hkept
    | cons packet rest =>
      refine ⟨?_, ?_, ?_, ?_⟩ <;> simp only [DesktopEncoder.step, call, DesktopEncoder.receivePacket, hqueue]
      · exact h.packets
      · exact h.pending
      · exact h.settled
      · rw [hqueue] at hkept
        simpa [Session.see, DesktopEncoder.receivePacket, hqueue, Session.encoded] using hkept

/-- The packet of an accepted frame: dropped, it puts the flag up; kept, it settles what is owed. -/
theorem receive_covered (hinv : Inv s) {packet : Packet} (hphase : s.encoder.phase = .receiving packet)
    (io : CaptureIo F) :
    Covered (step s (.capture io)) ∧ Recovers (step s (.capture io)) := by
  have hcovered := hinv.covered
  unfold Covered at hcovered
  rw [hphase] at hcovered
  obtain ⟨hasked, howed⟩ := hcovered
  have hs : step s (.capture io) = { s with
      encoder := receive s.encoder packet
      dropped := s.dropped ++ [decide (s.encoder.packetQueue.length > packetQueueMaxSize)] } := by
    simp [step, call, capture, Session.see, hphase]
  have hencoded : (step s (.capture io)).encoded =
      s.encoded ++ [(packet, decide (s.encoder.packetQueue.length > packetQueueMaxSize))] := by
    rw [hs]
    exact hinv.order.zip_dropped hphase _
  refine ⟨?_, hinv.recovers.append hencoded fun h _ => howed h⟩
  unfold Covered
  have hidle : (step s (.capture io)).encoder.phase = .idle := by rw [hs]; exact (receive_phase s.encoder packet).1
  rw [hidle]
  intro hwish
  rw [hs]
  unfold receive
  split
  · rfl
  · next hroom =>
    rcases hwish with h | h
    · rw [hs] at h
      exact hasked h
    · have hfull := (owed_append hencoded).mp h
      exact absurd (of_decide_eq_true hfull) hroom

/-- A step of `encode_frame` keeps wishes covered, and a packet it gives out recovers from the drops before it. -/
theorem capture_covered (hinv : Inv s) (io : CaptureIo F) (hsends : SendsRight s (.capture io)) :
    Covered (step s (.capture io)) ∧ Recovers (step s (.capture io)) := by
  have hcovered := hinv.covered
  rcases capture_cases s io with ⟨e, hphase, hs, hflag, -, -, hnext⟩ | ⟨hphase, hs⟩ | ⟨hphase, hs⟩ |
    ⟨pict, hphase, hsend, hs⟩ | ⟨pict, hphase, hsend, hs⟩ | ⟨packet, hphase, -⟩
  · rw [hs]
    refine ⟨?_, hinv.recovers⟩
    unfold Covered at hcovered ⊢
    rw [hphase] at hcovered
    rcases hnext with hn | hn <;> rw [hn] <;> simp only [hflag] <;> exact hcovered
  · rw [hs]
    refine ⟨?_, hinv.recovers⟩
    unfold Covered at hcovered
    rw [hphase] at hcovered
    unfold Covered
    cases hflag : s.encoder.insertKeyFrame with
    | true => trivial
    | false =>
      rw [hflag] at hcovered
      exact hcovered
  · rw [hs]
    exact ⟨trivial, hinv.recovers⟩
  · have hright := hsends pict hphase
    rw [hsend] at hright
    obtain rfl : pict = .P := hright
    rw [hs]
    refine ⟨?_, hinv.recovers⟩
    unfold Covered at hcovered
    rw [hphase] at hcovered
    exact hcovered
  · have hright := hsends pict hphase
    rw [hsend] at hright
    have hencoded : (step s (.capture io)).encoded = s.encoded := by
      rw [hs]
      exact hinv.order.zip_accepted (by simp [hphase]) _
    refine ⟨?_, by rw [Recovers, hencoded]; exact hinv.recovers⟩
    have howed : Owed (step s (.capture io)) → Owed s := by
      unfold Owed
      rw [hencoded]
      exact id
    unfold Covered
    rw [hs] at howed ⊢
    refine ⟨fun h => absurd h Bool.false_ne_true, fun h => ?_⟩
    rw [hcovered.sending hphase hright (.inr (howed h))]
    rfl
  · exact receive_covered hinv hphase io

theorem Inv.step (hinv : Inv s) (op : Op F) (hsends : SendsRight s op) : Inv (step s op) := by
  have hcovered := hinv.covered
  cases op with
  | capture io =>
    obtain ⟨hcovered', hrecovers'⟩ := capture_covered hinv io hsends
    exact ⟨hinv.order.step _, hcovered', hrecovers'⟩
  | receivePacket =>
    refine ⟨hinv.order.step _, ?_, hinv.recovers⟩
    have hphase : (receivePacket s.encoder).2.phase = s.encoder.phase ∧
        (receivePacket s.encoder).2.insertKeyFrame = s.encoder.insertKeyFrame := by
      unfold receivePacket
      split <;> exact ⟨rfl, rfl⟩
    unfold Covered at hcovered ⊢
    simp only [DesktopEncoder.step, call, hphase.1, hphase.2]
    exact hcovered
  | requestKeyFrame =>
    refine ⟨hinv.order.step _, ?_, hinv.recovers⟩
    unfold Covered at hcovered ⊢
    simp only [DesktopEncoder.step, call, requestKeyFrame]
    cases hphase : s.encoder.phase with
    | idle => exact fun _ => trivial
    | ready => exact fun _ => trivial
    | clearing => trivial
    | sending pict =>
      cases pict with
      | I => trivial
      | P => exact fun _ => trivial
    | receiving packet =>
      rw [hphase] at hcovered
      exact ⟨fun _ => trivial, hcovered.2⟩

/-- **The output stays decodable as long as no wish is lost at the codec.** In every interleaving in which a frame
that took the flag down is accepted, and one that found it down is not accepted after a request that came since,
packets are delivered in encoding order, each once; the packet after dropped ones is a key packet; and after a request
the next accepted frame has picture type I. -/
theorem output_decodable (ops : List (Op F)) (hsends : Runs.Meets step SendsRight start ops) :
    InOrder (ops.foldl step start) ∧ Recovers (ops.foldl step start) ∧
      Runs.Meets step (fun s op => Delivers s op ∧ KeyFrameGiven s op) start ops := by
  refine ⟨?_, ?_, ?_⟩
  · exact Runs.foldl_inv (fun s op h => h.step op) ops start .start
  · exact (Runs.Meets.inv (fun s op h => h.step op) ops start Inv.start hsends).recovers
  · exact Runs.Meets.imp (fun s op h => h.step op) (fun s op h hs => ⟨h.order.delivers op, h.keyFrameGiven op hs⟩) ops
      start Inv.start hsends

end

/-- A frame that gets as far as the codec. -/
def sent (send : Bool) : Op Unit := .capture ⟨some (), true, true, send⟩

/-- A request, and the frame that answers it; both packets are delivered as key packets. -/
theorem request_answered :
    let ops := List.replicate 4 (sent true) ++ .requestKeyFrame :: List.replicate 5 (sent true) ++
      [.receivePacket, .receivePacket]
    (InOrder (ops.foldl step start) ∧ Recovers (ops.foldl step start) ∧
      Runs.Meets step (fun s op => Delivers s op ∧ KeyFrameGiven s op) start ops) ∧
    (ops.foldl step start).accepted = [⟨0, true⟩, ⟨1, true⟩] ∧
    (ops.foldl step start).delivered = [⟨0, true⟩, ⟨1, true⟩] :=
  ⟨output_decodable _ (by decide), by decide, by decide⟩

/-- The key frame is refused. After a request, the next accepted frame has type P; after a drop, the next packet that
is kept is no key packet. -/
theorem refused_key_frame_forgotten :
    let asked := List.replicate 4 (sent true) ++ .requestKeyFrame :: List.replicate 4 (sent false) ++
      List.replicate 4 (sent true)
    let dropped := List.replicate 24 (sent true) ++ .receivePacket :: List.replicate 4 (sent false) ++
      List.replicate 4 (sent true)
    ¬Runs.Meets step KeyFrameGiven start asked ∧ ¬Recovers (dropped.foldl step (start (F := Unit))) := by
  constructor
  · decide
  · unfold Recovers
    decide

end CloudStreaming.Streamer.DesktopEncoder
