import CloudStreaming.Lib.Runs
import Mathlib.Data.UInt

/-!
# The end-to-end latency report (`server-webrtc/ics-p2p-client.cpp:203-217`, `:720-812`)

A client asks for the latency by a message with its send time. The server answers in the side data of a frame:
the first one whose rendering ended after the message came. Which frame that is, is found by two counters:
the number of the frame at the receipt, and `frame_delay_`, which each frame that started too early increments.

`frame_delay_++` (`:771`) is not guarded by `HasClientStats()`: its comment speaks of "the message", but a frame
inserted while there is none also takes it. The next message then is answered that many frames late:
`idle_frame_delays_report`. In runs without such frames the report comes with the right frame and once, whatever
the clocks say and wherever the 32-bit counters wrap: `latency_reported_once`.

| here | there |
| --- | --- |
| `P2PClient`            | `frame_number_`, `frame_delay_`, `client_latency_` (`ics-p2p-client.h:153-165`) |
| `now`                  | `system_clock::now()` of the call, in milliseconds |
| `LatencyMessage`       | a message whose send time is not the marker 0 |
| `Frame.client`         | the three client fields of `output_message`, if they are set |
| `Telemetry.pending`    | not in the source: the message that waits for its frame |
| `Telemetry.accepted`, `reported` | not in the source: the messages taken, and those answered, oldest first |

`frame_number_` has no initial value (`.h:153`), so it is a parameter. The allocation of the side data is taken to
succeed, and the rest of the frame is left out.
-/

namespace CloudStreaming.Streamer.E2e

open Runs

structure P2PClient where
  frameNumber : UInt32
  frameDelay : UInt32
  sendTimeMs : UInt64
  receivedTimeMs : UInt64
  receivedFrameNumber : UInt32
  deriving DecidableEq, Repr

/-- `clientSendLatencyTime`, `serverReceivedLatencyTime`, `serverRenderClientInputTime`. -/
structure ClientFields where
  sendTimeMs : UInt64
  receivedTimeMs : UInt64
  renderTimeMs : UInt64
  deriving DecidableEq, Repr

/-- The latency message of a frame, and its `picture_id`. -/
structure Frame where
  pictureId : UInt32
  client : Option ClientFields
  encodeTimeMs : UInt64
  deriving DecidableEq, Repr

namespace P2PClient

def new (frameNumber : UInt32) : P2PClient := ⟨frameNumber, 1, 0, 0, 0⟩

def hasClientStats (c : P2PClient) : Bool := c.sendTimeMs != 0

/-- `UpdateFrameNumber` (`.h:88`): no 32-bit number is above the limit, the increment wraps by itself. -/
def updateFrameNumber (c : P2PClient) : P2PClient :=
  { c with frameNumber := if c.frameNumber.toNat > 2 ^ 32 - 1 then 0 else c.frameNumber + 1 }

/-- `HandleLatencyMessage` (`:204`). -/
def handleLatencyMessage (c : P2PClient) (latencySendTimeMs now : UInt64) : P2PClient :=
  if c.hasClientStats then c
  else
    { c with
      receivedTimeMs := now
      sendTimeMs := latencySendTimeMs
      receivedFrameNumber := c.frameNumber }

/-- `render_client_input_time` (`:769`), in 64 bits. -/
def renderClientInputTime (c : P2PClient) (now encodeTimeMs : UInt64) : Int64 :=
  ((now - encodeTimeMs) - c.receivedTimeMs).toInt64

/-- The latency section of `InsertFrame` (`:720-812`). -/
def insertFrame (c : P2PClient) (encodingStart encodingEnd now : UInt64) : P2PClient × Frame :=
  let c := c.updateFrameNumber
  let frameToSend := c.frameNumber
  let encodeTimeMs := encodingEnd - encodingStart
  let render := c.renderClientInputTime now encodeTimeMs
  let c := if render ≤ 0 then { c with frameDelay := c.frameDelay + 1 } else c
  let renderTimeMs := if render ≤ 0 then 0 else render.toUInt64
  let send := c.hasClientStats && frameToSend == c.receivedFrameNumber + c.frameDelay
  let frame :=
    ⟨frameToSend, if send then some ⟨c.sendTimeMs, c.receivedTimeMs, renderTimeMs⟩ else none, encodeTimeMs⟩
  if send then ({ c with sendTimeMs := 0, receivedTimeMs := 0, receivedFrameNumber := 0, frameDelay := 1 }, frame)
  else (c, frame)

end P2PClient

/-! ## Runs -/

structure LatencyMessage where
  sendTimeMs : UInt64
  nonzero : sendTimeMs ≠ 0

/-- The message that waits: when it was sent and when it came. -/
structure Pending where
  sendTimeMs : UInt64
  receivedTimeMs : UInt64
  deriving DecidableEq, Repr

inductive Op where
  | message (m : LatencyMessage) (now : UInt64)
  | frame (encodingStart encodingEnd now : UInt64)

structure Telemetry where
  client : P2PClient
  pending : Option Pending
  accepted : List Pending
  reported : List Pending

namespace Telemetry

def new (frameNumber : UInt32) : Telemetry := ⟨.new frameNumber, none, [], []⟩

/-- A message is taken where none waits; what a frame carries is answered and waits no longer. -/
def step (t : Telemetry) : Op → Telemetry
  | .message m now =>
    { t with
      client := t.client.handleLatencyMessage m.sendTimeMs now
      pending := t.pending.or (some ⟨m.sendTimeMs, now⟩)
      accepted := if t.pending.isNone then t.accepted ++ [⟨m.sendTimeMs, now⟩] else t.accepted }
  | .frame encodingStart encodingEnd now =>
    let r := t.client.insertFrame encodingStart encodingEnd now
    match r.2.client with
    | none => { t with client := r.1 }
    | some f =>
      { t with client := r.1, pending := none, reported := t.reported ++ [⟨f.sendTimeMs, f.receivedTimeMs⟩] }

/-- How long before the end of the rendering of this frame the message came. -/
def renderTime (p : Pending) (encodingStart encodingEnd now : UInt64) : Int64 :=
  ((now - (encodingEnd - encodingStart)) - p.receivedTimeMs).toInt64

/-- What a frame should carry: the message that waits, if its render time is positive. -/
def expected (t : Telemetry) (encodingStart encodingEnd now : UInt64) : Option ClientFields :=
  match t.pending with
  | none => none
  | some p =>
    let render := renderTime p encodingStart encodingEnd now
    if 0 < render then some ⟨p.sendTimeMs, p.receivedTimeMs, render.toUInt64⟩ else none

/-- A step does what it should: a message is ignored while one waits, a frame carries what is expected. -/
def Reports (t : Telemetry) : Op → Prop
  | .message m now => t.pending ≠ none → t.client.handleLatencyMessage m.sendTimeMs now = t.client
  | .frame encodingStart encodingEnd now =>
    (t.client.insertFrame encodingStart encodingEnd now).2.client = t.expected encodingStart encodingEnd now

/-- No frame is inserted while no message waits whose encoding took as long as the clock has run. -/
def Timely (t : Telemetry) : Op → Prop
  | .message _ _ => True
  | .frame encodingStart encodingEnd now =>
    t.pending = none → 0 < (now - (encodingEnd - encodingStart)).toInt64

/-! ## The counters -/

/-- The invariant: without a message the delay is 1; with one, the next frame is the one to report it, if it is
late enough. The sum is of 32-bit numbers. -/
structure Linked (t : Telemetry) : Prop where
  idle : t.pending = none → t.client.sendTimeMs = 0 ∧ t.client.receivedTimeMs = 0 ∧ t.client.frameDelay = 1
  waiting : ∀ p, t.pending = some p → p.sendTimeMs ≠ 0 ∧ t.client.sendTimeMs = p.sendTimeMs ∧
    t.client.receivedTimeMs = p.receivedTimeMs ∧
    t.client.frameNumber + 1 = t.client.receivedFrameNumber + t.client.frameDelay
  account : t.accepted = t.reported ++ t.pending.toList

theorem Linked.new (frameNumber : UInt32) : Linked (new frameNumber) :=
  ⟨fun _ => ⟨rfl, rfl, rfl⟩, (fun _ h => nomatch h), rfl⟩

/-- The roll-over test never holds; the increment wraps. -/
theorem updateFrameNumber_eq (c : P2PClient) : c.updateFrameNumber = { c with frameNumber := c.frameNumber + 1 } := by
  have hlt := c.frameNumber.toNat_lt
  unfold P2PClient.updateFrameNumber
  rw [if_neg (by omega)]

/-- A frame that carries no client fields. -/
theorem insertFrame_silent (c : P2PClient) (encodingStart encodingEnd now : UInt64) :
    let render := c.renderClientInputTime now (encodingEnd - encodingStart)
    let delay := if render ≤ 0 then c.frameDelay + 1 else c.frameDelay
    ¬ (c.sendTimeMs ≠ 0 ∧ c.frameNumber + 1 = c.receivedFrameNumber + delay) →
    (c.insertFrame encodingStart encodingEnd now).1 =
        { c with frameNumber := c.frameNumber + 1, frameDelay := delay } ∧
      (c.insertFrame encodingStart encodingEnd now).2.client = none := by
  intro render delay hnot
  unfold P2PClient.insertFrame
  rw [updateFrameNumber_eq]
  by_cases hr : render ≤ 0
  · have hd : delay = c.frameDelay + 1 := if_pos hr
    rw [hd] at hnot ⊢
    simp only [render, P2PClient.renderClientInputTime] at hr
    simp only [P2PClient.renderClientInputTime, P2PClient.hasClientStats, hr, if_true]
    rw [if_neg (by simpa using hnot)]
    simpa using hnot
  · have hd : delay = c.frameDelay := if_neg hr
    rw [hd] at hnot ⊢
    simp only [render, P2PClient.renderClientInputTime] at hr
    simp only [P2PClient.renderClientInputTime, P2PClient.hasClientStats, hr, if_false]
    rw [if_neg (by simpa using hnot)]
    simpa using hnot

/-- A frame that carries the client fields. -/
theorem insertFrame_reports (c : P2PClient) (encodingStart encodingEnd now : UInt64) (hs : c.sendTimeMs ≠ 0)
    (hr : ¬ c.renderClientInputTime now (encodingEnd - encodingStart) ≤ 0)
    (hn : c.frameNumber + 1 = c.receivedFrameNumber + c.frameDelay) :
    (c.insertFrame encodingStart encodingEnd now).1 = P2PClient.new (c.frameNumber + 1) ∧
      (c.insertFrame encodingStart encodingEnd now).2.client =
        some ⟨c.sendTimeMs, c.receivedTimeMs,
          (c.renderClientInputTime now (encodingEnd - encodingStart)).toUInt64⟩ := by
  unfold P2PClient.insertFrame
  rw [updateFrameNumber_eq]
  have hsend : (c.sendTimeMs != 0 && c.frameNumber + 1 == c.receivedFrameNumber + c.frameDelay) = true := by
    simp [hs, hn]
  simp only [P2PClient.renderClientInputTime] at hr
  simp only [P2PClient.renderClientInputTime, P2PClient.hasClientStats, hr, if_false, hsend, if_true, and_true]
  rfl

/-! ## Steps -/

theorem step_message (t : Telemetry) (m : LatencyMessage) (now : UInt64) :
    t.step (.message m now) =
      { t with
        client := t.client.handleLatencyMessage m.sendTimeMs now
        pending := t.pending.or (some ⟨m.sendTimeMs, now⟩)
        accepted := if t.pending.isNone then t.accepted ++ [⟨m.sendTimeMs, now⟩] else t.accepted } := rfl

theorem step_silent {t : Telemetry} {encodingStart encodingEnd now : UInt64}
    (h : (t.client.insertFrame encodingStart encodingEnd now).2.client = none) :
    t.step (.frame encodingStart encodingEnd now) =
      { t with client := (t.client.insertFrame encodingStart encodingEnd now).1 } := by
  unfold step
  dsimp only
  rw [h]

theorem step_answers {t : Telemetry} {encodingStart encodingEnd now : UInt64} {f : ClientFields}
    (h : (t.client.insertFrame encodingStart encodingEnd now).2.client = some f) :
    t.step (.frame encodingStart encodingEnd now) =
      { t with
        client := (t.client.insertFrame encodingStart encodingEnd now).1
        pending := none
        reported := t.reported ++ [⟨f.sendTimeMs, f.receivedTimeMs⟩] } := by
  unfold step
  dsimp only
  rw [h]

theorem Linked.message {t : Telemetry} (h : Linked t) (m : LatencyMessage) (now : UInt64) :
    t.Reports (.message m now) ∧ Linked (t.step (.message m now)) := by
  cases hp : t.pending with
  | none =>
    obtain ⟨hsend, -, hdelay⟩ := h.idle hp
    have hc : t.client.handleLatencyMessage m.sendTimeMs now =
        { t.client with
          receivedTimeMs := now
          sendTimeMs := m.sendTimeMs
          receivedFrameNumber := t.client.frameNumber } := by
      simp [P2PClient.handleLatencyMessage, P2PClient.hasClientStats, hsend]
    rw [step_message]
    refine ⟨fun hne => absurd hp hne, ?_, ?_, ?_⟩
    · simp [hp]
    · intro p hpending
      have hpe : p = ⟨m.sendTimeMs, now⟩ := by simpa [hp] using hpending.symm
      subst hpe
      simpa [hc, hdelay] using m.nonzero
    · simp [hp, h.account]
  | some p =>
    obtain ⟨hne, hsend, -⟩ := h.waiting p hp
    have hc : t.client.handleLatencyMessage m.sendTimeMs now = t.client := by
      simp [P2PClient.handleLatencyMessage, P2PClient.hasClientStats, hsend, hne]
    have hsame : t.step (.message m now) = t := by
      simp only [step_message, hc, hp, Option.some_or, Option.isNone_some, Bool.false_eq_true, if_false]
      rw [← hp]
    refine ⟨fun _ => hc, ?_⟩
    rw [hsame]
    exact h

/-- A frame while no message waits. -/
theorem Linked.frame_idle {t : Telemetry} (h : Linked t) (encodingStart encodingEnd now : UInt64) (hp : t.pending = none)
    (htimely : t.Timely (.frame encodingStart encodingEnd now)) :
    t.Reports (.frame encodingStart encodingEnd now) ∧ Linked (t.step (.frame encodingStart encodingEnd now)) := by
  obtain ⟨hsend, hrecv, hdelay⟩ := h.idle hp
  have hr : ¬ t.client.renderClientInputTime now (encodingEnd - encodingStart) ≤ 0 := by
    rw [P2PClient.renderClientInputTime, hrecv, UInt64.sub_zero]
    exact Int64.not_le.mpr (htimely hp)
  obtain ⟨h1, h2⟩ := insertFrame_silent t.client encodingStart encodingEnd now (by simp [hsend])
  rw [if_neg hr] at h1
  refine ⟨?_, ?_⟩
  · simp only [Reports, h2, expected, hp]
  · rw [step_silent h2, h1]
    exact ⟨fun _ => ⟨hsend, hrecv, hdelay⟩, fun p hp' => absurd (hp.symm.trans hp') (by simp), h.account⟩

/-- A frame while the message `p` waits. -/
theorem Linked.frame_waiting {t : Telemetry} (h : Linked t) (encodingStart encodingEnd now : UInt64) (p : Pending)
    (hp : t.pending = some p) :
    t.Reports (.frame encodingStart encodingEnd now) ∧ Linked (t.step (.frame encodingStart encodingEnd now)) := by
  obtain ⟨hne, hsend, hrecv, hnum⟩ := h.waiting p hp
  have hrender : t.client.renderClientInputTime now (encodingEnd - encodingStart) =
      renderTime p encodingStart encodingEnd now := by
    rw [P2PClient.renderClientInputTime, renderTime, hrecv]
  by_cases hr : 0 < renderTime p encodingStart encodingEnd now
  · have hr' : ¬ t.client.renderClientInputTime now (encodingEnd - encodingStart) ≤ 0 := by
      rw [hrender]
      exact Int64.not_le.mpr hr
    obtain ⟨h1, h2⟩ := insertFrame_reports t.client encodingStart encodingEnd now (hsend ▸ hne) hr' hnum
    rw [hrender, hsend, hrecv] at h2
    refine ⟨?_, ?_⟩
    · simp only [Reports, h2, expected, hp, if_pos hr]
    · rw [step_answers h2, h1]
      refine ⟨fun _ => ⟨rfl, rfl, rfl⟩, (fun _ h' => nomatch h'), ?_⟩
      simp [h.account, hp]
  · have hr' : t.client.renderClientInputTime now (encodingEnd - encodingStart) ≤ 0 := by
      rw [hrender]
      exact Int64.not_lt.mp hr
    -- the sum runs one ahead of the frame number
    have hnext : t.client.receivedFrameNumber + (t.client.frameDelay + 1) = t.client.frameNumber + 1 + 1 := by
      rw [hnum, UInt32.add_assoc]
    have hnot : ¬ t.client.frameNumber + 1 = t.client.receivedFrameNumber + (t.client.frameDelay + 1) := by
      rw [hnext]
      intro heq
      have hnat := congrArg UInt32.toNat heq
      rw [UInt32.toNat_add (t.client.frameNumber + 1), UInt32.toNat_one] at hnat
      have hlt := (t.client.frameNumber + 1).toNat_lt
      omega
    obtain ⟨h1, h2⟩ := insertFrame_silent t.client encodingStart encodingEnd now
      (by rw [if_pos hr']; exact fun hh => hnot hh.2)
    rw [if_pos hr'] at h1
    refine ⟨?_, ?_⟩
    · simp only [Reports, h2, expected, hp, if_neg hr]
    · rw [step_silent h2, h1]
      refine ⟨fun hn => absurd (hp.symm.trans hn) (by simp), fun q hq => ?_, h.account⟩
      obtain rfl := Option.some.inj (hp.symm.trans hq)
      exact ⟨hne, hsend, hrecv, hnext.symm⟩

theorem Linked.step {t : Telemetry} (h : Linked t) (o : Op) (ht : t.Timely o) : t.Reports o ∧ Linked (t.step o) := by
  cases o with
  | message m now => exact h.message m now
  | frame encodingStart encodingEnd now =>
    cases hp : t.pending with
    | none => exact h.frame_idle encodingStart encodingEnd now hp ht
    | some p => exact h.frame_waiting encodingStart encodingEnd now p hp

theorem run_account {ops : List Op} {t : Telemetry} (h : Linked t) (ht : Meets Telemetry.step Timely t ops) :
    (ops.foldl Telemetry.step t).accepted =
      (ops.foldl Telemetry.step t).reported ++ (ops.foldl Telemetry.step t).pending.toList :=
  (Meets.inv (fun _ o h ht => (h.step o ht).2) ops t h ht).account

/-- **The latency is reported once**: from any frame number, in every run without a frame that finds no message
and a clock behind its encoding time, each frame carries the message that waits exactly if its render time is
positive, messages are ignored while one waits, and the messages taken are those reported, in order and once,
and the one that waits. -/
theorem latency_reported_once (frameNumber : UInt32) (ops : List Op)
    (ht : Meets step Timely (new frameNumber) ops) :
    Meets step Reports (new frameNumber) ops ∧
    ∀ pre, pre <+: ops →
      (pre.foldl step (new frameNumber)).accepted =
        (pre.foldl step (new frameNumber)).reported ++ (pre.foldl step (new frameNumber)).pending.toList := by
  refine ⟨Meets.imp (fun _ o h hc => (h.step o hc).2) (fun _ o h hc => (h.step o hc).1) ops _ (Linked.new _) ht, ?_⟩
  rintro pre ⟨rest, rfl⟩
  exact run_account (Linked.new frameNumber) ((meets_append pre rest _).mp ht).1

/-- A message, a frame that was encoded before it, and the frame that reports it. -/
def keyPress : List Op :=
  [.frame 1000 1005 1006, .message ⟨990, by decide⟩ 1010, .frame 1004 1014 1015, .frame 1014 1024 1025]

/-- The counter wraps in the middle. -/
theorem latency_reported_at_wrap :
    Meets step Timely (new 0xfffffffe) keyPress ∧
    (keyPress.foldl step (new 0xfffffffe)).accepted =
      (keyPress.foldl step (new 0xfffffffe)).reported ++ (keyPress.foldl step (new 0xfffffffe)).pending.toList := by
  have ht : Meets step Timely (new 0xfffffffe) keyPress :=
    ⟨fun _ => by decide, trivial, fun _ => by decide, fun _ => by decide, trivial⟩
  exact ⟨ht, (latency_reported_once 0xfffffffe keyPress ht).2 keyPress List.prefix_rfl⟩

/-- A frame whose side data has no start of the encoding, before the message. -/
def noEncodeStart : List Op :=
  [.frame 0 1700000000000 1700000000000, .message ⟨1700000000010, by decide⟩ 1700000000020]

/-- **An idle frame delays the report**: the first frame after the message has a positive render time, and carries
no client fields. -/
theorem idle_frame_delays_report :
    let t := noEncodeStart.foldl step (new 0)
    t.pending = some ⟨1700000000010, 1700000000020⟩ ∧
    t.expected 1700000000030 1700000000034 1700000000035 = some ⟨1700000000010, 1700000000020, 11⟩ ∧
    (t.client.insertFrame 1700000000030 1700000000034 1700000000035).2.client = none ∧
    ¬ t.Reports (.frame 1700000000030 1700000000034 1700000000035) := by
  intro t
  have hexpected : t.expected 1700000000030 1700000000034 1700000000035 =
      some ⟨1700000000010, 1700000000020, 11⟩ := by decide
  have hclient : (t.client.insertFrame 1700000000030 1700000000034 1700000000035).2.client = none := by decide
  refine ⟨by decide, hexpected, hclient, fun h => ?_⟩
  have hnone := hexpected.symm.trans (h.symm.trans hclient)
  exact absurd hnone (by simp)

end Telemetry
end CloudStreaming.Streamer.E2e
