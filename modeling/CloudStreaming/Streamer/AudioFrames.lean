import CloudStreaming.Lib.Bytes
import CloudStreaming.Lib.Ring
import CloudStreaming.Lib.Runs
import Mathlib.Algebra.Ring.Int.Defs

/-!
# The audio playback queue (`aic-vhal-client/audio-frame-generator.cpp:33-162`)

Messages of the vHAL fill three buffers in turn, `GenerateFramesForNext10Ms` empties them in turn; the queue has
the numbers of the full ones. The length of all buffers comes from the last `kOpen` of the peer.

| here | there |
| --- | --- |
| `Generator`       | the members of the class the callback and `GenerateFramesForNext10Ms` use, `m` dropped |
| `Packet`          | a `kData` message and what `ReadDataPacket` did: the bytes it wrote, and whether it returned them |
| `Access`          | not in the source: `extent` bytes from the start of a buffer of `size` bytes; the null pointer has size 0 |
| `mem`             | what the new buffers of a `kOpen` hold before anything is written to them |
| `State.accepted`, `delivered` | not in the source: the packets that are to be played and the frames handed out since the last `kOpen` |

Nothing ties the parts together but the peer: `kOpen` leaves the queue as it is (`open_keeps_queue`), a packet
before the first `kOpen` goes to the null pointer, a long one past the end, and a short one is delivered with the
end of the one before it (`packet_before_open`, `short_packet_stale`). `playback_fifo` is what holds in runs
without these. `audio_bytes_per_sample` belongs to Android and is a parameter. The sample rate, the command handler
and allocations that fail are left out.
-/

namespace CloudStreaming.Streamer.Playback

open Bytes Runs

def maxQueueSize : ℕ := 3

structure Generator where
  recBufLen10ms : Int
  bufferPool : ℕ → Option (List UInt8)
  bufferIdsQ : List ℕ
  bufferIdToPush : ℕ
  sockBuffer : Option (List UInt8)
  vhalStreamStopped : Bool
  bufferFull : Bool

structure Access where
  size : ℕ
  extent : ℕ
  deriving DecidableEq, Repr

/-- `ReadDataPacket` writes at most `data_size` bytes. -/
structure Packet where
  dataSize : UInt32
  bytes : List UInt8
  ok : Bool
  bounded : bytes.length ≤ dataSize.toNat

inductive Output where
  | nothing
  | frame (bytes : List UInt8)
  | silence
  deriving DecidableEq, Repr

/-- The bytes that may be accessed through a pointer. -/
def room (buffer : Option (List UInt8)) : ℕ := (buffer.map List.length).getD 0

/-- An `int` as the `size_t` of a `memcpy`. -/
def sizeT (n : Int) : ℕ := (n % 2 ^ 64).toNat

/-- `memcpy(dst, src, n)`, as far as the buffers reach. -/
def memcpy (dst src : Option (List UInt8)) (n : ℕ) : Option (List UInt8) :=
  dst.map fun d => (src.getD []).take n ++ d.drop n

namespace Generator

def init : Generator where
  recBufLen10ms := 1920
  bufferPool := fun _ => none
  bufferIdsQ := []
  bufferIdToPush := 0
  sockBuffer := none
  vhalStreamStopped := true
  bufferFull := false

/-- `frame_count * mChannelNumber * audio_bytes_per_sample(format)` as an `int` (`:39-41`). -/
def recBufLen (bytesPerSample : UInt32 → ℕ) (channelCount format frameCount : UInt32) : Int :=
  (UInt32.ofNat (frameCount.toNat * channelCount.toNat * bytesPerSample format)).toInt32.toInt

/-- `new uint8_t[n]`. -/
def alloc (mem : ℕ → UInt8) (n : Int) : List UInt8 := (List.range n.toNat).map mem

/-- `kOpen` (`:35-69`). -/
def onOpen (g : Generator) (len : Int) (mem : ℕ → ℕ → UInt8) : Generator :=
  { g with
    recBufLen10ms := len
    vhalStreamStopped := true
    bufferPool := fun i => if 0 < len ∧ i < maxQueueSize then some (alloc (mem i) len) else none
    sockBuffer := if 0 < len then some (alloc (mem maxQueueSize) len) else none }

/-- A packet that is read (`:82-101`): it is skipped while the queue is full. -/
def push (g : Generator) : Generator × List Access :=
  if g.bufferIdsQ.length = maxQueueSize then ({ g with bufferFull := true }, [])
  else
    let buffer := g.bufferPool g.bufferIdToPush
    let n := sizeT g.recBufLen10ms
    ({ g with
        bufferFull := false
        bufferPool := Function.update g.bufferPool g.bufferIdToPush (memcpy buffer g.sockBuffer n)
        bufferIdsQ := g.bufferIdsQ ++ [g.bufferIdToPush]
        bufferIdToPush := (g.bufferIdToPush + 1) % maxQueueSize },
      [⟨room buffer, n⟩, ⟨room g.sockBuffer, n⟩])

/-- `kData` (`:73-106`): a failed read ends it only where there is a buffer. -/
def onData (g : Generator) (p : Packet) : Generator × List Access :=
  if p.dataSize = 0 then (g, [])
  else
    let read : Access := ⟨room g.sockBuffer, p.bytes.length⟩
    let g := { g with sockBuffer := g.sockBuffer.map (overlay p.bytes) }
    if g.sockBuffer.isSome && !p.ok then (g, [read])
    else
      let r := g.push
      (r.1, read :: r.2)

/-- The rest of `GenerateFramesForNext10Ms` where no frame is delivered (`:157-161`). -/
def idle (g : Generator) (capacity : UInt32) : Generator × Output × List Access :=
  if g.vhalStreamStopped then (g, .silence, [⟨capacity.toNat, capacity.toNat⟩]) else (g, .nothing, [])

/-- `GenerateFramesForNext10Ms` (`:142`) with a buffer of `capacity` bytes. -/
def generateFramesForNext10Ms (g : Generator) (capacity : UInt32) : Generator × Output × List Access :=
  if capacity < UInt32.ofInt g.recBufLen10ms then (g, .nothing, [])
  else
    match g.bufferIdsQ with
    | [] => g.idle capacity
    | id :: ids =>
      if 0 < g.recBufLen10ms then
        let n := sizeT g.recBufLen10ms
        ({ g with bufferIdsQ := ids }, .frame (((g.bufferPool id).getD []).take n),
          [⟨capacity.toNat, n⟩, ⟨room (g.bufferPool id), n⟩])
      else g.idle capacity

end Generator

/-! ## Runs -/

inductive Op where
  | kOpen (channelCount format frameCount : UInt32) (mem : ℕ → ℕ → UInt8)
  | kClose
  | kData (p : Packet)
  | kStartstream
  | kStopstream
  | generate (capacity : UInt32)

structure State where
  gen : Generator
  accepted : List (List UInt8)
  delivered : List (List UInt8)

namespace State

def init : State := ⟨.init, [], []⟩

/-- How many packets wait. -/
def waiting (s : State) : ℕ := s.accepted.length - s.delivered.length

/-- The packet a message brings: one that was read is dropped only while three wait. -/
def brought (s : State) (p : Packet) : List (List UInt8) :=
  if p.dataSize ≠ 0 ∧ p.ok = true ∧ s.waiting ≠ maxQueueSize then [p.bytes] else []

variable (bytesPerSample : UInt32 → ℕ)

def step (s : State) : Op → State
  | .kOpen channelCount format frameCount mem =>
    ⟨s.gen.onOpen (Generator.recBufLen bytesPerSample channelCount format frameCount) mem, [], []⟩
  | .kClose => s
  | .kData p => { s with gen := (s.gen.onData p).1, accepted := s.accepted ++ s.brought p }
  | .kStartstream => { s with gen := { s.gen with vhalStreamStopped := false } }
  | .kStopstream => { s with gen := { s.gen with vhalStreamStopped := true } }
  | .generate capacity =>
    let r := s.gen.generateFramesForNext10Ms capacity
    { s with
      gen := r.1
      delivered := match r.2.1 with
        | .frame bytes => s.delivered ++ [bytes]
        | _ => s.delivered }

def accesses (s : State) : Op → List Access
  | .kData p => (s.gen.onData p).2
  | .generate capacity => (s.gen.generateFramesForNext10Ms capacity).2.2
  | _ => []

/-- What a call with a buffer of `capacity` bytes has to give: the oldest packet that waits, unless there is none
or it does not fit. -/
def Gives (s : State) (capacity : UInt32) : Output → Prop
  | .frame bytes => s.accepted[s.delivered.length]? = some bytes ∧ bytes.length ≤ capacity.toNat
  | .nothing | .silence => ∀ bytes, s.accepted[s.delivered.length]? = some bytes → capacity.toNat < bytes.length

/-- Every access is inside its buffer, and a call gives the packet whose turn it is. -/
structure Safe (s : State) (o : Op) : Prop where
  inside : ∀ a ∈ s.accesses o, a.extent ≤ a.size
  gives : ∀ capacity, o = .generate capacity → s.Gives capacity (s.gen.generateFramesForNext10Ms capacity).2.1

/-- What was delivered is the front of what was accepted, and the rest is in the queue. -/
structure Fifo (s : State) : Prop where
  inOrder : s.delivered <+: s.accepted
  rest : s.accepted.length = s.delivered.length + s.gen.bufferIdsQ.length

/-- A `kOpen` finds the queue empty; a packet comes to an open stream and is as long as its buffers (a read that
fails may have written less). -/
def WellFormed (s : State) : Op → Prop
  | .kOpen _ _ _ _ => s.gen.bufferIdsQ = []
  | .kData p => p.dataSize ≠ 0 → s.gen.sockBuffer ≠ none ∧ (p.bytes.length : Int) ≤ s.gen.recBufLen10ms ∧
      (p.ok = true → (p.bytes.length : Int) = s.gen.recBufLen10ms)
  | _ => True

/-! ## Sizes -/

theorem sizeT_eq {n : Int} (h0 : 0 ≤ n) (h1 : n < 2 ^ 31) : sizeT n = n.toNat := by
  rw [sizeT, Int.emod_eq_of_lt h0 (by omega)]

theorem ofInt_toNat {n : Int} (h0 : 0 ≤ n) (h1 : n < 2 ^ 31) : (UInt32.ofInt n).toNat = n.toNat := by
  rw [UInt32.ofInt, UInt32.toNat_ofNat', Int.emod_eq_of_lt h0 (by omega), Nat.mod_eq_of_lt (by omega)]

theorem recBufLen_lt (channelCount format frameCount : UInt32) :
    Generator.recBufLen bytesPerSample channelCount format frameCount < 2 ^ 31 := by
  exact Int32.toInt_lt _

theorem overlay_length {bytes buf : List UInt8} (h : bytes.length ≤ buf.length) :
    (overlay bytes buf).length = buf.length := by
  rw [overlay, List.length_append, List.length_drop]
  omega

theorem memcpy_whole {d c : List UInt8} {n : ℕ} (hd : d.length = n) (hc : c.length = n) :
    memcpy (some d) (some c) n = some c := by
  simp [memcpy, ← hd, List.take_of_length_le (Nat.le_of_eq (hc.trans hd.symm))]

/-! ## The queue as slots of a ring -/

/-- `pending` waits in the buffers from `h` on, and the buffers have the length of the stream. -/
structure Held (s : State) (h : ℕ) (pending : List (List UInt8)) : Prop where
  account : s.accepted = s.delivered ++ pending
  slots : s.gen.bufferIdsQ = (List.range pending.length).map (Ring.slot maxQueueSize h)
  head : h < maxQueueSize
  few : pending.length ≤ maxQueueSize
  next : s.gen.bufferIdToPush = Ring.slot maxQueueSize h pending.length
  contents : ∀ i b, pending[i]? = some b → s.gen.bufferPool (Ring.slot maxQueueSize h i) = some b
  opened : ∀ c, s.gen.sockBuffer = some c → 0 < s.gen.recBufLen10ms ∧ c.length = s.gen.recBufLen10ms.toNat ∧
    ∀ i, i < maxQueueSize → ∃ b, s.gen.bufferPool i = some b ∧ b.length = s.gen.recBufLen10ms.toNat
  closed : s.gen.sockBuffer = none → pending = []
  short : s.gen.recBufLen10ms < 2 ^ 31

namespace Held

variable {s : State} {h : ℕ} {pending : List (List UInt8)}

theorem start : Held init 0 [] where
  account := rfl
  slots := rfl
  head := by decide
  few := by decide
  next := rfl
  contents := by simp
  opened := by simp [init, Generator.init]
  closed := fun _ => rfl
  short := by decide

theorem ids_length (hs : Held s h pending) : s.gen.bufferIdsQ.length = pending.length := by
  rw [hs.slots, List.length_map, List.length_range]

theorem fifo (hs : Held s h pending) : Fifo s := by
  refine ⟨⟨pending, hs.account.symm⟩, ?_⟩
  rw [hs.account, List.length_append, hs.ids_length]

theorem waiting_eq (hs : Held s h pending) : s.waiting = pending.length := by
  rw [waiting, hs.account, List.length_append, Nat.add_sub_cancel_left]

/-- The packet whose turn it is. -/
theorem oldest (hs : Held s h pending) : s.accepted[s.delivered.length]? = pending[0]? := by
  rw [hs.account, List.getElem?_append_right (Nat.le_refl _), Nat.sub_self]

/-- The packets that wait are as long as the buffers. -/
theorem pending_length (hs : Held s h pending) {i : ℕ} {b : List UInt8} (hb : pending[i]? = some b) :
    0 < s.gen.recBufLen10ms ∧ b.length = s.gen.recBufLen10ms.toNat := by
  have hi : i < pending.length := (List.getElem?_eq_some_iff.mp hb).1
  have hsock : s.gen.sockBuffer ≠ none := fun hn => by
    rw [hs.closed hn] at hi
    exact absurd hi (Nat.not_lt_zero i)
  obtain ⟨c, hc⟩ := Option.ne_none_iff_exists'.mp hsock
  obtain ⟨hpos, -, hpool⟩ := hs.opened c hc
  have hfew := hs.few
  obtain ⟨d, hd, hdl⟩ := hpool _ (Ring.slot_lt hs.head (show i ≤ maxQueueSize by omega))
  obtain rfl : b = d := Option.some.inj ((hs.contents i b hb).symm.trans hd)
  exact ⟨hpos, hdl⟩

theorem onOpen (hs : Held s h pending) (len : Int) (mem : ℕ → ℕ → UInt8) (hlen : len < 2 ^ 31)
    (hempty : s.gen.bufferIdsQ = []) : Held ⟨s.gen.onOpen len mem, [], []⟩ s.gen.bufferIdToPush [] := by
  have hp : s.gen.bufferIdToPush < maxQueueSize := by
    rw [hs.next]
    exact Ring.slot_lt hs.head hs.few
  refine ⟨rfl, hempty, hp, by decide, (Ring.slot_zero hp).symm, by simp, fun c hc => ?_, fun _ => rfl, hlen⟩
  simp only [Generator.onOpen] at hc
  split at hc
  · rename_i hpos
    refine ⟨hpos, ?_, fun i hi => ⟨Generator.alloc (mem i) len, ?_, ?_⟩⟩
    · rw [← Option.some.inj hc]
      simp [Generator.alloc, Generator.onOpen]
    · exact if_pos ⟨hpos, hi⟩
    · simp [Generator.alloc, Generator.onOpen]
  · exact absurd hc (by simp)

/-- A read into the socket buffer leaves the rest. -/
theorem onRead (hs : Held s h pending) (bytes : List UInt8) (c : List UInt8) (hc : s.gen.sockBuffer = some c)
    (hlen : (bytes.length : Int) ≤ s.gen.recBufLen10ms) :
    Held { s with gen := { s.gen with sockBuffer := s.gen.sockBuffer.map (overlay bytes) } } h pending := by
  obtain ⟨hpos, hcl, hpool⟩ := hs.opened c hc
  refine ⟨hs.account, hs.slots, hs.head, hs.few, hs.next, hs.contents, fun d hd => ⟨hpos, ?_, hpool⟩, fun hn => ?_, hs.short⟩
  · simp only [hc, Option.map_some, Option.some.injEq] at hd
    rw [← hd, overlay_length (by omega)]
    exact hcl
  · simp [hc] at hn

/-- A push with the socket buffer full of the packet `c`, and a buffer free. -/
theorem push_free (hs : Held s h pending) {c d : List UInt8} (hc : s.gen.sockBuffer = some c)
    (hfree : pending.length < maxQueueSize)
    (hd : s.gen.bufferPool (Ring.slot maxQueueSize h pending.length) = some d)
    (hdl : d.length = s.gen.recBufLen10ms.toNat) :
    s.gen.push =
      ({ s.gen with
          bufferFull := false
          bufferPool := Function.update s.gen.bufferPool (Ring.slot maxQueueSize h pending.length) (some c)
          bufferIdsQ := s.gen.bufferIdsQ ++ [Ring.slot maxQueueSize h pending.length]
          bufferIdToPush := Ring.slot maxQueueSize h (pending.length + 1) },
        [⟨d.length, s.gen.recBufLen10ms.toNat⟩, ⟨c.length, s.gen.recBufLen10ms.toNat⟩]) := by
  obtain ⟨hpos, hcl, -⟩ := hs.opened c hc
  have hn : sizeT s.gen.recBufLen10ms = s.gen.recBufLen10ms.toNat := sizeT_eq (Int.le_of_lt hpos) hs.short
  have hslot : Ring.slot maxQueueSize h pending.length < maxQueueSize := Ring.slot_lt hs.head hs.few
  have hcopy : memcpy (some d) (some c) s.gen.recBufLen10ms.toNat = some c := memcpy_whole hdl hcl
  have hwrap : (Ring.slot maxQueueSize h pending.length + 1) % maxQueueSize =
      Ring.slot maxQueueSize h (pending.length + 1) := by
    rw [Ring.slot_succ hs.head hfree]
    split
    · rename_i hlast
      rw [hlast, Nat.mod_self]
    · exact Nat.mod_eq_of_lt (by omega)
  have hnot : ¬ s.gen.bufferIdsQ.length = maxQueueSize := by
    rw [hs.ids_length]
    omega
  simp only [Generator.push, if_neg hnot, hs.next, hd, hc, hn, hcopy, hwrap, room, Option.map_some, Option.getD_some]

/-- It keeps what waits, and the packet comes last. -/
theorem push (hs : Held s h pending) (c : List UInt8) (hc : s.gen.sockBuffer = some c)
    (hfree : pending.length < maxQueueSize) :
    Held { s with gen := s.gen.push.1, accepted := s.accepted ++ [c] } h (pending ++ [c]) ∧
      ∀ a ∈ s.gen.push.2, a.extent ≤ a.size := by
  obtain ⟨hpos, hcl, hpool⟩ := hs.opened c hc
  obtain ⟨d, hd, hdl⟩ := hpool _ (Ring.slot_lt hs.head hs.few)
  rw [hs.push_free hc hfree hd hdl]
  refine ⟨⟨?_, ?_, hs.head, ?_, ?_, fun i b hb => ?_, fun e he => ?_, fun hnone => ?_, hs.short⟩, ?_⟩
  · simp only [hs.account, List.append_assoc]
  · simp [hs.slots, List.range_succ]
  · rw [List.length_append]
    exact hfree
  · simp
  · -- the slot written to is none of those in use
    by_cases hi : i < pending.length
    · rw [List.getElem?_append_left hi] at hb
      have hne : Ring.slot maxQueueSize h i ≠ Ring.slot maxQueueSize h pending.length := fun he =>
        Nat.ne_of_lt hi (Ring.slot_inj (by omega) hfree he)
      exact (Function.update_of_ne hne ..).trans (hs.contents i b hb)
    · have hlen := (List.getElem?_eq_some_iff.mp hb).1
      have hi' : i = pending.length := by
        rw [List.length_append, List.length_singleton] at hlen
        omega
      subst hi'
      rw [List.getElem?_append_right (Nat.le_refl _), Nat.sub_self] at hb
      rw [← Option.some.inj hb]
      exact Function.update_self ..
  · obtain rfl : c = e := Option.some.inj (hc.symm.trans he)
    refine ⟨hpos, hcl, fun i hi => ?_⟩
    by_cases heq : i = Ring.slot maxQueueSize h pending.length
    · subst heq
      exact ⟨c, Function.update_self .., hcl⟩
    · obtain ⟨b, hb, hbl⟩ := hpool i hi
      exact ⟨b, (Function.update_of_ne heq ..).trans hb, hbl⟩
  · exact absurd (hc.symm.trans hnone) (by simp)
  · intro a ha
    simp only [List.mem_cons, List.not_mem_nil, or_false] at ha
    rcases ha with rfl | rfl
    · exact Nat.le_of_eq hdl.symm
    · exact Nat.le_of_eq hcl.symm

/-- A push that finds three packets. -/
theorem push_full (hs : Held s h pending) (hfull : pending.length = maxQueueSize) :
    s.gen.push = ({ s.gen with bufferFull := true }, []) := by
  rw [Generator.push, if_pos (hs.ids_length.trans hfull)]

theorem bufferFull (hs : Held s h pending) (full : Bool) :
    Held { s with gen := { s.gen with bufferFull := full } } h pending :=
  ⟨hs.account, hs.slots, hs.head, hs.few, hs.next, hs.contents, hs.opened, hs.closed, hs.short⟩

theorem stopped (hs : Held s h pending) (b : Bool) :
    Held { s with gen := { s.gen with vhalStreamStopped := b } } h pending :=
  ⟨hs.account, hs.slots, hs.head, hs.few, hs.next, hs.contents, hs.opened, hs.closed, hs.short⟩

/-- A packet: the next pending frames, and what the step promises. -/
theorem kData (hs : Held s h pending) (p : Packet) (hw : s.WellFormed (.kData p)) :
    (∃ pending', Held (s.step bytesPerSample (.kData p)) h pending') ∧ Safe s (.kData p) := by
  by_cases hzero : p.dataSize = 0
  · have hdata : s.gen.onData p = (s.gen, []) := if_pos hzero
    have hbrought : s.brought p = [] := if_neg fun h => h.1 hzero
    refine ⟨⟨pending, ?_⟩, ⟨?_, fun _ hq => nomatch hq⟩⟩
    · simpa [step, hdata, hbrought] using hs
    · simp [accesses, hdata]
  · obtain ⟨hsock, hle, hwhole⟩ := hw hzero
    obtain ⟨c, hc⟩ := Option.ne_none_iff_exists'.mp hsock
    obtain ⟨hpos, hcl, -⟩ := hs.opened c hc
    have hread := hs.onRead p.bytes c hc hle
    have hinside : (⟨room s.gen.sockBuffer, p.bytes.length⟩ : Access).extent ≤ room s.gen.sockBuffer := by
      simp only [room, hc, Option.map_some, Option.getD_some]
      omega
    cases hok : p.ok with
    | false =>
      have hdata : s.gen.onData p =
          ({ s.gen with sockBuffer := s.gen.sockBuffer.map (overlay p.bytes) },
            [⟨room s.gen.sockBuffer, p.bytes.length⟩]) := by
        simp [Generator.onData, hzero, hc, hok]
      have hbrought : s.brought p = [] := if_neg fun h => by simp [hok] at h
      refine ⟨⟨pending, ?_⟩, ⟨?_, fun _ hq => nomatch hq⟩⟩
      · simpa [step, hdata, hbrought] using hread
      · simp only [accesses, hdata, List.mem_singleton, forall_eq]
        exact hinside
    | true =>
      -- a packet of the right length replaces what was in the socket buffer
      have hover : overlay p.bytes c = p.bytes := overlay_eq (by have := hwhole hok; omega)
      let g : Generator := { s.gen with sockBuffer := s.gen.sockBuffer.map (overlay p.bytes) }
      have hg : g.sockBuffer = some p.bytes := by simp [g, hc, hover]
      have hdata : s.gen.onData p = (g.push.1, ⟨room s.gen.sockBuffer, p.bytes.length⟩ :: g.push.2) := by
        simp only [Generator.onData, if_neg hzero, hok, Bool.not_true, Bool.and_false]
        rfl
      by_cases hfull : pending.length = maxQueueSize
      · have hpush : g.push = ({ g with bufferFull := true }, []) := hread.push_full hfull
        have hbrought : s.brought p = [] := if_neg fun h => h.2.2 (hs.waiting_eq.trans hfull)
        refine ⟨⟨pending, ?_⟩, ⟨?_, fun _ hq => nomatch hq⟩⟩
        · simpa [step, hdata, hpush, hbrought, g] using hread.bufferFull true
        · simp only [accesses, hdata, hpush, List.mem_singleton, forall_eq]
          exact hinside
      · obtain ⟨hheld, hacc⟩ := hread.push p.bytes hg (Nat.lt_of_le_of_ne hs.few hfull)
        have hbrought : s.brought p = [p.bytes] := if_pos ⟨hzero, hok, fun hw => hfull (hs.waiting_eq.symm.trans hw)⟩
        refine ⟨⟨pending ++ [p.bytes], ?_⟩, ⟨?_, fun _ hq => nomatch hq⟩⟩
        · simp only [step, hdata, hbrought]
          exact hheld
        · simp only [accesses, hdata, List.mem_cons, forall_eq_or_imp]
          exact ⟨hinside, hacc⟩

/-- A call that gives no packet, where no packet that fits waits. -/
theorem generate_idle (hs : Held s h pending) (capacity : UInt32)
    (hidle : s.gen.generateFramesForNext10Ms capacity = (s.gen, .nothing, []) ∨
      s.gen.generateFramesForNext10Ms capacity = s.gen.idle capacity)
    (hnone : ∀ b, pending[0]? = some b → capacity.toNat < b.length) :
    Held (s.step bytesPerSample (.generate capacity)) h pending ∧ Safe s (.generate capacity) := by
  obtain ⟨hgen, hout, hinside⟩ : (s.gen.generateFramesForNext10Ms capacity).1 = s.gen ∧
      (∀ bytes, (s.gen.generateFramesForNext10Ms capacity).2.1 ≠ .frame bytes) ∧
      ∀ a ∈ (s.gen.generateFramesForNext10Ms capacity).2.2, a.extent ≤ a.size := by
    rcases hidle with hg | hg
    · simp [hg]
    · unfold Generator.idle at hg
      split at hg <;> simp [hg]
  constructor
  · have hstep : s.step bytesPerSample (.generate capacity) = s := by
      unfold step
      dsimp only
      rw [hgen]
      split
      · next bytes h => exact absurd h (hout bytes)
      · rfl
    rwa [hstep]
  · refine ⟨hinside, fun c hc => ?_⟩
    cases hc
    cases h : (s.gen.generateFramesForNext10Ms capacity).2.1 with
    | frame bytes => exact absurd h (hout bytes)
    | nothing | silence => rwa [Gives, hs.oldest]

/-- The ring as seen from the second frame. -/
theorem ids_cons {b : List UInt8} (hs : Held s h (b :: pending)) :
    s.gen.bufferIdsQ = h :: (List.range pending.length).map (Ring.slot maxQueueSize (Ring.slot maxQueueSize h 1)) := by
  have hfew := hs.few
  rw [List.length_cons] at hfew
  rw [hs.slots, List.length_cons, List.range_succ_eq_map, List.map_cons, List.map_map, Ring.slot_zero hs.head]
  congr 1
  refine List.map_congr_left fun i hi => ?_
  have hi' := List.mem_range.mp hi
  exact (Ring.slot_next hs.head (by omega)).symm

/-- A call with room for a frame delivers the oldest one. -/
theorem deliver {b : List UInt8} (hs : Held s h (b :: pending)) (capacity : UInt32)
    (hcap : ¬ capacity < UInt32.ofInt s.gen.recBufLen10ms) :
    Held (s.step bytesPerSample (.generate capacity)) (Ring.slot maxQueueSize h 1) pending ∧
      Safe s (.generate capacity) := by
  have hsock : s.gen.sockBuffer ≠ none := fun hn => absurd (hs.closed hn) (by simp)
  obtain ⟨c, hc⟩ := Option.ne_none_iff_exists'.mp hsock
  obtain ⟨hpos, -, hpool⟩ := hs.opened c hc
  have hn : sizeT s.gen.recBufLen10ms = s.gen.recBufLen10ms.toNat := sizeT_eq (Int.le_of_lt hpos) hs.short
  have hlen : s.gen.recBufLen10ms.toNat ≤ capacity.toNat := by
    have := UInt32.le_iff_toNat_le.mp (UInt32.not_lt.mp hcap)
    rwa [ofInt_toNat (Int.le_of_lt hpos) hs.short] at this
  have hbuf : s.gen.bufferPool h = some b := by
    have := hs.contents 0 b rfl
    rwa [Ring.slot_zero hs.head] at this
  obtain ⟨b', hb', hbl⟩ := hpool h hs.head
  obtain rfl : b = b' := Option.some.inj (hbuf.symm.trans hb')
  have hg : s.gen.generateFramesForNext10Ms capacity =
      ({ s.gen with
          bufferIdsQ := (List.range pending.length).map (Ring.slot maxQueueSize (Ring.slot maxQueueSize h 1)) },
        .frame b, [⟨capacity.toNat, s.gen.recBufLen10ms.toNat⟩, ⟨b.length, s.gen.recBufLen10ms.toNat⟩]) := by
    simp only [Generator.generateFramesForNext10Ms, if_neg hcap, hs.ids_cons, if_pos hpos, hn, hbuf, room,
      Option.map_some, Option.getD_some, ← hbl, List.take_length]
  have hfew := hs.few
  rw [List.length_cons] at hfew
  refine ⟨?_, ?_, fun c hc => ?_⟩
  · simp only [step, hg]
    refine ⟨?_, rfl, Ring.slot_lt hs.head (by decide), by omega, ?_, fun i d hd => ?_, hs.opened, ?_, hs.short⟩
    · simp [hs.account]
    · rw [Ring.slot_next hs.head (by omega)]
      exact hs.next
    · have hi : i < pending.length := (List.getElem?_eq_some_iff.mp hd).1
      rw [Ring.slot_next hs.head (by omega)]
      exact hs.contents (i + 1) d hd
    · exact fun hn => absurd hn hsock
  · intro a ha
    simp only [accesses, hg, List.mem_cons, List.not_mem_nil, or_false] at ha
    rcases ha with rfl | rfl
    · exact hlen
    · exact Nat.le_of_eq hbl.symm
  · cases hc
    rw [hg]
    exact ⟨hs.oldest, by omega⟩

theorem generate (hs : Held s h pending) (capacity : UInt32) :
    (∃ h' pending', Held (s.step bytesPerSample (.generate capacity)) h' pending') ∧
      Safe s (.generate capacity) := by
  by_cases hcap : capacity < UInt32.ofInt s.gen.recBufLen10ms
  · have hnone : ∀ b, pending[0]? = some b → capacity.toNat < b.length := by
      intro b hb
      obtain ⟨hpos, hbl⟩ := hs.pending_length hb
      have hlt := UInt32.lt_iff_toNat_lt.mp hcap
      rwa [ofInt_toNat (Int.le_of_lt hpos) hs.short, ← hbl] at hlt
    obtain ⟨h1, h2⟩ := hs.generate_idle bytesPerSample capacity (Or.inl (if_pos hcap)) hnone
    exact ⟨⟨h, pending, h1⟩, h2⟩
  · cases pending with
    | nil =>
      have hids : s.gen.bufferIdsQ = [] := hs.slots
      have hg : s.gen.generateFramesForNext10Ms capacity = s.gen.idle capacity := by
        simp only [Generator.generateFramesForNext10Ms, if_neg hcap, hids]
      obtain ⟨h1, h2⟩ := hs.generate_idle bytesPerSample capacity (Or.inr hg) (by simp)
      exact ⟨⟨h, [], h1⟩, h2⟩
    | cons b pending =>
      obtain ⟨h1, h2⟩ := hs.deliver bytesPerSample capacity hcap
      exact ⟨⟨_, pending, h1⟩, h2⟩

theorem step (hs : Held s h pending) (o : Op) (hw : s.WellFormed o) :
    (∃ h' pending', Held (s.step bytesPerSample o) h' pending') ∧ Safe s o := by
  cases o with
  | kOpen channelCount format frameCount mem =>
    refine ⟨⟨_, [], hs.onOpen _ mem (recBufLen_lt bytesPerSample channelCount format frameCount) hw⟩, ?_, fun _ hq => nomatch hq⟩
    simp [accesses]
  | kClose => exact ⟨⟨h, pending, hs⟩, by simp [accesses], fun _ hq => nomatch hq⟩
  | kData p =>
    obtain ⟨⟨pending', h1⟩, h2⟩ := hs.kData bytesPerSample p hw
    exact ⟨⟨h, pending', h1⟩, h2⟩
  | kStartstream => exact ⟨⟨h, pending, hs.stopped false⟩, by simp [accesses], fun _ hq => nomatch hq⟩
  | kStopstream => exact ⟨⟨h, pending, hs.stopped true⟩, by simp [accesses], fun _ hq => nomatch hq⟩
  | generate capacity => exact hs.generate bytesPerSample capacity

end Held

/-- **Playback is a queue**: in every run of messages and calls whose packets come to an open stream with the
length of its buffers, and whose `kOpen`s find nothing waiting, all accesses are inside the buffers, a call gives
the oldest of the packets brought since the last `kOpen` and not dropped with three waiting, and what was delivered
since then are these packets, in order and each once. -/
theorem playback_fifo (ops : List Op) (hw : Meets (step bytesPerSample) WellFormed init ops) :
    Meets (step bytesPerSample) Safe init ops ∧
    ∀ pre, pre <+: ops → Fifo (pre.foldl (step bytesPerSample) init) := by
  have hinv : ∀ s o, (∃ h pending, Held s h pending) → WellFormed s o →
      ∃ h pending, Held (s.step bytesPerSample o) h pending := by
    rintro s o ⟨h, pending, hs⟩ hc
    exact (hs.step bytesPerSample o hc).1
  constructor
  · refine Meets.imp hinv ?_ ops init ⟨0, [], Held.start⟩ hw
    rintro s o ⟨h, pending, hs⟩ hc
    exact (hs.step bytesPerSample o hc).2
  · rintro pre ⟨rest, rfl⟩
    obtain ⟨h, pending, hs⟩ := Meets.inv hinv pre init ⟨0, [], Held.start⟩ ((meets_append pre rest _).mp hw).1
    exact hs.fifo

/-- `audio_bytes_per_sample` of `AUDIO_FORMAT_PCM_16_BIT` (1) is 2. -/
def pcm16 : UInt32 → ℕ
  | 1 => 2
  | _ => 0

/-- Two frames of one channel: buffers of four bytes, which hold `fill` at first. -/
def openMono (fill : UInt8) : Op := .kOpen 1 1 2 fun _ _ => fill

def fourBytes : Packet := ⟨4, [1, 2, 3, 4], true, by decide⟩

def twoBytes : Packet := ⟨2, [9, 8], true, by decide⟩

theorem playback_one_packet :
    let ops := [openMono 0, .kData fourBytes, .generate 4]
    Meets (step pcm16) WellFormed init ops ∧ Meets (step pcm16) Safe init ops ∧
    Fifo (ops.foldl (step pcm16) init) ∧ (ops.foldl (step pcm16) init).delivered = [[1, 2, 3, 4]] := by
  intro ops
  have hw : Meets (step pcm16) WellFormed init ops :=
    ⟨rfl, fun _ => ⟨by decide, by decide, fun _ => by decide⟩, trivial, trivial⟩
  obtain ⟨hsafe, hfifo⟩ := playback_fifo pcm16 ops hw
  exact ⟨hw, hsafe, hfifo ops List.prefix_rfl, by decide⟩

/-- **A packet before the first `kOpen`** is read to the null pointer, and 1920 bytes are copied from there. -/
theorem packet_before_open :
    init.accesses (.kData fourBytes) = [⟨0, 4⟩, ⟨0, 1920⟩, ⟨0, 1920⟩] ∧ ¬ Safe init (.kData fourBytes) := by
  have ha : init.accesses (.kData fourBytes) = [⟨0, 4⟩, ⟨0, 1920⟩, ⟨0, 1920⟩] := by decide
  refine ⟨ha, fun h => ?_⟩
  have hread := h.inside ⟨0, 4⟩ (by rw [ha]; exact List.mem_cons_self)
  exact absurd hread (by decide)

/-- A packet that waits at a `kOpen` is delivered after it, as what the new buffer happens to hold. -/
theorem open_keeps_queue :
    let s := [openMono 0, .kData fourBytes, openMono 255, .generate 4].foldl (step pcm16) init
    s.accepted = [] ∧ s.delivered = [[255, 255, 255, 255]] ∧ ¬ Fifo s := by
  intro s
  have hs : s.accepted = [] ∧ s.delivered = [[255, 255, 255, 255]] := by decide
  refine ⟨hs.1, hs.2, fun h => ?_⟩
  have horder := h.inOrder
  rw [hs.1, hs.2] at horder
  exact absurd (List.prefix_nil.mp horder) (by simp)

/-- A packet shorter than the buffers is delivered with the end of the packet before it. -/
theorem short_packet_stale :
    let s := [openMono 0, .kData fourBytes, .kData twoBytes, .generate 4, .generate 4].foldl (step pcm16) init
    s.accepted = [[1, 2, 3, 4], [9, 8]] ∧ s.delivered = [[1, 2, 3, 4], [9, 8, 3, 4]] := by
  decide

end State
end CloudStreaming.Streamer.Playback
