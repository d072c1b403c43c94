import CloudStreaming.Lib.Memory
import CloudStreaming.Lib.Ring
import CloudStreaming.Lib.Runs

/-!
# The control queue (`streamer/core/controller.cpp:77-180`, `:530-553`)

A ring of fixed units in one `malloc`ed buffer. A unit is a `struct queuemsg` (`controller.h:39-42`: a
16-bit `msgsize`, then the message; the declared two bytes run on into the unit) and one unit stays free.
`ctrl_queue_write_msg` copies the message only `if(msgsize > 0 && msgsize <= 2)` (`:165`), the declared size
of `msg[2]` and not the size of the unit: a longer message is announced by its size and never copied.

| here | there |
| --- | --- |
| `CtrlQueue`     | `qbuffer`, `qhead`, `qtail`, `qsize`, `qunit` (`:55-56`); `none` is `NULL` |
| `init mem`      | `ctrl_queue_init`, with `mem` what `malloc` left in the buffer |
| `QueueOp.read`  | `ctrl_queue_read_msg`, then `ctrl_queue_release_msg` of that message |
| `readnext`      | one pass of `ctrl_server_readnext`; `none` is the wait for `wakeup` |
| `fifo`          | not in the source: a FIFO of byte strings with a capacity |
-/

namespace CloudStreaming.Streamer

open Memory Ring Runs

/-- `sizeof(struct queuemsg)`. -/
def queuemsgSize : Nat := 4

structure CtrlQueue where
  qbuffer : Option (Nat → UInt8)
  qhead : Nat
  qtail : Nat
  qsize : Nat
  qunit : Nat

/-- An `unsigned short` as stored: the low byte first, what does not fit is lost. -/
def u16le (n : Nat) : List UInt8 := [UInt8.ofNat n, UInt8.ofNat (n / 256)]

namespace CtrlQueue

/-- `ctrl_queue_init` (`:78`). -/
def init (mem : Nat → UInt8) (size maxunit : Nat) : CtrlQueue :=
  let qunit := maxunit + queuemsgSize
  { qbuffer := some mem, qhead := 0, qtail := 0, qsize := size - size % qunit, qunit := qunit }

/-- `((struct queuemsg *) (qbuffer + p))->msgsize`. -/
def msgsize (mem : Nat → UInt8) (p : Nat) : Nat := (mem p).toNat + 256 * (mem (p + 1)).toNat

/-- `ctrl_queue_read_msg` (`:101`): the offset of the oldest message. -/
def readMsg (q : CtrlQueue) : Option Nat :=
  match q.qbuffer with
  | none => none
  | some _ => if q.qtail = q.qhead then none else some q.qhead

/-- `ctrl_queue_release_msg` (`:121`); its argument only decides a warning. -/
def releaseMsg (q : CtrlQueue) : CtrlQueue :=
  match q.qbuffer with
  | none => q
  | some _ => if q.qhead = q.qtail then q else { q with qhead := advance q.qsize q.qunit q.qhead }

/-- `ctrl_queue_write_msg` (`:143`). -/
def writeMsg (q : CtrlQueue) (msg : List UInt8) : CtrlQueue × Nat :=
  if msg.length + queuemsgSize > q.qunit then (q, 0)
  else
    match q.qbuffer with
    | none => (q, 0)
    | some mem =>
      let nextpos := advance q.qsize q.qunit q.qtail
      if nextpos = q.qhead then (q, 0)
      else
        let mem := store mem q.qtail (u16le msg.length)
        let mem := if 0 < msg.length ∧ msg.length ≤ 2 then store mem (q.qtail + 2) msg else mem
        ({ q with qbuffer := some mem, qtail := nextpos }, msg.length)

/-- `ctrl_queue_clear` (`:175`). -/
def clear (q : CtrlQueue) : CtrlQueue := { q with qhead := 0, qtail := 0 }

/-- The message at `p` as a reader sees it: its size, and that many bytes behind the header. -/
def message (mem : Nat → UInt8) (p : Nat) : Int × List UInt8 := (msgsize mem p, load mem (p + 2) (msgsize mem p))

/-- A read: what `ctrl_queue_read_msg` returned, then the release. -/
def readRelease (q : CtrlQueue) : CtrlQueue × Option (Int × List UInt8) :=
  match q.qbuffer, q.readMsg with
  | some mem, some p => (q.releaseMsg, some (message mem p))
  | _, _ => (q, none)

/-- `ctrl_server_readnext` (`:531`) into a buffer of `msglen` bytes. -/
def readnext (q : CtrlQueue) (msglen : Nat) : CtrlQueue × Option (Int × List UInt8) :=
  match q.qbuffer, q.readMsg with
  | some mem, some p => (q.releaseMsg, some (if msgsize mem p > msglen then (-1, []) else message mem p))
  | _, _ => (q, none)

end CtrlQueue

inductive QueueOp where
  | write (msg : List UInt8)
  | read
  | readnext (msglen : Nat)
  | clear

inductive QueueResult where
  | wrote (n : Nat)
  | got (msg : Option (Int × List UInt8))
  | cleared
  deriving DecidableEq

def CtrlQueue.exec (q : CtrlQueue) : QueueOp → CtrlQueue × QueueResult
  | .write msg => ((q.writeMsg msg).1, .wrote (q.writeMsg msg).2)
  | .read => (q.readRelease.1, .got q.readRelease.2)
  | .readnext msglen => ((q.readnext msglen).1, .got (q.readnext msglen).2)
  | .clear => (q.clear, .cleared)

/-! ## The FIFO it should be -/

/-- A FIFO of at most `cap` byte strings. -/
def fifo (cap : Nat) (f : List (List UInt8)) : QueueOp → List (List UInt8) × QueueResult
  | .write msg => if f.length < cap then (f ++ [msg], .wrote msg.length) else (f, .wrote 0)
  | .read | .readnext _ =>
    match f with
    | [] => ([], .got none)
    | m :: f => (f, .got (some (m.length, m)))
  | .clear => ([], .cleared)

/-- Messages of 1 to `maxunit` bytes, and a reader whose buffer holds any of them. -/
def LegalOp (maxunit : Nat) : QueueOp → Prop
  | .write msg => 1 ≤ msg.length ∧ msg.length ≤ maxunit
  | .readnext msglen => maxunit ≤ msglen
  | _ => True

/-- The queue and the FIFO, side by side. -/
def bothStep (cap : Nat) (s : CtrlQueue × List (List UInt8)) (op : QueueOp) : CtrlQueue × List (List UInt8) :=
  ((s.1.exec op).1, (fifo cap s.2 op).1)

/-- The call returns what the FIFO returns, and a write to a full one changes nothing. -/
def Agrees (cap : Nat) (s : CtrlQueue × List (List UInt8)) (op : QueueOp) : Prop :=
  (s.1.exec op).2 = (fifo cap s.2 op).2 ∧ ∀ msg, op = .write msg → s.2.length = cap → (s.1.exec op).1 = s.1

/-- A read finds a message of at most two bytes. -/
def ReadsShort (f : List (List UInt8)) : QueueOp → Prop
  | .read | .readnext _ => ∀ m, f.head? = some m → m.length ≤ 2
  | _ => True

/-! ## What the buffer holds -/

/-- A unit at `p`: the size in the header and, for two bytes or less, the message behind it. -/
structure Cell (mem : Nat → UInt8) (p : Nat) (m : List UInt8) : Prop where
  header : load mem p 2 = u16le m.length
  payload : m.length ≤ 2 → load mem (p + 2) m.length = m

theorem Cell.congr {mem mem' : Nat → UInt8} {p : Nat} {m : List UInt8} (h : Cell mem p m)
    (he : ∀ i, i < 4 → mem' (p + i) = mem (p + i)) : Cell mem' p m := by
  refine ⟨?_, fun hm => ?_⟩
  · rw [← h.header]
    exact load_congr fun i hi => he i (by omega)
  · refine Eq.trans (load_congr fun i hi => ?_) (h.payload hm)
    rw [Nat.add_assoc]
    exact he (2 + i) (by omega)

theorem Cell.msgsize {mem : Nat → UInt8} {p : Nat} {m : List UInt8} (h : Cell mem p m) :
    CtrlQueue.msgsize mem p = m.length % 65536 := by
  have h2 := h.header
  simp only [load, u16le, List.range_succ, List.range_zero, List.nil_append, List.map_cons, List.map_nil,
    List.cons_append, List.cons.injEq, and_true, Nat.add_zero] at h2
  rw [CtrlQueue.msgsize, h2.1, h2.2, UInt8.toNat_ofNat', UInt8.toNat_ofNat']
  omega

/-- The unit `ctrl_queue_write_msg` leaves. -/
theorem cell_written (mem : Nat → UInt8) (p : Nat) (msg : List UInt8) :
    Cell (if 0 < msg.length ∧ msg.length ≤ 2 then store (store mem p (u16le msg.length)) (p + 2) msg
      else store mem p (u16le msg.length)) p msg := by
  have hh : load (store mem p (u16le msg.length)) p 2 = u16le msg.length := load_store_self mem p (u16le msg.length)
  split
  · exact ⟨by rw [load_store_disjoint (by omega)]; exact hh, fun _ => load_store_self _ (p + 2) msg⟩
  · rename_i hc
    refine ⟨hh, fun hm => ?_⟩
    have h0 : msg = [] := List.length_eq_zero_iff.mp (by omega)
    rw [h0]
    rfl

/-- The write stays in the first four bytes of its unit. -/
theorem written_outside (mem : Nat → UInt8) (p i : Nat) (msg : List UInt8) (hi : i < p ∨ p + 4 ≤ i) :
    (if 0 < msg.length ∧ msg.length ≤ 2 then store (store mem p (u16le msg.length)) (p + 2) msg
      else store mem p (u16le msg.length)) i = mem i := by
  have h2 : (u16le msg.length).length = 2 := rfl
  split
  · rw [store_outside (by omega), store_outside (by omega)]
  · rw [store_outside (by omega)]

/-- The queue holds the messages of `f` in `N` units of `u` bytes, starting at unit `h`; behind the first four bytes of
a unit there is still what `malloc` left. -/
structure Rep (N u : Nat) (mem₀ : Nat → UInt8) (q : CtrlQueue) (f : List (List UInt8)) (mem : Nat → UInt8) (h : Nat) :
    Prop where
  buffer : q.qbuffer = some mem
  unit : q.qunit = u
  size : q.qsize = N * u
  first : h < N
  head : q.qhead = slot N h 0 * u
  tail : q.qtail = slot N h f.length * u
  room : f.length < N
  cell : ∀ i (hi : i < f.length), Cell mem (slot N h i * u) f[i]
  small : ∀ m ∈ f, m.length + queuemsgSize ≤ u
  rest : ∀ k j, k < N → 4 ≤ j → j < u → mem (k * u + j) = mem₀ (k * u + j)

variable {N u h : Nat} {mem₀ mem : Nat → UInt8} {q : CtrlQueue} {f : List (List UInt8)}

/-- `qsize / qunit`, the units of a queue. -/
def units (size maxunit : Nat) : Nat :=
  (size - size % (maxunit + queuemsgSize)) / (maxunit + queuemsgSize)

theorem init_rep (mem : Nat → UInt8) (size maxunit : Nat) (hN : 2 ≤ units size maxunit) :
    Rep (units size maxunit) (maxunit + queuemsgSize) mem (CtrlQueue.init mem size maxunit) [] mem 0 := by
  have hs : size - size % (maxunit + queuemsgSize) = units size maxunit * (maxunit + queuemsgSize) :=
    (Nat.div_mul_cancel (Nat.dvd_sub_mod size)).symm
  have h0 : slot (units size maxunit) 0 0 = 0 := slot_zero (by omega)
  refine ⟨rfl, rfl, hs, by omega, ?_, ?_, by rw [List.length_nil]; omega, by simp, by simp, fun _ _ _ _ _ => rfl⟩
  · rw [h0, Nat.zero_mul]
    rfl
  · rw [List.length_nil, h0, Nat.zero_mul]
    rfl

theorem Rep.full_iff (r : Rep N u mem₀ q f mem h) (hu : 0 < u) :
    advance q.qsize q.qunit q.qtail = q.qhead ↔ f.length + 1 = N := by
  rw [r.size, r.unit, r.tail, r.head, advance_slot r.first r.room hu]
  constructor
  · intro he
    have hs := Nat.eq_of_mul_eq_mul_right hu he
    by_contra hne
    have hroom := r.room
    have := slot_inj (h := h) (show f.length + 1 < N by omega) (show 0 < N by omega) hs
    omega
  · intro he
    have hw : slot N h N = slot N h 0 := by
      have := r.first
      unfold slot
      split <;> split <;> omega
    rw [he, hw]

theorem Rep.empty_iff (r : Rep N u mem₀ q f mem h) (hu : 0 < u) : q.qtail = q.qhead ↔ f = [] := by
  rw [r.tail, r.head]
  constructor
  · intro he
    have hs := Nat.eq_of_mul_eq_mul_right hu he
    have := r.room
    exact List.length_eq_zero_iff.mp (slot_inj r.room (by omega) hs)
  · rintro rfl
    rfl

/-- A full queue refuses. -/
theorem Rep.write_full (r : Rep N u mem₀ q f mem h) (msg : List UInt8) (hm : msg.length + queuemsgSize ≤ u)
    (hf : f.length + 1 = N) : q.writeMsg msg = (q, 0) := by
  have hu : 0 < u := by unfold queuemsgSize at hm; omega
  have hg : ¬ msg.length + queuemsgSize > q.qunit := by rw [r.unit]; omega
  simp only [CtrlQueue.writeMsg, if_neg hg, r.buffer, (r.full_iff hu).mpr hf, if_true]

/-- A byte behind the first four of its unit is not among the first four of any. -/
theorem behind_header {k k' j u : Nat} (hj : 4 ≤ j) (hju : j < u) : k * u + j < k' * u ∨ k' * u + 4 ≤ k * u + j := by
  rcases Nat.lt_trichotomy k k' with hlt | rfl | hlt
  · have := Nat.mul_le_mul_right u hlt
    rw [Nat.succ_mul] at this
    omega
  · omega
  · have := Nat.mul_le_mul_right u hlt
    rw [Nat.succ_mul] at this
    omega

/-- A queue with room appends: the units in use do not overlap the new one. -/
theorem Rep.write_room (r : Rep N u mem₀ q f mem h) (msg : List UInt8) (hm : msg.length + queuemsgSize ≤ u)
    (hf : f.length + 1 < N) :
    (q.writeMsg msg).2 = msg.length ∧ ∃ mem', Rep N u mem₀ (q.writeMsg msg).1 (f ++ [msg]) mem' h := by
  have hu : 0 < u := by unfold queuemsgSize at hm; omega
  have hg : ¬ msg.length + queuemsgSize > q.qunit := by rw [r.unit]; omega
  have hn : ¬ advance q.qsize q.qunit q.qtail = q.qhead := by
    intro e
    have := (r.full_iff hu).mp e
    omega
  simp only [CtrlQueue.writeMsg, if_neg hg, r.buffer, if_neg hn]
  refine ⟨trivial, _, rfl, r.unit, r.size, r.first, r.head, ?_, ?_, ?_, ?_, ?_⟩
  · show advance q.qsize q.qunit q.qtail = _
    rw [r.size, r.unit, r.tail, advance_slot r.first r.room hu, List.length_append, List.length_singleton]
  · rw [List.length_append, List.length_singleton]
    exact hf
  · intro i hi
    rw [List.length_append, List.length_singleton] at hi
    rw [r.tail]
    by_cases he : i = f.length
    · subst he
      rw [List.getElem_concat_length rfl]
      exact cell_written mem _ msg
    · have hlt : i < f.length := by omega
      rw [List.getElem_append_left hlt]
      have hd := slot_disjoint (h := h) (u := u) (show i < N by omega) r.room he
      refine (r.cell i hlt).congr fun j hj => written_outside mem _ _ msg ?_
      unfold queuemsgSize at hm
      omega
  · intro m hmem
    rcases List.mem_append.mp hmem with hmem | hmem
    · exact r.small m hmem
    · rw [List.mem_singleton.mp hmem]
      exact hm
  · intro k j hk hj hju
    rw [r.tail, ← r.rest k j hk hj hju]
    exact written_outside mem _ _ msg (behind_header hj hju)

/-- A read of a non-empty queue: the oldest unit, as it is in the buffer. -/
theorem Rep.read {m : List UInt8} (r : Rep N u mem₀ q (m :: f) mem h) :
    q.readMsg = some (slot N h 0 * u) ∧ Rep N u mem₀ q.releaseMsg f mem (slot N h 1) := by
  have hm := r.small m (by simp)
  have hu : 0 < u := by unfold queuemsgSize at hm; omega
  have hne : ¬ q.qtail = q.qhead := fun e => by simpa using (r.empty_iff hu).mp e
  have hN : 1 < N := by have := r.room; simp only [List.length_cons] at this; omega
  have h1 : slot N h 1 < N := slot_lt r.first (by omega)
  refine ⟨?_, ?_⟩
  · rw [← r.head]
    simp only [CtrlQueue.readMsg, r.buffer, if_neg hne]
  · have hrel : q.releaseMsg = { q with qhead := advance q.qsize q.qunit q.qhead } := by
      simp only [CtrlQueue.releaseMsg, r.buffer, if_neg (Ne.symm hne)]
    have hroom := r.room
    simp only [List.length_cons] at hroom
    rw [hrel]
    refine ⟨r.buffer, r.unit, r.size, h1, ?_, ?_, by omega, ?_, fun x hx => r.small x (by simp [hx]), r.rest⟩
    · show advance q.qsize q.qunit q.qhead = _
      rw [r.size, r.unit, r.head, advance_slot r.first (by omega) hu, slot_zero h1]
    · show q.qtail = _
      rw [r.tail, slot_next r.first (by omega), List.length_cons]
    · intro i hi
      rw [slot_next r.first (by omega)]
      exact r.cell (i + 1) (by simpa using hi)

theorem Rep.clear (r : Rep N u mem₀ q f mem h) : Rep N u mem₀ q.clear [] mem 0 := by
  have h0 : slot N 0 0 = 0 := slot_zero (by have := r.first; omega)
  refine ⟨r.buffer, r.unit, r.size, by have := r.first; omega, ?_, ?_, by have := r.room; simp only [List.length_nil]; omega,
    by simp, by simp, r.rest⟩
  · rw [h0, Nat.zero_mul]
    rfl
  · rw [List.length_nil, h0, Nat.zero_mul]
    rfl

/-- What a read returns: the message as its unit is read. A legal reader's buffer is never too small. -/
theorem Rep.exec_read {m : List UInt8} (r : Rep N u mem₀ q (m :: f) mem h) :
    q.readRelease = (q.releaseMsg, some (CtrlQueue.message mem (slot N h 0 * u))) ∧
    ∀ msglen, u ≤ msglen + queuemsgSize →
      q.readnext msglen = (q.releaseMsg, some (CtrlQueue.message mem (slot N h 0 * u))) := by
  obtain ⟨hr, -⟩ := r.read
  refine ⟨?_, fun msglen hl => ?_⟩
  · simp only [CtrlQueue.readRelease, r.buffer, hr]
  · have hs : ¬ CtrlQueue.msgsize mem (slot N h 0 * u) > msglen := by
      have hc : Cell mem (slot N h 0 * u) m := r.cell 0 (by simp)
      have hm := r.small m (by simp)
      have := Nat.mod_le m.length 65536
      rw [hc.msgsize]
      omega
    simp only [CtrlQueue.readnext, r.buffer, hr, if_neg hs]

theorem Rep.exec_empty (r : Rep N u mem₀ q [] mem h) (hu : 0 < u) :
    q.readRelease = (q, none) ∧ ∀ msglen, q.readnext msglen = (q, none) := by
  have hr : q.readMsg = none := by simp only [CtrlQueue.readMsg, r.buffer, (r.empty_iff hu).mpr rfl, if_true]
  refine ⟨?_, fun msglen => ?_⟩
  · simp only [CtrlQueue.readRelease, r.buffer, hr]
  · simp only [CtrlQueue.readnext, r.buffer, hr]

theorem Cell.message {mem : Nat → UInt8} {p : Nat} {m : List UInt8} (h : Cell mem p m) (hm : m.length ≤ 2) :
    CtrlQueue.message mem p = ((m.length : Int), m) := by
  have hs : CtrlQueue.msgsize mem p = m.length := by rw [h.msgsize]; omega
  rw [CtrlQueue.message, hs, h.payload hm]

/-- Both kinds of read are one on the FIFO. -/
def isRead : QueueOp → Bool
  | .read | .readnext _ => true
  | _ => false

/-- A read, on both sides. -/
theorem Rep.exec_isRead (r : Rep N u mem₀ q f mem h) (hu : 0 < u) {maxunit : Nat} (hmu : u = maxunit + queuemsgSize)
    {op : QueueOp} (hop : LegalOp maxunit op) (hr : isRead op = true) (cap : Nat) :
    (f = [] ∧ q.exec op = (q, .got none) ∧ fifo cap f op = ([], .got none)) ∨
    ∃ m rest, f = m :: rest ∧ q.exec op = (q.releaseMsg, .got (some (CtrlQueue.message mem (slot N h 0 * u)))) ∧
      fifo cap f op = (rest, .got (some (m.length, m))) := by
  cases f with
  | nil =>
    obtain ⟨h1, h2⟩ := r.exec_empty hu
    refine Or.inl ⟨rfl, ?_⟩
    cases op with
    | read => exact ⟨by simp only [CtrlQueue.exec, h1], rfl⟩
    | readnext msglen => exact ⟨by simp only [CtrlQueue.exec, h2 msglen], rfl⟩
    | write msg => cases hr
    | clear => cases hr
  | cons m rest =>
    obtain ⟨h1, h2⟩ := r.exec_read
    refine Or.inr ⟨m, rest, rfl, ?_⟩
    cases op with
    | read => exact ⟨by simp only [CtrlQueue.exec, h1], rfl⟩
    | readnext msglen =>
      have hl : maxunit ≤ msglen := hop
      exact ⟨by simp only [CtrlQueue.exec, h2 msglen (by omega)], rfl⟩
    | write msg => cases hr
    | clear => cases hr

/-- The queue and the FIFO after one call, and what the call returned. -/
def Simulates (N u : Nat) (mem₀ : Nat → UInt8) (q : CtrlQueue) (f : List (List UInt8)) (op : QueueOp) : Prop :=
  (∃ mem' h', Rep N u mem₀ (q.exec op).1 (fifo (N - 1) f op).1 mem' h') ∧ (ReadsShort f op → Agrees (N - 1) (q, f) op)

theorem Rep.step_read (r : Rep N u mem₀ q f mem h) {maxunit : Nat} (hmu : u = maxunit + queuemsgSize) {op : QueueOp}
    (hop : LegalOp maxunit op) (hr : isRead op = true) : Simulates N u mem₀ q f op := by
  have hu : 0 < u := by unfold queuemsgSize at hmu; omega
  unfold Simulates
  rcases r.exec_isRead hu hmu hop hr (N - 1) with ⟨rfl, h1, h2⟩ | ⟨m, rest, rfl, h1, h2⟩
  · rw [h1, h2]
    refine ⟨⟨mem, h, r⟩, fun _ => ⟨by rw [h1, h2], fun msg e _ => ?_⟩⟩
    rw [h1]
  · rw [h1, h2]
    refine ⟨⟨mem, _, r.read.2⟩, fun hs => ⟨?_, fun msg e _ => ?_⟩⟩
    · have hshort : m.length ≤ 2 := by
        cases op with
        | read => exact hs m rfl
        | readnext msglen => exact hs m rfl
        | write msg => cases hr
        | clear => cases hr
      have hc : Cell mem (slot N h 0 * u) m := r.cell 0 (by simp)
      rw [h1, h2, hc.message hshort]
    · rw [e] at hr
      cases hr

theorem Rep.step_write (r : Rep N u mem₀ q f mem h) (msg : List UInt8) (hm : msg.length + queuemsgSize ≤ u) :
    Simulates N u mem₀ q f (.write msg) := by
  have hroom := r.room
  unfold Simulates
  by_cases hf : f.length + 1 = N
  · have hw := r.write_full msg hm hf
    have hcap : ¬ f.length < N - 1 := by omega
    simp only [CtrlQueue.exec, fifo, if_neg hcap, hw]
    refine ⟨⟨mem, h, r⟩, fun _ => ⟨?_, fun _ _ _ => ?_⟩⟩
    · simp only [CtrlQueue.exec, fifo, if_neg hcap, hw]
    · simp only [CtrlQueue.exec, hw]
  · obtain ⟨h2, mem', r'⟩ := r.write_room msg hm (by omega)
    have hcap : f.length < N - 1 := by omega
    simp only [CtrlQueue.exec, fifo, if_pos hcap]
    refine ⟨⟨mem', h, r'⟩, fun _ => ⟨?_, fun _ _ hl => ?_⟩⟩
    · simp only [CtrlQueue.exec, fifo, if_pos hcap, h2]
    · have hl' : f.length = N - 1 := hl
      omega

/-- **One call** keeps the representation, whatever the sizes, and agrees with the FIFO when it reads short. -/
theorem Rep.step (r : Rep N u mem₀ q f mem h) {maxunit : Nat} (hmu : u = maxunit + queuemsgSize) (op : QueueOp)
    (hop : LegalOp maxunit op) : Simulates N u mem₀ q f op := by
  cases op with
  | read => exact r.step_read hmu hop rfl
  | readnext msglen => exact r.step_read hmu hop rfl
  | write msg =>
    have h2 : msg.length ≤ maxunit := hop.2
    exact r.step_write msg (by omega)
  | clear =>
    refine ⟨⟨mem, 0, r.clear⟩, fun _ => ⟨rfl, fun msg e => ?_⟩⟩
    cases e

/-- The third byte of a longer message is what `malloc` left there, so some memory shows the difference. -/
theorem Rep.long_read {b : UInt8} {m : List UInt8} (r : Rep N u (fun _ => b) q (m :: f) mem h) {maxunit : Nat}
    (hmu : u = maxunit + queuemsgSize) {op : QueueOp} (hop : LegalOp maxunit op) (hr : isRead op = true)
    (hlen : 2 < m.length) (hb : m[2] ≠ b) (cap : Nat) : ¬ Agrees cap (q, m :: f) op := by
  have hu : 0 < u := by unfold queuemsgSize at hmu; omega
  rintro ⟨he, -⟩
  rcases r.exec_isRead hu hmu hop hr cap with ⟨hnil, -⟩ | ⟨m', rest, heq, h1, h2⟩
  · cases hnil
  · cases heq
    rw [h1, h2] at he
    have hmsg := Option.some.inj (QueueResult.got.inj he)
    simp only [CtrlQueue.message, Prod.mk.injEq, Int.natCast_inj] at hmsg
    obtain ⟨hs, hbytes⟩ := hmsg
    rw [hs] at hbytes
    have h2 : m[2]? = some (mem (slot N h 0 * u + 2 + 2)) := by
      rw [← hbytes]
      simp [load, hlen]
    have hm := r.small m (by simp)
    unfold queuemsgSize at hm
    have hrest := r.rest (slot N h 0) 4 (slot_lt r.first (by omega)) (le_refl 4) (by omega)
    rw [List.getElem?_eq_getElem hlen, Option.some.injEq, Nat.add_assoc, hrest] at h2
    exact hb h2

/-- If the read agrees whatever the memory, the message is short: memory that differs from it in the third byte
would show. -/
theorem head_short {q : (Nat → UInt8) → CtrlQueue} {maxunit : Nat} {op : QueueOp} {cap : Nat}
    (hq : ∀ mem₀, ∃ mem h, Rep N (maxunit + queuemsgSize) mem₀ (q mem₀) f mem h) (hop : LegalOp maxunit op)
    (hr : isRead op = true) (hall : ∀ mem₀, Agrees cap (q mem₀, f) op) (m : List UInt8) (hm : f.head? = some m) :
    m.length ≤ 2 := by
  by_contra hlong
  have hlen : 2 < m.length := by omega
  obtain ⟨rest, rfl⟩ : ∃ rest, f = m :: rest := by
    cases f with
    | nil => cases hm
    | cons x rest => exact ⟨rest, by cases hm; rfl⟩
  obtain ⟨mem, h, r⟩ := hq (fun _ => m[2] + 1)
  have hb : m[2] ≠ m[2] + 1 := by
    intro e
    have h1 := congrArg UInt8.toNat e
    rw [UInt8.toNat_add, show (1 : UInt8).toNat = 1 from rfl] at h1
    have hlt := m[2].toNat_lt
    omega
  exact r.long_read rfl hop hr hlen hb cap (hall _)

/-- From any state that is represented for every memory. -/
theorem agrees_iff_readsShort (maxunit : Nat) (ops : List QueueOp) (q : (Nat → UInt8) → CtrlQueue) (f : List (List UInt8))
    (hops : ∀ op ∈ ops, LegalOp maxunit op)
    (hq : ∀ mem₀, ∃ mem h, Rep N (maxunit + queuemsgSize) mem₀ (q mem₀) f mem h) :
    (∀ mem₀, Meets (bothStep (N - 1)) (Agrees (N - 1)) (q mem₀, f) ops) ↔
      Meets (fun f op => (fifo (N - 1) f op).1) ReadsShort f ops := by
  induction ops generalizing q f with
  | nil => exact ⟨fun _ => trivial, fun _ _ => trivial⟩
  | cons op ops ih =>
    have hop := hops op (by simp)
    have hnext : ∀ mem₀, ∃ mem h,
        Rep N (maxunit + queuemsgSize) mem₀ ((q mem₀).exec op).1 (fifo (N - 1) f op).1 mem h := by
      intro mem₀
      obtain ⟨mem, h, r⟩ := hq mem₀
      exact (r.step rfl op hop).1
    have hrest := ih (fun mem₀ => ((q mem₀).exec op).1) (fifo (N - 1) f op).1 (fun o ho => hops o (by simp [ho])) hnext
    constructor
    · intro hall
      refine ⟨?_, hrest.mp fun mem₀ => (hall mem₀).2⟩
      have hshort := fun hr => head_short hq hop hr fun mem₀ => (hall mem₀).1
      cases op with
      | read => exact hshort rfl
      | readnext msglen => exact hshort rfl
      | write msg => trivial
      | clear => trivial
    · rintro ⟨hs, hm⟩ mem₀
      obtain ⟨mem, h, r⟩ := hq mem₀
      exact ⟨(r.step rfl op hop).2 hs, hrest.mpr hm mem₀⟩

/-- **The control queue is a FIFO exactly for short messages**: a run of legal calls returns what a FIFO with capacity
`qsize / qunit - 1` returns, whatever memory `malloc` hands out, if and only if every message that is read
has at most two bytes. -/
theorem queue_fifo_iff (size maxunit : Nat) (hN : 2 ≤ units size maxunit) (ops : List QueueOp)
    (hops : ∀ op ∈ ops, LegalOp maxunit op) :
    let cap := units size maxunit - 1
    (∀ mem, Meets (bothStep cap) (Agrees cap) (CtrlQueue.init mem size maxunit, []) ops) ↔
      Meets (fun f op => (fifo cap f op).1) ReadsShort [] ops :=
  agrees_iff_readsShort maxunit ops (fun mem => CtrlQueue.init mem size maxunit) [] hops
    fun mem => ⟨mem, 0, init_rep mem size maxunit hN⟩

/-- Four units of ten bytes: messages of two bytes come back, through a wrap of the ring. -/
theorem queue_fifo_short :
    Meets (bothStep 3) (Agrees 3) (CtrlQueue.init (fun _ => 0) 40 6, [])
      [.write [1, 2], .readnext 6, .write [3], .write [4, 5], .write [6], .read, .write [7], .clear] := by
  refine (queue_fifo_iff 40 6 (by decide) _ ?_).mpr ?_ (fun _ => 0)
  · simp [LegalOp]
  · simp [Meets, ReadsShort, fifo, units, queuemsgSize]

/-- A message of three bytes is announced and not copied: the reader gets three bytes of the memory. -/
theorem queue_loses_payload :
    (∀ op ∈ [QueueOp.write [1, 2, 3], QueueOp.read], LegalOp 6 op) ∧
      ¬ Meets (bothStep 3) (Agrees 3) (CtrlQueue.init (fun _ => 0) 40 6, []) [.write [1, 2, 3], .read] := by
  refine ⟨by simp [LegalOp], ?_⟩
  rintro ⟨-, ⟨he, -⟩, -⟩
  revert he
  decide

end CloudStreaming.Streamer
