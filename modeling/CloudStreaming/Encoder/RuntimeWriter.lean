import CloudStreaming.Lib.Runs
import Mathlib.Data.List.Forall2

/-!
# `IORuntimeWriter`: dumping the streams to files at run time (`encoder/shared/utils/IORuntimeWriter.cpp`)

Every call holds `_mutex` from its first line to its return, so calls do not interleave with each other; they interleave
with the two writer threads, which only meet them in the queues. `stopWriting` pushes a block without data, the sentinel,
and waits for the thread with the mutex held. A thread that reached its frame limit is gone by then: its queue keeps
what was submitted since, and the sentinel, until the next `startWriting` flushes it.

| here | there |
| --- | --- |
| `consume`       | one pass of the output thread's loop, with the packet it popped (`:239-262`) |
| `outputPop`     | that pass taken by the thread: a `pop` that does not block |
| `inputPop`      | one pass of the input thread's loop (`:171-200`), `ret` the result of its copy |
| `stopWriting`   | up to the first `join`; `join` is what follows the end of the joined thread |
| `files`         | the contents of the output files that were closed, oldest first |
| `Recording`     | not in the source: the writer, and the sessions its callers asked for |

A call made while `stopWriting` holds the mutex is one made after it. The `int` counters are `Nat`: an overflow of
`count_written`, after 2^31 packets, is undefined behaviour in the source. A file opens or not; a write to an open one
succeeds. File names, the codec and what the input thread copies are left out.
-/

namespace CloudStreaming.Encoder

open Runs

/-- `enum IORuntimeDataType` (`IORuntimeWriter.h:46`). -/
inductive IORuntimeDataType where
  | any
  | vaapiSurface
  | dmaBuffer
  | systemImage
  | systemBlock
  | systemBlockCopy
deriving DecidableEq

/-- `struct IORuntimeData`: `data` holds the `size` bytes behind `data`, or those copied to `blk`; `none` is null. -/
structure IORuntimeData where
  type : IORuntimeDataType
  data : Option (List UInt8)
  keyFrame : Bool
deriving DecidableEq

/-- `enum RUNTIME_WRITE_MODE`. -/
inductive RuntimeWriteMode where
  | input
  | output
  | inout
deriving DecidableEq

/-- `mode & INPUT`, `mode & OUTPUT`. -/
def RuntimeWriteMode.hasInput : RuntimeWriteMode → Bool
  | .output => false
  | _ => true

def RuntimeWriteMode.hasOutput : RuntimeWriteMode → Bool
  | .input => false
  | _ => true

/-- The data a thread ends on (`:175`, `:242`). -/
def IORuntimeData.isStop (x : IORuntimeData) : Bool := x.type == .systemBlock && x.data.isNone

/-- The empty data `stopWriting` pushes. -/
def emptyData : IORuntimeData := ⟨.systemBlock, none, false⟩

/-- What the output thread writes of a packet (`:252-256`). -/
def IORuntimeData.bytes (x : IORuntimeData) : List UInt8 :=
  match x.type with
  | .systemBlock | .systemBlockCopy => x.data.getD []
  | _ => []

/-- The output thread: its captured `frame_num`, its counter, what it wrote, and whether it has returned. -/
structure OutputThread where
  frameNum : Int
  countWritten : Nat
  written : List UInt8
  finished : Bool
deriving DecidableEq

structure InputThread where
  frameNum : Int
  countWritten : Nat
  finished : Bool
deriving DecidableEq

/-- Where a `stopWriting` waits: for the input thread, the output to be stopped after it or not, or for the output. -/
inductive Joining where
  | input (hasOutput : Bool)
  | output
deriving DecidableEq

/-- The writer; `mStatus` is its two bits. -/
structure IORuntimeWriter where
  inputWriting : Bool
  outputWriting : Bool
  inputQueue : List IORuntimeData
  outputQueue : List IORuntimeData
  inputThread : Option InputThread
  outputThread : Option OutputThread
  joining : Option Joining
  files : List (List UInt8)

namespace IORuntimeWriter

/-- The constructor. -/
def new : IORuntimeWriter := ⟨false, false, [], [], none, none, none, []⟩

/-! ## The threads -/

def consume (t : OutputThread) (x : IORuntimeData) : OutputThread :=
  if t.finished then t
  else if x.isStop then { t with finished := true }
  -- the 1st packet must contain key frame data
  else if t.countWritten = 0 ∧ x.keyFrame = false then t
  else
    let t :=
      if t.frameNum < 0 ∨ (t.countWritten : Int) < t.frameNum then
        { t with written := t.written ++ x.bytes, countWritten := t.countWritten + 1 }
      else t
    { t with finished := decide (0 < t.frameNum ∧ t.frameNum ≤ (t.countWritten : Int)) }

def outputPop (w : IORuntimeWriter) : IORuntimeWriter :=
  match w.outputThread, w.outputQueue with
  | some t, x :: queue =>
    if t.finished then w else { w with outputQueue := queue, outputThread := some (consume t x) }
  | _, _ => w

def inputPop (w : IORuntimeWriter) (ret : Int) : IORuntimeWriter :=
  match w.inputThread, w.inputQueue with
  | some t, x :: queue =>
    if t.finished then w
    else
      let t :=
        if x.isStop then { t with finished := true }
        else if ret < 0 ∨ t.frameNum ≤ 0 then t
        else { t with countWritten := t.countWritten + 1, finished := decide (t.frameNum ≤ (t.countWritten + 1 : Nat)) }
      { w with inputQueue := queue, inputThread := some t }
  | _, _ => w

/-! ## The calls -/

/-- The output part of `startWriting` (`:211-269`), `good` telling whether the file opened. -/
def startOutput (w : IORuntimeWriter) (frameNum : Int) (good : Bool) : IORuntimeWriter × Int :=
  if !good then (w, -1)
  else
    ({ w with
        outputQueue := []
        outputThread := some ⟨frameNum, 0, [], false⟩
        outputWriting := true }, 0)

def startInput (w : IORuntimeWriter) (frameNum : Int) (good : Bool) : IORuntimeWriter × Int :=
  if !good then (w, -1)
  else ({ w with inputQueue := [], inputThread := some ⟨frameNum, 0, false⟩, inputWriting := true }, 0)

/-- `startWriting` (`:132`). A stream that is being written already is left alone. -/
def startWriting (w : IORuntimeWriter) (mode : RuntimeWriteMode) (frameNum : Int) (inputGood outputGood : Bool) :
    IORuntimeWriter × Int :=
  if w.inputWriting && w.outputWriting then (w, 0)
  else
    let r := if !w.inputWriting && mode.hasInput then w.startInput frameNum inputGood else (w, 0)
    if r.2 < 0 then r
    else if !r.1.outputWriting && mode.hasOutput then r.1.startOutput frameNum outputGood
    else r

/-- The output part of `stopWriting` (`:297-309`). -/
def stopOutput (w : IORuntimeWriter) (hasOutput : Bool) : IORuntimeWriter :=
  if hasOutput && w.outputWriting then { w with outputQueue := w.outputQueue ++ [emptyData], joining := some .output }
  else { w with joining := none }

/-- `stopWriting` (`:274`). -/
def stopWriting (w : IORuntimeWriter) (mode : RuntimeWriteMode) : IORuntimeWriter :=
  if !w.inputWriting && !w.outputWriting then w
  else if mode.hasInput && w.inputWriting then
    { w with inputQueue := w.inputQueue ++ [emptyData], joining := some (.input mode.hasOutput) }
  else w.stopOutput mode.hasOutput

/-- The rest of `stopWriting`, when the thread it waits for has returned. -/
def join (w : IORuntimeWriter) : IORuntimeWriter :=
  match w.joining with
  | none => w
  | some (.input hasOutput) =>
    match w.inputThread with
    | some t => if t.finished then { w with inputThread := none, inputWriting := false }.stopOutput hasOutput else w
    | none => w
  | some .output =>
    match w.outputThread with
    | some t =>
      if t.finished then
        { w with
          outputThread := none
          outputWriting := false
          joining := none
          files := w.files ++ [t.written] }
      else w
    | none => w

/-- `submitRuntimeData` (`:330`); both modes at once are refused. -/
def submitRuntimeData (w : IORuntimeWriter) (mode : RuntimeWriteMode) (data : IORuntimeData) : IORuntimeWriter :=
  match mode with
  | .inout => w
  | .input => if w.inputWriting then { w with inputQueue := w.inputQueue ++ [data] } else w
  | .output => if w.outputWriting then { w with outputQueue := w.outputQueue ++ [data] } else w

inductive Op where
  | startWriting (mode : RuntimeWriteMode) (frameNum : Int) (inputGood outputGood : Bool)
  | submitRuntimeData (mode : RuntimeWriteMode) (data : IORuntimeData)
  | stopWriting (mode : RuntimeWriteMode)
  | join
  | inputPop (ret : Int)
  | outputPop

/-- A call takes the mutex; `join` and the threads do not. -/
def Op.isCall : Op → Bool
  | .startWriting _ _ _ _ | .submitRuntimeData _ _ | .stopWriting _ => true
  | .join | .inputPop _ | .outputPop => false

def act (w : IORuntimeWriter) : Op → IORuntimeWriter
  | .startWriting mode n inputGood outputGood => (w.startWriting mode n inputGood outputGood).1
  | .submitRuntimeData mode data => w.submitRuntimeData mode data
  | .stopWriting mode => w.stopWriting mode
  | .join => w.join
  | .inputPop ret => w.inputPop ret
  | .outputPop => w.outputPop

/-! ## What one session writes -/

/-- The packets left of the limit after `written` of them; all when the limit is negative. -/
def limited (frameNum : Int) (written : Nat) (xs : List IORuntimeData) : List IORuntimeData :=
  if frameNum < 0 then xs else xs.take (frameNum.toNat - written)

/-- The content a session should have: from its first key frame on, up to the limit. -/
def dump (frameNum : Int) (session : List IORuntimeData) : List UInt8 :=
  (limited frameNum 0 (session.dropWhile fun x => !x.keyFrame)).flatMap IORuntimeData.bytes

/-- The thread returned if and only if it wrote all it was asked for. -/
def AtLimit (t : OutputThread) : Prop :=
  t.finished = true ↔ 0 < t.frameNum ∧ t.frameNum ≤ (t.countWritten : Int)

theorem atLimit_mk (n : Int) (c : Nat) (bytes : List UInt8) : AtLimit ⟨n, c, bytes, decide (0 < n ∧ n ≤ (c : Int))⟩ :=
  decide_eq_true_iff

theorem foldl_consume_finished : ∀ (xs : List IORuntimeData) {t : OutputThread}, t.finished = true → xs.foldl consume t = t
  | [], _, _ => rfl
  | x :: xs, t, h => by
    have hx : consume t x = t := by simp [consume, h]
    rw [List.foldl_cons, hx, foldl_consume_finished xs h]

/-- A packet that is written: the gate is open and the limit not reached. -/
theorem consume_write {t : OutputThread} {x : IORuntimeData} (hf : t.finished = false) (hx : x.isStop = false)
    (hk : 0 < t.countWritten ∨ x.keyFrame = true) (hn : t.frameNum < 0 ∨ (t.countWritten : Int) < t.frameNum) :
    consume t x =
      { frameNum := t.frameNum
        countWritten := t.countWritten + 1
        written := t.written ++ x.bytes
        finished := decide (0 < t.frameNum ∧ t.frameNum ≤ ((t.countWritten + 1 : Nat) : Int)) } := by
  have hgate : ¬ (t.countWritten = 0 ∧ x.keyFrame = false) := by
    rintro ⟨h0, hkf⟩
    rcases hk with hk | hk
    · omega
    · rw [hkf] at hk
      cases hk
  simp only [consume, hf, hx, Bool.false_eq_true, if_false, if_neg hgate, if_pos hn]

theorem limited_cons {n : Int} {c : Nat} (h : n < 0 ∨ (c : Int) < n) (x : IORuntimeData) (xs : List IORuntimeData) :
    limited n c (x :: xs) = x :: limited n (c + 1) xs := by
  unfold limited
  by_cases hn : n < 0
  · rw [if_pos hn, if_pos hn]
  · have hsucc : n.toNat - c = n.toNat - (c + 1) + 1 := by omega
    rw [if_neg hn, if_neg hn, hsucc, List.take_succ_cons]

/-- Once a packet is written every further one is, up to the limit. -/
theorem foldl_consume_started : ∀ (xs : List IORuntimeData) (t : OutputThread), (∀ x ∈ xs, x.isStop = false) →
    AtLimit t → 0 < t.countWritten → t.frameNum ≠ 0 →
    (xs.foldl consume t).written = t.written ++ (limited t.frameNum t.countWritten xs).flatMap IORuntimeData.bytes
  | [], t, _, _, _, _ => by simp [limited]
  | x :: xs, t, hs, hl, hc, hn => by
    have hx : x.isStop = false := hs x List.mem_cons_self
    have hxs : ∀ y ∈ xs, y.isStop = false := fun y hy => hs y (List.mem_cons_of_mem x hy)
    cases hf : t.finished with
    | true =>
      have hle := hl.mp hf
      have hzero : t.frameNum.toNat - t.countWritten = 0 := by omega
      rw [foldl_consume_finished _ hf]
      simp [limited, hzero, show ¬ t.frameNum < 0 by omega]
    | false =>
      have hleft : t.frameNum < 0 ∨ (t.countWritten : Int) < t.frameNum := by
        have hne : ¬ (0 < t.frameNum ∧ t.frameNum ≤ (t.countWritten : Int)) := by
          intro h
          rw [hl.mpr h] at hf
          cases hf
        omega
      rw [List.foldl_cons, consume_write hf hx (Or.inl hc) hleft,
        foldl_consume_started xs _ hxs (atLimit_mk _ _ _) (Nat.succ_pos _) hn, limited_cons hleft]
      simp

/-- A limit of 0: the thread waits for the sentinel and writes nothing. -/
theorem foldl_consume_zero : ∀ (xs : List IORuntimeData), (∀ x ∈ xs, x.isStop = false) →
    xs.foldl consume ⟨0, 0, [], false⟩ = ⟨0, 0, [], false⟩
  | [], _ => rfl
  | x :: xs, hs => by
    have hx : x.isStop = false := hs x List.mem_cons_self
    have hstep : consume ⟨0, 0, [], false⟩ x = ⟨0, 0, [], false⟩ := by simp [consume, hx]
    rw [List.foldl_cons, hstep, foldl_consume_zero xs fun y hy => hs y (List.mem_cons_of_mem x hy)]

/-- **The output thread on a whole session** writes its dump. -/
theorem foldl_consume_fresh (n : Int) : ∀ (xs : List IORuntimeData), (∀ x ∈ xs, x.isStop = false) →
    (xs.foldl consume ⟨n, 0, [], false⟩).written = dump n xs
  | [], _ => by simp [dump, limited]
  | x :: xs, hs => by
    have hx : x.isStop = false := hs x List.mem_cons_self
    have hxs : ∀ y ∈ xs, y.isStop = false := fun y hy => hs y (List.mem_cons_of_mem x hy)
    by_cases hn : n = 0
    · subst hn
      rw [foldl_consume_zero _ hs]
      simp [dump, limited]
    cases hk : x.keyFrame with
    | false =>
      have hstep : consume ⟨n, 0, [], false⟩ x = ⟨n, 0, [], false⟩ := by simp [consume, hx, hk]
      rw [List.foldl_cons, hstep, foldl_consume_fresh n xs hxs]
      simp [dump, hk]
    | true =>
      have hdrop : (x :: xs).dropWhile (fun x => !x.keyFrame) = x :: xs := by simp [hk]
      have hleft : n < 0 ∨ ((0 : Nat) : Int) < n := by omega
      rw [List.foldl_cons, consume_write rfl hx (Or.inr hk) hleft,
        foldl_consume_started xs _ hxs (atLimit_mk _ _ _) (Nat.succ_pos _) hn, dump, hdrop, limited_cons hleft]
      simp

/-! ## What is asked for -/

/-- The limit of a successful start, and the packets submitted to the output since. -/
structure Session where
  frameNum : Int
  packets : List IORuntimeData
deriving DecidableEq

def Session.submit (x : Session) (data : IORuntimeData) : Session := { x with packets := x.packets ++ [data] }

/-- The session that runs, and those that were stopped, oldest first. -/
structure Recording where
  writer : IORuntimeWriter
  running : Option Session
  stopped : List Session

namespace Recording

def new : Recording := ⟨.new, none, []⟩

/-- A start that succeeds begins a session unless one runs; a stop of the output ends it. -/
def runningAfter (s : Recording) : Op → Option Session
  | .startWriting mode n inputGood outputGood =>
    if s.running.isNone && mode.hasOutput && (s.writer.startWriting mode n inputGood outputGood).2 == 0 then some ⟨n, []⟩
    else s.running
  | .submitRuntimeData mode data => if mode = .output then s.running.map (·.submit data) else s.running
  | .stopWriting mode => if mode.hasOutput then none else s.running
  | _ => s.running

def stoppedAfter (s : Recording) : Op → List Session
  | .stopWriting mode => if mode.hasOutput then s.stopped ++ s.running.toList else s.stopped
  | _ => s.stopped

/-- A call waits for the mutex, which a `stopWriting` holds while it joins a thread. -/
def step (s : Recording) (o : Op) : Recording :=
  if s.writer.joining.isSome && o.isCall then s else ⟨s.writer.act o, s.runningAfter o, s.stoppedAfter o⟩

end Recording

/-- The file of a session whose packets all have data. -/
def DumpOf (file : List UInt8) (x : Session) : Prop :=
  (∀ p ∈ x.packets, p.isStop = false) → file = dump x.frameNum x.packets

/-! ## The invariant -/

/-- The sentinel is in the output queue, or was taken from it. -/
def sentinel (w : IORuntimeWriter) : List IORuntimeData := if w.joining = some .output then [emptyData] else []

/-- The thread has consumed a first part of the session, and the sentinel after it; the queue holds the rest. -/
structure Writing (w : IORuntimeWriter) (x : Session) : Prop where
  writing : w.outputWriting = true
  thread : ∃ consumed, consumed ++ w.outputQueue = x.packets ++ w.sentinel ∧
    w.outputThread = some (consumed.foldl consume ⟨x.frameNum, 0, [], false⟩)

structure Idle (w : IORuntimeWriter) : Prop where
  writing : w.outputWriting = false
  thread : w.outputThread = none
  joining : w.joining ≠ some .output

/-- The session that runs is being written, or the last one stopped still is, or nothing is. -/
inductive Recorded (s : Recording) : Prop
  | running (x : Session) (hr : s.running = some x) (hw : s.writer.Writing x)
      (hj : s.writer.joining = none ∨ s.writer.joining = some (.input false))
      (hf : List.Forall₂ DumpOf s.writer.files s.stopped)
  | stopping (before : List Session) (x : Session) (hr : s.running = none) (hs : s.stopped = before ++ [x])
      (hw : s.writer.Writing x) (hj : s.writer.joining = some .output ∨ s.writer.joining = some (.input true))
      (hf : List.Forall₂ DumpOf s.writer.files before)
  | idle (hr : s.running = none) (hw : s.writer.Idle) (hf : List.Forall₂ DumpOf s.writer.files s.stopped)

/-- The output side. -/
structure SameOutput (v w : IORuntimeWriter) : Prop where
  writing : w.outputWriting = v.outputWriting
  thread : w.outputThread = v.outputThread
  queue : w.outputQueue = v.outputQueue
  joining : w.joining = v.joining
  files : w.files = v.files

theorem SameOutput.refl (w : IORuntimeWriter) : SameOutput w w := ⟨rfl, rfl, rfl, rfl, rfl⟩

section
variable {v w : IORuntimeWriter} {s : Recording} {x : Session}

theorem Writing.frame (h : v.Writing x) (h1 : w.outputWriting = v.outputWriting) (h2 : w.outputThread = v.outputThread)
    (h3 : w.outputQueue = v.outputQueue) (h4 : w.joining = some .output ↔ v.joining = some .output) : w.Writing x := by
  obtain ⟨consumed, hc, ht⟩ := h.thread
  have hs : w.sentinel = v.sentinel := by simp only [sentinel, h4]
  exact ⟨h1.trans h.writing, consumed, by rw [h3, hs]; exact hc, h2.trans ht⟩

theorem Idle.frame (h : v.Idle) (h1 : w.outputWriting = v.outputWriting) (h2 : w.outputThread = v.outputThread)
    (h3 : w.joining ≠ some .output) : w.Idle :=
  ⟨h1.trans h.writing, h2.trans h.thread, h3⟩

/-- The invariant reads the output side. -/
theorem Recorded.frame (h : Recorded s) (hw : SameOutput s.writer w) : Recorded { s with writer := w } := by
  have hsame : w.joining = some .output ↔ s.writer.joining = some .output := by rw [hw.joining]
  cases h with
  | running x hr hx hj hf =>
    refine .running x hr (hx.frame hw.writing hw.thread hw.queue hsame) ?_ ?_
    · rwa [hw.joining]
    · rwa [hw.files]
  | stopping before x hr hs hx hj hf =>
    refine .stopping before x hr hs (hx.frame hw.writing hw.thread hw.queue hsame) ?_ ?_
    · rwa [hw.joining]
    · rwa [hw.files]
  | idle hr hx hf =>
    refine .idle hr (hx.frame hw.writing hw.thread (mt hsame.mp hx.joining)) ?_
    rwa [hw.files]

/-! ### The threads -/

theorem inputPop_same (w : IORuntimeWriter) (ret : Int) : SameOutput w (w.inputPop ret) := by
  unfold inputPop
  split
  · split
    · exact .refl w
    · exact ⟨rfl, rfl, rfl, rfl, rfl⟩
  · exact .refl w

theorem outputPop_joining (w : IORuntimeWriter) : w.outputPop.joining = w.joining ∧ w.outputPop.files = w.files := by
  unfold outputPop
  split
  · split <;> exact ⟨rfl, rfl⟩
  · exact ⟨rfl, rfl⟩

theorem Writing.outputPop (h : w.Writing x) : w.outputPop.Writing x := by
  obtain ⟨consumed, hc, ht⟩ := h.thread
  cases hq : w.outputQueue with
  | nil =>
    have hpop : w.outputPop = w := by simp [IORuntimeWriter.outputPop, ht, hq]
    rwa [hpop]
  | cons y queue =>
    cases hf : (consumed.foldl consume ⟨x.frameNum, 0, [], false⟩).finished with
    | true =>
      have hpop : w.outputPop = w := by simp [IORuntimeWriter.outputPop, ht, hq, hf]
      rwa [hpop]
    | false =>
      have hpop : w.outputPop = { w with
          outputQueue := queue
          outputThread := some (consume (consumed.foldl consume ⟨x.frameNum, 0, [], false⟩) y) } := by
        simp [IORuntimeWriter.outputPop, ht, hq, hf]
      rw [hpop]
      refine ⟨h.writing, consumed ++ [y], ?_, ?_⟩
      · rw [hq] at hc
        simpa [sentinel] using hc
      · rw [List.foldl_append]
        rfl

theorem Idle.outputPop (h : w.Idle) : w.outputPop = w := by simp [IORuntimeWriter.outputPop, h.thread]

theorem Recorded.outputPop (h : Recorded s) : Recorded { s with writer := s.writer.outputPop } := by
  obtain ⟨hjoining, hfiles⟩ := outputPop_joining s.writer
  cases h with
  | running x hr hx hj hf =>
    refine .running x hr hx.outputPop ?_ ?_
    · rwa [hjoining]
    · rwa [hfiles]
  | stopping before x hr hs hx hj hf =>
    refine .stopping before x hr hs hx.outputPop ?_ ?_
    · rwa [hjoining]
    · rwa [hfiles]
  | idle hr hx hf =>
    rw [hx.outputPop]
    exact .idle hr hx hf

/-! ### The calls -/

theorem startInput_same (w : IORuntimeWriter) (n : Int) (good : Bool) : SameOutput w (w.startInput n good).1 := by
  unfold startInput
  split
  · exact .refl w
  · exact ⟨rfl, rfl, rfl, rfl, rfl⟩

/-- The input is started first, which leaves the output side. -/
theorem startWriting_cases (w : IORuntimeWriter) (mode : RuntimeWriteMode) (n : Int) (inputGood outputGood : Bool) :
    SameOutput w (w.startWriting mode n inputGood outputGood).1 ∧
        (w.outputWriting = false → mode.hasOutput = true → (w.startWriting mode n inputGood outputGood).2 < 0) ∨
      w.outputWriting = false ∧ mode.hasOutput = true ∧ ∃ v, SameOutput w v ∧
        w.startWriting mode n inputGood outputGood = v.startOutput n outputGood := by
  unfold startWriting
  split
  · rename_i hboth
    refine .inl ⟨.refl w, fun ho => ?_⟩
    rw [ho, Bool.and_false] at hboth
    cases hboth
  · let r := if !w.inputWriting && mode.hasInput then w.startInput n inputGood else (w, 0)
    have hr : SameOutput w r.1 := by
      dsimp only [r]
      split
      · exact startInput_same w n inputGood
      · exact .refl w
    show SameOutput w (if r.2 < 0 then r
        else if !r.1.outputWriting && mode.hasOutput then r.1.startOutput n outputGood else r).1 ∧ _ ∨ _
    by_cases hneg : r.2 < 0
    · refine .inl ⟨by rw [if_pos hneg]; exact hr, fun _ _ => ?_⟩
      show (if r.2 < 0 then r else _).2 < 0
      rwa [if_pos hneg]
    · by_cases hstart : (!r.1.outputWriting && mode.hasOutput) = true
      · rw [Bool.and_eq_true, Bool.not_eq_true'] at hstart
        refine .inr ⟨hr.writing.symm.trans hstart.1, hstart.2, r.1, hr, ?_⟩
        show (if r.2 < 0 then r else _) = _
        rw [if_neg hneg, hstart.1, hstart.2]
        rfl
      · refine .inl ⟨by rw [if_neg hneg, if_neg hstart]; exact hr, fun ho hm => ?_⟩
        rw [hr.writing, ho, hm] at hstart
        exact absurd rfl hstart

/-- A call finds no stop that waits: a session is being written, or nothing is. -/
theorem Recorded.free (h : Recorded s) (hj : s.writer.joining = none) :
    List.Forall₂ DumpOf s.writer.files s.stopped ∧
      ((∃ x, s.running = some x ∧ s.writer.Writing x) ∨ (s.running = none ∧ s.writer.Idle)) := by
  cases h with
  | running x hr hx _ hf => exact ⟨hf, .inl ⟨x, hr, hx⟩⟩
  | stopping _ _ _ _ _ hwait _ => rcases hwait with hwait | hwait <;> rw [hj] at hwait <;> cases hwait
  | idle hr hx hf => exact ⟨hf, .inr ⟨hr, hx⟩⟩

theorem Recorded.startWriting (h : Recorded s) (hj : s.writer.joining = none) (mode : RuntimeWriteMode) (n : Int)
    (inputGood outputGood : Bool) : Recorded (s.step (.startWriting mode n inputGood outputGood)) := by
  have hstep : s.step (.startWriting mode n inputGood outputGood) =
      ⟨(s.writer.startWriting mode n inputGood outputGood).1, s.runningAfter (.startWriting mode n inputGood outputGood),
        s.stopped⟩ := by
    simp [Recording.step, hj, act, Recording.stoppedAfter]
  rw [hstep]
  obtain ⟨hf, hfree⟩ := h.free hj
  rcases startWriting_cases s.writer mode n inputGood outputGood with ⟨hsame, hfail⟩ | ⟨ho, hm, v, hv, heq⟩
  · -- the output side is as before, and no session begins
    have hrun : s.runningAfter (.startWriting mode n inputGood outputGood) = s.running := by
      refine if_neg fun hc => ?_
      simp only [Bool.and_eq_true, Option.isNone_iff_eq_none, beq_iff_eq] at hc
      obtain ⟨⟨hnone, hm⟩, hzero⟩ := hc
      have ho : s.writer.outputWriting = false := by
        rcases hfree with ⟨x, hr, -⟩ | ⟨-, hx⟩
        · rw [hr] at hnone
          cases hnone
        · exact hx.writing
      have := hfail ho hm
      omega
    rw [hrun]
    exact h.frame hsame
  · have hidle : s.running = none := by
      rcases hfree with ⟨x, -, hx⟩ | ⟨hr, -⟩
      · rw [hx.writing] at ho
        cases ho
      · exact hr
    rw [Recording.runningAfter, heq, hm, hidle]
    cases outputGood with
    | false =>
      have hframe := h.frame hv
      rw [hidle] at hframe
      exact hframe
    | true =>
      have hsent : v.joining = none := hv.joining.trans hj
      refine .running ⟨n, []⟩ rfl ⟨rfl, [], ?_, rfl⟩ (.inl hsent) ?_
      · simp [startOutput, sentinel, hsent]
      · show List.Forall₂ DumpOf v.files s.stopped
        rwa [hv.files]

theorem Recorded.submitRuntimeData (h : Recorded s) (hj : s.writer.joining = none) (mode : RuntimeWriteMode)
    (data : IORuntimeData) : Recorded (s.step (.submitRuntimeData mode data)) := by
  have hstep : s.step (.submitRuntimeData mode data) =
      ⟨s.writer.submitRuntimeData mode data, s.runningAfter (.submitRuntimeData mode data), s.stopped⟩ := by
    simp [Recording.step, hj, act, Recording.stoppedAfter]
  rw [hstep]
  cases mode with
  | inout => exact h
  | input =>
    refine h.frame ?_
    unfold IORuntimeWriter.submitRuntimeData
    dsimp only
    split
    · exact ⟨rfl, rfl, rfl, rfl, rfl⟩
    · exact .refl _
  | output =>
    obtain ⟨hf, ⟨x, hr, hx⟩ | ⟨hr, hx⟩⟩ := h.free hj
    · have hsub : s.writer.submitRuntimeData .output data =
          { s.writer with outputQueue := s.writer.outputQueue ++ [data] } := if_pos hx.writing
      have hrun : s.runningAfter (.submitRuntimeData .output data) = some (x.submit data) := by
        simp [Recording.runningAfter, hr]
      rw [hsub, hrun]
      obtain ⟨consumed, hc, ht⟩ := hx.thread
      refine .running _ rfl ⟨hx.writing, consumed, ?_, ht⟩ (.inl hj) hf
      simp only [sentinel, hj, reduceCtorEq, if_false, List.append_nil] at hc ⊢
      rw [← List.append_assoc, hc]
      rfl
    · have hsub : s.writer.submitRuntimeData .output data = s.writer := if_neg (by simp [hx.writing])
      have hrun : s.runningAfter (.submitRuntimeData .output data) = none := by simp [Recording.runningAfter, hr]
      rw [hsub, hrun]
      exact .idle rfl hx hf

/-- The output part of a stop, with an output to stop. -/
theorem Writing.stopOutput (h : w.Writing x) (hj : w.joining ≠ some .output) : (w.stopOutput true).Writing x := by
  have hstop : w.stopOutput true =
      { w with outputQueue := w.outputQueue ++ [emptyData], joining := some .output } := by
    simp [IORuntimeWriter.stopOutput, h.writing]
  rw [hstop]
  obtain ⟨consumed, hc, ht⟩ := h.thread
  refine ⟨h.writing, consumed, ?_, ht⟩
  simp only [sentinel, hj, if_false, List.append_nil, if_true] at hc ⊢
  rw [← List.append_assoc, hc]

theorem Recorded.stopWriting (h : Recorded s) (hj : s.writer.joining = none) (mode : RuntimeWriteMode) :
    Recorded (s.step (.stopWriting mode)) := by
  have hstep : s.step (.stopWriting mode) =
      ⟨s.writer.stopWriting mode, s.runningAfter (.stopWriting mode), s.stoppedAfter (.stopWriting mode)⟩ := by
    simp [Recording.step, hj, act]
  rw [hstep]
  obtain ⟨hf, ⟨x, hr, hx⟩ | ⟨hr, hx⟩⟩ := h.free hj
  · have hnot : s.writer.joining ≠ some .output := by simp [hj]
    have hstop : s.writer.stopWriting mode =
        if mode.hasInput && s.writer.inputWriting then
          { s.writer with
            inputQueue := s.writer.inputQueue ++ [emptyData]
            joining := some (.input mode.hasOutput) }
        else s.writer.stopOutput mode.hasOutput := by
      simp [IORuntimeWriter.stopWriting, hx.writing]
    rw [hstop]
    simp only [Recording.runningAfter, Recording.stoppedAfter, hr, Option.toList_some]
    cases mode.hasOutput with
    | true =>
      split
      · exact .stopping s.stopped x rfl rfl (hx.frame rfl rfl rfl (by simp [hj])) (.inr rfl) hf
      · refine .stopping s.stopped x rfl rfl (hx.stopOutput hnot) (.inl ?_) ?_
        · simp [stopOutput, hx.writing]
        · simpa [stopOutput, hx.writing] using hf
    | false =>
      split
      · exact .running x rfl (hx.frame rfl rfl rfl (by simp [hj])) (.inr rfl) hf
      · exact .running x rfl (hx.frame rfl rfl rfl (by simp [stopOutput, hj])) (.inl rfl) hf
  · have hrun : s.runningAfter (.stopWriting mode) = none := by simp [Recording.runningAfter, hr]
    have hstopped : s.stoppedAfter (.stopWriting mode) = s.stopped := by simp [Recording.stoppedAfter, hr]
    rw [hrun, hstopped]
    unfold IORuntimeWriter.stopWriting
    split
    · exact .idle rfl hx hf
    · split
      · exact .idle rfl (hx.frame rfl rfl (by simp)) hf
      · have hstop : s.writer.stopOutput mode.hasOutput = { s.writer with joining := none } := by
          simp [stopOutput, hx.writing]
        rw [hstop]
        exact .idle rfl (hx.frame rfl rfl (by simp)) hf

/-- A thread that returned has written the session's dump, whatever it left in the queue. -/
theorem Writing.dump (h : w.Writing x) (hj : w.joining = some .output) {t : OutputThread} (ht : w.outputThread = some t)
    (hf : t.finished = true) : DumpOf t.written x := by
  intro hs
  obtain ⟨consumed, hc, ht'⟩ := h.thread
  obtain rfl : t = consumed.foldl consume ⟨x.frameNum, 0, [], false⟩ := Option.some.inj (ht.symm.trans ht')
  have hall : consumed.foldl consume ⟨x.frameNum, 0, [], false⟩ =
      (x.packets ++ [emptyData]).foldl consume ⟨x.frameNum, 0, [], false⟩ := by
    have hsent : w.sentinel = [emptyData] := by simp [sentinel, hj]
    rw [← hsent, ← hc, List.foldl_append, foldl_consume_finished _ hf]
  have hlast : ∀ v : OutputThread, (consume v emptyData).written = v.written := by
    intro v
    unfold consume
    split <;> rfl
  calc (consumed.foldl consume ⟨x.frameNum, 0, [], false⟩).written
      = ((x.packets ++ [emptyData]).foldl consume ⟨x.frameNum, 0, [], false⟩).written :=
        congrArg OutputThread.written hall
    _ = (x.packets.foldl consume ⟨x.frameNum, 0, [], false⟩).written := by
        rw [List.foldl_append]
        exact hlast _
    _ = IORuntimeWriter.dump x.frameNum x.packets := foldl_consume_fresh _ _ hs

theorem Recorded.join (h : Recorded s) : Recorded { s with writer := s.writer.join } := by
  unfold IORuntimeWriter.join
  split
  · exact h
  · rename_i b hj
    split
    · rename_i t ht
      split
      · -- the input thread has returned, and the output is stopped if it is to be
        cases h with
        | running x hr hx hj' hf =>
          obtain rfl : b = false := by
            rcases hj' with hj' | hj' <;> rw [hj] at hj' <;> cases hj'
            rfl
          exact .running x hr (hx.frame rfl rfl rfl (by simp [stopOutput, hj])) (.inl rfl) hf
        | stopping before x hr hs hx hj' hf =>
          obtain rfl : b = true := by
            rcases hj' with hj' | hj' <;> rw [hj] at hj' <;> cases hj'
            rfl
          have hx' : { s.writer with inputThread := none, inputWriting := false }.Writing x :=
            hx.frame rfl rfl rfl Iff.rfl
          refine .stopping before x hr hs (hx'.stopOutput (by simp [hj])) (.inl ?_) ?_
          · simp [stopOutput, hx.writing]
          · simpa [stopOutput, hx.writing] using hf
        | idle hr hx hf =>
          have hstop : { s.writer with inputThread := none, inputWriting := false }.stopOutput b =
              { s.writer with inputThread := none, inputWriting := false, joining := none } := by
            simp [stopOutput, hx.writing]
          rw [hstop]
          exact .idle hr (hx.frame rfl rfl (by simp)) hf
      · exact h
    · exact h
  · rename_i hj
    split
    · rename_i t ht
      split
      · rename_i hfin
        cases h with
        | running x _ _ hj' _ => rcases hj' with hj' | hj' <;> rw [hj] at hj' <;> cases hj'
        | stopping before x hr hs hx _ hf =>
          refine .idle hr ⟨rfl, rfl, by simp⟩ ?_
          show List.Forall₂ DumpOf (s.writer.files ++ [t.written]) s.stopped
          rw [hs]
          exact List.rel_append hf (.cons (hx.dump hj ht hfin) .nil)
        | idle _ hx _ => exact absurd hj hx.joining
      · exact h
    · exact h

end

/-- A step that is no call leaves the sessions. -/
theorem step_act (s : Recording) {o : Op} (ho : o.isCall = false) : s.step o = { s with writer := s.writer.act o } := by
  cases o with
  | startWriting mode n inputGood outputGood => cases ho
  | submitRuntimeData mode data => cases ho
  | stopWriting mode => cases ho
  | join => simp [Recording.step, Op.isCall, Recording.runningAfter, Recording.stoppedAfter]
  | inputPop ret => simp [Recording.step, Op.isCall, Recording.runningAfter, Recording.stoppedAfter]
  | outputPop => simp [Recording.step, Op.isCall, Recording.runningAfter, Recording.stoppedAfter]

/-- A call waits for a stop that joins a thread. -/
theorem step_waits {s : Recording} (hj : s.writer.joining ≠ none) {o : Op} (ho : o.isCall = true) : s.step o = s := by
  simp [Recording.step, ho, Option.isSome_iff_ne_none.mpr hj]

theorem Recorded.step (s : Recording) (o : Op) (h : Recorded s) : Recorded (s.step o) := by
  cases ho : o.isCall with
  | false =>
    rw [step_act s ho]
    cases o with
    | startWriting mode n inputGood outputGood => cases ho
    | submitRuntimeData mode data => cases ho
    | stopWriting mode => cases ho
    | join => exact h.join
    | inputPop ret => exact h.frame (inputPop_same s.writer ret)
    | outputPop => exact h.outputPop
  | true =>
    by_cases hj : s.writer.joining = none
    · cases o with
      | startWriting mode n inputGood outputGood => exact h.startWriting hj mode n inputGood outputGood
      | submitRuntimeData mode data => exact h.submitRuntimeData hj mode data
      | stopWriting mode => exact h.stopWriting hj mode
      | join => cases ho
      | inputPop ret => cases ho
      | outputPop => cases ho
    · rw [step_waits hj ho]
      exact h

theorem Recorded.new : Recorded .new := by
  refine .idle rfl ⟨rfl, rfl, ?_⟩ .nil
  simp [Recording.new, IORuntimeWriter.new]

/-! ## The threads finish -/

/-- A stop that waits for the input thread finds one, which has returned or will come to the sentinel. -/
structure InputEnds (w : IORuntimeWriter) : Prop where
  writing : w.inputWriting = w.inputThread.isSome
  stopping : ∀ b, w.joining = some (.input b) →
    ∃ t, w.inputThread = some t ∧ (t.finished = true ∨ ∃ x ∈ w.inputQueue, x.isStop = true)

section
variable {v w : IORuntimeWriter}

theorem InputEnds.frame (h : v.InputEnds) (h1 : w.inputWriting = v.inputWriting) (h2 : w.inputThread = v.inputThread)
    (h3 : w.inputQueue = v.inputQueue) (h4 : ∀ b, w.joining = some (.input b) → v.joining = some (.input b)) :
    w.InputEnds := by
  refine ⟨by rw [h1, h2]; exact h.writing, fun b hb => ?_⟩
  rw [h2, h3]
  exact h.stopping b (h4 b hb)

theorem InputEnds.of_not_joining (hw : w.inputWriting = w.inputThread.isSome) (hj : ∀ b, w.joining ≠ some (.input b)) :
    w.InputEnds :=
  ⟨hw, fun b hb => absurd hb (hj b)⟩

theorem InputEnds.new : new.InputEnds := .of_not_joining rfl (by simp [IORuntimeWriter.new])

theorem InputEnds.inputPop (h : w.InputEnds) (ret : Int) : (w.inputPop ret).InputEnds := by
  cases ht : w.inputThread with
  | none =>
    have hpop : w.inputPop ret = w := by simp [IORuntimeWriter.inputPop, ht]
    rwa [hpop]
  | some t =>
    cases hq : w.inputQueue with
    | nil =>
      have hpop : w.inputPop ret = w := by simp [IORuntimeWriter.inputPop, ht, hq]
      rwa [hpop]
    | cons x queue =>
      cases hf : t.finished with
      | true =>
        have hpop : w.inputPop ret = w := by simp [IORuntimeWriter.inputPop, ht, hq, hf]
        rwa [hpop]
      | false =>
        refine ⟨?_, fun b hb => ?_⟩
        · simp [IORuntimeWriter.inputPop, ht, hq, hf, h.writing]
        · rw [(inputPop_same w ret).joining] at hb
          obtain ⟨t', ht', hends⟩ := h.stopping b hb
          obtain rfl : t = t' := Option.some.inj (ht.symm.trans ht')
          simp only [IORuntimeWriter.inputPop, ht, hq, hf, Bool.false_eq_true, if_false]
          refine ⟨_, rfl, ?_⟩
          cases hx : x.isStop with
          | true => exact .inl rfl
          | false =>
            -- the sentinel is further back
            refine .inr ?_
            rcases hends with hfin | ⟨y, hy, hstop⟩
            · rw [hf] at hfin
              cases hfin
            · rw [hq] at hy
              rcases List.mem_cons.mp hy with rfl | hy
              · rw [hx] at hstop
                cases hstop
              · exact ⟨y, hy, hstop⟩

theorem InputEnds.stopOutput (h : w.inputWriting = w.inputThread.isSome) (b : Bool) : (w.stopOutput b).InputEnds := by
  unfold IORuntimeWriter.stopOutput
  split
  · exact .of_not_joining h (by simp)
  · exact .of_not_joining h (by simp)

theorem InputEnds.join (h : w.InputEnds) : w.join.InputEnds := by
  unfold IORuntimeWriter.join
  split
  · exact h
  · split
    · split
      · exact .stopOutput rfl _
      · exact h
    · exact h
  · split
    · split
      · exact .of_not_joining h.writing (by simp)
      · exact h
    · exact h

theorem InputEnds.startWriting (h : w.InputEnds) (hj : w.joining = none) (mode : RuntimeWriteMode) (n : Int)
    (inputGood outputGood : Bool) : (w.startWriting mode n inputGood outputGood).1.InputEnds := by
  have hinput : (w.startInput n inputGood).1.inputWriting = (w.startInput n inputGood).1.inputThread.isSome := by
    unfold startInput
    split
    · exact h.writing
    · rfl
  have houtput (v : IORuntimeWriter) (hv : v.inputWriting = v.inputThread.isSome) :
      (v.startOutput n outputGood).1.inputWriting = (v.startOutput n outputGood).1.inputThread.isSome := by
    unfold startOutput
    split <;> exact hv
  refine .of_not_joining ?_ fun b => ?_
  · unfold IORuntimeWriter.startWriting
    split
    · exact h.writing
    · dsimp only
      split
      · split
        · exact hinput
        · split
          · exact houtput _ hinput
          · exact hinput
      · split
        · exact h.writing
        · split
          · exact houtput _ h.writing
          · exact h.writing
  · rcases startWriting_cases w mode n inputGood outputGood with ⟨hsame, -⟩ | ⟨-, -, v, hv, heq⟩
    · rw [hsame.joining, hj]
      simp
    · have hvj : (v.startOutput n outputGood).1.joining = v.joining := by
        unfold startOutput
        split <;> rfl
      rw [heq, hvj, hv.joining, hj]
      simp

theorem InputEnds.stopWriting (h : w.InputEnds) (mode : RuntimeWriteMode) : (w.stopWriting mode).InputEnds := by
  unfold IORuntimeWriter.stopWriting
  split
  · exact h
  · split
    · rename_i hstop
      refine ⟨h.writing, fun b _ => ?_⟩
      have hsome : w.inputThread.isSome = true := h.writing.symm.trans (Bool.and_eq_true_iff.mp hstop).2
      obtain ⟨t, ht⟩ := Option.isSome_iff_exists.mp hsome
      exact ⟨t, ht, .inr ⟨emptyData, List.mem_append_right _ List.mem_cons_self, rfl⟩⟩
    · exact .stopOutput h.writing _

end

theorem InputEnds.step (s : Recording) (o : Op) (h : s.writer.InputEnds) : (s.step o).writer.InputEnds := by
  unfold Recording.step
  split
  · exact h
  · rename_i hfree
    cases o with
    | startWriting mode n inputGood outputGood =>
      exact h.startWriting (by simpa [Op.isCall] using hfree) mode n inputGood outputGood
    | submitRuntimeData mode data =>
      have hj : s.writer.joining = none := by simpa [Op.isCall] using hfree
      refine .of_not_joining ?_ fun b => ?_
      · show (s.writer.submitRuntimeData mode data).inputWriting = (s.writer.submitRuntimeData mode data).inputThread.isSome
        unfold IORuntimeWriter.submitRuntimeData
        split
        · exact h.writing
        · split <;> exact h.writing
        · split <;> exact h.writing
      · show (s.writer.submitRuntimeData mode data).joining ≠ some (.input b)
        unfold IORuntimeWriter.submitRuntimeData
        split
        · simp [hj]
        · split <;> simp [hj]
        · split <;> simp [hj]
    | stopWriting mode => exact h.stopWriting mode
    | join => exact h.join
    | inputPop ret => exact h.inputPop ret
    | outputPop =>
      have hjoining : s.writer.outputPop.joining = s.writer.joining := (outputPop_joining s.writer).1
      refine h.frame ?_ ?_ ?_ fun b hb => hjoining ▸ hb
      · show s.writer.outputPop.inputWriting = _
        unfold outputPop
        split <;> [split <;> rfl; rfl]
      · show s.writer.outputPop.inputThread = _
        unfold outputPop
        split <;> [split <;> rfl; rfl]
      · show s.writer.outputPop.inputQueue = _
        unfold outputPop
        split <;> [split <;> rfl; rfl]

/-- Without a call, a run leads to a state the stop can go on from. -/
def Leads (s : Recording) (P : IORuntimeWriter → Prop) : Prop :=
  ∃ rest : List Op, (∀ o ∈ rest, o.isCall = false) ∧ P (rest.foldl Recording.step s).writer

theorem Leads.of_step {s : Recording} {P : IORuntimeWriter → Prop} {o : Op} (ho : o.isCall = false)
    (h : Leads (s.step o) P) : Leads s P := by
  obtain ⟨rest, hrest, hp⟩ := h
  exact ⟨o :: rest, List.forall_mem_cons.mpr ⟨ho, hrest⟩, hp⟩

theorem Leads.of_join {s : Recording} {P : IORuntimeWriter → Prop} (h : P s.writer.join) : Leads s P := by
  refine .of_step (o := .join) rfl ⟨[], fun o ho => absurd ho List.not_mem_nil, ?_⟩
  rw [step_act s rfl]
  exact h

/-- The sentinel ends the thread. -/
theorem finished_of_sentinel (consumed : List IORuntimeData) (t : OutputThread) :
    ((consumed ++ [emptyData]).foldl consume t).finished = true := by
  rw [List.foldl_append, List.foldl_cons, List.foldl_nil]
  generalize consumed.foldl consume t = v
  unfold consume
  split
  · assumption
  · rfl

/-- Each pass takes one packet out of the queue. -/
theorem output_ends (queue : List IORuntimeData) (s : Recording) (hq : s.writer.outputQueue = queue) (h : Recorded s)
    (hj : s.writer.joining = some .output) : Leads s fun w => w.joining = none := by
  induction queue generalizing s with
  | nil =>
    cases h with
    | running x _ _ hj' _ => rcases hj' with hj' | hj' <;> rw [hj] at hj' <;> cases hj'
    | idle _ hx _ => exact absurd hj hx.joining
    | stopping before x hr hs hx hj' hf =>
      obtain ⟨consumed, hc, ht⟩ := hx.thread
      have hall : consumed = x.packets ++ [emptyData] := by
        rw [hq, List.append_nil] at hc
        rw [hc, sentinel, if_pos hj]
      have hfin := finished_of_sentinel x.packets ⟨x.frameNum, 0, [], false⟩
      rw [← hall] at hfin
      exact .of_join (by simp [IORuntimeWriter.join, hj, ht, hfin])
  | cons y queue ih =>
    cases ht : s.writer.outputThread with
    | none =>
      cases h with
      | running x _ _ hj' _ => rcases hj' with hj' | hj' <;> rw [hj] at hj' <;> cases hj'
      | idle _ hx _ => exact absurd hj hx.joining
      | stopping before x hr hs hx hj' hf =>
        obtain ⟨consumed, -, ht'⟩ := hx.thread
        rw [ht] at ht'
        cases ht'
    | some t =>
      cases hf : t.finished with
      | true => exact .of_join (by simp [IORuntimeWriter.join, hj, ht, hf])
      | false =>
        have hstep : s.step .outputPop = { s with writer := s.writer.outputPop } := step_act s rfl
        refine .of_step (o := .outputPop) rfl (ih _ ?_ (h.step s .outputPop) ?_)
        · rw [hstep]
          simp [outputPop, ht, hq, hf]
        · rw [hstep]
          exact (outputPop_joining s.writer).1.trans hj

theorem input_join {s : Recording} {b : Bool} (hj : s.writer.joining = some (.input b)) {t : InputThread}
    (ht : s.writer.inputThread = some t) (hf : t.finished = true) :
    Leads s fun w => w.joining = none ∨ w.joining = some .output := by
  refine .of_join ?_
  have hjoin : s.writer.join = { s.writer with inputThread := none, inputWriting := false }.stopOutput b := by
    simp [IORuntimeWriter.join, hj, ht, hf]
  rw [hjoin]
  unfold stopOutput
  split
  · exact .inr rfl
  · exact .inl rfl

theorem input_ends (queue : List IORuntimeData) (s : Recording) (hq : s.writer.inputQueue = queue)
    (h : s.writer.InputEnds) {b : Bool} (hj : s.writer.joining = some (.input b)) :
    Leads s fun w => w.joining = none ∨ w.joining = some .output := by
  induction queue generalizing s with
  | nil =>
    obtain ⟨t, ht, hf | ⟨x, hx, -⟩⟩ := h.stopping b hj
    · exact input_join hj ht hf
    · rw [hq] at hx
      cases hx
  | cons y queue ih =>
    obtain ⟨t, ht, -⟩ := h.stopping b hj
    cases hf : t.finished with
    | true => exact input_join hj ht hf
    | false =>
      have hstep : s.step (.inputPop 0) = { s with writer := s.writer.inputPop 0 } := step_act s rfl
      refine .of_step (o := .inputPop 0) rfl (ih _ ?_ (h.step s (.inputPop 0)) ?_)
      · rw [hstep]
        simp [inputPop, ht, hq, hf]
      · rw [hstep]
        exact (inputPop_same s.writer 0).joining.trans hj

/-- A stop returns: the threads have what they need to finish. -/
theorem stop_returns {s : Recording} (h : Recorded s) (hin : s.writer.InputEnds) : Leads s fun w => w.joining = none := by
  cases hj : s.writer.joining with
  | none => exact ⟨[], fun o ho => absurd ho List.not_mem_nil, hj⟩
  | some j =>
    cases j with
    | output => exact output_ends _ s rfl h hj
    | input b =>
      obtain ⟨rest, hrest, hnone | houtput⟩ := input_ends _ s rfl hin hj
      · exact ⟨rest, hrest, hnone⟩
      · obtain ⟨rest', hrest', hnone⟩ :=
          output_ends _ _ rfl (foldl_inv (I := Recorded) Recorded.step rest s h) houtput
        refine ⟨rest ++ rest', fun o ho => ?_, ?_⟩
        · rcases List.mem_append.mp ho with ho | ho
          · exact hrest o ho
          · exact hrest' o ho
        · rw [List.foldl_append]
          exact hnone

theorem foldl_stopped (rest : List Op) (s : Recording) (h : ∀ o ∈ rest, o.isCall = false) :
    (rest.foldl Recording.step s).stopped = s.stopped := by
  induction rest generalizing s with
  | nil => rfl
  | cons o rest ih =>
    rw [List.foldl_cons, ih _ fun o' ho' => h o' (List.mem_cons_of_mem o ho'), step_act s (h o List.mem_cons_self)]

/-! ## Whole runs -/

/-- The finished files are those of the first sessions stopped, and all of them once no stop waits. -/
theorem Recorded.dumps {s : Recording} (h : Recorded s) :
    List.Forall₂ DumpOf s.writer.files (s.stopped.take s.writer.files.length) ∧
      (s.writer.joining = none → s.writer.files.length = s.stopped.length) := by
  cases h with
  | running x _ _ _ hf => exact ⟨by rwa [hf.length_eq, List.take_length], fun _ => hf.length_eq⟩
  | stopping before x _ hs _ hj hf =>
    rw [hs, hf.length_eq, List.take_left]
    refine ⟨hf, fun hnone => ?_⟩
    rcases hj with hj | hj <;> rw [hnone] at hj <;> cases hj
  | idle _ _ hf => exact ⟨by rwa [hf.length_eq, List.take_length], fun _ => hf.length_eq⟩

/-- **The output dump over every interleaving.** The sessions are what the callers ask for: a successful start of the
output, none being written, the packets submitted to it, the next stop of it. The files that are finished hold, one
after the other, the packets of the sessions stopped from their first key frame on, up to the limit, in order; every
session has its file when no stop waits; and a stop that waits returns without a further call. -/
theorem output_dump (ops : List Op) :
    let s := ops.foldl Recording.step .new
    List.Forall₂ DumpOf s.writer.files (s.stopped.take s.writer.files.length) ∧
    (s.writer.joining = none → s.writer.files.length = s.stopped.length) ∧
    ∃ rest : List Op, (∀ o ∈ rest, o.isCall = false) ∧
      (rest.foldl Recording.step s).writer.joining = none ∧ (rest.foldl Recording.step s).stopped = s.stopped := by
  intro s
  have h : Recorded s := foldl_inv Recorded.step ops .new Recorded.new
  have hin : s.writer.InputEnds := foldl_inv (I := fun s : Recording => s.writer.InputEnds) InputEnds.step ops _ InputEnds.new
  obtain ⟨rest, hrest, hnone⟩ := stop_returns h hin
  exact ⟨h.dumps.1, h.dumps.2, rest, hrest, hnone, foldl_stopped rest s hrest⟩

/-- A packet of one byte. -/
def oneByte (keyFrame : Bool) (b : UInt8) : IORuntimeData := ⟨.systemBlockCopy, some [b], keyFrame⟩

/-- A second `startWriting`, while the output is being written, succeeds and starts nothing: with a limit of 1 and one
packet behind it, the file holds the packet before it too. -/
theorem startWriting_alreadyStarted :
    let s := [Op.startWriting .output (-1) true true, .submitRuntimeData .output (oneByte true 1)].foldl
      Recording.step Recording.new
    let v := [Op.startWriting .output 1 true true, .submitRuntimeData .output (oneByte true 2), .stopWriting .output,
      .outputPop, .outputPop, .outputPop, .join].foldl Recording.step s
    (s.writer.startWriting .output 1 true true).2 = 0 ∧ v.writer.files = [[1, 2]] ∧ dump 1 [oneByte true 2] = [2] := by
  decide

end IORuntimeWriter
end CloudStreaming.Encoder
