import CloudStreaming.Lib.Runs
import Mathlib.Data.List.Perm.Basic
import Mathlib.Data.List.Count

/-!
# GPU events of a surface (`capture/event-queue.cpp`, `capture/dx11-surface.cpp:24-32`, `:207-324`)

A signal duplicates the handle of a fence, takes an event from the pool of used ones or creates one, and asks
the fence to set it. The pending events wait in a queue; `wait_gpu_event_cpu` and `flush` take them off and give
them back to the pool, whose entries keep their event and have no fence.

The entry is queued before it is complete (`dx11-surface.cpp:228`): where `CreateEvent` or
`SetEventOnCompletion` fails the signal returns `E_FAIL` and the entry stays. Without an event it goes through the
pool, where `acquire_event` erases it and then increments the iterator that `erase` returned (`event-queue.cpp:80-88`),
past the end if it was the last. With an event that was never armed, the destructor waits for it without end
(`failed_signal_hangs`). `event_queue_iff`: nothing else goes wrong.

| here | there |
| --- | --- |
| `Event`                 | `EventQueue::Event`; the two fence pointers, which are only held, are left out |
| handles                 | numbers in the order of creation, `none` is `nullptr` |
| `Event.serial`          | not in the source: the number of the signal |
| `EventQueue.closed`     | not in the source: the arguments of `CloseHandle`, in order |
| `EventQueue.passedEnd`  | not in the source: an iterator was incremented at the end |
| `EventQueue.waited`     | not in the source: the serials waited for in `wait_gpu_event_cpu` and the destructors |
| `EventQueue.stuck`      | not in the source: a wait for an event that no fence was asked to set |
| `outcomes`, `polls`     | what `WaitForSingleObject` returns, for each of the waits of a call |

The two overloads of `signal_gpu_event` differ in the type of the fence only. The time left of `timeout_ms` decides
nothing but what the next wait returns.
-/

namespace CloudStreaming.Streamer.Gpu

open Runs

inductive WaitResult where
  | object0
  | timeout
  | failed
  deriving DecidableEq, Repr

structure Event where
  eventHandle : Option ℕ
  sharedFence : Option ℕ
  fenceValue : UInt64
  signalled : Bool
  serial : ℕ
  deriving DecidableEq, Repr

/-- The handles an entry holds. -/
def Event.handles (e : Event) : List ℕ := e.eventHandle.toList ++ e.sharedFence.toList

structure EventQueue where
  eventQueue : List Event
  freeEvents : List Event
  nextHandle : ℕ
  nextSerial : ℕ
  closed : List ℕ
  passedEnd : Bool
  stuck : Bool
  waited : List ℕ
  destroyed : Bool
  deriving DecidableEq, Repr

/-- The result of the loop of `acquire_event`. -/
structure Acquired where
  found : Option Event
  freeEvents : List Event
  closed : List ℕ
  passedEnd : Bool

/-- The loop of `acquire_event` (`:78-108`) over the entries left, after those in `kept`. An entry without an event
is erased, and the entry after it is stepped over. -/
def acquireLoop (polls : ℕ → WaitResult) : List Event → List Event → List ℕ → Acquired
  | [], kept, closed => ⟨none, kept, closed, false⟩
  | e :: rest, kept, closed =>
    if e.eventHandle.isNone then
      match rest with
      | [] => ⟨none, kept, closed ++ e.sharedFence.toList, true⟩
      | x :: rest => acquireLoop polls rest (kept ++ [x]) (closed ++ e.sharedFence.toList)
    else if e.signalled && polls kept.length == .timeout then acquireLoop polls rest (kept ++ [e]) closed
    else
      ⟨some { e with signalled := false, sharedFence := none }, kept ++ rest, closed ++ e.sharedFence.toList, false⟩

namespace EventQueue

def new : EventQueue := ⟨[], [], 0, 0, [], false, false, [], false⟩

/-- A new handle. -/
def newHandle (q : EventQueue) : EventQueue × ℕ := ({ q with nextHandle := q.nextHandle + 1 }, q.nextHandle)

/-- `acquire_event` (`:76`); `create`: `CreateEvent` succeeds, if it is called. -/
def acquireEvent (q : EventQueue) (create : Bool) (polls : ℕ → WaitResult) : EventQueue × Event :=
  let r := acquireLoop polls q.freeEvents [] q.closed
  let q := { q with freeEvents := r.freeEvents, closed := r.closed, passedEnd := q.passedEnd || r.passedEnd }
  match r.found with
  | some e => (q, e)
  | none =>
    if create then
      let (q, h) := q.newHandle
      (q, ⟨some h, none, 0, false, 0⟩)
    else (q, ⟨none, none, 0, false, 0⟩)

/-- `release_event` (`:124`). -/
def releaseEvent (q : EventQueue) (e : Event) : EventQueue :=
  if e.signalled then { q with freeEvents := q.freeEvents ++ [e] }
  else
    { q with
      closed := q.closed ++ e.sharedFence.toList
      freeEvents := q.freeEvents ++ [{ e with sharedFence := none }] }

inductive HResult where
  | sOk
  | eFail
  deriving DecidableEq, Repr

/-- `signal_gpu_event` (`dx11-surface.cpp:207`). `valid`: neither pointer is null; the others say which of
`DuplicateHandle`, `CreateEvent` and `SetEventOnCompletion` succeed, if they are called. -/
def signalGpuEvent (q : EventQueue) (value : UInt64) (valid duplicate create set : Bool) (polls : ℕ → WaitResult) :
    EventQueue × HResult :=
  if !valid || !duplicate then (q, .eFail)
  else
    let (q, fence) := q.newHandle
    -- `push_back` (`event-queue.cpp:33`)
    let (q, e) := q.acquireEvent create polls
    let e := { e with sharedFence := some fence, fenceValue := value, serial := q.nextSerial }
    let q := { q with nextSerial := q.nextSerial + 1 }
    if e.eventHandle.isNone || !set then ({ q with eventQueue := q.eventQueue ++ [e] }, .eFail)
    else ({ q with eventQueue := q.eventQueue ++ [{ e with signalled := true }] }, .sOk)

/-- `wait_gpu_event_cpu` (`dx11-surface.cpp:286`) on the entries of the queue. -/
def waitLoop (outcomes : ℕ → WaitResult) : ℕ → List Event → EventQueue → EventQueue
  | _, [], q => { q with eventQueue := [] }
  | i, e :: rest, q =>
    if e.eventHandle.isNone then waitLoop outcomes i rest (q.releaseEvent e)
    else
      let q := { q with waited := q.waited ++ [e.serial], stuck := q.stuck || !e.signalled }
      if outcomes i = .timeout then { q with eventQueue := e :: rest }
      else waitLoop outcomes (i + 1) rest (q.releaseEvent { e with signalled := false })

def waitGpuEventCpu (q : EventQueue) (outcomes : ℕ → WaitResult) : EventQueue := waitLoop outcomes 0 q.eventQueue q

/-- `flush` (`event-queue.cpp:48`) on the entries left, after those in `kept`. -/
def flushLoop (polls : ℕ → WaitResult) : List Event → List Event → EventQueue → EventQueue
  | [], kept, q => { q with eventQueue := kept }
  | e :: rest, kept, q =>
    if e.eventHandle.isNone then flushLoop polls rest kept (q.releaseEvent { e with signalled := false })
    else if e.signalled && polls e.serial != .timeout then
      flushLoop polls rest kept (q.releaseEvent { e with signalled := false })
    else flushLoop polls rest (kept ++ [e]) q

def flush (q : EventQueue) (polls : ℕ → WaitResult) : EventQueue := flushLoop polls q.eventQueue [] q

/-- One entry of the pool in `~EventQueue` (`:23-30`). -/
def closeEntry (q : EventQueue) (e : Event) : EventQueue :=
  { q with
    waited := if e.signalled && e.eventHandle.isSome then q.waited ++ [e.serial] else q.waited
    closed := q.closed ++ e.handles }

/-- `~EventQueue` (`:19`). -/
def destroyQueue (q : EventQueue) : EventQueue :=
  let q := { q.eventQueue.foldl releaseEvent q with eventQueue := [] }
  { q.freeEvents.foldl closeEntry q with freeEvents := [], destroyed := true }

/-- `~DX11Surface` (`dx11-surface.cpp:24`) and the members it destroys. -/
def destroySurface (q : EventQueue) (outcomes : ℕ → WaitResult) : EventQueue := (q.waitGpuEventCpu outcomes).destroyQueue

end EventQueue

/-! ## Runs -/

inductive Op where
  | signal (value : UInt64) (valid duplicate create set : Bool) (polls : ℕ → WaitResult)
  | wait (outcomes : ℕ → WaitResult)
  | flush (polls : ℕ → WaitResult)
  | destroy (outcomes : ℕ → WaitResult)

namespace EventQueue

/-- Nothing is called on a surface that was destroyed. -/
def step (q : EventQueue) (o : Op) : EventQueue :=
  if q.destroyed then q
  else
    match o with
    | .signal value valid duplicate create set polls => (q.signalGpuEvent value valid duplicate create set polls).1
    | .wait outcomes => q.waitGpuEventCpu outcomes
    | .flush polls => q.flush polls
    | .destroy outcomes => q.destroySurface outcomes

/-- A signal that fails. -/
def fails (q : EventQueue) : Op → Bool
  | .signal value valid duplicate create set polls =>
    decide ((q.signalGpuEvent value valid duplicate create set polls).2 = .eFail)
  | _ => false

/-- What a step leaves: no iterator is past its end; waits were made in the order of the signals and for events
that a fence sets; a wait that nothing cuts short is made for every entry and empties the queue; a failed signal leaves
the queue as it was; no handle is closed twice, only handles that were opened are closed, and after the destruction all
of them. The polls of `flush` and of the pool return at once and are no waits. -/
structure Orderly (q : EventQueue) (o : Op) : Prop where
  iterators : (q.step o).passedEnd = false
  inOrder : (q.step o).waited.Pairwise (· ≤ ·)
  armed : (q.step o).stuck = false ∧ ∀ e ∈ (q.step o).eventQueue, e.signalled = true
  waitsForAll : q.destroyed = false → ∀ outcomes, o = .wait outcomes → (∀ i, outcomes i = .object0) →
    (q.step o).eventQueue = [] ∧ (q.step o).waited = q.waited ++ q.eventQueue.map Event.serial
  failure : q.destroyed = false → q.fails o = true → (q.step o).eventQueue = q.eventQueue
  once : (q.step o).closed.Nodup ∧ ∀ h ∈ (q.step o).closed, h < (q.step o).nextHandle
  all : (q.step o).destroyed = true → (q.step o).closed.Perm (List.range (q.step o).nextHandle)

/-- No signal fails after `DuplicateHandle`: there is an event, from the pool or a new one, and the fence takes it. -/
def Completes (q : EventQueue) : Op → Prop
  | .signal _ valid duplicate create set _ =>
    q.destroyed = false → valid = true → duplicate = true → (q.freeEvents ≠ [] ∨ create = true) ∧ set = true
  | _ => True

/-! ## Entries that are complete -/

/-- The invariant, with `es` for the entries of the queue while a loop goes over them: they are armed and in order,
the pool has events without fences, and the handles opened are those closed and those held. -/
structure Tidy (es : List Event) (q : EventQueue) : Prop where
  pending : ∀ e ∈ es, e.eventHandle.isSome = true ∧ e.signalled = true
  pool : ∀ e ∈ q.freeEvents, e.eventHandle.isSome = true ∧ e.sharedFence = none ∧ e.signalled = false
  sorted : es.Pairwise fun a b => a.serial < b.serial
  fresh : ∀ e ∈ es, e.serial < q.nextSerial
  waits : q.waited.Pairwise (· ≤ ·)
  past : ∀ w ∈ q.waited, w < q.nextSerial ∧ ∀ e ∈ es, w ≤ e.serial
  clean : q.passedEnd = false ∧ q.stuck = false
  balanced : (q.closed ++ (es ++ q.freeEvents).flatMap Event.handles).Perm (List.range q.nextHandle)

namespace Tidy

variable {es kept rest : List Event} {e : Event} {q : EventQueue}

theorem new : Tidy [] EventQueue.new := by
  constructor <;> simp [EventQueue.new]

/-- Taking an entry off, from anywhere in the queue. -/
theorem release (h : Tidy (kept ++ e :: rest) q) : Tidy (kept ++ rest) (q.releaseEvent { e with signalled := false }) := by
  have hsub : (kept ++ rest).Sublist (kept ++ e :: rest) :=
    List.Sublist.append_left (List.sublist_cons_self e rest) kept
  have hrel : q.releaseEvent { e with signalled := false } =
      { q with
        closed := q.closed ++ e.sharedFence.toList
        freeEvents := q.freeEvents ++ [{ e with signalled := false, sharedFence := none }] } := rfl
  rw [hrel]
  constructor
  case pending => exact fun x hx => h.pending x (hsub.subset hx)
  case pool =>
    intro x hx
    rcases List.mem_append.mp hx with hx | hx
    · exact h.pool x hx
    · rw [List.mem_singleton.mp hx]
      exact ⟨(h.pending e (by simp)).1, rfl, rfl⟩
  case sorted => exact h.sorted.sublist hsub
  case fresh => exact fun x hx => h.fresh x (hsub.subset hx)
  case waits => exact h.waits
  case past => exact fun w hw => ⟨(h.past w hw).1, fun x hx => (h.past w hw).2 x (hsub.subset hx)⟩
  case clean => exact h.clean
  case balanced =>
    refine List.Perm.trans ?_ h.balanced
    rw [List.perm_iff_count]
    intro n
    simp only [Event.handles, List.flatMap_append, List.flatMap_cons, List.flatMap_nil, List.count_append,
      Option.toList_none, List.append_nil]
    omega

/-- A wait for the oldest entry. -/
theorem wait (h : Tidy (e :: rest) q) :
    Tidy (e :: rest) { q with waited := q.waited ++ [e.serial], stuck := q.stuck || !e.signalled } := by
  have hsorted := List.pairwise_cons.mp h.sorted
  refine ⟨h.pending, h.pool, h.sorted, h.fresh, ?_, fun w hw => ?_, ⟨h.clean.1, ?_⟩, h.balanced⟩
  · rw [List.pairwise_append]
    refine ⟨h.waits, List.pairwise_singleton _ _, fun a ha b hb => ?_⟩
    rw [List.mem_singleton.mp hb]
    exact (h.past a ha).2 e (by simp)
  · rcases List.mem_append.mp hw with hw | hw
    · exact h.past w hw
    · rw [List.mem_singleton.mp hw]
      refine ⟨h.fresh e (by simp), fun x hx => ?_⟩
      rcases List.mem_cons.mp hx with rfl | hx
      · exact Nat.le_refl _
      · exact Nat.le_of_lt (hsorted.1 x hx)
  · simp [h.clean.2, (h.pending e (by simp)).2]

/-- The queue field plays no role while a loop goes over the entries. -/
theorem setQueue (h : Tidy es q) : Tidy es { q with eventQueue := es } :=
  ⟨h.pending, h.pool, h.sorted, h.fresh, h.waits, h.past, h.clean, h.balanced⟩

theorem waitLoop (outcomes : ℕ → WaitResult) (i : ℕ) (h : Tidy es q) :
    Tidy (EventQueue.waitLoop outcomes i es q).eventQueue (EventQueue.waitLoop outcomes i es q) := by
  induction es generalizing i q with
  | nil => exact h.setQueue
  | cons e rest ih =>
    have hsome : e.eventHandle.isNone = false := by simpa using (h.pending e (by simp)).1
    rw [EventQueue.waitLoop, hsome]
    simp only [Bool.false_eq_true, if_false]
    split
    · exact h.wait.setQueue
    · have hwait : Tidy ([] ++ e :: rest) _ := h.wait
      exact ih (i + 1) hwait.release

theorem flushLoop (polls : ℕ → WaitResult) (h : Tidy (kept ++ rest) q) :
    Tidy (EventQueue.flushLoop polls rest kept q).eventQueue (EventQueue.flushLoop polls rest kept q) := by
  induction rest generalizing kept q with
  | nil =>
    rw [List.append_nil] at h
    exact h.setQueue
  | cons e rest ih =>
    have hsome : e.eventHandle.isNone = false := by simpa using (h.pending e (by simp)).1
    rw [EventQueue.flushLoop, hsome]
    simp only [Bool.false_eq_true, if_false]
    split
    · exact ih h.release
    · apply ih
      rw [List.append_assoc]
      exact h

end Tidy

/-- An event from the pool, or a new one: the pool stays clean and the handles, those in `held` included, are
accounted for. -/
theorem acquireEvent_clean (q : EventQueue) (held : List ℕ) (create : Bool) (polls : ℕ → WaitResult)
    (hsome : q.freeEvents ≠ [] ∨ create = true)
    (hpool : ∀ e ∈ q.freeEvents, e.eventHandle.isSome = true ∧ e.sharedFence = none ∧ e.signalled = false)
    (hbal : (q.closed ++ (held ++ q.freeEvents.flatMap Event.handles)).Perm (List.range q.nextHandle)) :
    ∃ free n event, q.acquireEvent create polls = ({ q with freeEvents := free, nextHandle := n }, event) ∧
      event.eventHandle.isSome = true ∧ event.sharedFence = none ∧
      (∀ e ∈ free, e.eventHandle.isSome = true ∧ e.sharedFence = none ∧ e.signalled = false) ∧
      (q.closed ++ (held ++ (event.handles ++ free.flatMap Event.handles))).Perm (List.range n) := by
  cases hfree : q.freeEvents with
  | nil =>
    have hcreate : create = true := hsome.resolve_left (not_not.mpr hfree)
    refine ⟨[], q.nextHandle + 1, ⟨some q.nextHandle, none, 0, false, 0⟩, ?_, rfl, rfl, by simp, ?_⟩
    · simp [acquireEvent, newHandle, acquireLoop, hfree, hcreate]
    · rw [hfree, List.flatMap_nil, List.append_nil] at hbal
      rw [List.range_succ, List.flatMap_nil, List.append_nil, ← List.append_assoc]
      exact hbal.append_right _
  | cons e rest =>
    obtain ⟨hevent, hfence, hsig⟩ := hpool e (by rw [hfree]; simp)
    have hnone : e.eventHandle.isNone = false := by simpa using hevent
    have hloop : acquireLoop polls (e :: rest) [] q.closed =
        ⟨some { e with signalled := false, sharedFence := none }, rest, q.closed, false⟩ := by
      unfold acquireLoop
      simp [hnone, hsig, hfence]
    refine ⟨rest, q.nextHandle, { e with signalled := false, sharedFence := none }, ?_, hevent, rfl, fun x hx => ?_, ?_⟩
    · simp [acquireEvent, hfree, hloop]
    · exact hpool x (by rw [hfree]; exact List.mem_cons_of_mem e hx)
    · have he : Event.handles { e with signalled := false, sharedFence := none } = e.handles := by
        simp [Event.handles, hfence]
      rw [he]
      rw [hfree, List.flatMap_cons] at hbal
      exact hbal

namespace Tidy

variable {es kept rest : List Event} {e : Event} {q : EventQueue}

/-- A signal that goes through queues an armed entry. -/
theorem signal (h : Tidy q.eventQueue q) (value : UInt64) (create : Bool) (polls : ℕ → WaitResult)
    (hsome : q.freeEvents ≠ [] ∨ create = true) :
    let r := q.signalGpuEvent value true true create true polls
    r.2 = .sOk ∧ Tidy r.1.eventQueue r.1 ∧ r.1.destroyed = q.destroyed := by
  intro r
  -- the duplicated fence is held by nobody until the entry is queued
  have hbal : (q.newHandle.1.closed ++ ((q.eventQueue.flatMap Event.handles ++ [q.nextHandle]) ++
      q.newHandle.1.freeEvents.flatMap Event.handles)).Perm (List.range q.newHandle.1.nextHandle) := by
    have hcount := h.balanced
    rw [List.perm_iff_count] at hcount ⊢
    intro k
    have hk := hcount k
    simp only [newHandle, List.range_succ, List.flatMap_append, List.count_append] at hk ⊢
    omega
  obtain ⟨free, n, event, hacq, hevent, hfence, hpool, hperm⟩ :=
    q.newHandle.1.acquireEvent_clean _ create polls hsome h.pool hbal
  have hnone : event.eventHandle.isNone = false := by simpa using hevent
  let entry : Event :=
    { event with sharedFence := some q.nextHandle, fenceValue := value, serial := q.nextSerial, signalled := true }
  have hr : r = ({ q with
      eventQueue := q.eventQueue ++ [entry], freeEvents := free, nextHandle := n, nextSerial := q.nextSerial + 1 }, .sOk) := by
    simp only [newHandle] at hacq
    simp [r, signalGpuEvent, newHandle, hacq, hnone, entry]
  rw [hr]
  refine ⟨rfl, ⟨fun x hx => ?_, hpool, ?_, fun x hx => ?_, h.waits, fun w hw => ?_, h.clean, ?_⟩, rfl⟩
  · rcases List.mem_append.mp hx with hx | hx
    · exact h.pending x hx
    · rw [List.mem_singleton.mp hx]
      exact ⟨hevent, rfl⟩
  · rw [List.pairwise_append]
    refine ⟨h.sorted, List.pairwise_singleton _ _, fun a ha b hb => ?_⟩
    rw [List.mem_singleton.mp hb]
    exact h.fresh a ha
  · rcases List.mem_append.mp hx with hx | hx
    · exact Nat.lt_succ_of_lt (h.fresh x hx)
    · rw [List.mem_singleton.mp hx]
      exact Nat.lt_succ_self _
  · obtain ⟨hlt, hle⟩ := h.past w hw
    refine ⟨Nat.lt_succ_of_lt hlt, fun x hx => ?_⟩
    rcases List.mem_append.mp hx with hx | hx
    · exact hle x hx
    · rw [List.mem_singleton.mp hx]
      exact Nat.le_of_lt hlt
  · refine List.Perm.trans ?_ hperm
    rw [List.perm_iff_count]
    intro k
    simp only [entry, newHandle, Event.handles, List.flatMap_append, List.flatMap_cons, List.flatMap_nil, List.count_append,
      Option.toList_some, Option.toList_none, List.append_nil, hfence]
    omega

end Tidy

/-! ## The destructors -/

/-- Armed entries go to the pool as they are. -/
theorem foldl_releaseEvent (es : List Event) (q : EventQueue) (h : ∀ e ∈ es, e.signalled = true) :
    es.foldl releaseEvent q = { q with freeEvents := q.freeEvents ++ es } := by
  induction es generalizing q with
  | nil => simp
  | cons e es ih =>
    have he : q.releaseEvent e = { q with freeEvents := q.freeEvents ++ [e] } := if_pos (h e (by simp))
    rw [List.foldl_cons, he, ih _ fun x hx => h x (List.mem_cons_of_mem e hx)]
    simp

theorem foldl_closeEntry (es : List Event) (q : EventQueue) :
    es.foldl closeEntry q =
      { q with
        waited := q.waited ++ (es.filter fun e => e.signalled && e.eventHandle.isSome).map Event.serial
        closed := q.closed ++ es.flatMap Event.handles } := by
  induction es generalizing q with
  | nil => simp
  | cons e es ih =>
    rw [List.foldl_cons, ih]
    cases hw : e.signalled && e.eventHandle.isSome with
    | true => simp [closeEntry, hw]
    | false => simp [closeEntry, hw]

/-- What is left of a surface: every handle is closed, and the waits were in order. -/
structure Gone (q : EventQueue) : Prop where
  destroyed : q.destroyed = true
  empty : q.eventQueue = []
  waits : q.waited.Pairwise (· ≤ ·)
  clean : q.passedEnd = false ∧ q.stuck = false
  closed : q.closed.Perm (List.range q.nextHandle)

theorem Tidy.destroyQueue {q : EventQueue} (h : Tidy q.eventQueue q) : Gone q.destroyQueue := by
  have hsig : ∀ e ∈ q.eventQueue, e.signalled = true := fun e he => (h.pending e he).2
  have hpool : (q.freeEvents.filter fun e => e.signalled && e.eventHandle.isSome) = [] := by
    refine List.filter_eq_nil_iff.mpr fun e he => ?_
    simp [(h.pool e he).2.2]
  have hqueue : (q.eventQueue.filter fun e => e.signalled && e.eventHandle.isSome) = q.eventQueue := by
    refine List.filter_eq_self.mpr fun e he => ?_
    simp [h.pending e he]
  have hd : q.destroyQueue =
      { q with
        eventQueue := []
        freeEvents := []
        waited := q.waited ++ q.eventQueue.map Event.serial
        closed := q.closed ++ (q.freeEvents ++ q.eventQueue).flatMap Event.handles
        destroyed := true } := by
    simp only [EventQueue.destroyQueue, foldl_releaseEvent _ _ hsig, foldl_closeEntry, List.filter_append, hpool, hqueue,
      List.nil_append]
  rw [hd]
  refine ⟨rfl, rfl, ?_, h.clean, ?_⟩
  · rw [List.pairwise_append]
    refine ⟨h.waits, ?_, fun a ha b hb => ?_⟩
    · rw [List.pairwise_map]
      exact h.sorted.imp Nat.le_of_lt
    · obtain ⟨e, he, rfl⟩ := List.mem_map.mp hb
      exact (h.past a ha).2 e he
  · refine List.Perm.trans ?_ h.balanced
    rw [List.flatMap_append, List.flatMap_append]
    exact List.perm_append_comm.append_left _

/-! ## Runs -/

/-- A surface in use with complete entries, or destroyed. -/
def Sound (q : EventQueue) : Prop := (q.destroyed = false ∧ Tidy q.eventQueue q) ∨ Gone q

theorem releaseEvent_destroyed (q : EventQueue) (e : Event) : (q.releaseEvent e).destroyed = q.destroyed := by
  unfold releaseEvent
  split <;> rfl

/-- Every entry has an event, and every wait succeeds: all are waited for. -/
theorem waitLoop_all {outcomes : ℕ → WaitResult} (hout : ∀ i, outcomes i = .object0) (es : List Event) (i : ℕ)
    (q : EventQueue) (h : ∀ e ∈ es, e.eventHandle.isSome = true) :
    (waitLoop outcomes i es q).eventQueue = [] ∧ (waitLoop outcomes i es q).waited = q.waited ++ es.map Event.serial := by
  induction es generalizing i q with
  | nil => exact ⟨rfl, by simp [waitLoop]⟩
  | cons e es ih =>
    have hsome : e.eventHandle.isNone = false := by simpa using h e List.mem_cons_self
    have hne : ¬ outcomes i = .timeout := by rw [hout]; exact WaitResult.noConfusion
    rw [waitLoop, hsome]
    simp only [Bool.false_eq_true, if_false, if_neg hne]
    refine (ih (i + 1) _ fun x hx => h x (List.mem_cons_of_mem e hx)).imp id fun hw => hw.trans ?_
    simp [releaseEvent]

theorem waitLoop_destroyed (outcomes : ℕ → WaitResult) (i : ℕ) (es : List Event) (q : EventQueue) :
    (waitLoop outcomes i es q).destroyed = q.destroyed := by
  induction es generalizing i q with
  | nil => rfl
  | cons e es ih =>
    rw [waitLoop]
    split
    · rw [ih, releaseEvent_destroyed]
    · dsimp only
      split
      · rfl
      · rw [ih, releaseEvent_destroyed]

theorem flushLoop_destroyed (polls : ℕ → WaitResult) (es kept : List Event) (q : EventQueue) :
    (flushLoop polls es kept q).destroyed = q.destroyed := by
  induction es generalizing kept q with
  | nil => rfl
  | cons e es ih =>
    rw [flushLoop]
    split
    · rw [ih, releaseEvent_destroyed]
    · split
      · rw [ih, releaseEvent_destroyed]
      · rw [ih]

theorem acquireEvent_queue (q : EventQueue) (create : Bool) (polls : ℕ → WaitResult) :
    (q.acquireEvent create polls).1.eventQueue = q.eventQueue := by
  simp only [acquireEvent, newHandle]
  split
  · rfl
  · split <;> rfl

/-- After `DuplicateHandle` a signal queues an entry, whatever it returns. -/
theorem signalGpuEvent_queues (q : EventQueue) (value : UInt64) (create set : Bool) (polls : ℕ → WaitResult) :
    (q.signalGpuEvent value true true create set polls).1.eventQueue.length = q.eventQueue.length + 1 := by
  have hq : (q.newHandle.1.acquireEvent create polls).1.eventQueue.length = q.eventQueue.length :=
    congrArg List.length (q.newHandle.1.acquireEvent_queue create polls)
  simp only [signalGpuEvent, Bool.not_true, Bool.or_false, Bool.false_eq_true, if_false]
  split <;> simp [hq]

/-- It fails where there is no event, or the fence does not take it. -/
theorem signalGpuEvent_fails (q : EventQueue) (value : UInt64) (create set : Bool) (polls : ℕ → WaitResult)
    (h : ¬ ((q.freeEvents ≠ [] ∨ create = true) ∧ set = true)) :
    (q.signalGpuEvent value true true create set polls).2 = .eFail := by
  cases set with
  | false => simp [signalGpuEvent]
  | true =>
    obtain ⟨hfree, hcreate⟩ := not_or.mp fun hsome => h ⟨hsome, rfl⟩
    simp [signalGpuEvent, newHandle, acquireEvent, not_not.mp hfree, acquireLoop, hcreate]

theorem Sound.step {q : EventQueue} (h : Sound q) (o : Op) (hc : q.Completes o) : Sound (q.step o) := by
  rcases h with ⟨hlive, ht⟩ | hgone
  · simp only [EventQueue.step, hlive, Bool.false_eq_true, if_false]
    cases o with
    | signal value valid duplicate create set polls =>
      cases hok : valid && duplicate with
      | false =>
        have hsame : q.signalGpuEvent value valid duplicate create set polls = (q, .eFail) :=
          if_pos (by cases valid <;> cases duplicate <;> simp_all)
        simp only [hsame]
        exact Or.inl ⟨hlive, ht⟩
      | true =>
        obtain ⟨rfl, rfl⟩ : valid = true ∧ duplicate = true := by simpa using hok
        obtain ⟨hsome, rfl⟩ := hc hlive rfl rfl
        obtain ⟨-, htidy, hd⟩ := ht.signal value create polls hsome
        exact Or.inl ⟨hd.trans hlive, htidy⟩
    | wait outcomes => exact Or.inl ⟨(waitLoop_destroyed ..).trans hlive, ht.waitLoop outcomes 0⟩
    | flush polls =>
      have hstart : Tidy ([] ++ q.eventQueue) q := ht
      exact Or.inl ⟨(flushLoop_destroyed ..).trans hlive, hstart.flushLoop polls⟩
    | destroy outcomes => exact Or.inr (ht.waitLoop outcomes 0).destroyQueue
  · have hsame : q.step o = q := if_pos hgone.destroyed
    rw [hsame]
    exact Or.inr hgone

theorem Sound.once {q : EventQueue} (h : Sound q) : q.closed.Nodup ∧ ∀ x ∈ q.closed, x < q.nextHandle := by
  have hperm : ∃ held, (q.closed ++ held).Perm (List.range q.nextHandle) := by
    rcases h with ⟨-, ht⟩ | hgone
    · exact ⟨_, ht.balanced⟩
    · exact ⟨[], by rw [List.append_nil]; exact hgone.closed⟩
  obtain ⟨held, hperm⟩ := hperm
  have hnodup : (q.closed ++ held).Nodup := hperm.nodup_iff.mpr List.nodup_range
  refine ⟨(List.nodup_append.mp hnodup).1, fun x hx => ?_⟩
  exact List.mem_range.mp (hperm.subset (List.mem_append_left held hx))

theorem Sound.orderly {q : EventQueue} (h : Sound q) (o : Op) (hc : q.Completes o) : q.Orderly o := by
  have hs := h.step o hc
  constructor
  case iterators =>
    rcases hs with ⟨-, ht⟩ | hgone
    · exact ht.clean.1
    · exact hgone.clean.1
  case inOrder =>
    rcases hs with ⟨-, ht⟩ | hgone
    · exact ht.waits
    · exact hgone.waits
  case armed =>
    rcases hs with ⟨-, ht⟩ | hgone
    · exact ⟨ht.clean.2, fun e he => (ht.pending e he).2⟩
    · exact ⟨hgone.clean.2, by simp [hgone.empty]⟩
  case waitsForAll =>
    rintro hlive outcomes rfl hout
    rcases h with ⟨-, ht⟩ | hgone
    · simp only [EventQueue.step, hlive, Bool.false_eq_true, if_false]
      exact waitLoop_all hout q.eventQueue 0 q fun e he => (ht.pending e he).1
    · exact absurd (hlive.symm.trans hgone.destroyed) (by simp)
  case failure =>
    intro hlive hfails
    cases o with
    | signal value valid duplicate create set polls =>
      by_cases hok : valid = true ∧ duplicate = true
      · obtain ⟨rfl, rfl⟩ := hok
        obtain ⟨hsome, rfl⟩ := hc hlive rfl rfl
        rcases h with ⟨-, ht⟩ | hgone
        · exact absurd hfails (by simp [fails, (ht.signal value create polls hsome).1])
        · exact absurd (hlive.symm.trans hgone.destroyed) (by simp)
      · have hsame : q.signalGpuEvent value valid duplicate create set polls = (q, .eFail) :=
          if_pos (by cases valid <;> cases duplicate <;> simp_all)
        simp [EventQueue.step, hlive, hsame]
    | wait outcomes => exact absurd hfails (by simp [fails])
    | flush polls => exact absurd hfails (by simp [fails])
    | destroy outcomes => exact absurd hfails (by simp [fails])
  case once => exact hs.once
  case all =>
    intro hd
    rcases hs with ⟨hlive, -⟩ | hgone
    · exact absurd (hlive.symm.trans hd) (by simp)
    · exact hgone.closed

/-- A signal that fails after `DuplicateHandle` leaves its entry. -/
theorem Orderly.completes {q : EventQueue} {o : Op} (h : q.Orderly o) : q.Completes o := by
  cases o with
  | signal value valid duplicate create set polls =>
    rintro hlive rfl rfl
    by_contra hc
    have hfails : q.fails (.signal value true true create set polls) = true := by
      simp [fails, signalGpuEvent_fails q value create set polls hc]
    have hsame := congrArg List.length (h.failure hlive hfails)
    simp only [EventQueue.step, hlive, Bool.false_eq_true, if_false, signalGpuEvent_queues] at hsame
    omega
  | wait outcomes => trivial
  | flush polls => trivial
  | destroy outcomes => trivial

/-- **GPU events**: in every sequence of signals, waits, flushes and the destruction, with any outcomes, all steps
are orderly if and only if no signal fails after it has duplicated the fence. -/
theorem event_queue_iff (ops : List Op) : Meets step Orderly new ops ↔ Meets step Completes new ops := by
  apply meets_iff (I := Sound)
  · intro q o h
    exact ⟨Orderly.completes, h.orderly o⟩
  · intro q o h hc
    exact h.step o hc
  · exact Or.inl ⟨rfl, Tidy.new⟩

/-- Every wait succeeds. -/
def ready : ℕ → WaitResult := fun _ => .object0

/-- **The surface that never goes away**: `SetEventOnCompletion` fails, the signal returns `E_FAIL`, and the destructor
waits for the event all the same. -/
theorem failed_signal_hangs :
    let o : Op := .signal 1 true true true false ready
    (new.signalGpuEvent 1 true true true false ready).2 = .eFail ∧ (new.step o).eventQueue ≠ [] ∧
      ((new.step o).step (.destroy ready)).stuck = true ∧ ¬ Meets step Orderly new [o] := by
  refine ⟨by decide, by decide, by decide, fun h => ?_⟩
  have hcompletes := h.1.completes
  exact absurd (hcompletes rfl rfl rfl).2 (by simp)

/-- `CreateEvent` fails, a wait moves the entry to the pool, and the next signal steps past its end. -/
theorem null_event_passes_end :
    let q := [.signal 1 true true false true ready, .wait ready, .signal 2 true true true true ready].foldl step new
    q.passedEnd = true := by
  decide

end EventQueue
end CloudStreaming.Streamer.Gpu
