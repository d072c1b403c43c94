import CloudStreaming.Lib.Linked
import CloudStreaming.Lib.Runs
import Mathlib.Data.List.Perm.Basic
import Mathlib.Tactic.Linarith

/-!
# The frame pipe (`streamer/core/dpipe.cpp`)

A pipe owns `nframe` buffers. A free one is on the `in` list, a stored frame on the `out` list, and every
other one is in the hands of a client between `dpipe_get` / `dpipe_load` and `dpipe_store` / `dpipe_put`.
The lists are threaded through the `next` fields of the buffers themselves.

| here | there |
| --- | --- |
| `Dpipe.next`           | the `next` field of every `dpipe_buffer_t`, by address; `none` is `NULL` |
| `inHead`, `outHead`, `outTail` | `in`, `out`, `out_tail` (`dpipe.h:55-57`) |
| `Op`                   | one critical section of `io_mutex`, by a client |
| `Op.load`              | one pass of the `again:` block of `dpipe_load` (`:231-250`); a pass that waits gives the lock away |
| `System`               | the pipe with the buffers its clients hold, and a log of what was stored and taken |

A client that waits in `dpipe_load` takes its next pass as another `Op.load`, so the runs below include
every order in which the condition variable may wake the waiters.
-/

namespace CloudStreaming.Streamer

open Linked Runs

/-- The members of `dpipe_t` that the operations use, and the heap of links. -/
structure Dpipe (α : Type) where
  next : α → Option α
  inHead : Option α
  outHead : Option α
  outTail : Option α
  inCount : Int
  outCount : Int

namespace Dpipe

variable {α : Type} [DecidableEq α]

/-- `dpipe_put` (`:194`). -/
def put (d : Dpipe α) (buffer : α) : Dpipe α :=
  { d with next := Function.update d.next buffer d.inHead, inHead := some buffer, inCount := d.inCount + 1 }

/-- `dpipe_create` (`:51`): the buffers, in the order they are allocated, on an empty pipe. What `malloc` leaves in
their `next` fields is arbitrary; the loop body is that of `dpipe_put`. -/
def create (next : α → Option α) (buffers : List α) : Dpipe α :=
  buffers.foldl put
    { next := next, inHead := none, outHead := none, outTail := none, inCount := 0, outCount := 0 }

/-- The head of `out` is unlinked, if there is one (`:173-181`, `:232-239`, `:271-278`). -/
def unlink (d : Dpipe α) : Dpipe α × Option α :=
  match d.outHead with
  | none => (d, none)
  | some vbuf =>
    let out := d.next vbuf
    ({ d with
        next := Function.update d.next vbuf none
        outHead := out
        outTail := if out = none then none else d.outTail
        outCount := d.outCount - 1 }, some vbuf)

/-- `dpipe_get` (`:161`). -/
def get (d : Dpipe α) : Dpipe α × Option α :=
  match d.inHead with
  | some vbuf =>
    ({ d with
        next := Function.update d.next vbuf none
        inHead := d.next vbuf
        inCount := d.inCount - 1 }, some vbuf)
  | none => d.unlink

/-- `dpipe_load_nowait` (`:266`). -/
def loadNowait (d : Dpipe α) : Dpipe α × Option α := d.unlink

/-- How a pass of `dpipe_load` ends: it returns, or it waits and comes back with the new `failed`. -/
inductive Pass (α : Type) where
  | returns (vbuf : Option α)
  | waits (failed : Bool)

/-- One pass of `dpipe_load` (`:231-250`); `timed` says that `abstime` is given. -/
def loadPass (d : Dpipe α) (timed failed : Bool) : Dpipe α × Pass α :=
  match d.outHead with
  | some _ => (d.unlink.1, .returns d.unlink.2)
  | none => if !timed then (d, .waits failed) else if !failed then (d, .waits true) else (d, .returns none)

/-- `dpipe_store` (`:288`). -/
def store (d : Dpipe α) (buffer : α) : Dpipe α :=
  match d.outTail with
  | some t =>
    { d with
      next := Function.update (Function.update d.next t (some buffer)) buffer none
      outTail := some buffer
      outCount := d.outCount + 1 }
  | none =>
    { d with
      next := Function.update d.next buffer none
      outHead := some buffer
      outTail := some buffer
      outCount := d.outCount + 1 }

/-! ## The lists -/

/-- The pointers and counters describe the lists `ins` and `outs`. -/
structure Rep (d : Dpipe α) (ins outs : List α) : Prop where
  inLinks : Links d.next d.inHead ins
  outLinks : Links d.next d.outHead outs
  outTail : d.outTail = outs.getLast?
  inCount : d.inCount = ins.length
  outCount : d.outCount = outs.length

variable {d : Dpipe α} {ins outs : List α} {b : α}

theorem Rep.put (h : d.Rep ins outs) (hi : b ∉ ins) (ho : b ∉ outs) : (d.put b).Rep (b :: ins) outs := by
  refine ⟨h.inLinks.push hi, h.outLinks.update ho _, h.outTail, ?_, h.outCount⟩
  simp only [Dpipe.put, h.inCount, List.length_cons]
  omega

theorem Rep.store (h : d.Rep ins outs) (hi : b ∉ ins) (ho : b ∉ outs) (hd : ∀ t ∈ outs, t ∉ ins) :
    (d.store b).Rep ins (outs ++ [b]) := by
  have hc : d.outCount + 1 = ((outs ++ [b]).length : Int) := by
    rw [h.outCount, List.length_append]
    rfl
  unfold Dpipe.store
  rcases List.eq_nil_or_concat' outs with rfl | ⟨rest, t, rfl⟩
  · rw [show d.outTail = none from h.outTail]
    exact ⟨h.inLinks.update hi _, Links.single d.next b, rfl, h.inCount, hc⟩
  · have ht : d.outTail = some t := by rw [h.outTail, List.getLast?_concat]
    rw [ht]
    -- the old tail gets its link, then the new buffer is terminated
    have hin := (h.inLinks.update (hd t (by simp)) (some b)).update hi none
    exact ⟨hin, h.outLinks.snoc ho, by rw [List.getLast?_concat], h.inCount, hc⟩

theorem Rep.unlink_nil (h : d.Rep ins []) : d.unlink = (d, none) := by
  have hn : d.outHead = none := h.outLinks
  simp only [unlink, hn]

theorem Rep.unlink_cons (h : d.Rep ins (b :: outs)) (hi : b ∉ ins) :
    d.unlink.2 = some b ∧ d.unlink.1.Rep ins outs := by
  obtain ⟨hb, hr⟩ := h.outLinks
  have ho : b ∉ outs := (List.nodup_cons.mp h.outLinks.nodup).1
  have hc : d.outCount - 1 = (outs.length : Int) := by
    rw [h.outCount, List.length_cons]
    omega
  -- the tail survives unless the list is now empty
  have ht : (if d.next b = none then none else d.outTail) = outs.getLast? := by
    cases outs with
    | nil => rw [if_pos (show d.next b = none from hr), List.getLast?_nil]
    | cons c outs => rw [hr.1, if_neg (by simp), h.outTail, List.getLast?_cons_cons]
  simp only [unlink, hb]
  exact ⟨trivial, h.inLinks.update hi _, hr.update ho _, ht, h.inCount, hc⟩

theorem Rep.get_cons (h : d.Rep (b :: ins) outs) (ho : b ∉ outs) : d.get.2 = some b ∧ d.get.1.Rep ins outs := by
  obtain ⟨hb, hr⟩ := h.inLinks
  have hi : b ∉ ins := (List.nodup_cons.mp h.inLinks.nodup).1
  have hc : d.inCount - 1 = (ins.length : Int) := by
    rw [h.inCount, List.length_cons]
    omega
  simp only [get, hb]
  exact ⟨trivial, hr.update hi _, h.outLinks.update ho _, h.outTail, hc, h.outCount⟩

theorem Rep.get_nil (h : d.Rep [] outs) : d.get = d.unlink := by
  have hn : d.inHead = none := h.inLinks
  simp only [get, hn]

theorem Rep.foldl_put (buffers : List α) (h : d.Rep ins []) (hnd : (buffers ++ ins).Nodup) :
    (buffers.foldl Dpipe.put d).Rep (buffers.reverse ++ ins) [] := by
  induction buffers generalizing d ins with
  | nil => exact h
  | cons b buffers ih =>
    have hb : b ∉ buffers ++ ins := (List.nodup_cons.mp hnd).1
    have h1 : (d.put b).Rep (b :: ins) [] := h.put (fun hi => hb (by simp [hi])) (by simp)
    have hnd' : (buffers ++ b :: ins).Nodup := (List.perm_middle.nodup_iff).mpr hnd
    rw [List.foldl_cons, List.reverse_cons, List.append_assoc]
    exact ih h1 hnd'

theorem create_rep (next : α → Option α) (buffers : List α) (hnd : buffers.Nodup) :
    (create next buffers).Rep buffers.reverse [] := by
  have h0 : (⟨next, none, none, none, 0, 0⟩ : Dpipe α).Rep [] [] := ⟨rfl, rfl, rfl, rfl, rfl⟩
  have h := h0.foldl_put buffers (by simpa using hnd)
  rw [List.append_nil] at h
  exact h

end Dpipe

/-! ## Clients -/

inductive Op (ι α : Type) where
  | get (client : ι)
  | put (client : ι) (buffer : α)
  | load (client : ι) (timed failed : Bool)
  | loadNowait (client : ι)
  | store (client : ι) (buffer : α)

/-- How a buffer left the `out` list. -/
inductive Taken where
  | loaded | stolen
  deriving DecidableEq, Repr

structure System (ι α : Type) where
  pipe : Dpipe α
  held : List (ι × α)
  /-- Every buffer stored, oldest first. -/
  stored : List α
  /-- Every buffer that left `out`, oldest first. -/
  taken : List (α × Taken)

namespace System

variable {ι α : Type}

/-- The client now holds what the call returned; `how` is set when it came from the `out` list. -/
def receive (s : System ι α) (client : ι) (how : Option Taken) (r : Dpipe α × Option α) : System ι α :=
  match r.2 with
  | none => { s with pipe := r.1 }
  | some vbuf =>
    { s with
      pipe := r.1
      held := (client, vbuf) :: s.held
      taken := s.taken ++ how.toList.map fun h => (vbuf, h) }

def step [DecidableEq ι] [DecidableEq α] (s : System ι α) : Op ι α → System ι α
  | .get client => s.receive client (if s.pipe.inHead = none then some .stolen else none) s.pipe.get
  | .put client buffer => { s with pipe := s.pipe.put buffer, held := s.held.erase (client, buffer) }
  | .load client timed failed =>
    match s.pipe.loadPass timed failed with
    | (pipe, .returns vbuf) => s.receive client (some .loaded) (pipe, vbuf)
    | (pipe, .waits _) => { s with pipe := pipe }
  | .loadNowait client => s.receive client (some .loaded) s.pipe.loadNowait
  | .store client buffer =>
    { s with
      pipe := s.pipe.store buffer
      held := s.held.erase (client, buffer)
      stored := s.stored ++ [buffer] }

/-- A client puts or stores only what it holds. -/
def Holds (s : System ι α) : Op ι α → Prop
  | .put client buffer => (client, buffer) ∈ s.held
  | .store client buffer => (client, buffer) ∈ s.held
  | _ => True

def create [DecidableEq α] (next : α → Option α) (buffers : List α) : System ι α := ⟨Dpipe.create next buffers, [], [], []⟩

/-- The pipe's two lists and what is held are the buffers of the pipe, and what was stored and not yet taken is
on the `out` list, in order. -/
structure Valid (buffers : List α) (s : System ι α) (ins outs : List α) : Prop where
  rep : s.pipe.Rep ins outs
  partition : (ins ++ outs ++ s.held.map Prod.snd).Perm buffers
  order : s.stored = s.taken.map Prod.fst ++ outs

variable {buffers ins outs : List α} {s : System ι α}

theorem Valid.nodup (h : s.Valid buffers ins outs) (hnd : buffers.Nodup) :
    (ins ++ outs ++ s.held.map Prod.snd).Nodup := h.partition.nodup_iff.mpr hnd

theorem Valid.notMem_outs {b : α} (h : s.Valid buffers (b :: ins) outs) (hnd : buffers.Nodup) : b ∉ outs := by
  have hn := h.nodup hnd
  simp only [List.cons_append, List.nodup_cons, List.mem_append, not_or] at hn
  exact hn.1.1.2

variable [DecidableEq α]

theorem create_valid (next : α → Option α) (buffers : List α) (hnd : buffers.Nodup) :
    (create next buffers : System ι α).Valid buffers buffers.reverse [] := by
  refine ⟨Dpipe.create_rep next buffers hnd, ?_, rfl⟩
  simp only [create, List.map_nil, List.append_nil]
  exact buffers.reverse_perm

/-- A buffer taken off `out` by its owner. -/
theorem Valid.unlink (h : s.Valid buffers ins outs) (hnd : buffers.Nodup) (client : ι) (how : Taken) :
    ∃ outs', (s.receive client (some how) s.pipe.unlink).Valid buffers ins outs' := by
  cases outs with
  | nil =>
    refine ⟨[], ?_⟩
    rw [h.rep.unlink_nil]
    exact h
  | cons b outs =>
    have hn := h.nodup hnd
    have hb : b ∉ ins := by
      intro hi
      rw [List.append_assoc] at hn
      exact (List.nodup_append.mp hn).2.2 b hi b (by simp) rfl
    obtain ⟨h2, hrep⟩ := h.rep.unlink_cons hb
    refine ⟨outs, ?_⟩
    simp only [receive, h2]
    refine ⟨hrep, ?_, ?_⟩
    · refine List.Perm.trans ?_ h.partition
      simp only [List.map_cons, List.append_assoc, List.cons_append]
      exact List.Perm.append_left ins List.perm_middle
    · simp [h.order]

/-- With a buffer left in the pipe, `dpipe_get` finds one. -/
theorem Valid.get_some (h : s.Valid buffers ins outs) (hnd : buffers.Nodup) (hlt : s.held.length < buffers.length) :
    s.pipe.get.2 ≠ none := by
  have hlen := h.partition.length_eq
  simp only [List.length_append, List.length_map] at hlen
  cases ins with
  | cons b ins =>
    rw [(h.rep.get_cons (h.notMem_outs hnd)).1]
    exact Option.some_ne_none b
  | nil =>
    cases outs with
    | nil => simp only [List.length_nil] at hlen; omega
    | cons b outs =>
      rw [h.rep.get_nil, (h.rep.unlink_cons (by simp)).1]
      exact Option.some_ne_none b

variable [DecidableEq ι]

theorem Valid.get (h : s.Valid buffers ins outs) (hnd : buffers.Nodup) (client : ι) :
    ∃ ins' outs', (s.step (.get client)).Valid buffers ins' outs' := by
  cases ins with
  | nil =>
    have hi : s.pipe.inHead = none := h.rep.inLinks
    simp only [step, h.rep.get_nil, hi, if_true]
    exact ⟨[], h.unlink hnd client .stolen⟩
  | cons b ins =>
    obtain ⟨h2, hrep⟩ := h.rep.get_cons (h.notMem_outs hnd)
    have hi : s.pipe.inHead = some b := h.rep.inLinks.1
    refine ⟨ins, outs, ?_⟩
    simp only [step, receive, h2, hi]
    refine ⟨hrep, ?_, ?_⟩
    · refine List.Perm.trans ?_ h.partition
      exact List.perm_middle
    · simpa using h.order

/-- What is held is on neither list, and giving it back takes it out of the client's hands. -/
theorem Valid.release (h : s.Valid buffers ins outs) (hnd : buffers.Nodup) {client : ι} {b : α}
    (hb : (client, b) ∈ s.held) :
    b ∉ ins ∧ b ∉ outs ∧
      (b :: (s.held.erase (client, b)).map Prod.snd).Perm (s.held.map Prod.snd) := by
  have hm : b ∈ s.held.map Prod.snd := List.mem_map.mpr ⟨(client, b), hb, rfl⟩
  have hd := (List.nodup_append.mp (h.nodup hnd)).2.2
  refine ⟨fun hi => hd b (by simp [hi]) b hm rfl, fun ho => hd b (by simp [ho]) b hm rfl, ?_⟩
  exact (List.perm_cons_erase hb).symm.map Prod.snd

theorem Valid.put (h : s.Valid buffers ins outs) (hnd : buffers.Nodup) {client : ι} {b : α}
    (hb : (client, b) ∈ s.held) : (s.step (.put client b)).Valid buffers (b :: ins) outs := by
  obtain ⟨hi, ho, hp⟩ := h.release hnd hb
  refine ⟨h.rep.put hi ho, ?_, h.order⟩
  refine List.Perm.trans ?_ h.partition
  exact List.perm_middle.symm.trans (List.Perm.append_left (ins ++ outs) hp)

theorem Valid.store (h : s.Valid buffers ins outs) (hnd : buffers.Nodup) {client : ι} {b : α}
    (hb : (client, b) ∈ s.held) : (s.step (.store client b)).Valid buffers ins (outs ++ [b]) := by
  obtain ⟨hi, ho, hp⟩ := h.release hnd hb
  have hd := (List.nodup_append.mp (List.nodup_append.mp (h.nodup hnd)).1).2.2
  refine ⟨h.rep.store hi ho (fun t ht hti => hd t hti t ht rfl), ?_, ?_⟩
  · refine List.Perm.trans ?_ h.partition
    rw [← List.append_assoc, List.append_assoc]
    exact List.Perm.append_left (ins ++ outs) hp
  · simp [step, h.order]

/-- **One critical section** of a client that keeps the rule. -/
theorem Valid.step (h : s.Valid buffers ins outs) (hnd : buffers.Nodup) (op : Op ι α) (hop : s.Holds op) :
    ∃ ins' outs', (s.step op).Valid buffers ins' outs' := by
  cases op with
  | get client => exact h.get hnd client
  | put client b => exact ⟨_, _, h.put hnd hop⟩
  | load client timed failed =>
    simp only [System.step, Dpipe.loadPass]
    cases ho : s.pipe.outHead with
    | some v => exact ⟨ins, h.unlink hnd client .loaded⟩
    | none =>
      refine ⟨ins, outs, ?_⟩
      cases timed
      · exact h
      · cases failed <;> exact h
  | loadNowait client => exact ⟨ins, h.unlink hnd client .loaded⟩
  | store client b => exact ⟨_, _, h.store hnd hop⟩

/-- **The frame pipe**, after any run of clients that put or store only what they hold: the buffers are
partitioned into the `in` list, the `out` list and what is held; the lists end at `NULL` without a cycle, the counters are
their lengths and `out_tail` is the last node of `out`; what left `out` left it in store order, by a load or, when `in` was
empty, by a `dpipe_get`; and a `dpipe_get` succeeds while fewer than all buffers are held. -/
theorem dpipe_integrity (next : α → Option α) (buffers : List α) (hnd : buffers.Nodup) (ops : List (Op ι α))
    (hops : Meets step Holds (create next buffers) ops) :
    let s := ops.foldl step (create next buffers : System ι α)
    ∃ ins outs,
      Links s.pipe.next s.pipe.inHead ins ∧ ins.Nodup ∧ Links s.pipe.next s.pipe.outHead outs ∧ outs.Nodup ∧
      (ins ++ outs ++ s.held.map Prod.snd).Perm buffers ∧ (ins ++ outs ++ s.held.map Prod.snd).Nodup ∧
      s.pipe.inCount = ins.length ∧ s.pipe.outCount = outs.length ∧ s.pipe.outTail = outs.getLast? ∧
      s.stored = s.taken.map Prod.fst ++ outs ∧
      (s.held.length < buffers.length → s.pipe.get.2 ≠ none) := by
  intro s
  obtain ⟨ins, outs, h⟩ : ∃ ins outs, s.Valid buffers ins outs :=
    Meets.inv (I := fun s : System ι α => ∃ ins outs, s.Valid buffers ins outs)
      (fun s op ⟨_, _, h⟩ hop => h.step hnd op hop) ops _ ⟨_, _, create_valid next buffers hnd⟩ hops
  exact ⟨ins, outs, h.rep.inLinks, h.rep.inLinks.nodup, h.rep.outLinks, h.rep.outLinks.nodup, h.partition, h.nodup hnd,
    h.rep.inCount, h.rep.outCount, h.rep.outTail, h.order, h.get_some hnd⟩

/-- Two buffers, three clients: the second `dpipe_get` of client 1 takes the frame client 0 has stored. -/
def stealing : List (Op Nat Nat) := [.get 0, .store 0 1, .get 1, .get 1, .store 1 0]

theorem dpipe_integrity_stealing :
    let s := stealing.foldl step (create (fun _ => none) [0, 1] : System Nat Nat)
    s.taken = [(1, .stolen)] ∧ s.pipe.get.2 ≠ none := by
  have hops : Meets step Holds (create (fun _ => none) [0, 1] : System Nat Nat) stealing :=
    ⟨trivial, show (0, 1) ∈ _ by decide, trivial, trivial, show (1, 0) ∈ _ by decide, trivial⟩
  obtain ⟨ins, outs, -, -, -, -, -, -, -, -, -, -, hget⟩ :=
    dpipe_integrity (fun _ => none) [0, 1] (by decide) stealing hops
  exact ⟨by decide, hget (by decide)⟩

end System

end CloudStreaming.Streamer
