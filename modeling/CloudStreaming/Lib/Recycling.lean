import Mathlib.Data.Fintype.Basic
import Mathlib.Data.List.Nodup
import Mathlib.Logic.Function.Basic

/-!
# Recycled buffers

A pool hands buffers out and takes them back. Who asks for one has it in hand until it is wrapped into an object; the object
is shared by the slots that refer to it, and when the last of them lets it go the buffer returns to the pool it came from, or
is lost if that pool is gone.

`Unshared`: what is in hand or in an object is not free, and no two objects have the same buffer. So a buffer in use is not
handed out again (`Unshared.acquire_unused`).
-/

namespace Recycling

open Function

/-- An object; `tag` is what its user keeps with it. -/
structure Item (τ : Type*) where
  buffer : Nat
  pool : Option Nat
  tag : τ
  deriving DecidableEq

/-- `pool` is the pool there is now, by its number; buffers are numbered as they are created. -/
structure Store (κ τ : Type*) where
  pool : Option Nat
  free : List Nat
  hand : Option Nat
  slot : κ → Option (Item τ)
  nextBuffer : Nat
  nextPool : Nat

variable {κ τ : Type*}

namespace Store

def init : Store κ τ := ⟨none, [], none, fun _ => none, 0, 0⟩

/-- The pool is gone, with its free buffers. -/
def dropPool (s : Store κ τ) : Store κ τ := { s with pool := none, free := [] }

/-- Another pool takes its place, if it does not fit or there is none. -/
def renew (s : Store κ τ) (changed : Bool) : Store κ τ :=
  let renewed := changed || s.pool.isNone
  { s with
    pool := if renewed then some s.nextPool else s.pool
    free := if renewed then [] else s.free
    nextPool := s.nextPool + 1 }

/-- The first free buffer that is ready, or a new one. -/
def acquired (s : Store κ τ) (ready : Nat → Bool) : Nat := (s.free.find? ready).getD s.nextBuffer

def acquire (s : Store κ τ) (ready : Nat → Bool) : Store κ τ :=
  { s with
    free := s.free.erase (s.acquired ready)
    hand := some (s.acquired ready)
    nextBuffer := if (s.free.find? ready).isSome then s.nextBuffer else s.nextBuffer + 1 }

/-- What is in hand is destroyed. -/
def discard (s : Store κ τ) : Store κ τ := { s with hand := none }

section
variable [Fintype κ] [DecidableEq κ] [DecidableEq τ]

/-- A slot is assigned; the object it referred to goes if no other slot refers to it. -/
def set (s : Store κ τ) (k : κ) (v : Option (Item τ)) : Store κ τ :=
  let slot := update s.slot k v
  match s.slot k with
  | none => { s with slot := slot }
  | some old =>
    if (∃ j, slot j = some old) ∨ old.pool = none ∨ s.pool ≠ old.pool then { s with slot := slot }
    else { s with slot := slot, free := s.free ++ [old.buffer] }

/-- What is in hand becomes an object, which a slot refers to. -/
def wrap (s : Store κ τ) (k : κ) (b : Nat) (tag : τ) : Store κ τ := { s with hand := none }.set k (some ⟨b, s.pool, tag⟩)

end

end Store

structure Unshared (s : Store κ τ) : Prop where
  nodup : s.free.Nodup
  free : ∀ b ∈ s.free, b < s.nextBuffer
  hand : ∀ b, s.hand = some b → b < s.nextBuffer ∧ b ∉ s.free ∧ ∀ k x, s.slot k = some x → x.buffer ≠ b
  held : ∀ k x, s.slot k = some x → x.buffer < s.nextBuffer ∧ x.buffer ∉ s.free
  alone : ∀ k j x y, s.slot k = some x → s.slot j = some y → x.buffer = y.buffer → x = y

namespace Unshared

variable {s : Store κ τ} {ready : Nat → Bool}

theorem init : Unshared (Store.init : Store κ τ) := by
  constructor <;> simp [Store.init]

theorem dropPool (h : Unshared s) : Unshared s.dropPool where
  nodup := .nil
  free := by simp [Store.dropPool]
  hand b hb := ⟨(h.hand b hb).1, by simp [Store.dropPool], (h.hand b hb).2.2⟩
  held k x hx := ⟨(h.held k x hx).1, by simp [Store.dropPool]⟩
  alone := h.alone

theorem renew (h : Unshared s) (changed : Bool) : Unshared (s.renew changed) := by
  have hsub : (s.renew changed).free.Sublist s.free := by
    simp only [Store.renew]
    split
    · exact List.nil_sublist _
    · exact List.Sublist.refl _
  constructor
  case nodup => exact h.nodup.sublist hsub
  case free => exact fun b hb => h.free b (hsub.subset hb)
  case hand => exact fun b hb => ⟨(h.hand b hb).1, fun hmem => (h.hand b hb).2.1 (hsub.subset hmem), (h.hand b hb).2.2⟩
  case held => exact fun k x hx => ⟨(h.held k x hx).1, fun hmem => (h.held k x hx).2 (hsub.subset hmem)⟩
  case alone => exact h.alone

/-- What is handed out is a free buffer that is ready, or a new one. -/
theorem acquired_cases (s : Store κ τ) (ready : Nat → Bool) :
    (s.acquired ready ∈ s.free ∧ ready (s.acquired ready) = true) ∨ s.acquired ready = s.nextBuffer := by
  rw [Store.acquired]
  cases hfind : s.free.find? ready with
  | none => exact .inr rfl
  | some b => exact .inl ⟨List.mem_of_find?_eq_some hfind, List.find?_some hfind⟩

/-- A buffer in use is not handed out. -/
theorem acquire_unused (h : Unshared s) (ready : Nat → Bool) :
    ∀ k x, s.slot k = some x → x.buffer ≠ s.acquired ready := by
  intro k x hx heq
  have hheld := h.held k x hx
  rcases acquired_cases s ready with ⟨hmem, -⟩ | hnew
  · exact hheld.2 (heq ▸ hmem)
  · rw [heq, hnew] at hheld
    exact absurd hheld.1 (Nat.lt_irrefl _)

theorem acquire (h : Unshared s) (ready : Nat → Bool) : Unshared (s.acquire ready) := by
  have hle : s.nextBuffer ≤ (s.acquire ready).nextBuffer := by
    simp only [Store.acquire]
    split <;> omega
  have hsub : (s.acquire ready).free ⊆ s.free := List.erase_subset
  have hlt : s.acquired ready < (s.acquire ready).nextBuffer := by
    simp only [Store.acquire, Store.acquired]
    cases hfind : s.free.find? ready with
    | none => exact Nat.lt_succ_self _
    | some b => exact h.free b (List.mem_of_find?_eq_some hfind)
  constructor
  case nodup => exact h.nodup.erase _
  case free => exact fun b hb => Nat.lt_of_lt_of_le (h.free b (hsub hb)) hle
  case hand =>
    intro b hb
    obtain rfl := Option.some.inj hb
    refine ⟨hlt, ?_, fun k x hx => h.acquire_unused ready k x hx⟩
    exact h.nodup.not_mem_erase
  case held => exact fun k x hx => ⟨Nat.lt_of_lt_of_le (h.held k x hx).1 hle, fun hb => (h.held k x hx).2 (hsub hb)⟩
  case alone => exact h.alone

theorem discard (h : Unshared s) : Unshared s.discard where
  nodup := h.nodup
  free := h.free
  hand := by simp [Store.discard]
  held := h.held
  alone := h.alone

section
variable [Fintype κ] [DecidableEq κ] [DecidableEq τ] {k : κ} {v : Option (Item τ)}

@[simp] theorem set_slot (s : Store κ τ) (k : κ) (v : Option (Item τ)) : (s.set k v).slot = update s.slot k v := by
  simp only [Store.set]
  split
  · rfl
  · split <;> rfl

@[simp] theorem set_hand (s : Store κ τ) (k : κ) (v : Option (Item τ)) : (s.set k v).hand = s.hand := by
  simp only [Store.set]
  split
  · rfl
  · split <;> rfl

@[simp] theorem set_nextBuffer (s : Store κ τ) (k : κ) (v : Option (Item τ)) :
    (s.set k v).nextBuffer = s.nextBuffer := by
  simp only [Store.set]
  split
  · rfl
  · split <;> rfl

/-- What a slot has after an assignment: what was assigned to it, or what it had. -/
theorem set_cases {s : Store κ τ} {j : κ} {x : Item τ} (h : (s.set k v).slot j = some x) :
    (j = k ∧ v = some x) ∨ (j ≠ k ∧ s.slot j = some x) := by
  rw [set_slot] at h
  by_cases hj : j = k
  · subst hj
    rw [update_self] at h
    exact .inl ⟨rfl, h⟩
  · rw [update_of_ne hj] at h
    exact .inr ⟨hj, h⟩

/-- A buffer that an assignment gives back was in an object that no slot refers to any more. -/
theorem set_free (s : Store κ τ) (k : κ) (v : Option (Item τ)) :
    (s.set k v).free = s.free ∨
      ∃ old, s.slot k = some old ∧ (∀ j, update s.slot k v j ≠ some old) ∧ (s.set k v).free = s.free ++ [old.buffer] := by
  simp only [Store.set]
  split
  · exact .inl rfl
  case h_2 old hold =>
    split
    · exact .inl rfl
    case isFalse hlast =>
      refine .inr ⟨old, hold, fun j hj => hlast (.inl ⟨j, hj⟩), rfl⟩

/-- A slot may be assigned what another slot has, or nothing, or an object whose buffer is not in use. -/
theorem set (h : Unshared s)
    (hv : ∀ x, v = some x → (∃ j, s.slot j = some x) ∨
      (x.buffer < s.nextBuffer ∧ x.buffer ∉ s.free ∧ s.hand ≠ some x.buffer ∧ ∀ j y, s.slot j = some y → y.buffer ≠ x.buffer)) :
    Unshared (s.set k v) := by
  -- what the slots have afterwards
  have hslot : ∀ j x, (s.set k v).slot j = some x → (∃ i, s.slot i = some x) ∨ (v = some x ∧ x.buffer < s.nextBuffer ∧
      x.buffer ∉ s.free ∧ s.hand ≠ some x.buffer ∧ ∀ j y, s.slot j = some y → y.buffer ≠ x.buffer) := by
    intro j x hx
    rcases set_cases hx with ⟨-, hx⟩ | ⟨-, hx⟩
    · rcases hv x hx with hold | hnew
      · exact .inl hold
      · exact .inr ⟨hx, hnew⟩
    · exact .inl ⟨j, hx⟩
  have halone : ∀ i j x y, (s.set k v).slot i = some x → (s.set k v).slot j = some y → x.buffer = y.buffer → x = y := by
    intro i j x y hx hy hxy
    rcases hslot i x hx with ⟨i', hx'⟩ | ⟨hvx, -, -, -, hnew⟩ <;> rcases hslot j y hy with ⟨j', hy'⟩ | ⟨hvy, -, -, -, hnew'⟩
    · exact h.alone i' j' x y hx' hy' hxy
    · exact absurd hxy (hnew' i' x hx')
    · exact absurd hxy.symm (hnew j' y hy')
    · rw [hvx] at hvy
      exact Option.some.inj hvy
  have hfree : ∀ b ∈ (s.set k v).free, b ∈ s.free ∨
      ∃ old, s.slot k = some old ∧ b = old.buffer ∧ ∀ j, (s.set k v).slot j ≠ some old := by
    intro b hb
    rcases set_free s k v with heq | ⟨old, hold, hlast, heq⟩
    · exact .inl (heq ▸ hb)
    · rw [heq] at hb
      rcases List.mem_append.mp hb with hb | hb
      · exact .inl hb
      · refine .inr ⟨old, hold, List.mem_singleton.mp hb, fun j => ?_⟩
        rw [set_slot]
        exact hlast j
  constructor
  case nodup =>
    rcases set_free s k v with heq | ⟨old, hold, -, heq⟩
    · rw [heq]
      exact h.nodup
    · rw [heq, List.nodup_append]
      refine ⟨h.nodup, List.nodup_singleton _, fun a ha b hb hab => ?_⟩
      rw [hab, List.mem_singleton.mp hb] at ha
      exact (h.held k old hold).2 ha
  case free =>
    intro b hb
    rw [set_nextBuffer]
    rcases hfree b hb with hb | ⟨old, hold, rfl, -⟩
    · exact h.free b hb
    · exact (h.held k old hold).1
  case hand =>
    intro b hb
    rw [set_hand] at hb
    obtain ⟨hlt, hnot, hslots⟩ := h.hand b hb
    refine ⟨?_, fun hmem => ?_, fun j x hx => ?_⟩
    · rw [set_nextBuffer]
      exact hlt
    · rcases hfree b hmem with hmem | ⟨old, hold, heq, -⟩
      · exact hnot hmem
      · exact hslots k old hold heq.symm
    · rcases hslot j x hx with ⟨i, hx'⟩ | ⟨-, -, -, hhand, -⟩
      · exact hslots i x hx'
      · rintro rfl
        exact hhand hb
  case held =>
    intro j x hx
    rw [set_nextBuffer]
    rcases hslot j x hx with ⟨i, hx'⟩ | ⟨-, hlt, hnot, -, hnew⟩
    · refine ⟨(h.held i x hx').1, fun hmem => ?_⟩
      rcases hfree _ hmem with hmem | ⟨old, hold, heq, hlast⟩
      · exact (h.held i x hx').2 hmem
      · obtain rfl := h.alone i k x old hx' hold heq
        exact hlast j hx
    · refine ⟨hlt, fun hmem => ?_⟩
      rcases hfree _ hmem with hmem | ⟨old, hold, heq, -⟩
      · exact hnot hmem
      · exact hnew k old hold heq.symm
  case alone => exact halone

theorem clear (h : Unshared s) : Unshared (s.set k none) := h.set fun _ hx => nomatch hx

theorem copy (h : Unshared s) {j : κ} (hv : s.slot j = v) : Unshared (s.set k v) :=
  h.set fun _ hx => .inl ⟨j, hv.trans hx⟩

theorem wrap (h : Unshared s) {b : Nat} (hb : s.hand = some b) (k : κ) (tag : τ) : Unshared (s.wrap k b tag) := by
  obtain ⟨hlt, hnot, hslots⟩ := h.hand b hb
  refine h.discard.set fun x hx => .inr ?_
  obtain rfl := Option.some.inj hx
  exact ⟨hlt, hnot, by simp [Store.discard], hslots⟩

end

end Unshared

end Recycling
