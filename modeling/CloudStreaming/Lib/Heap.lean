import Mathlib.Logic.Function.Basic

/-!
# A heap that names its cells

Cells are named in the order of their allocation and a name is given once, so a freed cell stays freed. A
pointer that is kept after its cell was freed reads `none`: a program over this heap that never does so is one
for which it plays no role that an allocator hands out addresses again.
-/

namespace Alloc

/-- `next` is the name of the next cell; no cell from there on is in use. -/
structure Heap (α : Type*) where
  cells : Nat → Option α
  next : Nat
  fresh : ∀ i, next ≤ i → cells i = none

namespace Heap

variable {α : Type*}

def empty : Heap α := ⟨fun _ => none, 0, fun _ _ => rfl⟩

/-- A new cell, named `h.next`. -/
def alloc (h : Heap α) (a : α) : Heap α where
  cells := Function.update h.cells h.next (some a)
  next := h.next + 1
  fresh i hi := by
    rw [Function.update_of_ne (by omega)]
    exact h.fresh i (by omega)

def modify (h : Heap α) (p : Nat) (f : α → α) : Heap α where
  cells := Function.update h.cells p ((h.cells p).map f)
  next := h.next
  fresh i hi := by
    by_cases hip : i = p
    · subst hip
      rw [Function.update_self, h.fresh i hi, Option.map_none]
    · rw [Function.update_of_ne hip, h.fresh i hi]

def free (h : Heap α) (p : Nat) : Heap α where
  cells := Function.update h.cells p none
  next := h.next
  fresh i hi := by
    by_cases hip : i = p
    · rw [hip, Function.update_self]
    · rw [Function.update_of_ne hip, h.fresh i hi]

/-- No cell is in use any more, and their names are not given again. -/
def clear (h : Heap α) : Heap α := ⟨fun _ => none, h.next, fun _ _ => rfl⟩

variable {h : Heap α} {p q : Nat} {a : α} {f : α → α}

theorem lt_next (hp : (h.cells p).isSome) : p < h.next := by
  by_contra hlt
  rw [h.fresh p (by omega)] at hp
  cases hp

@[simp] theorem modify_next : (h.modify p f).next = h.next := rfl

@[simp] theorem free_next : (h.free p).next = h.next := rfl

@[simp] theorem alloc_self : (h.alloc a).cells h.next = some a := Function.update_self ..

theorem alloc_ne (hp : p ≠ h.next) : (h.alloc a).cells p = h.cells p := Function.update_of_ne hp ..

@[simp] theorem modify_self : (h.modify p f).cells p = (h.cells p).map f := Function.update_self ..

theorem modify_ne (hp : q ≠ p) : (h.modify p f).cells q = h.cells q := Function.update_of_ne hp ..

@[simp] theorem free_self : (h.free p).cells p = none := Function.update_self ..

theorem free_ne (hp : q ≠ p) : (h.free p).cells q = h.cells q := Function.update_of_ne hp ..

end Heap

end Alloc
