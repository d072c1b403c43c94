import Mathlib.Data.List.GetD
import Mathlib.Data.List.Range

/-!
# Memory as a function

A buffer is what its addresses hold. `load m p n` are the `n` values from `p` on, `store m p xs` puts `xs`
there; a copy within one buffer is a write of what was read. Bounds are not part of the memory: where a
program must stay inside a buffer, that is a statement about `p` and the length.
-/

namespace Memory

variable {α : Type*}

def load (m : Nat → α) (p n : Nat) : List α := (List.range n).map fun i => m (p + i)

def store (m : Nat → α) (p : Nat) (xs : List α) : Nat → α := fun i => if p ≤ i then xs.getD (i - p) (m i) else m i

@[simp] theorem load_length (m : Nat → α) (p n : Nat) : (load m p n).length = n := by simp [load]

@[simp] theorem load_zero (m : Nat → α) (p : Nat) : load m p 0 = [] := rfl

theorem load_congr {m m' : Nat → α} {p q n : Nat} (h : ∀ i, i < n → m (p + i) = m' (q + i)) :
    load m p n = load m' q n := by
  refine List.map_congr_left fun i hi => ?_
  exact h i (List.mem_range.mp hi)

theorem load_add (m : Nat → α) (p n k : Nat) : load m p (n + k) = load m p n ++ load m (p + n) k := by
  simp only [load, List.range_add, List.map_append, List.map_map]
  congr 1
  refine List.map_congr_left fun i _ => ?_
  show m (p + (n + i)) = m (p + n + i)
  rw [Nat.add_assoc]

theorem store_inside {m : Nat → α} {p i : Nat} {xs : List α} (h : i < xs.length) : store m p xs (p + i) = xs[i] := by
  rw [store, if_pos (Nat.le_add_right p i), Nat.add_sub_cancel_left, List.getD_eq_getElem _ _ h]

theorem store_outside {m : Nat → α} {p i : Nat} {xs : List α} (h : i < p ∨ p + xs.length ≤ i) :
    store m p xs i = m i := by
  unfold store
  split
  · rw [List.getD_eq_default _ _ (by omega)]
  · rfl

/-- What was written is read back. -/
theorem load_store_self (m : Nat → α) (p : Nat) (xs : List α) : load (store m p xs) p xs.length = xs := by
  refine List.ext_getElem (by simp) fun i h1 h2 => ?_
  simp only [load, List.getElem_map, List.getElem_range]
  exact store_inside h2

/-- A write leaves what lies beside it. -/
theorem load_store_disjoint {m : Nat → α} {p q n : Nat} {xs : List α} (h : q + n ≤ p ∨ p + xs.length ≤ q) :
    load (store m p xs) q n = load m q n := by
  refine load_congr fun i hi => store_outside ?_
  omega

/-- Writing what is there changes nothing. -/
theorem store_load_self (m : Nat → α) (p n : Nat) : store m p (load m p n) = m := by
  funext i
  by_cases hi : p ≤ i ∧ i < p + n
  · obtain ⟨j, rfl⟩ := Nat.exists_eq_add_of_le hi.1
    rw [store_inside (by rw [load_length]; omega)]
    simp [load]
  · exact store_outside (by rw [load_length]; omega)

/-- The front of a region, and what follows it. -/
theorem load_eq_append {m : Nat → α} {p : Nat} {xs ys : List α} {n : Nat} (h : load m p n = xs ++ ys) :
    load m p xs.length = xs ∧ load m (p + xs.length) ys.length = ys := by
  have hn : n = xs.length + ys.length := by
    have := congrArg List.length h
    simpa using this
  rw [hn, load_add] at h
  exact List.append_inj h (by simp)

end Memory
