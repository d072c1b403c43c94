import Mathlib.Data.Nat.Basic

/-!
# Slots of a ring

`N` slots, the first one used is `h`; `slot N h i` is the slot `i` steps further, wrapped once. Slots are
`u` apart in a buffer of `N * u`.
-/

namespace Ring

variable {N h i j u : Nat}

def slot (N h i : Nat) : Nat := if h + i < N then h + i else h + i - N

/-- The next slot's offset, as a program computes it from an offset. -/
def advance (size u p : Nat) : Nat := if p + u = size then 0 else p + u

theorem slot_lt (hh : h < N) (hi : i ≤ N) : slot N h i < N := by
  unfold slot
  split <;> omega

theorem slot_zero (hh : h < N) : slot N h 0 = h := if_pos hh

theorem slot_inj (hi : i < N) (hj : j < N) (he : slot N h i = slot N h j) : i = j := by
  unfold slot at he
  split at he <;> split at he <;> omega

/-- The ring as seen from the next slot. -/
theorem slot_next (hh : h < N) (hi : i < N) : slot N (slot N h 1) i = slot N h (i + 1) := by
  unfold slot
  split <;> split <;> split <;> omega

theorem slot_succ (hh : h < N) (hi : i < N) :
    slot N h (i + 1) = if slot N h i + 1 = N then 0 else slot N h i + 1 := by
  unfold slot
  split <;> split <;> split <;> omega

theorem advance_slot (hh : h < N) (hi : i < N) (hu : 0 < u) :
    advance (N * u) u (slot N h i * u) = slot N h (i + 1) * u := by
  have he : slot N h i * u + u = (slot N h i + 1) * u := (Nat.succ_mul _ _).symm
  rw [slot_succ hh hi, advance, he]
  by_cases hw : slot N h i + 1 = N
  · rw [if_pos (by rw [hw]), if_pos hw, Nat.zero_mul]
  · have hne : ¬(slot N h i + 1) * u = N * u := fun e => hw (Nat.eq_of_mul_eq_mul_right hu e)
    rw [if_neg hne, if_neg hw]

/-- Different slots do not overlap. -/
theorem slot_disjoint (hi : i < N) (hj : j < N) (hne : i ≠ j) :
    slot N h i * u + u ≤ slot N h j * u ∨ slot N h j * u + u ≤ slot N h i * u := by
  have hs : slot N h i ≠ slot N h j := fun e => hne (slot_inj hi hj e)
  rcases Nat.lt_or_gt_of_ne hs with hlt | hlt
  · left
    rw [← Nat.succ_mul]
    exact Nat.mul_le_mul_right u hlt
  · right
    rw [← Nat.succ_mul]
    exact Nat.mul_le_mul_right u hlt

end Ring
