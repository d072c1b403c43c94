import Mathlib.Data.List.Infix
import Mathlib.Data.Nat.Find

/-!
# Substrings

`find s p` is the place of the first occurrence of `p` in `s`, and `splitOn d s` the parts of `s` between the
occurrences of `d`, found from left to right. An empty `d` does not divide.
-/

namespace Substrings

variable {α : Type*} [DecidableEq α] {s p d : List α} {i : Nat}

def find (s p : List α) : Option Nat := (s.dropInfix? p).map fun r => r.1.length

/-- What is before the occurrence, the occurrence and what is behind it. -/
theorem eq_of_find (h : find s p = some i) : s = s.take i ++ p ++ s.drop (i + p.length) := by
  obtain ⟨⟨a, b⟩, hab, rfl⟩ := Option.map_eq_some_iff.mp h
  obtain ⟨⟨p', hs, hp'⟩, -⟩ := List.dropInfix?_eq_some_iff.mp hab
  obtain rfl := eq_of_beq hp'
  rw [hs]
  simp

theorem length_of_find (h : find s p = some i) : i + p.length ≤ s.length := by
  have hlen := congrArg List.length (eq_of_find h)
  have hi : i ≤ s.length := by
    obtain ⟨⟨a, b⟩, hab, rfl⟩ := Option.map_eq_some_iff.mp h
    obtain ⟨⟨p', hs, -⟩, -⟩ := List.dropInfix?_eq_some_iff.mp hab
    simp [hs]
  simp only [List.length_append, List.length_take, List.length_drop] at hlen
  omega

/-- No occurrence is further to the left. -/
theorem le_of_find {a b : List α} (h : find s p = some i) (hs : s = a ++ p ++ b) : i ≤ a.length := by
  obtain ⟨⟨x, y⟩, hxy, rfl⟩ := Option.map_eq_some_iff.mp h
  exact (List.dropInfix?_eq_some_iff.mp hxy).2 a p b hs (beq_self_eq_true p)

theorem find_of_infix (h : p <:+: s) : ∃ i, find s p = some i := by
  classical
  obtain ⟨a, b, hs⟩ := h
  -- the shortest part that can stand before an occurrence
  have hex : ∃ n, ∃ a b, s = a ++ p ++ b ∧ a.length = n := ⟨a.length, a, b, hs.symm, rfl⟩
  obtain ⟨a', b', hs', hlen⟩ := Nat.find_spec hex
  have hdrop : s.dropInfix? p = some (a', b') := by
    refine List.dropInfix?_eq_some_iff.mpr ⟨⟨p, hs', beq_self_eq_true p⟩, fun x p' y hx hp' => ?_⟩
    obtain rfl := eq_of_beq hp'
    rw [hlen]
    exact Nat.find_min' hex ⟨x, y, hx, rfl⟩
  exact ⟨a'.length, by rw [find, hdrop]; rfl⟩

theorem find_isSome : (find s p).isSome = true ↔ p <:+: s := by
  constructor
  · intro h
    obtain ⟨i, hi⟩ := Option.isSome_iff_exists.mp h
    exact ⟨s.take i, s.drop (i + p.length), (eq_of_find hi).symm⟩
  · intro h
    obtain ⟨i, hi⟩ := find_of_infix h
    rw [hi]
    rfl

theorem find_eq_zero : find s p = some 0 ↔ p <+: s := by
  constructor
  · intro h
    have := eq_of_find h
    exact ⟨s.drop p.length, by simpa using this.symm⟩
  · rintro ⟨b, rfl⟩
    obtain ⟨i, hi⟩ := find_of_infix (s := p ++ b) ⟨[], b, rfl⟩
    have := le_of_find hi (a := []) (b := b) rfl
    rw [hi, Nat.le_zero.mp this]

/-- The first part, and what is behind the delimiter; all of it if there is none. -/
def cut (d s : List α) : List α × Option (List α) :=
  match find s d with
  | some i => if 0 < d.length then (s.take i, some (s.drop (i + d.length))) else (s, none)
  | none => (s, none)

theorem length_cut {r : List α} (h : (cut d s).2 = some r) : r.length < s.length := by
  unfold cut at h
  split at h
  · next i hi =>
    split at h
    · cases h
      have := length_of_find hi
      rw [List.length_drop]
      omega
    · cases h
  · cases h

def splitOn (d s : List α) : List (List α) :=
  match _h : (cut d s).2 with
  | some r => (cut d s).1 :: splitOn d r
  | none => [(cut d s).1]
termination_by s.length
decreasing_by exact length_cut _h

theorem splitOn_some {r : List α} (h : (cut d s).2 = some r) : splitOn d s = (cut d s).1 :: splitOn d r := by
  rw [splitOn]
  split
  · next r' h' =>
    obtain rfl : r' = r := Option.some.inj (h'.symm.trans h)
    rfl
  · next h' => exact absurd (h.symm.trans h') (by simp)

theorem splitOn_none (h : (cut d s).2 = none) : splitOn d s = [(cut d s).1] := by
  rw [splitOn]
  split
  · next r' h' => exact absurd (h.symm.trans h') (by simp)
  · rfl

theorem splitOn_ne_nil (d s : List α) : splitOn d s ≠ [] := by
  rw [splitOn]
  split <;> simp

end Substrings
