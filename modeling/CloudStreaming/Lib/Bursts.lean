import Mathlib.Data.List.Infix

/-!
# Bursts and gaps in a sequence of decisions

A log of yes/no decisions, newest first. `Spaced D G` bounds the bursts by `D` and asks for `G` pauses
between two of them; the two counters a limiter keeps, `lead` (the burst it is in) and `sinceLast` (the
pauses since the last burst), decide whether one more decision keeps the law.
-/

namespace Bursts

/-- At most `D` in a row, and at least `G` pauses between one burst and the next. -/
structure Spaced (D G : Nat) (log : List Bool) : Prop where
  burst : ¬ List.replicate (D + 1) true <:+: log
  gap : ∀ k, 0 < k → true :: (List.replicate k false ++ [true]) <:+: log → G ≤ k

/-- The length of the burst in front. -/
def lead : List Bool → Nat
  | true :: log => lead log + 1
  | _ => 0

/-- The pauses in front of the last burst, if there was one. -/
def sinceLast : List Bool → Option Nat
  | [] => none
  | true :: _ => some 0
  | false :: log => (sinceLast log).map (· + 1)

theorem le_lead {n : Nat} {log : List Bool} (h : List.replicate n true <+: log) : n ≤ lead log := by
  induction n generalizing log with
  | zero => exact Nat.zero_le _
  | succ n ih =>
    obtain ⟨rest, rfl⟩ := h
    exact Nat.succ_le_succ (ih ⟨rest, rfl⟩)

theorem sinceLast_eq {k : Nat} {log : List Bool} (h : List.replicate k false ++ [true] <+: log) :
    sinceLast log = some k := by
  induction k generalizing log with
  | zero =>
    obtain ⟨rest, rfl⟩ := h
    rfl
  | succ k ih =>
    obtain ⟨rest, rfl⟩ := h
    have hk : sinceLast (List.replicate k false ++ [true] ++ rest) = some k := ih ⟨rest, rfl⟩
    show (sinceLast (List.replicate k false ++ [true] ++ rest)).map (· + 1) = some (k + 1)
    rw [hk]
    rfl

variable {D G : Nat} {log : List Bool}

theorem Spaced.nil : Spaced D G [] := by
  refine ⟨fun h => ?_, fun k _ h => ?_⟩
  · have := List.infix_nil.mp h
    simp at this
  · have := List.infix_nil.mp h
    simp at this

theorem Spaced.cons_false (h : Spaced D G log) : Spaced D G (false :: log) := by
  refine ⟨fun hi => ?_, fun k hk hi => ?_⟩
  · rcases List.infix_cons_iff.mp hi with hp | hi
    · rw [List.replicate_succ, List.cons_prefix_cons] at hp
      exact absurd hp.1 (by decide)
    · exact h.burst hi
  · rcases List.infix_cons_iff.mp hi with hp | hi
    · rw [List.cons_prefix_cons] at hp
      exact absurd hp.1 (by decide)
    · exact h.gap k hk hi

theorem Spaced.cons_true (h : Spaced D G log) (hb : lead log < D)
    (hg : lead log = 0 → ∀ k, sinceLast log = some k → G ≤ k) : Spaced D G (true :: log) := by
  refine ⟨fun hi => ?_, fun k hk hi => ?_⟩
  · rcases List.infix_cons_iff.mp hi with hp | hi
    · rw [List.replicate_succ, List.cons_prefix_cons] at hp
      have := le_lead hp.2
      omega
    · exact h.burst hi
  · rcases List.infix_cons_iff.mp hi with hp | hi
    · rw [List.cons_prefix_cons] at hp
      refine hg ?_ k (sinceLast_eq hp.2)
      -- a pause comes first, so no burst is running
      obtain ⟨rest, rfl⟩ := hp.2
      obtain ⟨j, rfl⟩ : ∃ j, k = j + 1 := ⟨k - 1, by omega⟩
      rfl
    · exact h.gap k hk hi

/-- Read oldest first, the law is the same. -/
theorem Spaced.reverse (h : Spaced D G log) : Spaced D G log.reverse := by
  refine ⟨fun hi => ?_, fun k hk hi => ?_⟩
  · refine h.burst ?_
    rw [← List.reverse_infix, List.reverse_replicate]
    exact hi
  · refine h.gap k hk ?_
    rw [← List.reverse_infix]
    simpa using hi

end Bursts
