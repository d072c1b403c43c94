import Mathlib.Data.List.Nodup
import Mathlib.Logic.Function.Basic

/-!
# Singly linked lists in a heap of `next` fields

`Links next h l` says that the chain that starts at `h` runs through exactly the nodes of `l` and ends at
the null pointer. Lists that share no node can be relinked independently of each other.
-/

namespace Linked

variable {α : Type*} {next : α → Option α} {h : Option α} {l : List α}

/-- The chain from `h` is `l`. -/
def Links (next : α → Option α) : Option α → List α → Prop
  | h, [] => h = none
  | h, a :: l => h = some a ∧ Links next (next a) l

theorem Links.congr {next' : α → Option α} (hl : Links next h l) (he : ∀ a ∈ l, next' a = next a) :
    Links next' h l := by
  induction l generalizing h with
  | nil => exact hl
  | cons a l ih =>
    refine ⟨hl.1, ?_⟩
    rw [he a (by simp)]
    exact ih hl.2 fun b hb => he b (by simp [hb])

theorem Links.cases_none (hl : Links next none l) : l = [] := by
  cases l with
  | nil => rfl
  | cons a l => exact absurd hl.1 (by simp)

theorem Links.cases_some {a : α} (hl : Links next (some a) l) : ∃ rest, l = a :: rest ∧ Links next (next a) rest := by
  cases l with
  | nil => exact absurd hl (by simp [Links])
  | cons b rest =>
    obtain ⟨hb, hr⟩ := hl
    cases hb
    exact ⟨rest, rfl, hr⟩

/-- A chain is determined by its head. -/
theorem Links.unique {l' : List α} (hl : Links next h l) (hl' : Links next h l') : l = l' := by
  induction l generalizing h l' with
  | nil =>
    rw [show h = none from hl] at hl'
    exact hl'.cases_none.symm
  | cons a l ih =>
    obtain ⟨rfl, hr⟩ := hl
    obtain ⟨rest, rfl, hr'⟩ := hl'.cases_some
    rw [ih hr hr']

theorem Links.suffix {a : α} {pre post : List α} (hl : Links next h (pre ++ a :: post)) :
    Links next (some a) (a :: post) := by
  induction pre generalizing h with
  | nil => exact ⟨rfl, hl.2⟩
  | cons b pre ih => exact ih hl.2

/-- **A chain that ends is acyclic.** -/
theorem Links.nodup (hl : Links next h l) : l.Nodup := by
  induction l generalizing h with
  | nil => exact List.nodup_nil
  | cons a l ih =>
    refine List.nodup_cons.mpr ⟨fun ha => ?_, ih hl.2⟩
    -- a second visit to `a` would have to see the same rest again
    obtain ⟨pre, post, rfl⟩ := List.append_of_mem ha
    have h1 : Links next (some a) (a :: (pre ++ a :: post)) := ⟨rfl, hl.2⟩
    have h2 : Links next (some a) (a :: post) := Links.suffix hl.2
    have he := congrArg List.length (h1.unique h2)
    simp only [List.length_cons, List.length_append] at he
    omega

variable [DecidableEq α]

/-- A write to a node outside the chain. -/
theorem Links.update {a : α} (hl : Links next h l) (ha : a ∉ l) (v : Option α) :
    Links (Function.update next a v) h l := by
  refine hl.congr fun b hb => ?_
  have hba : b ≠ a := fun e => ha (e ▸ hb)
  rw [Function.update_of_ne hba]

/-- A node pushed in front. -/
theorem Links.push {a : α} (hl : Links next h l) (ha : a ∉ l) : Links (Function.update next a h) (some a) (a :: l) := by
  refine ⟨rfl, ?_⟩
  rw [Function.update_self]
  exact hl.update ha h

/-- A node linked behind the last one. -/
theorem Links.snoc {a t : α} (hl : Links next h (l ++ [t])) (ha : a ∉ l ++ [t]) :
    Links (Function.update (Function.update next t (some a)) a none) h (l ++ [t] ++ [a]) := by
  have hnd := hl.nodup
  induction l generalizing h with
  | nil =>
    have hat : a ≠ t := by simpa using ha
    refine ⟨hl.1, ?_, ?_⟩
    · rw [Function.update_of_ne hat.symm, Function.update_self]
    · rw [Function.update_self]
      rfl
  | cons b l ih =>
    simp only [List.cons_append, List.mem_cons, not_or, List.nodup_cons] at ha hnd
    refine ⟨hl.1, ?_⟩
    have hbt : b ≠ t := fun e => hnd.1 (by simp [e])
    rw [Function.update_of_ne (Ne.symm ha.1), Function.update_of_ne hbt]
    exact ih hl.2 ha.2 hnd.2

/-- A node alone. -/
theorem Links.single (next : α → Option α) (a : α) : Links (Function.update next a none) (some a) [a] := by
  refine ⟨rfl, ?_⟩
  rw [Function.update_self]
  rfl

end Linked
