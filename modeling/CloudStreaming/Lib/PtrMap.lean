import Mathlib.Logic.Function.Basic

/-!
# Maps of pointers

A map from keys to pointers in which an entry may be null, as an access that inserts leaves it: `none` is a key without
an entry, `some none` one whose entry is null. `index` is that access. A map without null entries is one that was only
written to by `set`; there an access that inserts is safe exactly for the keys that are there.
-/

abbrev PtrMap (κ α : Type*) := κ → Option (Option α)

namespace PtrMap

variable {κ α : Type*}

def empty : PtrMap κ α := fun _ => none

/-- No entry is null. -/
def NoNull (m : PtrMap κ α) : Prop := ∀ idx, m idx ≠ some none

def Present (m : PtrMap κ α) (idx : κ) : Prop := ∃ p, m idx = some (some p)

theorem empty_noNull : (empty : PtrMap κ α).NoNull := fun _ h => nomatch h

/-- In a map without null entries, a key has an entry or none. -/
theorem NoNull.present {m : PtrMap κ α} (h : m.NoNull) {idx : κ} (hsome : m idx ≠ none) : m.Present idx := by
  cases hm : m idx with
  | none => exact absurd hm hsome
  | some p =>
    cases p with
    | none => exact absurd hm (h idx)
    | some p => exact ⟨p, hm⟩

variable [DecidableEq κ]

def set (m : PtrMap κ α) (idx : κ) (p : α) : PtrMap κ α := Function.update m idx (some (some p))

/-- `m[idx]`: the map after the access, and the pointer. -/
def index (m : PtrMap κ α) (idx : κ) : PtrMap κ α × Option α :=
  match m idx with
  | some p => (m, p)
  | none => (Function.update m idx (some none), none)

theorem set_present (m : PtrMap κ α) (idx : κ) (p : α) : (m.set idx p).Present idx :=
  ⟨p, Function.update_self idx _ m⟩

theorem NoNull.set {m : PtrMap κ α} (h : m.NoNull) (idx : κ) (p : α) : (m.set idx p).NoNull := by
  intro idx' hnull
  by_cases heq : idx' = idx
  · subst heq
    simp [PtrMap.set] at hnull
  · rw [PtrMap.set, Function.update_of_ne heq] at hnull
    exact h idx' hnull

theorem Present.set {m : PtrMap κ α} {idx : κ} (h : m.Present idx) (idx' : κ) (p : α) :
    (m.set idx' p).Present idx := by
  by_cases heq : idx = idx'
  · subst heq
    exact m.set_present idx p
  · obtain ⟨q, hq⟩ := h
    exact ⟨q, (Function.update_of_ne heq _ m).trans hq⟩

/-- An entry that is there is what `operator[]` gives, and the map stays. -/
theorem index_of_present {m : PtrMap κ α} {idx : κ} {p : α} (h : m idx = some (some p)) :
    m.index idx = (m, some p) := by
  simp only [index, h]

theorem index_of_absent {m : PtrMap κ α} {idx : κ} (h : ¬ m.Present idx) : ∃ m', m.index idx = (m', none) := by
  unfold index
  cases hm : m idx with
  | none => exact ⟨_, rfl⟩
  | some p =>
    cases p with
    | none => exact ⟨m, rfl⟩
    | some p => exact absurd ⟨p, hm⟩ h

end PtrMap
