import Mathlib.Data.List.Nodup
import Mathlib.Data.List.Perm.Subperm

/-!
# A table of descriptors

What a process holds open, each under a number. Opening takes the lowest number that is free; a number is in use at most
once, which is a field, so what is open is a list of entries up to their order (`close_perm`, `perm_opened`).
-/

namespace Descriptors

/-- The lowest number that is not in use. -/
def lowest (used : List Nat) : Nat := ((List.range (used.length + 1)).find? fun n => n ∉ used).getD used.length

theorem lowest_not_mem (used : List Nat) : lowest used ∉ used := by
  obtain ⟨n, hn⟩ : ∃ n, (List.range (used.length + 1)).find? (fun n => n ∉ used) = some n := by
    rw [← Option.isSome_iff_exists, List.find?_isSome]
    by_contra hall
    push Not at hall
    have hsub : List.range (used.length + 1) ⊆ used := fun n hn => by simpa using hall n hn
    have hle := (List.nodup_range.subperm hsub).length_le
    rw [List.length_range] at hle
    omega
  rw [lowest, hn]
  simpa using List.find?_some hn

structure Table (ρ : Type*) where
  entries : List (Nat × ρ)
  nodup : (entries.map Prod.fst).Nodup

namespace Table

variable {ρ : Type*}

def empty : Table ρ := ⟨[], .nil⟩

def fresh (t : Table ρ) : Nat := lowest (t.entries.map Prod.fst)

/-- What a number stands for. -/
def get (t : Table ρ) (fd : Nat) : Option ρ := (t.entries.find? fun e => e.1 = fd).map Prod.snd

/-- A resource is opened, as number `t.fresh`. -/
def opened (t : Table ρ) (r : ρ) : Table ρ := ⟨(t.fresh, r) :: t.entries, List.nodup_cons.mpr ⟨lowest_not_mem _, t.nodup⟩⟩

/-- Closing a number that is not in use changes nothing. -/
def close (t : Table ρ) (fd : Nat) : Table ρ :=
  ⟨t.entries.filter fun e => e.1 ≠ fd, t.nodup.sublist (List.filter_sublist.map _)⟩

variable {t : Table ρ} {fd fd' : Nat} {r : ρ}

theorem get_eq_some_iff : t.get fd = some r ↔ (fd, r) ∈ t.entries := by
  constructor
  · intro h
    obtain ⟨e, he, rfl⟩ := Option.map_eq_some_iff.mp h
    have hfd : e.1 = fd := by simpa using List.find?_some he
    rw [← hfd]
    exact List.mem_of_find?_eq_some he
  · intro h
    cases he : t.entries.find? fun e => e.1 = fd with
    | none =>
      have hno := List.find?_eq_none.mp he (fd, r) h
      simp at hno
    | some e =>
      have hfd : e.1 = fd := by simpa using List.find?_some he
      have hsame : e = (fd, r) := List.inj_on_of_nodup_map t.nodup (List.mem_of_find?_eq_some he) h hfd
      rw [get, he, hsame]
      rfl

theorem get_eq_none_iff : t.get fd = none ↔ ∀ r, (fd, r) ∉ t.entries := by
  rw [← Option.not_isSome_iff_eq_none, Option.isSome_iff_exists, not_exists]
  exact forall_congr' fun r => not_congr get_eq_some_iff

@[simp] theorem get_fresh : t.get t.fresh = none := by
  rw [get_eq_none_iff]
  exact fun r hmem => lowest_not_mem _ (List.mem_map_of_mem (f := Prod.fst) hmem)

@[simp] theorem get_opened : (t.opened r).get fd = if fd = t.fresh then some r else t.get fd := by
  by_cases h : fd = t.fresh
  · rw [if_pos h, h]
    simp [get, opened]
  · rw [if_neg h]
    simp [get, opened, Ne.symm h]

@[simp] theorem get_close : (t.close fd).get fd' = if fd' = fd then none else t.get fd' := by
  by_cases h : fd' = fd
  · rw [if_pos h, get_eq_none_iff]
    exact fun r hmem => by simp [close, h] at hmem
  · rw [if_neg h]
    refine Option.ext fun r => ?_
    rw [get_eq_some_iff, get_eq_some_iff]
    simp [close, h]

/-- A number that is in use gives its resource back, and the rest stays. -/
theorem close_perm (h : t.get fd = some r) : t.entries.Perm ((fd, r) :: (t.close fd).entries) := by
  have hnd : t.entries.Nodup := List.Nodup.of_map _ t.nodup
  refine (List.perm_ext_iff_of_nodup hnd ?_).mpr fun e => ?_
  · refine List.nodup_cons.mpr ⟨?_, hnd.filter _⟩
    simp [close]
  · simp only [close, List.mem_cons, List.mem_filter, decide_eq_true_eq]
    constructor
    · intro he
      by_cases hfd : e.1 = fd
      · exact .inl (List.inj_on_of_nodup_map t.nodup he (get_eq_some_iff.mp h) hfd)
      · exact .inr ⟨he, hfd⟩
    · rintro (rfl | ⟨he, -⟩)
      · exact get_eq_some_iff.mp h
      · exact he

/-- What was opened last is closed again. -/
theorem close_opened (t : Table ρ) (r : ρ) : (t.opened r).close t.fresh = t := by
  have he : (t.entries.filter fun e => e.1 ≠ t.fresh) = t.entries := by
    refine List.filter_eq_self.mpr fun e he => ?_
    rw [decide_eq_true_eq]
    intro hfd
    have hmem : (t.fresh, e.2) ∈ t.entries := by rwa [← hfd]
    exact get_eq_none_iff.mp get_fresh e.2 hmem
  obtain ⟨entries, nodup⟩ := t
  simp only [close, opened, mk.injEq]
  rw [List.filter_cons_of_neg (by simp)]
  exact he

end Table

end Descriptors
