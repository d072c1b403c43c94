import Mathlib.Order.Lattice
import Mathlib.Data.List.Nodup

/-!
# Ordered maps

A map as its entries in ascending order of the keys, which is how an ordered tree map is walked. The order is a field,
so a key is there at most once.
-/

structure OrderedMap (κ ν : Type*) [LinearOrder κ] where
  entries : List (κ × ν)
  ascending : entries.Pairwise fun e e' => e.1 < e'.1

namespace OrderedMap

variable {κ ν : Type*} [LinearOrder κ]

def empty : OrderedMap κ ν := ⟨[], .nil⟩

/-- The entry of the key is put in its place, over an old one. -/
def insertEntry (k : κ) (v : ν) : List (κ × ν) → List (κ × ν)
  | [] => [(k, v)]
  | e :: es =>
    if k < e.1 then (k, v) :: e :: es
    else if k = e.1 then (k, v) :: es
    else e :: insertEntry k v es

theorem mem_insertEntry {k : κ} {v : ν} {e : κ × ν} :
    ∀ {es : List (κ × ν)}, es.Pairwise (fun e e' => e.1 < e'.1) →
      (e ∈ insertEntry k v es ↔ e = (k, v) ∨ e.1 ≠ k ∧ e ∈ es)
  | [], _ => by simp [insertEntry]
  | d :: es, h => by
    obtain ⟨hd, hes⟩ := List.pairwise_cons.mp h
    unfold insertEntry
    split
    · next hlt =>
      have hne : ∀ e' ∈ d :: es, e'.1 ≠ k := by
        intro e' he'
        rcases List.mem_cons.mp he' with rfl | htail
        · exact ne_of_gt hlt
        · exact ne_of_gt (lt_trans hlt (hd e' htail))
      rw [List.mem_cons]
      exact or_congr_right ⟨fun h => ⟨hne e h, h⟩, fun h => h.2⟩
    · split
      · next heq =>
        subst heq
        rw [List.mem_cons, List.mem_cons]
        refine or_congr_right ⟨fun h => ⟨ne_of_gt (hd e h), .inr h⟩, fun h => h.2.resolve_left ?_⟩
        rintro rfl
        exact h.1 rfl
      · next hne =>
        rw [List.mem_cons, List.mem_cons, mem_insertEntry hes]
        constructor
        · rintro (rfl | rfl | ⟨h, hmem⟩)
          · exact .inr ⟨fun h => hne h.symm, .inl rfl⟩
          · exact .inl rfl
          · exact .inr ⟨h, .inr hmem⟩
        · rintro (rfl | ⟨h, rfl | hmem⟩)
          · exact .inr (.inl rfl)
          · exact .inl rfl
          · exact .inr (.inr ⟨h, hmem⟩)

theorem ascending_insertEntry {k : κ} {v : ν} :
    ∀ {es : List (κ × ν)}, es.Pairwise (fun e e' => e.1 < e'.1) →
      (insertEntry k v es).Pairwise fun e e' => e.1 < e'.1
  | [], _ => List.pairwise_singleton _ _
  | d :: es, h => by
    obtain ⟨hd, hes⟩ := List.pairwise_cons.mp h
    unfold insertEntry
    split
    · next hlt =>
      refine List.pairwise_cons.mpr ⟨fun e he => ?_, h⟩
      rcases List.mem_cons.mp he with rfl | htail
      · exact hlt
      · exact lt_trans hlt (hd e htail)
    · split
      · next heq =>
        subst heq
        exact List.pairwise_cons.mpr ⟨hd, hes⟩
      · next hnlt hne =>
        refine List.pairwise_cons.mpr ⟨fun e he => ?_, ascending_insertEntry hes⟩
        rcases (mem_insertEntry hes).mp he with rfl | ⟨-, hmem⟩
        · exact lt_of_le_of_ne (not_lt.mp hnlt) (Ne.symm hne)
        · exact hd e hmem

def insert (m : OrderedMap κ ν) (k : κ) (v : ν) : OrderedMap κ ν :=
  ⟨insertEntry k v m.entries, ascending_insertEntry m.ascending⟩

/-- After an insertion: the new entry, and those of the other keys. -/
theorem mem_insert {m : OrderedMap κ ν} {k : κ} {v : ν} {e : κ × ν} :
    e ∈ (m.insert k v).entries ↔ e = (k, v) ∨ e.1 ≠ k ∧ e ∈ m.entries := mem_insertEntry m.ascending

/-- A key is there once. -/
theorem eq_of_mem {m : OrderedMap κ ν} {k : κ} {v v' : ν} (h : (k, v) ∈ m.entries) (h' : (k, v') ∈ m.entries) :
    v = v' := by
  have hnodup : (m.entries.map Prod.fst).Nodup := List.pairwise_map.mpr (m.ascending.imp ne_of_lt)
  exact congrArg Prod.snd (List.inj_on_of_nodup_map hnodup h h' rfl)

def erase (m : OrderedMap κ ν) (k : κ) : OrderedMap κ ν :=
  ⟨m.entries.filter fun e => e.1 ≠ k, m.ascending.filter _⟩

theorem mem_erase {m : OrderedMap κ ν} {k : κ} {e : κ × ν} : e ∈ (m.erase k).entries ↔ e.1 ≠ k ∧ e ∈ m.entries := by
  rw [erase, List.mem_filter, decide_eq_true_eq, and_comm]

end OrderedMap
