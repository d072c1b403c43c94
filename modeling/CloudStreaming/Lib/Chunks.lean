import Mathlib.Data.List.Infix

/-!
# A stream of chunks, cut anywhere

The concatenation of `chunks` is received in pieces. After any prefix of the bytes some chunks are complete
and at most one is cut (`of_flatten`); `CutsBehindStart` says of two divisions of one stream, into
chunks and into pieces, that a chunk that is cut by the pieces starts with a piece.
-/

namespace Chunks

variable {α : Type*}

/-- A proper, non-empty initial part of a chunk. -/
def Part (p m : List α) : Prop := p ≠ [] ∧ ∃ rest, rest ≠ [] ∧ p ++ rest = m

theorem Part.length_lt {p m : List α} (h : Part p m) : p.length < m.length := by
  obtain ⟨-, rest, hr, rfl⟩ := h
  have := List.length_pos_iff.mpr hr
  rw [List.length_append]
  omega

/-- What has arrived: whole chunks, then perhaps a part of the next. -/
theorem of_flatten (chunks : List (List α)) (x y : List α) (h : x ++ y = chunks.flatten) :
    ∃ done rest p, chunks = done ++ rest ∧ x = done.flatten ++ p ∧
      (p = [] ∨ ∃ m rest', rest = m :: rest' ∧ Part p m) := by
  induction chunks generalizing x with
  | nil =>
    obtain ⟨rfl, -⟩ := List.append_eq_nil_iff.mp h
    exact ⟨[], [], [], rfl, rfl, Or.inl rfl⟩
  | cons m chunks ih =>
    rw [List.flatten_cons] at h
    rcases List.append_eq_append_iff.mp h with ⟨rest, hm, -⟩ | ⟨x', hx, hx'⟩
    · -- the cut is in the first chunk, or right behind it
      by_cases hp : x = []
      · exact ⟨[], m :: chunks, [], rfl, by simpa using hp, Or.inl rfl⟩
      · by_cases hr : rest = []
        · refine ⟨[m], chunks, [], rfl, ?_, Or.inl rfl⟩
          rw [hr, List.append_nil] at hm
          simp [hm]
        · exact ⟨[], m :: chunks, x, rfl, rfl, Or.inr ⟨m, chunks, rfl, hp, rest, hr, hm.symm⟩⟩
    · obtain ⟨done, rest, p, h1, h2, h3⟩ := ih x' hx'.symm
      exact ⟨m :: done, rest, p, by rw [h1]; rfl, by rw [hx, h2, List.flatten_cons, List.append_assoc], h3⟩

/-- Every chunk that a boundary of `pieces` cuts starts at a boundary of `pieces`. -/
def CutsBehindStart (chunks pieces : List (List α)) : Prop :=
  ∀ pre, pre <+: pieces → ∀ done m rest, chunks = done ++ m :: rest →
    done.flatten.length < pre.flatten.length → pre.flatten.length < (done ++ [m]).flatten.length →
    ∃ pre', pre' <+: pieces ∧ pre'.flatten.length = done.flatten.length

/-- No boundary lies inside a piece. -/
theorem no_boundary {pieces pre pre' post : List (List α)} {seg : List α} (hp : pieces = pre ++ seg :: post)
    (hp' : pre' <+: pieces) (h1 : pre.flatten.length < pre'.flatten.length) :
    (pre ++ [seg]).flatten.length ≤ pre'.flatten.length := by
  have hpre : pre <+: pieces := ⟨seg :: post, hp.symm⟩
  rcases List.prefix_or_prefix_of_prefix hp' hpre with ⟨t, rfl⟩ | ⟨t, rfl⟩
  · simp only [List.flatten_append, List.length_append] at h1
    omega
  · cases t with
    | nil => simp at h1
    | cons x t =>
      obtain ⟨u, hu⟩ := hp'
      rw [hp, List.append_assoc, List.append_cancel_left_eq, List.cons_append, List.cons.injEq] at hu
      rw [hu.1]
      simp [List.flatten_append]

/-- The chunks of which the first `n` values hold all. -/
def whole : Nat → List (List α) → List (List α)
  | _, [] => []
  | n, m :: ms => if m.length ≤ n then m :: whole (n - m.length) ms else []

/-- What `of_flatten` finds complete are these. -/
theorem whole_eq {done rest : List (List α)} {p : List α} (hne : ∀ m ∈ rest, m ≠ [])
    (hp : p = [] ∨ ∃ m rest', rest = m :: rest' ∧ Part p m) :
    whole (done.flatten ++ p).length (done ++ rest) = done := by
  induction done with
  | nil =>
    cases rest with
    | nil => rfl
    | cons m rest =>
      have hlt : p.length < m.length := by
        rcases hp with rfl | ⟨m', rest', he, hpart⟩
        · exact List.length_pos_iff.mpr (hne m List.mem_cons_self)
        · cases he
          exact hpart.length_lt
      simp [whole, hlt]
  | cons d done ih =>
    have hsub : (d ++ (done.flatten ++ p)).length - d.length = (done.flatten ++ p).length := by simp
    rw [List.flatten_cons, List.append_assoc, List.cons_append, whole, if_pos (by simp), hsub, ih]

end Chunks
