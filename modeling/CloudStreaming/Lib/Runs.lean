import Mathlib.Data.List.Basic

/-!
# Runs of a step function

A deterministic machine is a `step : σ → ω → σ`; a run is a list of operations folded over it. `Meets`
says something of every step of a run in terms of the state before the step and the operation, which is
how both the assumptions on a run and the claims about its steps are stated.
-/

namespace Runs

variable {σ ω : Type*} {step : σ → ω → σ}

/-- Every step of the run satisfies `C`, in the state it is taken from. -/
def Meets (step : σ → ω → σ) (C : σ → ω → Prop) : σ → List ω → Prop
  | _, [] => True
  | s, o :: os => C s o ∧ Meets step C (step s o) os

instance Meets.decidable (C : σ → ω → Prop) [∀ s o, Decidable (C s o)] :
    ∀ (s : σ) (os : List ω), Decidable (Meets step C s os)
  | _, [] => inferInstanceAs (Decidable True)
  | s, o :: os =>
    have := Meets.decidable C (step s o) os
    inferInstanceAs (Decidable (C s o ∧ Meets step C (step s o) os))

/-- **Invariant rule.** What the first state has and every step keeps, the last state has. -/
theorem foldl_inv {I : σ → Prop} (hstep : ∀ s o, I s → I (step s o)) :
    ∀ (os : List ω) (s : σ), I s → I (os.foldl step s)
  | [], _, h => h
  | o :: os, s, h => foldl_inv hstep os (step s o) (hstep s o h)

/-- What the invariant gives in every state, every step of a run has. -/
theorem Meets.of_inv {Q : σ → ω → Prop} {I : σ → Prop} (hI : ∀ s o, I s → I (step s o))
    (hQ : ∀ s o, I s → Q s o) : ∀ (os : List ω) (s : σ), I s → Meets step Q s os
  | [], _, _ => trivial
  | o :: os, s, h => ⟨hQ s o h, Meets.of_inv hI hQ os (step s o) (hI s o h)⟩

/-- **Invariant rule under a condition.** What the first state has and the steps meeting `C` keep, the last
state of a run that meets `C` at every step has. -/
theorem Meets.inv {C : σ → ω → Prop} {I : σ → Prop} (hI : ∀ s o, I s → C s o → I (step s o)) :
    ∀ (os : List ω) (s : σ), I s → Meets step C s os → I (os.foldl step s)
  | [], _, h, _ => h
  | o :: os, s, h, ⟨hc, hm⟩ => Meets.inv hI os (step s o) (hI s o h hc) hm

/-- **Step rule.** Under an invariant that the steps meeting `C` keep, `C` at every step gives `Q` at
every step. -/
theorem Meets.imp {C Q : σ → ω → Prop} {I : σ → Prop} (hI : ∀ s o, I s → C s o → I (step s o))
    (hQ : ∀ s o, I s → C s o → Q s o) :
    ∀ (os : List ω) (s : σ), I s → Meets step C s os → Meets step Q s os
  | [], _, _, _ => trivial
  | o :: os, s, h, ⟨hc, hm⟩ => ⟨hQ s o h hc, Meets.imp hI hQ os (step s o) (hI s o h hc) hm⟩

/-- **Exact condition.** If, under an invariant that the steps meeting `C` keep, a step has `Q` exactly when it meets
`C`, then so has a run. -/
theorem meets_iff {C Q : σ → ω → Prop} {I : σ → Prop} (hQ : ∀ s o, I s → (Q s o ↔ C s o))
    (hI : ∀ s o, I s → C s o → I (step s o)) :
    ∀ (os : List ω) (s : σ), I s → (Meets step Q s os ↔ Meets step C s os)
  | [], _, _ => Iff.rfl
  | o :: os, s, h => by
    constructor
    · rintro ⟨hq, hrest⟩
      have hc : C s o := (hQ s o h).mp hq
      exact ⟨hc, (meets_iff hQ hI os (step s o) (hI s o h hc)).mp hrest⟩
    · rintro ⟨hc, hrest⟩
      exact ⟨(hQ s o h).mpr hc, (meets_iff hQ hI os (step s o) (hI s o h hc)).mpr hrest⟩

/-- A run of two parts: the second starts where the first ends. -/
theorem meets_append {C : σ → ω → Prop} :
    ∀ (os os' : List ω) (s : σ), Meets step C s (os ++ os') ↔ Meets step C s os ∧ Meets step C (os.foldl step s) os'
  | [], os', s => by simp [Meets]
  | o :: os, os', s => by simp [Meets, meets_append os os', and_assoc]

/-- A property of every step, said of the states the run goes through. -/
theorem meets_iff_states {Q : σ → ω → σ → Prop} (os : List ω) (s : σ) :
    Meets step (fun s o => Q s o (step s o)) s os ↔
      ∀ pre o, pre ++ [o] <+: os → Q (pre.foldl step s) o ((pre ++ [o]).foldl step s) := by
  induction os generalizing s with
  | nil =>
    refine ⟨fun _ pre o h => ?_, fun _ => trivial⟩
    exact absurd (List.prefix_nil.mp h) (by simp)
  | cons o os ih =>
    rw [Meets, ih]
    constructor
    · rintro ⟨hq, hrest⟩ pre o' h
      cases pre with
      | nil =>
        obtain ⟨rfl, -⟩ := List.cons_prefix_cons.mp h
        exact hq
      | cons x pre =>
        obtain ⟨rfl, h'⟩ := List.cons_prefix_cons.mp h
        exact hrest pre o' h'
    · intro h
      refine ⟨h [] o ⟨os, rfl⟩, fun pre o' h' => ?_⟩
      exact h (o :: pre) o' (List.cons_prefix_cons.mpr ⟨rfl, h'⟩)

/-- Every step of a run of a partial machine satisfies `C`, in the state before the step and the one after it. -/
def PMeets (step : σ → ω → Option σ) (C : σ → ω → σ → Prop) : σ → List ω → Prop
  | _, [] => True
  | s, o :: os => ∀ s', step s o = some s' → C s o s' ∧ PMeets step C s' os

theorem pmeets_cons {step : σ → ω → Option σ} {C : σ → ω → σ → Prop} {s s' : σ} {o : ω} (h : step s o = some s')
    (os : List ω) : PMeets step C s (o :: os) ↔ C s o s' ∧ PMeets step C s' os := by
  rw [PMeets, h]
  simp

instance PMeets.decidable {step : σ → ω → Option σ} (C : σ → ω → σ → Prop) [∀ s o s', Decidable (C s o s')] :
    ∀ (s : σ) (os : List ω), Decidable (PMeets step C s os)
  | _, [] => inferInstanceAs (Decidable True)
  | s, o :: os =>
    match h : step s o with
    | none => isTrue fun s' hs' => absurd (h.symm.trans hs') (by simp)
    | some s' =>
      have : Decidable (PMeets step C s' os) := PMeets.decidable C s' os
      decidable_of_iff _ (pmeets_cons (C := C) h os).symm

/-- **Step rule** for a partial machine: under an invariant that the steps meeting `C` keep, `C` gives `Q`. -/
theorem PMeets.imp {step : σ → ω → Option σ} {C Q : σ → ω → σ → Prop} {I : σ → Prop}
    (hI : ∀ s o s', I s → step s o = some s' → C s o s' → I s')
    (hQ : ∀ s o s', I s → step s o = some s' → C s o s' → Q s o s') :
    ∀ (os : List ω) (s : σ), I s → PMeets step C s os → PMeets step Q s os
  | [], _, _, _ => trivial
  | o :: os, s, h, hm => by
    intro s' hs'
    obtain ⟨hc, hrest⟩ := hm s' hs'
    exact ⟨hQ s o s' h hs' hc, PMeets.imp hI hQ os s' (hI s o s' h hs' hc) hrest⟩

/-- **Exact condition** for the steps that a partial machine takes. -/
theorem pmeets_iff {step : σ → ω → Option σ} {C Q : σ → ω → σ → Prop} {I : σ → Prop}
    (hQ : ∀ s o s', I s → step s o = some s' → (Q s o s' ↔ C s o s'))
    (hI : ∀ s o s', I s → step s o = some s' → C s o s' → I s') :
    ∀ (os : List ω) (s : σ), I s → (PMeets step Q s os ↔ PMeets step C s os)
  | [], _, _ => Iff.rfl
  | o :: os, s, h => by
    constructor
    · intro hm s' hs'
      obtain ⟨hq, hrest⟩ := hm s' hs'
      have hc : C s o s' := (hQ s o s' h hs').mp hq
      exact ⟨hc, (pmeets_iff hQ hI os s' (hI s o s' h hs' hc)).mp hrest⟩
    · intro hm s' hs'
      obtain ⟨hc, hrest⟩ := hm s' hs'
      exact ⟨(hQ s o s' h hs').mpr hc, (pmeets_iff hQ hI os s' (hI s o s' h hs' hc)).mpr hrest⟩

/-- A run of translated operations: the condition is translated with them. -/
theorem PMeets.map {ω' : Type*} {step : σ → ω → Option σ} {f : ω' → ω} {C : σ → ω → σ → Prop}
    {D : σ → ω' → σ → Prop} {P : ω' → Prop} (hC : ∀ s o s', P o → D s o s' → C s (f o) s') :
    ∀ (os : List ω') (s : σ), (∀ o ∈ os, P o) → PMeets (fun s o => step s (f o)) D s os → PMeets step C s (os.map f)
  | [], _, _, _ => trivial
  | o :: os, s, hP, h => by
    intro s' hs'
    obtain ⟨hd, hrest⟩ := h s' hs'
    exact ⟨hC s o s' (hP o List.mem_cons_self) hd,
      PMeets.map hC os s' (fun o' ho' => hP o' (List.mem_cons_of_mem _ ho')) hrest⟩

/-- No step of a run of a partial machine fails, and every step satisfies `Q`. -/
def Succeeds (step : σ → ω → Option σ) (Q : σ → ω → σ → Prop) : σ → List ω → Prop
  | _, [] => True
  | s, o :: os => ∃ s', step s o = some s' ∧ Q s o s' ∧ Succeeds step Q s' os

/-- Every step that is tried in a run of a partial machine meets `C`. -/
def Requires (step : σ → ω → Option σ) (C : σ → ω → Prop) : σ → List ω → Prop
  | _, [] => True
  | s, o :: os => C s o ∧ ∀ s', step s o = some s' → Requires step C s' os

/-- The exact condition for a partial machine: a run succeeds with `Q` exactly when its steps meet `C`. -/
theorem succeeds_iff {step : σ → ω → Option σ} {Q : σ → ω → σ → Prop} {C : σ → ω → Prop} {I : σ → Prop}
    (hC : ∀ s o, I s → ((∃ s', step s o = some s' ∧ Q s o s') ↔ C s o))
    (hI : ∀ s o s', I s → step s o = some s' → Q s o s' → I s') :
    ∀ (os : List ω) (s : σ), I s → (Succeeds step Q s os ↔ Requires step C s os)
  | [], _, _ => Iff.rfl
  | o :: os, s, h => by
    constructor
    · rintro ⟨s', hs', hq, hrest⟩
      refine ⟨(hC s o h).mp ⟨s', hs', hq⟩, fun t ht => ?_⟩
      obtain rfl := Option.some.inj (hs'.symm.trans ht)
      exact (succeeds_iff hC hI os s' (hI s o s' h hs' hq)).mp hrest
    · rintro ⟨hc, hrest⟩
      obtain ⟨s', hs', hq⟩ := (hC s o h).mpr hc
      exact ⟨s', hs', hq, (succeeds_iff hC hI os s' (hI s o s' h hs' hq)).mpr (hrest s' hs')⟩

/-- **Loop rule.** What holds before a counted loop and what each turn keeps, as long as it does not fail, holds after
it, and no turn fails. -/
theorem foldlM_range {f : σ → Nat → Option σ} {I : Nat → σ → Prop} (n : Nat) (s : σ) (h0 : I 0 s)
    (hstep : ∀ i < n, ∀ s, I i s → ∃ s', f s i = some s' ∧ I (i + 1) s') :
    ∃ s', (List.range n).foldlM f s = some s' ∧ I n s' := by
  induction n with
  | zero => exact ⟨s, rfl, h0⟩
  | succ n ih =>
    obtain ⟨s', hs', hI⟩ := ih fun i hi => hstep i (by omega)
    obtain ⟨s'', hs'', hI'⟩ := hstep n (by omega) s' hI
    refine ⟨s'', ?_, hI'⟩
    rw [List.range_succ, List.foldlM_append, hs']
    simp [hs'']

/-- A log is kept newest first and read oldest first. -/
theorem reverse_filterMap_cons {α β : Type*} (f : α → Option β) (a : α) (log : List α) :
    ((a :: log).filterMap f).reverse = (log.filterMap f).reverse ++ (f a).toList := by
  cases h : f a with
  | none => simp [h]
  | some b => simp [h]

end Runs
