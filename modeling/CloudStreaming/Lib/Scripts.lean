import Mathlib.Data.Fintype.Pigeonhole
import Mathlib.Data.Set.Finite.Basic
import Mathlib.Logic.Relation
import Mathlib.Order.WellFounded

/-!
# Scripts that call each other

A script is a list of commands: one that passes, one that fails and ends the script, or a call of another script, which
passes if that one runs to its end. A name without a script fails. `run` takes a bound on the depth of calls; a script
terminates if some bound is enough. That is so exactly when no infinite chain of calls starts at it
(`terminates_iff_acc`); with finitely many scripts, when no script it reaches calls itself, directly or through others
(`terminates_iff_acyclic`). A call counts only if the commands before it pass.
-/

namespace Scripts

variable {α : Type*}

inductive Cmd (α : Type*) where
  | pass
  | fail
  | call (a : α)

/-- The commands in order, `rec` answering the calls: whether the script ran to its end. -/
def runCmds (rec : α → Option Bool) : List (Cmd α) → Option Bool
  | [] => some true
  | .pass :: cs => runCmds rec cs
  | .fail :: _ => some false
  | .call a :: cs =>
    match rec a with
    | none => none
    | some false => some false
    | some true => runCmds rec cs

def run (script : α → Option (List (Cmd α))) : Nat → α → Option Bool
  | 0, _ => none
  | fuel + 1, a =>
    match script a with
    | none => some false
    | some cs => runCmds (run script fuel) cs

variable {script : α → Option (List (Cmd α))}

def Terminates (script : α → Option (List (Cmd α))) (a : α) : Prop := ∃ fuel, (run script fuel a).isSome = true

/-- The script runs to its end. -/
inductive Succeeds (script : α → Option (List (Cmd α))) : α → Prop where
  | intro {a : α} {cs : List (Cmd α)} (hs : script a = some cs) (hf : .fail ∉ cs)
      (hc : ∀ b, .call b ∈ cs → Succeeds script b) : Succeeds script a

/-- The command passes. -/
def Passes (script : α → Option (List (Cmd α))) : Cmd α → Prop
  | .pass => True
  | .fail => False
  | .call a => Succeeds script a

/-- `a` gets to call `b`. -/
def Calls (script : α → Option (List (Cmd α))) (a b : α) : Prop :=
  ∃ pre post, script a = some (pre ++ .call b :: post) ∧ ∀ c ∈ pre, Passes script c

/-! ## More depth changes nothing -/

theorem runCmds_mono {rec rec' : α → Option Bool} (h : ∀ a r, rec a = some r → rec' a = some r) :
    ∀ (cs : List (Cmd α)) {r : Bool}, runCmds rec cs = some r → runCmds rec' cs = some r
  | [], _, hr => hr
  | .pass :: cs, _, hr => runCmds_mono h cs hr
  | .fail :: _, _, hr => hr
  | .call a :: cs, r, hr => by
    simp only [runCmds] at hr ⊢
    cases ha : rec a with
    | none => rw [ha] at hr; cases hr
    | some b =>
      rw [ha] at hr
      rw [h a b ha]
      cases b with
      | false => exact hr
      | true => exact runCmds_mono h cs hr

theorem run_succ : ∀ {fuel : Nat} {a : α} {r : Bool}, run script fuel a = some r → run script (fuel + 1) a = some r
  | fuel + 1, a, r, h => by
    rw [run] at h ⊢
    cases hs : script a with
    | none => rw [hs] at h; exact h
    | some cs =>
      rw [hs] at h
      exact runCmds_mono (fun _ _ => run_succ) cs h

theorem run_mono {fuel fuel' : Nat} {a : α} {r : Bool} (hle : fuel ≤ fuel') (h : run script fuel a = some r) :
    run script fuel' a = some r := by
  induction hle with
  | refl => exact h
  | step _ ih => exact run_succ ih

/-- Two bounds that are enough give the same result. -/
theorem run_unique {m n : Nat} {a : α} {r r' : Bool} (h : run script m a = some r) (h' : run script n a = some r') :
    r = r' := by
  have h1 := run_mono (Nat.le_max_left m n) h
  have h2 := run_mono (Nat.le_max_right m n) h'
  exact Option.some.inj (h1.symm.trans h2)

/-! ## Success -/

theorem runCmds_true {rec : α → Option Bool} : ∀ (cs : List (Cmd α)), runCmds rec cs = some true →
    .fail ∉ cs ∧ ∀ b, .call b ∈ cs → rec b = some true
  | [], _ => ⟨List.not_mem_nil, fun _ h => absurd h List.not_mem_nil⟩
  | .pass :: cs, h => by
    obtain ⟨hf, hc⟩ := runCmds_true cs h
    exact ⟨by simpa using hf, by simpa using hc⟩
  | .fail :: cs, h => by cases h
  | .call a :: cs, h => by
    simp only [runCmds] at h
    cases ha : rec a with
    | none => rw [ha] at h; cases h
    | some b =>
      cases b with
      | false => rw [ha] at h; cases h
      | true =>
        rw [ha] at h
        obtain ⟨hf, hc⟩ := runCmds_true cs h
        refine ⟨by simpa using hf, fun b hb => ?_⟩
        rcases List.mem_cons.1 hb with hb | hb
        · obtain rfl := Cmd.call.inj hb
          exact ha
        · exact hc b hb

theorem succeeds_of_run : ∀ {fuel : Nat} {a : α}, run script fuel a = some true → Succeeds script a
  | fuel + 1, a, h => by
    rw [run] at h
    cases hs : script a with
    | none => rw [hs] at h; cases h
    | some cs =>
      rw [hs] at h
      obtain ⟨hf, hc⟩ := runCmds_true cs h
      exact .intro hs hf fun b hb => succeeds_of_run (hc b hb)

/-- A bound for each call of a list is a bound for the list. -/
theorem exists_runCmds_true : ∀ (cs : List (Cmd α)), .fail ∉ cs →
    (∀ b, .call b ∈ cs → ∃ fuel, run script fuel b = some true) → ∃ fuel, runCmds (run script fuel) cs = some true
  | [], _, _ => ⟨0, rfl⟩
  | .pass :: cs, hf, hc => by
    exact exists_runCmds_true cs (fun h => hf (List.mem_cons_of_mem _ h))
      fun b hb => hc b (List.mem_cons_of_mem _ hb)
  | .fail :: cs, hf, _ => absurd List.mem_cons_self hf
  | .call a :: cs, hf, hc => by
    obtain ⟨m, hm⟩ := hc a List.mem_cons_self
    obtain ⟨n, hn⟩ := exists_runCmds_true cs (fun h => hf (List.mem_cons_of_mem _ h))
      fun b hb => hc b (List.mem_cons_of_mem _ hb)
    refine ⟨max m n, ?_⟩
    simp only [runCmds, run_mono (Nat.le_max_left m n) hm]
    exact runCmds_mono (fun _ _ => run_mono (Nat.le_max_right m n)) cs hn

theorem run_of_succeeds {a : α} (h : Succeeds script a) : ∃ fuel, run script fuel a = some true := by
  induction h with
  | intro hs hf _ ih =>
    obtain ⟨fuel, hr⟩ := exists_runCmds_true _ hf ih
    refine ⟨fuel + 1, ?_⟩
    rw [run, hs]
    exact hr

/-! ## Termination -/

/-- A script that comes to an end has seen the end of every call it got to. -/
theorem runCmds_call {fuel : Nat} : ∀ (pre : List (Cmd α)) {post : List (Cmd α)} {b : α}, (∀ c ∈ pre, Passes script c) →
    (runCmds (run script fuel) (pre ++ .call b :: post)).isSome = true → (run script fuel b).isSome = true
  | [], post, b, _, h => by
    simp only [List.nil_append, runCmds] at h
    cases hb : run script fuel b with
    | none => rw [hb] at h; cases h
    | some r => rfl
  | .pass :: pre, post, b, hp, h => runCmds_call pre (fun c hc => hp c (List.mem_cons_of_mem _ hc)) h
  | .fail :: pre, post, b, hp, _ => absurd (hp .fail List.mem_cons_self) id
  | .call a :: pre, post, b, hp, h => by
    simp only [List.cons_append, runCmds] at h
    cases ha : run script fuel a with
    | none => rw [ha] at h; cases h
    | some r =>
      -- the call before succeeds, so it did with this bound too
      obtain ⟨m, hm⟩ := run_of_succeeds (hp (.call a) List.mem_cons_self)
      obtain rfl := run_unique hm ha
      rw [ha] at h
      exact runCmds_call pre (fun c hc => hp c (List.mem_cons_of_mem _ hc)) h

theorem acc_of_run : ∀ {fuel : Nat} {a : α}, (run script fuel a).isSome = true → Acc (fun b a => Calls script a b) a
  | 0, _, h => by cases h
  | fuel + 1, a, h => by
    refine Acc.intro a fun b hb => ?_
    obtain ⟨pre, post, hs, hp⟩ := hb
    rw [run, hs] at h
    exact acc_of_run (runCmds_call pre hp h)

/-- If every call the rest of a script gets to has an end, so has the rest. -/
theorem exists_runCmds {a : α} (ih : ∀ b, Calls script a b → Terminates script b) :
    ∀ (post pre : List (Cmd α)), script a = some (pre ++ post) → (∀ c ∈ pre, Passes script c) →
      ∃ fuel, (runCmds (run script fuel) post).isSome = true
  | [], _, _, _ => ⟨0, rfl⟩
  | .fail :: post, _, _, _ => ⟨0, rfl⟩
  | .pass :: post, pre, hs, hp => by
    refine exists_runCmds ih post (pre ++ [.pass]) (by simpa using hs) fun c hc => ?_
    rcases List.mem_append.1 hc with hc | hc
    · exact hp c hc
    · obtain rfl := List.mem_singleton.1 hc
      trivial
  | .call b :: post, pre, hs, hp => by
    obtain ⟨m, hm⟩ := ih b ⟨pre, post, hs, hp⟩
    obtain ⟨r, hr⟩ := Option.isSome_iff_exists.1 hm
    cases r with
    | false =>
      refine ⟨m, ?_⟩
      simp only [runCmds, hr, Option.isSome_some]
    | true =>
      obtain ⟨n, hn⟩ := exists_runCmds ih post (pre ++ [.call b]) (by simpa using hs) fun c hc => by
        rcases List.mem_append.1 hc with hc | hc
        · exact hp c hc
        · obtain rfl := List.mem_singleton.1 hc
          exact succeeds_of_run hr
      obtain ⟨r', hr'⟩ := Option.isSome_iff_exists.1 hn
      refine ⟨max m n, ?_⟩
      simp only [runCmds, run_mono (Nat.le_max_left m n) hr]
      rw [runCmds_mono (fun _ _ => run_mono (Nat.le_max_right m n)) post hr']
      rfl

/-- **A script terminates exactly when no infinite chain of calls starts at it.** -/
theorem terminates_iff_acc {a : α} : Terminates script a ↔ Acc (fun b a => Calls script a b) a := by
  constructor
  · rintro ⟨fuel, h⟩
    exact acc_of_run h
  · intro h
    induction h with
    | intro a _ ih =>
      cases hs : script a with
      | none => exact ⟨1, by rw [run, hs]; rfl⟩
      | some cs =>
        obtain ⟨fuel, h⟩ := exists_runCmds ih cs [] hs fun c hc => absurd hc List.not_mem_nil
        exact ⟨fuel + 1, by rw [run, hs]; exact h⟩

/-! ## Finitely many scripts -/

section acyclic

open Relation

variable {r : α → α → Prop}

theorem not_transGen_of_acc {a : α} (h : Acc (fun b a => r a b) a) : ¬ TransGen r a a := by
  induction h with
  | intro a _ ih =>
    intro hcycle
    obtain ⟨b, hab, hba⟩ := TransGen.head'_iff.1 hcycle
    exact ih b hab (TransGen.tail' hba hab)

theorem acc_of_reflTransGen {a b : α} (h : Acc (fun b a => r a b) a) (hab : ReflTransGen r a b) :
    Acc (fun b a => r a b) b := by
  induction hab with
  | refl => exact h
  | tail _ hbc ih => exact ih.inv hbc

/-- If only finitely many elements are related to anything, a descending chain is a cycle. -/
theorem acc_iff_acyclic (hfin : {a | ∃ b, r a b}.Finite) {a : α} :
    Acc (fun b a => r a b) a ↔ ∀ b, ReflTransGen r a b → ¬ TransGen r b b := by
  constructor
  · intro h b hab
    exact not_transGen_of_acc (acc_of_reflTransGen h hab)
  · intro h
    by_contra hacc
    obtain ⟨f, rfl, hf⟩ := not_acc_iff_exists_descending_chain.1 hacc
    have hreach : ∀ n, ReflTransGen r (f 0) (f n) := by
      intro n
      induction n with
      | zero => exact ReflTransGen.refl
      | succ n ih => exact ih.tail (hf n)
    have hchain : ∀ m k, TransGen r (f m) (f (m + k + 1)) := by
      intro m k
      induction k with
      | zero => exact TransGen.single (hf m)
      | succ k ih => exact ih.tail (hf (m + k + 1))
    have := hfin.to_subtype
    obtain ⟨m, n, hmn, he⟩ :=
      Finite.exists_ne_map_eq_of_infinite fun n => (⟨f n, f (n + 1), hf n⟩ : {a | ∃ b, r a b})
    have he : f m = f n := congrArg Subtype.val he
    rcases Nat.lt_or_gt_of_ne hmn with hlt | hlt
    · obtain ⟨k, rfl⟩ := Nat.exists_eq_add_of_lt hlt
      exact h (f m) (hreach m) (he ▸ hchain m k)
    · obtain ⟨k, rfl⟩ := Nat.exists_eq_add_of_lt hlt
      exact h (f n) (hreach n) (he ▸ hchain n k)

end acyclic

/-- **With finitely many scripts**, one terminates exactly when no script it reaches calls itself, directly or through
others. -/
theorem terminates_iff_acyclic (hfin : {a | (script a).isSome = true}.Finite) {a : α} :
    Terminates script a ↔
      ∀ b, Relation.ReflTransGen (Calls script) a b → ¬ Relation.TransGen (Calls script) b b := by
  rw [terminates_iff_acc]
  apply acc_iff_acyclic
  apply hfin.subset
  rintro a ⟨b, pre, post, hs, -⟩
  simp [hs]

end Scripts
