import Mathlib.Data.List.Basic
import Mathlib.Logic.Function.Basic
import Mathlib.Logic.Relation

/-!
# Commands in flight

Engines that work side by side over one memory. A command is in the lane of its engine; it reads one place, or gets its
value from outside, and writes one place, or gives the value to the outside. It runs when no command before it in its lane
and none of those it waits for is left, so commands of different lanes that wait for nothing run in any order.

`Sound`: of two commands in flight that touch a place, one of them to write it, the older one is ordered before the newer
one. Then a command reads what it would read if the commands ran in the order of their submission (`complete_spec`), and
what the submitter takes for the content of a place is the content in the end (`latest_complete`).
-/

namespace Commands

open Function Relation

/-- `value` is what the command reads if all commands run in the order of their submission. -/
structure Command (κ ι α : Type*) where
  id : Nat
  lane : κ
  src : Option ι
  dst : Option ι
  waits : List Nat
  value : α

/-- `pending` is in the order of submission; `out` has what commands have given to the outside, in the order they ran. -/
structure InFlight (κ ι α : Type*) where
  memory : ι → α
  pending : List (Command κ ι α)
  next : Nat
  out : List α

variable {κ ι α : Type*}

/-- `d` does not run while `c` is left. -/
def Before (c d : Command κ ι α) : Prop := c.id < d.id ∧ (c.lane = d.lane ∨ c.id ∈ d.waits)

instance [DecidableEq κ] (c d : Command κ ι α) : Decidable (Before c d) := inferInstanceAs (Decidable (_ ∧ _))

/-- They touch one place, and not both to read it. -/
def Conflict (c d : Command κ ι α) : Prop :=
  ∃ i, (c.dst = some i ∧ (d.src = some i ∨ d.dst = some i)) ∨ (c.src = some i ∧ d.dst = some i)

/-- `c` is over before `d` runs, by way of commands in `l`. -/
def Ordered (l : List (Command κ ι α)) : Command κ ι α → Command κ ι α → Prop :=
  TransGen fun c d => c ∈ l ∧ d ∈ l ∧ Before c d

section
variable [DecidableEq ι]

def write (m : ι → α) (c : Command κ ι α) : ι → α :=
  match c.dst with
  | some i => update m i c.value
  | none => m

namespace InFlight

/-- The content of the places once all commands have run in the order of their submission. -/
def latest (q : InFlight κ ι α) : ι → α := q.pending.foldl write q.memory

/-- The command that is submitted next; `input` is its value where it reads no place. -/
def command (q : InFlight κ ι α) (lane : κ) (src dst : Option ι) (waits : List Nat) (input : α) : Command κ ι α :=
  ⟨q.next, lane, src, dst, waits, (src.map q.latest).getD input⟩

def submit (q : InFlight κ ι α) (lane : κ) (src dst : Option ι) (waits : List Nat) (input : α) : InFlight κ ι α :=
  { q with pending := q.pending ++ [q.command lane src dst waits input], next := q.next + 1 }

/-- The command reads its place and writes what it has read. -/
def run (q : InFlight κ ι α) (c : Command κ ι α) : InFlight κ ι α :=
  let c := { c with value := (c.src.map q.memory).getD c.value }
  { q with
    memory := write q.memory c
    pending := q.pending.filter fun d => d.id ≠ c.id
    out := if c.dst.isNone then q.out ++ [c.value] else q.out }

/-- A command that is in flight runs, if nothing holds it back. -/
def complete [DecidableEq κ] (q : InFlight κ ι α) (id : Nat) : Option (InFlight κ ι α) :=
  match q.pending.find? fun c => c.id = id with
  | none => none
  | some c => if q.pending.any fun d => decide (Before d c) then none else some (q.run c)

end InFlight

/-! ## Memories -/

variable {m m' : ι → α} {c d : Command κ ι α} {l r : List (Command κ ι α)} {i : ι} {q : InFlight κ ι α}

theorem write_of_ne (h : c.dst ≠ some i) : write m c i = m i := by
  cases hd : c.dst with
  | none => simp only [write, hd]
  | some j =>
    have hji : i ≠ j := fun hij => h (by rw [hd, hij])
    simp only [write, hd, update_of_ne hji]

theorem write_self (h : c.dst = some i) : write m c i = c.value := by
  simp only [write, h, update_self]

/-- What is written to a place does not depend on what the other places have. -/
theorem foldl_write_congr (h : m i = m' i) : l.foldl write m i = l.foldl write m' i := by
  induction l generalizing m m' with
  | nil => exact h
  | cons c l ih =>
    rw [List.foldl_cons, List.foldl_cons]
    apply ih
    by_cases hc : c.dst = some i
    · rw [write_self hc, write_self hc]
    · rw [write_of_ne hc, write_of_ne hc, h]

theorem foldl_write_of_ne (h : ∀ c ∈ l, c.dst ≠ some i) : l.foldl write m i = m i := by
  induction l generalizing m with
  | nil => rfl
  | cons c l ih =>
    rw [List.foldl_cons, ih fun d hd => h d (List.mem_cons_of_mem c hd), write_of_ne (h c List.mem_cons_self)]

/-- A write comes before others as well as after them, if they are of other places. -/
theorem foldl_write_comm (h : ∀ d ∈ l, ∀ i, c.dst = some i → d.dst ≠ some i) :
    l.foldl write (write m c) = write (l.foldl write m) c := by
  funext i
  by_cases hc : c.dst = some i
  · rw [foldl_write_of_ne fun d hd => h d hd i hc, write_self hc, write_self hc]
  · rw [write_of_ne hc]
    exact foldl_write_congr (write_of_ne hc)

/-! ## Order -/

omit [DecidableEq ι] in
theorem Ordered.last (h : Ordered l c d) : ∃ x ∈ l, Before x d := by
  cases h with
  | single h => exact ⟨c, h.1, h.2.2⟩
  | tail _ h => exact ⟨_, h.1, h.2.2⟩

omit [DecidableEq ι] in
theorem Ordered.mono (hsub : l ⊆ r) (h : Ordered l c d) : Ordered r c d :=
  TransGen.mono (fun _ _ h => ⟨hsub h.1, hsub h.2.1, h.2.2⟩) c d h

omit [DecidableEq ι] in
/-- A command that nothing holds back is on the way from one command to another only as the first. -/
theorem Ordered.remove {x y : Command κ ι α} (hc : ∀ d ∈ l ++ c :: r, ¬ Before d c) (hx : x ∈ l ++ r)
    (h : Ordered (l ++ c :: r) x y) : Ordered (l ++ r) x y := by
  have hmem : ∀ a b, a ∈ l ++ c :: r → b ∈ l ++ c :: r → Before a b → b ∈ l ++ r := by
    intro a b ha hb hab
    have hne : b ≠ c := by
      rintro rfl
      exact hc a ha hab
    simp only [List.mem_append, List.mem_cons, hne, false_or] at hb ⊢
    exact hb
  have hend : Ordered (l ++ r) x y ∧ y ∈ l ++ r := by
    induction h with
    | single h =>
      have hy := hmem _ _ h.1 h.2.1 h.2.2
      exact ⟨.single ⟨hx, hy, h.2.2⟩, hy⟩
    | tail _ h ih =>
      have hy := hmem _ _ h.1 h.2.1 h.2.2
      exact ⟨ih.1.tail ⟨ih.2, hy, h.2.2⟩, hy⟩
  exact hend.1

/-! ## The invariant -/

structure Sound (q : InFlight κ ι α) : Prop where
  sorted : q.pending.Pairwise fun c d => c.id < d.id
  fresh : ∀ c ∈ q.pending, c.id < q.next
  values : ∀ l c r, q.pending = l ++ c :: r → ∀ i, c.src = some i → l.foldl write q.memory i = c.value
  ordered : q.pending.Pairwise fun c d => Conflict c d → Ordered q.pending c d

theorem Sound.init (m : ι → α) : Sound (⟨m, [], 0, []⟩ : InFlight κ ι α) where
  sorted := .nil
  fresh := by simp
  values := by simp
  ordered := .nil

namespace Sound

/-- A command in flight, with what is older and what is newer. -/
theorem split (h : Sound q) (hc : c ∈ q.pending) :
    ∃ l r, q.pending = l ++ c :: r ∧ (q.pending.filter fun d => d.id ≠ c.id) = l ++ r := by
  obtain ⟨l, r, hlr⟩ := List.append_of_mem hc
  have hsorted := h.sorted
  rw [hlr, List.pairwise_append, List.pairwise_cons] at hsorted
  obtain ⟨-, ⟨hr, -⟩, hl⟩ := hsorted
  refine ⟨l, r, hlr, ?_⟩
  rw [hlr, List.filter_append, List.filter_cons_of_neg (by simp)]
  congr 1
  · refine List.filter_eq_self.mpr fun d hd => ?_
    have hlt := hl d hd c List.mem_cons_self
    simp only [ne_eq, decide_not, Bool.not_eq_eq_eq_not, Bool.not_true, decide_eq_false_iff_not]
    omega
  · refine List.filter_eq_self.mpr fun d hd => ?_
    have hlt := hr d hd
    simp only [ne_eq, decide_not, Bool.not_eq_eq_eq_not, Bool.not_true, decide_eq_false_iff_not]
    omega

/-- What a command that may run touches, no older one touches, unless both read it. -/
theorem no_conflict (h : Sound q) (hlr : q.pending = l ++ c :: r) (hmin : ∀ d ∈ q.pending, ¬ Before d c) :
    ∀ d ∈ l, ¬ Conflict d c := by
  intro d hd hconflict
  have hordered := h.ordered
  rw [hlr, List.pairwise_append] at hordered
  obtain ⟨x, hx, hbefore⟩ := (hordered.2.2 d hd c List.mem_cons_self hconflict).last
  exact hmin x (hlr ▸ hx) hbefore

theorem ordered_of_le (h : Sound q) (hc : c ∈ q.pending) (hd : d ∈ q.pending) (hle : c.id ≤ d.id)
    (hconflict : Conflict c d) : c = d ∨ Ordered q.pending c d := by
  obtain ⟨l, r, hlr⟩ := List.append_of_mem hc
  have hsorted := h.sorted
  have hordered := h.ordered
  rw [hlr, List.pairwise_append, List.pairwise_cons] at hsorted hordered
  rw [hlr] at hd
  rcases List.mem_append.mp hd with hd | hd
  · have hlt := hsorted.2.2 d hd c List.mem_cons_self
    omega
  · rcases List.mem_cons.mp hd with rfl | hd
    · exact .inl rfl
    · right
      have horder := hordered.2.1.1 d hd hconflict
      rw [← hlr] at horder
      exact horder

/-- It reads what it would read in the order of submission. -/
theorem value (h : Sound q) (hc : c ∈ q.pending) (hmin : ∀ d ∈ q.pending, ¬ Before d c) :
    (c.src.map q.memory).getD c.value = c.value := by
  obtain ⟨l, r, hlr, -⟩ := h.split hc
  cases hsrc : c.src with
  | none => rfl
  | some i =>
    have hread := h.values l c r hlr i hsrc
    rw [foldl_write_of_ne] at hread
    · exact hread
    · intro d hd hdst
      exact h.no_conflict hlr hmin d hd ⟨i, .inl ⟨hdst, .inl hsrc⟩⟩

theorem run_eq (h : Sound q) (hc : c ∈ q.pending) (hmin : ∀ d ∈ q.pending, ¬ Before d c) :
    q.run c = { q with
      memory := write q.memory c
      pending := q.pending.filter fun d => d.id ≠ c.id
      out := if c.dst.isNone then q.out ++ [c.value] else q.out } := by
  simp only [InFlight.run, h.value hc hmin]

/-- What it writes, it may write before the older ones. -/
theorem write_first (h : Sound q) (hlr : q.pending = l ++ c :: r) (hmin : ∀ d ∈ q.pending, ¬ Before d c) :
    l.foldl write (write q.memory c) = write (l.foldl write q.memory) c := by
  apply foldl_write_comm
  intro d hd i hcdst hddst
  exact h.no_conflict hlr hmin d hd ⟨i, .inl ⟨hddst, .inr hcdst⟩⟩

theorem latest_run (h : Sound q) (hc : c ∈ q.pending) (hmin : ∀ d ∈ q.pending, ¬ Before d c) :
    (q.run c).latest = q.latest := by
  obtain ⟨l, r, hlr, hfilter⟩ := h.split hc
  rw [h.run_eq hc hmin]
  simp only [InFlight.latest]
  rw [hfilter, hlr, List.foldl_append, List.foldl_append, List.foldl_cons, h.write_first hlr hmin]

theorem run (h : Sound q) (hc : c ∈ q.pending) (hmin : ∀ d ∈ q.pending, ¬ Before d c) : Sound (q.run c) := by
  obtain ⟨l, r, hlr, hfilter⟩ := h.split hc
  rw [h.run_eq hc hmin]
  have hsub : (l ++ r).Sublist q.pending := by
    rw [hlr]
    exact (List.sublist_cons_self c r).append_left l
  constructor
  case sorted =>
    rw [hfilter]
    exact h.sorted.sublist hsub
  case fresh => exact fun d hd => h.fresh d (List.mem_of_mem_filter hd)
  case values =>
    intro l' d r' hsplit i hsrc
    simp only at hsplit ⊢
    rw [hfilter] at hsplit
    rcases List.append_eq_append_iff.mp hsplit with ⟨s, rfl, hr⟩ | ⟨s, rfl, hr⟩
    · -- the reader is newer
      have hread := h.values (l ++ c :: s) d r' (by rw [hlr, hr]; simp) i hsrc
      rw [List.foldl_append, h.write_first hlr hmin, ← List.foldl_cons, ← List.foldl_append]
      exact hread
    · cases s with
      | nil =>
        have hread := h.values (l' ++ [c]) d r' (by rw [hlr, ← List.nil_append r, ← hr]; simp) i hsrc
        rw [List.foldl_append, List.foldl_cons, List.foldl_nil] at hread
        rw [h.write_first (l := l') (r := r) (by rw [hlr]; simp) hmin]
        exact hread
      | cons x s =>
        obtain ⟨rfl, rfl⟩ := List.cons.inj hr
        have hread := h.values l' d (s ++ c :: r) (by rw [hlr]; simp) i hsrc
        rw [← hread]
        apply foldl_write_congr
        apply write_of_ne
        intro hdst
        exact h.no_conflict hlr hmin d (by simp) ⟨i, .inr ⟨hsrc, hdst⟩⟩
  case ordered =>
    rw [hfilter]
    refine (h.ordered.sublist hsub).imp_of_mem fun {a b} ha _ hab hconflict => ?_
    have horder := hab hconflict
    rw [hlr] at horder
    exact horder.remove (fun d hd => hmin d (hlr ▸ hd)) ha

/-- A command whose conflicts with those in flight are ordered keeps the invariant. -/
theorem submit (h : Sound q) {lane : κ} {src dst : Option ι} {waits : List Nat} {input : α}
    (hc : ∀ d ∈ q.pending, Conflict d (q.command lane src dst waits input) →
      Ordered (q.pending ++ [q.command lane src dst waits input]) d (q.command lane src dst waits input)) :
    Sound (q.submit lane src dst waits input) := by
  constructor
  case sorted =>
    refine List.pairwise_append.mpr ⟨h.sorted, List.pairwise_singleton _ _, fun a ha b hb => ?_⟩
    rw [List.mem_singleton.mp hb]
    exact h.fresh a ha
  case fresh =>
    intro d hd
    rcases List.mem_append.mp hd with hd | hd
    · exact Nat.lt_succ_of_lt (h.fresh d hd)
    · rw [List.mem_singleton.mp hd]
      exact Nat.lt_succ_self q.next
  case values =>
    intro l d r hsplit i hsrc
    simp only [InFlight.submit] at hsplit ⊢
    rcases List.eq_nil_or_concat r with rfl | ⟨r, x, rfl⟩
    · obtain ⟨rfl, hd⟩ := List.append_inj' hsplit rfl
      obtain rfl := List.singleton_inj.mp hd
      simp only [InFlight.command] at hsrc ⊢
      rw [hsrc]
      rfl
    · rw [List.concat_eq_append, ← List.cons_append, ← List.append_assoc] at hsplit
      exact h.values l d r (List.append_inj' hsplit rfl).1 i hsrc
  case ordered =>
    refine List.pairwise_append.mpr ⟨?_, List.pairwise_singleton _ _, fun a ha b hb => ?_⟩
    · exact h.ordered.imp fun hab hconflict => (hab hconflict).mono (List.subset_append_left _ _)
    · rw [List.mem_singleton.mp hb]
      exact hc a ha

end Sound

theorem latest_submit (lane : κ) (src dst : Option ι) (waits : List Nat) (input : α) :
    (q.submit lane src dst waits input).latest = write q.latest (q.command lane src dst waits input) := by
  simp only [InFlight.latest, InFlight.submit, List.foldl_append, List.foldl_cons, List.foldl_nil]

/-- A place that is not written keeps its content. -/
theorem latest_submit_of_ne {lane : κ} {src dst : Option ι} {waits : List Nat} {input : α}
    (h : dst ≠ some i) : (q.submit lane src dst waits input).latest i = q.latest i := by
  rw [latest_submit]
  exact write_of_ne h

theorem latest_submit_self {lane : κ} {src : Option ι} {waits : List Nat} {input : α} :
    (q.submit lane src (some i) waits input).latest i = (src.map q.latest).getD input := by
  rw [latest_submit]
  exact write_self rfl

/-! ## Steps of the engines -/

variable [DecidableEq κ] {q' : InFlight κ ι α} {id : Nat}

theorem complete_cases (h : q.complete id = some q') :
    ∃ c ∈ q.pending, c.id = id ∧ (∀ d ∈ q.pending, ¬ Before d c) ∧ q' = q.run c := by
  rw [InFlight.complete] at h
  cases hfind : q.pending.find? fun c => c.id = id with
  | none => simp [hfind] at h
  | some c =>
    simp only [hfind] at h
    split at h
    · cases h
    case isFalse hany =>
      refine ⟨c, List.mem_of_find?_eq_some hfind, by simpa using List.find?_some hfind, fun d hd hbefore => ?_, ?_⟩
      · exact hany (List.any_eq_true.mpr ⟨d, hd, by simpa using hbefore⟩)
      · exact (Option.some.inj h).symm

/-- What runs reads and writes what it would in the order of submission. -/
theorem complete_spec (h : Sound q) (hq : q.complete id = some q') :
    Sound q' ∧ q'.latest = q.latest ∧ q'.next = q.next ∧ ∃ l c r, c.id = id ∧ (∀ d ∈ q.pending, ¬ Before d c) ∧
      q.pending = l ++ c :: r ∧ q'.pending = l ++ r ∧
      q'.memory = write q.memory c ∧ q'.out = if c.dst.isNone then q.out ++ [c.value] else q.out := by
  obtain ⟨c, hc, hid, hmin, rfl⟩ := complete_cases hq
  obtain ⟨l, r, hlr, hfilter⟩ := h.split hc
  refine ⟨h.run hc hmin, h.latest_run hc hmin, rfl, l, c, r, hid, hmin, hlr, hfilter, ?_, ?_⟩
  · rw [h.run_eq hc hmin]
  · rw [h.run_eq hc hmin]

/-! ## What leaves -/

omit [DecidableEq ι] [DecidableEq κ] in
/-- What has been given to the outside and what is on its way there. -/
def InFlight.issued (q : InFlight κ ι α) : List α :=
  q.out ++ (q.pending.filter fun c => c.dst.isNone).map fun c => c.value

omit [DecidableEq κ] in
theorem issued_submit (lane : κ) (src dst : Option ι) (waits : List Nat) (input : α) :
    (q.submit lane src dst waits input).issued =
      if dst.isNone then q.issued ++ [(src.map q.latest).getD input] else q.issued := by
  cases dst <;> simp [InFlight.issued, InFlight.submit, InFlight.command]

/-- If one lane gives everything, it leaves in the order of submission. -/
theorem issued_complete (h : Sound q) (hq : q.complete id = some q')
    (hlane : ∀ c ∈ q.pending, ∀ d ∈ q.pending, c.dst = none → d.dst = none → c.lane = d.lane) : q'.issued = q.issued := by
  obtain ⟨-, -, -, l, c, r, -, hmin, hlr, hpending, -, hout⟩ := complete_spec h hq
  rw [InFlight.issued, InFlight.issued, hpending, hlr, hout]
  cases hdst : c.dst with
  | some i => simp [hdst]
  | none =>
    have hnone : l.filter (fun c => c.dst.isNone) = [] := by
      refine List.filter_eq_nil_iff.mpr fun d hd hisNone => ?_
      have hsorted := h.sorted
      rw [hlr, List.pairwise_append] at hsorted
      have hd' : d ∈ q.pending := by
        rw [hlr]
        exact List.mem_append_left _ hd
      have hc' : c ∈ q.pending := by
        rw [hlr]
        exact List.mem_append_right _ List.mem_cons_self
      refine hmin d hd' ⟨hsorted.2.2 d hd c List.mem_cons_self, .inl ?_⟩
      exact hlane d hd' c hc' (Option.isNone_iff_eq_none.mp hisNone) hdst
    simp [hdst, hnone]

end

end Commands
