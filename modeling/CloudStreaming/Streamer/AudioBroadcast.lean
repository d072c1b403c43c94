import CloudStreaming.Lib.Heap
import CloudStreaming.Lib.OrderedMap
import CloudStreaming.Lib.Runs
import CloudStreaming.Streamer.AudioSource

/-!
# The clients of the audio source (`core/asource.cpp:38-137`, `:200-210`; `ga-audio-input.cpp:32-75`)

The capture thread gives each chunk to every buffer in `gClients` whose client is connected. A frame generator
registers its buffer under the id of the thread that creates it, and unregisters the id of the thread that destroys it:
the map says nothing about whose entry that is. Two generators of one thread share an entry, and a generator that
another thread destroys leaves its entry behind, with the buffer freed. A creation that fails (`Create`, `:39-47`)
destroys the half-made generator and with it the entry of its thread.

| here | there |
| --- | --- |
| `AudioSource.gClients` | `gClients`, in the order of the keys; `none` is `NULL` |
| `AudioSource.buffers`  | the `audio_buffer_t`s, each with the ghosts of `Stream`; a generator is named by its buffer |
| `Client.thread`        | not in the source: the thread that created the generator |
| `fill`                 | `audio_source_buffer_fill`; `none` reads a freed buffer |
| `Op.create`            | `GAAudioFrameGenerator::Create`; `none` if `audio_source_buffer_init` returns `NULL` |

A fill between the registration of a generator and its purge, or between its two steps of destruction, finds it
unconnected, or as it was: both are one step here.
-/

namespace CloudStreaming.Streamer

open Alloc Runs

namespace Broadcast

structure Client where
  stream : Stream
  clientConnected : Bool
  thread : Int

structure AudioSource where
  gClients : OrderedMap Int (Option Nat)
  buffers : Heap Client

inductive Op where
  | create (tid : Int) (mem : Option (Nat → UInt8))
  | destroy (tid : Int) (g : Nat)
  | connect (g : Nat) (status : Bool)
  | read (g : Nat) (frames : Int)
  | fill (data : Option (Nat → UInt8)) (frames : Int)

def Client.step (o : AudioOp) (c : Client) : Client := { c with stream := c.stream.step o }

namespace AudioSource

/-- Before `audio_source_setup`. -/
def empty : AudioSource := ⟨.empty, .empty⟩

/-- `audio_source_buffer_fill` (`:127`). -/
def fill (data : Option (Nat → UInt8)) (frames : Int) : List (Int × Option Nat) → Heap Client → Option (Heap Client)
  | [], h => some h
  | (_, none) :: es, h => fill data frames es h
  | (_, some p) :: es, h =>
    match h.cells p with
    | none => none
    | some c => fill data frames es (if c.clientConnected then h.modify p (Client.step (.fill data frames)) else h)

/-- `audio_source_client_register` (`:201`). -/
def clientRegister (s : AudioSource) (tid : Int) (ab : Option Nat) : AudioSource :=
  { s with gClients := s.gClients.insert tid ab }

/-- `audio_source_client_unregister` (`:207`). -/
def clientUnregister (s : AudioSource) (tid : Int) : AudioSource := { s with gClients := s.gClients.erase tid }

/-- `GAAudioFrameGenerator::Create` (`ga-audio-input.cpp:39`) with what `Init` does. -/
def create (c : AudioSetup) (s : AudioSource) (tid : Int) : Option (Nat → UInt8) → AudioSource
  | none => s.clientUnregister tid
  | some mem =>
    { s with buffers := s.buffers.alloc ⟨(c.stream mem).step .purge, false, tid⟩ }.clientRegister tid
      (some s.buffers.next)

/-- One call. The generator of a call is alive, or the step fails. -/
def step (c : AudioSetup) (s : AudioSource) : Op → Option AudioSource
  | .create tid mem => some (s.create c tid mem)
  | .destroy tid g =>
    if (s.buffers.cells g).isSome then some { s.clientUnregister tid with buffers := s.buffers.free g } else none
  | .connect g status =>
    if (s.buffers.cells g).isSome then
      some { s with buffers := s.buffers.modify g fun cl => { cl with clientConnected := status } }
    else none
  | .read g frames =>
    if (s.buffers.cells g).isSome then some { s with buffers := s.buffers.modify g (Client.step (.read frames)) }
    else none
  | .fill data frames => (fill data frames s.gClients.entries s.buffers).map fun h => { s with buffers := h }

def run (c : AudioSetup) (s : AudioSource) (ops : List Op) : Option AudioSource := ops.foldlM (step c) s

end AudioSource

/-! ## What a generator hears -/

/-- The next chunk goes into the buffer `p`. -/
def AudioSource.hears (s : AudioSource) (p : Nat) : Bool :=
  s.gClients.entries.any (fun e => e.2 = some p) && (s.buffers.cells p).any Client.clientConnected

/-- What a call does to the buffer `p`. -/
def own (s : AudioSource) (p : Nat) : Op → List AudioOp
  | .read g frames => if g = p then [.read frames] else []
  | .fill data frames => if s.hears p then [.fill data frames] else []
  | _ => []

/-- What a run does to the buffer `p`. -/
def heard (c : AudioSetup) (p : Nat) : AudioSource → List Op → List AudioOp
  | _, [] => []
  | s, o :: os => own s p o ++ (s.step c o).elim [] fun s' => heard c p s' os

/-! ## The map of the clients -/

/-- Every registered buffer is one that was made, under the thread that made it, and registered once. -/
structure Inv (s : AudioSource) : Prop where
  made : ∀ tid p, (tid, some p) ∈ s.gClients.entries → p < s.buffers.next
  thread : ∀ tid p cl, (tid, some p) ∈ s.gClients.entries → s.buffers.cells p = some cl → cl.thread = tid
  once : ∀ tid tid' p, (tid, some p) ∈ s.gClients.entries → (tid', some p) ∈ s.gClients.entries → tid = tid'

section
variable {c : AudioSetup} {s s' : AudioSource} {data : Option (Nat → UInt8)} {frames : Int}

theorem Inv.empty : Inv AudioSource.empty := ⟨fun _ _ h => (nomatch h), fun _ _ _ h => (nomatch h), fun _ _ _ h => (nomatch h)⟩

/-- A fill gets through exactly if the buffers of the map are all there. -/
theorem fill_isSome_iff (es : List (Int × Option Nat)) (h : Heap Client) :
    (AudioSource.fill data frames es h).isSome ↔ ∀ tid p, (tid, some p) ∈ es → (h.cells p).isSome := by
  induction es generalizing h with
  | nil => simp [AudioSource.fill]
  | cons e es ih =>
    obtain ⟨tid, _ | p⟩ := e
    · rw [AudioSource.fill, ih]
      simp
    · cases hp : h.cells p with
      | none =>
        simp only [AudioSource.fill, hp, Option.isSome_none, Bool.false_eq_true, false_iff, not_forall]
        exact ⟨tid, p, List.mem_cons_self, by simp [hp]⟩
      | some cl =>
        have hlive : ∀ q, ((if cl.clientConnected then h.modify p (Client.step (.fill data frames)) else h).cells q).isSome =
            (h.cells q).isSome := by
          intro q
          split
          · by_cases hq : q = p
            · rw [hq, Heap.modify_self, Option.isSome_map]
            · rw [Heap.modify_ne hq]
          · rfl
        simp only [AudioSource.fill, hp, ih, hlive]
        constructor
        · intro hall tid' q hq
          rcases List.mem_cons.mp hq with he | hq
          · cases he
            rw [hp]
            rfl
          · exact hall tid' q hq
        · exact fun hall tid' q hq => hall tid' q (List.mem_cons_of_mem _ hq)

/-- What a fill leaves of the buffer `p`: one chunk more, if it is registered and connected. -/
theorem fill_cells {es : List (Int × Option Nat)} {h h' : Heap Client}
    (hfill : AudioSource.fill data frames es h = some h') (hnodup : es.Pairwise fun e e' => ∀ p, e.2 = some p → e'.2 ≠ some p)
    (p : Nat) :
    h'.next = h.next ∧
      h'.cells p = if es.any (fun e => e.2 = some p) && (h.cells p).any Client.clientConnected then
        (h.cells p).map (Client.step (.fill data frames)) else h.cells p := by
  induction es generalizing h with
  | nil =>
    obtain rfl := Option.some.inj hfill
    simp
  | cons e es ih =>
    obtain ⟨hhead, htail⟩ := List.pairwise_cons.mp hnodup
    obtain ⟨tid, _ | q⟩ := e
    · rw [AudioSource.fill] at hfill
      have hne : ¬ (none : Option Nat) = some p := fun he => (nomatch he)
      rw [List.any_cons, decide_eq_false hne, Bool.false_or]
      exact ih hfill htail
    · cases hq : h.cells q with
      | none => simp [AudioSource.fill, hq] at hfill
      | some cl =>
        simp only [AudioSource.fill, hq] at hfill
        obtain ⟨hnext, hcells⟩ := ih hfill htail
        have hnext' : h'.next = h.next := by
          rw [hnext]
          split <;> rfl
        refine ⟨hnext', ?_⟩
        by_cases hpq : p = q
        · -- the other entries are not its own
          subst hpq
          have hrest : es.any (fun e => e.2 = some p) = false := by
            rw [List.any_eq_false]
            intro e he
            simpa using hhead e he p rfl
          rw [hcells, hrest, hq]
          cases hc : cl.clientConnected <;> simp [hc, hq]
        · have hsame : (if cl.clientConnected then h.modify q (Client.step (.fill data frames)) else h).cells p =
              h.cells p := by
            split
            · exact Heap.modify_ne hpq
            · rfl
          have hne : ¬ some q = some p := fun he => hpq (Option.some.inj he).symm
          rw [hcells, hsame, List.any_cons, decide_eq_false hne, Bool.false_or]

theorem Inv.pairwise (h : Inv s) : s.gClients.entries.Pairwise fun e e' => ∀ p, e.2 = some p → e'.2 ≠ some p := by
  refine List.Pairwise.imp_of_mem ?_ s.gClients.ascending
  rintro ⟨tid, _⟩ ⟨tid', _⟩ hmem hmem' hlt p rfl he
  subst he
  exact absurd (h.once tid tid' p hmem hmem') (ne_of_lt hlt)

/-- A fill changes no buffer but by its chunk. -/
theorem step_fill (h : Inv s) (hstep : s.step c (.fill data frames) = some s') :
    s'.gClients = s.gClients ∧ s'.buffers.next = s.buffers.next ∧
      ∀ p, s'.buffers.cells p = if s.hears p then (s.buffers.cells p).map (Client.step (.fill data frames))
        else s.buffers.cells p := by
  obtain ⟨h', hfill, rfl⟩ := Option.map_eq_some_iff.mp hstep
  exact ⟨rfl, (fill_cells hfill h.pairwise 0).1, fun p => (fill_cells hfill h.pairwise p).2⟩

/-- The threads of the clients do not change while they are there. -/
theorem cell_thread (h : Inv s) {o : Op} (hstep : s.step c o = some s') {p : Nat} {cl' : Client}
    (hp : s'.buffers.cells p = some cl') (hlt : p < s.buffers.next) :
    ∃ cl, s.buffers.cells p = some cl ∧ cl'.thread = cl.thread ∧ cl'.stream = (own s p o).foldl Stream.step cl.stream := by
  cases o with
  | create tid mem =>
    obtain rfl := Option.some.inj hstep
    cases mem with
    | none => exact ⟨cl', hp, rfl, rfl⟩
    | some mem =>
      have hne : p ≠ s.buffers.next := ne_of_lt hlt
      exact ⟨cl', (Heap.alloc_ne hne).symm.trans hp, rfl, rfl⟩
  | destroy tid g =>
    obtain ⟨-, he⟩ := Option.ite_none_right_eq_some.mp hstep
    obtain rfl := Option.some.inj he
    by_cases hpg : p = g
    · subst hpg
      exact absurd hp (by simp)
    · exact ⟨cl', (Heap.free_ne hpg).symm.trans hp, rfl, rfl⟩
  | connect g status =>
    obtain ⟨-, he⟩ := Option.ite_none_right_eq_some.mp hstep
    obtain rfl := Option.some.inj he
    by_cases hpg : p = g
    · subst hpg
      obtain ⟨cl, hcl, rfl⟩ := Option.map_eq_some_iff.mp ((Heap.modify_self (h := s.buffers)).symm.trans hp)
      exact ⟨cl, hcl, rfl, rfl⟩
    · exact ⟨cl', (Heap.modify_ne hpg).symm.trans hp, rfl, rfl⟩
  | read g frames =>
    obtain ⟨-, he⟩ := Option.ite_none_right_eq_some.mp hstep
    obtain rfl := Option.some.inj he
    by_cases hpg : p = g
    · subst hpg
      obtain ⟨cl, hcl, rfl⟩ := Option.map_eq_some_iff.mp ((Heap.modify_self (h := s.buffers)).symm.trans hp)
      exact ⟨cl, hcl, rfl, by simp [own, Client.step]⟩
    · have hgp : ¬ g = p := fun he => hpg he.symm
      exact ⟨cl', (Heap.modify_ne hpg).symm.trans hp, rfl, by simp [own, hgp]⟩
  | fill data frames =>
    obtain ⟨-, -, hcells⟩ := step_fill h hstep
    rw [hcells p] at hp
    by_cases hh : s.hears p = true
    · rw [if_pos hh] at hp
      obtain ⟨cl, hcl, rfl⟩ := Option.map_eq_some_iff.mp hp
      exact ⟨cl, hcl, rfl, by simp [own, hh, Client.step]⟩
    · rw [if_neg hh] at hp
      exact ⟨cl', hp, rfl, by simp [own, hh]⟩

/-- A call makes no buffer but by `create`, and frees none but by `destroy`. -/
theorem cell_isSome (h : Inv s) {o : Op} (hstep : s.step c o = some s') (hd : ∀ tid g, o ≠ .destroy tid g) {p : Nat}
    (hp : p < s.buffers.next) : (s'.buffers.cells p).isSome = (s.buffers.cells p).isSome := by
  cases o with
  | create tid mem =>
    obtain rfl := Option.some.inj hstep
    cases mem with
    | none => rfl
    | some mem => exact congrArg Option.isSome (Heap.alloc_ne (ne_of_lt hp))
  | destroy tid g => exact absurd rfl (hd tid g)
  | connect g status =>
    obtain ⟨-, he⟩ := Option.ite_none_right_eq_some.mp hstep
    obtain rfl := Option.some.inj he
    by_cases hpg : p = g
    · subst hpg
      exact (congrArg Option.isSome Heap.modify_self).trans Option.isSome_map
    · exact congrArg Option.isSome (Heap.modify_ne hpg)
  | read g frames =>
    obtain ⟨-, he⟩ := Option.ite_none_right_eq_some.mp hstep
    obtain rfl := Option.some.inj he
    by_cases hpg : p = g
    · subst hpg
      exact (congrArg Option.isSome Heap.modify_self).trans Option.isSome_map
    · exact congrArg Option.isSome (Heap.modify_ne hpg)
  | fill data frames =>
    obtain ⟨-, -, hcells⟩ := step_fill h hstep
    rw [hcells p]
    split
    · exact Option.isSome_map
    · rfl

/-- What a call leaves registered: `create` puts its buffer in the place of its thread, a failed one and `destroy` empty
it. -/
theorem step_entries (h : Inv s) {o : Op} (hstep : s.step c o = some s') (tid : Int) (p : Nat) :
    (tid, some p) ∈ s'.gClients.entries ↔
      match o with
      | .create t (some _) => t = tid ∧ p = s.buffers.next ∨ tid ≠ t ∧ (tid, some p) ∈ s.gClients.entries
      | .create t none | .destroy t _ => tid ≠ t ∧ (tid, some p) ∈ s.gClients.entries
      | _ => (tid, some p) ∈ s.gClients.entries := by
  cases o with
  | create t mem =>
    obtain rfl := Option.some.inj hstep
    cases mem with
    | none => exact OrderedMap.mem_erase
    | some mem =>
      refine OrderedMap.mem_insert.trans (or_congr_left ?_)
      simp [Prod.ext_iff, eq_comm]
  | destroy t g =>
    obtain ⟨-, he⟩ := Option.ite_none_right_eq_some.mp hstep
    obtain rfl := Option.some.inj he
    exact OrderedMap.mem_erase
  | connect g status =>
    obtain ⟨-, he⟩ := Option.ite_none_right_eq_some.mp hstep
    obtain rfl := Option.some.inj he
    rfl
  | read g frames =>
    obtain ⟨-, he⟩ := Option.ite_none_right_eq_some.mp hstep
    obtain rfl := Option.some.inj he
    rfl
  | fill data frames => rw [(step_fill h hstep).1]

theorem step_next (h : Inv s) {o : Op} (hstep : s.step c o = some s') :
    s'.buffers.next = match o with
      | .create _ (some _) => s.buffers.next + 1
      | _ => s.buffers.next := by
  cases o with
  | create t mem =>
    obtain rfl := Option.some.inj hstep
    cases mem <;> rfl
  | destroy t g =>
    obtain ⟨-, he⟩ := Option.ite_none_right_eq_some.mp hstep
    obtain rfl := Option.some.inj he
    rfl
  | connect g status =>
    obtain ⟨-, he⟩ := Option.ite_none_right_eq_some.mp hstep
    obtain rfl := Option.some.inj he
    rfl
  | read g frames =>
    obtain ⟨-, he⟩ := Option.ite_none_right_eq_some.mp hstep
    obtain rfl := Option.some.inj he
    rfl
  | fill data frames => exact (step_fill h hstep).2.1

/-- An entry after a call is one from before it, or that of the buffer it made. -/
theorem entry_cases (h : Inv s) {o : Op} (hstep : s.step c o = some s') {tid : Int} {p : Nat}
    (hmem : (tid, some p) ∈ s'.gClients.entries) :
    (tid, some p) ∈ s.gClients.entries ∧ p < s'.buffers.next ∨
      ∃ mem, o = .create tid (some mem) ∧ p = s.buffers.next ∧ p < s'.buffers.next := by
  have hentries := (step_entries h hstep tid p).mp hmem
  have hnext := step_next h hstep
  rcases o with ⟨t, _ | mem⟩ | ⟨t, g⟩ | ⟨g, status⟩ | ⟨g, frames⟩ | ⟨data, frames⟩
  · exact .inl ⟨hentries.2, hnext ▸ h.made tid p hentries.2⟩
  · rcases hentries with ⟨rfl, rfl⟩ | ⟨-, hold⟩
    · exact .inr ⟨mem, rfl, rfl, hnext ▸ Nat.lt_succ_self _⟩
    · exact .inl ⟨hold, hnext ▸ Nat.lt_succ_of_lt (h.made tid p hold)⟩
  · exact .inl ⟨hentries.2, hnext ▸ h.made tid p hentries.2⟩
  all_goals exact .inl ⟨hentries, hnext ▸ h.made tid p hentries⟩

/-- **One call** keeps the map in order. -/
theorem Inv.step (h : Inv s) {o : Op} (hstep : s.step c o = some s') : Inv s' := by
  refine ⟨fun tid p hmem => ?_, fun tid p cl hmem hp => ?_, fun tid tid' p hmem hmem' => ?_⟩
  · rcases entry_cases h hstep hmem with ⟨-, hlt⟩ | ⟨-, -, -, hlt⟩ <;> exact hlt
  · rcases entry_cases h hstep hmem with ⟨hold, -⟩ | ⟨mem, rfl, rfl, -⟩
    · obtain ⟨cl₀, hcl₀, hthread, -⟩ := cell_thread h hstep hp (h.made tid p hold)
      rw [hthread]
      exact h.thread tid p cl₀ hold hcl₀
    · obtain rfl := Option.some.inj hstep
      obtain rfl := Option.some.inj (Heap.alloc_self.symm.trans hp)
      rfl
  · rcases entry_cases h hstep hmem with ⟨hold, -⟩ | ⟨mem, rfl, rfl, -⟩
    · rcases entry_cases h hstep hmem' with ⟨hold', -⟩ | ⟨-, -, rfl, -⟩
      · exact h.once tid tid' p hold hold'
      · exact absurd (h.made tid _ hold) (lt_irrefl _)
    · rcases entry_cases h hstep hmem' with ⟨hold', -⟩ | ⟨_, he, -, -⟩
      · exact absurd (h.made tid' _ hold') (lt_irrefl _)
      · injection he

/-! ## The streams of the clients -/

/-- From a state in which `p` is there: its stream is what the run does to it. -/
theorem run_stream (ops : List Op) (h : Inv s) (hrun : s.run c ops = some s') {p : Nat} (hlt : p < s.buffers.next)
    {cl' : Client} (hp : s'.buffers.cells p = some cl') :
    ∃ cl, s.buffers.cells p = some cl ∧ cl'.stream = (heard c p s ops).foldl Stream.step cl.stream := by
  induction ops generalizing s with
  | nil =>
    obtain rfl := Option.some.inj hrun
    exact ⟨cl', hp, rfl⟩
  | cons o os ih =>
    rw [AudioSource.run, List.foldlM_cons] at hrun
    obtain ⟨s₁, hstep, hrun⟩ := Option.bind_eq_some_iff.mp hrun
    have hlt₁ : p < s₁.buffers.next := by
      rw [step_next h hstep]
      split
      · exact Nat.lt_succ_of_lt hlt
      · exact hlt
    obtain ⟨cl₁, hcl₁, hstream⟩ := ih (h.step hstep) hrun hlt₁
    obtain ⟨cl, hcl, -, hfirst⟩ := cell_thread h hstep hcl₁ hlt
    refine ⟨cl, hcl, ?_⟩
    rw [hstream, hfirst, heard, hstep, Option.elim_some, List.foldl_append]

/-- Nothing is done to a buffer that is not made. -/
theorem own_unmade {o : Op} (hstep : s.step c o = some s') {p : Nat} (hp : s.buffers.next ≤ p) :
    own s p o = [] := by
  have hnone : s.buffers.cells p = none := s.buffers.fresh p hp
  cases o with
  | read g frames =>
    have hg := (Option.ite_none_right_eq_some.mp hstep).1
    have hne : g ≠ p := by
      rintro rfl
      rw [hnone] at hg
      cases hg
    exact if_neg hne
  | fill data frames =>
    have hh : s.hears p = false := by simp [AudioSource.hears, hnone]
    exact if_neg (by simp [hh])
  | _ => rfl

/-- From a state in which `p` is not made yet. -/
theorem run_made (ops : List Op) (h : Inv s) (hrun : s.run c ops = some s') {p : Nat} (hle : s.buffers.next ≤ p)
    {cl' : Client} (hp : s'.buffers.cells p = some cl') :
    ∃ mem, cl'.stream = (heard c p s ops).foldl Stream.step (c.stream mem) := by
  induction ops generalizing s with
  | nil =>
    obtain rfl := Option.some.inj hrun
    rw [s.buffers.fresh p hle] at hp
    cases hp
  | cons o os ih =>
    rw [AudioSource.run, List.foldlM_cons] at hrun
    obtain ⟨s₁, hstep, hrun⟩ := Option.bind_eq_some_iff.mp hrun
    have hheard : heard c p s (o :: os) = heard c p s₁ os := by
      rw [heard, hstep, Option.elim_some, own_unmade hstep hle, List.nil_append]
    rw [hheard]
    by_cases hle₁ : s₁.buffers.next ≤ p
    · exact ih (h.step hstep) hrun hle₁
    · -- this call makes it
      have hnext := step_next h hstep
      obtain ⟨cl₁, hcl₁, hstream⟩ := run_stream os (h.step hstep) hrun (not_le.mp hle₁) hp
      rcases o with ⟨t, _ | mem⟩ | ⟨t, g⟩ | ⟨g, status⟩ | ⟨g, frames⟩ | ⟨data, frames⟩
      case create.some =>
        have hpn : p = s.buffers.next := by simp only at hnext; omega
        obtain rfl := Option.some.inj hstep
        subst hpn
        obtain rfl := Option.some.inj (Heap.alloc_self.symm.trans hcl₁)
        exact ⟨mem, hstream⟩
      all_goals exact absurd (hnext ▸ hle) hle₁

theorem heard_fits {ops : List Op} {p : Nat}
    (hfits : ∀ data frames, .fill data frames ∈ ops → c.Fits (.fill data frames)) : ∀ a ∈ heard c p s ops, c.Fits a := by
  induction ops generalizing s with
  | nil => simp [heard]
  | cons o os ih =>
    intro a ha
    rw [heard, List.mem_append] at ha
    rcases ha with ha | ha
    · rcases o with ⟨t, mem⟩ | ⟨t, g⟩ | ⟨g, status⟩ | ⟨g, frames⟩ | ⟨data, frames⟩
      case read =>
        simp only [own] at ha
        split at ha
        · rw [List.mem_singleton.mp ha]
          trivial
        · cases ha
      case fill =>
        simp only [own] at ha
        split at ha
        · rw [List.mem_singleton.mp ha]
          exact hfits data frames List.mem_cons_self
        · cases ha
      all_goals cases ha
    · cases hs : s.step c o with
      | none => simp [hs] at ha
      | some s₁ =>
        rw [hs, Option.elim_some] at ha
        exact ih (fun data frames hmem => hfits data frames (List.mem_cons_of_mem _ hmem)) a ha

/-- **Each client has its own stream.** However generators come and go, connect and read, the buffer of each one that is
there has taken what the capture thread gave out while it was registered and connected, and its own reads, and nothing
else: it loses and reorders nothing of that. -/
theorem audio_broadcast (c : AudioSetup) (ops : List Op)
    (hfits : ∀ data frames, .fill data frames ∈ ops → c.Fits (.fill data frames)) {s : AudioSource}
    (hrun : AudioSource.empty.run c ops = some s) {p : Nat} {cl : Client} (hp : s.buffers.cells p = some cl) :
    (∃ mem, cl.stream = (heard c p AudioSource.empty ops).foldl Stream.step (c.stream mem)) ∧
      cl.stream.delivered <+: cl.stream.accepted ∧ cl.stream.ab.bufPts = cl.stream.framesRead := by
  obtain ⟨mem, hstream⟩ := run_made ops Inv.empty hrun (Nat.zero_le p) hp
  have hheard : ∀ a ∈ heard c p AudioSource.empty ops, c.Fits a := heard_fits hfits
  have hkept := Kept.run c mem hheard
  rw [← hstream] at hkept
  obtain ⟨-, -, bytes, -, hacc, hpts⟩ := hkept
  exact ⟨⟨mem, hstream⟩, ⟨bytes, hacc.symm⟩, hpts⟩

end

/-- One channel of 8 bits, four frames of room. -/
def mono : AudioSetup := ⟨1, 1, 8, by decide, by decide, by decide, by decide, by decide⟩

/-- Two clients on two threads; the second connects after the first chunk. -/
def twoClients : List Op :=
  [.create 7 (some fun _ => 0), .create 8 (some fun _ => 0), .connect 0 true, .fill none 1, .connect 1 true,
    .fill (some UInt8.ofNat) 1, .read 1 4, .read 0 1]

theorem audio_broadcast_second :
    ∃ s cl, AudioSource.empty.run mono twoClients = some s ∧ s.buffers.cells 1 = some cl ∧
      (∃ mem, cl.stream = (heard mono 1 AudioSource.empty twoClients).foldl Stream.step (mono.stream mem)) ∧
      cl.stream.delivered <+: cl.stream.accepted ∧ cl.stream.ab.bufPts = cl.stream.framesRead := by
  obtain ⟨s, hs⟩ : ∃ s, AudioSource.empty.run mono twoClients = some s := Option.isSome_iff_exists.mp (by decide)
  obtain ⟨cl, hcl⟩ : ∃ cl, s.buffers.cells 1 = some cl := by
    have hlive : ((AudioSource.empty.run mono twoClients).bind fun s => s.buffers.cells 1).isSome := by decide
    rw [hs] at hlive
    exact Option.isSome_iff_exists.mp hlive
  refine ⟨s, cl, hs, hcl, audio_broadcast mono twoClients (fun data frames hmem => ?_) hs hcl⟩
  have hframes : frames = 1 := by
    simp only [twoClients, List.mem_cons, List.not_mem_nil] at hmem
    grind
  simp [hframes, AudioSetup.Fits, mono]

/-! ## Who is registered -/

section
variable {c : AudioSetup} {s s' : AudioSource}

/-- No entry leads to a freed buffer. -/
def NoDangling (s : AudioSource) : Prop := ∀ tid p, (tid, some p) ∈ s.gClients.entries → (s.buffers.cells p).isSome

/-- The generators that are there are registered, each under its thread, and no others. -/
def Exact (s : AudioSource) : Prop :=
  ∀ tid p, (tid, some p) ∈ s.gClients.entries ↔ ∃ cl, s.buffers.cells p = some cl ∧ cl.thread = tid

/-- A call is for a generator that is there, and one that is registered is destroyed by the thread of its entry. -/
def Safe (s : AudioSource) : Op → Prop
  | .destroy tid g => (s.buffers.cells g).isSome ∧ ∀ tid', (tid', some g) ∈ s.gClients.entries → tid' = tid
  | .connect g _ | .read g _ => (s.buffers.cells g).isSome
  | _ => True

/-- A thread has one generator at a time, and destroys it itself. -/
def OneEach (s : AudioSource) : Op → Prop
  | .create tid _ => ∀ p cl, s.buffers.cells p = some cl → cl.thread ≠ tid
  | .destroy tid g => ∃ cl, s.buffers.cells g = some cl ∧ cl.thread = tid
  | .connect g _ | .read g _ => (s.buffers.cells g).isSome
  | .fill .. => True

theorem step_isSome_iff (o : Op) :
    (s.step c o).isSome ↔ match o with
      | .create .. => True
      | .destroy _ g | .connect g _ | .read g _ => (s.buffers.cells g).isSome
      | .fill .. => NoDangling s := by
  cases o with
  | create tid mem => simp [AudioSource.step]
  | fill data frames => rw [AudioSource.step, Option.isSome_map, fill_isSome_iff, NoDangling]
  | _ => simp [AudioSource.step]

/-- **A call that is safe** leaves no entry dangling, and only such a one. -/
theorem step_safe_iff (h : Inv s) (hd : NoDangling s) (o : Op) :
    (∃ s', s.step c o = some s' ∧ NoDangling s') ↔ Safe s o := by
  constructor
  · rintro ⟨s', hstep, hd'⟩
    have hlive := (step_isSome_iff o).mp (Option.isSome_of_eq_some hstep)
    cases o with
    | destroy tid g =>
      refine ⟨hlive, fun tid' hmem => ?_⟩
      by_contra hne
      -- the entry is still there, and the buffer is gone
      have hleft := hd' tid' g ((step_entries h hstep tid' g).mpr ⟨hne, hmem⟩)
      obtain rfl := Option.some.inj (Option.ite_none_right_eq_some.mp hstep).2
      simp at hleft
    | connect g status => exact hlive
    | read g frames => exact hlive
    | _ => trivial
  · intro hsafe
    have hsome : (s.step c o).isSome := by
      rw [step_isSome_iff]
      cases o with
      | create tid mem => trivial
      | destroy tid g => exact hsafe.1
      | fill data frames => exact hd
      | _ => exact hsafe
    obtain ⟨s', hstep⟩ := Option.isSome_iff_exists.mp hsome
    refine ⟨s', hstep, fun tid p hmem => ?_⟩
    rcases entry_cases h hstep hmem with ⟨hold, -⟩ | ⟨mem, rfl, rfl, -⟩
    · by_cases hdes : ∃ t g, o = .destroy t g
      · obtain ⟨t, g, rfl⟩ := hdes
        have hne := ((step_entries h hstep tid p).mp hmem).1
        have hpg : p ≠ g := by
          rintro rfl
          exact hne (hsafe.2 tid hold)
        obtain rfl := Option.some.inj (Option.ite_none_right_eq_some.mp hstep).2
        exact (congrArg Option.isSome (Heap.free_ne hpg)).trans (hd tid p hold)
      · rw [cell_isSome h hstep (fun t g he => hdes ⟨t, g, he⟩) (h.made tid p hold)]
        exact hd tid p hold
    · obtain rfl := Option.some.inj hstep
      exact congrArg Option.isSome Heap.alloc_self

/-- **No freed buffer is filled**: in a run every call gets through and no entry dangles exactly if each generator that
is destroyed is registered, if at all, under the thread that destroys it. -/
theorem registry_safe_iff (c : AudioSetup) (ops : List Op) :
    Succeeds (AudioSource.step c) (fun _ _ s' => NoDangling s') AudioSource.empty ops ↔
      Requires (AudioSource.step c) Safe AudioSource.empty ops :=
  succeeds_iff (I := fun s => Inv s ∧ NoDangling s) (fun _ o hI => step_safe_iff hI.1 hI.2 o)
    (fun _ _ _ hI hstep hd => ⟨hI.1.step hstep, hd⟩) ops _ ⟨Inv.empty, fun _ _ hmem => (nomatch hmem)⟩

theorem Exact.noDangling (h : Exact s) : NoDangling s := by
  intro tid p hmem
  obtain ⟨cl, hcl, -⟩ := (h tid p).mp hmem
  rw [hcl]
  rfl

/-- The generators after a call: those of before that it does not destroy, and the one it makes. -/
theorem cell_cases (h : Inv s) {o : Op} (hstep : s.step c o = some s') {p : Nat} {tid : Int} :
    (∃ cl, s'.buffers.cells p = some cl ∧ cl.thread = tid) ↔
      (p < s.buffers.next ∧ (∀ t, o ≠ .destroy t p) ∧ ∃ cl, s.buffers.cells p = some cl ∧ cl.thread = tid) ∨
        ∃ mem, o = .create tid (some mem) ∧ p = s.buffers.next := by
  constructor
  · rintro ⟨cl', hcl', hthread⟩
    by_cases hlt : p < s.buffers.next
    · obtain ⟨cl, hcl, heq, -⟩ := cell_thread h hstep hcl' hlt
      refine .inl ⟨hlt, ?_, cl, hcl, heq.symm.trans hthread⟩
      rintro t rfl
      obtain rfl := Option.some.inj (Option.ite_none_right_eq_some.mp hstep).2
      simp at hcl'
    · have hnext := step_next h hstep
      have hlt' : p < s'.buffers.next := Heap.lt_next (Option.isSome_of_eq_some hcl')
      rcases o with ⟨t, _ | mem⟩ | ⟨t, g⟩ | ⟨g, status⟩ | ⟨g, frames⟩ | ⟨data, frames⟩
      case create.some =>
        have hp : p = s.buffers.next := by simp only at hnext; omega
        obtain rfl := Option.some.inj hstep
        subst hp
        obtain rfl := Option.some.inj (Heap.alloc_self.symm.trans hcl')
        exact .inr ⟨mem, by rw [← hthread], rfl⟩
      all_goals
        simp only at hnext
        omega
  · rintro (⟨hlt, hnot, cl, hcl, hthread⟩ | ⟨mem, rfl, rfl⟩)
    · have hsome : (s'.buffers.cells p).isSome := by
        by_cases hdes : ∃ t g, o = .destroy t g
        · obtain ⟨t, g, rfl⟩ := hdes
          have hpg : p ≠ g := by
            rintro rfl
            exact hnot t rfl
          obtain rfl := Option.some.inj (Option.ite_none_right_eq_some.mp hstep).2
          exact (congrArg Option.isSome (Heap.free_ne hpg)).trans (by rw [hcl]; rfl)
        · rw [cell_isSome h hstep (fun t g he => hdes ⟨t, g, he⟩) hlt, hcl]
          rfl
      obtain ⟨cl', hcl'⟩ := Option.isSome_iff_exists.mp hsome
      obtain ⟨cl₀, hcl₀, heq, -⟩ := cell_thread h hstep hcl' hlt
      obtain rfl := Option.some.inj (hcl.symm.trans hcl₀)
      exact ⟨cl', hcl', heq.trans hthread⟩
    · obtain rfl := Option.some.inj hstep
      exact ⟨_, Heap.alloc_self, rfl⟩

/-- **A call of a thread that keeps to one generator** keeps the map exact, and only such a one. -/
theorem step_exact_iff (h : Inv s) (he : Exact s) (o : Op) : (∃ s', s.step c o = some s' ∧ Exact s') ↔ OneEach s o := by
  have hmade : ∀ {p cl}, s.buffers.cells p = some cl → p < s.buffers.next := fun hcl =>
    Heap.lt_next (Option.isSome_of_eq_some hcl)
  constructor
  · rintro ⟨s', hstep, he'⟩
    have hlive := (step_isSome_iff o).mp (Option.isSome_of_eq_some hstep)
    rcases o with ⟨t, mem⟩ | ⟨t, g⟩ | ⟨g, status⟩ | ⟨g, frames⟩ | ⟨data, frames⟩
    · -- a generator that is there loses its entry
      intro p cl hcl hthread
      have hcell := (cell_cases h hstep).mpr (.inl ⟨hmade hcl, fun _ hc => (nomatch hc), cl, hcl, hthread⟩)
      have hentry := (step_entries h hstep t p).mp ((he' t p).mpr hcell)
      cases mem with
      | none => exact hentry.1 rfl
      | some mem =>
        rcases hentry with ⟨-, rfl⟩ | ⟨hne, -⟩
        · exact absurd (hmade hcl) (lt_irrefl _)
        · exact hne rfl
    · obtain ⟨cl, hcl⟩ := Option.isSome_iff_exists.mp hlive
      refine ⟨cl, hcl, ?_⟩
      by_contra hne
      -- the entry of the one destroyed is left
      have hleft := (step_entries h hstep cl.thread g).mpr ⟨hne, (he cl.thread g).mpr ⟨cl, hcl, rfl⟩⟩
      obtain ⟨cl', hcl', -⟩ := (he' cl.thread g).mp hleft
      obtain rfl := Option.some.inj (Option.ite_none_right_eq_some.mp hstep).2
      simp at hcl'
    · exact hlive
    · exact hlive
    · trivial
  · intro hone
    have hsome : (s.step c o).isSome := by
      rw [step_isSome_iff]
      cases o with
      | create tid mem => trivial
      | destroy tid g =>
        obtain ⟨cl, hcl, -⟩ := hone
        exact Option.isSome_of_eq_some hcl
      | fill data frames => exact he.noDangling
      | _ => exact hone
    obtain ⟨s', hstep⟩ := Option.isSome_iff_exists.mp hsome
    refine ⟨s', hstep, fun tid p => ?_⟩
    rw [step_entries h hstep, cell_cases h hstep]
    rcases o with ⟨t, _ | mem⟩ | ⟨t, g⟩ | ⟨g, status⟩ | ⟨g, frames⟩ | ⟨data, frames⟩
    · constructor
      · rintro ⟨-, hold⟩
        exact .inl ⟨h.made tid p hold, fun _ hc => (nomatch hc), (he tid p).mp hold⟩
      · rintro (⟨-, -, cl, hcl, rfl⟩ | ⟨_, hc, -⟩)
        · exact ⟨hone p cl hcl, (he _ p).mpr ⟨cl, hcl, rfl⟩⟩
        · cases hc
    · constructor
      · rintro (⟨rfl, rfl⟩ | ⟨-, hold⟩)
        · exact .inr ⟨mem, rfl, rfl⟩
        · exact .inl ⟨h.made tid p hold, fun _ hc => (nomatch hc), (he tid p).mp hold⟩
      · rintro (⟨-, -, cl, hcl, rfl⟩ | ⟨_, hc, rfl⟩)
        · exact .inr ⟨hone p cl hcl, (he _ p).mpr ⟨cl, hcl, rfl⟩⟩
        · injection hc with ht
          exact .inl ⟨ht, rfl⟩
    · obtain ⟨clg, hclg, hthread⟩ := hone
      constructor
      · rintro ⟨hne, hold⟩
        refine .inl ⟨h.made tid p hold, ?_, (he tid p).mp hold⟩
        rintro t' hc
        injection hc with _ hgp
        subst hgp
        exact hne ((h.thread tid g clg hold hclg).symm.trans hthread)
      · rintro (⟨-, hnot, cl, hcl, rfl⟩ | ⟨_, hc, -⟩)
        · have hold := (he _ p).mpr ⟨cl, hcl, rfl⟩
          refine ⟨fun ht => ?_, hold⟩
          -- one thread has one entry
          have hg := (he t g).mpr ⟨clg, hclg, hthread⟩
          have hpg : some g = some p := OrderedMap.eq_of_mem hg (ht ▸ hold)
          exact hnot t (by rw [Option.some.inj hpg])
        · cases hc
    all_goals
      constructor
      · exact fun hold => .inl ⟨h.made tid p hold, fun _ hc => (nomatch hc), (he tid p).mp hold⟩
      · rintro (⟨-, -, hcell⟩ | ⟨_, hc, -⟩)
        · exact (he tid p).mpr hcell
        · cases hc

/-- **Everyone there is heard**: in a run every call gets through and the map holds exactly the generators that are there
if and only if no thread makes a second generator while it has one, or destroys one of another thread. -/
theorem registry_exact_iff (c : AudioSetup) (ops : List Op) :
    Succeeds (AudioSource.step c) (fun _ _ s' => Exact s') AudioSource.empty ops ↔
      Requires (AudioSource.step c) OneEach AudioSource.empty ops :=
  succeeds_iff (I := fun s => Inv s ∧ Exact s) (fun _ o hI => step_exact_iff hI.1 hI.2 o)
    (fun _ _ _ hI hstep he => ⟨hI.1.step hstep, he⟩) ops _
    ⟨Inv.empty, fun _ _ => ⟨fun hmem => (nomatch hmem), fun ⟨_, hcl, _⟩ => (nomatch hcl)⟩⟩

end

end Broadcast

end CloudStreaming.Streamer
