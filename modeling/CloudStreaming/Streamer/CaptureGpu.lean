import CloudStreaming.Lib.Commands
import Mathlib.Data.List.TakeWhile

/-!
# Surfaces and their events (`streamer/capture/dx11-surface.cpp`, `dx12-surface.cpp`)

Every command of the capture pipeline is followed by a fence of its engine, and the surface it writes (for the encoder: the
one it reads) queues an event for that fence. `wait_gpu_event_gpu` makes a queue wait for the newest event of a surface
only; this is enough, since the commands behind the older ones are ordered before it (`waitGpu_waited`).

| here | there |
| --- | --- |
| `Surface`     | the surfaces of the duplicator's pool, the two of `VideoProcessor`'s copy and those of its pool, each by number |
| `Engine`      | the duplicator's and the encoder's immediate context, the video queue, the two copy queues of the `n`th reset |
| `Gpu.queues`  | not in the source: the commands that were submitted and are not over; they read and write whole pictures |
| `Gpu.events`  | `m_event_queue` of each surface, the fence and the value of an event as the number of the command before it |
| `Command.value` | the number of the picture a command reads; `none` before there is one |

A GPU runs the commands of a queue in their order, and a fence reaches a value when what was submitted before it is over.
Fences, events and calls that fail are left out, as are the pixels.
-/

namespace CloudStreaming.Streamer.Capture

open Commands Function

inductive Surface where
  | captured (n : Nat)
  | staging (n : Nat)
  | copyDst (n : Nat)
  | output (n : Nat)
  deriving DecidableEq

inductive Engine where
  | copy
  | srcCopy (n : Nat)
  | dstCopy (n : Nat)
  | video
  | encode
  deriving DecidableEq

abbrev Cmd := Command Engine Surface (Option Nat)

structure Gpu where
  queues : InFlight Engine Surface (Option Nat)
  events : Surface → List Nat

namespace Gpu

def init : Gpu := ⟨⟨fun _ => none, [], 0, []⟩, fun _ => []⟩

/-- The fence behind the command has been reached. -/
def done (g : Gpu) (v : Nat) : Bool := g.queues.pending.all fun c => c.id ≠ v

/-- `wait_gpu_event_cpu(0)` does not time out: all events of the surface are over. -/
def idle (g : Gpu) (x : Surface) : Bool := (g.events x).all g.done

/-- What `wait_gpu_event_cpu(0)` leaves in the event queues of the surfaces it is called on. -/
def waitCpu (g : Gpu) (xs : List Surface) : Gpu :=
  { g with events := fun x => if x ∈ xs then (g.events x).dropWhile g.done else g.events x }

/-- `wait_gpu_event_gpu` (`dx12-surface.cpp:364`): what the queue waits for. The event is signalled once more. -/
def waitGpu (g : Gpu) (x : Surface) : Gpu × List Nat :=
  let events := (g.events x).filter fun v => !g.done v
  match events.getLast? with
  | none => ({ g with events := update g.events x [] }, [])
  | some v => ({ g with events := update g.events x (events ++ [v]) }, [v])

/-- `ExecuteCommandLists`, `Signal` and `signal_gpu_event` on the surface `x`. -/
def submit (g : Gpu) (engine : Engine) (src dst : Option Surface) (waits : List Nat) (picture : Option Nat) (x : Surface) :
    Gpu where
  queues := g.queues.submit engine src dst waits picture
  events := update g.events x (g.events x ++ [g.queues.next])

/-- One surface is converted or copied to another: the queue waits for both. -/
def convert (g : Gpu) (engine : Engine) (src dst : Surface) : Gpu :=
  let (g, w) := g.waitGpu src
  let (g, w') := g.waitGpu dst
  g.submit engine (some src) (some dst) (w ++ w') none dst

/-- A surface is copied to one of the encoder. -/
def encode (g : Gpu) (src : Surface) : Gpu :=
  let (g, w) := g.waitGpu src
  g.submit .encode (some src) none w none src

/-- A command that nothing holds back runs. -/
def run (g : Gpu) (v : Nat) : Option Gpu := (g.queues.complete v).map fun q => { g with queues := q }

end Gpu

/-- What the engines read and write. -/
def Typed (c : Cmd) : Prop :=
  match c.lane with
  | .copy => c.src = none ∧ ∃ b, c.dst = some (.captured b)
  | .srcCopy n => (∃ b, c.src = some (.captured b)) ∧ c.dst = some (.staging n)
  | .dstCopy n => c.src = some (.staging n) ∧ c.dst = some (.copyDst n)
  | .video => ((∃ b, c.src = some (.captured b)) ∨ ∃ n, c.src = some (.copyDst n)) ∧ ∃ b, c.dst = some (.output b)
  | .encode => (∃ b, c.src = some (.output b)) ∧ c.dst = none

/-- The one engine that writes a surface. -/
def Surface.writer : Surface → Engine
  | .captured _ => .copy
  | .staging n => .srcCopy n
  | .copyDst n => .dstCopy n
  | .output _ => .video

theorem Typed.writes {c : Cmd} {x : Surface} (hc : Typed c) (hx : c.dst = some x) : c.lane = x.writer := by
  rw [Typed, hx] at hc
  cases hl : c.lane <;> simp only [hl] at hc
  case copy =>
    obtain ⟨-, b, hb⟩ := hc
    cases hb
    rfl
  case srcCopy n =>
    cases hc.2
    rfl
  case dstCopy n =>
    cases hc.2
    rfl
  case video =>
    obtain ⟨-, b, hb⟩ := hc
    cases hb
    rfl
  case encode => cases hc.2

/-- Which engines read a surface. -/
def Surface.ReadBy : Surface → Engine → Prop
  | .captured _, e => e = .video ∨ ∃ n, e = .srcCopy n
  | .staging n, e => e = .dstCopy n
  | .copyDst _, e => e = .video
  | .output _, e => e = .encode

theorem Typed.reads {c : Cmd} {x : Surface} (hc : Typed c) (hx : c.src = some x) : x.ReadBy c.lane := by
  rw [Typed, hx] at hc
  cases hl : c.lane <;> simp only [hl] at hc
  case copy => cases hc.1
  case srcCopy n =>
    obtain ⟨⟨b, hb⟩, -⟩ := hc
    cases hb
    exact .inr ⟨n, rfl⟩
  case dstCopy n =>
    cases hc.1
    rfl
  case video =>
    rcases hc.1 with ⟨b, hb⟩ | ⟨n, hn⟩
    · cases hb
      exact .inl rfl
    · cases hn
      rfl
  case encode =>
    obtain ⟨⟨b, hb⟩, -⟩ := hc
    cases hb
    rfl

/-- Of which engines a command may come before one of another engine: nothing comes before a capture but captures. -/
def Feeds (c d : Cmd) : Prop :=
  match d.lane with
  | .copy => c.lane = .copy
  | .srcCopy n => c.lane = .copy ∨ c.lane = .srcCopy n
  | _ => True

theorem Feeds.of_lane {c d : Cmd} (h : c.lane = d.lane) : Feeds c d := by
  rw [Feeds, h]
  cases d.lane <;> simp

theorem Feeds.trans {b c d : Cmd} (hbc : Feeds b c) (hcd : Feeds c d) : Feeds b d := by
  rw [Feeds] at hcd ⊢
  cases hl : d.lane <;> simp only [hl] at hcd ⊢
  case copy =>
    rw [Feeds, hcd] at hbc
    exact hbc
  case srcCopy n =>
    rcases hcd with hcd | hcd <;> rw [Feeds, hcd] at hbc
    · exact .inl hbc
    · exact hbc

namespace Gpu

/-- What a command waits for feeds its engine. -/
def Fed (g : Gpu) : Prop := ∀ c ∈ g.queues.pending, ∀ d ∈ g.queues.pending, Before c d → Feeds c d

/-- What comes before a command is of an engine that feeds its own. -/
theorem Fed.ordered {g : Gpu} (h : g.Fed) {c d : Cmd} (hcd : Ordered g.queues.pending c d) : Feeds c d := by
  induction hcd with
  | single hstep => exact h _ hstep.1 _ hstep.2.1 hstep.2.2
  | tail _ hstep ih => exact ih.trans (h _ hstep.1 _ hstep.2.1 hstep.2.2)

/-- An event stands for a command that touches its surface; all commands in flight that write a surface, and those with
which the encoder reads it, have one. -/
structure Ok (g : Gpu) : Prop where
  sound : Sound g.queues
  typed : ∀ c ∈ g.queues.pending, Typed c
  sorted : ∀ x, (g.events x).Pairwise (· ≤ ·)
  old : ∀ x, ∀ v ∈ g.events x, v < g.queues.next
  touches : ∀ x, ∀ c ∈ g.queues.pending, c.id ∈ g.events x → c.dst = some x ∨ (c.lane = .encode ∧ c.src = some x)
  writers : ∀ c ∈ g.queues.pending, ∀ x, c.dst = some x → c.id ∈ g.events x
  readers : ∀ c ∈ g.queues.pending, c.lane = .encode → ∀ x, c.src = some x → c.id ∈ g.events x
  fed : g.Fed

/-- Who waits for `w` waits for all that is being written to the surface. -/
def Waited (g : Gpu) (x : Surface) (w : List Nat) : Prop :=
  ∀ d ∈ g.queues.pending, d.dst = some x → ∃ b ∈ g.queues.pending, b.id ∈ w ∧ (d = b ∨ Ordered g.queues.pending d b)

variable {g g' : Gpu} {x : Surface} {v : Nat}

theorem done_iff : g.done v = true ↔ ∀ c ∈ g.queues.pending, c.id ≠ v := by
  simp [done]

theorem not_done_of_mem {c : Cmd} (hc : c ∈ g.queues.pending) : g.done c.id = false := by
  rw [Bool.eq_false_iff]
  exact fun h => done_iff.mp h c hc rfl

theorem waitGpu_cases (g : Gpu) (x : Surface) :
    ((∀ v ∈ g.events x, g.done v = true) ∧ g.waitGpu x = ({ g with events := update g.events x [] }, [])) ∨
      ∃ vs v, ((g.events x).filter fun v => !g.done v) = vs ++ [v] ∧
        g.waitGpu x = ({ g with events := update g.events x (vs ++ [v] ++ [v]) }, [v]) := by
  rw [Gpu.waitGpu]
  rcases List.eq_nil_or_concat ((g.events x).filter fun v => !g.done v) with hnil | ⟨vs, v, hlast⟩
  · left
    simp only [hnil, List.getLast?_nil, and_true]
    simpa using hnil
  · right
    refine ⟨vs, v, ?_, ?_⟩
    · rw [hlast, List.concat_eq_append]
    · simp [hlast]

theorem waitGpu_queues (g : Gpu) (x : Surface) : (g.waitGpu x).1.queues = g.queues := by
  rcases waitGpu_cases g x with ⟨-, heq⟩ | ⟨vs, v, -, heq⟩ <;> rw [heq]

namespace Ok

theorem init : Ok Gpu.init where
  sound := Sound.init _
  typed := by simp [Gpu.init]
  sorted := by simp [Gpu.init]
  old := by simp [Gpu.init]
  touches := by simp [Gpu.init]
  writers := by simp [Gpu.init]
  readers := by simp [Gpu.init]
  fed := by simp [Gpu.init, Fed]

/-- Other event queues with the same commands. -/
theorem setEvents (h : Ok g) {events : Surface → List Nat} (hsorted : ∀ x, (events x).Pairwise (· ≤ ·))
    (hsub : ∀ x, events x ⊆ g.events x) (hkept : ∀ x, ∀ v ∈ g.events x, g.done v = false → v ∈ events x) :
    Ok { g with events := events } where
  sound := h.sound
  typed := h.typed
  sorted := hsorted
  old x v hv := h.old x v (hsub x hv)
  touches x c hc hv := h.touches x c hc (hsub x hv)
  writers c hc x hx := hkept x c.id (h.writers c hc x hx) (not_done_of_mem hc)
  readers c hc hl x hx := hkept x c.id (h.readers c hc hl x hx) (not_done_of_mem hc)
  fed := h.fed

theorem waitCpu (h : Ok g) (xs : List Surface) : Ok (g.waitCpu xs) := by
  refine h.setEvents (fun x => ?_) (fun x => ?_) fun x v hv hdone => ?_
  · split
    · exact (h.sorted x).sublist (List.dropWhile_sublist _)
    · exact h.sorted x
  · split
    · exact (List.dropWhile_sublist _).subset
    · exact fun _ hv => hv
  · split
    · rw [← List.takeWhile_append_dropWhile (p := g.done) (l := g.events x)] at hv
      rcases List.mem_append.mp hv with hv | hv
      · rw [(List.mem_takeWhile_imp hv : g.done v = true)] at hdone
        cases hdone
      · exact hv
    · exact hv

theorem waitGpu (h : Ok g) (x : Surface) : Ok (g.waitGpu x).1 := by
  rcases waitGpu_cases g x with ⟨hdone, heq⟩ | ⟨vs, v, hlast, heq⟩
  · rw [heq]
    refine h.setEvents (fun y => ?_) (fun y => ?_) fun y v hv hndone => ?_
    · by_cases hy : y = x
      · rw [hy, update_self]
        exact .nil
      · rw [update_of_ne hy]
        exact h.sorted y
    · by_cases hy : y = x
      · rw [hy, update_self]
        exact List.nil_subset _
      · rw [update_of_ne hy]
        exact fun _ hv => hv
    · by_cases hy : y = x
      · subst hy
        rw [hdone v hv] at hndone
        cases hndone
      · rw [update_of_ne hy]
        exact hv
  · have hsub : vs ++ [v] ⊆ g.events x := by
      rw [← hlast]
      exact List.filter_subset_self _
    have hv : v ∈ g.events x := hsub (by simp)
    have hsorted : (vs ++ [v]).Pairwise (· ≤ ·) := by
      rw [← hlast]
      exact (h.sorted x).filter _
    rw [heq]
    refine h.setEvents (fun y => ?_) (fun y => ?_) fun y u hu hndone => ?_
    · by_cases hy : y = x
      · rw [hy, update_self, List.pairwise_append]
        refine ⟨hsorted, List.pairwise_singleton _ _, fun a ha b hb => ?_⟩
        rw [List.mem_singleton.mp hb]
        rcases List.mem_append.mp ha with ha | ha
        · exact (List.pairwise_append.mp hsorted).2.2 a ha v (List.mem_singleton_self v)
        · exact Nat.le_of_eq (List.mem_singleton.mp ha)
      · rw [update_of_ne hy]
        exact h.sorted y
    · by_cases hy : y = x
      · rw [hy, update_self]
        intro u hu
        rcases List.mem_append.mp hu with hu | hu
        · exact hsub hu
        · rw [List.mem_singleton.mp hu]
          exact hv
      · rw [update_of_ne hy]
        exact fun _ hv => hv
    · by_cases hy : y = x
      · subst hy
        rw [update_self, ← hlast]
        refine List.mem_append_left _ (List.mem_filter.mpr ⟨hu, ?_⟩)
        rw [hndone]
        rfl
      · rw [update_of_ne hy]
        exact hu

/-- The newest event is enough. -/
theorem waitGpu_waited (h : Ok g) (x : Surface) : g.Waited x (g.waitGpu x).2 := by
  intro d hd hdx
  have hdevent := h.writers d hd x hdx
  rcases waitGpu_cases g x with ⟨hdone, -⟩ | ⟨vs, v, hlast, heq⟩
  · exact absurd rfl (done_iff.mp (hdone d.id hdevent) d hd)
  · -- the command behind the newest event is in flight
    have hv : v ∈ (g.events x).filter fun v => !g.done v := by
      rw [hlast]
      simp
    obtain ⟨hvevent, hvdone⟩ := List.mem_filter.mp hv
    obtain ⟨b, hb, rfl⟩ : ∃ b ∈ g.queues.pending, b.id = v := by
      by_contra hnone
      push Not at hnone
      rw [done_iff.mpr hnone] at hvdone
      cases hvdone
    refine ⟨b, hb, by rw [heq]; exact List.mem_singleton_self _, ?_⟩
    have hle : d.id ≤ b.id := by
      have hsorted : (vs ++ [b.id]).Pairwise (· ≤ ·) := by
        rw [← hlast]
        exact (h.sorted x).filter _
      have hmem : d.id ∈ vs ++ [b.id] := by
        rw [← hlast]
        refine List.mem_filter.mpr ⟨hdevent, ?_⟩
        rw [not_done_of_mem hd]
        rfl
      rcases List.mem_append.mp hmem with hmem | hmem
      · exact (List.pairwise_append.mp hsorted).2.2 d.id hmem b.id (List.mem_singleton_self _)
      · exact Nat.le_of_eq (List.mem_singleton.mp hmem)
    have hconflict : Conflict d b := by
      refine ⟨x, .inl ⟨hdx, ?_⟩⟩
      rcases h.touches x b hb hvevent with hbx | ⟨-, hbx⟩
      · exact .inr hbx
      · exact .inl hbx
    exact h.sound.ordered_of_le hd hb hle hconflict

/-- What a new command conflicts with is ordered before it: it waits for what is being written to the surface it reads,
nobody reads the one it writes, and another command that writes that one is of the same engine. -/
theorem covered (h : Ok g) {c : Cmd} (hid : c.id = g.queues.next) (hc : Typed c)
    (hsrc : ∀ x, c.src = some x → g.Waited x c.waits)
    (hdst : ∀ x, c.dst = some x → ∀ d ∈ g.queues.pending, d.src ≠ some x) :
    ∀ d ∈ g.queues.pending, Conflict d c → Ordered (g.queues.pending ++ [c]) d c := by
  intro d hd ⟨x, hconflict⟩
  have hlt : ∀ b ∈ g.queues.pending, b.id < c.id := fun b hb => hid ▸ h.sound.fresh b hb
  have hmem : ∀ b ∈ g.queues.pending, b ∈ g.queues.pending ++ [c] := fun b hb => List.mem_append_left _ hb
  have hlast : c ∈ g.queues.pending ++ [c] := by simp
  rcases hconflict with ⟨hdx, hcx | hcx⟩ | ⟨hdx, hcx⟩
  · obtain ⟨b, hb, hwait, hdb⟩ := hsrc x hcx d hd hdx
    have hbc : Ordered (g.queues.pending ++ [c]) b c := .single ⟨hmem b hb, hlast, hlt b hb, .inr hwait⟩
    rcases hdb with rfl | hdb
    · exact hbc
    · exact (hdb.mono (List.subset_append_left _ _)).trans hbc
  · exact .single ⟨hmem d hd, hlast, hlt d hd, .inl ((h.typed d hd).writes hdx |>.trans (hc.writes hcx).symm)⟩
  · exact absurd hdx (hdst x hcx d hd)

theorem mem_submit {engine : Engine} {src dst : Option Surface} {waits : List Nat} {picture : Option Nat} {c : Cmd}
    (hc : c ∈ (g.submit engine src dst waits picture x).queues.pending) :
    c ∈ g.queues.pending ∨ c = g.queues.command engine src dst waits picture := by
  simpa [Gpu.submit, InFlight.submit] using hc

theorem fed_submit (h : Ok g) {engine : Engine} {src dst : Option Surface} {waits : List Nat} {picture : Option Nat}
    (hfeeds : ∀ d ∈ g.queues.pending, d.id ∈ waits → Feeds d (g.queues.command engine src dst waits picture)) :
    (g.submit engine src dst waits picture x).Fed := by
  intro c hcm d hdm hbefore
  rcases mem_submit hcm with hcm | rfl <;> rcases mem_submit hdm with hdm | rfl
  · exact h.fed c hcm d hdm hbefore
  · rcases hbefore.2 with hlane | hwait
    · exact Feeds.of_lane hlane
    · exact hfeeds c hcm hwait
  · exact absurd hbefore.1 (Nat.lt_asymm (h.sound.fresh d hdm))
  · exact absurd hbefore.1 (Nat.lt_irrefl _)

/-- The surface that gets the event is the one that is written, or the one the encoder reads. -/
theorem submit (h : Ok g) {engine : Engine} {src dst : Option Surface} {waits : List Nat} {picture : Option Nat}
    (hc : Typed (g.queues.command engine src dst waits picture))
    (hx : dst = some x ∨ (dst = none ∧ src = some x ∧ engine = .encode)) (hread : dst ≠ none → engine ≠ .encode)
    (hsrc : ∀ x, src = some x → g.Waited x waits)
    (hdst : ∀ x, dst = some x → ∀ d ∈ g.queues.pending, d.src ≠ some x)
    (hfeeds : ∀ d ∈ g.queues.pending, d.id ∈ waits → Feeds d (g.queues.command engine src dst waits picture)) :
    Ok (g.submit engine src dst waits picture x) := by
  have hgrows : ∀ y, g.events y ⊆ (g.submit engine src dst waits picture x).events y := by
    intro y v hv
    simp only [Gpu.submit]
    by_cases hy : y = x
    · subst hy
      rw [update_self]
      exact List.mem_append_left _ hv
    · rw [update_of_ne hy]
      exact hv
  have hnew : g.queues.next ∈ (g.submit engine src dst waits picture x).events x := by
    simp [Gpu.submit]
  constructor
  case sound => exact h.sound.submit (h.covered rfl hc hsrc hdst)
  case typed =>
    intro c hcm
    rcases mem_submit hcm with hcm | rfl
    · exact h.typed c hcm
    · exact hc
  case sorted =>
    intro y
    simp only [Gpu.submit]
    by_cases hy : y = x
    · subst hy
      rw [update_self, List.pairwise_append]
      refine ⟨h.sorted y, List.pairwise_singleton _ _, fun a ha b hb => ?_⟩
      rw [List.mem_singleton.mp hb]
      exact Nat.le_of_lt (h.old y a ha)
    · rw [update_of_ne hy]
      exact h.sorted y
  case old =>
    intro y v hv
    simp only [Gpu.submit, InFlight.submit] at hv ⊢
    by_cases hy : y = x
    · subst hy
      rw [update_self] at hv
      rcases List.mem_append.mp hv with hv | hv
      · exact Nat.lt_succ_of_lt (h.old y v hv)
      · rw [List.mem_singleton.mp hv]
        exact Nat.lt_succ_self _
    · rw [update_of_ne hy] at hv
      exact Nat.lt_succ_of_lt (h.old y v hv)
  case touches =>
    intro y c hcm hv
    have hold : ∀ v ∈ (g.submit engine src dst waits picture x).events y, v ∈ g.events y ∨ (y = x ∧ v = g.queues.next) := by
      intro v hv
      simp only [Gpu.submit] at hv
      by_cases hy : y = x
      · subst hy
        rw [update_self] at hv
        rcases List.mem_append.mp hv with hv | hv
        · exact .inl hv
        · exact .inr ⟨rfl, List.mem_singleton.mp hv⟩
      · rw [update_of_ne hy] at hv
        exact .inl hv
    rcases mem_submit hcm with hcm | rfl
    · rcases hold c.id hv with hv | ⟨-, hv⟩
      · exact h.touches y c hcm hv
      · exact absurd hv (Nat.ne_of_lt (h.sound.fresh c hcm))
    · rcases hold _ hv with hv | ⟨rfl, -⟩
      · exact absurd (h.old y _ hv) (Nat.lt_irrefl _)
      · rcases hx with hx | ⟨-, hx, hengine⟩
        · exact .inl hx
        · exact .inr ⟨hengine, hx⟩
  case writers =>
    intro c hcm y hy
    rcases mem_submit hcm with hcm | rfl
    · exact hgrows y (h.writers c hcm y hy)
    · rcases hx with hx | ⟨hx, -⟩
      · obtain rfl := Option.some.inj (hx.symm.trans hy)
        exact hnew
      · cases hx.symm.trans hy
  case readers =>
    intro c hcm hl y hy
    rcases mem_submit hcm with hcm | rfl
    · exact hgrows y (h.readers c hcm hl y hy)
    · rcases hx with hx | ⟨-, hx, -⟩
      · exact absurd hl (hread (by simp [hx]))
      · obtain rfl := Option.some.inj (hx.symm.trans hy)
        exact hnew

  case fed => exact h.fed_submit hfeeds

/-- A command that runs reads what it would read in the order of submission. -/
theorem run (h : Ok g) (hg : g.run v = some g') :
    Ok g' ∧ g'.queues.latest = g.queues.latest ∧ g'.queues.pending ⊆ g.queues.pending ∧ g'.queues.next = g.queues.next ∧
      g'.queues.issued = g.queues.issued := by
  obtain ⟨q, hq, rfl⟩ := Option.map_eq_some_iff.mp hg
  obtain ⟨hsound, hlatest, hnext, l, c, r, -, -, hlr, hpending, -, -⟩ := complete_spec h.sound hq
  have hsub : q.pending ⊆ g.queues.pending := by
    rw [hlr, hpending]
    exact ((List.sublist_cons_self c r).append_left l).subset
  have hissued : q.issued = g.queues.issued := by
    refine issued_complete h.sound hq fun c hc d hd hcn hdn => ?_
    have henc : ∀ c ∈ g.queues.pending, c.dst = none → c.lane = .encode := by
      intro c hc hn
      have ht := h.typed c hc
      rw [Typed] at ht
      cases hl : c.lane <;> simp_all
    rw [henc c hc hcn, henc d hd hdn]
  refine ⟨⟨hsound, ?_, h.sorted, ?_, ?_, ?_, ?_, ?_⟩, hlatest, hsub, hnext, hissued⟩
  · exact fun c hc => h.typed c (hsub hc)
  · intro x v hv
    simp only [hnext]
    exact h.old x v hv
  · exact fun x c hc => h.touches x c (hsub hc)
  · exact fun c hc => h.writers c (hsub hc)
  · exact fun c hc => h.readers c (hsub hc)
  · exact fun c hc d hd => h.fed c (hsub hc) d (hsub hd)

/-- What a queue waits for on account of a surface writes it, or reads it for the encoder. -/
theorem waitGpu_touches (h : Ok g) {c : Cmd} (hc : c ∈ g.queues.pending) (hw : c.id ∈ (g.waitGpu x).2) :
    c.dst = some x ∨ (c.lane = .encode ∧ c.src = some x) := by
  rcases waitGpu_cases g x with ⟨-, heq⟩ | ⟨vs, v, hlast, heq⟩
  · rw [heq] at hw
    cases hw
  · rw [heq] at hw
    have hmem : c.id ∈ (g.events x).filter fun v => !g.done v := by
      rw [hlast, List.mem_singleton.mp hw]
      simp
    exact h.touches x c hc (List.mem_of_mem_filter hmem)

/-- Nobody writes a surface whose events are over, and the encoder does not read it. -/
theorem idle_quiet (h : Ok g) (hx : g.idle x = true) :
    ∀ d ∈ g.queues.pending, d.dst ≠ some x ∧ (d.lane = .encode → d.src ≠ some x) := by
  intro d hd
  have hdone : ∀ v ∈ g.events x, g.done v = true := by simpa [idle] using hx
  refine ⟨fun hdx => ?_, fun hl hdx => ?_⟩
  · exact done_iff.mp (hdone d.id (h.writers d hd x hdx)) d hd rfl
  · exact done_iff.mp (hdone d.id (h.readers d hd hl x hdx)) d hd rfl

end Ok

/-! ### What is submitted -/

variable {engine : Engine} {src dst : Surface}

theorem convert_spec (g : Gpu) (engine : Engine) (src dst : Surface) :
    ∃ w, (g.convert engine src dst).queues = g.queues.submit engine (some src) (some dst) w none := by
  have hq := (waitGpu_queues (g.waitGpu src).1 dst).trans (waitGpu_queues g src)
  let w := (g.waitGpu src).2 ++ ((g.waitGpu src).1.waitGpu dst).2
  exact ⟨w, congrArg (fun q => q.submit engine (some src) (some dst) w none) hq⟩

theorem encode_spec (g : Gpu) (src : Surface) :
    ∃ w, (g.encode src).queues = g.queues.submit .encode (some src) none w none := by
  let w := (g.waitGpu src).2
  exact ⟨w, congrArg (fun q => q.submit .encode (some src) none w none) (waitGpu_queues g src)⟩

@[simp] theorem convert_latest (g : Gpu) (engine : Engine) (src dst : Surface) :
    (g.convert engine src dst).queues.latest dst = g.queues.latest src := by
  obtain ⟨w, hw⟩ := convert_spec g engine src dst
  rw [hw, latest_submit_self]
  rfl

theorem convert_latest_of_ne (g : Gpu) (engine : Engine) (src : Surface) (h : x ≠ dst) :
    (g.convert engine src dst).queues.latest x = g.queues.latest x := by
  obtain ⟨w, hw⟩ := convert_spec g engine src dst
  rw [hw, latest_submit_of_ne fun hx => h (Option.some.inj hx).symm]

@[simp] theorem encode_latest (g : Gpu) (src : Surface) : (g.encode src).queues.latest = g.queues.latest := by
  obtain ⟨w, hw⟩ := encode_spec g src
  rw [hw]
  funext x
  exact latest_submit_of_ne (by simp)

@[simp] theorem convert_issued (g : Gpu) (engine : Engine) (src dst : Surface) :
    (g.convert engine src dst).queues.issued = g.queues.issued := by
  obtain ⟨w, hw⟩ := convert_spec g engine src dst
  rw [hw, issued_submit]
  rfl

@[simp] theorem encode_issued (g : Gpu) (src : Surface) :
    (g.encode src).queues.issued = g.queues.issued ++ [g.queues.latest src] := by
  obtain ⟨w, hw⟩ := encode_spec g src
  rw [hw, issued_submit]
  rfl

/-- What is in flight after a submission: one more command. -/
theorem mem_convert {d : Cmd} (hd : d ∈ (g.convert engine src dst).queues.pending) :
    d ∈ g.queues.pending ∨ (d.id = g.queues.next ∧ d.lane = engine ∧ d.src = some src ∧ d.dst = some dst) := by
  obtain ⟨w, hw⟩ := convert_spec g engine src dst
  rw [hw] at hd
  rcases List.mem_append.mp hd with hd | hd
  · exact .inl hd
  · rw [List.mem_singleton.mp hd]
    exact .inr ⟨rfl, rfl, rfl, rfl⟩

theorem mem_encode {d : Cmd} (hd : d ∈ (g.encode src).queues.pending) :
    d ∈ g.queues.pending ∨ (d.lane = .encode ∧ d.src = some src) := by
  obtain ⟨w, hw⟩ := encode_spec g src
  rw [hw] at hd
  rcases List.mem_append.mp hd with hd | hd
  · exact .inl hd
  · rw [List.mem_singleton.mp hd]
    exact .inr ⟨rfl, rfl⟩

namespace Ok

/-- Of the two surfaces of a conversion, the commands that the queue waits for write one, or read it for the encoder. -/
theorem convert_waits (h : Ok g)
    (hfeeds : ∀ d ∈ g.queues.pending, ∀ x, x = src ∨ x = dst → d.dst = some x ∨ (d.lane = .encode ∧ d.src = some x) →
      ∀ w, Feeds d (g.queues.command engine (some src) (some dst) w none)) :
    ∀ d ∈ g.queues.pending, d.id ∈ (g.waitGpu src).2 ++ ((g.waitGpu src).1.waitGpu dst).2 →
      ∀ w, Feeds d (g.queues.command engine (some src) (some dst) w none) := by
  intro d hd hw
  rcases List.mem_append.mp hw with hw | hw
  · exact hfeeds d hd src (.inl rfl) (h.waitGpu_touches hd hw)
  · rw [← waitGpu_queues g src] at hd
    exact hfeeds d (waitGpu_queues g src ▸ hd) dst (.inr rfl) ((h.waitGpu src).waitGpu_touches hd hw)

theorem fed_convert (h : Ok g)
    (hfeeds : ∀ d ∈ g.queues.pending, ∀ x, x = src ∨ x = dst → d.dst = some x ∨ (d.lane = .encode ∧ d.src = some x) →
      ∀ w, Feeds d (g.queues.command engine (some src) (some dst) w none)) : (g.convert engine src dst).Fed := by
  have hq : ((g.waitGpu src).1.waitGpu dst).1.queues = g.queues := (waitGpu_queues _ dst).trans (waitGpu_queues g src)
  show (((g.waitGpu src).1.waitGpu dst).1.submit _ _ _ _ _ _).Fed
  refine ((h.waitGpu src).waitGpu dst).fed_submit fun d hd hw => ?_
  rw [hq] at hd ⊢
  exact h.convert_waits hfeeds d hd hw _

/-- Nobody reads the surface that is written. -/
theorem convert (h : Ok g) (hc : ∀ w, Typed (g.queues.command engine (some src) (some dst) w none))
    (hengine : engine ≠ .encode) (hquiet : ∀ d ∈ g.queues.pending, d.src ≠ some dst)
    (hfeeds : ∀ d ∈ g.queues.pending, ∀ x, x = src ∨ x = dst → d.dst = some x ∨ (d.lane = .encode ∧ d.src = some x) →
      ∀ w, Feeds d (g.queues.command engine (some src) (some dst) w none)) : Ok (g.convert engine src dst) := by
  have hq : ((g.waitGpu src).1.waitGpu dst).1.queues = g.queues := (waitGpu_queues _ dst).trans (waitGpu_queues g src)
  show Ok (((g.waitGpu src).1.waitGpu dst).1.submit _ _ _ _ _ _)
  refine ((h.waitGpu src).waitGpu dst).submit ?_ (.inl rfl) (fun _ => hengine) ?_ ?_ ?_
  · rw [hq]
    exact hc _
  · intro x hx d hd hdx
    obtain rfl := Option.some.inj hx
    rw [hq] at hd
    obtain ⟨b, hb, hw, hdb⟩ := h.waitGpu_waited src d hd hdx
    rw [hq]
    exact ⟨b, hb, List.mem_append_left _ hw, hdb⟩
  · intro x hx d hd
    obtain rfl := Option.some.inj hx
    rw [hq] at hd
    exact hquiet d hd
  · intro d hd hw
    rw [hq] at hd ⊢
    exact h.convert_waits hfeeds d hd hw _

theorem encode (h : Ok g) (b : Nat) : Ok (g.encode (.output b)) := by
  have hq : (g.waitGpu (.output b)).1.queues = g.queues := waitGpu_queues g (.output b)
  show Ok ((g.waitGpu (.output b)).1.submit _ _ _ _ _ _)
  refine (h.waitGpu _).submit ?_ (.inr ⟨rfl, rfl, rfl⟩) (fun hnone => absurd rfl hnone) ?_ ?_ ?_
  · simp [Typed, InFlight.command]
  · intro x hx
    obtain rfl := Option.some.inj hx
    have hwaited := h.waitGpu_waited (.output b)
    rw [Gpu.Waited, ← hq] at hwaited
    exact hwaited
  · intro x hx
    cases hx
  · intro d _ _
    trivial

end Ok

end Gpu

end CloudStreaming.Streamer.Capture
