import CloudStreaming.Lib.Recycling
import CloudStreaming.Lib.Runs
import CloudStreaming.Streamer.CaptureGpu

/-!
# From the desktop to the encoder (`streamer/capture/desktop-duplicator.cpp`, `video-processor.cpp`, `dt-capture.cpp`)

Three threads hand pictures on, each in a slot that the next one empties: the duplicator copies the desktop into a surface
of its pool, the video processor converts that into a surface of its own pool, by way of two more surfaces if it is on
another adapter, and the capture thread gives it to the encoder. None of them waits for a GPU: a frame is handed on while
the commands that fill its surface are in flight, and the next reader's queue waits for the events of the surface.

The video processor queues events on the surface it writes but not on the one it reads (`video-processor.cpp:884`, `:1047`,
`:1316`), where the encoder does (`av-qsv-encoder.cpp:757`). So the duplicator may capture into a surface that is still
being converted, and the next picture be copied to the staging surface before the last one has left it: `race_free_iff`.

| here | there |
| --- | --- |
| `Pipeline.dup`      | the surfaces of `DX11SurfacePool` and who refers to their frames: `m_output_frame` of the duplicator, the variable `frame` of `processing_thread_proc`, `m_input_frame`, `m_copy_src_frame` |
| `Pipeline.vp`       | those of `DX12SurfacePool`: `m_processed_frame`, `m_output_frame` of the processor, `captured_frame` |
| `Item.tag`          | the number of the picture, which is not in the source |
| `Pipeline.copied`   | the surface in the hand of `copy_surface` has been copied to |
| `Pipeline.copier`   | `m_copy_staging_surface` and `m_copy_dst_surface`, by the number of their reset |
| `srcEvent`, ..      | the command that `m_src_copy_event` stands for while `m_src_copy_event_signalled`, and so on |
| `Pipeline.captures`, `sent` | not in the source: how many pictures were captured, which were given to the encoder |

Left out are the calls of `D3D` that fail once commands were submitted, a wait for an event that does not end in time but
as `failFrame`, the cursor, the pixels, times and formats: `changed` and `Reset` stand for a change of the format.
-/

namespace CloudStreaming.Streamer.Capture

open Commands Recycling Runs Function

inductive DupSlot where
  | output
  | frame
  | input
  | copySrc
  deriving DecidableEq

instance : Fintype DupSlot := ⟨{.output, .frame, .input, .copySrc}, fun k => by cases k <;> decide⟩

inductive VpSlot where
  | processed
  | output
  | captured
  deriving DecidableEq

instance : Fintype VpSlot := ⟨{.processed, .output, .captured}, fun k => by cases k <;> decide⟩

/-- Where `processing_thread_proc` is. -/
inductive Stage where
  | idle
  | received
  | skipped
  | input
  | ready
  | held
  | srcCopied
  | dstCopied
  | acquired
  | processed
  | failed
  deriving DecidableEq

structure Pipeline where
  dup : Store DupSlot Nat
  copied : Bool
  captures : Nat
  stage : Stage
  cross : Bool
  copier : Option Nat
  resets : Nat
  srcEvent : Option Nat
  dstEvent : Option Nat
  vpEvent : Option Nat
  vp : Store VpSlot Nat
  encoded : Bool
  gpu : Gpu
  sent : List Nat

/-- A reset of the processor: whether the adapters differ, and how far it gets. -/
structure Reset where
  cross : Bool
  copyOk : Bool
  videoOk : Bool

inductive Op where
  | acquire (changed : Bool)
  | drop
  | capture
  | publish
  | receive
  | timeout
  | updateInput
  | prepare (reset : Option Reset)
  | holdSrc
  | copySrcToStaging
  | copyStagingToDst
  | acquireOutput
  | process
  | failFrame
  | updateOutput
  | take
  | encode
  | finish
  | run (v : Nat)

/-- `acquire` of either pool (`dx11-surface-pool.cpp:31`, `dx12-surface-pool.cpp:33`). -/
def acquireFrom {κ : Type} (mk : Nat → Surface) (store : Store κ Nat) (g : Gpu) : Store κ Nat × Gpu :=
  let ready := fun b => g.idle (mk b)
  let reached := store.free.takeWhile (fun b => !ready b) ++ (store.free.find? ready).toList
  (store.acquire ready, g.waitCpu (reached.map mk))

namespace Pipeline

def init : Pipeline where
  dup := .init
  copied := false
  captures := 0
  stage := .idle
  cross := false
  copier := none
  resets := 0
  srcEvent := none
  dstEvent := none
  vpEvent := none
  vp := .init
  encoded := false
  gpu := .init
  sent := []

/-- The content of a surface once the GPU is done. -/
def picture (s : Pipeline) : Surface → Option Nat := s.gpu.queues.latest

/-- A command in flight reads the surface. -/
def read (s : Pipeline) (x : Surface) : Bool := s.gpu.queues.pending.any fun d => d.src = some x

/-- `WaitForSingleObject` returns, or is not called. -/
def reached (s : Pipeline) (event : Option Nat) : Bool := event.all s.gpu.done

/-! ### The duplicator -/

/-- `copy_surface` up to `acquire` (`desktop-duplicator.cpp:319-354`). -/
def acquire (s : Pipeline) (changed : Bool) : Option Pipeline :=
  if s.dup.hand.isSome then none
  else
    let (dup, gpu) := acquireFrom .captured (s.dup.renew changed) s.gpu
    some { s with dup, gpu, copied := false }

/-- `open_shared_texture` fails (`:356-361`). -/
def drop (s : Pipeline) : Option Pipeline :=
  if s.dup.hand.isSome && !s.copied then some { s with dup := s.dup.discard } else none

/-- The copy and its fence (`:363-381`). -/
def capture (s : Pipeline) : Option Pipeline :=
  match s.dup.hand with
  | none => none
  | some b =>
    if s.copied then none
    else
      some { s with
        gpu := s.gpu.submit .copy none (some (.captured b)) [] (some (s.captures + 1)) (.captured b)
        captures := s.captures + 1
        copied := true }

/-- `m_output_frame` is replaced (`:386-396`). -/
def publish (s : Pipeline) : Option Pipeline :=
  match s.dup.hand with
  | none => none
  | some b => if s.copied then some { s with dup := s.dup.wrap .output b s.captures, copied := false } else none

/-! ### The video processor -/

/-- `receive_frame` of the duplicator (`:640`). -/
def receive (s : Pipeline) : Option Pipeline :=
  if s.stage ≠ .idle then none
  else
    match s.dup.slot .output with
    | none => none
    | some f => some { s with dup := (s.dup.set .frame (some f)).set .output none, stage := .received }

def timeout (s : Pipeline) : Option Pipeline :=
  if s.stage = .idle ∧ s.dup.slot .output = none then some { s with stage := .skipped } else none

/-- `update_input_frame` (`video-processor.cpp:246`). -/
def updateInput (s : Pipeline) : Option Pipeline :=
  if s.stage = .received then some { s with dup := s.dup.set .input (s.dup.slot .frame), stage := .input } else none

/-- `process_frame` up to the copies (`:1075-1119`). -/
def prepare (s : Pipeline) (reset : Option Reset) : Option Pipeline :=
  if s.stage ≠ .input then none
  else
    match reset with
    | none => some { s with stage := .ready }
    | some r =>
      if !r.copyOk then some { s with copier := none, stage := .failed }
      else
        let copier := if r.cross then some s.resets else none
        let s := { s with cross := r.cross, copier, resets := s.resets + 1 }
        if r.videoOk then some { s with vp := s.vp.renew true, stage := .ready }
        else some { s with vp := s.vp.dropPool, stage := .failed }

/-- `m_copy_src_frame = src_frame` (`:1124`). -/
def holdSrc (s : Pipeline) : Option Pipeline :=
  if s.stage = .ready ∧ s.cross then some { s with dup := s.dup.set .copySrc (s.dup.slot .input), stage := .held }
  else none

/-- `copy_src_to_staging` (`:720`). -/
def copySrcToStaging (s : Pipeline) : Option Pipeline :=
  match s.copier, s.dup.slot .copySrc with
  | some n, some f =>
    if s.stage = .held ∧ s.reached s.srcEvent then
      some { s with
        gpu := s.gpu.convert (.srcCopy n) (.captured f.buffer) (.staging n)
        srcEvent := some s.gpu.queues.next
        stage := .srcCopied }
    else none
  | _, _ => none

/-- `copy_staging_to_dst` (`:893`). -/
def copyStagingToDst (s : Pipeline) : Option Pipeline :=
  match s.copier with
  | none => none
  | some n =>
    if s.stage = .srcCopied ∧ s.reached s.dstEvent ∧ s.reached s.vpEvent then
      some { s with
        gpu := s.gpu.convert (.dstCopy n) (.staging n) (.copyDst n)
        dstEvent := some s.gpu.queues.next
        vpEvent := none
        stage := .dstCopied }
    else none

/-- The wait for the last conversion and `acquire` (`:1148-1183`). -/
def acquireOutput (s : Pipeline) : Option Pipeline :=
  if ((s.stage = .ready ∧ ¬ s.cross) ∨ s.stage = .dstCopied) ∧ s.reached s.vpEvent ∧ s.vp.pool.isSome then
    let (vp, gpu) := acquireFrom .output s.vp s.gpu
    some { s with vp, gpu, vpEvent := none, stage := .acquired }
  else none

/-- The surface that is converted (`:1087`, `:1141`). -/
def source (s : Pipeline) (f : Item Nat) : Option Surface :=
  if s.cross then s.copier.map .copyDst else some (.captured f.buffer)

/-- The conversion and its fence, and the new frame (`:1193-1330`). -/
def process (s : Pipeline) : Option Pipeline :=
  match s.vp.hand, s.dup.slot .input with
  | some b, some f =>
    match s.source f with
    | none => none
    | some src =>
      if s.stage = .acquired then
        some { s with
          gpu := s.gpu.convert .video src (.output b)
          vpEvent := some s.gpu.queues.next
          vp := s.vp.wrap .processed b f.tag
          stage := .processed }
      else none
  | _, _ => none

/-- `process_frame` returns an error (`:339-342`). -/
def failFrame (s : Pipeline) : Option Pipeline :=
  if s.stage ∈ [Stage.input, .ready, .held, .srcCopied, .dstCopied, .acquired, .failed] then
    some { s with vp := s.vp.discard, dup := s.dup.set .frame none, stage := .idle }
  else none

/-- `update_output_frame` (`:1333`), and the end of the pass. -/
def updateOutput (s : Pipeline) : Option Pipeline :=
  if s.stage = .processed ∨ s.stage = .skipped then
    some { s with vp := s.vp.set .output (s.vp.slot .processed), dup := s.dup.set .frame none, stage := .idle }
  else none

/-! ### The capture thread -/

/-- `receive_frame` of the processor (`:222`). -/
def take (s : Pipeline) : Option Pipeline :=
  match s.vp.slot .captured, s.vp.slot .output with
  | none, some f => some { s with vp := (s.vp.set .captured (some f)).set .output none, encoded := false }
  | _, _ => none

/-- `encode_frame` up to the fence (`av-qsv-encoder.cpp:690-761`). -/
def encode (s : Pipeline) : Option Pipeline :=
  match s.vp.slot .captured with
  | none => none
  | some f =>
    if s.encoded then none
    else some { s with gpu := s.gpu.encode (.output f.buffer), sent := s.sent ++ [f.tag], encoded := true }

/-- The end of the pass of `capture_thread_proc`, whether the frame was encoded or not. -/
def finish (s : Pipeline) : Option Pipeline :=
  if (s.vp.slot .captured).isSome then some { s with vp := s.vp.set .captured none } else none

def step (s : Pipeline) : Op → Option Pipeline
  | .acquire changed => s.acquire changed
  | .drop => s.drop
  | .capture => s.capture
  | .publish => s.publish
  | .receive => s.receive
  | .timeout => s.timeout
  | .updateInput => s.updateInput
  | .prepare reset => s.prepare reset
  | .holdSrc => s.holdSrc
  | .copySrcToStaging => s.copySrcToStaging
  | .copyStagingToDst => s.copyStagingToDst
  | .acquireOutput => s.acquireOutput
  | .process => s.process
  | .failFrame => s.failFrame
  | .updateOutput => s.updateOutput
  | .take => s.take
  | .encode => s.encode
  | .finish => s.finish
  | .run v => (s.gpu.run v).map fun g => { s with gpu := g }

/-- No picture is captured into a surface that is being converted or copied, and none is copied to the staging surface
while that is being copied from. -/
def Quiet (s : Pipeline) : Op → Prop
  | .capture => ∀ b, s.dup.hand = some b → s.read (.captured b) = false
  | .copySrcToStaging => ∀ n, s.copier = some n → s.read (.staging n) = false
  | _ => True

/-- Whenever two commands in flight touch a surface, one of them to write it, one waits for the other. -/
def RaceFree (s : Pipeline) : Prop :=
  s.gpu.queues.pending.Pairwise fun c d => Conflict c d → Ordered s.gpu.queues.pending c d

end Pipeline

/-! ## The invariant -/

variable {s s' : Pipeline}

/-- Where a picture is on its way, from the encoder back to the desktop. -/
inductive Station where
  | captured
  | processorOutput
  | processed
  | input
  | frame
  | duplicatorOutput
  | desktop
  deriving DecidableEq

def Station.rank : Station → Nat
  | .captured => 0
  | .processorOutput => 1
  | .processed => 2
  | .input => 3
  | .frame => 4
  | .duplicatorOutput => 5
  | .desktop => 6

def Station.next : Station → Station
  | .captured => .processorOutput
  | .processorOutput => .processed
  | .processed => .input
  | .input => .frame
  | .frame => .duplicatorOutput
  | .duplicatorOutput => .desktop
  | .desktop => .desktop

theorem Station.le_next (i : Station) : i.rank ≤ i.next.rank := by cases i <;> simp [rank, next]

theorem Station.next_le {i j : Station} (h : i.rank < j.rank) : i.next.rank ≤ j.rank := by
  have hnext : i.next.rank ≤ i.rank + 1 := by cases i <;> simp [rank, next]
  exact Nat.le_trans hnext h

def Pipeline.at (s : Pipeline) : Station → Option Nat
  | .captured => (s.vp.slot .captured).map Item.tag
  | .processorOutput => (s.vp.slot .output).map Item.tag
  | .processed => (s.vp.slot .processed).map Item.tag
  | .input => (s.dup.slot .input).map Item.tag
  | .frame => (s.dup.slot .frame).map Item.tag
  | .duplicatorOutput => (s.dup.slot .output).map Item.tag
  | .desktop => some s.captures

/-- No picture is older than one further on. -/
structure InOrder (sent : List Nat) (st : Station → Option Nat) : Prop where
  sorted : sent.Pairwise (· ≤ ·)
  sent : ∀ p ∈ sent, ∀ i, ∀ q ∈ st i, p ≤ q
  stations : ∀ i j, i.rank ≤ j.rank → ∀ p ∈ st i, ∀ q ∈ st j, p ≤ q

/-- Every station has nothing, or what it had, or what the next one had. -/
theorem InOrder.shift {sent : List Nat} {st st' : Station → Option Nat} (h : InOrder sent st)
    (hst : ∀ i, ∀ p ∈ st' i, p ∈ st i ∨ p ∈ st i.next) : InOrder sent st' where
  sorted := h.sorted
  sent p hp i q hq := by
    rcases hst i q hq with hq | hq
    · exact h.sent p hp i q hq
    · exact h.sent p hp i.next q hq
  stations i j hij p hp q hq := by
    rcases Nat.lt_or_eq_of_le hij with hlt | heq
    · have hle : i.next.rank ≤ j.rank := Station.next_le hlt
      rcases hst i p hp with hp | hp <;> rcases hst j q hq with hq | hq
      · exact h.stations i j hij p hp q hq
      · exact h.stations i j.next (Nat.le_trans hij j.le_next) p hp q hq
      · exact h.stations i.next j hle p hp q hq
      · exact h.stations i.next j.next (Nat.le_trans hle j.le_next) p hp q hq
    · obtain rfl : i = j := by cases i <;> cases j <;> first | rfl | cases heq
      obtain rfl := Option.some.inj (hp.symm.trans hq)
      exact Nat.le_refl _

/-- A newer picture of the desktop. -/
theorem InOrder.advance {sent : List Nat} {st st' : Station → Option Nat} (h : InOrder sent st) {p q : Nat}
    (hst : ∀ i, i ≠ .desktop → st' i = st i) (hp : st .desktop = some p) (hq : st' .desktop = some q) (hpq : p ≤ q) :
    InOrder sent st' := by
  -- no station has a picture newer than its own one in the old state, or than the last one
  have hlast : ∀ i, ∀ r ∈ st i, r ≤ q := fun i r hr =>
    Nat.le_trans (h.stations i .desktop (by cases i <;> simp [Station.rank]) r hr p hp) hpq
  constructor
  case sorted => exact h.sorted
  case sent =>
    intro r hr i u hu
    by_cases hi : i = .desktop
    · subst hi
      obtain rfl := Option.some.inj (hq.symm.trans hu)
      exact Nat.le_trans (h.sent r hr .desktop p hp) hpq
    · rw [hst i hi] at hu
      exact h.sent r hr i u hu
  case stations =>
    intro i j hij r hr u hu
    by_cases hj : j = .desktop
    · subst hj
      obtain rfl := Option.some.inj (hq.symm.trans hu)
      by_cases hi : i = .desktop
      · subst hi
        obtain rfl := Option.some.inj (hq.symm.trans hr)
        exact Nat.le_refl _
      · exact hlast i r (hst i hi ▸ hr)
    · have hi : i ≠ .desktop := by
        rintro rfl
        cases j <;> simp_all [Station.rank]
      rw [hst i hi] at hr
      rw [hst j hj] at hu
      exact h.stations i j hij r hr u hu

/-- The picture at the first station leaves. -/
theorem InOrder.send {sent : List Nat} {st : Station → Option Nat} (h : InOrder sent st) {p : Nat}
    (hp : st .captured = some p) : InOrder (sent ++ [p]) st where
  sorted := by
    refine List.pairwise_append.mpr ⟨h.sorted, List.pairwise_singleton _ _, fun a ha b hb => ?_⟩
    rw [List.mem_singleton.mp hb]
    exact h.sent a ha .captured p hp
  sent a ha i q hq := by
    rcases List.mem_append.mp ha with ha | ha
    · exact h.sent a ha i q hq
    · rw [List.mem_singleton.mp ha]
      exact h.stations .captured i (Nat.zero_le _) p hp q hq
  stations := h.stations

/-- What the surfaces have once the GPU is done, against what the frames are taken for. -/
structure Pictures (s : Pipeline) : Prop where
  dup : ∀ k f, s.dup.slot k = some f → s.picture (.captured f.buffer) = some f.tag
  hand : s.copied = true → ∀ b, s.dup.hand = some b → s.picture (.captured b) = some s.captures
  held : s.stage = .held → s.dup.slot .copySrc = s.dup.slot .input
  staging : s.stage = .srcCopied → ∀ n f, s.copier = some n → s.dup.slot .input = some f →
    s.picture (.staging n) = some f.tag
  copyDst : s.stage = .dstCopied ∨ (s.stage = .acquired ∧ s.cross = true) → ∀ n f, s.copier = some n →
    s.dup.slot .input = some f → s.picture (.copyDst n) = some f.tag
  vp : ∀ k f, s.vp.slot k = some f → s.picture (.output f.buffer) = some f.tag

structure Inv (s : Pipeline) : Prop where
  gpu : s.gpu.Ok
  dup : Unshared s.dup
  vp : Unshared s.vp
  hand : ∀ b, s.vp.hand = some b → ∀ d ∈ s.gpu.queues.pending, d.src ≠ some (.output b)
  known : ∀ d ∈ s.gpu.queues.pending, ∀ b, d.src = some (.output b) → b < s.vp.nextBuffer
  video : ∀ d ∈ s.gpu.queues.pending, d.lane = .video → s.vpEvent = some d.id
  waited : s.stage = .acquired → s.vpEvent = none
  pictures : Pictures s
  issued : s.gpu.queues.issued = s.sent.map some
  order : InOrder s.sent s.at

theorem Inv.init : Inv Pipeline.init where
  gpu := .init
  dup := .init
  vp := .init
  hand := by simp [Pipeline.init, Gpu.init]
  known := by simp [Pipeline.init, Gpu.init]
  video := by simp [Pipeline.init, Gpu.init]
  waited := fun _ => rfl
  pictures := by constructor <;> simp [Pipeline.init, Store.init]
  issued := rfl
  order := by
    have hzero : ∀ i, ∀ p ∈ Pipeline.init.at i, p = 0 := by
      intro i p hp
      cases i <;> simp [Pipeline.at, Pipeline.init, Store.init] at hp
      exact hp.symm
    refine ⟨.nil, by simp [Pipeline.init], fun i j _ p hp q _ => ?_⟩
    rw [hzero i p hp]
    exact Nat.zero_le q

/-- While no conversion is awaited, none is in flight. -/
theorem Inv.no_video (h : Inv s) (hover : s.reached s.vpEvent = true) : ∀ d ∈ s.gpu.queues.pending, d.lane ≠ .video := by
  intro d hd hl
  rw [Pipeline.reached, h.video d hd hl] at hover
  exact Gpu.done_iff.mp (by simpa using hover) d hd rfl

/-! ### The duplicator -/

theorem Inv.acquire (h : Inv s) {changed : Bool} (hs : s.acquire changed = some s') : Inv s' := by
  rw [Pipeline.acquire] at hs
  split at hs
  · cases hs
  obtain rfl := Option.some.inj hs
  have hp := h.pictures
  exact ⟨h.gpu.waitCpu _, (h.dup.renew changed).acquire _, h.vp, h.hand, h.known, h.video, h.waited,
    ⟨hp.dup, (nomatch ·), hp.held, hp.staging, hp.copyDst, hp.vp⟩, h.issued, h.order⟩

theorem Inv.drop (h : Inv s) (hs : s.drop = some s') : Inv s' := by
  rw [Pipeline.drop] at hs
  split at hs
  · obtain rfl := Option.some.inj hs
    have hp := h.pictures
    exact ⟨h.gpu, h.dup.discard, h.vp, h.hand, h.known, h.video, h.waited, ⟨hp.dup, fun _ _ hb => (nomatch hb), hp.held, hp.staging, hp.copyDst, hp.vp⟩,
      h.issued, h.order⟩
  · cases hs

theorem capture_cases (hs : s.capture = some s') :
    ∃ b, s.dup.hand = some b ∧ s' = { s with
      gpu := s.gpu.submit .copy none (some (.captured b)) [] (some (s.captures + 1)) (.captured b)
      captures := s.captures + 1
      copied := true } := by
  rw [Pipeline.capture] at hs
  cases hhand : s.dup.hand with
  | none => simp [hhand] at hs
  | some b =>
    simp only [hhand] at hs
    split at hs
    · cases hs
    · exact ⟨b, rfl, (Option.some.inj hs).symm⟩

theorem Inv.capture (h : Inv s) (hq : s.Quiet .capture) (hs : s.capture = some s') : Inv s' := by
  obtain ⟨b, hhand, rfl⟩ := capture_cases hs
  have hp := h.pictures
  have hread : ∀ d ∈ s.gpu.queues.pending, d.src ≠ some (.captured b) := by
    simpa [Pipeline.read] using hq b hhand
  have hmem : ∀ d ∈ (s.gpu.submit .copy none (some (.captured b)) [] (some (s.captures + 1)) (.captured b)).queues.pending,
      d ∈ s.gpu.queues.pending ∨ (d.lane = .copy ∧ d.src = none) := by
    intro d hd
    rcases Gpu.Ok.mem_submit hd with hd | rfl
    · exact .inl hd
    · exact .inr ⟨rfl, rfl⟩
  have hother : ∀ x, x ≠ .captured b → (s.gpu.submit .copy none (some (.captured b)) [] (some (s.captures + 1))
      (.captured b)).queues.latest x = s.picture x :=
    fun x hx => latest_submit_of_ne fun heq => hx (Option.some.inj heq).symm
  have hself : (s.gpu.submit .copy none (some (.captured b)) [] (some (s.captures + 1)) (.captured b)).queues.latest
      (.captured b) = some (s.captures + 1) := latest_submit_self
  constructor
  case gpu =>
    refine h.gpu.submit (by simp [Typed, InFlight.command]) (.inl rfl) (by simp) (by simp) ?_ (by simp)
    intro x hx
    obtain rfl := Option.some.inj hx
    exact hread
  case dup => exact h.dup
  case vp => exact h.vp
  case hand =>
    intro b' hb' d hd
    rcases hmem d hd with hd | ⟨-, hsrc⟩
    · exact h.hand b' hb' d hd
    · rw [hsrc]
      simp
  case known =>
    intro d hd b' hb'
    rcases hmem d hd with hd | ⟨-, hsrc⟩
    · exact h.known d hd b' hb'
    · rw [hsrc] at hb'
      cases hb'
  case video =>
    intro d hd hl
    rcases hmem d hd with hd | ⟨hlane, -⟩
    · exact h.video d hd hl
    · rw [hlane] at hl
      cases hl
  case waited => exact h.waited
  case pictures =>
    constructor
    case dup =>
      intro k f hf
      refine (hother _ fun heq => ?_).trans (hp.dup k f hf)
      injection heq with heq
      exact (h.dup.hand b hhand).2.2 k f hf heq
    case hand =>
      intro _ b' hb'
      obtain rfl := Option.some.inj (hhand.symm.trans hb')
      exact hself
    case held => exact hp.held
    case staging => exact fun hst n f hn hf => (hother _ (by simp)).trans (hp.staging hst n f hn hf)
    case copyDst => exact fun hst n f hn hf => (hother _ (by simp)).trans (hp.copyDst hst n f hn hf)
    case vp => exact fun k f hf => (hother _ (by simp)).trans (hp.vp k f hf)
  case issued => exact (issued_submit _ _ _ _ _).trans h.issued
  case order =>
    refine h.order.advance (fun i hi => ?_) rfl rfl (Nat.le_succ _)
    cases i <;> first | rfl | exact absurd rfl hi

theorem Inv.publish (h : Inv s) (hs : s.publish = some s') : Inv s' := by
  rw [Pipeline.publish] at hs
  cases hhand : s.dup.hand with
  | none => simp [hhand] at hs
  | some b =>
    simp only [hhand] at hs
    split at hs
    · next hcopied =>
      obtain rfl := Option.some.inj hs
      have hp := h.pictures
      have hslot : ∀ k, k ≠ .output → (s.dup.wrap .output b s.captures).slot k = s.dup.slot k := fun k hk => by
        simp [Store.wrap, Unshared.set_slot, hk]
      constructor
      case gpu => exact h.gpu
      case dup => exact h.dup.wrap hhand .output s.captures
      case vp => exact h.vp
      case hand => exact h.hand
      case known => exact h.known
      case video => exact h.video
      case waited => exact h.waited
      case pictures =>
        constructor
        case dup =>
          intro k f hf
          by_cases hk : k = .output
          · subst hk
            simp only [Store.wrap, Unshared.set_slot, update_self] at hf
            obtain rfl := Option.some.inj hf
            exact hp.hand hcopied b hhand
          · exact hp.dup k f (hslot k hk ▸ hf)
        case hand => exact (nomatch ·)
        case held => exact fun hst => (hslot _ (by simp)).trans ((hp.held hst).trans (hslot _ (by simp)).symm)
        case staging => exact fun hst n f hn hf => hp.staging hst n f hn ((hslot _ (by simp)).symm.trans hf)
        case copyDst => exact fun hst n f hn hf => hp.copyDst hst n f hn ((hslot _ (by simp)).symm.trans hf)
        case vp => exact hp.vp
      case issued => exact h.issued
      case order =>
        refine h.order.shift fun i p hi => ?_
        cases i <;> simp [Pipeline.at, Store.wrap, Station.next] at hi ⊢ <;> simp [hi]
    · cases hs

/-! ### The video processor -/

/-- Frames are handed on: what a slot has, it had before or another one had. -/
theorem Pictures.handed (hp : Pictures s) (hpicture : s'.picture = s.picture)
    (hdup : ∀ k f, s'.dup.slot k = some f → ∃ j, s.dup.slot j = some f)
    (hvp : ∀ k f, s'.vp.slot k = some f → ∃ j, s.vp.slot j = some f)
    (hhand : s'.copied = true → s.copied = true ∧ s'.dup.hand = s.dup.hand ∧ s'.captures = s.captures)
    (hstage : s'.stage ∉ [Stage.held, .srcCopied, .dstCopied, .acquired]) : Pictures s' where
  dup k f hf := by
    obtain ⟨j, hj⟩ := hdup k f hf
    rw [hpicture]
    exact hp.dup j f hj
  hand hcopied b hb := by
    obtain ⟨hcopied, hhand, hcaptures⟩ := hhand hcopied
    rw [hpicture, hcaptures]
    exact hp.hand hcopied b (hhand ▸ hb)
  held hst := by simp [hst] at hstage
  staging hst := by simp [hst] at hstage
  copyDst hst := by rcases hst with hst | ⟨hst, -⟩ <;> simp [hst] at hstage
  vp k f hf := by
    obtain ⟨j, hj⟩ := hvp k f hf
    rw [hpicture]
    exact hp.vp j f hj

theorem Inv.receive (h : Inv s) (hs : s.receive = some s') : Inv s' := by
  rw [Pipeline.receive] at hs
  split at hs
  · cases hs
  · cases hout : s.dup.slot .output with
    | none => simp [hout] at hs
    | some f =>
      simp only [hout] at hs
      obtain rfl := Option.some.inj hs
      have hkept : Unshared (s.dup.set .frame (some f)) := h.dup.copy hout
      refine ⟨h.gpu, hkept.clear, h.vp, h.hand, h.known, h.video, nofun, ?_, h.issued, ?_⟩
      · refine h.pictures.handed rfl (fun k g hg => ?_) (fun k g hg => ⟨k, hg⟩) (fun hc => ⟨hc, by simp⟩) (by simp)
        rcases Unshared.set_cases hg with ⟨-, hg⟩ | ⟨-, hg⟩
        · cases hg
        · rcases Unshared.set_cases hg with ⟨-, hg⟩ | ⟨-, hg⟩
          · exact ⟨.output, hout.trans hg⟩
          · exact ⟨k, hg⟩
      · refine h.order.shift fun i p hi => ?_
        cases i <;> simp [Pipeline.at, Station.next] at hi ⊢ <;> simp [hi, hout]

theorem Inv.timeout (h : Inv s) (hs : s.timeout = some s') : Inv s' := by
  rw [Pipeline.timeout] at hs
  split at hs
  · obtain rfl := Option.some.inj hs
    refine ⟨h.gpu, h.dup, h.vp, h.hand, h.known, h.video, nofun, ?_, h.issued, h.order⟩
    exact h.pictures.handed rfl (fun k f hf => ⟨k, hf⟩) (fun k f hf => ⟨k, hf⟩) (fun hc => ⟨hc, rfl, rfl⟩) (by simp)
  · cases hs

theorem Inv.updateInput (h : Inv s) (hs : s.updateInput = some s') : Inv s' := by
  rw [Pipeline.updateInput] at hs
  split at hs
  · obtain rfl := Option.some.inj hs
    refine ⟨h.gpu, h.dup.copy rfl, h.vp, h.hand, h.known, h.video, nofun, ?_, h.issued, ?_⟩
    · refine h.pictures.handed rfl (fun k f hf => ?_) (fun k f hf => ⟨k, hf⟩) (fun hc => ⟨hc, by simp⟩) (by simp)
      rcases Unshared.set_cases hf with ⟨-, hf⟩ | ⟨-, hf⟩
      · exact ⟨.frame, hf⟩
      · exact ⟨k, hf⟩
    · refine h.order.shift fun i p hi => ?_
      cases i <;> simp [Pipeline.at, Station.next] at hi ⊢ <;> simp [hi]
  · cases hs

/-- The new surfaces of a reset are not among those of the frames that are still there. -/
theorem Inv.prepare (h : Inv s) {reset : Option Reset} (hs : s.prepare reset = some s') : Inv s' := by
  have hslots : ∀ {s' : Pipeline}, s'.gpu = s.gpu → s'.dup = s.dup → s'.vp.slot = s.vp.slot → s'.copied = s.copied →
      s'.captures = s.captures → s'.stage = .ready ∨ s'.stage = .failed → Pictures s' := by
    intro s' hgpu hdup hvp hcopied hcaptures hstage
    refine h.pictures.handed (by rw [Pipeline.picture, hgpu, Pipeline.picture]) (fun k f hf => ⟨k, hdup ▸ hf⟩)
      (fun k f hf => ⟨k, hvp ▸ hf⟩) (fun hc => ⟨hcopied ▸ hc, by rw [hdup], hcaptures⟩) ?_
    rcases hstage with hstage | hstage <;> simp [hstage]
  unfold Pipeline.prepare at hs
  split at hs
  · cases hs
  cases reset with
  | none =>
    obtain rfl := Option.some.inj hs
    exact ⟨h.gpu, h.dup, h.vp, h.hand, h.known, h.video, nofun, hslots rfl rfl rfl rfl rfl (.inl rfl), h.issued, h.order⟩
  | some r =>
    simp only at hs
    split at hs
    · obtain rfl := Option.some.inj hs
      exact ⟨h.gpu, h.dup, h.vp, h.hand, h.known, h.video, nofun, hslots rfl rfl rfl rfl rfl (.inr rfl), h.issued,
        h.order⟩
    · split at hs
      · obtain rfl := Option.some.inj hs
        exact ⟨h.gpu, h.dup, h.vp.renew true, h.hand, h.known, h.video, nofun, hslots rfl rfl rfl rfl rfl (.inl rfl),
          h.issued, h.order⟩
      · obtain rfl := Option.some.inj hs
        exact ⟨h.gpu, h.dup, h.vp.dropPool, h.hand, h.known, h.video, nofun, hslots rfl rfl rfl rfl rfl (.inr rfl),
          h.issued, h.order⟩

theorem Inv.holdSrc (h : Inv s) (hs : s.holdSrc = some s') : Inv s' := by
  rw [Pipeline.holdSrc] at hs
  split at hs
  · obtain rfl := Option.some.inj hs
    have hp := h.pictures
    refine ⟨h.gpu, h.dup.copy rfl, h.vp, h.hand, h.known, h.video, nofun, ?_, h.issued, ?_⟩
    · refine ⟨fun k f hf => ?_, fun hc b hb => hp.hand hc b (by simpa using hb), fun _ => by simp, nofun, nofun, hp.vp⟩
      rcases Unshared.set_cases hf with ⟨-, hf⟩ | ⟨-, hf⟩
      · exact hp.dup .input f hf
      · exact hp.dup k f hf
    · refine h.order.shift fun i p hi => ?_
      cases i <;> simp [Pipeline.at, Station.next] at hi ⊢ <;> simp [hi]
  · cases hs

theorem copySrcToStaging_cases (hs : s.copySrcToStaging = some s') :
    ∃ n f, s.copier = some n ∧ s.dup.slot .copySrc = some f ∧ s.stage = .held ∧ s' = { s with
      gpu := s.gpu.convert (.srcCopy n) (.captured f.buffer) (.staging n)
      srcEvent := some s.gpu.queues.next
      stage := .srcCopied } := by
  rw [Pipeline.copySrcToStaging] at hs
  split at hs
  case h_1 n f hn hf =>
    split at hs
    case isTrue hst => exact ⟨n, f, hn, hf, hst.1, (Option.some.inj hs).symm⟩
    case isFalse => cases hs
  case h_2 => cases hs

/-- What the copy to the staging surface waits for are captures, or copies by the same queue. -/
theorem Inv.feeds_srcCopy (h : Inv s) (b n : Nat) : ∀ d ∈ s.gpu.queues.pending, ∀ x,
    x = .captured b ∨ x = .staging n → d.dst = some x ∨ (d.lane = .encode ∧ d.src = some x) →
      ∀ w, Feeds d (s.gpu.queues.command (.srcCopy n) (some (.captured b)) (some (.staging n)) w none) := by
  intro d hd x hx htouch w
  rcases htouch with hdx | ⟨hl, hdx⟩
  · have hwriter := (h.gpu.typed d hd).writes hdx
    rcases hx with rfl | rfl
    · exact .inl hwriter
    · exact .inr hwriter
  · have hreader := (h.gpu.typed d hd).reads hdx
    rw [hl] at hreader
    rcases hx with rfl | rfl <;> simp [Surface.ReadBy] at hreader

theorem Inv.copySrcToStaging (h : Inv s) (hq : s.Quiet .copySrcToStaging) (hs : s.copySrcToStaging = some s') :
    Inv s' := by
  obtain ⟨n, f, hn, hf, hst, rfl⟩ := copySrcToStaging_cases hs
  have hp := h.pictures
  have hread : ∀ d ∈ s.gpu.queues.pending, d.src ≠ some (.staging n) := by
    simpa [Pipeline.read] using hq n hn
  have hother : ∀ x, x ≠ .staging n →
      (s.gpu.convert (.srcCopy n) (.captured f.buffer) (.staging n)).queues.latest x = s.picture x :=
    fun x hx => Gpu.convert_latest_of_ne s.gpu _ _ hx
  constructor
  case gpu =>
    refine h.gpu.convert (fun w => ?_) (by simp) hread (h.feeds_srcCopy f.buffer n)
    exact ⟨⟨f.buffer, rfl⟩, rfl⟩
  case dup => exact h.dup
  case vp => exact h.vp
  case hand =>
    intro b hb d hd
    rcases Gpu.mem_convert hd with hd | ⟨-, -, hsrc, -⟩
    · exact h.hand b hb d hd
    · simp [hsrc]
  case known =>
    intro d hd b hb
    rcases Gpu.mem_convert hd with hd | ⟨-, -, hsrc, -⟩
    · exact h.known d hd b hb
    · simp [hsrc] at hb
  case video =>
    intro d hd hl
    rcases Gpu.mem_convert hd with hd | ⟨-, hlane, -⟩
    · exact h.video d hd hl
    · simp [hlane] at hl
  case waited => exact nofun
  case pictures =>
    constructor
    case dup => exact fun k g hg => (hother _ (by simp)).trans (hp.dup k g hg)
    case hand => exact fun hc b hb => (hother _ (by simp)).trans (hp.hand hc b hb)
    case held => exact nofun
    case staging =>
      intro _ m g hm hg
      obtain rfl := Option.some.inj (hn.symm.trans hm)
      -- the frame that was held is the one to be processed
      have hfg : f = g := by
        rw [hp.held hst] at hf
        exact Option.some.inj (hf.symm.trans hg)
      subst hfg
      exact (Gpu.convert_latest s.gpu _ _ _).trans (hp.dup .copySrc f hf)
    case copyDst => exact fun hst => by simp at hst
    case vp => exact fun k g hg => (hother _ (by simp)).trans (hp.vp k g hg)
  case issued => exact (Gpu.convert_issued s.gpu _ _ _).trans h.issued
  case order => exact h.order

theorem copyStagingToDst_cases (hs : s.copyStagingToDst = some s') :
    ∃ n, s.copier = some n ∧ s.stage = .srcCopied ∧ s.reached s.vpEvent = true ∧ s' = { s with
      gpu := s.gpu.convert (.dstCopy n) (.staging n) (.copyDst n)
      dstEvent := some s.gpu.queues.next
      vpEvent := none
      stage := .dstCopied } := by
  rw [Pipeline.copyStagingToDst] at hs
  split at hs
  case h_1 => cases hs
  case h_2 n hn =>
    split at hs
    case isTrue hst => exact ⟨n, hn, hst.1, hst.2.2, (Option.some.inj hs).symm⟩
    case isFalse => cases hs

/-- Only conversions read the surface that is written, and the last one is over. -/
theorem Inv.copyStagingToDst (h : Inv s) (hs : s.copyStagingToDst = some s') : Inv s' := by
  obtain ⟨n, hn, hst, hover, rfl⟩ := copyStagingToDst_cases hs
  have hp := h.pictures
  have hvideo := h.no_video hover
  have hother : ∀ x, x ≠ .copyDst n →
      (s.gpu.convert (.dstCopy n) (.staging n) (.copyDst n)).queues.latest x = s.picture x :=
    fun x hx => Gpu.convert_latest_of_ne s.gpu _ _ hx
  constructor
  case gpu =>
    refine h.gpu.convert (fun w => ⟨rfl, rfl⟩) (by simp) (fun d hd hsrc => ?_) fun d _ _ _ _ _ => trivial
    exact hvideo d hd ((h.gpu.typed d hd).reads hsrc)
  case dup => exact h.dup
  case vp => exact h.vp
  case hand =>
    intro b hb d hd
    rcases Gpu.mem_convert hd with hd | ⟨-, -, hsrc, -⟩
    · exact h.hand b hb d hd
    · simp [hsrc]
  case known =>
    intro d hd b hb
    rcases Gpu.mem_convert hd with hd | ⟨-, -, hsrc, -⟩
    · exact h.known d hd b hb
    · simp [hsrc] at hb
  case video =>
    intro d hd hl
    rcases Gpu.mem_convert hd with hd | ⟨-, hlane, -⟩
    · exact absurd hl (hvideo d hd)
    · simp [hlane] at hl
  case waited => exact nofun
  case pictures =>
    constructor
    case dup => exact fun k f hf => (hother _ (by simp)).trans (hp.dup k f hf)
    case hand => exact fun hc b hb => (hother _ (by simp)).trans (hp.hand hc b hb)
    case held => exact nofun
    case staging => exact nofun
    case copyDst =>
      intro _ m f hm hf
      obtain rfl := Option.some.inj (hn.symm.trans hm)
      exact (Gpu.convert_latest s.gpu _ _ _).trans (hp.staging hst n f hn hf)
    case vp => exact fun k f hf => (hother _ (by simp)).trans (hp.vp k f hf)
  case issued => exact (Gpu.convert_issued s.gpu _ _ _).trans h.issued
  case order => exact h.order

theorem acquireOutput_cases (hs : s.acquireOutput = some s') :
    (s.cross = true → s.stage = .dstCopied) ∧ s.reached s.vpEvent = true ∧ ∃ xs, s' = { s with
      vp := s.vp.acquire fun b => s.gpu.idle (.output b)
      gpu := s.gpu.waitCpu xs
      vpEvent := none
      stage := .acquired } := by
  rw [Pipeline.acquireOutput] at hs
  split at hs
  case isTrue hst =>
    refine ⟨fun hcross => ?_, hst.2.1, _, (Option.some.inj hs).symm⟩
    rcases hst.1 with ⟨-, hn⟩ | hst
    · exact absurd hcross hn
    · exact hst
  case isFalse => cases hs

/-- The encoder does not read the surface that is handed out, and a new one nobody knows. -/
theorem Inv.acquireOutput (h : Inv s) (hs : s.acquireOutput = some s') : Inv s' := by
  obtain ⟨hcross, hover, xs, rfl⟩ := acquireOutput_cases hs
  have hp := h.pictures
  refine ⟨h.gpu.waitCpu xs, h.dup, h.vp.acquire _, ?_, ?_, ?_, fun _ => rfl, ?_, h.issued, h.order⟩
  · intro b hb d hd hsrc
    obtain rfl := Option.some.inj hb
    have hencode : d.lane = .encode := (h.gpu.typed d hd).reads hsrc
    rcases Unshared.acquired_cases s.vp fun b => s.gpu.idle (.output b) with ⟨-, hready⟩ | hnew
    · exact (h.gpu.idle_quiet hready d hd).2 hencode hsrc
    · have hlt := h.known d hd _ hsrc
      omega
  · intro d hd b hb
    refine Nat.lt_of_lt_of_le (h.known d hd b hb) ?_
    simp only [Store.acquire]
    split <;> omega
  · exact fun d hd hl => absurd hl (h.no_video hover d hd)
  · refine ⟨hp.dup, hp.hand, fun hst => (by cases hst), fun hst => (by cases hst), fun hst n f hn hf => ?_, hp.vp⟩
    rcases hst with hst | ⟨-, hc⟩
    · cases hst
    · exact hp.copyDst (.inl (hcross hc)) n f hn hf

theorem process_cases (hs : s.process = some s') :
    ∃ b f src, s.vp.hand = some b ∧ s.dup.slot .input = some f ∧ s.source f = some src ∧ s.stage = .acquired ∧
      s' = { s with
        gpu := s.gpu.convert .video src (.output b)
        vpEvent := some s.gpu.queues.next
        vp := s.vp.wrap .processed b f.tag
        stage := .processed } := by
  rw [Pipeline.process] at hs
  split at hs
  case h_1 b f hb hf =>
    cases hsrc : s.source f with
    | none => simp [hsrc] at hs
    | some src =>
      simp only [hsrc] at hs
      split at hs
      case isTrue hst => exact ⟨b, f, src, hb, hf, hsrc, hst, (Option.some.inj hs).symm⟩
      case isFalse => cases hs
  case h_2 => cases hs

/-- The surface that is converted has the picture that the new frame is taken for. -/
theorem Inv.source (h : Inv s) (hst : s.stage = .acquired) {f : Item Nat} (hf : s.dup.slot .input = some f) {src : Surface}
    (hsrc : s.source f = some src) :
    ((∃ b, src = .captured b) ∨ ∃ n, src = .copyDst n) ∧ s.picture src = some f.tag := by
  rw [Pipeline.source] at hsrc
  split at hsrc
  case isTrue hcross =>
    obtain ⟨n, hn, rfl⟩ := Option.map_eq_some_iff.mp hsrc
    exact ⟨.inr ⟨n, rfl⟩, h.pictures.copyDst (.inr ⟨hst, hcross⟩) n f hn hf⟩
  case isFalse =>
    obtain rfl := Option.some.inj hsrc
    exact ⟨.inl ⟨f.buffer, rfl⟩, h.pictures.dup .input f hf⟩

theorem Inv.process (h : Inv s) (hs : s.process = some s') : Inv s' := by
  obtain ⟨b, f, src, hb, hf, hsource, hst, rfl⟩ := process_cases hs
  have hp := h.pictures
  obtain ⟨hsrc, hpicture⟩ := h.source hst hf hsource
  have hvideo : ∀ d ∈ s.gpu.queues.pending, d.lane ≠ .video := by
    intro d hd hl
    have hevent := h.video d hd hl
    rw [h.waited hst] at hevent
    cases hevent
  have hnew : src ≠ .output b := by rcases hsrc with ⟨b', rfl⟩ | ⟨n, rfl⟩ <;> simp
  have hother : ∀ x, x ≠ .output b → (s.gpu.convert .video src (.output b)).queues.latest x = s.picture x :=
    fun x hx => Gpu.convert_latest_of_ne s.gpu _ _ hx
  constructor
  case gpu =>
    refine h.gpu.convert (fun w => ⟨?_, b, rfl⟩) (by simp) (h.hand b hb) fun d _ _ _ _ _ => trivial
    rcases hsrc with ⟨b', rfl⟩ | ⟨n, rfl⟩
    · exact .inl ⟨b', rfl⟩
    · exact .inr ⟨n, rfl⟩
  case dup => exact h.dup
  case vp => exact h.vp.wrap hb .processed f.tag
  case hand =>
    intro b' hb'
    simp [Store.wrap] at hb'
  case known =>
    intro d hd b' hb'
    simp only [Store.wrap, Unshared.set_nextBuffer]
    rcases Gpu.mem_convert hd with hd | ⟨-, -, hdsrc, -⟩
    · exact h.known d hd b' hb'
    · rcases hsrc with ⟨c, rfl⟩ | ⟨n, rfl⟩ <;> simp [hdsrc] at hb'
  case video =>
    intro d hd hl
    rcases Gpu.mem_convert hd with hd | ⟨hid, -⟩
    · exact absurd hl (hvideo d hd)
    · rw [hid]
  case waited => exact nofun
  case pictures =>
    constructor
    case dup => exact fun k g hg => (hother _ (by simp)).trans (hp.dup k g hg)
    case hand => exact fun hc c hc' => (hother _ (by simp)).trans (hp.hand hc c hc')
    case held => exact nofun
    case staging => exact nofun
    case copyDst => exact fun hst => by simp at hst
    case vp =>
      intro k g hg
      rcases Unshared.set_cases hg with ⟨-, hg⟩ | ⟨-, hg⟩
      · obtain rfl := Option.some.inj hg
        exact (Gpu.convert_latest s.gpu _ _ _).trans hpicture
      · -- the surfaces of the other frames are not written
        refine (hother _ fun heq => ?_).trans (hp.vp k g hg)
        injection heq with heq
        exact (h.vp.hand b hb).2.2 k g hg heq
  case issued => exact (Gpu.convert_issued s.gpu _ _ _).trans h.issued
  case order =>
    refine h.order.shift fun i p hi => ?_
    cases i <;> simp [Pipeline.at, Store.wrap, Station.next, hf] at hi ⊢ <;> simp [hi]

theorem Inv.failFrame (h : Inv s) (hs : s.failFrame = some s') : Inv s' := by
  rw [Pipeline.failFrame] at hs
  split at hs
  · obtain rfl := Option.some.inj hs
    refine ⟨h.gpu, h.dup.clear, h.vp.discard, nofun, h.known, h.video, nofun, ?_, h.issued, ?_⟩
    · refine h.pictures.handed rfl (fun k f hf => ?_) (fun k f hf => ⟨k, hf⟩) (fun hc => ⟨hc, by simp⟩) (by simp)
      rcases Unshared.set_cases hf with ⟨-, hf⟩ | ⟨-, hf⟩
      · cases hf
      · exact ⟨k, hf⟩
    · refine h.order.shift fun i p hi => ?_
      cases i <;> simp [Pipeline.at, Store.discard] at hi ⊢ <;> simp [hi]
  · cases hs

theorem Inv.updateOutput (h : Inv s) (hs : s.updateOutput = some s') : Inv s' := by
  rw [Pipeline.updateOutput] at hs
  split at hs
  · obtain rfl := Option.some.inj hs
    refine ⟨h.gpu, h.dup.clear, h.vp.copy rfl, fun b hb => h.hand b (by simpa using hb), fun d hd b hb => ?_, h.video,
      nofun, ?_, h.issued, ?_⟩
    · rw [Unshared.set_nextBuffer]
      exact h.known d hd b hb
    · refine h.pictures.handed rfl (fun k f hf => ?_) (fun k f hf => ?_) (fun hc => ⟨hc, by simp⟩) (by simp)
      · rcases Unshared.set_cases hf with ⟨-, hf⟩ | ⟨-, hf⟩
        · cases hf
        · exact ⟨k, hf⟩
      · rcases Unshared.set_cases hf with ⟨-, hf⟩ | ⟨-, hf⟩
        · exact ⟨.processed, hf⟩
        · exact ⟨k, hf⟩
    · refine h.order.shift fun i p hi => ?_
      cases i <;> simp [Pipeline.at, Station.next] at hi ⊢ <;> simp [hi]
  · cases hs

/-! ### The capture thread -/

theorem Inv.take (h : Inv s) (hs : s.take = some s') : Inv s' := by
  rw [Pipeline.take] at hs
  split at hs
  case h_1 f hnone hout =>
    obtain rfl := Option.some.inj hs
    have hp := h.pictures
    have hkept : Unshared (s.vp.set .captured (some f)) := h.vp.copy hout
    refine ⟨h.gpu, h.dup, hkept.clear, fun b hb => h.hand b (by simpa using hb), fun d hd b hb => ?_, h.video, h.waited,
      ⟨hp.dup, hp.hand, hp.held, hp.staging, hp.copyDst, fun k g hg => ?_⟩, h.issued, ?_⟩
    · rw [Unshared.set_nextBuffer, Unshared.set_nextBuffer]
      exact h.known d hd b hb
    · rcases Unshared.set_cases hg with ⟨-, hg⟩ | ⟨-, hg⟩
      · cases hg
      · rcases Unshared.set_cases hg with ⟨-, hg⟩ | ⟨-, hg⟩
        · exact hp.vp .output g (hout.trans hg)
        · exact hp.vp k g hg
    · refine h.order.shift fun i p hi => ?_
      cases i <;> simp [Pipeline.at, Station.next] at hi ⊢ <;> simp [hi, hout]
  case h_2 => cases hs

theorem encode_cases (hs : s.encode = some s') :
    ∃ f, s.vp.slot .captured = some f ∧
      s' = { s with gpu := s.gpu.encode (.output f.buffer), sent := s.sent ++ [f.tag], encoded := true } := by
  rw [Pipeline.encode] at hs
  split at hs
  case h_1 => cases hs
  case h_2 f hf =>
    split at hs
    · cases hs
    · exact ⟨f, hf, (Option.some.inj hs).symm⟩

theorem Inv.encode (h : Inv s) (hs : s.encode = some s') : Inv s' := by
  obtain ⟨f, hf, rfl⟩ := encode_cases hs
  have hp := h.pictures
  have hpicture : ∀ x, (s.gpu.encode (.output f.buffer)).queues.latest x = s.picture x :=
    fun x => congrFun (Gpu.encode_latest s.gpu (.output f.buffer)) x
  constructor
  case gpu => exact h.gpu.encode f.buffer
  case dup => exact h.dup
  case vp => exact h.vp
  case hand =>
    intro b hb d hd hsrc
    rcases Gpu.mem_encode hd with hd | ⟨-, hdsrc⟩
    · exact h.hand b hb d hd hsrc
    · rw [hdsrc] at hsrc
      injection hsrc with hsrc
      injection hsrc with hsrc
      exact (h.vp.hand b hb).2.2 .captured f hf hsrc
  case known =>
    intro d hd b hb
    rcases Gpu.mem_encode hd with hd | ⟨-, hdsrc⟩
    · exact h.known d hd b hb
    · rw [hdsrc] at hb
      injection hb with hb
      injection hb with hb
      exact hb ▸ (h.vp.held .captured f hf).1
  case video =>
    intro d hd hl
    rcases Gpu.mem_encode hd with hd | ⟨hlane, -⟩
    · exact h.video d hd hl
    · rw [hlane] at hl
      cases hl
  case waited => exact h.waited
  case pictures =>
    exact ⟨fun k g hg => (hpicture _).trans (hp.dup k g hg), fun hc b hb => (hpicture _).trans (hp.hand hc b hb), hp.held,
      fun hst n g hn hg => (hpicture _).trans (hp.staging hst n g hn hg),
      fun hst n g hn hg => (hpicture _).trans (hp.copyDst hst n g hn hg), fun k g hg => (hpicture _).trans (hp.vp k g hg)⟩
  case issued =>
    have hread : s.gpu.queues.latest (.output f.buffer) = some f.tag := hp.vp .captured f hf
    exact (Gpu.encode_issued s.gpu _).trans (by rw [h.issued, hread, List.map_append, List.map_singleton])
  case order => exact h.order.send (by simp [Pipeline.at, hf])

theorem Inv.finish (h : Inv s) (hs : s.finish = some s') : Inv s' := by
  rw [Pipeline.finish] at hs
  split at hs
  · obtain rfl := Option.some.inj hs
    have hp := h.pictures
    refine ⟨h.gpu, h.dup, h.vp.clear, fun b hb => h.hand b (by simpa using hb), fun d hd b hb => ?_, h.video, h.waited,
      ⟨hp.dup, hp.hand, hp.held, hp.staging, hp.copyDst, fun k f hf => ?_⟩, h.issued, ?_⟩
    · rw [Unshared.set_nextBuffer]
      exact h.known d hd b hb
    · rcases Unshared.set_cases hf with ⟨-, hf⟩ | ⟨-, hf⟩
      · cases hf
      · exact hp.vp k f hf
    · refine h.order.shift fun i p hi => ?_
      cases i <;> simp [Pipeline.at] at hi ⊢ <;> simp [hi]
  · cases hs

/-! ## Runs -/

theorem Inv.run (h : Inv s) {v : Nat} {g : Gpu} (hg : s.gpu.run v = some g) : Inv { s with gpu := g } := by
  obtain ⟨hok, hlatest, hsub, hnext, hissued⟩ := h.gpu.run hg
  have hp := h.pictures
  have hpicture : ∀ x, g.queues.latest x = s.picture x := fun x => congrFun hlatest x
  refine ⟨hok, h.dup, h.vp, fun b hb d hd => h.hand b hb d (hsub hd), fun d hd => h.known d (hsub hd),
    fun d hd => h.video d (hsub hd), h.waited, ?_, hissued.trans h.issued, h.order⟩
  exact ⟨fun k f hf => (hpicture _).trans (hp.dup k f hf), fun hc b hb => (hpicture _).trans (hp.hand hc b hb), hp.held,
    fun hst n f hn hf => (hpicture _).trans (hp.staging hst n f hn hf),
    fun hst n f hn hf => (hpicture _).trans (hp.copyDst hst n f hn hf), fun k f hf => (hpicture _).trans (hp.vp k f hf)⟩

theorem Inv.step (h : Inv s) {o : Op} (hq : s.Quiet o) (hs : s.step o = some s') : Inv s' := by
  cases o with
  | acquire changed => exact h.acquire hs
  | drop => exact h.drop hs
  | capture => exact h.capture hq hs
  | publish => exact h.publish hs
  | receive => exact h.receive hs
  | timeout => exact h.timeout hs
  | updateInput => exact h.updateInput hs
  | prepare reset => exact h.prepare hs
  | holdSrc => exact h.holdSrc hs
  | copySrcToStaging => exact h.copySrcToStaging hq hs
  | copyStagingToDst => exact h.copyStagingToDst hs
  | acquireOutput => exact h.acquireOutput hs
  | process => exact h.process hs
  | failFrame => exact h.failFrame hs
  | updateOutput => exact h.updateOutput hs
  | take => exact h.take hs
  | encode => exact h.encode hs
  | finish => exact h.finish hs
  | run v =>
    obtain ⟨g, hg, rfl⟩ := Option.map_eq_some_iff.mp hs
    exact h.run hg

/-- If there is no race, the reader of a surface feeds the command that comes to write it. -/
theorem Pipeline.RaceFree.feeds (h : s'.RaceFree) (hfed : s'.gpu.Fed) {c d : Cmd}
    (hpending : s'.gpu.queues.pending = s.gpu.queues.pending ++ [c]) {x : Surface} (hc : c.dst = some x)
    (hd : d ∈ s.gpu.queues.pending) (hsrc : d.src = some x) : Feeds d c := by
  have hpair : (s.gpu.queues.pending ++ [c]).Pairwise fun c d => Conflict c d → Ordered s'.gpu.queues.pending c d :=
    hpending ▸ h
  have hordered := (List.pairwise_append.mp hpair).2.2 d hd c (List.mem_singleton_self c)
  exact hfed.ordered (hordered ⟨x, .inr ⟨hsrc, hc⟩⟩)

theorem Inv.quiet_capture (h : Inv s) (hs : s.capture = some s') (hrace : s'.RaceFree) : s.Quiet .capture := by
  intro b hb
  obtain ⟨b', hb', rfl⟩ := capture_cases hs
  obtain rfl := Option.some.inj (hb.symm.trans hb')
  refine List.any_eq_false.mpr fun d hd hread => ?_
  have hsrc : d.src = some (.captured b) := by simpa using hread
  have hfed : (s.gpu.submit .copy none (some (.captured b)) [] (some (s.captures + 1)) (.captured b)).Fed :=
    h.gpu.fed_submit (by simp)
  -- only captures come before a capture
  have hlane : d.lane = .copy := hrace.feeds hfed rfl rfl hd hsrc
  have hreader := (h.gpu.typed d hd).reads hsrc
  rw [hlane] at hreader
  simp [Surface.ReadBy] at hreader

theorem Inv.quiet_copySrcToStaging (h : Inv s) (hs : s.copySrcToStaging = some s') (hrace : s'.RaceFree) :
    s.Quiet .copySrcToStaging := by
  intro n hn
  obtain ⟨n', f, hn', hf, hst, rfl⟩ := copySrcToStaging_cases hs
  obtain rfl := Option.some.inj (hn.symm.trans hn')
  refine List.any_eq_false.mpr fun d hd hread => ?_
  have hsrc : d.src = some (.staging n) := by simpa using hread
  obtain ⟨w, hw⟩ := Gpu.convert_spec s.gpu (.srcCopy n) (.captured f.buffer) (.staging n)
  have hfed := h.gpu.fed_convert (h.feeds_srcCopy f.buffer n)
  -- only captures and copies by the same queue come before this copy
  have hlane : d.lane = .copy ∨ d.lane = .srcCopy n :=
    hrace.feeds hfed (congrArg InFlight.pending hw) rfl hd hsrc
  have hreader : d.lane = .dstCopy n := (h.gpu.typed d hd).reads hsrc
  rcases hlane with hlane | hlane <;> simp [hlane] at hreader

theorem Inv.raceFree (h : Inv s) : s.RaceFree := h.gpu.sound.ordered

/-- A step makes no race exactly when it captures or copies over nothing that is being read. -/
theorem Inv.raceFree_iff (h : Inv s) {o : Op} (hs : s.step o = some s') : s'.RaceFree ↔ s.Quiet o := by
  constructor
  · intro hrace
    cases o with
    | capture => exact h.quiet_capture hs hrace
    | copySrcToStaging => exact h.quiet_copySrcToStaging hs hrace
    | _ => trivial
  · exact fun hq => (h.step hq hs).raceFree

instance Pipeline.Quiet.decidable (s : Pipeline) (o : Op) : Decidable (s.Quiet o) :=
  match o with
  | .capture => decidable_of_iff (∀ b ∈ s.dup.hand, s.read (.captured b) = false) Iff.rfl
  | .copySrcToStaging => decidable_of_iff (∀ n ∈ s.copier, s.read (.staging n) = false) Iff.rfl
  | .acquire _ | .drop | .publish | .receive | .timeout | .updateInput | .prepare _ | .holdSrc | .copyStagingToDst
  | .acquireOutput | .process | .failFrame | .updateOutput | .take | .encode | .finish | .run _ => isTrue trivial

/-- In every order in which the threads and the engines take their steps, two commands in flight never touch a surface, one
of them to write it, without one waiting for the other, if and only if no picture is captured into a surface that is still
being converted or copied, and none is copied to the staging surface while the last one is still being copied from it.
Nothing in the pipeline waits for either. -/
theorem race_free_iff (ops : List Op) :
    PMeets Pipeline.step (fun _ _ s' => s'.RaceFree) .init ops ↔
      PMeets Pipeline.step (fun s o _ => s.Quiet o) .init ops := by
  refine pmeets_iff (fun s o s' (h : Inv s) hs => ?_) (fun s o s' h hs hq => ?_) ops Pipeline.init Inv.init
  · exact h.raceFree_iff hs
  · exact h.step hq hs

/-- What the encoder has read are the pictures its frames were taken for, in their order; a frame that is on its way, or
that is shown once more, still has its picture. -/
structure Pipeline.Intact (s : Pipeline) : Prop where
  encoded : s.gpu.queues.out <+: s.sent.map some
  sorted : s.sent.Pairwise (· ≤ ·)
  captured : ∀ p ∈ s.sent, p ≤ s.captures
  shared : ∀ k f, s.dup.slot k = some f → s.picture (.captured f.buffer) = some f.tag
  frames : ∀ k f, s.vp.slot k = some f → s.picture (.output f.buffer) = some f.tag

theorem Inv.intact (h : Inv s) : s.Intact where
  encoded := by
    rw [← h.issued]
    exact List.prefix_append _ _
  sorted := h.order.sorted
  captured p hp := h.order.sent p hp .desktop s.captures rfl
  shared := h.pictures.dup
  frames := h.pictures.vp

theorem pictures_intact (ops : List Op) (h : PMeets Pipeline.step (fun s o _ => s.Quiet o) .init ops) :
    PMeets Pipeline.step (fun _ _ s' => s'.Intact) .init ops := by
  refine PMeets.imp (fun s o s' (hI : Inv s) hs hq => ?_) (fun s o s' hI hs hq => ?_) ops Pipeline.init Inv.init h
  · exact hI.step hq hs
  · exact (hI.step hq hs).intact

/-- Two pictures between two adapters; the encoder gets the first before the second is captured, and the second twice. -/
def twoPictures : List Op :=
  [.acquire false, .capture, .publish, .receive, .updateInput, .prepare (some ⟨true, true, true⟩), .holdSrc,
    .copySrcToStaging, .copyStagingToDst, .acquireOutput, .process, .updateOutput, .take, .encode, .finish,
    .acquire false, .capture, .publish, .receive, .updateInput, .run 0, .run 1, .run 2, .prepare none, .holdSrc,
    .copySrcToStaging, .run 3, .copyStagingToDst, .acquireOutput, .process, .updateOutput, .take, .run 4, .encode, .finish,
    .timeout, .updateOutput, .take, .encode]

/-- All of it is possible, and one picture has been read by its end. -/
theorem pictures_intact_two : (twoPictures.foldlM Pipeline.step .init).map (fun s => (s.gpu.queues.out, s.sent)) =
      some ([some 1], [1, 2, 2]) ∧
    PMeets Pipeline.step (fun _ _ s' => s'.Intact) .init twoPictures :=
  ⟨by decide +kernel, pictures_intact twoPictures (by decide +kernel)⟩

-- the first surface is captured into again while it is being converted: its frame has given way to the second one
example : ¬ PMeets Pipeline.step (fun s o _ => s.Quiet o) .init [.acquire false, .capture, .publish, .receive, .updateInput,
    .prepare (some ⟨false, true, true⟩), .acquireOutput, .process, .updateOutput, .acquire false, .capture, .publish,
    .receive, .run 0, .updateInput, .acquire false, .capture] := by decide +kernel

end CloudStreaming.Streamer.Capture
