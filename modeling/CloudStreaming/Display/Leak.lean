import CloudStreaming.Lib.Runs
import CloudStreaming.Display.Lifetime

/-!
# Surfaces that are never destroyed (`encoder/server/display_video_renderer.cpp:220-267`,
`encoder/shared/encoder.cpp:546-724`)

`retireFrame` keeps the current surface from being destroyed by comparing `vaSurfaceID`s (`:251`), and deletes the
record of the surface either way. The surface drawn last is registered and a surface on `m_deletedReses` is not, so
the two are never the same object: when their ids agree, the last pointer to a surface is gone (`Dropped`). How
`create_surface_from_fd` fills `vaSurfaceID` decides whether this happens. Without `iVASurface` and `iQSVSurface` it
stays 0 for every surface, and for a pixel format of none of the known kinds it is `VA_INVALID_SURFACE`, which is
also what `retireFrame` takes for the id of no surface.

| here | there |
| --- | --- |
| `EncodeMode`          | `irr_get_VASurfaceFlag()`, `irr_get_QSVSurfaceFlag()` |
| `External`            | what `create_surface_from_fd` reads from outside |
| `createSurfaceFromFd` | the `vaSurfaceID` of the surface returned, `none` for `NULL` |
| `Request`             | a command with the pixel format of its buffer |
| `Lost`                | not in the source: a surface nobody destroyed and nobody can destroy any more |
-/

namespace CloudStreaming.Display

open Alloc

/-! ## `create_surface_from_fd` -/

inductive EncodeMode where
  | vaSurface
  | qsvSurface
  | dataBuffer
deriving DecidableEq

def drmFormatABGR8888 : UInt32 := 0x34324241
def drmFormatXBGR8888 : UInt32 := 0x34324258
def drmFormatARGB8888 : UInt32 := 0x34325241
def drmFormatXRGB8888 : UInt32 := 0x34325258
def drmFormatRGB565 : UInt32 := 0x36314752
def drmFormatNV12 : UInt32 := 0x3231564e

def vaFourccRGBA : UInt32 := 0x41424752
def vaFourccBGRA : UInt32 := 0x41524742
def vaFourccRGB565 : UInt32 := 0x36314752
def vaFourccNV12 : UInt32 := 0x3231564e

/-- `memory`: `calloc` succeeds; `stale`: what `va_attrib_extbuf.pixel_format` holds before it is assigned;
`vaCreateSurfaces`: the id, or `none` when it fails. -/
structure External where
  memory : Bool
  stale : UInt32
  vaCreateSurfaces : Option UInt32

/-- `va_attrib_extbuf.pixel_format` (`:590-613`): the `default` only warns. -/
def pixelFormat (format stale : UInt32) : UInt32 :=
  if format = drmFormatABGR8888 ∨ format = drmFormatXBGR8888 then vaFourccRGBA
  else if format = drmFormatARGB8888 ∨ format = drmFormatXRGB8888 then vaFourccBGRA
  else if format = drmFormatRGB565 then vaFourccRGB565
  else if format = drmFormatNV12 then vaFourccNV12
  else stale

/-- `vaSurf` when `status` is `VA_STATUS_SUCCESS` (`:625-634`): with no call `status` is still 0. -/
def vaSurf (pixelFormat : UInt32) (vaCreateSurfaces : Option UInt32) : Option UInt32 :=
  if pixelFormat = vaFourccRGBA ∨ pixelFormat = vaFourccBGRA then vaCreateSurfaces
  else if pixelFormat = vaFourccRGB565 then vaCreateSurfaces
  else if pixelFormat = vaFourccNV12 then vaCreateSurfaces
  else some vaInvalidSurface

/-- `create_surface_from_fd` (`encoder.cpp:546`); `enableQSV` is the `ENABLE_QSV` of the build. -/
def createSurfaceFromFd (mode : EncodeMode) (enableQSV : Bool) (format : UInt32) (ext : External) : Option UInt32 :=
  if ext.memory then
    (vaSurf (pixelFormat format ext.stale) ext.vaCreateSurfaces).bind fun id =>
      match mode with
      | .vaSurface => some id
      | .qsvSurface => if enableQSV then some id else none
      | .dataBuffer => some 0
  else none

inductive Request (H : Type) where
  | frameCreate (handle : H) (format : UInt32) (ext : External)
  | frameRemove (handle : H)
  | frameDisplay (handle : H)

def Request.command {H : Type} (mode : EncodeMode) (enableQSV : Bool) : Request H → Command H
  | .frameCreate handle format ext => .frameCreate handle (createSurfaceFromFd mode enableQSV format ext)
  | .frameRemove handle => .frameRemove handle
  | .frameDisplay handle => .frameDisplay handle

/-! ## `retireFrame`, entry by entry -/

section
variable {H : Type} {s s' : Server H} {e : UInt64 × DispRes}

/-- The `vaSurfaceID` of a surface. -/
def surfaceID (s : Server H) (p : Nat) : Option UInt32 := (s.heap.cells p).map Surface.vaSurfaceID

/-- `retireEntry` turned round. -/
theorem retireEntry_cases {kept : Option (UInt64 × DispRes)} (h : s.retireEntry e = some (s', kept)) :
    (¬frameAge s.frameIdx e.1 > 30 ∧ kept = some (resFrameIdx s.frameIdx e.1, e.2) ∧ s' = s) ∨
    (frameAge s.frameIdx e.1 > 30 ∧ kept = none ∧ surfaceID s e.2.surface = s.currEncodeID ∧ s' = s) ∨
    (frameAge s.frameIdx e.1 > 30 ∧ kept = none ∧ surfaceID s e.2.surface ≠ s.currEncodeID ∧
      s.dropSurface e.2.surface = some s') := by
  unfold Server.retireEntry at h
  by_cases hold : frameAge s.frameIdx e.1 > 30
  · rw [if_pos hold] at h
    simp only [Option.bind_eq_bind, Option.bind_eq_some_iff] at h
    obtain ⟨x, hx, id, hid, h⟩ := h
    have hse : surfaceID s e.2.surface = some x.vaSurfaceID := by rw [surfaceID, hx, Option.map_some]
    rw [hse, hid]
    by_cases hne : x.vaSurfaceID ≠ id
    · rw [if_pos hne] at h
      simp only [Option.bind_eq_some_iff, Option.some.injEq, Prod.mk.injEq] at h
      obtain ⟨s₁, hdrop, rfl, rfl⟩ := h
      exact .inr (.inr ⟨hold, rfl, by simpa using hne, hdrop⟩)
    · rw [if_neg hne] at h
      obtain ⟨rfl, rfl⟩ := Prod.mk.inj (Option.some.inj h)
      exact .inr (.inl ⟨hold, rfl, congrArg some (not_not.mp hne), rfl⟩)
  · rw [if_neg hold] at h
    obtain ⟨rfl, rfl⟩ := Prod.mk.inj (Option.some.inj h)
    exact .inl ⟨hold, rfl, rfl⟩

/-- What `dropSurface` does when it returns. -/
theorem dropSurface_spec {p : Nat} (h : s.dropSurface p = some s') :
    s'.dispReses = s.dispReses ∧ s'.frameIdx = s.frameIdx ∧ s'.curSurface = s.curSurface ∧
      s'.heap.next = s.heap.next ∧ destroyed s'.log = p :: destroyed s.log ∧ surfaceID s' p = none ∧
      ∀ q, q ≠ p → surfaceID s' q = surfaceID s q := by
  have hlive : (s.heap.cells p).isSome := by
    by_contra hdead
    rw [Option.not_isSome_iff_eq_none] at hdead
    simp [Server.dropSurface, Server.unrefSurface, hdead] at h
  obtain ⟨heap, hnext, hdead, hother, heq⟩ := dropSurface_eq hlive
  rw [heq] at h
  obtain rfl := Option.some.inj h
  refine ⟨rfl, rfl, rfl, hnext, rfl, congrArg (Option.map Surface.vaSurfaceID) hdead, ?_⟩
  intro q hq
  show (heap.cells q).map _ = _
  rw [hother q hq]
  rfl

/-- A surface with another id than the current one is another surface, and the current id stays. -/
theorem dropSurface_currEncodeID {p : Nat} (h : s.dropSurface p = some s') (hne : surfaceID s p ≠ s.currEncodeID) :
    s'.currEncodeID = s.currEncodeID := by
  obtain ⟨-, -, hcur, -, -, -, hid⟩ := dropSurface_spec h
  unfold Server.currEncodeID
  rw [hcur]
  cases hc : s.curSurface with
  | none => rfl
  | some q =>
    refine hid q ?_
    rintro rfl
    exact hne (by rw [Server.currEncodeID, hc, surfaceID])

/-- An entry of `m_deletedReses` as `retireFrame` leaves it behind. -/
def keptEntries (frameIdx : UInt64) (es : List (UInt64 × DispRes)) : List (UInt64 × DispRes) :=
  (es.filter fun e => frameAge frameIdx e.1 ≤ 30).map fun e => (resFrameIdx frameIdx e.1, e.2)

theorem retireEntries_spec : ∀ (es : List (UInt64 × DispRes)) (s s' : Server H) (kept : List (UInt64 × DispRes)),
    (es.map fun e => e.2.surface).Nodup → s.retireEntries es = some (s', kept) →
    s'.dispReses = s.dispReses ∧ s'.frameIdx = s.frameIdx ∧ s'.heap.next = s.heap.next ∧
      kept = keptEntries s.frameIdx es ∧
      ∀ p, p ∈ destroyed s'.log ↔ p ∈ destroyed s.log ∨
        ∃ e ∈ es, e.2.surface = p ∧ frameAge s.frameIdx e.1 > 30 ∧ surfaceID s p ≠ s.currEncodeID
  | [], s, s', kept, _, h => by
    obtain ⟨rfl, rfl⟩ := Prod.mk.inj (Option.some.inj h)
    simp [keptEntries]
  | e :: es, s, s', kept, hnodup, h => by
    simp only [Server.retireEntries, Option.bind_eq_bind, Option.bind_eq_some_iff] at h
    obtain ⟨⟨s₁, kept₁⟩, h₁, ⟨s₂, kept₂⟩, h₂, h⟩ := h
    obtain ⟨rfl, rfl⟩ := Prod.mk.inj (Option.some.inj h)
    obtain ⟨hnot, hnodup⟩ := List.nodup_cons.mp hnodup
    obtain ⟨hreses, hidx, hnext, rfl, hdes⟩ := retireEntries_spec es s₁ s₂ kept₂ hnodup h₂
    rcases retireEntry_cases h₁ with ⟨hage, rfl, rfl⟩ | ⟨hage, rfl, hsame, rfl⟩ | ⟨hage, rfl, hne, hdrop⟩
    · refine ⟨hreses, hidx, hnext, ?_, fun p => ?_⟩
      · have hle : frameAge s₁.frameIdx e.1 ≤ 30 := UInt64.not_lt.mp hage
        simp [keptEntries, hle]
      · rw [hdes p]
        simp [hage]
    · refine ⟨hreses, hidx, hnext, ?_, fun p => ?_⟩
      · have hle : ¬frameAge s₁.frameIdx e.1 ≤ 30 := UInt64.not_le.mpr hage
        simp [keptEntries, hle]
      · rw [hdes p]
        constructor
        · rintro (hp | ⟨e', he', hp⟩)
          · exact .inl hp
          · exact .inr ⟨e', List.mem_cons_of_mem _ he', hp⟩
        · rintro (hp | ⟨e', he', hp, hage', hne⟩)
          · exact .inl hp
          · rcases List.mem_cons.mp he' with rfl | he'
            · exact absurd (hp ▸ hsame) hne
            · exact .inr ⟨e', he', hp, hage', hne⟩
    · obtain ⟨hreses₁, hidx₁, -, hnext₁, hdes₁, -, hid⟩ := dropSurface_spec hdrop
      refine ⟨hreses.trans hreses₁, hidx.trans hidx₁, hnext.trans hnext₁, ?_, fun p => ?_⟩
      · have hle : ¬frameAge s.frameIdx e.1 ≤ 30 := UInt64.not_le.mpr hage
        simp [keptEntries, hle, hidx₁]
      · rw [hdes p, hdes₁, hidx₁, dropSurface_currEncodeID hdrop hne]
        constructor
        · rintro (hp | ⟨e', he', hp, hage', hne'⟩)
          · rcases List.mem_cons.mp hp with rfl | hp
            · exact .inr ⟨e, List.mem_cons_self, rfl, hage, hne⟩
            · exact .inl hp
          · have hpe : p ≠ e.2.surface := by
              rintro rfl
              exact hnot (List.mem_map.mpr ⟨e', he', hp⟩)
            rw [hid p hpe] at hne'
            exact .inr ⟨e', List.mem_cons_of_mem _ he', hp, hage', hne'⟩
        · rintro (hp | ⟨e', he', hp, hage', hne'⟩)
          · exact .inl (List.mem_cons_of_mem _ hp)
          · rcases List.mem_cons.mp he' with rfl | he'
            · exact .inl (by rw [← hp]; exact List.mem_cons_self)
            · have hpe : p ≠ e.2.surface := by
                rintro rfl
                exact hnot (List.mem_map.mpr ⟨e', he', hp⟩)
              refine .inr ⟨e', he', hp, hage', ?_⟩
              rw [hid p hpe]
              exact hne'

/-- A surface keeps its id as long as it is there. -/
theorem retireEntries_ids : ∀ (es : List (UInt64 × DispRes)) (s s' : Server H) (kept : List (UInt64 × DispRes)),
    s.retireEntries es = some (s', kept) → ∀ p, surfaceID s' p = none ∨ surfaceID s' p = surfaceID s p
  | [], s, s', kept, h, p => by
    obtain ⟨rfl, rfl⟩ := Prod.mk.inj (Option.some.inj h)
    exact .inr rfl
  | e :: es, s, s', kept, h, p => by
    simp only [Server.retireEntries, Option.bind_eq_bind, Option.bind_eq_some_iff] at h
    obtain ⟨⟨s₁, kept₁⟩, h₁, ⟨s₂, kept₂⟩, h₂, h⟩ := h
    obtain ⟨rfl, rfl⟩ := Prod.mk.inj (Option.some.inj h)
    have hrest := retireEntries_ids es s₁ s₂ kept₂ h₂ p
    rcases retireEntry_cases h₁ with ⟨-, -, rfl⟩ | ⟨-, -, -, rfl⟩ | ⟨-, -, -, hdrop⟩
    · exact hrest
    · exact hrest
    · obtain ⟨-, -, -, -, -, hnone, hid⟩ := dropSurface_spec hdrop
      by_cases hp : p = e.2.surface
      · rw [← hp] at hnone
        rw [hnone] at hrest
        exact .inl (hrest.elim id id)
      · rw [hid p hp] at hrest
        exact hrest

/-! ## What a command does to the surfaces -/

/-- No pointer to the surface is left, and it was not destroyed. -/
def Lost (s : Server H) (p : Nat) : Prop :=
  p < s.heap.next ∧ p ∉ destroyed s.log ∧ p ∉ owned s s.deletedReses

theorem Lost.congr (hnext : s'.heap.next = s.heap.next) (hdes : destroyed s'.log = destroyed s.log)
    (hown : (owned s' s'.deletedReses).Perm (owned s s.deletedReses)) (p : Nat) : Lost s' p ↔ Lost s p := by
  unfold Lost
  rw [hnext, hdes, hown.mem_iff]

/-- Between two commands no entry is old enough to be retired. -/
def Young (s : Server H) : Prop := ∀ e ∈ s.deletedReses, frameAge s.frameIdx e.1 ≤ 30

/-- Writing to the count of references leaves the ids as they are. -/
theorem unrefSurface_ids {o : Option Nat} (h : s.unrefSurface o = some s') (hlog : s'.log = s.log) :
    s'.heap.next = s.heap.next ∧ ∀ p, surfaceID s' p = surfaceID s p := by
  cases o with
  | none =>
    obtain rfl := Option.some.inj h
    exact ⟨rfl, fun _ => rfl⟩
  | some q =>
    simp only [Server.unrefSurface, Option.bind_eq_bind, Option.bind_eq_some_iff] at h
    obtain ⟨x, hx, h⟩ := h
    split at h
    · -- the surface was destroyed, which the log would show
      simp only [Server.destroySurface, Option.bind_eq_bind, Option.bind_eq_some_iff] at h
      obtain ⟨-, -, h⟩ := h
      obtain rfl := Option.some.inj h
      exact absurd (congrArg List.length hlog) (by simp)
    · obtain rfl := Option.some.inj h
      refine ⟨rfl, fun p => ?_⟩
      by_cases hp : p = q
      · rw [hp]
        simp [surfaceID, hx]
      · simp [surfaceID, Heap.modify_ne hp]

theorem refSurface_ids {o : Option Nat} (h : s.refSurface o = some s') :
    s'.log = s.log ∧ s'.heap.next = s.heap.next ∧ ∀ p, surfaceID s' p = surfaceID s p := by
  cases o with
  | none =>
    obtain rfl := Option.some.inj h
    exact ⟨rfl, rfl, fun _ => rfl⟩
  | some q =>
    simp only [Server.refSurface, Option.bind_eq_bind, Option.bind_eq_some_iff] at h
    obtain ⟨x, hx, h⟩ := h
    obtain rfl := Option.some.inj h
    refine ⟨rfl, rfl, fun p => ?_⟩
    by_cases hp : p = q
    · rw [hp]
      simp [surfaceID, hx]
    · simp [surfaceID, Heap.modify_ne hp]

/-- `drawDispRes` that destroys nothing only moves `m_curSurface`. -/
theorem drawDispRes_ids {res : Option DispRes} (h : s.drawDispRes res = some s') (hlog : s'.log = s.log) :
    s'.curSurface = res.map DispRes.surface ∧ s'.heap.next = s.heap.next ∧ ∀ p, surfaceID s' p = surfaceID s p := by
  simp only [Server.drawDispRes, Option.bind_eq_bind, Option.bind_eq_some_iff] at h
  obtain ⟨-, -, h⟩ := h
  split at h
  · rename_i hcur
    obtain rfl := Option.some.inj h
    exact ⟨hcur, rfl, fun _ => rfl⟩
  · simp only [Option.bind_eq_some_iff] at h
    obtain ⟨s₁, h₁, s₂, h₂, h⟩ := h
    obtain rfl := Option.some.inj h
    obtain ⟨hlog₂, hnext₂, hid₂⟩ := refSurface_ids h₂
    obtain ⟨hnext₁, hid₁⟩ := unrefSurface_ids h₁ (hlog₂.symm.trans hlog)
    exact ⟨rfl, hnext₂.trans hnext₁, fun p => (hid₂ p).trans (hid₁ p)⟩

theorem Lost.init (p : Nat) : ¬Lost (Server.init : Server H) p := fun h => Nat.not_lt_zero p h.1

theorem keptEntries_surfaces (frameIdx : UInt64) (es : List (UInt64 × DispRes)) (p : Nat) :
    p ∈ (keptEntries frameIdx es).map (fun e => e.2.surface) ↔
      ∃ e ∈ es, e.2.surface = p ∧ frameAge frameIdx e.1 ≤ 30 := by
  simp only [keptEntries, List.map_map, List.mem_map, List.mem_filter, decide_eq_true_eq, Function.comp]
  exact ⟨fun ⟨e, ⟨he, hage⟩, hp⟩ => ⟨e, he, hp, hage⟩, fun ⟨e, he, hp, hage⟩ => ⟨e, ⟨he, hage⟩, hp⟩⟩

/-- `retireFrame` with no entry old enough. -/
theorem retireFrame_young (hinv : Inv s) (hy : Young s) (h : s.retireFrame = some s') :
    s'.dispReses = s.dispReses ∧ ∀ p, Lost s' p ↔ Lost s p := by
  simp only [Server.retireFrame, Option.bind_eq_bind, Option.bind_eq_some_iff] at h
  obtain ⟨⟨s₁, kept⟩, h₁, h⟩ := h
  obtain rfl := Option.some.inj h
  have hnodup : (s.deletedReses.map fun e => e.2.surface).Nodup := (List.nodup_append.mp hinv.1.nodup).2.1
  obtain ⟨hreses, -, hnext, rfl, hdes⟩ := retireEntries_spec _ _ _ _ hnodup h₁
  refine ⟨hreses, fun p => ?_⟩
  have hdes' : p ∈ destroyed s₁.log ↔ p ∈ destroyed s.log := by
    refine (hdes p).trans (or_iff_left ?_)
    rintro ⟨e, he, -, hage, -⟩
    exact UInt64.not_le.mpr hage (hy e he)
  have hkept : p ∈ (keptEntries s.frameIdx s.deletedReses).map (fun e => e.2.surface) ↔
      p ∈ s.deletedReses.map fun e => e.2.surface := by
    rw [keptEntries_surfaces, List.mem_map]
    constructor
    · rintro ⟨e, he, hp, -⟩
      exact ⟨e, he, hp⟩
    · rintro ⟨e, he, hp⟩
      exact ⟨e, he, hp, hy e he⟩
  unfold Lost owned
  simp only [hreses, hnext, hdes', List.mem_append, hkept]

theorem flushEntries_spec : ∀ (es : List (UInt64 × DispRes)) (s s' : Server H), s.flushEntries es = some s' →
    s'.heap.next = s.heap.next ∧
      ∀ p, p ∈ destroyed s'.log ↔ p ∈ destroyed s.log ∨ p ∈ es.map fun e => e.2.surface
  | [], s, s', h => by
    obtain rfl := Option.some.inj h
    simp
  | e :: es, s, s', h => by
    simp only [Server.flushEntries, Option.bind_eq_bind, Option.bind_eq_some_iff] at h
    obtain ⟨s₁, h₁, h⟩ := h
    obtain ⟨-, -, -, hnext₁, hdes₁, -, -⟩ := dropSurface_spec h₁
    obtain ⟨hnext, hdes⟩ := flushEntries_spec es s₁ s' h
    refine ⟨hnext.trans hnext₁, fun p => ?_⟩
    rw [hdes p, hdes₁, List.map_cons, List.mem_cons, List.mem_cons]
    tauto

/-- Every surface that is there has its own id, and none the id of no surface. -/
structure Distinct (s : Server H) : Prop where
  inj : ∀ p q id, surfaceID s p = some id → surfaceID s q = some id → p = q
  valid : ∀ p, surfaceID s p ≠ some vaInvalidSurface

theorem Distinct.mono (h : Distinct s) (hid : ∀ p, surfaceID s' p = none ∨ surfaceID s' p = surfaceID s p) :
    Distinct s' := by
  have hback : ∀ p id, surfaceID s' p = some id → surfaceID s p = some id := by
    intro p id hp
    rcases hid p with hnone | heq
    · rw [hnone] at hp
      cases hp
    · rw [← heq, hp]
  exact ⟨fun p q id hp hq => h.inj p q id (hback p id hp) (hback q id hq), fun p hp => h.valid p (hback p _ hp)⟩

end

section
variable {H : Type} [DecidableEq H] {s s' : Server H} {handle : H}

/-- The id `retireFrame` compares with once `res` is drawn. -/
def drawnID (s : Server H) : Option DispRes → Option UInt32
  | none => some vaInvalidSurface
  | some res => surfaceID s res.surface

/-- The command displays a frame and `p`, removed more than 30 frames ago, has the id of what is drawn. -/
def Dropped (s : Server H) : Command H → Nat → Prop
  | .frameDisplay handle, p => ∃ res, s.dispReses.lookup handle = some res ∧
      ∃ e ∈ s.deletedReses, e.2.surface = p ∧ frameAge (s.frameIdx + 1) e.1 > 30 ∧ surfaceID s p = drawnID s res
  | _, _ => False

/-- `displayRequest` up to `retireFrame`: the frame counts, the surface is drawn, and nothing else changes. -/
theorem displayRequest_drawn {res : Option DispRes} (hinv : Inv s) (hl : s.dispReses.lookup handle = some res)
    (h : s.displayRequest handle = some s') :
    ∃ t s₁ kept, t.retireEntries s.deletedReses = some (s₁, kept) ∧ s' = { s₁ with deletedReses := kept } ∧
      t.dispReses = s.dispReses ∧ t.frameIdx = s.frameIdx + 1 ∧ t.heap.next = s.heap.next ∧
      destroyed t.log = destroyed s.log ∧ t.currEncodeID = drawnID s res ∧
      ∀ p, surfaceID t p = surfaceID s p := by
  have hbegin : Counted s.beginFrame s.deletedReses := hinv.1.reown (List.Perm.refl _)
  obtain ⟨heap, cur, hdraw, hcounted⟩ := hbegin.draw fun r hr => mem_surfaces (hl.trans (congrArg some hr))
  obtain ⟨hcur, hnext, hid⟩ := drawDispRes_ids hdraw rfl
  simp only [Server.displayRequest, hl, hdraw, Option.bind_eq_bind, Option.bind_some, Server.retireFrame,
    Option.bind_eq_some_iff] at h
  obtain ⟨⟨s₁, kept⟩, h₁, h⟩ := h
  refine ⟨_, s₁, kept, h₁, (Option.some.inj h).symm, rfl, rfl, hnext, rfl, ?_, hid⟩
  unfold Server.currEncodeID
  simp only [show cur = res.map DispRes.surface from hcur]
  cases res with
  | none => rfl
  | some r => exact hid r.surface

/-- `displayRequest`: what is destroyed and what stays on the list. -/
theorem displayRequest_spec {res : Option DispRes} (hinv : Inv s) (hl : s.dispReses.lookup handle = some res)
    (h : s.displayRequest handle = some s') :
    s'.dispReses = s.dispReses ∧ s'.frameIdx = s.frameIdx + 1 ∧ s'.heap.next = s.heap.next ∧
      s'.deletedReses = keptEntries (s.frameIdx + 1) s.deletedReses ∧
      ∀ p, p ∈ destroyed s'.log ↔ p ∈ destroyed s.log ∨ ∃ e ∈ s.deletedReses, e.2.surface = p ∧
        frameAge (s.frameIdx + 1) e.1 > 30 ∧ surfaceID s p ≠ drawnID s res := by
  obtain ⟨t, s₁, kept, hret, rfl, hreses, hidx, hnext, hlog, hcur, hid⟩ := displayRequest_drawn hinv hl h
  have hnodup : (s.deletedReses.map fun e => e.2.surface).Nodup := (List.nodup_append.mp hinv.1.nodup).2.1
  obtain ⟨hreses₁, hidx₁, hnext₁, hkept, hdes⟩ := retireEntries_spec _ _ _ _ hnodup hret
  rw [hidx] at hidx₁ hkept hdes
  refine ⟨hreses₁.trans hreses, hidx₁, hnext₁.trans hnext, hkept, fun p => ?_⟩
  rw [hdes p, hlog, hid p, hcur]

theorem unregister_log (res : Option DispRes) : destroyed (s.unregister handle res).log = destroyed s.log := by
  cases res with
  | none => rfl
  | some r => rfl

theorem unregister_lost {res : Option DispRes} (hl : s.dispReses.lookup handle = some res) (p : Nat) :
    Lost (s.unregister handle res) p ↔ Lost s p := by
  refine Lost.congr ?_ (unregister_log res) (unregister_owned hl) p
  cases res with
  | none => rfl
  | some r => rfl

/-- A surface joins the list at the age 0. -/
theorem Young.unregister (h : Young s) (res : Option DispRes) : Young (s.unregister handle res) := by
  cases res with
  | none => exact h
  | some r =>
    intro e he
    rcases List.mem_append.mp he with he | he
    · exact h e he
    · obtain rfl := List.mem_singleton.mp he
      show frameAge s.frameIdx s.frameIdx ≤ 30
      rw [frameAge_self]
      exact UInt64.zero_le

theorem destroyOld_lost (handle : H) (p : Nat) : Lost (s.destroyOld handle) p ↔ Lost s p := by
  unfold Server.destroyOld
  cases hl : s.dispReses.lookup handle with
  | none => rfl
  | some old => exact unregister_lost hl p

theorem Young.destroyOld (h : Young s) (handle : H) : Young (s.destroyOld handle) := by
  unfold Server.destroyOld
  split
  · rename_i old _
    exact h.unregister old
  · exact h

/-- A surface that is created is registered at once. -/
theorem register_lost (hh : handle ∉ s.dispReses) (p q : Nat) :
    Lost { s with dispReses := s.dispReses.insert handle (some ⟨p⟩) } q ↔ Lost s q ∧ q ≠ p := by
  have howned : owned { s with dispReses := s.dispReses.insert handle (some ⟨p⟩) } s.deletedReses =
      p :: owned s s.deletedReses := by
    rw [owned, surfaces_insert hh]
    rfl
  simp only [Lost, howned, List.mem_cons, not_or]
  tauto

theorem createBuffer_lost (hinv : Inv s) (handle : H) (vaSurface : Option UInt32) (p : Nat) :
    Lost (s.createBuffer handle vaSurface) p ↔ Lost s p := by
  cases vaSurface with
  | none =>
    obtain ⟨-, hfree, -, -, -⟩ := hinv.destroyOld handle
    have hcongr : Lost (s.createBuffer handle none) p ↔ Lost (s.destroyOld handle) p := by
      apply Lost.congr
      · rfl
      · rfl
      · show (surfaces ((s.destroyOld handle).dispReses.insert handle none) ++ _).Perm _
        rw [surfaces_insert hfree]
        exact List.Perm.refl _
    exact hcongr.trans (destroyOld_lost handle p)
  | some id =>
    obtain ⟨-, hfree, -, -, -⟩ := (hinv.alloc ⟨id, 1⟩).destroyOld handle
    refine (register_lost hfree s.heap.next p).trans ?_
    rw [destroyOld_lost]
    show (p < s.heap.next + 1 ∧ _ ∧ _) ∧ _ ↔ p < s.heap.next ∧ _ ∧ _
    have hlt : p < s.heap.next + 1 ∧ p ≠ s.heap.next ↔ p < s.heap.next := by omega
    tauto

theorem Young.createBuffer (h : Young s) (handle : H) (vaSurface : Option UInt32) :
    Young (s.createBuffer handle vaSurface) := by
  cases vaSurface with
  | none => exact h.destroyOld handle
  | some id => exact Young.destroyOld (s := { s with heap := s.heap.alloc ⟨id, 1⟩ }) h handle

/-- A displayed frame loses the old surfaces whose id is that of what is drawn. -/
theorem displayRequest_lost {res : Option DispRes} (hinv : Inv s) (hl : s.dispReses.lookup handle = some res)
    (h : s.displayRequest handle = some s') (p : Nat) :
    Lost s' p ↔ Lost s p ∨ Dropped s (.frameDisplay handle) p := by
  obtain ⟨hreses, -, hnext, hdel, hdes⟩ := displayRequest_spec hinv hl h
  have hown : p ∈ owned s' s'.deletedReses ↔
      p ∈ surfaces s.dispReses ∨ ∃ e ∈ s.deletedReses, e.2.surface = p ∧ frameAge (s.frameIdx + 1) e.1 ≤ 30 := by
    rw [owned, hreses, hdel, List.mem_append, keptEntries_surfaces]
  have howned : p ∈ owned s s.deletedReses ↔ p ∈ surfaces s.dispReses ∨ ∃ e ∈ s.deletedReses, e.2.surface = p := by
    simp [owned]
  unfold Lost
  rw [hnext, hdes p, hown, howned]
  constructor
  · rintro ⟨hlt, hnd, hno⟩
    obtain ⟨hnd, hnr⟩ := not_or.mp hnd
    obtain ⟨hnm, hny⟩ := not_or.mp hno
    by_cases hlist : ∃ e ∈ s.deletedReses, e.2.surface = p
    · -- on the list before, and neither destroyed nor kept: it was dropped
      obtain ⟨e, he, hp⟩ := hlist
      have hage : frameAge (s.frameIdx + 1) e.1 > 30 := UInt64.not_le.mp fun hle => hny ⟨e, he, hp, hle⟩
      exact .inr ⟨res, hl, e, he, hp, hage, not_not.mp fun hne => hnr ⟨e, he, hp, hage, hne⟩⟩
    · exact .inl ⟨hlt, hnd, not_or.mpr ⟨hnm, hlist⟩⟩
  · rintro (⟨hlt, hnd, hno⟩ | ⟨res', hl', e, he, hp, hage, hsame⟩)
    · obtain ⟨hnm, hlist⟩ := not_or.mp hno
      refine ⟨hlt, not_or.mpr ⟨hnd, ?_⟩, not_or.mpr ⟨hnm, ?_⟩⟩
      · rintro ⟨e, he, hp, -⟩
        exact hlist ⟨e, he, hp⟩
      · rintro ⟨e, he, hp, -⟩
        exact hlist ⟨e, he, hp⟩
    · obtain rfl : res = res' := Option.some.inj (hl.symm.trans hl')
      have hmem : p ∈ s.deletedReses.map fun e => e.2.surface := List.mem_map.mpr ⟨e, he, hp⟩
      have hlive := hinv.1.live p (List.mem_append_right _ hmem)
      obtain ⟨-, hnodup, hdisj⟩ := List.nodup_append.mp hinv.1.nodup
      -- an entry is determined by its surface
      have huniq : ∀ e' ∈ s.deletedReses, e'.2.surface = p → e' = e := fun e' he' hp' =>
        List.inj_on_of_nodup_map hnodup he' he (hp'.trans hp.symm)
      refine ⟨Heap.lt_next hlive, not_or.mpr ⟨?_, ?_⟩, not_or.mpr ⟨?_, ?_⟩⟩
      · intro hd
        rw [(hinv.1.dead p hd).2] at hlive
        cases hlive
      · rintro ⟨e', he', hp', -, hne⟩
        exact hne hsame
      · intro hm
        exact hdisj p hm p hmem rfl
      · rintro ⟨e', he', hp', hle⟩
        obtain rfl := huniq e' he' hp'
        exact UInt64.not_le.mpr hage hle

theorem Young.displayRequest {res : Option DispRes} (hinv : Inv s) (hl : s.dispReses.lookup handle = some res)
    (h : s.displayRequest handle = some s') : Young s' := by
  obtain ⟨-, hidx, -, hdel, -⟩ := displayRequest_spec hinv hl h
  intro e he
  rw [hdel] at he
  obtain ⟨e₀, he₀, rfl⟩ := List.mem_map.mp he
  rw [hidx, frameAge_resFrameIdx]
  simpa using (List.mem_filter.mp he₀).2

/-- **One command**: it loses what it drops, and nothing else. -/
theorem commandHandler_lost {cmd : Command H} (hinv : Inv s) (h : s.commandHandler cmd = some s') (p : Nat) :
    Lost s' p ↔ Lost s p ∨ Dropped s cmd p := by
  cases cmd with
  | frameCreate handle vaSurface =>
    obtain rfl := Option.some.inj h
    simp [createBuffer_lost hinv, Dropped]
  | frameRemove handle =>
    obtain rfl := Option.some.inj h
    unfold Server.removeBuffer
    split
    · simp [Dropped]
    · simp [Dropped]
    · rename_i res hl
      simp [unregister_lost hl, Dropped]
  | frameDisplay handle =>
    cases hl : s.dispReses.lookup handle with
    | none =>
      simp only [Server.commandHandler, Server.displayRequest, hl] at h
      obtain rfl := Option.some.inj h
      simp [Dropped, hl]
    | some res => exact displayRequest_lost hinv hl h p

theorem Young.commandHandler {cmd : Command H} (hinv : Inv s) (hy : Young s) (h : s.commandHandler cmd = some s') :
    Young s' := by
  cases cmd with
  | frameCreate handle vaSurface =>
    obtain rfl := Option.some.inj h
    exact hy.createBuffer handle vaSurface
  | frameRemove handle =>
    obtain rfl := Option.some.inj h
    unfold Server.removeBuffer
    split
    · exact hy
    · exact hy
    · exact hy.unregister _
  | frameDisplay handle =>
    cases hl : s.dispReses.lookup handle with
    | none =>
      simp only [Server.commandHandler, Server.displayRequest, hl] at h
      obtain rfl := Option.some.inj h
      exact hy
    | some res => exact Young.displayRequest hinv hl h

/-! ## Whole runs -/

/-- The command drops no surface. -/
def NoDrop (s : Server H) (cmd : Command H) (_ : Server H) : Prop := ∀ p, ¬Dropped s cmd p

/-- When a frame is displayed, every surface of the list that is then older than 30 frames is destroyed. -/
def Timely (s : Server H) (cmd : Command H) (s' : Server H) : Prop :=
  ∀ handle, cmd = .frameDisplay handle → handle ∈ s.dispReses →
    ∀ e ∈ s.deletedReses, frameAge (s.frameIdx + 1) e.1 > 30 → e.2.surface ∈ destroyed s'.log

theorem Timely.of_noDrop {cmd : Command H} (hinv : Inv s) (h : s.commandHandler cmd = some s') (hn : NoDrop s cmd s') :
    Timely s cmd s' := by
  rintro handle rfl hmem e he hage
  obtain ⟨res, hl⟩ := Option.isSome_iff_exists.mp (AList.lookup_isSome.mpr hmem)
  obtain ⟨-, -, -, -, hdes⟩ := displayRequest_spec hinv hl h
  refine (hdes _).mpr (.inr ⟨e, he, rfl, hage, fun hsame => ?_⟩)
  exact hn _ ⟨res, hl, e, he, rfl, hage, hsame⟩

/-- What `commandHandler` returns satisfies the invariant. -/
theorem Inv.of_commandHandler {cmd : Command H} (hinv : Inv s) (h : s.commandHandler cmd = some s') : Inv s' := by
  obtain ⟨s₁, hs₁, hinv₁⟩ := hinv.commandHandler cmd
  obtain rfl := Option.some.inj (hs₁.symm.trans h)
  exact hinv₁

theorem PMeets_timely (cmds : List (Command H)) (s : Server H) (hinv : Inv s)
    (h : Runs.PMeets Server.commandHandler NoDrop s cmds) : Runs.PMeets Server.commandHandler Timely s cmds := by
  refine Runs.PMeets.imp (I := Inv) ?_ ?_ cmds s hinv h
  · intro s cmd s' hinv hs' _
    exact hinv.of_commandHandler hs'
  · intro s cmd s' hinv hs' hn
    exact .of_noDrop hinv hs' hn

/-- **A run** loses a surface exactly when one of its commands drops one. -/
theorem run_lost : ∀ (cmds : List (Command H)) (s s' : Server H), Inv s → Young s →
    cmds.foldlM Server.commandHandler s = some s' →
    Young s' ∧ ((∀ p, ¬Lost s' p) ↔ (∀ p, ¬Lost s p) ∧ Runs.PMeets Server.commandHandler NoDrop s cmds)
  | [], s, s', _, hy, h => by
    obtain rfl := Option.some.inj h
    exact ⟨hy, by simp [Runs.PMeets]⟩
  | cmd :: cmds, s, s', hinv, hy, h => by
    obtain ⟨s₁, hs₁, hinv₁⟩ := hinv.commandHandler cmd
    rw [List.foldlM_cons, hs₁] at h
    obtain ⟨hy', hiff⟩ := run_lost cmds s₁ s' hinv₁ (hy.commandHandler hinv hs₁) h
    refine ⟨hy', hiff.trans ?_⟩
    have hstep : (∀ p, ¬Lost s₁ p) ↔ (∀ p, ¬Lost s p) ∧ NoDrop s cmd s₁ := by
      simp only [commandHandler_lost hinv hs₁, not_or, forall_and, NoDrop]
    rw [hstep, and_assoc]
    refine and_congr_right fun _ => ?_
    constructor
    · rintro ⟨hn, hrest⟩ t ht
      obtain rfl := Option.some.inj (hs₁.symm.trans ht)
      exact ⟨hn, hrest⟩
    · intro hm
      exact hm s₁ hs₁

/-- The loop of `deinit`: every surface goes to the list, at the age 0. -/
theorem unregisterAll_lost : ∀ (entries : List (Σ _ : H, Option DispRes)) (s : Server H),
    s.dispReses.entries = entries → Young s →
    (entries.foldl (fun s e => s.unregister e.1 e.2) s).dispReses.entries = [] ∧
      Young (entries.foldl (fun s e => s.unregister e.1 e.2) s) ∧
      ∀ p, Lost (entries.foldl (fun s e => s.unregister e.1 e.2) s) p ↔ Lost s p
  | [], s, hentries, hy => ⟨hentries, hy, fun _ => Iff.rfl⟩
  | e :: entries, s, hentries, hy => by
    have hl : s.dispReses.lookup e.1 = some e.2 := by
      refine AList.mem_lookup_iff.mpr ?_
      rw [hentries]
      exact List.mem_cons_self
    have hrest : (s.unregister e.1 e.2).dispReses.entries = entries := by
      show List.kerase e.1 s.dispReses.entries = entries
      rw [hentries, List.kerase_cons_eq rfl]
    obtain ⟨hempty, hyoung, hlost⟩ := unregisterAll_lost entries _ hrest (hy.unregister e.2)
    exact ⟨hempty, hyoung, fun p => (hlost p).trans (unregister_lost hl p)⟩

/-- `deinit` and the destructor destroy everything but what is lost. -/
theorem teardown_lost (hinv : Inv s) (hy : Young s) (h : s.teardown = some s') :
    (∀ p < s'.heap.next, p ∈ destroyed s'.log) ↔ ∀ p, ¬Lost s p := by
  simp only [Server.teardown, Server.deinit, Option.bind_eq_bind, Option.bind_eq_some_iff] at h
  obtain ⟨s₁, h₁, h⟩ := h
  obtain ⟨hempty, hy₀, hlost₀⟩ := unregisterAll_lost s.dispReses.entries s rfl hy
  obtain ⟨hreses, hlost₁⟩ := retireFrame_young (Inv.unregisterAll s.dispReses.entries s rfl hinv) hy₀ h₁
  simp only [Server.flushDelayDelRes, Option.bind_eq_bind, Option.bind_eq_some_iff] at h
  obtain ⟨s₂, h₂, h⟩ := h
  obtain rfl := Option.some.inj h
  obtain ⟨hnext, hdes⟩ := flushEntries_spec _ _ _ h₂
  have howned : owned s₁ s₁.deletedReses = s₁.deletedReses.map fun e => e.2.surface := by
    rw [owned, surfaces, hreses, hempty]
    rfl
  refine forall_congr' fun p => ?_
  rw [← hlost₀ p, ← hlost₁ p]
  unfold Lost
  rw [howned]
  show (p < s₂.heap.next → p ∈ destroyed s₂.log) ↔ _
  rw [hnext, hdes p]
  tauto

/-- **When no surface is leaked.** For every mode and every sequence of commands: all surfaces are destroyed by the
end, and each removed one by the first frame at which it is older than 30 frames, exactly when no frame is displayed
at which a surface older than that has the id of the surface drawn, or `VA_INVALID_SURFACE` when none is. -/
theorem surfaces_destroyed_iff (mode : EncodeMode) (enableQSV : Bool) (reqs : List (Request H)) :
    ∃ s s', Server.run (reqs.map (Request.command mode enableQSV)) = some s ∧ s.teardown = some s' ∧
      (((∀ p < s'.heap.next, p ∈ destroyed s'.log) ∧
          Runs.PMeets Server.commandHandler Timely Server.init (reqs.map (Request.command mode enableQSV))) ↔
        Runs.PMeets Server.commandHandler NoDrop Server.init (reqs.map (Request.command mode enableQSV))) := by
  obtain ⟨s, hrun, hinv⟩ := Inv.run (reqs.map (Request.command mode enableQSV)) Server.init Inv.init
  obtain ⟨s', htear, -⟩ := hinv.teardown
  refine ⟨s, s', hrun, htear, ?_⟩
  have hy : Young (Server.init : Server H) := by simp [Young, Server.init]
  obtain ⟨hyoung, hlost⟩ := run_lost _ _ _ Inv.init hy hrun
  rw [teardown_lost hinv hyoung htear, hlost]
  constructor
  · rintro ⟨⟨-, hn⟩, -⟩
    exact hn
  · intro hn
    exact ⟨⟨Lost.init, hn⟩, PMeets_timely _ _ Inv.init hn⟩

/-! ## Which modes and formats leak -/

/-- The new surface has an id that no other has. -/
def FreshID (s : Server H) (cmd : Command H) (_ : Server H) : Prop :=
  ∀ handle id, cmd = .frameCreate handle (some id) → id ≠ vaInvalidSurface ∧ ∀ p, surfaceID s p ≠ some id

theorem NoDrop.of_distinct {cmd : Command H} (hinv : Inv s) (h : Distinct s) : NoDrop s cmd s' := by
  intro p hp
  cases cmd with
  | frameCreate handle vaSurface => exact hp
  | frameRemove handle => exact hp
  | frameDisplay handle =>
    obtain ⟨res, hl, e, he, rfl, -, hsame⟩ := hp
    cases res with
    | none => exact h.valid _ hsame
    | some r =>
      have hlive := hinv.1.live e.2.surface (List.mem_append_right _ (List.mem_map_of_mem he))
      obtain ⟨x, hx⟩ := Option.isSome_iff_exists.mp hlive
      have hid : surfaceID s e.2.surface = some x.vaSurfaceID := by rw [surfaceID, hx, Option.map_some]
      have heq := h.inj e.2.surface r.surface _ hid (hsame.symm.trans hid)
      exact (List.nodup_append.mp hinv.1.nodup).2.2 _ (mem_surfaces hl) _ (List.mem_map_of_mem he) heq.symm

theorem createBuffer_heap (hinv : Inv s) (handle : H) (id : UInt32) :
    (s.createBuffer handle (some id)).heap = s.heap.alloc ⟨id, 1⟩ :=
  ((hinv.alloc ⟨id, 1⟩).destroyOld handle).2.2.1

theorem Distinct.commandHandler {cmd : Command H} (hinv : Inv s) (h : Distinct s)
    (hs : s.commandHandler cmd = some s') (hf : FreshID s cmd s') : Distinct s' := by
  cases cmd with
  | frameCreate handle vaSurface =>
    obtain rfl := Option.some.inj hs
    cases vaSurface with
    | none =>
      refine h.mono fun p => .inr ?_
      exact congrArg (fun heap : Heap Surface => (heap.cells p).map _) (hinv.destroyOld handle).2.2.1
    | some id =>
      obtain ⟨hvalid, hnew⟩ := hf handle id rfl
      have hself : surfaceID (s.createBuffer handle (some id)) s.heap.next = some id := by
        rw [surfaceID, createBuffer_heap hinv, Heap.alloc_self, Option.map_some]
      have hother : ∀ p, p ≠ s.heap.next → surfaceID (s.createBuffer handle (some id)) p = surfaceID s p := by
        intro p hp
        rw [surfaceID, createBuffer_heap hinv, Heap.alloc_ne hp, surfaceID]
      constructor
      case inj =>
        intro p q id' hp hq
        by_cases hpn : p = s.heap.next
        · by_cases hqn : q = s.heap.next
          · exact hpn.trans hqn.symm
          · rw [hpn, hself] at hp
            rw [hother q hqn, ← hp] at hq
            exact absurd hq (hnew q)
        · rw [hother p hpn] at hp
          by_cases hqn : q = s.heap.next
          · rw [hqn, hself] at hq
            rw [← hq] at hp
            exact absurd hp (hnew p)
          · rw [hother q hqn] at hq
            exact h.inj p q id' hp hq
      case valid =>
        intro p hp
        by_cases hpn : p = s.heap.next
        · rw [hpn, hself] at hp
          exact hvalid (Option.some.inj hp)
        · rw [hother p hpn] at hp
          exact h.valid p hp
  | frameRemove handle =>
    obtain rfl := Option.some.inj hs
    refine h.mono fun p => .inr ?_
    unfold Server.removeBuffer
    split <;> rfl
  | frameDisplay handle =>
    cases hl : s.dispReses.lookup handle with
    | none =>
      simp only [Server.commandHandler, Server.displayRequest, hl] at hs
      obtain rfl := Option.some.inj hs
      exact h
    | some res =>
      obtain ⟨t, s₁, kept, hret, rfl, -, -, -, -, -, hid⟩ := displayRequest_drawn hinv hl hs
      refine h.mono fun p => ?_
      rw [← hid p]
      exact retireEntries_ids _ _ _ _ hret p

theorem PMeets_noDrop (cmds : List (Command H)) (s : Server H) (hinv : Inv s) (hdistinct : Distinct s)
    (h : Runs.PMeets Server.commandHandler FreshID s cmds) : Runs.PMeets Server.commandHandler NoDrop s cmds := by
  refine Runs.PMeets.imp (I := fun s => Inv s ∧ Distinct s) ?_ ?_ cmds s ⟨hinv, hdistinct⟩ h
  · rintro s cmd s' ⟨hinv, hdistinct⟩ hs' hfresh
    exact ⟨hinv.of_commandHandler hs', hdistinct.commandHandler hinv hs' hfresh⟩
  · rintro s cmd s' ⟨hinv, hdistinct⟩ _ _
    exact .of_distinct hinv hdistinct

/-- The pixel formats `create_surface_from_fd` knows. -/
def Known (format : UInt32) : Prop :=
  format = drmFormatABGR8888 ∨ format = drmFormatXBGR8888 ∨ format = drmFormatARGB8888 ∨
    format = drmFormatXRGB8888 ∨ format = drmFormatRGB565 ∨ format = drmFormatNV12

/-- In the two modes with a surface a known format gets the id `vaCreateSurfaces` returns. -/
theorem createSurfaceFromFd_known {mode : EncodeMode} {enableQSV : Bool} {format : UInt32} {ext : External} {id : UInt32}
    (hmode : mode ≠ .dataBuffer) (hf : Known format) (h : createSurfaceFromFd mode enableQSV format ext = some id) :
    ext.vaCreateSurfaces = some id := by
  have hva : vaSurf (pixelFormat format ext.stale) ext.vaCreateSurfaces = ext.vaCreateSurfaces := by
    rcases hf with rfl | rfl | rfl | rfl | rfl | rfl <;> rfl
  unfold createSurfaceFromFd at h
  rw [hva] at h
  split at h
  · obtain ⟨x, hx, h⟩ := Option.bind_eq_some_iff.mp h
    cases mode with
    | vaSurface => exact hx.trans h
    | qsvSurface =>
      cases enableQSV with
      | true => exact hx.trans h
      | false => cases h
    | dataBuffer => exact absurd rfl hmode
  · cases h

/-- The format is a known one, when the request has a format. -/
def KnownFormat : Request H → Prop
  | .frameCreate _ format _ => Known format
  | _ => True

/-- `vaCreateSurfaces` returns an id that no surface has that is there. -/
def VaDistinct (s : Server H) (req : Request H) (_ : Server H) : Prop :=
  ∀ handle format ext id, req = .frameCreate handle format ext → ext.vaCreateSurfaces = some id →
    id ≠ vaInvalidSurface ∧ ∀ p, surfaceID s p ≠ some id

/-- **Known formats leak nothing**, as long as the surfaces have ids at all. -/
theorem noDrop_of_known {mode : EncodeMode} (hmode : mode ≠ .dataBuffer) (enableQSV : Bool) {reqs : List (Request H)}
    (hknown : ∀ req ∈ reqs, KnownFormat req)
    (hva : Runs.PMeets (fun s req => Server.commandHandler s (Request.command mode enableQSV req)) VaDistinct
      Server.init reqs) :
    Runs.PMeets Server.commandHandler NoDrop Server.init (reqs.map (Request.command mode enableQSV)) := by
  have hinit : Distinct (Server.init : Server H) := by
    constructor <;> simp [surfaceID, Server.init, Heap.empty]
  refine PMeets_noDrop _ _ Inv.init hinit (Runs.PMeets.map ?_ reqs _ hknown hva)
  intro s req s' hk hd handle id heq
  cases req with
  | frameCreate handle' format ext =>
    obtain ⟨rfl, hid⟩ := Command.frameCreate.inj heq
    exact hd _ format ext id rfl (createSurfaceFromFd_known hmode hk hid)
  | frameRemove handle' => cases heq
  | frameDisplay handle' => cases heq

end

/-- The defect: one surface is removed, and 31 frames of another are displayed. With `VA` surfaces of a format that is
not known both have the id `VA_INVALID_SURFACE`, and without surface flags both have the id 0; the removed surface is
never destroyed. -/
theorem removed_surface_leaks :
    let unknown : External := ⟨true, 0, none⟩
    let reqs (format : UInt32) (first second : External) : List (Request Nat) :=
      [.frameCreate 0 format first, .frameCreate 1 format second, .frameDisplay 0, .frameRemove 0] ++
        List.replicate 31 (.frameDisplay 1)
    let leaked (mode : EncodeMode) (reqs : List (Request Nat)) : Option (Nat × List Nat) :=
      ((Server.run (reqs.map (Request.command mode true))).bind Server.teardown).map
        fun s => (s.heap.next, destroyed s.log)
    leaked .vaSurface (reqs 0x30334241 unknown unknown) = some (2, [1]) ∧
      leaked .dataBuffer (reqs drmFormatNV12 ⟨true, 0, some 1⟩ ⟨true, 0, some 2⟩) = some (2, [1]) := by
  decide +kernel

end CloudStreaming.Display
