import CloudStreaming.Lib.Heap
import Mathlib.Data.List.AList

/-!
# Surfaces of the display server (`encoder/server/display_server_vhal.cpp:178-306`,
`encoder/server/display_video_renderer.cpp:70-294`, `encoder/shared/encoder.cpp:1185-1260`)

A surface is created for a handle, registered in `m_dispReses` and, once its handle is removed or replaced,
put on the list `m_deletedReses` together with the frame counter. `retireFrame` destroys it when its age is more
than 30 frames. The surface drawn last is `m_curSurface` and has one reference more than the others.

| here | there |
| --- | --- |
| `Server`            | `m_dispReses`; `m_frameIdx`, `m_deletedReses`, `m_curSurface` of its renderer |
| `heap`              | the `irr_surface_t` objects: what the counting of references reads |
| `DispRes`           | `disp_res_t`; its `surface` is never `NULL`, as `createDispRes` then returns `NULL` itself |
| `none` of a step    | a surface is read, written or destroyed after it was destroyed |
| `Event`, `log`      | not in the source: what happened, the newest first |

Of `DisplayRequest` the change of the resolution and the control data are left out, of a surface everything but
`ref_count` and `vaSurfaceID`: neither decides what is destroyed. The map lists its entries in the order of their
insertion and not by handle; `deinit` alone goes through them.
-/

namespace CloudStreaming.Display

open Alloc

structure Surface where
  vaSurfaceID : UInt32
  refCount : Int

/-- `VA_INVALID_SURFACE`. -/
def vaInvalidSurface : UInt32 := 0xffffffff

structure DispRes where
  surface : Nat
deriving DecidableEq

/-- `destroyed` says of the surface whether it was registered, and whether it was current, when it was destroyed. -/
inductive Event where
  | unregistered (surface : Nat)
  | displayed
  | destroyed (surface : Nat) (registered current : Bool)

structure Server (H : Type) where
  heap : Heap Surface
  dispReses : AList fun _ : H => Option DispRes
  frameIdx : UInt64
  deletedReses : List (UInt64 × DispRes)
  curSurface : Option Nat
  log : List Event

/-- The commands; the second argument of `frameCreate` is the `vaSurfaceID`, or `none` when creation fails. -/
inductive Command (H : Type) where
  | frameCreate (handle : H) (vaSurface : Option UInt32)
  | frameRemove (handle : H)
  | frameDisplay (handle : H)

/-- The surfaces registered in a map. -/
def surfaces {H : Type} (reses : AList fun _ : H => Option DispRes) : List Nat :=
  reses.entries.filterMap fun e => e.2.map DispRes.surface

/-- The place of an entry in the count of frames: 0 once the counter has wrapped (`:231-238`). -/
def resFrameIdx (curFrameIdx first : UInt64) : UInt64 := if first ≤ curFrameIdx then first else 0

def frameAge (curFrameIdx first : UInt64) : UInt64 := curFrameIdx - resFrameIdx curFrameIdx first

namespace Server

variable {H : Type} [DecidableEq H]

def init : Server H := ⟨Heap.empty, ∅, 0, [], none, []⟩

/-- `irr_encoder_destroy_surface` (`encoder.cpp:1185`). -/
def destroySurface (s : Server H) (p : Nat) : Option (Server H) := do
  let _ ← s.heap.cells p
  some { s with
    heap := s.heap.free p
    log := .destroyed p (decide (p ∈ surfaces s.dispReses)) (decide (s.curSurface = some p)) :: s.log }

/-- `irr_encoder_ref_surface` (`encoder.cpp:1238`); `none` is `NULL`. -/
def refSurface (s : Server H) : Option Nat → Option (Server H)
  | none => some s
  | some p => do
    let _ ← s.heap.cells p
    some { s with heap := s.heap.modify p fun x => { x with refCount := x.refCount + 1 } }

/-- `irr_encoder_unref_surface` (`encoder.cpp:1248`). -/
def unrefSurface (s : Server H) : Option Nat → Option (Server H)
  | none => some s
  | some p => do
    let x ← s.heap.cells p
    let s := { s with heap := s.heap.modify p fun x => { x with refCount := x.refCount - 1 } }
    if x.refCount - 1 = 0 then s.destroySurface p else some s

/-- `irr_encoder_write` (`encoder.cpp:1262`): the surface is read and written. -/
def encoderWrite (s : Server H) : Option Nat → Option Unit
  | none => some ()
  | some p => (s.heap.cells p).map fun _ => ()

/-- `ref_count = 1; irr_encoder_unref_surface` (`:252-253`, `:284-285`). -/
def dropSurface (s : Server H) (p : Nat) : Option (Server H) :=
  unrefSurface { s with heap := s.heap.modify p fun x => { x with refCount := 1 } } (some p)

/-- `createDispRes` (`:77`). -/
def createDispRes (s : Server H) (vaSurface : Option UInt32) : Server H × Option DispRes :=
  match vaSurface with
  | none => (s, none)
  | some id => ({ s with heap := s.heap.alloc ⟨id, 1⟩ }, some ⟨s.heap.next⟩)

/-- `destroyDispRes` (`:155`). -/
def destroyDispRes (s : Server H) (res : Option DispRes) : Server H :=
  match res with
  | none => s
  | some res => { s with deletedReses := s.deletedReses ++ [(s.frameIdx, res)] }

/-- `drawDispRes` (`:163`). -/
def drawDispRes (s : Server H) (res : Option DispRes) : Option (Server H) := do
  let surface := res.map DispRes.surface
  s.encoderWrite surface
  if s.curSurface = surface then some s
  else do
    let s ← s.unrefSurface s.curSurface
    let s ← s.refSurface surface
    some { s with curSurface := surface }

/-- `beginFrame` (`:210`). -/
def beginFrame (s : Server H) : Server H := { s with frameIdx := s.frameIdx + 1 }

/-- `currEncodeID` (`:245-248`). -/
def currEncodeID (s : Server H) : Option UInt32 :=
  match s.curSurface with
  | none => some vaInvalidSurface
  | some p => (s.heap.cells p).map Surface.vaSurfaceID

/-- One entry in `retireFrame` (`:226-266`): the entry that stays, if it does. -/
def retireEntry (s : Server H) (e : UInt64 × DispRes) : Option (Server H × Option (UInt64 × DispRes)) :=
  if frameAge s.frameIdx e.1 > 30 then do
    let x ← s.heap.cells e.2.surface
    let currEncodeID ← s.currEncodeID
    if x.vaSurfaceID ≠ currEncodeID then do
      let s ← s.dropSurface e.2.surface
      some (s, none)
    else some (s, none)
  else some (s, some (resFrameIdx s.frameIdx e.1, e.2))

def retireEntries (s : Server H) : List (UInt64 × DispRes) → Option (Server H × List (UInt64 × DispRes))
  | [] => some (s, [])
  | e :: es => do
    let (s, kept) ← s.retireEntry e
    let (s, rest) ← s.retireEntries es
    some (s, kept.toList ++ rest)

/-- `retireFrame` (`:220`). -/
def retireFrame (s : Server H) : Option (Server H) := do
  let (s, kept) ← s.retireEntries s.deletedReses
  some { s with deletedReses := kept }

def flushEntries (s : Server H) : List (UInt64 × DispRes) → Option (Server H)
  | [] => some s
  | e :: es => do
    let s ← s.dropSurface e.2.surface
    s.flushEntries es

/-- `flushDelayDelRes` (`:269`). -/
def flushDelayDelRes (s : Server H) : Option (Server H) := do
  let s ← s.flushEntries s.deletedReses
  some { s with deletedReses := [] }

/-- `destroyDispRes(res)` and the `erase` after it, as in `CreateBuffer`, `RemoveBuffer` and `deinit`. -/
def unregister (s : Server H) (handle : H) (res : Option DispRes) : Server H :=
  { s.destroyDispRes res with
    dispReses := s.dispReses.erase handle
    log := (res.map fun res => Event.unregistered res.surface).toList ++ s.log }

/-- "destory the old one" (`display_server_vhal.cpp:207-214`). -/
def destroyOld (s : Server H) (handle : H) : Server H :=
  match s.dispReses.lookup handle with
  | some old => s.unregister handle old
  | none => s

/-- `CreateBuffer` (`display_server_vhal.cpp:202`). -/
def createBuffer (s : Server H) (handle : H) (vaSurface : Option UInt32) : Server H :=
  let (s, dispRes) := s.createDispRes vaSurface
  let s := s.destroyOld handle
  { s with dispReses := s.dispReses.insert handle dispRes }

/-- `RemoveBuffer` (`display_server_vhal.cpp:223`): an entry whose surface could not be created stays. -/
def removeBuffer (s : Server H) (handle : H) : Server H :=
  match s.dispReses.lookup handle with
  | none => s
  | some none => s
  | some (some dispRes) => s.unregister handle (some dispRes)

/-- `DisplayRequest` (`display_server_vhal.cpp:241`); the frame is displayed with `endFrame`. -/
def displayRequest (s : Server H) (handle : H) : Option (Server H) :=
  match s.dispReses.lookup handle with
  | none => some s
  | some dispRes => do
    let s ← s.beginFrame.drawDispRes dispRes
    retireFrame { s with log := .displayed :: s.log }

/-- `CommandHandler` (`display_server_vhal.cpp:285`). -/
def commandHandler (s : Server H) : Command H → Option (Server H)
  | .frameCreate handle vaSurface => some (s.createBuffer handle vaSurface)
  | .frameRemove handle => some (s.removeBuffer handle)
  | .frameDisplay handle => s.displayRequest handle

/-- `deinit` (`display_server_vhal.cpp:178`) up to the `deinit` of the renderer. -/
def deinit (s : Server H) : Option (Server H) :=
  retireFrame (s.dispReses.entries.foldl (fun s e => s.unregister e.1 e.2) s)

def run (cmds : List (Command H)) : Option (Server H) := cmds.foldlM commandHandler init

/-- `deinit`, which ends with the destructor of the renderer (`display_video_renderer.cpp:40`). -/
def teardown (s : Server H) : Option (Server H) := do
  let s ← s.deinit
  s.flushDelayDelRes

end Server

end CloudStreaming.Display
