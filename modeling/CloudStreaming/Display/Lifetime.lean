import CloudStreaming.Display.Surfaces

/-!
# The lifetime of a surface

Three mechanisms decide when a surface is destroyed: the map of handles, the list of removed ones with their
frames, and the count of references, which `retireFrame` overwrites. The invariant has a part for each. `Owns`: every
surface of the map and the list is alive and stands there once, and none that was destroyed is alive. `Counted`: a
surface has one reference, the current one two. `Aged`: the age the list gives a surface is at most the number of
frames displayed since its handle was removed or replaced. `Owns` alone is what the destructor of the renderer
needs, where the current surface is destroyed as well.
-/

namespace CloudStreaming.Display

open Alloc

/-! ## What the log says -/

/-- The surfaces destroyed, the last first. -/
def destroyed (log : List Event) : List Nat :=
  log.filterMap fun
    | .destroyed p _ _ => some p
    | _ => none

/-- The frames displayed since the handle of the surface was removed or replaced. -/
def framesSince (p : Nat) : List Event → Option Nat
  | [] => none
  | .unregistered q :: log => if q = p then some 0 else framesSince p log
  | .displayed :: log => (framesSince p log).map (· + 1)
  | .destroyed .. :: log => framesSince p log

/-- Every surface destroyed was neither registered nor current, and more than 30 frames were displayed since its
handle was removed or replaced. -/
def Orderly (log : List Event) : Prop :=
  ∀ later p registered current earlier, log = later ++ .destroyed p registered current :: earlier →
    registered = false ∧ current = false ∧ ∃ k, framesSince p earlier = some k ∧ 30 < k

theorem Orderly.nil : Orderly [] := by
  intro later p registered current earlier h
  simp at h

theorem Orderly.cons {e : Event} {log : List Event} (h : Orderly log)
    (he : ∀ p registered current, e = .destroyed p registered current →
      registered = false ∧ current = false ∧ ∃ k, framesSince p log = some k ∧ 30 < k) :
    Orderly (e :: log) := by
  intro later p registered current earlier heq
  cases later with
  | nil =>
    simp only [List.nil_append, List.cons.injEq] at heq
    obtain ⟨rfl, rfl⟩ := heq
    exact he p registered current rfl
  | cons e' later =>
    simp only [List.cons_append, List.cons.injEq] at heq
    exact h later p registered current earlier heq.2

/-! ## Ages -/

@[simp] theorem frameAge_self (cur : UInt64) : frameAge cur cur = 0 := by simp [frameAge, resFrameIdx]

/-- What `retireFrame` writes back does not change the age. -/
@[simp] theorem frameAge_resFrameIdx (cur first : UInt64) :
    frameAge cur (resFrameIdx cur first) = frameAge cur first := by
  have h : resFrameIdx cur (resFrameIdx cur first) = resFrameIdx cur first := by
    unfold resFrameIdx
    by_cases hle : first ≤ cur
    · simp [hle]
    · simp [hle]
  rw [frameAge, h, frameAge]

/-- With one more frame an age grows by one at most, also when the counter wraps. -/
theorem frameAge_succ (cur first : UInt64) : (frameAge (cur + 1) first).toNat ≤ (frameAge cur first).toNat + 1 := by
  have hc := cur.toNat_lt
  have hf := first.toNat_lt
  unfold frameAge resFrameIdx
  simp only [UInt64.le_iff_toNat_le, UInt64.toNat_add, UInt64.toNat_one]
  split <;> split <;> simp only [UInt64.toNat_sub, UInt64.toNat_add, UInt64.toNat_one, UInt64.toNat_zero] <;> omega

/-! ## The map of handles -/

section
variable {H : Type} [DecidableEq H] {reses : AList fun _ : H => Option DispRes} {handle : H} {res : Option DispRes}

/-- Erasing a handle takes its surface out of the map, and no other. -/
theorem surfaces_erase (h : reses.lookup handle = some res) :
    (surfaces reses).Perm ((res.map DispRes.surface).toList ++ surfaces (reses.erase handle)) := by
  have hmem : handle ∈ reses.entries.keys := AList.mem_keys.mp (AList.lookup_isSome.mp (by rw [h]; rfl))
  obtain ⟨b, l₁, l₂, -, hl, hker⟩ := List.exists_of_kerase hmem
  have hb : reses.lookup handle = some b := by
    refine AList.mem_lookup_iff.mpr ?_
    rw [hl]
    simp
  obtain rfl : res = b := by
    rw [h] at hb
    exact Option.some.inj hb
  have herase : surfaces (reses.erase handle) = (l₁ ++ l₂).filterMap fun e => e.2.map DispRes.surface := by
    rw [← hker]
    rfl
  rw [herase, surfaces, hl]
  cases res with
  | none => simp
  | some res =>
    simp only [List.filterMap_append, List.filterMap_cons, Option.map_some, Option.toList_some]
    exact List.perm_middle

theorem surfaces_insert (h : handle ∉ reses) :
    surfaces (reses.insert handle res) = (res.map DispRes.surface).toList ++ surfaces reses := by
  rw [surfaces, AList.entries_insert_of_notMem h]
  cases res with
  | none => simp [surfaces]
  | some res => simp [surfaces]

theorem mem_surfaces {r : DispRes} (h : reses.lookup handle = some (some r)) : r.surface ∈ surfaces reses := by
  rw [surfaces, List.mem_filterMap]
  exact ⟨⟨handle, some r⟩, AList.mem_lookup_iff.mp h, rfl⟩

end

/-! ## Surfaces are owned once -/

section
variable {H : Type} {s : Server H} {l l' : List (UInt64 × DispRes)}

/-- The surfaces of the map and of the list `l`. -/
def owned (s : Server H) (l : List (UInt64 × DispRes)) : List Nat :=
  surfaces s.dispReses ++ l.map fun e => e.2.surface

structure Owns (s : Server H) (l : List (UInt64 × DispRes)) : Prop where
  nodup : (owned s l).Nodup
  live : ∀ p ∈ owned s l, (s.heap.cells p).isSome
  dead : ∀ p ∈ destroyed s.log, p < s.heap.next ∧ s.heap.cells p = none
  once : (destroyed s.log).Nodup
  registered : ∀ p registered current, Event.destroyed p registered current ∈ s.log → registered = false

/-- What a surface set to one reference and released leaves behind. -/
theorem dropSurface_eq {p : Nat} (h : (s.heap.cells p).isSome) :
    ∃ heap, heap.next = s.heap.next ∧ heap.cells p = none ∧ (∀ q, q ≠ p → heap.cells q = s.heap.cells q) ∧
      s.dropSurface p = some { s with
        heap := heap
        log := .destroyed p (decide (p ∈ surfaces s.dispReses)) (decide (s.curSurface = some p)) :: s.log } := by
  obtain ⟨x, hx⟩ := Option.isSome_iff_exists.mp h
  refine ⟨_, ?_, ?_, ?_, by simp [Server.dropSurface, Server.unrefSurface, Server.destroySurface, hx]; rfl⟩
  · simp
  · simp
  · intro q hq
    simp [Heap.free_ne hq, Heap.modify_ne hq]

/-- It does not matter where a surface is kept, nor in which order. -/
theorem Owns.reown (h : Owns s l) {reses : AList fun _ : H => Option DispRes} {d : List (UInt64 × DispRes)} {i : UInt64}
    (hp : (owned { s with dispReses := reses } l').Perm (owned s l)) :
    Owns { s with dispReses := reses, frameIdx := i, deletedReses := d } l' :=
  ⟨hp.nodup_iff.mpr h.nodup, fun p hmem => h.live p (hp.mem_iff.mp hmem), h.dead, h.once, h.registered⟩

/-- The first surface of the list is destroyed: the rest is owned as before. -/
theorem Owns.drop {e : UInt64 × DispRes} (h : Owns s (e :: l)) :
    ∃ heap log, log = .destroyed e.2.surface false (decide (s.curSurface = some e.2.surface)) :: s.log ∧
      (∀ q, q ≠ e.2.surface → heap.cells q = s.heap.cells q) ∧
      s.dropSurface e.2.surface = some { s with heap := heap, log := log } ∧
      Owns { s with heap := heap, log := log } l := by
  have hperm : (owned s (e :: l)).Perm (e.2.surface :: owned s l) := List.perm_middle
  have hnodup := hperm.nodup_iff.mp h.nodup
  obtain ⟨hnot, hnodup⟩ := List.nodup_cons.mp hnodup
  have hlive := h.live e.2.surface (hperm.mem_iff.mpr List.mem_cons_self)
  have hreg : e.2.surface ∉ surfaces s.dispReses := fun hm => hnot (List.mem_append_left _ hm)
  obtain ⟨heap, hnext, hdead, hother, heq⟩ := dropSurface_eq hlive
  refine ⟨heap, _, rfl, hother, by rw [heq, decide_eq_false hreg], ?_⟩
  constructor
  case nodup => exact hnodup
  case live =>
    intro p hp
    have hne : p ≠ e.2.surface := by
      rintro rfl
      exact hnot hp
    show (heap.cells p).isSome
    rw [hother p hne]
    exact h.live p (hperm.mem_iff.mpr (List.mem_cons_of_mem _ hp))
  case dead =>
    intro p hp
    show p < heap.next ∧ heap.cells p = none
    rw [hnext]
    by_cases hpe : p = e.2.surface
    · rw [hpe]
      exact ⟨Heap.lt_next hlive, hdead⟩
    · rw [hother p hpe]
      refine h.dead p ?_
      simpa [destroyed, hpe] using hp
  case once =>
    refine List.nodup_cons.mpr ⟨fun hp => ?_, h.once⟩
    rw [(h.dead _ hp).2] at hlive
    cases hlive
  case registered =>
    intro p registered current hp
    rcases List.mem_cons.mp hp with hp | hp
    · cases hp
      rfl
    · exact h.registered p registered current hp

/-! ## References -/

/-- Every owned surface has one reference, and the current surface one more. -/
structure Counted (s : Server H) (l : List (UInt64 × DispRes)) : Prop extends Owns s l where
  current : ∀ p, s.curSurface = some p → ∃ x, s.heap.cells p = some x ∧ x.refCount = 2
  others : ∀ p ∈ owned s l, s.curSurface ≠ some p → ∃ x, s.heap.cells p = some x ∧ x.refCount = 1
  orderly : Orderly s.log

theorem Counted.reown (h : Counted s l) {reses : AList fun _ : H => Option DispRes} {d : List (UInt64 × DispRes)}
    {i : UInt64} (hp : (owned { s with dispReses := reses } l').Perm (owned s l)) :
    Counted { s with dispReses := reses, frameIdx := i, deletedReses := d } l' :=
  ⟨h.toOwns.reown hp, h.current, fun p hmem => h.others p (hp.mem_iff.mp hmem), h.orderly⟩

theorem Counted.perm (h : Counted s l) (hp : l'.Perm l) : Counted s l' :=
  h.reown ((hp.map _).append_left _)

/-- `delete res` with its surface left as it is. -/
theorem Counted.forget {e : UInt64 × DispRes} (h : Counted s (e :: l)) : Counted s l := by
  have hsub : (owned s l).Sublist (owned s (e :: l)) :=
    (List.Sublist.refl _).append (List.sublist_cons_self _ _)
  refine ⟨⟨h.nodup.sublist hsub, fun p hp => h.live p (hsub.subset hp), h.dead, h.once, h.registered⟩, h.current,
    fun p hp => h.others p (hsub.subset hp), h.orderly⟩

/-- What does not touch the surfaces keeps the counts. -/
theorem Counted.log {e : Event} (h : Counted s l) (he : ∀ p registered current, e ≠ .destroyed p registered current) :
    Counted { s with log := e :: s.log } l := by
  have hdes : destroyed (e :: s.log) = destroyed s.log := by
    cases e with
    | destroyed p registered current => exact absurd rfl (he p registered current)
    | unregistered p => rfl
    | displayed => rfl
  constructor
  case toOwns =>
    refine ⟨h.nodup, h.live, ?_, ?_, ?_⟩
    · rw [hdes]
      exact h.dead
    · rw [hdes]
      exact h.once
    · intro p registered current hp
      rcases List.mem_cons.mp hp with hp | hp
      · exact absurd hp.symm (he p registered current)
      · exact h.registered p registered current hp
  case current => exact h.current
  case others => exact h.others
  case orderly =>
    refine h.orderly.cons fun p registered current heq => ?_
    exact absurd heq (he p registered current)

/-- Writing to a surface, and to `m_curSurface`, changes nothing about ownership. -/
theorem Owns.modify (h : Owns s l) (p : Nat) (f : Surface → Surface) (cur : Option Nat) :
    Owns { s with heap := s.heap.modify p f, curSurface := cur } l := by
  have hsome : ∀ q, ((s.heap.modify p f).cells q).isSome = (s.heap.cells q).isSome := by
    intro q
    by_cases hq : q = p
    · rw [hq, Heap.modify_self, Option.isSome_map]
    · rw [Heap.modify_ne hq]
  refine ⟨h.nodup, ?_, ?_, h.once, h.registered⟩
  · intro q hq
    show ((s.heap.modify p f).cells q).isSome
    rw [hsome]
    exact h.live q hq
  · intro q hq
    refine ⟨(h.dead q hq).1, ?_⟩
    show (s.heap.modify p f).cells q = none
    rw [← Option.not_isSome_iff_eq_none, hsome, (h.dead q hq).2]
    simp

/-- The old surface of `drawDispRes` keeps the reference it was created with. -/
theorem Counted.unref (h : Counted s l) :
    ∃ heap, s.unrefSurface s.curSurface = some { s with heap := heap } ∧
      Counted { s with heap := heap, curSurface := none } l := by
  by_cases hnone : s.curSurface = none
  · have heq : { s with curSurface := none } = s := by rw [← hnone]
    refine ⟨s.heap, (?_ : s.unrefSurface s.curSurface = some s), ?_⟩
    · rw [hnone]
      rfl
    · rw [heq]
      exact h
  · obtain ⟨q, hq⟩ := Option.ne_none_iff_exists'.mp hnone
    obtain ⟨x, hx, hcount⟩ := h.current q hq
    refine ⟨s.heap.modify q fun x => { x with refCount := x.refCount - 1 }, ?_, ?_⟩
    · rw [hq]
      simp [Server.unrefSurface, hx, hcount, hq]
    constructor
    case toOwns => exact h.toOwns.modify _ _ _
    case current => simp
    case others =>
      intro p hp _
      by_cases hpq : p = q
      · rw [hpq]
        exact ⟨{ x with refCount := x.refCount - 1 }, by simp [hx], by simp [hcount]⟩
      · obtain ⟨y, hy, hy1⟩ := h.others p hp (by rw [hq]; simpa using Ne.symm hpq)
        exact ⟨y, by rw [Heap.modify_ne hpq, hy], hy1⟩
    case orderly => exact h.orderly

/-- The new surface of `drawDispRes` gets the second reference. -/
theorem Counted.ref {p : Nat} (h : Counted { s with curSurface := none } l) (hp : p ∈ owned s l) :
    ∃ heap, s.refSurface (some p) = some { s with heap := heap } ∧
      Counted { s with heap := heap, curSurface := some p } l := by
  obtain ⟨x, hx, hcount⟩ := h.others p hp (by simp)
  have hx : s.heap.cells p = some x := hx
  refine ⟨s.heap.modify p fun x => { x with refCount := x.refCount + 1 }, by simp [Server.refSurface, hx], ?_⟩
  constructor
  case toOwns => exact h.toOwns.modify _ _ _
  case current =>
    rintro q ⟨rfl⟩
    exact ⟨{ x with refCount := x.refCount + 1 }, by simp [hx], by simp [hcount]⟩
  case others =>
    intro q hq hne
    have hqp : q ≠ p := by
      rintro rfl
      exact hne rfl
    obtain ⟨y, hy, hy1⟩ := h.others q hq (by simp)
    exact ⟨y, by rw [Heap.modify_ne hqp]; exact hy, hy1⟩
  case orderly => exact h.orderly

/-- `drawDispRes` destroys nothing: it moves the second reference to the surface it draws. -/
theorem Counted.draw {res : Option DispRes} (h : Counted s l)
    (hres : ∀ r, res = some r → r.surface ∈ surfaces s.dispReses) :
    ∃ heap cur, s.drawDispRes res = some { s with heap := heap, curSurface := cur } ∧
      Counted { s with heap := heap, curSurface := cur } l := by
  have hwrite : s.encoderWrite (res.map DispRes.surface) = some () := by
    cases res with
    | none => rfl
    | some r =>
      obtain ⟨x, hx⟩ := Option.isSome_iff_exists.mp (h.live r.surface (List.mem_append_left _ (hres r rfl)))
      simp [Server.encoderWrite, hx]
  by_cases hsame : s.curSurface = res.map DispRes.surface
  · refine ⟨s.heap, s.curSurface, (?_ : s.drawDispRes res = some s), h⟩
    simp [Server.drawDispRes, hwrite, hsame]
  · obtain ⟨heap₁, hold, h₁⟩ := h.unref
    simp only [Server.drawDispRes, hwrite, Option.bind_eq_bind, Option.bind_some, if_neg hsame, hold]
    cases res with
    | none => exact ⟨heap₁, none, rfl, h₁⟩
    | some r =>
      have hmem : r.surface ∈ owned { s with heap := heap₁ } l := List.mem_append_left _ (hres r rfl)
      obtain ⟨heap₂, hnew, h₂⟩ := Counted.ref h₁ hmem
      refine ⟨heap₂, some r.surface, ?_, h₂⟩
      simp only [Option.map_some, hnew, Option.bind_some]

/-! ## Frames -/

/-- An entry of the list is at most as old as the frames displayed since its handle was removed or replaced. -/
def Aged (frameIdx : UInt64) (log : List Event) (l : List (UInt64 × DispRes)) : Prop :=
  ∀ e ∈ l, ∃ k, framesSince e.2.surface log = some k ∧ (frameAge frameIdx e.1).toNat ≤ k

theorem Aged.displayed {frameIdx : UInt64} {log : List Event} (h : Aged frameIdx log l) :
    Aged (frameIdx + 1) (.displayed :: log) l := by
  intro e he
  obtain ⟨k, hk, hage⟩ := h e he
  refine ⟨k + 1, by rw [framesSince, hk, Option.map_some], ?_⟩
  have := frameAge_succ frameIdx e.1
  omega

/-- `retireFrame` destroys an old surface that is not current. -/
theorem Counted.retire {e : UInt64 × DispRes} (h : Counted s (e :: l)) (hcur : s.curSurface ≠ some e.2.surface)
    (hold : ∃ k, framesSince e.2.surface s.log = some k ∧ 30 < k) :
    ∃ heap log, log = .destroyed e.2.surface false false :: s.log ∧
      s.dropSurface e.2.surface = some { s with heap := heap, log := log } ∧
      Counted { s with heap := heap, log := log } l := by
  obtain ⟨heap, log, hlog, hother, heq, howns⟩ := h.toOwns.drop
  rw [decide_eq_false hcur] at hlog
  refine ⟨heap, log, hlog, heq, howns, ?_, ?_, ?_⟩
  · intro p hp
    have hne : p ≠ e.2.surface := by
      rintro rfl
      exact hcur hp
    show ∃ x, heap.cells p = some x ∧ x.refCount = 2
    rw [hother p hne]
    exact h.current p hp
  · intro p hp hpcur
    have hperm : (owned s (e :: l)).Perm (e.2.surface :: owned s l) := List.perm_middle
    have hne : p ≠ e.2.surface := by
      rintro rfl
      exact (List.nodup_cons.mp (hperm.nodup_iff.mp h.nodup)).1 hp
    show ∃ x, heap.cells p = some x ∧ x.refCount = 1
    rw [hother p hne]
    exact h.others p (hperm.mem_iff.mpr (List.mem_cons_of_mem _ hp)) hpcur
  · rw [hlog]
    refine h.orderly.cons fun p registered current hev => ?_
    cases hev
    exact ⟨rfl, rfl, hold⟩

/-- The id `retireFrame` compares with: that of the current surface, if there is one. -/
theorem currEncodeID_eq (h : ∀ p, s.curSurface = some p → ∃ x, s.heap.cells p = some x ∧ x.refCount = 2) :
    ∃ id, s.currEncodeID = some id ∧
      ∀ p x, s.curSurface = some p → s.heap.cells p = some x → id = x.vaSurfaceID := by
  unfold Server.currEncodeID
  cases hcur : s.curSurface with
  | none => exact ⟨vaInvalidSurface, rfl, by simp⟩
  | some q =>
    obtain ⟨x, hx, -⟩ := h q hcur
    refine ⟨x.vaSurfaceID, by simp [hx], ?_⟩
    rintro p y ⟨rfl⟩ hy
    rw [hx] at hy
    cases hy
    rfl

/-- One entry: it stays, its surface is destroyed, or it goes and the surface stays (the id is that of the current
surface). -/
theorem retireEntry_keeps {e : UInt64 × DispRes} (h : Counted s (e :: l)) (ha : Aged s.frameIdx s.log (e :: l)) :
    ∃ heap log kept, s.retireEntry e = some ({ s with heap := heap, log := log }, kept) ∧
      Counted { s with heap := heap, log := log } (kept.toList ++ l) ∧ Aged s.frameIdx log (kept.toList ++ l) := by
  have hal : Aged s.frameIdx s.log l := fun e' he' => ha e' (List.mem_cons_of_mem _ he')
  obtain ⟨k, hk, hage⟩ := ha e List.mem_cons_self
  have hmem : e.2.surface ∈ owned s (e :: l) := List.mem_append_right _ List.mem_cons_self
  obtain ⟨x, hx⟩ := Option.isSome_iff_exists.mp (h.live e.2.surface hmem)
  unfold Server.retireEntry
  by_cases hold : frameAge s.frameIdx e.1 > 30
  · rw [if_pos hold]
    have h30 : 30 < k := by
      have := UInt64.lt_iff_toNat_lt.mp hold
      have h30' : (30 : UInt64).toNat = 30 := rfl
      omega
    obtain ⟨id, hid, hcur⟩ := currEncodeID_eq h.current
    simp only [hx, hid, Option.bind_eq_bind, Option.bind_some]
    by_cases hne : x.vaSurfaceID ≠ id
    · rw [if_pos hne]
      obtain ⟨heap, log, hlog, hdrop, hcounted⟩ :=
        h.retire (fun hc => hne (hcur e.2.surface x hc hx).symm) ⟨k, hk, h30⟩
      refine ⟨heap, log, none, ?_, hcounted, ?_⟩
      · rw [hdrop, Option.bind_some]
      · intro e' he'
        rw [hlog, framesSince]
        exact hal e' he'
    · rw [if_neg hne]
      exact ⟨s.heap, s.log, none, rfl, h.forget, hal⟩
  · rw [if_neg hold]
    refine ⟨s.heap, s.log, some (resFrameIdx s.frameIdx e.1, e.2), rfl, h.reown (List.Perm.refl _), ?_⟩
    intro e' he'
    rcases List.mem_cons.mp he' with rfl | he'
    · refine ⟨k, hk, ?_⟩
      rw [frameAge_resFrameIdx]
      exact hage
    · exact hal e' he'

theorem retireEntries_keeps :
    ∀ (es done : List (UInt64 × DispRes)) (s : Server H), Counted s (done ++ es) →
      Aged s.frameIdx s.log (done ++ es) →
      ∃ heap log kept, s.retireEntries es = some ({ s with heap := heap, log := log }, kept) ∧
        Counted { s with heap := heap, log := log } (done ++ kept) ∧ Aged s.frameIdx log (done ++ kept)
  | [], done, s, h, ha => ⟨s.heap, s.log, [], rfl, h, ha⟩
  | e :: es, done, s, h, ha => by
    have hperm : (e :: (done ++ es)).Perm (done ++ e :: es) := List.perm_middle.symm
    have ha₀ : Aged s.frameIdx s.log (e :: (done ++ es)) := fun e' he' => ha e' (hperm.mem_iff.mp he')
    obtain ⟨heap₁, log₁, kept₁, heq₁, h₁, ha₁⟩ := retireEntry_keeps (h.perm hperm) ha₀
    have hperm₁ : ((done ++ kept₁.toList) ++ es).Perm (kept₁.toList ++ (done ++ es)) := by
      rw [← List.append_assoc]
      exact List.perm_append_comm.append_right es
    have ha₁' : Aged s.frameIdx log₁ ((done ++ kept₁.toList) ++ es) := fun e' he' => ha₁ e' (hperm₁.mem_iff.mp he')
    obtain ⟨heap₂, log₂, kept₂, heq₂, h₂, ha₂⟩ :=
      retireEntries_keeps es (done ++ kept₁.toList) _ (h₁.perm hperm₁) ha₁'
    refine ⟨heap₂, log₂, kept₁.toList ++ kept₂, ?_, ?_, ?_⟩
    · simp only [Server.retireEntries, heq₁, heq₂, Option.bind_eq_bind, Option.bind_some]
    · rw [← List.append_assoc]
      exact h₂
    · rw [← List.append_assoc]
      exact ha₂

/-- The invariant between two commands. -/
def Inv (s : Server H) : Prop := Counted s s.deletedReses ∧ Aged s.frameIdx s.log s.deletedReses

theorem Inv.retireFrame (h : Inv s) : ∃ s', s.retireFrame = some s' ∧ Inv s' ∧ s'.dispReses = s.dispReses := by
  obtain ⟨heap, log, kept, heq, hcounted, haged⟩ := retireEntries_keeps s.deletedReses [] s h.1 h.2
  refine ⟨{ s with heap := heap, log := log, deletedReses := kept }, ?_, ⟨?_, haged⟩, rfl⟩
  · simp only [Server.retireFrame, heq, Option.bind_eq_bind, Option.bind_some]
  · exact hcounted.reown (List.Perm.refl _)

/-- A new surface is in nobody's way. -/
theorem Inv.alloc (h : Inv s) (a : Surface) : Inv { s with heap := s.heap.alloc a } := by
  obtain ⟨hcounted, haged⟩ := h
  have hcells : ∀ p, p < s.heap.next → (s.heap.alloc a).cells p = s.heap.cells p :=
    fun p hp => Heap.alloc_ne (Nat.ne_of_lt hp)
  have hlive : ∀ p x, s.heap.cells p = some x → (s.heap.alloc a).cells p = some x := by
    intro p x hx
    rw [hcells p (Heap.lt_next (by rw [hx]; rfl)), hx]
  refine ⟨⟨⟨hcounted.nodup, ?_, ?_, hcounted.once, hcounted.registered⟩, ?_, ?_, hcounted.orderly⟩, haged⟩
  · intro p hp
    obtain ⟨x, hx⟩ := Option.isSome_iff_exists.mp (hcounted.live p hp)
    exact Option.isSome_iff_exists.mpr ⟨x, hlive p x hx⟩
  · intro p hp
    obtain ⟨hlt, hnone⟩ := hcounted.dead p hp
    exact ⟨Nat.lt_succ_of_lt hlt, (hcells p hlt).trans hnone⟩
  · intro p hp
    obtain ⟨x, hx, hcount⟩ := hcounted.current p hp
    exact ⟨x, hlive p x hx, hcount⟩
  · intro p hp hcur
    obtain ⟨x, hx, hcount⟩ := hcounted.others p hp hcur
    exact ⟨x, hlive p x hx, hcount⟩

theorem Inv.init : Inv (Server.init : Server H) := by
  refine ⟨⟨⟨?_, ?_, ?_, ?_, ?_⟩, ?_, ?_, Orderly.nil⟩, ?_⟩ <;>
    simp [Server.init, owned, surfaces, destroyed, Aged]

/-- `flushDelayDelRes` destroys what is left on the list, the current surface too. -/
theorem Owns.flush : ∀ (es : List (UInt64 × DispRes)) (s : Server H), Owns s es →
    ∃ s', s.flushEntries es = some s' ∧ Owns s' []
  | [], s, h => ⟨s, rfl, h⟩
  | e :: es, s, h => by
    obtain ⟨heap, log, -, -, hdrop, hrest⟩ := h.drop
    obtain ⟨s', heq, h'⟩ := Owns.flush es _ hrest
    refine ⟨s', ?_, h'⟩
    simp only [Server.flushEntries, hdrop, Option.bind_eq_bind, Option.bind_some]
    exact heq

end

/-! ## Commands -/

section
variable {H : Type} [DecidableEq H] {s : Server H} {handle : H}

/-- From the map to the list: the surface stays owned. -/
theorem unregister_owned {res : Option DispRes} (hl : s.dispReses.lookup handle = some res) :
    (owned (s.unregister handle res) (s.unregister handle res).deletedReses).Perm (owned s s.deletedReses) := by
  have herase := (surfaces_erase hl).symm
  cases res with
  | none => exact herase.append_right _
  | some r =>
    simp only [owned, Server.unregister, Server.destroyDispRes, List.map_append, List.map_cons, List.map_nil]
    rw [← List.append_assoc]
    exact (List.perm_append_singleton _ _).trans (herase.append_right _)

/-- Its frames count from now. -/
theorem Inv.unregister {res : Option DispRes} (h : Inv s) (hl : s.dispReses.lookup handle = some res) :
    Inv (s.unregister handle res) := by
  obtain ⟨hcounted, haged⟩ := h
  have hperm := unregister_owned hl
  cases res with
  | none => exact ⟨hcounted.reown hperm, haged⟩
  | some r =>
    refine ⟨Counted.log (hcounted.reown hperm) (by simp), ?_⟩
    intro e he
    rcases List.mem_append.mp he with he | he
    · -- another surface than the one that joins the list
      have hne : r.surface ≠ e.2.surface :=
        hcounted.nodup.rel_of_mem_append (mem_surfaces hl) (List.mem_map_of_mem he)
      show ∃ k, framesSince e.2.surface (.unregistered r.surface :: s.log) = some k ∧ _
      rw [framesSince, if_neg hne]
      exact haged e he
    · obtain rfl := List.mem_singleton.mp he
      refine ⟨0, ?_, ?_⟩
      · show framesSince r.surface (.unregistered r.surface :: s.log) = some 0
        rw [framesSince, if_pos rfl]
      · show (frameAge s.frameIdx s.frameIdx).toNat ≤ 0
        simp

theorem Inv.removeBuffer (h : Inv s) (handle : H) : Inv (s.removeBuffer handle) := by
  unfold Server.removeBuffer
  split
  · exact h
  · exact h
  · rename_i dispRes hl
    exact h.unregister hl

/-- `CreateBuffer` up to the `insert`: the handle is free, and nothing new is owned. -/
theorem Inv.destroyOld (h : Inv s) (handle : H) :
    Inv (s.destroyOld handle) ∧ handle ∉ (s.destroyOld handle).dispReses ∧
      (s.destroyOld handle).heap = s.heap ∧ (s.destroyOld handle).curSurface = s.curSurface ∧
      owned (s.destroyOld handle) (s.destroyOld handle).deletedReses ⊆ owned s s.deletedReses := by
  unfold Server.destroyOld
  cases hl : s.dispReses.lookup handle with
  | none => exact ⟨h, AList.lookup_eq_none.mp hl, rfl, rfl, List.Subset.refl _⟩
  | some old =>
    refine ⟨h.unregister hl, ?_, ?_, ?_, (unregister_owned hl).subset⟩
    · exact fun hmem => (AList.mem_erase.mp hmem).1 rfl
    · cases old <;> rfl
    · cases old <;> rfl

theorem Inv.register {p : Nat} {x : Surface} (h : Inv s) (hh : handle ∉ s.dispReses)
    (hp : p ∉ owned s s.deletedReses) (hcur : s.curSurface ≠ some p) (hx : s.heap.cells p = some x)
    (hcount : x.refCount = 1) : Inv { s with dispReses := s.dispReses.insert handle (some ⟨p⟩) } := by
  obtain ⟨hcounted, haged⟩ := h
  have howned : owned { s with dispReses := s.dispReses.insert handle (some ⟨p⟩) } s.deletedReses =
      p :: owned s s.deletedReses := by
    rw [owned, surfaces_insert hh]
    rfl
  refine ⟨⟨⟨?_, ?_, hcounted.dead, hcounted.once, hcounted.registered⟩, hcounted.current, ?_, hcounted.orderly⟩,
    haged⟩
  · rw [howned]
    exact List.nodup_cons.mpr ⟨hp, hcounted.nodup⟩
  · intro q hq
    rw [howned] at hq
    rcases List.mem_cons.mp hq with rfl | hq
    · exact Option.isSome_iff_exists.mpr ⟨x, hx⟩
    · exact hcounted.live q hq
  · intro q hq hne
    rw [howned] at hq
    rcases List.mem_cons.mp hq with rfl | hq
    · exact ⟨x, hx, hcount⟩
    · exact hcounted.others q hq hne

theorem Inv.createBuffer (h : Inv s) (handle : H) (vaSurface : Option UInt32) :
    Inv (s.createBuffer handle vaSurface) := by
  cases vaSurface with
  | none =>
    obtain ⟨hinv, hfree, -, -, -⟩ := h.destroyOld handle
    refine ⟨hinv.1.reown ?_, hinv.2⟩
    rw [owned, surfaces_insert hfree]
    exact List.Perm.refl _
  | some id =>
    obtain ⟨hinv, hfree, hheap, hcur, hsub⟩ := (h.alloc ⟨id, 1⟩).destroyOld handle
    refine hinv.register hfree ?_ ?_ (by rw [hheap]; exact Heap.alloc_self) rfl
    · intro hmem
      exact Nat.lt_irrefl _ (Heap.lt_next (h.1.live _ (hsub hmem)))
    · intro hc
      rw [hcur] at hc
      obtain ⟨x, hx, -⟩ := h.1.current _ hc
      exact Nat.lt_irrefl _ (Heap.lt_next (by rw [hx]; rfl))

theorem Inv.displayRequest (h : Inv s) (handle : H) : ∃ s', s.displayRequest handle = some s' ∧ Inv s' := by
  unfold Server.displayRequest
  cases hl : s.dispReses.lookup handle with
  | none => exact ⟨s, rfl, h⟩
  | some dispRes =>
    have hbegin : Counted s.beginFrame s.deletedReses := h.1.reown (List.Perm.refl _)
    obtain ⟨heap, cur, heq, hdraw⟩ := hbegin.draw fun r hr => mem_surfaces (hl.trans (congrArg some hr))
    have hshown : Inv { s.beginFrame with heap := heap, curSurface := cur, log := .displayed :: s.log } :=
      ⟨hdraw.log (by simp), h.2.displayed⟩
    obtain ⟨s', hret, hinv, -⟩ := hshown.retireFrame
    refine ⟨s', ?_, hinv⟩
    simp only [heq, Option.bind_eq_bind, Option.bind_some]
    exact hret

theorem Inv.commandHandler (h : Inv s) (cmd : Command H) : ∃ s', s.commandHandler cmd = some s' ∧ Inv s' := by
  cases cmd with
  | frameCreate handle vaSurface => exact ⟨_, rfl, h.createBuffer handle vaSurface⟩
  | frameRemove handle => exact ⟨_, rfl, h.removeBuffer handle⟩
  | frameDisplay handle => exact h.displayRequest handle

/-! ## Whole runs -/

theorem Inv.run : ∀ (cmds : List (Command H)) (s : Server H), Inv s →
    ∃ s', cmds.foldlM Server.commandHandler s = some s' ∧ Inv s'
  | [], s, h => ⟨s, rfl, h⟩
  | cmd :: cmds, s, h => by
    obtain ⟨s₁, heq₁, h₁⟩ := h.commandHandler cmd
    obtain ⟨s₂, heq₂, h₂⟩ := Inv.run cmds s₁ h₁
    refine ⟨s₂, ?_, h₂⟩
    rw [List.foldlM_cons, heq₁]
    exact heq₂

/-- The loop of `deinit`. -/
theorem Inv.unregisterAll : ∀ (entries : List (Σ _ : H, Option DispRes)) (s : Server H),
    s.dispReses.entries = entries → Inv s →
    Inv (entries.foldl (fun s e => s.unregister e.1 e.2) s)
  | [], _, _, h => h
  | e :: entries, s, hentries, h => by
    have hl : s.dispReses.lookup e.1 = some e.2 := by
      refine AList.mem_lookup_iff.mpr ?_
      rw [hentries]
      exact List.mem_cons_self
    refine Inv.unregisterAll entries (s.unregister e.1 e.2) ?_ (h.unregister hl)
    show List.kerase e.1 s.dispReses.entries = entries
    rw [hentries, List.kerase_cons_eq rfl]

/-- `deinit` and the destructor of the renderer touch no destroyed surface either. -/
theorem Inv.teardown (h : Inv s) : ∃ s', s.teardown = some s' ∧ Owns s' [] := by
  obtain ⟨s₁, hdeinit, h₁, -⟩ := (Inv.unregisterAll s.dispReses.entries s rfl h).retireFrame
  obtain ⟨s₂, hflush, h₂⟩ := Owns.flush s₁.deletedReses s₁ h₁.1.toOwns
  refine ⟨{ s₂ with deletedReses := [] }, ?_, h₂.reown (List.Perm.refl _)⟩
  rw [Server.teardown, Server.deinit, hdeinit]
  simp only [Server.flushDelayDelRes, Option.bind_eq_bind, Option.bind_some, hflush]

/-- **Surfaces are destroyed once, and late enough.** No sequence of commands, and neither the `deinit` after it nor
the destructor of the renderer, touches a destroyed surface; none is destroyed twice or while it is registered; and
before `deinit` a surface is destroyed only when it is not the current one and more than 30 frames were displayed
since its handle was removed or replaced. -/
theorem display_surfaces_safe (cmds : List (Command H)) :
    ∃ s s', Server.run cmds = some s ∧ s.teardown = some s' ∧
      (destroyed s'.log).Nodup ∧
      (∀ p registered current, Event.destroyed p registered current ∈ s'.log → registered = false) ∧
      Orderly s.log := by
  obtain ⟨s, hrun, hinv⟩ := Inv.run cmds Server.init Inv.init
  obtain ⟨s', htear, howns⟩ := hinv.teardown
  exact ⟨s, s', hrun, htear, howns.once, howns.registered, hinv.1.orderly⟩

/-- A surface that was current when its handle was removed goes with the 31st frame after that. -/
example : ((Server.run ([.frameCreate 0 (some 7), .frameDisplay 0, .frameCreate 1 (some 8), .frameRemove 0] ++
    List.replicate 31 (.frameDisplay 1)) : Option (Server Nat)).map fun s => destroyed s.log) = some [0] := by
  decide +kernel

end

end CloudStreaming.Display
