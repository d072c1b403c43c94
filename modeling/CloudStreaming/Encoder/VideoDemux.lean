import CloudStreaming.Lib.Runs

/-!
# `CIrrVideoDemux`: handing frames and display controls to the encoder (`encoder/shared/CIrrVideoDemux.cpp`)

One slot. Every `sendPacket` overwrites the frame; a `display_ctrl` is only replaced by a newer one, "to avoid missing
ctrl SEI" (`:237-238`), and `readPacket` moves it out. `readPacket` returns early, without touching the control, when
the slot holds no valid buffer (`:168-177`). It does not look at the result of `av_packet_ref` (`:187`): when that fails
the control is moved into the caller's packet all the same, and `CTransCoder::processInput` drops that packet on any
negative result (`CTransCoder.cpp:619-632`).

| here | there |
| --- | --- |
| `enterReadPacket`  | `readPacket` up to where it gives the lock away: the sleep (`:127`) or `wait_for` (`:147`) |
| `readPacket`       | the rest, in one critical section; a call that does not wait takes the two steps in a row |
| `ref`, `now`       | the results of `av_packet_ref` and `av_gettime_relative` |
| `log`              | not in the source: what was sent and what was read, newest first, as `step` records it |

`wait_for` returns its predicate, so both modes read `m_notified` when they have the lock again. Left out: the
profiling timers and the dump of the input, which read the packet and write nothing of it.
-/

namespace CloudStreaming.Encoder

open Runs

/-- An `AVPacket` as the demuxer reads it: `none` is a null `buf`, `some none` one with null `data`. -/
structure AvPacket (F : Type) where
  buf : Option (Option F)
  pts : Int

/-- `struct IrrPacket` (`CDemux.h:26`); the control is a `unique_ptr`. -/
structure IrrPacket (F C : Type) where
  avPkt : AvPacket F
  displayCtrl : Option C

inductive DemuxEvent (C : Type) where
  | sent (displayCtrl : Option C)
  | read (ret : Int) (displayCtrl : Option C)

/-- A `readPacket` that gave the lock away: its mode and how long it waits. -/
structure WaitingRead where
  renderFpsEnc : Bool
  waitMcs : Int

structure VideoDemux (F C : Type) where
  pkt : IrrPacket F C
  prevPts : Int
  totalWaitMcs : Int
  stop : Bool
  notified : Bool
  waiting : List WaitingRead
  log : List (DemuxEvent C)

/-- `NEW_FRAME_WAIT_TIMEOUT_MCS` (`CIrrVideoDemux.h:35`). -/
def newFrameWaitTimeoutMcs : Int := 1000000
/-- `AVERROR_INVALIDDATA`. -/
def averrorInvalidData : Int := -1094995529

namespace VideoDemux

variable {F C : Type}

/-- The constructor (`:33`): the control of its packet is expected to be null and not taken. -/
def new (pkt : AvPacket F) : VideoDemux F C where
  pkt := ⟨pkt, none⟩
  prevPts := 0
  totalWaitMcs := 0
  stop := false
  notified := false
  waiting := []
  log := []

/-- `sendPacket` (`:225`). -/
def sendPacket (d : VideoDemux F C) (pkt : IrrPacket F C) : VideoDemux F C :=
  { d with
    pkt :=
      { avPkt := pkt.avPkt
        displayCtrl := if pkt.displayCtrl.isSome then pkt.displayCtrl else d.pkt.displayCtrl }
    notified := true }

/-- `readPacket` up to its wait (`:89-147`), `frameMcs` being the time of one frame. -/
def enterReadPacket (d : VideoDemux F C) (renderFpsEnc : Bool) (minFpsEnc frameMcs currMcs : Int) : VideoDemux F C :=
  let waitMcs :=
    if renderFpsEnc then (if minFpsEnc ≠ 0 then Int.tdiv 1000000 minFpsEnc else newFrameWaitTimeoutMcs)
    else max (frameMcs - (currMcs - d.prevPts)) 0
  { d with waiting := d.waiting ++ [⟨renderFpsEnc, waitMcs⟩] }

/-- The wait is accounted for (`:128`, `:149-165`). -/
def countWait (d : VideoDemux F C) (w : WaitingRead) : VideoDemux F C :=
  let total := if d.notified || d.stop then 0 else d.totalWaitMcs + w.waitMcs
  { d with totalWaitMcs := if total ≥ newFrameWaitTimeoutMcs then 0 else total }

/-- `readPacket` after its wait (`:167-222`): its result and the caller's packet. -/
def readPacket (d : VideoDemux F C) (w : WaitingRead) (ref now : Int) (irrpkt : IrrPacket F C) :
    VideoDemux F C × Int × IrrPacket F C :=
  let d := d.countWait w
  match d.pkt.avPkt.buf with
  | some (some _) =>
    -- a failed `av_packet_ref` leaves the destination blank; the control is moved either way
    let out : IrrPacket F C :=
      { avPkt := { (if 0 ≤ ref then d.pkt.avPkt else ⟨none, 0⟩) with pts := now }, displayCtrl := d.pkt.displayCtrl }
    ({ d with
        pkt := { d.pkt with displayCtrl := none }
        prevPts := now
        notified := false }, ref, out)
  | _ => ({ d with notified := false }, averrorInvalidData, irrpkt)

/-- One critical section. `readPacket i` ends the `i`-th waiting call. -/
inductive Op (F C : Type) where
  | sendPacket (pkt : IrrPacket F C)
  | enterReadPacket (renderFpsEnc : Bool) (minFpsEnc frameMcs currMcs : Int)
  | readPacket (i : Nat) (ref now : Int) (irrpkt : IrrPacket F C)
  | stop

/-- The call that ends in this step, if there is one. -/
def ending (d : VideoDemux F C) : Op F C → Option (VideoDemux F C × Int × IrrPacket F C)
  | .readPacket i ref now irrpkt =>
    d.waiting[i]?.map fun w => { d with waiting := d.waiting.eraseIdx i }.readPacket w ref now irrpkt
  | _ => none

def step (d : VideoDemux F C) (o : Op F C) : VideoDemux F C :=
  match o with
  | .sendPacket pkt => { d.sendPacket pkt with log := .sent pkt.displayCtrl :: d.log }
  | .enterReadPacket renderFpsEnc minFpsEnc frameMcs currMcs => d.enterReadPacket renderFpsEnc minFpsEnc frameMcs currMcs
  | .readPacket _ _ _ _ =>
    match d.ending o with
    | some r => { r.1 with log := .read r.2.1 r.2.2.displayCtrl :: d.log }
    | none => d
  | .stop => { d with stop := true }

/-! ## What the hand-off should do -/

/-- The control a reader is owed: the last one sent, unless it was delivered since. Packets without a control and
failing reads leave it. -/
def due : List (DemuxEvent C) → Option C
  | [] => none
  | .sent (some c) :: _ => some c
  | .sent none :: log => due log
  | .read ret c :: log => if 0 ≤ ret ∧ c.isSome then none else due log

def sentCtrl : DemuxEvent C → Option C
  | .sent c => c
  | .read _ _ => none

def deliveredCtrl : DemuxEvent C → Option C
  | .sent _ => none
  | .read ret c => if 0 ≤ ret then c else none

/-- The controls sent and the controls delivered by successful reads, oldest first. -/
def sent (log : List (DemuxEvent C)) : List C := (log.filterMap sentCtrl).reverse
def delivered (log : List (DemuxEvent C)) : List C := (log.filterMap deliveredCtrl).reverse

/-- A step of the hand-off: a successful read delivers the control that is due, the slot holds the one that is due
afterwards, and no control is delivered twice. -/
def HandsOff (d : VideoDemux F C) (o : Op F C) : Prop :=
  (∀ r ∈ d.ending o, 0 ≤ r.2.1 → r.2.2.displayCtrl = due d.log) ∧
    (d.step o).pkt.displayCtrl = due (d.step o).log ∧
    (delivered (d.step o).log).Sublist (sent (d.step o).log)

/-- The test of `:168`, the other way round. -/
def holdsFrame (d : VideoDemux F C) : Bool := (d.pkt.avPkt.buf.bind id).isSome

/-- A read that takes a pending control out of the slot gets its reference to the frame. -/
def RefSucceeds (d : VideoDemux F C) : Op F C → Prop
  | .readPacket i ref _ _ =>
    i < d.waiting.length → d.holdsFrame = true → d.pkt.displayCtrl.isSome = true → 0 ≤ ref
  | _ => True

/-! ## One step -/

/-- The slot holds what is due, and it comes after everything delivered. -/
structure HandOffInv (d : VideoDemux F C) : Prop where
  due : d.pkt.displayCtrl = due d.log
  order : (delivered d.log ++ d.pkt.displayCtrl.toList).Sublist (sent d.log)

theorem HandOffInv.delivered_sublist {d : VideoDemux F C} (h : d.HandOffInv) :
    (delivered d.log).Sublist (sent d.log) :=
  (List.sublist_append_left _ _).trans h.order

theorem HandOffInv.frame {d e : VideoDemux F C} (h : d.HandOffInv) (hc : e.pkt.displayCtrl = d.pkt.displayCtrl)
    (hl : e.log = d.log) : e.HandOffInv :=
  ⟨by rw [hc, hl]; exact h.due, by rw [hc, hl]; exact h.order⟩

/-- A read of a slot without a frame leaves the control. -/
theorem readPacket_invalid (d : VideoDemux F C) (w : WaitingRead) (ref now : Int) (irrpkt : IrrPacket F C)
    (h : d.holdsFrame = false) :
    let r := d.readPacket w ref now irrpkt
    r.1.pkt.displayCtrl = d.pkt.displayCtrl ∧ r.2.1 = averrorInvalidData ∧ r.2.2 = irrpkt := by
  intro r
  have hb : ∀ f, (d.countWait w).pkt.avPkt.buf ≠ some (some f) := by
    intro f hf
    have hf' : d.pkt.avPkt.buf = some (some f) := hf
    simp [holdsFrame, hf'] at h
  show (d.readPacket w ref now irrpkt).1.pkt.displayCtrl = _ ∧ (d.readPacket w ref now irrpkt).2.1 = _ ∧
    (d.readPacket w ref now irrpkt).2.2 = _
  unfold readPacket
  dsimp only
  split
  · rename_i f hf
    exact absurd hf (hb f)
  · exact ⟨rfl, rfl, rfl⟩

/-- A read of a frame moves the control out, whatever `av_packet_ref` says. -/
theorem readPacket_frame (d : VideoDemux F C) (w : WaitingRead) (ref now : Int) (irrpkt : IrrPacket F C)
    (h : d.holdsFrame = true) :
    let r := d.readPacket w ref now irrpkt
    r.1.pkt.displayCtrl = none ∧ r.2.1 = ref ∧ r.2.2.displayCtrl = d.pkt.displayCtrl := by
  intro r
  obtain ⟨f, hf⟩ : ∃ f, d.pkt.avPkt.buf = some (some f) := by
    unfold holdsFrame at h
    cases hb : d.pkt.avPkt.buf with
    | none => simp [hb] at h
    | some b =>
      cases b with
      | none => simp [hb] at h
      | some f => exact ⟨f, rfl⟩
  have hf' : (d.countWait w).pkt.avPkt.buf = some (some f) := hf
  show (d.readPacket w ref now irrpkt).1.pkt.displayCtrl = _ ∧ (d.readPacket w ref now irrpkt).2.1 = _ ∧
    (d.readPacket w ref now irrpkt).2.2.displayCtrl = _
  unfold readPacket
  dsimp only
  rw [hf']
  exact ⟨rfl, rfl, rfl⟩

theorem sendPacket_inv {d : VideoDemux F C} (h : d.HandOffInv) (pkt : IrrPacket F C) :
    (d.step (.sendPacket pkt)).HandOffInv := by
  have hs : sent (d.step (.sendPacket pkt)).log = sent d.log ++ pkt.displayCtrl.toList := reverse_filterMap_cons _ _ _
  have hd : delivered (d.step (.sendPacket pkt)).log = delivered d.log := rfl
  cases hc : pkt.displayCtrl with
  | none =>
    have hctrl : (d.step (.sendPacket pkt)).pkt.displayCtrl = d.pkt.displayCtrl := by simp [step, sendPacket, hc]
    refine ⟨?_, ?_⟩
    · rw [hctrl, h.due]
      simp [step, hc, VideoDemux.due]
    · rw [hs, hd, hctrl, hc]
      simpa using h.order
  | some c =>
    have hctrl : (d.step (.sendPacket pkt)).pkt.displayCtrl = some c := by simp [step, sendPacket, hc]
    refine ⟨?_, ?_⟩
    · rw [hctrl]
      simp [step, hc, VideoDemux.due]
    · rw [hs, hd, hctrl, hc]
      exact List.Sublist.append h.delivered_sublist (List.Sublist.refl _)

/-- The end of a waiting call: what it does, and the line it adds to the log. -/
theorem step_readPacket (d : VideoDemux F C) {i : Nat} {w : WaitingRead} (hw : d.waiting[i]? = some w) (ref now : Int)
    (irrpkt : IrrPacket F C) :
    let r := { d with waiting := d.waiting.eraseIdx i }.readPacket w ref now irrpkt
    d.step (.readPacket i ref now irrpkt) = { r.1 with log := .read r.2.1 r.2.2.displayCtrl :: d.log } := by
  simp [step, ending, hw]

theorem delivered_read (ret : Int) (c : Option C) (log : List (DemuxEvent C)) :
    delivered (.read ret c :: log) = delivered log ++ (if 0 ≤ ret then c else none).toList :=
  reverse_filterMap_cons _ _ _

theorem sent_read (ret : Int) (c : Option C) (log : List (DemuxEvent C)) : sent (.read ret c :: log) = sent log := rfl

/-- The end of a `readPacket` keeps the invariant if its reference succeeds or nothing was pending. -/
theorem readPacket_inv {d : VideoDemux F C} (h : d.HandOffInv) {i : Nat} {w : WaitingRead} (hw : d.waiting[i]? = some w)
    (ref now : Int) (irrpkt : IrrPacket F C)
    (hc : d.holdsFrame = true → d.pkt.displayCtrl.isSome = true → 0 ≤ ref) :
    (d.step (.readPacket i ref now irrpkt)).HandOffInv := by
  rw [step_readPacket d hw]
  cases hf : d.holdsFrame with
  | false =>
    obtain ⟨hctrl, hret, -⟩ := readPacket_invalid { d with waiting := d.waiting.eraseIdx i } w ref now irrpkt hf
    have hneg : ¬ (0 : Int) ≤ averrorInvalidData := by decide
    refine ⟨?_, ?_⟩
    · rw [hctrl, hret, VideoDemux.due, if_neg (fun h => hneg h.1)]
      exact h.due
    · rw [hctrl, hret, delivered_read, sent_read, if_neg hneg]
      simpa using h.order
  | true =>
    obtain ⟨hctrl, hret, hout⟩ := readPacket_frame { d with waiting := d.waiting.eraseIdx i } w ref now irrpkt hf
    rw [hf] at hc
    refine ⟨?_, ?_⟩
    · rw [hctrl, hret, hout, VideoDemux.due]
      split
      · rfl
      · rename_i hn
        -- nothing was pending, or the read would have succeeded
        rw [← h.due]
        cases hp : d.pkt.displayCtrl with
        | none => rfl
        | some c => exact absurd ⟨hc rfl (by rw [hp]; rfl), by rw [hp]; rfl⟩ hn
    · rw [hctrl, hret, hout, delivered_read, sent_read, Option.toList_none, List.append_nil]
      split
      · exact h.order
      · simpa using h.delivered_sublist

theorem step_inv {d : VideoDemux F C} (o : Op F C) (h : d.HandOffInv) (hc : d.RefSucceeds o) : (d.step o).HandOffInv := by
  cases o with
  | sendPacket pkt => exact sendPacket_inv h pkt
  | enterReadPacket renderFpsEnc minFpsEnc frameMcs currMcs => exact h.frame rfl rfl
  | stop => exact h.frame rfl rfl
  | readPacket i ref now irrpkt =>
    cases hw : d.waiting[i]? with
    | none =>
      have he : d.step (.readPacket i ref now irrpkt) = d := by simp [step, ending, hw]
      rw [he]
      exact h
    | some w => exact readPacket_inv h hw ref now irrpkt (hc (List.getElem?_eq_some_iff.1 hw).1)

/-- A failed reference with a control pending loses the control. -/
theorem refSucceeds_of_handsOff {d : VideoDemux F C} {o : Op F C} (h : d.HandOffInv) (hq : d.HandsOff o) :
    d.RefSucceeds o := by
  cases o with
  | sendPacket pkt => trivial
  | enterReadPacket renderFpsEnc minFpsEnc frameMcs currMcs => trivial
  | stop => trivial
  | readPacket i ref now irrpkt =>
    intro hi hf hp
    by_contra hneg
    have hw : d.waiting[i]? = some d.waiting[i] := List.getElem?_eq_getElem hi
    obtain ⟨hctrl, hret, -⟩ :=
      readPacket_frame { d with waiting := d.waiting.eraseIdx i } d.waiting[i] ref now irrpkt hf
    have hdue := hq.2.1
    rw [step_readPacket d hw, hctrl, hret, VideoDemux.due, if_neg (fun h => hneg h.1)] at hdue
    rw [h.due, show due d.log = none from hdue.symm] at hp
    cases hp

/-- What a successful read hands over is what was in the slot. -/
theorem ending_due {d : VideoDemux F C} (h : d.HandOffInv) (o : Op F C) :
    ∀ r ∈ d.ending o, 0 ≤ r.2.1 → r.2.2.displayCtrl = due d.log := by
  intro r hr hret
  cases o with
  | sendPacket pkt => cases hr
  | enterReadPacket renderFpsEnc minFpsEnc frameMcs currMcs => cases hr
  | stop => cases hr
  | readPacket i ref now irrpkt =>
    obtain ⟨w, -, rfl⟩ := Option.map_eq_some_iff.1 hr
    cases hf : d.holdsFrame with
    | false =>
      obtain ⟨-, hinv, -⟩ := readPacket_invalid { d with waiting := d.waiting.eraseIdx i } w ref now irrpkt hf
      rw [hinv] at hret
      exact absurd hret (by decide)
    | true =>
      obtain ⟨-, -, hout⟩ := readPacket_frame { d with waiting := d.waiting.eraseIdx i } w ref now irrpkt hf
      rw [hout]
      exact h.due

/-! ## Whole runs -/

/-- **The hand-off over every interleaving**: it is right at every step exactly when every read that takes a pending
control out of the slot gets its reference to the frame. -/
theorem handsOff_iff (pkt : AvPacket F) (ops : List (Op F C)) :
    Meets step HandsOff (new pkt) ops ↔ Meets step RefSucceeds (new pkt) ops := by
  refine meets_iff (I := HandOffInv) (fun d o h => ?_) (fun d o h hc => step_inv o h hc) ops _ ⟨rfl, List.Sublist.refl _⟩
  constructor
  · exact fun hq => refSucceeds_of_handsOff h hq
  · intro hc
    have h' := step_inv o h hc
    exact ⟨ending_due h o, h'.due, h'.delivered_sublist⟩

/-- A control sent with a valid frame, and a read whose `av_packet_ref` is out of memory: the control is still due and
no longer in the slot. -/
theorem displayCtrl_lost :
    let ops : List (Op Unit Nat) :=
      [.sendPacket ⟨⟨some (some ()), 0⟩, some 7⟩, .enterReadPacket true 0 0 0, .readPacket 0 (-12) 5 ⟨⟨none, 0⟩, none⟩]
    let d := ops.foldl step (new ⟨none, 0⟩)
    d.pkt.displayCtrl = none ∧ due d.log = some 7 ∧ delivered d.log = [] ∧
      ¬ Meets step HandsOff (new ⟨none, 0⟩) ops := by
  refine ⟨rfl, rfl, rfl, fun h => ?_⟩
  have hdue := h.2.2.1.2.1
  exact absurd hdue (by decide)

end VideoDemux
end CloudStreaming.Encoder
