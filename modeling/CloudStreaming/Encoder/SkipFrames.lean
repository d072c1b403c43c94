import CloudStreaming.Lib.Runs
import Mathlib.Algebra.BigOperators.Group.List.Basic
import Mathlib.Data.List.Induction
import Mathlib.Tactic.Linarith
import Mathlib.Tactic.Ring

/-!
# Skip-frame accounting (`encoder/shared/CTransCoder.cpp:1332-1378`, with `FFMPEG_v42`)

At a constant frame rate a frame is due every `frame_mcs` microseconds. `updateFrameSkipped` runs before each frame is
encoded and tells the encoder how many frame intervals went by without one since it was told last. It counts in cycles
of a second; a cycle starts where `m_startTimestampUS` is set.

| here | there |
| --- | --- |
| `beginCall`, `countSkips`, `endCall` | the three parts of `updateFrameSkipped` |
| `CTransCoder.nFrameskipped`          | what `dynamicSetEncParameters` hands to the encoder (`:1322`) |
| `Cycle`      | not in the source: when the cycle began, the frames since, and what their calls reported |

The counts are `int` and `delta` is 64 bits wide there; a cycle is over after three seconds, and they are exact here.
-/

namespace CloudStreaming.Encoder.SkipFrames

structure CTransCoder where
  bSkipFrame : Bool := false
  nTotalFrameskipped : Int := 0
  nFrameskipped : Int := 0
  nFrameEncoded : Int := 0
  startTimestampUS : Int := 0
  curTimestampUS : Int := 0
  deriving DecidableEq, Repr

/-- There is no cycle yet, or it began three seconds ago (`:1348`). -/
def CTransCoder.stale (s : CTransCoder) (timestamp : Int) : Bool :=
  s.startTimestampUS == 0 || decide (timestamp - s.startTimestampUS ≥ 3000000)

def beginCall (s : CTransCoder) (timestamp : Int) : CTransCoder :=
  if s.stale timestamp then
    { s with curTimestampUS := timestamp, startTimestampUS := timestamp, nFrameEncoded := 0, nTotalFrameskipped := 0 }
  else
    { s with curTimestampUS := timestamp, nFrameEncoded := s.nFrameEncoded + 1 }

def countSkips (frame_mcs : Int) (s : CTransCoder) : CTransCoder :=
  let delta := s.curTimestampUS - (s.startTimestampUS + s.nFrameEncoded * frame_mcs)
  let skipped := if delta > 0 then delta.tdiv frame_mcs - s.nTotalFrameskipped else 0
  { s with nFrameskipped := skipped, nTotalFrameskipped := s.nTotalFrameskipped + skipped }

/-- The cycle has lasted a second (`:1369`). -/
def CTransCoder.full (s : CTransCoder) : Bool := decide (s.curTimestampUS - s.startTimestampUS ≥ 1000000)

def endCall (s : CTransCoder) : CTransCoder :=
  if s.full then { s with startTimestampUS := s.curTimestampUS, nFrameEncoded := 0, nTotalFrameskipped := 0 } else s

/-- `updateFrameSkipped` at the time `timestamp` (`CTransCoder.cpp:1332`). -/
def updateFrameSkipped (frame_mcs : Int) (s : CTransCoder) (timestamp : Int) : CTransCoder :=
  if s.bSkipFrame then endCall (countSkips frame_mcs (beginCall s timestamp)) else s

/-! ## The calls of a cycle -/

/-- One call, as seen from outside: when it was, the start of its cycle, the frames since, and the skips it reported. -/
structure Call where
  time : Int
  start : Int
  encoded : Int
  skipped : Int
  deriving DecidableEq, Repr

/-- Whole frame intervals elapsed minus the frames encoded. -/
def Call.excess (frame_mcs : Int) (c : Call) : Int := (c.time - c.start) / frame_mcs - c.encoded

def reported (cycle : List Call) : Int := (cycle.map Call.skipped).sum

/-- The largest excess over the calls of a cycle, 0 if it is never positive. -/
def peak (frame_mcs : Int) (cycle : List Call) : Int := (cycle.map (Call.excess frame_mcs)).foldl max 0

/-- The cycle as it is counted by the times alone; it began at 0 if there is none. -/
structure Cycle where
  start : Int
  frames : Int
  calls : List Call
  deriving DecidableEq, Repr

/-- A frame is one more of its cycle, or the one that begins the next, after three seconds. -/
def Cycle.next (c : Cycle) (timestamp : Int) : Cycle :=
  if c.start = 0 ∨ 3000000 ≤ timestamp - c.start then ⟨timestamp, 0, []⟩ else { c with frames := c.frames + 1 }

def Cycle.report (c : Cycle) (timestamp skipped : Int) : Cycle :=
  { c with calls := c.calls ++ [⟨timestamp, c.start, c.frames, skipped⟩] }

/-- After a second the next cycle begins. -/
def Cycle.close (c : Cycle) (timestamp : Int) : Cycle :=
  if 1000000 ≤ timestamp - c.start then ⟨timestamp, 0, []⟩ else c

/-- A transcoder and the cycle it is in. -/
abbrev Tracked := CTransCoder × Cycle

/-- The cycle with the call at `timestamp`. -/
def cycleThrough (frame_mcs : Int) (p : Tracked) (timestamp : Int) : Cycle :=
  (p.2.next timestamp).report timestamp (updateFrameSkipped frame_mcs p.1 timestamp).nFrameskipped

def track (frame_mcs : Int) (p : Tracked) (timestamp : Int) : Tracked :=
  (updateFrameSkipped frame_mcs p.1 timestamp, (cycleThrough frame_mcs p timestamp).close timestamp)

/-- Skipping is on and no call was made. -/
def start : Tracked := ({ bSkipFrame := true }, ⟨0, 0, []⟩)

/-- The call reports no negative number, and the cycle has reported its largest excess. -/
def Accounted (frame_mcs : Int) (p : Tracked) (timestamp : Int) : Prop :=
  0 ≤ (updateFrameSkipped frame_mcs p.1 timestamp).nFrameskipped ∧
    reported (cycleThrough frame_mcs p timestamp).calls = peak frame_mcs (cycleThrough frame_mcs p timestamp).calls

instance (F : Int) (p : Tracked) (t : Int) : Decidable (Accounted F p t) := inferInstanceAs (Decidable (_ ∧ _))

/-- The frame is on time, or it comes after all the intervals that are to be reported before it: it does not fall among
them. -/
def Timely (frame_mcs : Int) (p : Tracked) (timestamp : Int) : Prop :=
  let c := p.2.next timestamp
  timestamp ≤ c.start + c.frames * frame_mcs ∨ c.start + (c.frames + peak frame_mcs c.calls) * frame_mcs ≤ timestamp

instance (F : Int) (p : Tracked) (t : Int) : Decidable (Timely F p t) := inferInstanceAs (Decidable (_ ∨ _))

section
variable {F t : Int} {cycle : List Call} {c : Call}

@[simp] theorem reported_append : reported (cycle ++ [c]) = reported cycle + c.skipped := by
  simp [reported]

@[simp] theorem peak_append : peak F (cycle ++ [c]) = max (peak F cycle) (c.excess F) := by
  simp [peak]

@[simp] theorem beginCall_cur (s : CTransCoder) : (beginCall s t).curTimestampUS = t := by
  unfold beginCall
  split <;> rfl

@[simp] theorem beginCall_bSkipFrame (s : CTransCoder) : (beginCall s t).bSkipFrame = s.bSkipFrame := by
  unfold beginCall
  split <;> rfl

@[simp] theorem endCall_nFrameskipped (s : CTransCoder) : (endCall s).nFrameskipped = s.nFrameskipped := by
  unfold endCall
  split <;> rfl

@[simp] theorem endCall_bSkipFrame (s : CTransCoder) : (endCall s).bSkipFrame = s.bSkipFrame := by
  unfold endCall
  split <;> rfl

theorem updateFrameSkipped_of_on {s : CTransCoder} (h : s.bSkipFrame = true) :
    updateFrameSkipped F s t = endCall (countSkips F (beginCall s t)) := by
  simp [updateFrameSkipped, h]

/-- Skipping stays on, the transcoder counts the cycle, and its total is what the cycle has reported, which is its
largest excess. -/
structure Inv (F : Int) (p : Tracked) : Prop where
  on : p.1.bSkipFrame = true
  start : p.1.startTimestampUS = p.2.start
  frames : p.1.nFrameEncoded = p.2.frames
  total : p.1.nTotalFrameskipped = reported p.2.calls
  largest : reported p.2.calls = peak F p.2.calls

theorem inv_start : Inv F start := ⟨rfl, rfl, rfl, rfl, rfl⟩

theorem zero_le_peak (F : Int) (cycle : List Call) : 0 ≤ peak F cycle := by
  induction cycle using List.reverseRecOn with
  | nil => exact le_rfl
  | append_singleton cycle c ih =>
    rw [peak_append]
    exact le_max_of_le_left ih

variable {p : Tracked}

/-- The beginning of the call counts the frame, or begins a cycle without a total. -/
theorem Inv.beginCall (h : Inv F p) :
    (beginCall p.1 t).startTimestampUS = (p.2.next t).start ∧ (beginCall p.1 t).nFrameEncoded = (p.2.next t).frames ∧
      (beginCall p.1 t).nTotalFrameskipped = reported (p.2.next t).calls ∧
      reported (p.2.next t).calls = peak F (p.2.next t).calls := by
  have hstale : p.1.stale t = true ↔ p.2.start = 0 ∨ 3000000 ≤ t - p.2.start := by
    simp [CTransCoder.stale, h.start]
  unfold SkipFrames.beginCall Cycle.next
  by_cases hs : p.1.stale t = true
  · rw [if_pos hs, if_pos (hstale.mp hs)]
    exact ⟨rfl, rfl, rfl, rfl⟩
  · rw [if_neg hs, if_neg (mt hstale.mpr hs)]
    exact ⟨h.start, congrArg (· + 1) h.frames, h.total, h.largest⟩

/-- The time past the due date of the frame, in whole intervals, is the excess. -/
theorem excess_eq (hF : 0 < F) : c.excess F = (c.time - (c.start + c.encoded * F)) / F := by
  have hsplit : c.time - (c.start + c.encoded * F) = (c.time - c.start) + -c.encoded * F := by ring
  rw [hsplit, Int.add_mul_ediv_right _ _ (ne_of_gt hF)]
  rfl

/-- Of a late frame: it comes after the intervals reported exactly when its excess is no less than their number. -/
theorem le_excess_iff (hF : 0 < F) (total : Int) :
    total ≤ c.excess F ↔ c.start + (c.encoded + total) * F ≤ c.time := by
  rw [excess_eq hF, Int.le_ediv_iff_mul_le hF]
  constructor
  · intro h
    linarith
  · intro h
    linarith

theorem excess_nonpos (hF : 0 < F) (h : c.time ≤ c.start + c.encoded * F) : c.excess F ≤ 0 := by
  rw [excess_eq hF]
  exact Int.ediv_nonpos_of_nonpos_of_neg (by omega) hF

/-- The call at `t`, as the cycle has it. -/
def thisCall (F : Int) (p : Tracked) (t : Int) : Call :=
  ⟨t, (p.2.next t).start, (p.2.next t).frames, (updateFrameSkipped F p.1 t).nFrameskipped⟩

/-- What a call reports, in terms of its excess. -/
theorem thisCall_skipped (hF : 0 < F) (h : Inv F p) :
    (thisCall F p t).skipped =
      if t > (thisCall F p t).start + (thisCall F p t).encoded * F then
        (thisCall F p t).excess F - reported (p.2.next t).calls
      else 0 := by
  obtain ⟨hstart, hframes, htotal, -⟩ := h.beginCall (t := t)
  have hskip : (thisCall F p t).skipped = (countSkips F (beginCall p.1 t)).nFrameskipped := by
    rw [← endCall_nFrameskipped, ← updateFrameSkipped_of_on h.on]
    rfl
  rw [hskip, excess_eq hF]
  simp only [countSkips, beginCall_cur, hstart, hframes, htotal]
  by_cases hlate : t > (thisCall F p t).start + (thisCall F p t).encoded * F
  · have hpos : t - ((p.2.next t).start + (p.2.next t).frames * F) > 0 := Int.sub_pos_of_lt hlate
    rw [if_pos hlate, if_pos hpos, Int.tdiv_eq_ediv_of_nonneg hpos.le]
    rfl
  · have hneg : ¬ t - ((p.2.next t).start + (p.2.next t).frames * F) > 0 := fun h => hlate (Int.lt_of_sub_pos h)
    rw [if_neg hlate, if_neg hneg]

/-- The exact condition for one call. -/
theorem accounted_iff_timely (hF : 0 < F) (h : Inv F p) : Accounted F p t ↔ Timely F p t := by
  obtain ⟨-, -, -, hpeak⟩ := h.beginCall (t := t)
  have hnonneg := zero_le_peak F (p.2.next t).calls
  have hskip := thisCall_skipped (t := t) hF h
  have htimely : Timely F p t ↔ t ≤ (thisCall F p t).start + (thisCall F p t).encoded * F ∨
      peak F (p.2.next t).calls ≤ (thisCall F p t).excess F := by
    rw [le_excess_iff hF]
    rfl
  have hcalls : (cycleThrough F p t).calls = (p.2.next t).calls ++ [thisCall F p t] := rfl
  show 0 ≤ (thisCall F p t).skipped ∧ _ ↔ _
  rw [htimely, hcalls, reported_append, peak_append, ← hpeak]
  rw [← hpeak] at hnonneg
  by_cases hlate : t > (thisCall F p t).start + (thisCall F p t).encoded * F
  · rw [if_pos hlate] at hskip
    rw [hskip]
    constructor
    · rintro ⟨hnn, -⟩
      exact Or.inr (by omega)
    · rintro (hle | hge)
      · exact absurd hle (not_le.mpr hlate)
      · refine ⟨by omega, ?_⟩
        rw [max_eq_right hge]
        omega
  · -- a frame on time reports nothing and has no excess
    rw [if_neg hlate] at hskip
    have hexcess := excess_nonpos (c := thisCall F p t) hF (not_lt.mp hlate)
    rw [hskip]
    refine ⟨fun _ => Or.inl (not_lt.mp hlate), fun _ => ⟨le_rfl, ?_⟩⟩
    rw [max_eq_left (hexcess.trans hnonneg)]
    omega

/-- A call that is accounted for keeps the invariant, also where it ends the cycle. -/
theorem track_inv (h : Inv F p) (hacc : Accounted F p t) : Inv F (track F p t) := by
  obtain ⟨hstart, hframes, htotal, -⟩ := h.beginCall (t := t)
  have hupdate := updateFrameSkipped_of_on (F := F) (t := t) h.on
  have hthrough : (cycleThrough F p t).start = (p.2.next t).start ∧ (cycleThrough F p t).frames = (p.2.next t).frames :=
    ⟨rfl, rfl⟩
  have hreported : reported (cycleThrough F p t).calls =
      reported (p.2.next t).calls + (countSkips F (beginCall p.1 t)).nFrameskipped := by
    show reported ((p.2.next t).calls ++ [thisCall F p t]) = _
    rw [reported_append]
    show _ + (updateFrameSkipped F p.1 t).nFrameskipped = _
    rw [hupdate, endCall_nFrameskipped]
  have hon : (updateFrameSkipped F p.1 t).bSkipFrame = true := by
    rw [hupdate, endCall_bSkipFrame]
    simpa [countSkips] using h.on
  have hfull : (countSkips F (beginCall p.1 t)).full = true ↔ 1000000 ≤ t - (cycleThrough F p t).start := by
    rw [hthrough.1, ← hstart]
    simp [CTransCoder.full, countSkips]
  unfold track Cycle.close
  rw [hupdate, endCall]
  rw [hupdate, endCall] at hon
  by_cases hf : (countSkips F (beginCall p.1 t)).full = true
  · rw [if_pos hf] at hon ⊢
    rw [if_pos (hfull.mp hf)]
    exact ⟨hon, by simp [countSkips], rfl, rfl, rfl⟩
  · rw [if_neg hf] at hon ⊢
    rw [if_neg (mt hfull.mpr hf)]
    refine ⟨hon, hstart, hframes, ?_, hacc.2⟩
    rw [hreported, ← htotal]
    rfl

end

/-- **Skip accounting.** In a run with skipping on, every call reports no negative number and every cycle its largest
excess, exactly when no frame falls among the intervals that its cycle has already reported as skipped; the cycle, its frames
and the condition are read off the times. -/
theorem run_accounted_iff_timely (frame_mcs : Int) (hF : 0 < frame_mcs) (times : List Int) :
    Runs.Meets (track frame_mcs) (Accounted frame_mcs) start times ↔
      Runs.Meets (track frame_mcs) (Timely frame_mcs) start times := by
  refine Runs.meets_iff (I := Inv frame_mcs) ?_ ?_ times start inv_start
  · intro p t h
    exact accounted_iff_timely hF h
  · intro p t h ht
    exact track_inv h ((accounted_iff_timely hF h).mpr ht)

/-- Fifty frames a second with a gap of five intervals. -/
theorem run_accounted_gap :
    (0 : Int) < 20000 ∧
      (Runs.Meets (track 20000) (Accounted 20000) start [1000000, 1020000, 1120000, 1140000] ↔
        Runs.Meets (track 20000) (Timely 20000) start [1000000, 1020000, 1120000, 1140000]) ∧
      Runs.Meets (track 20000) (Timely 20000) start [1000000, 1020000, 1120000, 1140000] :=
  ⟨by decide, run_accounted_iff_timely 20000 (by decide) _, by decide⟩

/-- A frame right behind a late one: the third call takes a skip back. -/
theorem burst_takes_skip_back :
    [1000000, 1100000, 1100001].Pairwise (· ≤ · : Int → Int → Prop) ∧
      ¬ Runs.Meets (track 20000) (Accounted 20000) start [1000000, 1100000, 1100001] ∧
      ([1000000, 1100000, 1100001].foldl (track 20000) start).1.nFrameskipped = -1 := by
  decide

end CloudStreaming.Encoder.SkipFrames
