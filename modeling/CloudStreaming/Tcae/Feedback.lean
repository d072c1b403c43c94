import CloudStreaming.Tcae.Session

/-!
# What `PredictEncSettings` feeds to `NetPred` (`enc_frame_settings_predictor.cpp:202-343`)

Feedback and sent bitstreams are cached in two queues by different threads, at different rates. One
`PredictEncSettings` pairs them up in order, pads the shorter queue and empties both (`drain_updates`). Over a
whole life of the object, sessions ended by `Stop` included, the updates made account for every accepted
feedback and every sent bitstream (`feedback_consumed_once`).

| here | there |
| --- | --- |
| `Update`              | one call of `NetPred::UpdateSizeAndDelay` |
| `Update.feedback`     | the call of the first loop (`:318`); `none`: no bitstream size was left |
| `Update.sizeOnly`     | the call of the second loop (`:337`) |
| `Act`                 | `Start`, `Stop` or one critical section of another call |
| `Ledger.accepted`     | not in the source: the feedback cached since the last `Stop` |
| `Ledger.sent`         | not in the source: the bitstream sizes cached since the last `Stop` |
| `Ledger.made`         | not in the source: the updates made since the last `Stop` |
| `Ledger.discarded`    | not in the source: sizes popped while `m_validFeedback` was false |
-/

namespace CloudStreaming.Tcae.Predictor

open Runs NetPred

variable {K : Type} [Field K] [LinearOrder K]

/-! ## The updates two queues stand for -/

inductive Update where
  | feedback (transmittedSize : UInt32) (bitstreamSize : Option UInt32) (delayInMs : UInt32)
  | sizeOnly (lastTransmittedSize bitstreamSize : UInt32)
  deriving DecidableEq, Repr

namespace Update

def apply (m : CMath K) (np : NetPred K) : Update → NetPred K
  | .feedback s b d => np.updateSizeAndDelay m s (b.getD 0) (d.toNat : K)
  | .sizeOnly s b => np.updateSizeAndDelay m s b (-1)

/-- The feedback record an update consumes. -/
def stat : Update → Option (UInt32 × UInt32)
  | .feedback s _ d => some (s, d)
  | .sizeOnly _ _ => none

/-- The bitstream size an update consumes. -/
def size : Update → Option UInt32
  | .feedback _ b _ => b
  | .sizeOnly _ b => some b

end Update

/-- The size without feedback is paired with: that of the newest record, or the one of an earlier call when no
record is cached (or the newest has no delay). -/
def lastSize (p : Predictor K) : UInt32 :=
  match p.cachedNetworkStats.getLast? with
  | some x => if x.2 ≠ 0 then x.1 else p.lastTransmittedSize
  | none => p.lastTransmittedSize

/-- The `i`-th record with the `i`-th size, then the sizes left if there ever was feedback. -/
def updates (p : Predictor K) : List Update :=
  p.cachedNetworkStats.mapIdx (fun i x => .feedback x.1 p.cachedBitstreamSize[i]? x.2) ++
    if p.validFeedback then (p.cachedBitstreamSize.drop p.cachedNetworkStats.length).map (.sizeOnly p.lastSize) else []

/-! ## The two loops -/

theorem feedStats_updates (m : CMath K) (stats : List (UInt32 × UInt32)) (sizes : List UInt32) (last : UInt32 × UInt32)
    (np : NetPred K) :
    (feedStats m stats sizes last np).1 =
      (stats.mapIdx fun i x => Update.feedback x.1 sizes[i]? x.2).foldl (Update.apply m) np := by
  induction stats generalizing sizes last np with
  | nil => rfl
  | cons x stats ih =>
    rw [feedStats, ih, List.mapIdx_cons, List.foldl_cons]
    have hhead : sizes.headD 0 = (sizes[0]?).getD 0 := by cases sizes <;> rfl
    simp only [Update.apply, hhead, List.getElem?_tail]

theorem feedStats_sizes (m : CMath K) (stats : List (UInt32 × UInt32)) (sizes : List UInt32) (last : UInt32 × UInt32)
    (np : NetPred K) : (feedStats m stats sizes last np).2.1 = sizes.drop stats.length := by
  induction stats generalizing sizes last np with
  | nil => simp [feedStats]
  | cons x stats ih => simp [feedStats, ih]

theorem feedBitstreams_updates (m : CMath K) (valid : Bool) (last : UInt32) (sizes : List UInt32) (np : NetPred K) :
    feedBitstreams m valid last sizes np =
      (if valid then sizes.map (Update.sizeOnly last) else []).foldl (Update.apply m) np := by
  cases valid with
  | true =>
    simp only [feedBitstreams, if_true, List.foldl_map]
    rfl
  | false =>
    induction sizes with
    | nil => rfl
    | cons b sizes ih => exact ih

variable [FloorRing K]

theorem drain_lastTransmittedSize {K : Type} [Field K] [LinearOrder K]
    (m : CMath K) (p : Predictor K) (np : NetPred K) :
    (p.drain m np).1.lastTransmittedSize = p.lastSize := by
  simp only [drain, feedStats_last, lastSize]
  cases p.cachedNetworkStats.getLast? with
  | none => simp
  | some x => rfl

/-- The locked part feeds `NetPred` the updates the queues stand for. -/
theorem drain_updates {K : Type} [Field K] [LinearOrder K] (m : CMath K) (p : Predictor K) (np : NetPred K) :
    (p.drain m np).2 = p.updates.foldl (Update.apply m) np := by
  rw [updates, List.foldl_append, ← feedStats_updates m _ _ (0, 0), ← feedStats_sizes m _ _ (0, 0) np,
    ← feedBitstreams_updates, ← drain_lastTransmittedSize m p np]
  rfl

/-- A prediction on a running object: the updates of the queues, in order, and both queues empty. -/
theorem predictEncSettings_consumes (m : CMath K) (p : Predictor K) (np : NetPred K) (settings : FrameSettings)
    (hrun : p.networkPredictor = some np) :
    let q := (p.predictEncSettings m (some settings)).1
    q.networkPredictor = some (p.updates.foldl (Update.apply m) np) ∧ q.cachedNetworkStats = [] ∧
      q.cachedBitstreamSize = [] ∧ q.validFeedback = p.validFeedback ∧ q.lastTransmittedSize = p.lastSize := by
  rw [← drain_updates, ← drain_lastTransmittedSize m p np]
  simp only [predictEncSettings_running m p np settings hrun, predictEncSettingsImpl]
  split
  · exact ⟨rfl, rfl, rfl, rfl, rfl⟩
  · split
    · exact ⟨rfl, rfl, rfl, rfl, rfl⟩
    · exact ⟨rfl, rfl, rfl, rfl, rfl⟩

/-! ## What the updates consume -/

theorem updates_stats {K : Type} (p : Predictor K) : p.updates.filterMap Update.stat = p.cachedNetworkStats := by
  have hpaired : ∀ (stats : List (UInt32 × UInt32)) (sizes : ℕ → Option UInt32),
      (stats.mapIdx fun i x => Update.feedback x.1 (sizes i) x.2).filterMap Update.stat = stats := by
    intro stats
    induction stats with
    | nil => intro sizes; rfl
    | cons x stats ih =>
      intro sizes
      rw [List.mapIdx_cons, List.filterMap_cons]
      simp [Update.stat, ih]
  have hrest : ∀ (last : UInt32) (sizes : List UInt32), (sizes.map (Update.sizeOnly last)).filterMap Update.stat = [] := by
    intro last sizes
    rw [List.filterMap_map]
    exact List.filterMap_eq_nil_iff.mpr fun _ _ => rfl
  rw [updates, List.filterMap_append, hpaired]
  cases p.validFeedback with
  | true => rw [if_pos rfl, hrest, List.append_nil]
  | false => simp

theorem paired_sizes (stats : List (UInt32 × UInt32)) (sizes : List UInt32) :
    (stats.mapIdx fun i x => Update.feedback x.1 sizes[i]? x.2).filterMap Update.size = sizes.take stats.length := by
  induction stats generalizing sizes with
  | nil => simp
  | cons x stats ih =>
    rw [List.mapIdx_cons, List.filterMap_cons]
    cases sizes with
    | nil => simpa [Update.size] using ih []
    | cons b sizes => simpa [Update.size] using ih sizes

/-- Once there was feedback, every cached size is consumed, in order. -/
theorem updates_sizes {K : Type} (p : Predictor K) (hv : p.validFeedback = true) :
    p.updates.filterMap Update.size = p.cachedBitstreamSize := by
  have hrest : Update.size ∘ Update.sizeOnly p.lastSize = some := rfl
  rw [updates, List.filterMap_append, paired_sizes, if_pos hv, List.filterMap_map, hrest, List.filterMap_some,
    List.take_append_drop]

/-- Without any feedback yet, nothing is fed. -/
theorem updates_none {K : Type} (p : Predictor K) (hv : p.validFeedback = false) (hs : p.cachedNetworkStats = []) :
    p.updates = [] := by
  simp [updates, hv, hs]

/-! ## Whole lives of the object -/

inductive Act (K : Type) where
  | start (steady : Bool) (params : Option TcaeInitParams)
  | stop
  | critical (sec : Section K)

structure Ledger (K : Type) where
  pred : Predictor K
  accepted : List (UInt32 × UInt32)
  sent : List UInt32
  made : List Update
  discarded : List UInt32
  /-- Feedback was accepted since the object was built; `Stop` does not forget it. -/
  seen : Bool

namespace Ledger

def new : Ledger K := ⟨Predictor.new, [], [], [], [], false⟩

/-- A critical section of a running object. -/
def critical (m : CMath K) (l : Ledger K) : Section K → Ledger K
  | .requestIdr idrRequired => { l with pred := l.pred.requestIdr idrRequired }
  | .cacheStats data =>
    { l with
      pred := l.pred.cacheStats data
      accepted := if validData data then
          l.accepted ++ [(data.transmittedDataSizeInBytes, delayMs data.lastPacketDelayInUs)]
        else l.accepted
      seen := l.seen || validData data }
  | .bitstreamSent bts =>
    let r := l.pred.bitstreamSent (some bts)
    { l with pred := r.1, sent := if r.2 = .errNone then l.sent ++ [bts.frameSizeInBytes] else l.sent }
  | .setFps fps => { l with pred := (l.pred.setFps fps).1 }
  | .predictEncSettings settings =>
    { l with
      pred := (l.pred.predictEncSettings m (some settings)).1
      made := l.made ++ l.pred.updates
      discarded := if l.pred.validFeedback then l.discarded
        else l.discarded ++ l.pred.cachedBitstreamSize.drop l.pred.cachedNetworkStats.length }

/-- `CHECK_POINTER(m_NetworkPredictor, ..)` sends every call but `Start` back from a stopped object. -/
def step (m : CMath K) (l : Ledger K) : Act K → Ledger K
  | .start steady params => { l with pred := (l.pred.start steady params).1 }
  | .stop => if l.pred.networkPredictor.isNone then l else ⟨l.pred.stop.1, [], [], [], [], l.seen⟩
  | .critical sec => if l.pred.networkPredictor.isNone then l else l.critical m sec

def run (m : CMath K) (acts : List (Act K)) : Ledger K := acts.foldl (step m) new

/-- What was accepted is what was fed to `NetPred`, in order, and what is still cached. -/
structure Accounted (l : Ledger K) : Prop where
  stats : l.accepted = l.made.filterMap Update.stat ++ l.pred.cachedNetworkStats
  sizes : l.sent = l.discarded ++ l.made.filterMap Update.size ++ l.pred.cachedBitstreamSize
  valid : l.pred.validFeedback = l.seen
  /-- Sizes are discarded only before the first feedback: nothing was fed by then. -/
  unfed : l.seen = false → l.made = [] ∧ l.pred.cachedNetworkStats = []
  delays : ∀ x ∈ l.pred.cachedNetworkStats, x.2 ≠ 0
  /-- `m_lastTransmittedSize` is the size of the last feedback fed. -/
  last : l.pred.lastTransmittedSize = ((l.made.filterMap Update.stat).getLast?.map Prod.fst).getD 0

/-- A call that leaves the queues and the last size alone keeps the account. -/
theorem Accounted.of_same {K : Type} {l : Ledger K} (h : Accounted l) {q : Predictor K}
    (hstats : q.cachedNetworkStats = l.pred.cachedNetworkStats)
    (hsizes : q.cachedBitstreamSize = l.pred.cachedBitstreamSize) (hvalid : q.validFeedback = l.pred.validFeedback)
    (hlast : q.lastTransmittedSize = l.pred.lastTransmittedSize) : Accounted { l with pred := q } where
  stats := by simp only [hstats]; exact h.stats
  sizes := by simp only [hsizes]; exact h.sizes
  valid := hvalid.trans h.valid
  unfed := by simp only [hstats]; exact h.unfed
  delays := by simp only [hstats]; exact h.delays
  last := hlast.trans h.last

theorem Accounted.cacheStats {l : Ledger K} (h : Accounted l) (m : CMath K) (data : PerFrameNetworkData) :
    Accounted (l.critical m (.cacheStats data)) := by
  by_cases hv : validData data = true
  · simp only [critical, Predictor.cacheStats, hv, if_true, Bool.or_true]
    refine ⟨?_, h.sizes, rfl, fun hs => absurd hs (by simp), fun x hx => ?_, h.last⟩
    · simp only [h.stats, List.append_assoc]
    · rcases List.mem_append.mp hx with hx | hx
      · exact h.delays x hx
      · rw [List.mem_singleton.mp hx]
        exact delayMs_ne_zero data hv
  · simp only [critical, Predictor.cacheStats, hv, Bool.or_false]
    exact h

theorem Accounted.bitstreamSent {l : Ledger K} (h : Accounted l) (m : CMath K) (bts : EncodedFrameFeedback)
    (hrun : l.pred.networkPredictor ≠ none) : Accounted (l.critical m (.bitstreamSent bts)) := by
  obtain ⟨np, hnp⟩ := Option.ne_none_iff_exists'.mp hrun
  simp only [critical, Predictor.bitstreamSent, hnp]
  split
  · exact h.of_same rfl rfl rfl rfl
  · refine ⟨h.stats, ?_, h.valid, h.unfed, h.delays, h.last⟩
    simp [h.sizes]

/-- The newest record fed is the last size from then on. -/
theorem Accounted.lastSize {K : Type} {l : Ledger K} (h : Accounted l) :
    l.pred.lastSize = ((l.accepted).getLast?.map Prod.fst).getD 0 := by
  rw [h.stats, List.getLast?_append]
  cases hl : l.pred.cachedNetworkStats.getLast? with
  | none =>
    simp only [Predictor.lastSize, hl]
    exact h.last
  | some x =>
    have hx : x.2 ≠ 0 := h.delays x (List.mem_of_getLast? hl)
    simp [Predictor.lastSize, hl, hx]

theorem Accounted.predict {l : Ledger K} (h : Accounted l) (m : CMath K) (settings : FrameSettings)
    (hrun : l.pred.networkPredictor ≠ none) : Accounted (l.critical m (.predictEncSettings settings)) := by
  obtain ⟨np, hnp⟩ := Option.ne_none_iff_exists'.mp hrun
  obtain ⟨-, hstats, hsizes, hvalid, hlast⟩ := predictEncSettings_consumes m l.pred np settings hnp
  have haccepted : l.accepted = (l.made ++ l.pred.updates).filterMap Update.stat := by
    rw [List.filterMap_append, updates_stats]
    exact h.stats
  constructor
  case stats => simp only [critical, hstats, List.append_nil]; exact haccepted
  case sizes =>
    simp only [critical, hsizes, List.append_nil, List.filterMap_append]
    rw [h.sizes]
    cases hv : l.pred.validFeedback with
    | true => simp [updates_sizes l.pred hv]
    | false =>
      obtain ⟨hmade, hnone⟩ := h.unfed (h.valid.symm.trans hv)
      simp [updates_none l.pred hv hnone, hmade, hnone]
  case valid => exact hvalid.trans h.valid
  case unfed =>
    intro hs
    obtain ⟨hmade, hnone⟩ := h.unfed hs
    refine ⟨?_, hstats⟩
    simp only [critical, hmade, updates_none l.pred (h.valid.trans hs) hnone, List.append_nil]
  case delays => simp only [critical, hstats]; simp
  case last =>
    simp only [critical]
    rw [hlast, h.lastSize, haccepted]

theorem Accounted.critical {l : Ledger K} (h : Accounted l) (m : CMath K) (sec : Section K)
    (hrun : l.pred.networkPredictor ≠ none) : Accounted (l.critical m sec) := by
  cases sec with
  | requestIdr b => exact h.of_same rfl rfl rfl rfl
  | cacheStats data => exact h.cacheStats m data
  | bitstreamSent bts => exact h.bitstreamSent m bts hrun
  | setFps fps =>
    obtain ⟨np, hnp⟩ := Option.ne_none_iff_exists'.mp hrun
    simp only [Ledger.critical, Predictor.setFps, hnp]
    split <;> exact h.of_same rfl rfl rfl rfl
  | predictEncSettings settings => exact h.predict m settings hrun

/-- `Start` writes the parameters only. -/
theorem Accounted.start {K : Type} [Field K]
    {l : Ledger K} (h : Accounted l) (steady : Bool) (params : Option TcaeInitParams) :
    Accounted { l with pred := (l.pred.start steady params).1 } := by
  simp only [Predictor.start]
  split
  · exact h.of_same rfl rfl rfl rfl
  · cases params with
    | none => exact h.of_same rfl rfl rfl rfl
    | some params =>
      simp only [Predictor.startImpl]
      iterate 7 (split; · exact h.of_same rfl rfl rfl rfl)
      exact h.of_same rfl rfl rfl rfl

theorem Accounted.step {l : Ledger K} (h : Accounted l) (m : CMath K) (act : Act K) : Accounted (l.step m act) := by
  cases act with
  | start steady params => exact h.start steady params
  | stop =>
    simp only [Ledger.step]
    split
    · exact h
    · rename_i hrun
      simp only [Predictor.stop, hrun]
      refine ⟨rfl, rfl, h.valid, fun _ => ⟨rfl, rfl⟩, ?_, rfl⟩
      simp
  | critical sec =>
    simp only [Ledger.step]
    split
    · exact h
    · rename_i hrun
      exact h.critical m sec (by simpa [Option.isNone_iff_eq_none] using hrun)

theorem run_accounted (m : CMath K) (acts : List (Act K)) : Accounted (run m acts) := by
  refine foldl_inv (fun l act h => h.step m act) acts new ⟨rfl, rfl, rfl, fun _ => ⟨rfl, rfl⟩, ?_, rfl⟩
  simp [new, Predictor.new]

end Ledger

/-- One `PredictEncSettings` call makes exactly the updates of the queues and empties both; on a stopped object
it does nothing. -/
def Consumes (m : CMath K) (p : Predictor K) (settings : FrameSettings) : Prop :=
  match p.networkPredictor with
  | none => p.predictEncSettings m (some settings) = (p, .error .errNotInitialized)
  | some np =>
    let q := (p.predictEncSettings m (some settings)).1
    q.networkPredictor = some (p.updates.foldl (Update.apply m) np) ∧ q.cachedNetworkStats = [] ∧
      q.cachedBitstreamSize = []

/-- **Feedback is consumed once and in order**: every call feeds `NetPred` the updates its queues stand for and
empties them; over any life of the object the updates made, with what is still cached, are the accepted
feedback and the sent bitstreams; and after a call that predicts nothing is left behind. -/
theorem feedback_consumed_once (m : CMath K) :
    (∀ (p : Predictor K) (settings : FrameSettings), p.Consumes m settings) ∧
    (∀ acts : List (Act K), (Ledger.run m acts).Accounted) ∧
    (∀ (acts : List (Act K)) (settings : FrameSettings), (Ledger.run m acts).pred.networkPredictor ≠ none →
      let l := Ledger.run m (acts ++ [.critical (.predictEncSettings settings)])
      l.accepted = l.made.filterMap Update.stat ∧ l.sent = l.discarded ++ l.made.filterMap Update.size) := by
  refine ⟨fun p settings => ?_, Ledger.run_accounted m, fun acts settings hrun => ?_⟩
  · unfold Consumes
    cases hnp : p.networkPredictor with
    | none => simp [predictEncSettings, hnp]
    | some np =>
      obtain ⟨h1, h2, h3, -⟩ := predictEncSettings_consumes m p np settings hnp
      exact ⟨h1, h2, h3⟩
  · intro l
    obtain ⟨np, hnp⟩ := Option.ne_none_iff_exists'.mp hrun
    have hl : l.pred = ((Ledger.run m acts).pred.predictEncSettings m (some settings)).1 := by
      simp only [l, Ledger.run, List.foldl_append, List.foldl_cons, List.foldl_nil]
      simp only [Ledger.run] at hnp
      simp [Ledger.step, Ledger.critical, hnp]
    obtain ⟨-, hstats, hsizes, -⟩ := predictEncSettings_consumes m _ np settings hnp
    have hacc := Ledger.run_accounted m (acts ++ [.critical (.predictEncSettings settings)])
    refine ⟨hacc.stats.trans ?_, hacc.sizes.trans ?_⟩
    · show _ ++ l.pred.cachedNetworkStats = _
      rw [hl, hstats, List.append_nil]
    · show _ ++ l.pred.cachedBitstreamSize = _
      rw [hl, hsizes, List.append_nil]

/-- A started object with one feedback: one prediction feeds it. -/
theorem feedback_consumed_session :
    let acts : List (Act ℝ) := [.start true (some sessionParams), .critical (.cacheStats ⟨5000, 1500, false⟩)]
    (Ledger.run realMath acts).pred.networkPredictor ≠ none ∧
    let l := Ledger.run realMath (acts ++ [.critical (.predictEncSettings ⟨0, 0, false⟩)])
    l.accepted = [(1500, 5)] ∧ l.accepted = l.made.filterMap Update.stat := by
  intro acts
  obtain ⟨-, np, hnp⟩ := start_session (new : Predictor ℝ) rfl
  have hv : validData ⟨5000, 1500, false⟩ = true := by decide
  have hrun : (Ledger.run realMath acts).pred.networkPredictor ≠ none := by
    simp [acts, Ledger.run, Ledger.step, Ledger.new, Ledger.critical, cacheStats, hv, hnp]
  refine ⟨hrun, ?_, ((feedback_consumed_once realMath).2.2 acts ⟨0, 0, false⟩ hrun).1⟩
  have hd : delayMs 5000 = 5 := by decide
  simp [acts, Ledger.run, Ledger.step, Ledger.new, Ledger.critical, cacheStats, hv, hnp, hd]

end CloudStreaming.Tcae.Predictor
