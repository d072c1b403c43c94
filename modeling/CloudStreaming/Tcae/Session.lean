import CloudStreaming.Lib.Bursts
import CloudStreaming.Tcae.OutputBound

/-!
# Sessions of a started predictor: IDR requests and frame drops (`enc_frame_settings_predictor.cpp:202-387`)

The feedback thread, the encoder's output and the encoder's input call one object. What they exchange is
guarded by `m_inputMutex`, so a session is any sequence of the critical sections: `UpdateNetworkStateImpl`
takes the lock twice, once to *assign* `m_idrRequested` (`:206-212`) and once to cache the statistics
(`:215-228`), and other calls may come between. A call with a null pointer returns before the lock and is
left out.

| here | there |
| --- | --- |
| `Section`            | one critical section of a call |
| `Session.pending`    | not in the source: an IDR request since the last prediction, no IDR bitstream recorded after it |
| `Session.lastDelay`  | not in the source: the delay of the last feedback that was cached |
| `Outcome.idr`        | `insertIDR` of a `PredictEncSettingsImpl` |
| `Outcome.dropped`    | its early return (`:376`) |
-/

namespace CloudStreaming.Tcae.Predictor

open Runs NetPred

variable {K : Type} [Field K] [LinearOrder K]

/-! ## Critical sections -/

/-- `m_idrRequested = idrRequired` (`:211`). -/
def requestIdr (p : Predictor K) (idrRequired : Bool) : Predictor K := { p with idrRequested := idrRequired }

/-- The second half of `UpdateNetworkStateImpl` (`:215-228`). -/
def cacheStats (p : Predictor K) (data : PerFrameNetworkData) : Predictor K :=
  if validData data then
    { p with
      validFeedback := true
      cachedNetworkStats :=
        p.cachedNetworkStats ++ [(data.transmittedDataSizeInBytes, delayMs data.lastPacketDelayInUs)] }
  else p

/-- The two halves make the call. -/
theorem updateNetworkState_halves {K : Type} (p : Predictor K) (np : NetPred K) (data : PerFrameNetworkData)
    (hrun : p.networkPredictor = some np) :
    (p.updateNetworkState (some data)).1 = (p.requestIdr data.idrRequired).cacheStats data := by
  simp only [updateNetworkState, hrun, cacheStats, requestIdr]
  split <;> rfl

inductive Section (K : Type) where
  | requestIdr (idrRequired : Bool)
  | cacheStats (data : PerFrameNetworkData)
  | bitstreamSent (bts : EncodedFrameFeedback)
  | setFps (fps : K)
  | predictEncSettings (settings : FrameSettings)

structure Outcome where
  idr : Bool
  lastDelay : UInt32
  dropped : Bool
  deriving DecidableEq, Repr

structure Session (K : Type) where
  pred : Predictor K
  pending : Bool
  lastDelay : UInt32
  /-- Newest first. -/
  outcomes : List Outcome

/-- An IDR frame type. -/
def isIdr (encFrameType : UInt16) : Bool := decide (encFrameType &&& tcaeFrametypeIdr ≠ 0)

variable [FloorRing K]

namespace Session

def step (m : CMath K) (s : Session K) : Section K → Session K
  | .requestIdr idrRequired =>
    { s with pred := s.pred.requestIdr idrRequired, pending := s.pending || idrRequired }
  | .cacheStats data =>
    { s with
      pred := s.pred.cacheStats data
      lastDelay := if validData data then delayMs data.lastPacketDelayInUs else s.lastDelay }
  | .bitstreamSent bts =>
    let r := s.pred.bitstreamSent (some bts)
    { s with pred := r.1, pending := s.pending && !(decide (r.2 = .errNone) && isIdr bts.encFrameType) }
  | .setFps fps => { s with pred := (s.pred.setFps fps).1 }
  | .predictEncSettings settings =>
    match s.pred.predictEncSettings m (some settings) with
    | (p, .ok d) =>
      { s with
        pred := p
        pending := false
        outcomes := ⟨s.pred.idrRequested, s.lastDelay, d.dropped⟩ :: s.outcomes }
    | (p, .error _) => { s with pred := p }

/-- A session of the object `p`, just started. -/
def run (m : CMath K) (p : Predictor K) (secs : List (Section K)) : Session K :=
  secs.foldl (step m) ⟨p, false, 0, []⟩

/-- A prediction of a running object. -/
theorem step_predict (m : CMath K) (s : Session K) (np : NetPred K) (settings : FrameSettings)
    (hrun : s.pred.networkPredictor = some np) :
    s.step m (.predictEncSettings settings) =
      { s with
        pred := (s.pred.predictEncSettingsImpl m np settings).1
        pending := false
        outcomes :=
          ⟨s.pred.idrRequested, s.lastDelay, (s.pred.predictEncSettingsImpl m np settings).2.dropped⟩ :: s.outcomes } := by
  simp only [step, predictEncSettings_running m s.pred np settings hrun]

/-- No section stops the object. -/
theorem step_running (m : CMath K) (s : Session K) (sec : Section K) (h : s.pred.networkPredictor ≠ none) :
    (s.step m sec).pred.networkPredictor ≠ none := by
  obtain ⟨np, hrun⟩ := Option.ne_none_iff_exists'.mp h
  cases sec with
  | requestIdr b => exact h
  | cacheStats data =>
    simp only [step, cacheStats]
    split <;> exact h
  | bitstreamSent bts => exact input_of_running m s.pred (.bitstreamSent (some bts)) np hrun
  | setFps fps => exact input_of_running m s.pred (.setFps fps) np hrun
  | predictEncSettings settings =>
    rw [step_predict m s np settings hrun]
    show (s.pred.predictEncSettingsImpl m np settings).1.networkPredictor ≠ none
    rw [(predictEncSettingsImpl_cases m s.pred np settings).1]
    exact Option.some_ne_none _

end Session

/-! ## IDR requests -/

theorem isIdr_inserted : isIdr (tcaeFrametypeIdr ||| tcaeFrametypeRef ||| tcaeFrametypeI) = true := by decide

theorem predictEncSettingsImpl_idr (m : CMath K) (p : Predictor K) (np : NetPred K) (settings : FrameSettings) :
    let r := p.predictEncSettingsImpl m np settings
    r.1.idrRequested = false ∧
    (p.idrRequested = true → isIdr r.2.settings.encFrameType = true ∧ r.2.dropped = false) ∧
    (p.idrRequested = false → r.2.settings.encFrameType = settings.encFrameType) := by
  simp only [predictEncSettingsImpl]
  split
  · rename_i hi
    exact ⟨rfl, fun _ => ⟨isIdr_inserted, rfl⟩, fun h => absurd (hi.symm.trans h) (by simp)⟩
  · rename_i hi
    split
    · exact ⟨rfl, fun h => absurd h hi, fun _ => rfl⟩
    · exact ⟨rfl, fun h => absurd h hi, fun _ => rfl⟩

/-- A recorded IDR bitstream answers the request; any other leaves it. -/
theorem bitstreamSent_idr {K : Type} (p : Predictor K) (np : NetPred K) (bts : EncodedFrameFeedback)
    (hrun : p.networkPredictor = some np) :
    (p.bitstreamSent (some bts)).1.idrRequested =
      (p.idrRequested && !(decide ((p.bitstreamSent (some bts)).2 = .errNone) && isIdr bts.encFrameType)) := by
  simp only [bitstreamSent, hrun]
  split
  · simp
  · cases hi : p.idrRequested <;> by_cases ht : bts.encFrameType &&& tcaeFrametypeIdr ≠ 0 <;> simp [isIdr, ht]

namespace Session

/-- A pending request is answered by the next `PredictEncSettings`, whatever settings it is called with. -/
def Served (m : CMath K) (s : Session K) : Prop :=
  s.pending = true → ∀ settings, ∃ d, (s.pred.predictEncSettings m (some settings)).2 = .ok d ∧
    isIdr d.settings.encFrameType = true

/-- No feedback with `idrRequired = false` while a request is pending. -/
def KeepsRequest (s : Session K) : Section K → Prop
  | .requestIdr false => s.pending = false
  | _ => True

/-- `m_idrRequested` is the pending request. -/
structure Requested (s : Session K) : Prop where
  running : s.pred.networkPredictor ≠ none
  flag : s.pred.idrRequested = s.pending

theorem Requested.step {s : Session K} (h : Requested s) (m : CMath K) (sec : Section K) (hk : s.KeepsRequest sec) :
    Requested (s.step m sec) := by
  refine ⟨step_running m s sec h.running, ?_⟩
  obtain ⟨np, hrun⟩ := Option.ne_none_iff_exists'.mp h.running
  cases sec with
  | requestIdr b =>
    cases b with
    | true => simp [Session.step, Predictor.requestIdr]
    | false =>
      have hp : s.pending = false := hk
      simp [Session.step, Predictor.requestIdr, hp]
  | cacheStats data =>
    simp only [Session.step, cacheStats]
    split <;> exact h.flag
  | bitstreamSent bts =>
    simp only [Session.step]
    rw [bitstreamSent_idr s.pred np bts hrun, h.flag]
  | setFps fps =>
    simp only [Session.step, setFps, hrun]
    split <;> exact h.flag
  | predictEncSettings settings =>
    rw [step_predict m s np settings hrun]
    exact (predictEncSettingsImpl_idr m s.pred np settings).1

theorem Requested.served {s : Session K} (h : Requested s) (m : CMath K) : s.Served m := by
  intro hp settings
  obtain ⟨np, hrun⟩ := Option.ne_none_iff_exists'.mp h.running
  refine ⟨(s.pred.predictEncSettingsImpl m np settings).2, ?_, ?_⟩
  · rw [predictEncSettings_running m s.pred np settings hrun]
  · exact ((predictEncSettingsImpl_idr m s.pred np settings).2.1 (h.flag.trans hp)).1

/-- A request that was overwritten is not served: the next prediction leaves the frame type as it was. -/
theorem not_served (m : CMath K) (s : Session K) (hrun : s.pred.networkPredictor ≠ none) (hp : s.pending = true)
    (hf : s.pred.idrRequested = false) : ¬ s.Served m := by
  intro hs
  obtain ⟨np, hnp⟩ := Option.ne_none_iff_exists'.mp hrun
  obtain ⟨d, hd, ht⟩ := hs hp ⟨0, 0, false⟩
  rw [predictEncSettings_running m s.pred np _ hnp] at hd
  cases hd
  rw [(predictEncSettingsImpl_idr m s.pred np _).2.2 hf] at ht
  exact absurd ht (by decide)

/-- From a state whose flag is the pending request: every moment of the run serves the request exactly when the
run keeps it. -/
theorem Requested.served_iff (m : CMath K) (secs : List (Section K)) (s : Session K) (h : Requested s) :
    (∀ pre, pre <+: secs → (pre.foldl (Session.step m) s).Served m) ↔ Meets (Session.step m) KeepsRequest s secs := by
  induction secs generalizing s with
  | nil =>
    refine ⟨fun _ => trivial, fun _ pre hp => ?_⟩
    rw [List.prefix_nil.mp hp]
    exact h.served m
  | cons sec secs ih =>
    constructor
    · intro hall
      have hk : s.KeepsRequest sec := by
        rcases sec with (_ | _) | _ | _ | _ | _
        case requestIdr.false =>
          by_contra hp
          refine not_served m (s.step m (.requestIdr false)) (step_running m s _ h.running) ?_ rfl
            (hall [.requestIdr false] ⟨secs, rfl⟩)
          simpa [KeepsRequest, Session.step] using hp
        all_goals trivial
      refine ⟨hk, (ih _ (h.step m sec hk)).mp fun pre hp => ?_⟩
      exact hall (sec :: pre) (List.cons_prefix_cons.mpr ⟨rfl, hp⟩)
    · rintro ⟨hk, hm⟩ pre hp
      cases pre with
      | nil => exact h.served m
      | cons x pre =>
        obtain ⟨rfl, hpre⟩ := List.cons_prefix_cons.mp hp
        exact (ih _ (h.step m x hk)).mpr hm pre hpre

end Session

/-- **IDR requests**: in a session of any started object, at every moment the next `PredictEncSettings` would
answer the request that is pending, if and only if no feedback with `idrRequired = false` came while one was. -/
theorem idr_requests_served_iff (m : CMath K) (history : List (Call K)) (steady : Bool) (params : TcaeInitParams)
    (hstart : ((history.foldl (call m) new).start steady (some params)).2 = .errNone) (secs : List (Section K)) :
    let p := ((history.foldl (call m) new).start steady (some params)).1
    (∀ pre, pre <+: secs → (Session.run m p pre).Served m) ↔
      Meets (Session.step m) Session.KeepsRequest ⟨p, false, 0, []⟩ secs := by
  intro p
  obtain ⟨hn, he⟩ := start_cases steady _ params hstart
  refine Session.Requested.served_iff m secs ⟨p, false, 0, []⟩ ?_
  rcases startImpl_cases steady (history.foldl (call m) new) params with ⟨hne, -⟩ | ⟨_, _, _, -, hrun, -, -, -, hidr, -⟩
  · exact absurd (he ▸ hstart) hne
  · rw [← he] at hrun hidr
    refine ⟨?_, hidr.trans (run_stopped m history hn).idr⟩
    show p.networkPredictor ≠ none
    rw [hrun]
    exact Option.some_ne_none _

/-- A request, answered by the prediction after it. -/
def requestThenPredict : List (Section ℝ) :=
  [.requestIdr true, .cacheStats ⟨5000, 1500, true⟩, .predictEncSettings ⟨0, 0, false⟩]

theorem idr_request_then_predict_served :
    ((new : Predictor ℝ).start true (some sessionParams)).2 = .errNone ∧
    ∀ pre, pre <+: requestThenPredict →
      (Session.run realMath ((new : Predictor ℝ).start true (some sessionParams)).1 pre).Served realMath := by
  have hok := (start_session (new : Predictor ℝ) rfl).1
  exact ⟨hok, (idr_requests_served_iff realMath [] true sessionParams hok requestThenPredict).mpr
    ⟨trivial, trivial, trivial, trivial⟩⟩

/-- **A later feedback cancels the request**: `UpdateNetworkState` with `idrRequired` true, then with it false,
and the next `PredictEncSettings` inserts no IDR frame. -/
theorem idr_request_cancelled :
    ((new : Predictor ℝ).start true (some sessionParams)).2 = .errNone ∧
    let s := Session.run realMath ((new : Predictor ℝ).start true (some sessionParams)).1
      [.requestIdr true, .cacheStats ⟨5000, 1500, true⟩, .requestIdr false, .cacheStats ⟨5000, 1500, false⟩]
    s.pending = true ∧ ¬ s.Served realMath := by
  obtain ⟨hok, np, hnp⟩ := start_session (new : Predictor ℝ) rfl
  have hv : ∀ b, validData ⟨5000, 1500, b⟩ = true := by decide
  refine ⟨hok, rfl, Session.not_served realMath _ ?_ rfl ?_⟩
  · simp [Session.run, Session.step, requestIdr, cacheStats, hv, hnp]
  · simp [Session.run, Session.step, requestIdr, cacheStats, hv]

/-! ## Frame drops -/

theorem feedStats_last {K : Type} [Field K] [LinearOrder K]
    (m : CMath K) (stats : List (UInt32 × UInt32)) (sizes : List UInt32) (last : UInt32 × UInt32)
    (np : NetPred K) : (feedStats m stats sizes last np).2.2 = stats.getLast?.getD last := by
  induction stats generalizing sizes last np with
  | nil => rfl
  | cons x stats ih =>
    rw [feedStats, ih, List.getLast?_cons, Option.getD_some]

/-- The delay of feedback that is cached is not 0: one microsecond counts as a millisecond. -/
theorem delayMs_ne_zero (data : PerFrameNetworkData) (hv : validData data = true) :
    delayMs data.lastPacketDelayInUs ≠ 0 := by
  simp only [validData, Bool.and_eq_true, decide_eq_true_eq] at hv
  have h0 : data.lastPacketDelayInUs.toNat ≠ 0 := fun h => hv.1 (UInt32.toNat_inj.mp h)
  have hlt := data.lastPacketDelayInUs.toNat_lt
  intro h
  have h1 := congrArg UInt32.toNat h
  rw [delayMs, UInt32.toNat_ofNat', UInt32.toNat_zero] at h1
  omega

/-- What a prediction does to the drop counters: it drops within the limits, or it does not drop. -/
theorem predictEncSettingsImpl_drop (m : CMath K) (p : Predictor K) (np : NetPred K) (settings : FrameSettings) :
    let r := p.predictEncSettingsImpl m np settings
    (r.2.dropped = true ∧ p.idrRequested = false ∧ p.features &&& tcaeFrameDrop ≠ 0 ∧
      p.frameDropsCount.toNat < p.maxSequentialDropsCount.toNat ∧
      (p.frameDropsCount = 0 → p.minDropFramesDist.toNat ≤ p.framesSinceLastDrop.toNat) ∧
      p.initialTargetDelayInMs < (p.drain m np).1.lastKnownDelayInMs ∧
      r.1 = { (p.drain m np).1 with frameDropsCount := p.frameDropsCount + 1, framesSinceLastDrop := 0 }) ∨
    (r.2.dropped = false ∧ r.1 = (p.drain m np).1.keepFrame) := by
  simp only [predictEncSettingsImpl]
  split
  · exact Or.inr ⟨rfl, rfl⟩
  · rename_i hi
    split
    · rename_i hd
      simp only [dropsFrame, Bool.and_eq_true, decide_eq_true_eq, Bool.not_eq_true', Bool.and_eq_false_imp,
        decide_eq_false_iff_not, not_lt] at hd
      obtain ⟨⟨⟨⟨h1, h2⟩, h3⟩, h4⟩, -⟩ := hd
      exact Or.inl ⟨rfl, by simpa using hi, h1, h2, h3, h4, rfl⟩
    · exact Or.inr ⟨rfl, rfl⟩

namespace Session

open Bursts

/-- What holds between a `Start` and the next `Stop`: the counters describe the outcomes so far. -/
structure Drops (params : TcaeInitParams) (s : Session K) : Prop where
  running : s.pred.networkPredictor ≠ none
  features : s.pred.features = requestedFeatures params
  limit : s.pred.maxSequentialDropsCount =
    dropSetting (requestedFeatures params) params.maxSequentialDropsCount defaultMaxDropsCountInSequence
  distance : s.pred.minDropFramesDist =
    dropSetting (requestedFeatures params) params.minDropFramesDistance defaultMinDropFramesDistance
  target : s.pred.initialTargetDelayInMs = params.targetDelayInMs
  /-- The statistics still cached end with the last feedback; with none cached it was read already. -/
  delay : s.pred.cachedNetworkStats.getLast?.map Prod.snd = some s.lastDelay ∧ s.lastDelay ≠ 0 ∨
    s.pred.cachedNetworkStats = [] ∧ s.pred.lastKnownDelayInMs = s.lastDelay
  count : s.pred.frameDropsCount.toNat = lead (s.outcomes.map Outcome.dropped)
  since : ∀ k, sinceLast (s.outcomes.map Outcome.dropped) = some k → s.pred.framesSinceLastDrop.toNat ≤ k
  spaced : Spaced s.pred.maxSequentialDropsCount.toNat s.pred.minDropFramesDist.toNat (s.outcomes.map Outcome.dropped)
  justified : ∀ o ∈ s.outcomes, o.dropped = true →
    o.idr = false ∧ params.targetDelayInMs < o.lastDelay ∧ requestedFeatures params &&& tcaeFrameDrop ≠ 0

/-- The delay the drop decision reads is that of the last feedback. -/
theorem Drops.lastKnown {K : Type} [Field K] [LinearOrder K]
    {params : TcaeInitParams} {s : Session K} (h : Drops params s) (m : CMath K) (np : NetPred K) :
    (s.pred.drain m np).1.lastKnownDelayInMs = s.lastDelay := by
  simp only [drain, feedStats_last]
  rcases h.delay with ⟨hl, h0⟩ | ⟨hn, hl⟩
  · obtain ⟨x, hx, hxd⟩ := Option.map_eq_some_iff.mp hl
    rw [hx, Option.getD_some, hxd, if_pos h0]
  · rw [hn]
    exact hl

/-- A section that leaves the configuration, the counters and the outcomes alone. -/
theorem Drops.frame {K : Type} {params : TcaeInitParams} {s t : Session K} (h : Drops params s)
    (hr : t.pred.networkPredictor ≠ none) (h1 : t.pred.features = s.pred.features)
    (h2 : t.pred.maxSequentialDropsCount = s.pred.maxSequentialDropsCount)
    (h3 : t.pred.minDropFramesDist = s.pred.minDropFramesDist)
    (h4 : t.pred.initialTargetDelayInMs = s.pred.initialTargetDelayInMs)
    (h5 : t.pred.frameDropsCount = s.pred.frameDropsCount)
    (h6 : t.pred.framesSinceLastDrop = s.pred.framesSinceLastDrop) (h7 : t.outcomes = s.outcomes)
    (hd : t.pred.cachedNetworkStats.getLast?.map Prod.snd = some t.lastDelay ∧ t.lastDelay ≠ 0 ∨
      t.pred.cachedNetworkStats = [] ∧ t.pred.lastKnownDelayInMs = t.lastDelay) : Drops params t := by
  refine ⟨hr, h1.trans h.features, h2.trans h.limit, h3.trans h.distance, h4.trans h.target, hd, ?_, ?_, ?_, ?_⟩
  · rw [h5, h7]; exact h.count
  · rw [h6, h7]; exact h.since
  · rw [h2, h3, h7]; exact h.spaced
  · rw [h7]; exact h.justified

theorem Drops.predict {params : TcaeInitParams} {s : Session K} (h : Drops params s) (m : CMath K)
    (settings : FrameSettings) : Drops params (s.step m (.predictEncSettings settings)) := by
  obtain ⟨np, hnp⟩ := Option.ne_none_iff_exists'.mp h.running
  have hl := h.lastKnown m np
  rw [step_predict m s np settings hnp]
  rcases predictEncSettingsImpl_drop m s.pred np settings with ⟨hd, hidr, hf, hlt, hdist, htar, hr⟩ | ⟨hd, hr⟩
  · rw [hd, hr]
    have hc : (s.pred.frameDropsCount + 1).toNat = s.pred.frameDropsCount.toNat + 1 := by
      have := s.pred.maxSequentialDropsCount.toNat_lt
      rw [UInt32.toNat_add, UInt32.toNat_one]
      omega
    refine ⟨Option.some_ne_none _, h.features, h.limit, h.distance, h.target, Or.inr ⟨rfl, hl⟩, ?_, ?_, ?_, ?_⟩
    · show (s.pred.frameDropsCount + 1).toNat = lead (true :: s.outcomes.map Outcome.dropped)
      rw [hc, h.count, lead]
    · intro k _
      exact Nat.zero_le k
    · refine h.spaced.cons_true (h.count ▸ hlt) (fun h0 k hk => ?_)
      rw [← h.count] at h0
      exact (hdist (UInt32.toNat_inj.mp h0)).trans (h.since k hk)
    · intro o ho hdr
      rcases List.mem_cons.mp ho with rfl | ho
      · exact ⟨hidr, by rw [← h.target, ← hl]; exact htar, by rw [← h.features]; exact hf⟩
      · exact h.justified o ho hdr
  · rw [hd, hr]
    refine ⟨Option.some_ne_none _, h.features, h.limit, h.distance, h.target, Or.inr ⟨rfl, hl⟩, rfl, ?_,
      h.spaced.cons_false, ?_⟩
    · intro k hk
      obtain ⟨j, hj, rfl⟩ := Option.map_eq_some_iff.mp
        (show (sinceLast (s.outcomes.map Outcome.dropped)).map (· + 1) = some k from hk)
      have hle := h.since j hj
      have hdr : (s.pred.drain m np).1.framesSinceLastDrop = s.pred.framesSinceLastDrop := rfl
      simp only [keepFrame, hdr]
      split
      · rw [UInt64.toNat_add, UInt64.toNat_one]
        exact (Nat.mod_le _ _).trans (Nat.succ_le_succ hle)
      · exact Nat.le_succ_of_le hle
    · intro o ho hdr
      rcases List.mem_cons.mp ho with rfl | ho
      · cases hdr
      · exact h.justified o ho hdr

theorem Drops.step {params : TcaeInitParams} {s : Session K} (h : Drops params s) (m : CMath K) (sec : Section K) :
    Drops params (s.step m sec) := by
  obtain ⟨np, hnp⟩ := Option.ne_none_iff_exists'.mp h.running
  cases sec with
  | requestIdr b => exact h.frame h.running rfl rfl rfl rfl rfl rfl rfl h.delay
  | cacheStats data =>
    cases hv : validData data with
    | false =>
      simp only [Session.step, cacheStats, hv]
      exact h.frame h.running rfl rfl rfl rfl rfl rfl rfl h.delay
    | true =>
      simp only [Session.step, cacheStats, hv, if_true]
      refine h.frame h.running rfl rfl rfl rfl rfl rfl rfl (Or.inl ⟨?_, delayMs_ne_zero data hv⟩)
      simp
  | bitstreamSent bts =>
    simp only [Session.step, bitstreamSent, hnp]
    split
    · exact h.frame h.running rfl rfl rfl rfl rfl rfl rfl h.delay
    · exact h.frame (Option.some_ne_none _) rfl rfl rfl rfl rfl rfl rfl h.delay
  | setFps fps =>
    simp only [Session.step, setFps, hnp]
    split
    · exact h.frame h.running rfl rfl rfl rfl rfl rfl rfl h.delay
    · exact h.frame (Option.some_ne_none _) rfl rfl rfl rfl rfl rfl rfl h.delay
  | predictEncSettings settings => exact h.predict m settings

theorem Drops.run {params : TcaeInitParams} {p : Predictor K} (h : Drops params ⟨p, false, 0, []⟩) (m : CMath K)
    (secs : List (Section K)) : Drops params (run m p secs) :=
  foldl_inv (I := Drops params) (fun _ sec h => h.step m sec) secs _ h

end Session

/-- A stopped object has no drop counted and no size remembered. -/
theorem run_counters (m : CMath K) (history : List (Call K))
    (hn : (history.foldl (call m) new).networkPredictor = none) :
    (history.foldl (call m) new).frameDropsCount = 0 ∧ (history.foldl (call m) new).lastTransmittedSize = 0 := by
  refine stopped_inv (I := fun p : Predictor K => p.frameDropsCount = 0 ∧ p.lastTransmittedSize = 0) m ⟨rfl, rfl⟩
    (fun p np hp => ?_) history hn
  simp only [stop, hp]
  exact ⟨rfl, rfl⟩

theorem start_drops (m : CMath K) (history : List (Call K)) (steady : Bool) (params : TcaeInitParams)
    (hstart : ((history.foldl (call m) new).start steady (some params)).2 = .errNone) :
    Session.Drops params ⟨((history.foldl (call m) new).start steady (some params)).1, false, 0, []⟩ := by
  obtain ⟨hn, he⟩ := start_cases steady _ params hstart
  have hidle := run_stopped m history hn
  obtain ⟨hc, -⟩ := run_counters m history hn
  rcases startImpl_eq (K := K) steady params with ⟨sts, hne, hp⟩ | hp
  · rw [he, hp] at hstart
    exact absurd hstart hne
  · rw [he, hp]
    refine ⟨Option.some_ne_none _, rfl, rfl, rfl, rfl, Or.inr ⟨hidle.stats, hidle.delay⟩, ?_, ?_, Bursts.Spaced.nil, ?_⟩
    · exact congrArg UInt32.toNat hc
    · intro k hk; cases hk
    · intro o ho; cases ho

/-- **The drop discipline** of every session: with frame dropping on, at most `maxSequentialDropsCount` drops in a
row and at least `minDropFramesDistance` other frames between two rows; a drop never consumes an IDR request
and needs a last delay above the target; with frame dropping off nothing is dropped. -/
theorem drop_discipline (m : CMath K) (history : List (Call K)) (steady : Bool) (params : TcaeInitParams)
    (hstart : ((history.foldl (call m) new).start steady (some params)).2 = .errNone) (secs : List (Section K)) :
    let outs := (Session.run m ((history.foldl (call m) new).start steady (some params)).1 secs).outcomes.reverse
    (requestedFeatures params &&& tcaeFrameDrop ≠ 0 → params.maxSequentialDropsCount ≠ 0 →
      params.minDropFramesDistance ≠ 0 →
      ¬ List.replicate (params.maxSequentialDropsCount.toNat + 1) true <:+: outs.map Outcome.dropped ∧
      ∀ k, 0 < k → true :: (List.replicate k false ++ [true]) <:+: outs.map Outcome.dropped →
        params.minDropFramesDistance.toNat ≤ k) ∧
    (∀ o ∈ outs, o.idr = true → o.dropped = false) ∧
    (∀ o ∈ outs, o.dropped = true → params.targetDelayInMs < o.lastDelay) ∧
    (requestedFeatures params &&& tcaeFrameDrop = 0 → ∀ o ∈ outs, o.dropped = false) := by
  intro outs
  have h := (start_drops m history steady params hstart).run m secs
  have hj : ∀ o ∈ outs, o.dropped = true →
      o.idr = false ∧ params.targetDelayInMs < o.lastDelay ∧ requestedFeatures params &&& tcaeFrameDrop ≠ 0 :=
    fun o ho => h.justified o (List.mem_reverse.mp ho)
  refine ⟨fun hf hD hG => ?_, fun o ho hi => ?_, fun o ho hd => (hj o ho hd).2.1, fun hf o ho => ?_⟩
  · have hset : ∀ v d : UInt16, v ≠ 0 → dropSetting (requestedFeatures params) v d = v := by
      intro v d hv
      have hv' : v.toUInt32 ≠ tcaeUseDefaultValue := by
        intro h0
        refine hv (UInt16.toNat_inj.mp ?_)
        have h1 := congrArg UInt32.toNat h0
        rwa [UInt16.toNat_toUInt32] at h1
      rw [dropSetting, if_pos hf, if_neg hv']
    have hs := h.spaced.reverse
    rw [h.limit, h.distance, hset _ _ hD, hset _ _ hG, ← List.map_reverse] at hs
    exact ⟨hs.burst, hs.gap⟩
  · rw [Bool.eq_false_iff]
    intro hd
    rw [(hj o ho hd).1] at hi
    cases hi
  · rw [Bool.eq_false_iff]
    intro hd
    exact (hj o ho hd).2.2 hf

/-- A session with frame dropping: at most two in a row, three frames apart. -/
def dropParams : TcaeInitParams where
  featuresSet := tcaePredictFrameSize ||| tcaeFrameDrop
  targetDelayInMs := 16
  bufferedRecordsCount := 100
  maxSequentialDropsCount := 2
  maxFrameSizeInBytes := 50000
  minDropFramesDistance := 3

/-- Feedback of 100 ms, then three predictions. -/
def highDelaySession : List (Section ℝ) :=
  .cacheStats ⟨100000, 1500, false⟩ :: List.replicate 3 (.predictEncSettings ⟨0, 0, false⟩)

theorem drop_discipline_high_delay :
    ((new : Predictor ℝ).start true (some dropParams)).2 = .errNone ∧
    ¬ List.replicate 3 true <:+:
      ((Session.run realMath ((new : Predictor ℝ).start true (some dropParams)).1 highDelaySession).outcomes.reverse).map
        Outcome.dropped := by
  have hok : ((new : Predictor ℝ).start true (some dropParams)).2 = .errNone := by rfl
  have h := drop_discipline realMath [] true dropParams hok highDelaySession
  exact ⟨hok, (h.1 (by decide) (by decide) (by decide)).1⟩

end CloudStreaming.Tcae.Predictor
