import CloudStreaming.Tcae.Session

/-!
# A second session on the same object (`enc_frame_settings_predictor.cpp:45-169`)

`Start` overwrites the configuration and the predictor, `Stop` clears what the input calls write, and
between them they cover every member but `m_validFeedback`. A second session therefore starts in the
state of a first one exactly as long as no feedback was ever valid.
-/

namespace CloudStreaming.Tcae.Predictor

open Runs NetPred

variable {K : Type} [Field K] [LinearOrder K] [FloorRing K]

/-- What a call returns: the status and, for a prediction, the settings it wrote and whether it dropped the frame. -/
def result (m : CMath K) (p : Predictor K) : Input K → TcaeStatus × Option Decision
  | .updateNetworkState data => ((p.updateNetworkState data).2, none)
  | .bitstreamSent bts => ((p.bitstreamSent bts).2, none)
  | .setFps fps => ((p.setFps fps).2, none)
  | .predictEncSettings settings =>
    match (p.predictEncSettings m settings).2 with
    | .ok d => (.errNone, some d)
    | .error sts => (sts, none)

def results (m : CMath K) : Predictor K → List (Input K) → List (TcaeStatus × Option Decision)
  | _, [] => []
  | p, i :: inputs => p.result m i :: results m (p.input m i) inputs

/-- A session: what `Start` and the calls after it return. -/
def session (m : CMath K) (p : Predictor K) (steady : Bool) (params : Option TcaeInitParams) (inputs : List (Input K)) :
    TcaeStatus × List (TcaeStatus × Option Decision) :=
  let r := p.start steady params
  (r.2, results m r.1 inputs)

/-- Not running, every call fails at its first check. -/
theorem results_of_stopped (m : CMath K) (p q : Predictor K) (hp : p.networkPredictor = none)
    (hq : q.networkPredictor = none) (inputs : List (Input K)) : results m p inputs = results m q inputs := by
  induction inputs with
  | nil => rfl
  | cons i inputs ih =>
    have hr : p.result m i = q.result m i := by
      cases i <;> simp [result, updateNetworkState, bitstreamSent, setFps, predictEncSettings, hp, hq]
    rw [results, results, input_of_stopped m p i hp, input_of_stopped m q i hq, hr, ih]

/-- The state a stopped object starts in. -/
theorem configured_of_stopped (m : CMath K) (history : List (Call K)) (steady : Bool) (params : TcaeInitParams)
    (hn : (history.foldl (call m) new).networkPredictor = none) :
    (history.foldl (call m) new).configured steady params =
      { (new : Predictor K).configured steady params with
        validFeedback := (history.foldl (call m) new).validFeedback } := by
  obtain ⟨h1, h2, h3, h4⟩ := run_stopped m history hn
  obtain ⟨h5, h6⟩ := run_counters m history hn
  simp only [configured, h1, h2, h3, h4, h5, h6]
  rfl

/-- Without stale feedback the two sessions are one. -/
theorem session_fresh (m : CMath K) (history : List (Call K)) (steady : Bool) (params : Option TcaeInitParams)
    (inputs : List (Input K)) (hn : (history.foldl (call m) new).networkPredictor = none)
    (hv : (history.foldl (call m) new).validFeedback = false) :
    (history.foldl (call m) new).session m steady params inputs = (new : Predictor K).session m steady params inputs := by
  have hstart : ∀ p : Predictor K, p.networkPredictor = none → p.start steady params = p.startImpl steady params := by
    intro p hp
    simp [start, hp]
  have hnew : (new : Predictor K).networkPredictor = none := rfl
  rw [session, session, hstart _ hn, hstart _ hnew]
  cases params with
  | none =>
    show (TcaeStatus.errNullPtr, _) = (TcaeStatus.errNullPtr, _)
    exact congrArg _ (results_of_stopped m _ _ hn hnew inputs)
  | some params =>
    rcases startImpl_eq (K := K) steady params with ⟨sts, -, hp⟩ | hp
    · rw [hp, hp]
      exact congrArg _ (results_of_stopped m _ _ hn hnew inputs)
    · rw [hp, hp, configured_of_stopped m history steady params hn, hv]
      rfl

/-- What `sentThenPredict` shows of an object that was just started. -/
theorem results_sentThenPredict (m : CMath K) (p : Predictor K) (np : NetPred K) (hrun : p.networkPredictor = some np)
    (hidle : p.Idle) :
    results m p sentThenPredict = [(.errNone, none), (.errNone, some ⟨⟨0, (if p.validFeedback then
      np.updateSizeAndDelay m p.lastTransmittedSize 1 (-1) else np).getNextFrameSize, false⟩, false⟩)] := by
  have hsent : p.bitstreamSent (some ⟨0, 1, 1⟩) = ({ p with cachedBitstreamSize := [1] }, .errNone) := by
    simp [bitstreamSent, hrun, hidle.sizes, hidle.idr]
  have hp : (({ p with cachedBitstreamSize := [1] } : Predictor K).predictEncSettings m (some ⟨0, 0, false⟩)).2 =
      .ok ⟨⟨0, (if p.validFeedback then np.updateSizeAndDelay m p.lastTransmittedSize 1 (-1)
        else np).getNextFrameSize, false⟩, false⟩ := by
    rw [predictEncSettings_running m { p with cachedBitstreamSize := [1] } np _ hrun]
    rw [predict_sent m { p with cachedBitstreamSize := [1] } np _ rfl hidle.stats hidle.idr hidle.delay]
  simp only [sentThenPredict, results, result, input, hsent, hp]

/-- A size without feedback: at least a tenth of the limit on an object that still believes in feedback, 0 on
a new one. -/
theorem stale_session_differs [IsStrictOrderedRing K]
    (m : CMath K) (history : List (Call K)) (steady : Bool) (params : TcaeInitParams)
    (hstart : ((history.foldl (call m) new).start steady (some params)).2 = .errNone)
    (h10 : 10 ≤ params.maxFrameSizeInBytes.toNat) (hM : params.maxFrameSizeInBytes.toNat < 2 ^ 30)
    (hv : (history.foldl (call m) new).validFeedback = true) :
    (history.foldl (call m) new).session m steady (some params) sentThenPredict ≠
      (new : Predictor K).session m steady (some params) sentThenPredict := by
  have h0 : params.maxFrameSizeInBytes ≠ 0 := by
    rintro h
    rw [h] at h10
    exact absurd h10 (by decide)
  obtain ⟨hn, -⟩ := start_cases steady _ params hstart
  -- the parameters are accepted by the new object as well
  have hnew : ((new : Predictor K).start steady (some params)).2 = .errNone := by
    rcases startImpl_eq (K := K) steady params with ⟨sts, hne, hp⟩ | hp
    · simp only [start, hn, hp] at hstart
      exact absurd hstart hne
    · show ((new : Predictor K).startImpl steady (some params)).2 = .errNone
      rw [hp]
  obtain ⟨np, hrun, hs, -, -, hvalid, hidle⟩ := start_running m history steady params hstart h0
  obtain ⟨np', hrun', -, hz', -, hvalid', hidle'⟩ := start_running m [] steady params hnew h0
  rw [List.foldl_nil] at hrun' hvalid' hidle'
  obtain ⟨h1, hle⟩ := hs.update m ((history.foldl (call m) new).start steady (some params)).1.lastTransmittedSize 1 (-1)
  obtain ⟨hlo, -⟩ := getNextFrameSize_bounds h1 (by omega) (by rw [h1.min, ← hs.min]; exact hle)
  have hold := results_sentThenPredict m _ np hrun hidle
  have hfresh := results_sentThenPredict m _ np' hrun' hidle'
  rw [if_pos (hvalid.trans hv)] at hold
  rw [if_neg (by rw [hvalid']; exact Bool.false_ne_true), getNextFrameSize_zero hz'] at hfresh
  intro he
  have hres := congrArg Prod.snd he
  simp only [session, hold, hfresh, List.cons.injEq, Prod.mk.injEq, Option.some.injEq, Decision.mk.injEq,
    FrameSettings.mk.injEq, true_and, and_true] at hres
  rw [hres, UInt32.toNat_zero] at hlo
  omega

/-- `Stop` stops. -/
theorem stop_stopped (m : CMath K) (history : List (Call K)) :
    ((history ++ [Call.stop]).foldl (call m) new).networkPredictor = none := by
  rw [List.foldl_append]
  show (stop _).1.networkPredictor = none
  unfold stop
  split
  · rename_i h
    exact Option.isNone_iff_eq_none.mp h
  · rfl

/-- **Restart equals fresh start**, for every history that ends with `Stop`: every later session returns what it
returns on a new object, if and only if no earlier session had valid feedback. -/
theorem restart_fresh_iff [IsStrictOrderedRing K] (m : CMath K) (history : List (Call K)) :
    let p := (history ++ [Call.stop]).foldl (call m) new
    (∀ steady params inputs, p.session m steady params inputs = (new : Predictor K).session m steady params inputs) ↔
      p.validFeedback = false := by
  intro p
  have hn : p.networkPredictor = none := stop_stopped m history
  constructor
  · intro hall
    rw [Bool.eq_false_iff]
    intro hv
    exact stale_session_differs m _ true sessionParams (start_session p hn).1 (by decide) (by decide) hv
      (hall true (some sessionParams) sentThenPredict)
  · intro hv steady params inputs
    exact session_fresh m _ steady params inputs hn hv

/-- A session that sent a bitstream and got no feedback leaves nothing behind. -/
theorem restart_fresh_unfed :
    let history : List (Call ℝ) := [.start true (some sessionParams), .input (.bitstreamSent (some ⟨0, 1, 1⟩))]
    let p := (history ++ [Call.stop]).foldl (call realMath) new
    p.validFeedback = false ∧ ∀ steady params inputs,
      p.session realMath steady params inputs = (new : Predictor ℝ).session realMath steady params inputs := by
  intro history p
  obtain ⟨hok, np, hnp⟩ := start_session (new : Predictor ℝ) rfl
  obtain ⟨-, -, -, -, -, hvalid, -⟩ := start_running realMath [] true sessionParams hok (by decide)
  have hv : p.validFeedback = false := by
    have hstart : ((new : Predictor ℝ).start true (some sessionParams)).1.validFeedback = false := hvalid
    simp [p, history, call, input, bitstreamSent, stop, hnp, hstart]
  exact ⟨hv, (restart_fresh_iff realMath history).mpr hv⟩

/-- After `fedSession` the same session answers differently. -/
theorem restarted_session_differs :
    let p := fedSession.foldl (call realMath) new
    p.networkPredictor = none ∧
      p.session realMath true (some sessionParams) sentThenPredict ≠
        (new : Predictor ℝ).session realMath true (some sessionParams) sentThenPredict := by
  intro p
  obtain ⟨-, np, hnp⟩ := start_session (new : Predictor ℝ) rfl
  have hp : p.networkPredictor = none ∧ p.validFeedback = true := by
    simp [p, fedSession, call, input, updateNetworkState, stop, hnp, validData]
  exact ⟨hp.1, stale_session_differs realMath fedSession true sessionParams (start_session p hp.1).1 (by decide)
    (by decide) hp.2⟩

end CloudStreaming.Tcae.Predictor
