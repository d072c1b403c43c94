import Mathlib.Algebra.Order.Field.Basic
import Mathlib.Algebra.Order.Floor.Ring
import Mathlib.Data.Rat.Cast.Order

/-!
# `NetPred`: the network predictor of TCAE (`tcae/net_pred.cpp`)

Every `double` of the class is an element of one linearly ordered field `K`, read exactly: no rounding,
no infinities, no NaN. A comparison of a product (`m_timeToExplore * m_fps`, `:634`) is a comparison of the exact one; a
`double` rounds it, so that ten times the `double` next to 12.1 is 121. What `<cmath>` contributes is the record `CMath`: `sqrt` and the constant
`pow(0.01, 1.0 / 2 / m_recordedLen)`, which the constructor computes while `m_recordedLen` is still 100
(`net_pred.cpp:60`; `SetRecordedLen` does not recompute it).

| here | there |
| --- | --- |
| `NetPred`             | the members of the class, `m_` dropped (`net_pred.h:67-133`); deques are lists, front first |
| `divisors`            | not in the source: every denominator, recorded as it is evaluated |
| `checkNewSteadyState` | `CheckNewSteadyState` (`:470`), cut at its comments into `countDelay`, `endSpike`, `trackBitstream`, `resetSpikes` |
| `updateSizeAndDelay`  | `UpdateSizeAndDelay` (`:103`), cut into `missedFeedback`, or `record`, `updateModel`, `adjustModel` (together `reactionModel`) and `publish` |

Members the constructor sets and nothing assigns again are constants. The `int` counters are `Nat`:
each starts at 0 and only counts up, and an overflow of one is undefined behaviour in the source.
The `uint32_t` ones wrap. The csv dumps are left out.
-/

namespace CloudStreaming.Tcae

/-- What the predictor takes from `<cmath>`. -/
structure CMath (K : Type) [Field K] [LinearOrder K] where
  sqrt : K → K
  /-- `m_forgotRatio = pow(0.01, 1.0 / 2 / 100)`. -/
  forgotRatio : K
  sqrt_nonneg : ∀ x, 0 ≤ sqrt x
  forgotRatio_pos : 0 < forgotRatio

structure NetPred (K : Type) where
  targetDelay : K
  recordedLen : Int
  nextTargetSize : K
  reverseBandWidth : K
  propagotionDelay : K
  delays : List K
  sizes : List K
  effectiveDelays : List K
  effectiveSizes : List K
  maxTargetSize : K
  minTargetSize : K
  fps : K
  estimatedThresholdSize : K
  timeToExplore : UInt32
  estimateAcc : K
  observeCounter : UInt32
  filteredTargetSize : K
  filterFactor : K
  previousTargetSize : K
  enableSteadyStateCheck : Bool
  framesSinceLastSpike : Nat
  encFramesForThreshold : Nat
  newState : Bool
  spikes : Nat
  recoveryAttempt : Bool
  recoveryFrames : Nat
  divisors : List K

/-- `m_timeout`, in seconds (`net_pred.cpp:44`). -/
def timeout : UInt32 := 10
/-- `m_observeCounterThreshold` (`:48`). -/
def observeCounterThreshold : UInt32 := 5
/-- `m_effectiveDataLen` (`:35`). -/
def effectiveDataLen : Nat := 2

variable {K : Type} [Field K] [LinearOrder K]

/-- `m_exceptionThreshold` (`:31`). -/
def exceptionThreshold : K := 1
/-- `m_effectiveSizeThreshold` (`:34`). -/
def effectiveSizeThreshold : K := 1
/-- `MinReverseBandwidth` (`net_pred.h:118`). -/
def minReverseBandwidth : K := 2 / 100
/-- `SubstantialChangeThreshold` (`net_pred.h:119`). -/
def substantialChangeThreshold : K := 1 / 10
/-- The base and the exponent of `m_forgotRatio` (`:61`), for the 100 records of the constructor. -/
def forgotBase : K := 1 / 100
def forgotExponent : K := 1 / 2 / 100
/-- The `1e-6` of the zero tests. -/
def tiny : K := 1 / 1000000

namespace NetPred

/-- The constructor (`:27`); the environment variable `TCAE_STEADY_STATE_CHECK` decides `steady`. -/
def new (steady : Bool) : NetPred K where
  targetDelay := 16
  recordedLen := 100
  nextTargetSize := 0
  reverseBandWidth := 1
  propagotionDelay := 0
  delays := []
  sizes := []
  effectiveDelays := []
  effectiveSizes := []
  maxTargetSize := 1000
  minTargetSize := 5
  fps := 30
  estimatedThresholdSize := 0
  timeToExplore := timeout
  estimateAcc := 0
  observeCounter := 0
  filteredTargetSize := 0
  filterFactor := 1 / 2
  previousTargetSize := 0
  enableSteadyStateCheck := steady
  framesSinceLastSpike := 0
  encFramesForThreshold := 0
  newState := false
  spikes := 0
  recoveryAttempt := false
  recoveryFrames := 0
  divisors := []

/-! ## The setters -/

def setRecordedLen (p : NetPred K) (recordLen : Int) : NetPred K := { p with recordedLen := recordLen }

def setTargetDelay (p : NetPred K) (targetInMs : K) : NetPred K := { p with targetDelay := targetInMs }

def setMaxTargetSize (p : NetPred K) (maxBytes : UInt32) : NetPred K :=
  { p with maxTargetSize := (maxBytes.toNat : K) / 1000 }

def setMinTargetSize (p : NetPred K) (minBytes : UInt32) : NetPred K :=
  { p with minTargetSize := (minBytes.toNat : K) / 1000 }

def setFPS (p : NetPred K) (fps : K) : NetPred K := { p with fps := fps }

/-- The denominator of a division, as it is evaluated. -/
def divides (p : NetPred K) (d : K) : NetPred K := { p with divisors := d :: p.divisors }

/-! ## Spikes and the recovery attempt -/

/-- `m_timeout * m_fps`, the frames of one time-out. -/
def timeoutFrames (p : NetPred K) : K := (timeout.toNat : K) * p.fps

/-- `m_timeToExplore * m_fps`, the frames before a recovery is tried. -/
def exploreFrames (p : NetPred K) : K := (p.timeToExplore.toNat : K) * p.fps

def isSpikeOn (p : NetPred K) : Bool := observeCounterThreshold ≤ p.observeCounter

/-- `OscillationDetected` (`:438`). -/
def oscillationDetected (p : NetPred K) : Bool :=
  decide ((p.framesSinceLastSpike : K) < p.timeoutFrames) && decide (2 ≤ p.spikes)

/-- `UpdateSteadyState` (`:445`): the new frame-size cap and whether it replaced the old one. -/
def updateSteadyState (p : NetPred K) : NetPred K × Bool :=
  if p.newState && decide (0 < p.encFramesForThreshold) && decide (2 ≤ p.spikes) then
    let newThresholdSize := p.estimateAcc / (p.encFramesForThreshold : K) / 1000
    let p := p.divides (p.encFramesForThreshold : K)
    let lowLimit := (1 - substantialChangeThreshold) * p.estimatedThresholdSize
    let highLimit := (1 + substantialChangeThreshold) * p.estimatedThresholdSize
    if newThresholdSize < lowLimit ∨ newThresholdSize > highLimit then
      ({ p with estimatedThresholdSize := newThresholdSize }, true)
    else (p, false)
  else (p, false)

/-- `HighDelayInRecovery` or a delay past the target, or none reported (`:477-479`). -/
def highDelay (p : NetPred K) (delayInMs : K) : Bool :=
  decide (delayInMs > p.targetDelay) || decide (delayInMs < 0) ||
    (p.recoveryAttempt && decide (delayInMs > p.targetDelay / 2))

/-- `spikeEnds` (`:485`): a normal delay while a spike was on. -/
def spikeEnds (p : NetPred K) (delayInMs : K) : Bool := !p.highDelay delayInMs && p.isSpikeOn

/-- `++m_observeCounter`, or back to 0 (`:479-489`). -/
def countDelay (p : NetPred K) (delayInMs : K) : NetPred K :=
  { p with observeCounter := if p.highDelay delayInMs then p.observeCounter + 1 else 0 }

/-- A failed recovery (`:508-516`): give up the attempt; retry after twice the time unless the cap moved. -/
def failRecovery (p : NetPred K) (updateThreshold : Bool) : NetPred K :=
  if p.recoveryAttempt && decide (2 ≤ p.spikes) then
    { p with
      recoveryAttempt := false
      recoveryFrames := 0
      timeToExplore := if updateThreshold then timeout else p.timeToExplore * 2 }
  else p

/-- `m_spikes++; if (OscillationDetected()) m_newState = true; m_framesSinceLastSpike = 0;` (`:495-498`). -/
def countSpike (p : NetPred K) : NetPred K :=
  let p := { p with spikes := p.spikes + 1 }
  { p with newState := p.newState || p.oscillationDetected, framesSinceLastSpike := 0 }

/-- The end of a spike (`:492-517`). -/
def endSpike (p : NetPred K) : NetPred K :=
  let r := p.countSpike.updateSteadyState
  r.1.failRecovery r.2

/-- The bitstream tracked during a spike or an attempt (`:521-528`). -/
def trackBitstream (p : NetPred K) (encodedSize : UInt32) : NetPred K :=
  let tracked := p.isSpikeOn || p.recoveryAttempt
  { p with
    estimateAcc := if tracked then p.estimateAcc + (encodedSize.toNat : K) else p.estimateAcc
    encFramesForThreshold :=
      if tracked && decide (encodedSize ≠ 0) then p.encFramesForThreshold + 1 else p.encFramesForThreshold }

/-- `isAttemptOngoing` (`:631`). -/
def isAttemptOngoing (p : NetPred K) : Bool :=
  p.recoveryAttempt && decide ((p.recoveryFrames : K) ≤ p.timeoutFrames)

/-- `initRecoveryCondition` (`:633`). -/
def initRecoveryCondition (p : NetPred K) : Bool :=
  p.newState && !p.recoveryAttempt && !p.isSpikeOn && decide ((p.framesSinceLastSpike : K) = p.exploreFrames)

/-- The reset after a successful recovery (`:658-667`). -/
def recover (p : NetPred K) : NetPred K :=
  { p with
    recoveryAttempt := false
    recoveryFrames := 0
    timeToExplore := timeout
    newState := false
    estimateAcc := 0
    framesSinceLastSpike := 0
    encFramesForThreshold := 0
    estimatedThresholdSize := 0
    spikes := 0 }

/-- `ManageRecoveryAttempt` (`:626`). The two conditions are evaluated on entry and exclude each other. -/
def manageRecoveryAttempt (p : NetPred K) : NetPred K :=
  let ongoing := p.isAttemptOngoing
  let init := p.initRecoveryCondition
  if !init && !ongoing then { p with recoveryAttempt := false }
  else
    let p := if init then { p with recoveryAttempt := true, recoveryFrames := 0 } else p
    if ongoing then
      let p := { p with recoveryFrames := p.recoveryFrames + 1 }
      if (p.recoveryFrames : K) = p.timeoutFrames then p.recover else p
    else p

/-- The spike counter is cleared after a time-out without one (`:537`). -/
def resetSpikes (p : NetPred K) : NetPred K :=
  { p with spikes := if p.timeoutFrames ≤ (p.framesSinceLastSpike : K) then 0 else p.spikes }

/-- Everything of `CheckNewSteadyState` before `ManageRecoveryAttempt` (`:474-531`). -/
def observe (p : NetPred K) (encodedSize : UInt32) (delayInMs : K) : NetPred K :=
  let q := p.countDelay delayInMs
  let q := if p.spikeEnds delayInMs then q.endSpike else q
  let q := q.trackBitstream encodedSize
  { q with framesSinceLastSpike := q.framesSinceLastSpike + 1 }

/-- `CheckNewSteadyState` (`:470`). -/
def checkNewSteadyState (p : NetPred K) (encodedSize : UInt32) (delayInMs : K) : NetPred K :=
  if p.enableSteadyStateCheck then
    ((p.observe encodedSize delayInMs).manageRecoveryAttempt).resetSpikes
  else p

/-! ## The linear model `delay = reverseBandWidth * size + propagotionDelay` -/

/-- The loop of `WeightedMean`: `accD`, `accN` and the running `weight`. -/
def weightedMeanLoop (ratio : K) : K → K → K → List K → K × K
  | accD, accN, _, [] => (accD, accN)
  | accD, accN, weight, x :: xs =>
    weightedMeanLoop ratio (accD + weight * x) (accN + weight) (weight * ratio) xs

/-- `WeightedMean` (`:418`). -/
def weightedMean (m : CMath K) (p : NetPred K) (data : List K) : K × NetPred K :=
  let acc := weightedMeanLoop m.forgotRatio 0 0 1 data
  if acc.2 < tiny then (0, p) else (acc.1 / acc.2, p.divides acc.2)

/-- A sample the loops skip: `delays[i] < 1e-6 && sizes[i] < 1e-6`. -/
def blank (x : K × K) : Bool := decide (x.1 < tiny) && decide (x.2 < tiny)

/-- The regression loop of `UpdateModelNormal` (`:332-350`): `accD`, `accN`, `weight`. -/
def regressionLoop (ratio meanDelay meanSize : K) : K → K → K → List (K × K) → K × K
  | accD, accN, _, [] => (accD, accN)
  | accD, accN, weight, x :: xs =>
    if blank x then regressionLoop ratio meanDelay meanSize accD accN (weight * ratio) xs
    else
      regressionLoop ratio meanDelay meanSize
        (accD + weight * weight * (x.1 - meanDelay) * (x.2 - meanSize))
        (accN + weight * weight * (x.2 - meanSize) * (x.2 - meanSize)) (weight * ratio) xs

/-- `UpdateModelSmall` (`:373`). -/
def updateModelSmall (m : CMath K) (p : NetPred K) (delays sizes : List K) : NetPred K :=
  let (meanDelay, p) := p.weightedMean m delays
  let (meanSize, p) := p.weightedMean m sizes
  if meanSize < tiny ∨ meanDelay < tiny then p
  else { p.divides meanSize with reverseBandWidth := meanDelay / meanSize, propagotionDelay := 1 / 10 }

/-- `UpdateModelNormal` (`:314`). -/
def updateModelNormal (m : CMath K) (p : NetPred K) (delays sizes : List K) : NetPred K :=
  if (delays.length : K) < 2 / 10 * (p.recordedLen : K) then p.updateModelSmall m delays sizes
  else
    let (meanDelay, p) := p.weightedMean m delays
    let (meanSize, p) := p.weightedMean m sizes
    let acc := regressionLoop m.forgotRatio meanDelay meanSize 0 0 1 (delays.zip sizes)
    if acc.2 < tiny then p.updateModelSmall m delays sizes
    else
      let bw := acc.1 / acc.2
      { p.divides acc.2 with reverseBandWidth := bw, propagotionDelay := meanDelay - bw * meanSize }

/-- A sample as `UpdateModelSafe` keeps it: zeroed unless it supports a positive slope (`:404-413`). -/
def safeSample (meanDelay meanSize : K) (x : K × K) : K × K :=
  if (x.1 - meanDelay) * (x.2 - meanSize) > 0 then x else (0, 0)

/-- `UpdateModelSafe` (`:393`). -/
def updateModelSafe (m : CMath K) (p : NetPred K) (delays sizes : List K) : NetPred K :=
  let (meanDelay, p) := p.weightedMean m delays
  let (meanSize, p) := p.weightedMean m sizes
  let safe := (delays.zip sizes).map (safeSample meanDelay meanSize)
  p.updateModelNormal m (safe.map Prod.fst) (safe.map Prod.snd)

/-- `SanityCheck` (`:616`). -/
def sanityCheck (p : NetPred K) : Bool :=
  decide (p.reverseBandWidth > minReverseBandwidth) && decide (p.propagotionDelay ≥ 0)

/-- One `push_front`, `pop_back` per effective size, oldest first (`:282-288`). -/
def substitute (effective data : List K) : List K :=
  effective.reverse.foldl (fun d x => (x :: d).dropLast) data

/-- `validSequence` (`:262-268`). -/
def validSequence (p : NetPred K) : Bool := p.sizes.any (fun s => decide (s ≥ effectiveSizeThreshold))

/-- The samples `UpdateModel` fits: without an effective size among them the front is overwritten.
Both deques get the effective *sizes*: `delays.push_front(*it)` with `it` over `m_effectiveSizes` (`:284`). -/
def modelDelays (p : NetPred K) : List K :=
  if p.validSequence then p.delays else substitute p.effectiveSizes p.delays

def modelSizes (p : NetPred K) : List K :=
  if p.validSequence then p.sizes else substitute p.effectiveSizes p.sizes

/-- `UpdateModel` (`:252`). -/
def updateModel (m : CMath K) (p : NetPred K) : NetPred K :=
  let delays := p.modelDelays
  let sizes := p.modelSizes
  let p := p.updateModelNormal m delays sizes
  let p := if p.sanityCheck then p else p.updateModelSafe m delays sizes
  if p.sanityCheck then p else p.updateModelSmall m delays sizes

/-! ## One sample -/

/-- The invalid-input branch (`:119-133`). -/
def missedFeedback (p : NetPred K) : NetPred K :=
  let next := p.nextTargetSize * (95 / 100)
  { p with nextTargetSize := if next < p.minTargetSize then p.minTargetSize else next }

/-- The four deques take the sample (`:143-163`). -/
def record (p : NetPred K) (sizeInK delayInMs : K) : NetPred K :=
  let delays := delayInMs :: p.delays
  let sizes := sizeInK :: p.sizes
  let full := decide ((delays.length : Int) > p.recordedLen)
  let p := { p with
    delays := if full then delays.dropLast else delays
    sizes := if full then sizes.dropLast else sizes }
  if sizeInK ≥ effectiveSizeThreshold then
    let effectiveDelays := delayInMs :: p.effectiveDelays
    let effectiveSizes := sizeInK :: p.effectiveSizes
    let full := decide (effectiveDelays.length > effectiveDataLen)
    { p with
      effectiveDelays := if full then effectiveDelays.dropLast else effectiveDelays
      effectiveSizes := if full then effectiveSizes.dropLast else effectiveSizes }
  else p

/-- The error loop (`:175-187`): `mse`, `count`, `weight` over the samples from index 1 on. -/
def errorLoop (ratio : K) (p : NetPred K) : K → K → K → List (K × K) → K × K
  | mse, count, _, [] => (mse, count)
  | mse, count, weight, x :: xs =>
    if blank x then errorLoop ratio p mse count (weight * ratio) xs
    else
      let estDelay := p.reverseBandWidth * x.2 + p.propagotionDelay
      errorLoop ratio p (mse + weight * weight * (x.1 - estDelay) * (x.1 - estDelay))
        (count + weight * weight) (weight * ratio) xs

/-- The model the target is computed from: `propagotionDelay`, `reverseBandWidth` (`:166-214`). An
outlier above the fitted line raises the delay and, past 0.9 of the target, the slope. -/
def adjustModel (m : CMath K) (p : NetPred K) (sizeInK delayInMs : K) : K × K × NetPred K :=
  if (p.sizes.length : K) ≥ 2 / 10 * (p.recordedLen : K) then
    let acc := errorLoop m.forgotRatio p 0 0 1 (p.delays.zip p.sizes).tail
    if acc.2 > tiny then
      let standardError := m.sqrt (acc.1 / acc.2)
      let q := p.divides acc.2
      let rtEstDelay := p.reverseBandWidth * sizeInK + p.propagotionDelay
      if delayInMs - rtEstDelay > exceptionThreshold * standardError then
        let propagotionDelay := delayInMs - p.reverseBandWidth * sizeInK
        if delayInMs > 9 / 10 * p.targetDelay then
          let propagotionDelay := 1 / 2 * propagotionDelay + 1 / 2 * p.propagotionDelay
          (propagotionDelay, (delayInMs - propagotionDelay) / sizeInK, q.divides sizeInK)
        else (propagotionDelay, p.reverseBandWidth, q)
      else (p.propagotionDelay, p.reverseBandWidth, q)
    else (p.propagotionDelay, p.reverseBandWidth, p)
  else (p.propagotionDelay, p.reverseBandWidth, p)

/-- `AdjustTarget` (`:541`). -/
def adjustTarget (p : NetPred K) (delayInMs : K) : NetPred K :=
  let p :=
    if delayInMs ≥ 9 / 10 * p.targetDelay ∧ p.nextTargetSize ≥ p.previousTargetSize then
      { p with nextTargetSize := p.previousTargetSize * (9 / 10) }
    else p
  if !p.enableSteadyStateCheck || p.recoveryAttempt then p
  else if p.newState ∧ p.estimatedThresholdSize > 0 then
    if p.nextTargetSize > 95 / 100 * p.estimatedThresholdSize then
      { p with nextTargetSize := 95 / 100 * p.estimatedThresholdSize }
    else p
  else p

/-- The target within its limits (`:223-231`); the exact reading has no NaN to test for. -/
def clampTarget (p : NetPred K) : NetPred K :=
  let next := if p.nextTargetSize < p.minTargetSize then p.minTargetSize else p.nextTargetSize
  { p with nextTargetSize := if next > p.maxTargetSize then p.maxTargetSize else next }

/-- The output IIR filter (`:233-239`). -/
def filterTarget (p : NetPred K) : NetPred K :=
  let filtered := if p.filteredTargetSize < 1 then p.nextTargetSize else p.filteredTargetSize
  let filtered := filtered * (9 / 10) * p.filterFactor + p.nextTargetSize * (1 - p.filterFactor * (9 / 10))
  { p with filteredTargetSize := filtered, nextTargetSize := filtered }

/-- The preliminary target: the size whose modelled delay is 0.9 of the target delay (`:217-219`). -/
def preliminary (p : NetPred K) (propagotionDelay reverseBandWidth : K) : NetPred K :=
  { p.divides reverseBandWidth with
    previousTargetSize := p.nextTargetSize
    nextTargetSize := (9 / 10 * p.targetDelay - propagotionDelay) / reverseBandWidth }

/-- From the adjusted model to the published target (`:217-239`). -/
def publish (p : NetPred K) (delayInMs propagotionDelay reverseBandWidth : K) : NetPred K :=
  (((p.preliminary propagotionDelay reverseBandWidth).adjustTarget delayInMs).clampTarget).filterTarget

/-- A valid sample up to the model its target is computed from: recorded, fitted, adjusted for an outlier. -/
def reactionModel (m : CMath K) (p : NetPred K) (size encodedSize : UInt32) (delayInMs : K) : K × K × NetPred K :=
  let sizeInK := (size.toNat : K) / 1000
  let p := ((p.checkNewSteadyState encodedSize delayInMs).record sizeInK delayInMs).updateModel m
  p.adjustModel m sizeInK delayInMs

/-- `UpdateSizeAndDelay` (`:103`). -/
def updateSizeAndDelay (m : CMath K) (p : NetPred K) (size encodedSize : UInt32) (delayInMs : K) : NetPred K :=
  if delayInMs < 0 then (p.checkNewSteadyState encodedSize delayInMs).missedFeedback
  else
    let (propagotionDelay, reverseBandWidth, p) := p.reactionModel m size encodedSize delayInMs
    p.publish delayInMs propagotionDelay reverseBandWidth

/-- A `double` to `int` conversion: towards zero. -/
def truncate [FloorRing K] (x : K) : Int := if 0 ≤ x then ⌊x⌋ else ⌈x⌉

/-- `GetNextFrameSize` (`:574`): the `int` becomes a `uint32_t`. -/
def getNextFrameSize [FloorRing K] (p : NetPred K) : UInt32 := UInt32.ofInt (truncate (p.nextTargetSize * 1000))

/-- A new predictor as `StartImpl` configures it (`enc_frame_settings_predictor.cpp:124-133`); the record count
becomes an `int`. -/
def start (steady : Bool) (maxFrameSize recCount delay : UInt32) : NetPred K :=
  let p := ((new steady).setMaxTargetSize maxFrameSize).setMinTargetSize (maxFrameSize / 10)
  (p.setRecordedLen recCount.toInt32.toInt).setTargetDelay (delay.toNat : K)

/-- What drives a configured predictor. -/
inductive Op (K : Type) where
  | updateSizeAndDelay (size encodedSize : UInt32) (delayInMs : K)
  | setFPS (fps : K)

def step (m : CMath K) (p : NetPred K) : Op K → NetPred K
  | .updateSizeAndDelay size n d => p.updateSizeAndDelay m size n d
  | .setFPS fps => p.setFPS fps

/-- A sample with `delay >= 0.9 * targetDelay`, the test of `AdjustTarget`. -/
def HighLatency (p : NetPred K) : Op K → Prop
  | .updateSizeAndDelay _ _ d => d ≥ 9 / 10 * p.targetDelay
  | .setFPS _ => False

/-- A valid sample of `UpdateSizeAndDelay`, as it is recorded. -/
def sample : Op K → Option (K × K)
  | .updateSizeAndDelay size _ d => if d < 0 then none else some ((size.toNat : K) / 1000, d)
  | .setFPS _ => none

end NetPred
end CloudStreaming.Tcae
