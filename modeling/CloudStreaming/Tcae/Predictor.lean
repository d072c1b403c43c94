import CloudStreaming.Tcae.Latency

/-!
# `PredictorTcaeImpl` (`tcae/enc_frame_settings_predictor.cpp`)

The predictor object the encoder calls: network feedback and sent bitstreams are cached as they come and
fed to `NetPred` by the next `PredictEncSettings`, which writes the size of the next frame, inserts an
IDR frame or drops the frame.

| here | there |
| --- | --- |
| `Predictor`           | the members of the class, `m_` dropped (`enc_frame_settings_predictor.h:128-160`) |
| `Option` arguments    | the pointers `CHECK_POINTER` tests |
| `Decision.dropped`    | which of the two `return ERR_NONE` of `PredictEncSettingsImpl` was taken |
| `Input`, `Call`       | one call of the API; `steady` is what `NetPred` reads from the environment |

`ceil(us / 1000.0)` and `round(a / b)` are exact on the 32-bit values they get. The mutex is left out:
every call is one step.
-/

namespace CloudStreaming.Tcae

open Weighted Runs

/-- The statuses the predictor returns (`enum tcaeStatus`). -/
inductive TcaeStatus where
  | errNone | errNullPtr | errUnsupported | errInvalidArg | errNotInitialized
  deriving DecidableEq, Repr

/-! ## Flags and defaults -/

def tcaeUseDefaultValue : UInt32 := 0x0000
def tcaeModeUnknown : UInt32 := 0x0000
def tcaePredictFrameSize : UInt32 := 0x0001
def tcaeFrameDrop : UInt32 := 0x0002
def tcaeModeStandalone : UInt32 := 0x0004

def tcaeFrametypeI : UInt16 := 0x0001
def tcaeFrametypeRef : UInt16 := 0x0040
def tcaeFrametypeIdr : UInt16 := 0x0080

def defaultEnabledFeatures : UInt32 := tcaePredictFrameSize
def defaultRecordsCount : UInt32 := 100
def defaultMaxDropsCountInSequence : UInt16 := 3
def defaultMinDropFramesDistance : UInt16 := 1
def defaultMaxFrameSizeInBytes : UInt32 := 50000

def idrSizeIncreaseCoeff : UInt32 := 3

/-! ## Data -/

structure TcaeInitParams where
  featuresSet : UInt32
  targetDelayInMs : UInt32
  bufferedRecordsCount : UInt32
  maxSequentialDropsCount : UInt16
  maxFrameSizeInBytes : UInt32
  minDropFramesDistance : UInt16

/-- The fields of `PerFrameNetworkData_t` the predictor reads. -/
structure PerFrameNetworkData where
  lastPacketDelayInUs : UInt32
  transmittedDataSizeInBytes : UInt32
  idrRequired : Bool

structure EncodedFrameFeedback where
  encFrameType : UInt16
  frameSizeInBytes : UInt32
  frameOrder : UInt64

structure FrameSettings where
  encFrameType : UInt16
  frameSizeInBytes : UInt32
  dropFrame : Bool
  deriving DecidableEq, Repr

structure Predictor (K : Type) where
  networkPredictor : Option (NetPred K)
  features : UInt32
  initialTargetDelayInMs : UInt32
  maxSequentialDropsCount : UInt16
  maxFrameSizeInBytes : UInt32
  minDropFramesDist : UInt16
  framesSinceLastDrop : UInt64
  cachedBitstreamSize : List UInt32
  /-- Transmitted size, delay in milliseconds. -/
  cachedNetworkStats : List (UInt32 × UInt32)
  idrRequested : Bool
  validFeedback : Bool
  frameDropsCount : UInt32
  lastKnownDelayInMs : UInt32
  lastTransmittedSize : UInt32

/-- What one `PredictEncSettingsImpl` does to the settings, and whether it dropped the frame. -/
structure Decision where
  settings : FrameSettings
  dropped : Bool

variable {K : Type} [Field K] [LinearOrder K]

namespace Predictor

/-- The constructor (`:22`). -/
def new : Predictor K where
  networkPredictor := none
  features := 0
  initialTargetDelayInMs := 0
  maxSequentialDropsCount := 0
  maxFrameSizeInBytes := 0
  minDropFramesDist := 0
  framesSinceLastDrop := 0
  cachedBitstreamSize := []
  cachedNetworkStats := []
  idrRequested := false
  validFeedback := false
  frameDropsCount := 0
  lastKnownDelayInMs := 0
  lastTransmittedSize := 0

/-! ## `Start`, `Stop`, `SetFps` -/

/-- The enabled features (`:77-81`). -/
def requestedFeatures (params : TcaeInitParams) : UInt32 :=
  let features := params.featuresSet
  let features := if params.featuresSet = tcaeModeUnknown then defaultEnabledFeatures else features
  if params.featuresSet = tcaeModeStandalone then defaultEnabledFeatures ||| tcaeModeStandalone else features

/-- `if (value == TCAE_USE_DEFAULT_VALUE) value = default;`. -/
def orDefault (value default : UInt32) : UInt32 := if value = tcaeUseDefaultValue then default else value

/-- A 16-bit drop setting, read only with frame dropping on (`:102-121`): 0 asks for the default. -/
def dropSetting (features : UInt32) (value default : UInt16) : UInt16 :=
  if features &&& tcaeFrameDrop ≠ 0 then (if value.toUInt32 = tcaeUseDefaultValue then default else value) else 0

/-- `StartImpl` (`:66`). -/
def startImpl (steady : Bool) (p : Predictor K) (params : Option TcaeInitParams) : Predictor K × TcaeStatus :=
  match params with
  | none => (p, .errNullPtr)
  | some params =>
    let features := requestedFeatures params
    if features &&& ~~~(tcaePredictFrameSize ||| tcaeModeUnknown ||| tcaeFrameDrop ||| tcaeModeStandalone) ≠ 0 then
      (p, .errInvalidArg)
    else if features &&& tcaePredictFrameSize = 0 then (p, .errUnsupported)
    else
      let recCount := orDefault params.bufferedRecordsCount defaultRecordsCount
      if recCount = 0 then (p, .errInvalidArg)
      else
        let delay := params.targetDelayInMs
        if delay = 0 then (p, .errInvalidArg)
        else
          let dropsCount := dropSetting features params.maxSequentialDropsCount defaultMaxDropsCountInSequence
          if features &&& tcaeFrameDrop ≠ 0 ∧ dropsCount = 0 then (p, .errInvalidArg)
          else
            let dropsDistance := dropSetting features params.minDropFramesDistance defaultMinDropFramesDistance
            if features &&& tcaeFrameDrop ≠ 0 ∧ dropsDistance = 0 then (p, .errInvalidArg)
            else
              let maxFrameSize := orDefault params.maxFrameSizeInBytes defaultMaxFrameSizeInBytes
              if maxFrameSize = 0 then (p, .errInvalidArg)
              else
                ({ p with
                  networkPredictor := some (NetPred.start steady maxFrameSize recCount delay)
                  features := features
                  initialTargetDelayInMs := delay
                  maxSequentialDropsCount := dropsCount
                  maxFrameSizeInBytes := maxFrameSize
                  minDropFramesDist := dropsDistance
                  framesSinceLastDrop := dropsDistance.toUInt64 }, .errNone)

/-- `Start` (`:46`). -/
def start (steady : Bool) (p : Predictor K) (params : Option TcaeInitParams) : Predictor K × TcaeStatus :=
  if p.networkPredictor.isSome then (p, .errUnsupported) else p.startImpl steady params

/-- `Stop` (`:152`): everything the input calls write is cleared, except `m_validFeedback`. -/
def stop (p : Predictor K) : Predictor K × TcaeStatus :=
  if p.networkPredictor.isNone then (p, .errNotInitialized)
  else
    ({ p with
      networkPredictor := none
      cachedBitstreamSize := []
      cachedNetworkStats := []
      idrRequested := false
      frameDropsCount := 0
      lastKnownDelayInMs := 0
      lastTransmittedSize := 0 }, .errNone)

/-- `SetFps` (`:190`). -/
def setFps (p : Predictor K) (fps : K) : Predictor K × TcaeStatus :=
  match p.networkPredictor with
  | none => (p, .errNotInitialized)
  | some np => if fps ≤ 0 then (p, .errInvalidArg) else ({ p with networkPredictor := some (np.setFPS fps) }, .errNone)

/-! ## Cached input -/

/-- `uint32_t(ceil(double(delayInUs) / 1000.0))`. -/
def delayMs (delayInUs : UInt32) : UInt32 := UInt32.ofNat ((delayInUs.toNat + 999) / 1000)

/-- Feedback with a delay and a size (`:219`). -/
def validData (data : PerFrameNetworkData) : Bool :=
  decide (data.lastPacketDelayInUs ≠ 0) && decide (data.transmittedDataSizeInBytes ≠ 0)

/-- `UpdateNetworkState` (`:171`, `:202`). -/
def updateNetworkState (p : Predictor K) (data : Option PerFrameNetworkData) : Predictor K × TcaeStatus :=
  match p.networkPredictor, data with
  | none, _ => (p, .errNotInitialized)
  | _, none => (p, .errNullPtr)
  | some _, some data =>
    let p := { p with idrRequested := data.idrRequired }
    if validData data then
      ({ p with
        validFeedback := true
        cachedNetworkStats :=
          p.cachedNetworkStats ++ [(data.transmittedDataSizeInBytes, delayMs data.lastPacketDelayInUs)] }, .errNone)
    else (p, .errInvalidArg)

/-- `BitstreamSent` (`:233`, `:254`). -/
def bitstreamSent (p : Predictor K) (bts : Option EncodedFrameFeedback) : Predictor K × TcaeStatus :=
  match p.networkPredictor, bts with
  | none, _ => (p, .errNotInitialized)
  | _, none => (p, .errNullPtr)
  | some _, some bts =>
    if p.features &&& tcaeModeStandalone = 0 ∧ bts.frameOrder = 0 then (p, .errInvalidArg)
    else
      ({ p with
        idrRequested := if bts.encFrameType &&& tcaeFrametypeIdr ≠ 0 ∧ p.idrRequested then false else p.idrRequested
        cachedBitstreamSize := p.cachedBitstreamSize ++ [bts.frameSizeInBytes] }, .errNone)

/-! ## `PredictEncSettings` -/

/-- The feedback loop (`:307-320`): each record with the oldest bitstream size left, or 0. Returns the
predictor, the sizes left and the last `transmittedSize`, `delayInMs`. -/
def feedStats (m : CMath K) :
    List (UInt32 × UInt32) → List UInt32 → UInt32 × UInt32 → NetPred K → NetPred K × List UInt32 × UInt32 × UInt32
  | [], sizes, last, np => (np, sizes, last)
  | x :: stats, sizes, _, np =>
    feedStats m stats sizes.tail x (np.updateSizeAndDelay m x.1 (sizes.headD 0) (x.2.toNat : K))

/-- The loop over the sizes left (`:328-339`): samples without feedback, once there ever was feedback. -/
def feedBitstreams (m : CMath K) (validFeedback : Bool) (lastTransmittedSize : UInt32) (sizes : List UInt32)
    (np : NetPred K) : NetPred K :=
  sizes.foldl
    (fun np size => if validFeedback then np.updateSizeAndDelay m lastTransmittedSize size (-1) else np) np

/-- The locked part (`:304-343`): the caches are fed to `NetPred` and emptied. -/
def drain (m : CMath K) (p : Predictor K) (np : NetPred K) : Predictor K × NetPred K :=
  let r := feedStats m p.cachedNetworkStats p.cachedBitstreamSize (0, 0) np
  let transmittedSize := r.2.2.1
  let delayInMs := r.2.2.2
  let p := { p with
    lastKnownDelayInMs := if delayInMs ≠ 0 then delayInMs else p.lastKnownDelayInMs
    lastTransmittedSize := if delayInMs ≠ 0 then transmittedSize else p.lastTransmittedSize }
  let np := feedBitstreams m p.validFeedback p.lastTransmittedSize r.2.1 r.1
  ({ p with
    networkPredictor := some np
    cachedBitstreamSize := []
    cachedNetworkStats := []
    idrRequested := false }, np)

/-- `round(double(a) / double(b))` of two positive integers: halves go up. -/
def roundDiv (a b : UInt32) : UInt32 := UInt32.ofNat ((2 * a.toNat + b.toNat) / (2 * b.toNat))

/-- The drop decision (`:362-378`). -/
def dropsFrame (p : Predictor K) : Bool :=
  decide (p.features &&& tcaeFrameDrop ≠ 0) && decide (p.frameDropsCount.toNat < p.maxSequentialDropsCount.toNat) &&
    !(decide (p.frameDropsCount = 0) && decide (p.framesSinceLastDrop.toNat < p.minDropFramesDist.toNat)) &&
    decide (p.lastKnownDelayInMs > p.initialTargetDelayInMs) &&
    decide (p.frameDropsCount < roundDiv p.lastKnownDelayInMs p.initialTargetDelayInMs)

/-- A frame that is not dropped (`:381-386`). -/
def keepFrame (p : Predictor K) : Predictor K :=
  { p with
    frameDropsCount := 0
    framesSinceLastDrop :=
      if p.features &&& tcaeFrameDrop ≠ 0 then p.framesSinceLastDrop + 1 else p.framesSinceLastDrop }

/-- The size of an IDR frame (`:356-359`): tripled while the network is good, in 32 bits. -/
def boostIdr (p : Predictor K) (predictedFrameSize : UInt32) : UInt32 :=
  if p.lastKnownDelayInMs < p.initialTargetDelayInMs then
    min (idrSizeIncreaseCoeff * predictedFrameSize) p.maxFrameSizeInBytes
  else predictedFrameSize

variable [FloorRing K]

/-- `PredictEncSettingsImpl` (`:297`) on a running predictor. -/
def predictEncSettingsImpl (m : CMath K) (p : Predictor K) (np : NetPred K) (settings : FrameSettings) :
    Predictor K × Decision :=
  let insertIdr := p.idrRequested
  let (p, np) := p.drain m np
  let predictedFrameSize := np.getNextFrameSize
  if insertIdr then
    (p.keepFrame,
      ⟨{ settings with
          encFrameType := tcaeFrametypeIdr ||| tcaeFrametypeRef ||| tcaeFrametypeI
          frameSizeInBytes := p.boostIdr predictedFrameSize }, false⟩)
  else if p.dropsFrame then
    ({ p with frameDropsCount := p.frameDropsCount + 1, framesSinceLastDrop := 0 },
      ⟨{ settings with dropFrame := true }, true⟩)
  else (p.keepFrame, ⟨{ settings with frameSizeInBytes := predictedFrameSize }, false⟩)

/-- `PredictEncSettings` (`:277`). -/
def predictEncSettings (m : CMath K) (p : Predictor K) (settings : Option FrameSettings) :
    Predictor K × Except TcaeStatus Decision :=
  match p.networkPredictor, settings with
  | none, _ => (p, .error .errNotInitialized)
  | _, none => (p, .error .errNullPtr)
  | some np, some settings =>
    let r := p.predictEncSettingsImpl m np settings
    (r.1, .ok r.2)

/-! ## Runs -/

/-- The calls of a started predictor, in any order. -/
inductive Input (K : Type) where
  | updateNetworkState (data : Option PerFrameNetworkData)
  | bitstreamSent (bts : Option EncodedFrameFeedback)
  | setFps (fps : K)
  | predictEncSettings (settings : Option FrameSettings)

/-- Any call of the class. -/
inductive Call (K : Type) where
  | start (steady : Bool) (params : Option TcaeInitParams)
  | stop
  | input (i : Input K)

def input (m : CMath K) (p : Predictor K) : Input K → Predictor K
  | .updateNetworkState data => (p.updateNetworkState data).1
  | .bitstreamSent bts => (p.bitstreamSent bts).1
  | .setFps fps => (p.setFps fps).1
  | .predictEncSettings settings => (p.predictEncSettings m settings).1

def call (m : CMath K) (p : Predictor K) : Call K → Predictor K
  | .start steady params => (p.start steady params).1
  | .stop => p.stop.1
  | .input i => p.input m i

end Predictor
end CloudStreaming.Tcae
