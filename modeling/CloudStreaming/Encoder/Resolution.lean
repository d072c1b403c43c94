import CloudStreaming.Lib.Runs

/-!
# Changing the resolution (`CTransCoder.cpp:373-475`, `:727-801`, `:1485-1497`)

`changeResolution` sets a flag and then the two numbers; the transcoder thread, which takes no lock for it, tests the
flag in `decode` and makes a new filter, tests it again in `doOutput`, drops the encoder and clears it. What is
written between the two is taken for handled: the flag is gone and the filter has the old size, from then on.

| here | there |
| --- | --- |
| `Writer`      | where a call of `changeResolution` is; `IrrStreamer::m_Lock` lets in one at a time |
| `Phase`       | where the transcoder thread is in a frame; one phase for each access to the shared fields |
| `decInfo`     | the size in `pDecInfo`, which survives the filter |
| `Filter`      | the sizes of `pDecInfo` and `EncInfo` it was made with |
| `encoder`     | the size of the filter's sink when the encoder was made |
| `last`, `seenWidth`, `seenHeight` | not in the code: the last accepted request, and whether `decode` read the number since it was written |

The transcoder's own call for a new crop (`:657`) is such a request, made between two frames. A frame that fails in
`decode` ends there (`Io.abort`).
-/

namespace CloudStreaming.Encoder.Resolution

@[ext]
structure Size where
  width : Int
  height : Int
deriving DecidableEq

structure Filter where
  src : Size
  sink : Size
deriving DecidableEq

inductive Writer where
  | idle
  | flagSet (width height : Int)
  | widthSet (height : Int)
deriving DecidableEq

inductive Phase where
  | idle
  | tested
  | setDecWidth
  | setDecHeight
  | setEncWidth
  | setEncHeight (width : Int)
  | decoded
  | dropped
  | clearing
  | restarted
  | output
deriving DecidableEq

structure CTransCoder where
  isResolutionChange : Bool
  newWidth : Int
  newHeight : Int
  isEncHWError : Bool
  isCodecChange : Bool
  isProfileLevelChange : Bool
  decInfo : Size
  filter : Option Filter
  encoder : Option Size
  phase : Phase
  writer : Writer
  last : Size
  seenWidth : Bool
  seenHeight : Bool

/-- `abort`: `decode` fails; `hwError`: `doOutput` returns `AVERROR_EXIT` or `AVERROR(EIO)`; `filterError`: the filter
gave no frame and its last error is `AVERROR(EIO)`. -/
structure Io where
  abort : Bool
  hwError : Bool
  filterError : Bool

inductive Op where
  | request (width height : Int)
  | write
  | codecChange
  | profileLevelChange
  | transcode (io : Io)

/-- The range of `changeResolution` (`:1486`). -/
def accepted (width height : Int) : Bool :=
  decide (32 ≤ width) && decide (width ≤ 4096) && decide (32 ≤ height) && decide (height ≤ 4096)

/-- The first write of `changeResolution` (`:1493`). -/
def request (s : CTransCoder) (width height : Int) : CTransCoder :=
  if s.writer = .idle ∧ accepted width height then
    { s with isResolutionChange := true, writer := .flagSet width height }
  else s

/-- The next write of the call that is under way (`:1494`, `:1495`). -/
def write (s : CTransCoder) : CTransCoder :=
  match s.writer with
  | .idle => s
  | .flagSet width height => { s with newWidth := width, seenWidth := false, writer := .widthSet height }
  | .widthSet height => { s with newHeight := height, seenHeight := false, writer := .idle }

/-- The test of `decode` (`:373`). -/
def testFilters (s : CTransCoder) : CTransCoder :=
  { s with
    filter := if s.isEncHWError || s.isResolutionChange then none else s.filter
    phase := .tested }

/-- A filter is made if there is none, from the new size if the flag is set (`:390`, `:461`). -/
def makeFilter (s : CTransCoder) : CTransCoder :=
  if s.filter.isSome then { s with phase := .decoded }
  else if s.isResolutionChange then { s with phase := .setDecWidth }
  else { s with filter := some ⟨s.decInfo, s.decInfo⟩, phase := .decoded }

/-- An encoder is made if there is none, for the sink of the filter (`:760-787`). -/
def makeEncoder (s : CTransCoder) : Option Size :=
  match s.encoder with
  | some e => some e
  | none => s.filter.map Filter.sink

/-- The test of `doOutput` (`:737`); without a flag it goes on with the encoder. -/
def testEncoders (s : CTransCoder) : CTransCoder :=
  if s.isEncHWError || s.isResolutionChange || s.isCodecChange || s.isProfileLevelChange then
    { s with encoder := none, isEncHWError := false, phase := .dropped }
  else { s with encoder := makeEncoder s, phase := .output }

/-- One access of the transcoder thread. -/
def transcode (s : CTransCoder) (io : Io) : CTransCoder :=
  match s.phase with
  | .idle => testFilters s
  | .tested => if io.abort then { s with phase := .idle } else makeFilter s
  | .setDecWidth =>
    { s with decInfo := { s.decInfo with width := s.newWidth }, seenWidth := true, phase := .setDecHeight }
  | .setDecHeight =>
    { s with decInfo := { s.decInfo with height := s.newHeight }, seenHeight := true, phase := .setEncWidth }
  | .setEncWidth => { s with phase := .setEncHeight s.newWidth }
  | .setEncHeight width => { s with filter := some ⟨s.decInfo, ⟨width, s.newHeight⟩⟩, phase := .decoded }
  | .decoded => if io.abort then { s with phase := .idle } else testEncoders s
  | .dropped => { s with phase := if s.isResolutionChange then .clearing else .restarted }
  | .clearing => { s with isResolutionChange := false, phase := .restarted }
  | .restarted =>
    { s with
      isCodecChange := false
      isProfileLevelChange := false
      encoder := makeEncoder s
      phase := .output }
  | .output =>
    { s with
      isEncHWError := s.isEncHWError || io.hwError
      filter := if io.filterError then none else s.filter
      phase := .idle }

/-- The sizes that can be asked for. -/
def InRange (width height : Int) : Prop := (32 ≤ width ∧ width ≤ 4096) ∧ 32 ≤ height ∧ height ≤ 4096

instance (width height : Int) : Decidable (InRange width height) :=
  inferInstanceAs (Decidable ((_ ∧ _) ∧ _ ∧ _))

def step (s : CTransCoder) : Op → CTransCoder
  | .request width height =>
    { request s width height with
      last := if s.writer = .idle ∧ InRange width height then ⟨width, height⟩ else s.last }
  | .write => write s
  | .codecChange => { s with isCodecChange := true }
  | .profileLevelChange => { s with isProfileLevelChange := true }
  | .transcode io => transcode s io

/-- Started at the configured size. -/
def start (size : Size) : CTransCoder where
  isResolutionChange := false
  newWidth := 0
  newHeight := 0
  isEncHWError := false
  isCodecChange := false
  isProfileLevelChange := false
  decInfo := size
  filter := none
  encoder := none
  phase := .idle
  writer := .idle
  last := size
  seenWidth := false
  seenHeight := false

/-! ## What is to hold -/

/-- The step ends a frame: 1 or 0. -/
def frameEnded (s : CTransCoder) : Op → Nat
  | .transcode _ => if s.phase = .output then 1 else 0
  | _ => 0

/-- How many frames a run ends. -/
def framesEnded : CTransCoder → List Op → Nat
  | _, [] => 0
  | s, op :: ops => frameEnded s op + framesEnded (step s op) ops

def Op.isRequest : Op → Bool
  | .request _ _ => true
  | _ => false

/-- The filter and the encoder in use were made for this size, and between two frames there is an encoder. -/
def CreatedFor (size : Size) (s : CTransCoder) : Prop :=
  (∀ f, s.filter = some f → f = ⟨size, size⟩) ∧ (∀ e, s.encoder = some e → e = size) ∧
    (s.phase = .idle → s.encoder = some size)

/-- When `doOutput` clears the flag, no call is between two of its writes, and `decode` has read both numbers since
they were written. -/
def ClearsHandled (s : CTransCoder) : Op → Prop
  | .transcode _ =>
    s.phase = .clearing → s.writer = .idle ∧ s.seenWidth = true ∧ s.seenHeight = true
  | _ => True

instance (s : CTransCoder) : (op : Op) → Decidable (ClearsHandled s op)
  | .transcode _ => inferInstanceAs (Decidable (_ → _))
  | .request _ _ => inferInstanceAs (Decidable True)
  | .write => inferInstanceAs (Decidable True)
  | .codecChange => inferInstanceAs (Decidable True)
  | .profileLevelChange => inferInstanceAs (Decidable True)

/-! ## The invariant -/

/-- `decode` is reading the new size. -/
def Phase.setting : Phase → Bool
  | .setDecWidth | .setDecHeight | .setEncWidth | .setEncHeight _ => true
  | _ => false

/-- `decode` is done. -/
def Phase.outputting : Phase → Bool
  | .decoded | .dropped | .clearing | .restarted | .output => true
  | _ => false

/-- The numbers of the last request: written, or still to be written. -/
structure Written (s : CTransCoder) : Prop where
  flagSet : ∀ w h, s.writer = .flagSet w h → s.isResolutionChange = true ∧ s.last = ⟨w, h⟩
  widthSet : ∀ h, s.writer = .widthSet h → s.isResolutionChange = true ∧ s.last = ⟨s.newWidth, h⟩
  idle : s.writer = .idle → s.isResolutionChange = true → s.last = ⟨s.newWidth, s.newHeight⟩

/-- A number that `decode` has read since it was written is the one in use. -/
structure Read (s : CTransCoder) : Prop where
  decWidth : s.seenWidth = true → s.decInfo.width = s.newWidth
  decHeight : s.seenHeight = true → s.decInfo.height = s.newHeight
  encWidth : ∀ w, s.phase = .setEncHeight w → s.seenWidth = true → w = s.newWidth
  width : ∀ f, s.filter = some f → s.seenWidth = true → f.src.width = s.newWidth ∧ f.sink.width = s.newWidth
  height : ∀ f, s.filter = some f → s.seenHeight = true → f.src.height = s.newHeight ∧ f.sink.height = s.newHeight

/-- What the place in the frame says about the filter, the encoder and the flag. -/
structure Placed (s : CTransCoder) : Prop where
  setting : s.phase.setting = true → s.filter = none ∧ s.isResolutionChange = true
  clearing : s.phase = .clearing → s.isResolutionChange = true
  dropped : s.phase = .dropped ∨ s.phase = .clearing → s.encoder = none
  outputting : s.phase.outputting = true → s.filter.isSome
  output : s.phase = .output → s.encoder.isSome

/-- With no request under way everything was made for the last one. -/
structure Settled (s : CTransCoder) : Prop where
  decInfo : s.decInfo = s.last
  filter : ∀ f, s.filter = some f → f = ⟨s.last, s.last⟩
  encoder : ∀ e, s.encoder = some e → e = s.last

structure Inv (s : CTransCoder) : Prop where
  written : Written s
  read : Read s
  placed : Placed s
  settled : s.writer = .idle → s.isResolutionChange = false → Settled s

variable {s : CTransCoder}

theorem accepted_iff {width height : Int} : accepted width height = true ↔ InRange width height := by
  simp [accepted, InRange, and_assoc]

/-- A request, with what it asks for. -/
theorem step_request (s : CTransCoder) (width height : Int) :
    step s (.request width height) =
      if s.writer = .idle ∧ InRange width height then
        { s with isResolutionChange := true, writer := .flagSet width height, last := ⟨width, height⟩ }
      else s := by
  simp only [step, Resolution.request, accepted_iff]
  split
  · rfl
  · rfl

theorem Inv.request (hinv : Inv s) (width height : Int) : Inv (step s (.request width height)) := by
  rw [step_request]
  split
  · next hidle =>
    obtain ⟨⟨hflag, hwidth, hidle'⟩, hread, hplaced, hsettled⟩ := hinv
    refine ⟨⟨?_, ?_, ?_⟩, ⟨hread.1, hread.2, hread.3, hread.4, hread.5⟩, ?_, ?_⟩
    · grind
    · grind
    · grind
    · exact ⟨fun h => ⟨(hplaced.setting h).1, rfl⟩, fun _ => rfl, hplaced.dropped, hplaced.outputting, hplaced.output⟩
    · grind
  · exact hinv

theorem Inv.write (hinv : Inv s) : Inv (write s) := by
  unfold Resolution.write
  obtain ⟨⟨hflag, hwidth, hidle⟩, hread, hplaced, hsettled⟩ := hinv
  split
  · exact ⟨⟨hflag, hwidth, hidle⟩, hread, hplaced, hsettled⟩
  · next w h hw =>
    obtain ⟨hres, hlast⟩ := hflag w h hw
    refine ⟨⟨?_, ?_, ?_⟩, ⟨?_, hread.decHeight, ?_, ?_, hread.height⟩,
      ⟨hplaced.1, hplaced.2, hplaced.3, hplaced.4, hplaced.5⟩, ?_⟩
    · grind
    · grind
    · grind
    · grind
    · grind
    · grind
    · grind
  · next h hw =>
    obtain ⟨hres, hlast⟩ := hwidth h hw
    refine ⟨⟨?_, ?_, ?_⟩, ⟨hread.decWidth, ?_, hread.encWidth, hread.width, ?_⟩,
      ⟨hplaced.1, hplaced.2, hplaced.3, hplaced.4, hplaced.5⟩, ?_⟩
    · grind
    · grind
    · grind
    · grind
    · grind
    · grind

/-- What the transcoder thread leaves alone: the numbers and the call that writes them. -/
theorem transcode_frame (s : CTransCoder) (io : Io) :
    (transcode s io).newWidth = s.newWidth ∧ (transcode s io).newHeight = s.newHeight ∧
      (transcode s io).writer = s.writer ∧ (transcode s io).last = s.last := by
  unfold transcode testFilters makeFilter testEncoders
  grind

/-- The flag is cleared in one place. -/
theorem transcode_flag (s : CTransCoder) (io : Io) :
    (transcode s io).isResolutionChange = (s.isResolutionChange && !decide (s.phase = .clearing)) := by
  unfold transcode testFilters makeFilter testEncoders
  grind

theorem Written.transcode (h : Written s) (io : Io) (hclears : s.phase = .clearing → s.writer = .idle) :
    Written (transcode s io) := by
  obtain ⟨hwidth, hheight, hwriter, hlast⟩ := transcode_frame s io
  have hflag := transcode_flag s io
  obtain ⟨hflagSet, hwidthSet, hidle⟩ := h
  constructor
  · grind
  · grind
  · grind

theorem Read.transcode (h : Read s) (hplaced : Placed s) (io : Io) : Read (transcode s io) := by
  obtain ⟨hdecw, hdech, hencw, hw, hh⟩ := h
  have hsetting := hplaced.setting
  unfold Resolution.transcode testFilters makeFilter testEncoders
  constructor
  · grind
  · grind
  · grind
  · grind [Phase.setting]
  · grind [Phase.setting]

theorem makeEncoder_isSome (h : s.filter.isSome) : (makeEncoder s).isSome := by
  unfold makeEncoder
  split
  · rfl
  · rw [Option.isSome_map]
    exact h

theorem Settled.makeEncoder (h : Settled s) : ∀ e, makeEncoder s = some e → e = s.last := by
  intro e he
  unfold Resolution.makeEncoder at he
  split at he
  · next d hd =>
    obtain rfl := Option.some.inj he
    exact h.encoder d hd
  · obtain ⟨f, hf, rfl⟩ := Option.map_eq_some_iff.mp he
    rw [h.filter f hf]

theorem Placed.transcode (h : Placed s) (io : Io) : Placed (transcode s io) := by
  have hmade := makeEncoder_isSome (s := s)
  have hnone : ¬s.filter.isSome = true → s.filter = none := Option.not_isSome_iff_eq_none.mp
  obtain ⟨hsetting, hclearing, hdropped, hout, henc⟩ := h
  unfold Resolution.transcode testFilters makeFilter testEncoders
  constructor
  · grind [Phase.setting]
  · grind
  · grind
  · grind [Phase.outputting]
  · grind [Phase.outputting]

/-- Once the flag is down nothing of another size is made. -/
theorem Settled.transcode (h : Settled s) (hplaced : Placed s) (hres : s.isResolutionChange = false) (io : Io) :
    Settled (transcode s io) := by
  have hmade := h.makeEncoder
  obtain ⟨hdec, hfilter, hencoder⟩ := h
  have hsetting := hplaced.setting
  unfold Resolution.transcode testFilters makeFilter testEncoders
  constructor
  · grind [Phase.setting]
  · grind [Phase.setting]
  · grind [Phase.setting]

/-- **Clearing the flag** when both numbers were read: the filter and the decoder have the size of the last request,
and there is no encoder. -/
theorem Settled.of_clearing (hwritten : Written s) (hread : Read s) (hplaced : Placed s) (hphase : s.phase = .clearing)
    (hidle : s.writer = .idle) (hwidth : s.seenWidth = true) (hheight : s.seenHeight = true) (io : Io) :
    Settled (Resolution.transcode s io) := by
  have hlast := hwritten.idle hidle (hplaced.clearing hphase)
  rw [Resolution.transcode, hphase]
  refine ⟨?_, fun f hf => ?_, fun e he => ?_⟩
  · rw [hlast]
    exact Size.ext (hread.decWidth hwidth) (hread.decHeight hheight)
  · obtain ⟨hsrcw, hsinkw⟩ := hread.width f hf hwidth
    obtain ⟨hsrch, hsinkh⟩ := hread.height f hf hheight
    have hsrc : f.src = s.last := by
      rw [hlast]
      exact Size.ext hsrcw hsrch
    have hsink : f.sink = s.last := by
      rw [hlast]
      exact Size.ext hsinkw hsinkh
    rw [← hsrc]
    cases f
    simp_all
  · have hnone := hplaced.dropped (.inr hphase)
    rw [hnone] at he
    cases he

theorem Inv.transcode (hinv : Inv s) (io : Io) (hclears : ClearsHandled s (.transcode io)) :
    Inv (transcode s io) := by
  refine ⟨hinv.written.transcode io fun h => (hclears h).1, hinv.read.transcode hinv.placed io,
    hinv.placed.transcode io, fun hidle hres => ?_⟩
  obtain ⟨-, -, hwriter, -⟩ := transcode_frame s io
  rw [hwriter] at hidle
  by_cases hphase : s.phase = .clearing
  · obtain ⟨-, hwidth, hheight⟩ := hclears hphase
    exact .of_clearing hinv.written hinv.read hinv.placed hphase hidle hwidth hheight io
  · rw [transcode_flag, decide_eq_false hphase, Bool.not_false, Bool.and_true] at hres
    exact (hinv.settled hidle hres).transcode hinv.placed hres io

/-- The flags of the other two changes are no part of it. -/
theorem Inv.otherFlags (hinv : Inv s) (codec profileLevel : Bool) :
    Inv { s with isCodecChange := codec, isProfileLevelChange := profileLevel } := by
  obtain ⟨hwritten, hread, hplaced, hsettled⟩ := hinv
  refine ⟨⟨hwritten.1, hwritten.2, hwritten.3⟩, ⟨hread.1, hread.2, hread.3, hread.4, hread.5⟩,
    ⟨hplaced.1, hplaced.2, hplaced.3, hplaced.4, hplaced.5⟩, fun hidle hres => ?_⟩
  obtain ⟨hdec, hfilter, hencoder⟩ := hsettled hidle hres
  exact ⟨hdec, hfilter, hencoder⟩

theorem Inv.step (hinv : Inv s) (op : Op) (hclears : ClearsHandled s op) : Inv (step s op) := by
  cases op with
  | request width height => exact hinv.request width height
  | write => exact hinv.write
  | codecChange => exact hinv.otherFlags true s.isProfileLevelChange
  | profileLevelChange => exact hinv.otherFlags s.isCodecChange true
  | transcode io => exact hinv.transcode io hclears

theorem Inv.start (size : Size) : Inv (start size) := by
  refine ⟨⟨?_, ?_, ?_⟩, ⟨?_, ?_, ?_, ?_, ?_⟩, ⟨?_, ?_, ?_, ?_, ?_⟩, fun _ _ => ⟨rfl, ?_, ?_⟩⟩ <;>
    simp [Resolution.start, Phase.setting, Phase.outputting]

/-! ## Frames -/

/-- The flag is down, or the frame under way will see it. -/
def Coming (s : CTransCoder) : Prop :=
  s.isResolutionChange = true → s.phase ≠ .restarted ∧ s.phase ≠ .output

/-- Once an encoder was made there is one, but for the moment of its replacement. -/
def Equipped (s : CTransCoder) : Prop :=
  s.encoder.isSome ∨ s.phase = .dropped ∨ s.phase = .clearing ∨ s.phase = .restarted

theorem Coming.transcode (h : Coming s) (io : Io) : Coming (transcode s io) := by
  unfold Coming at h ⊢
  unfold Resolution.transcode testFilters makeFilter testEncoders
  grind

theorem Equipped.transcode (h : Equipped s) (hplaced : Placed s) (io : Io) : Equipped (transcode s io) := by
  have hmade := makeEncoder_isSome (s := s)
  have hout := hplaced.outputting
  unfold Equipped at h ⊢
  unfold Resolution.transcode testFilters makeFilter testEncoders
  grind [Phase.outputting]

/-- How far a run without requests has come: at 0 the flag is down for good, at 1 the next frame to end takes it
down. -/
def Stage : Nat → CTransCoder → Prop
  | 0, s => s.isResolutionChange = false ∧ Equipped s
  | 1, s => Coming s ∧ Equipped s
  | _, _ => True

theorem Stage.of_same {n : Nat} {s' : CTransCoder} (h : Stage n s) (hres : s'.isResolutionChange = s.isResolutionChange)
    (hphase : s'.phase = s.phase) (hencoder : s'.encoder = s.encoder) : Stage n s' := by
  match n with
  | 0 => simpa only [Stage, Equipped, hres, hphase, hencoder] using h
  | 1 => simpa only [Stage, Coming, Equipped, hres, hphase, hencoder] using h
  | _ + 2 => trivial

theorem Stage.write {n : Nat} (h : Stage n s) : Stage n (write s) := by
  unfold Resolution.write
  split
  · exact h
  · exact h.of_same rfl rfl rfl
  · exact h.of_same rfl rfl rfl

/-- Inside a frame nothing is lost. -/
theorem Stage.transcode {n : Nat} (h : Stage n s) (hplaced : Placed s) (io : Io) : Stage n (transcode s io) := by
  match n, h with
  | 0, ⟨hres, hequipped⟩ =>
    refine ⟨?_, hequipped.transcode hplaced io⟩
    rw [transcode_flag, hres, Bool.false_and]
  | 1, ⟨hcoming, hequipped⟩ => exact ⟨hcoming.transcode io, hequipped.transcode hplaced io⟩
  | _ + 2, _ => trivial

/-- The end of a frame is one stage. -/
theorem Stage.ended {n : Nat} (h : Stage n s) (hplaced : Placed s) (hphase : s.phase = .output) (io : Io) :
    Stage (n - 1) (Resolution.transcode s io) := by
  have hequipped : Equipped (Resolution.transcode s io) := by
    have hencoder := hplaced.output hphase
    rw [Resolution.transcode, hphase]
    exact .inl hencoder
  match n, h with
  | 0, h => exact h.transcode hplaced io
  | 1, ⟨hcoming, _⟩ =>
    refine ⟨?_, hequipped⟩
    cases hres : s.isResolutionChange with
    | true => exact absurd hphase (hcoming hres).2
    | false => rw [transcode_flag, hres, Bool.false_and]
  | 2, _ =>
    refine ⟨fun _ => ?_, hequipped⟩
    rw [Resolution.transcode, hphase]
    exact ⟨Phase.noConfusion, Phase.noConfusion⟩
  | _ + 3, _ => trivial

theorem Stage.step {n : Nat} (h : Stage n s) (hplaced : Placed s) (op : Op) (hquiet : op.isRequest = false) :
    Stage (n - frameEnded s op) (step s op) := by
  cases op with
  | request width height => cases hquiet
  | write => exact h.write
  | codecChange => exact h.of_same rfl rfl rfl
  | profileLevelChange => exact h.of_same rfl rfl rfl
  | transcode io =>
    rw [frameEnded]
    split
    · next hphase => exact h.ended hplaced hphase io
    · exact h.transcode hplaced io

theorem Stage.run : ∀ {n : Nat} {s : CTransCoder} (ops : List Op), Stage n s → Inv s →
    Runs.Meets Resolution.step ClearsHandled s ops → (∀ op ∈ ops, op.isRequest = false) →
    Stage (n - framesEnded s ops) (ops.foldl Resolution.step s)
  | _, _, [], h, _, _, _ => h
  | n, s, op :: ops, h, hinv, hmeets, hquiet => by
    rw [framesEnded, ← Nat.sub_sub]
    refine Stage.run ops (h.step hinv.placed op (hquiet op List.mem_cons_self)) (hinv.step op hmeets.1) hmeets.2 ?_
    exact fun op' h' => hquiet op' (List.mem_cons_of_mem _ h')

/-- With the flag down no call is under way, and everything in use has the size of the last request. -/
theorem Inv.createdFor (hinv : Inv s) (hstage : Stage 0 s) : CreatedFor s.last s := by
  obtain ⟨hres, hequipped⟩ := hstage
  have hidle : s.writer = .idle := by
    cases hw : s.writer with
    | idle => rfl
    | flagSet w h =>
      have hflag := (hinv.written.flagSet w h hw).1
      rw [hres] at hflag
      cases hflag
    | widthSet h =>
      have hflag := (hinv.written.widthSet h hw).1
      rw [hres] at hflag
      cases hflag
  have hsettled := hinv.settled hidle hres
  refine ⟨hsettled.filter, hsettled.encoder, fun hphase => ?_⟩
  rcases hequipped with hsome | hdropped | hclearing | hrestarted
  · obtain ⟨e, he⟩ := Option.isSome_iff_exists.mp hsome
    rw [he, hsettled.encoder e he]
  · cases hphase.symm.trans hdropped
  · cases hphase.symm.trans hclearing
  · cases hphase.symm.trans hrestarted

/-- **No resolution change is lost unless the flag is cleared over it.** In every interleaving in which the flag is
only cleared when no call is between its writes and both numbers were read since they were written, once no further
request arrives and two frames have ended, the filter and the encoder in use were made for the last requested size. -/
theorem resolution_applied (size : Size) (before after : List Op)
    (hmeets : Runs.Meets step ClearsHandled (start size) (before ++ after))
    (hquiet : ∀ op ∈ after, op.isRequest = false)
    (hframes : 2 ≤ framesEnded (before.foldl step (start size)) after) :
    CreatedFor ((before ++ after).foldl step (start size)).last ((before ++ after).foldl step (start size)) := by
  have hall := Runs.Meets.inv (I := Inv) (fun s op hinv => hinv.step op) (before ++ after) (start size)
    (Inv.start size) hmeets
  obtain ⟨hbefore, hafter⟩ := (Runs.meets_append before after (start size)).mp hmeets
  have hinv := Runs.Meets.inv (I := Inv) (fun s op hinv => hinv.step op) before (start size) (Inv.start size) hbefore
  have hstage : Stage 0 ((before ++ after).foldl step (start size)) := by
    have hrun := Stage.run (n := 2) after trivial hinv hafter hquiet
    rw [Nat.sub_eq_zero_of_le hframes] at hrun
    rw [List.foldl_append]
    exact hrun
  exact hall.createdFor hstage

/-- The transcoder thread alone, without an error. -/
def accesses (n : Nat) : List Op := List.replicate n (.transcode ⟨false, false, false⟩)

/-- A request before the first frame. -/
theorem request_between_frames_applied :
    let before := [.request 1280 720, .write, .write]
    let after := accesses 15
    CreatedFor ⟨1280, 720⟩ ((before ++ after).foldl step (start ⟨576, 960⟩)) :=
  resolution_applied ⟨576, 960⟩ [.request 1280 720, .write, .write] (accesses 15) (by decide) (by decide) (by decide)

/-- A request between `decode` and `doOutput` of the second frame: the flag is cleared over it, and two more frames
have the old size. -/
theorem request_inside_frame_lost :
    let before := accesses 6 ++ [.request 1280 720, .write, .write]
    let after := accesses 13
    let s := (before ++ after).foldl step (start ⟨576, 960⟩)
    (∀ op ∈ after, op.isRequest = false) ∧ 2 ≤ framesEnded (before.foldl step (start ⟨576, 960⟩)) after ∧
      s.last = ⟨1280, 720⟩ ∧ s.encoder = some ⟨576, 960⟩ ∧ ¬CreatedFor s.last s := by
  refine ⟨by decide, by decide, rfl, rfl, ?_⟩
  rintro ⟨-, hencoder, -⟩
  cases hencoder ⟨576, 960⟩ rfl

end CloudStreaming.Encoder.Resolution
