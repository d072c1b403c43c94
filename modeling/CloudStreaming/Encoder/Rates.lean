import CloudStreaming.Lib.Runs

/-!
# Rates of a running encoder (`CTransCoder.cpp:737-801`, `:1100-1110`, `:1394-1408`; `CFFEncoder.cpp:68-243`)

`setBitrate` and `setMaxBitrate` leave a value and a flag; the next frame writes the value to the codec context and
clears the flag. The context is opened by its first frame, after that write, and takes the entries "b" and "maxrate"
of its dictionary then. The dictionary is a copy of `m_pOutProp`, which a request does not touch (a change of the
profile or of the codec does, `:1515`, `:1945`), and a restart makes a new context from it. So a request is
overwritten by the opening that follows it, be it the first one or the one after a restart.

| here | there |
| --- | --- |
| `Rate`        | `m_setBitrate`, `m_bitrate` (or the two of the maximum); `requested`, the last value asked for, is not in the code |
| `Setting`     | the entry of `m_pOutProp`, and what a context has before it is opened |
| `Field`       | the entry of `m_pDict`, and `bit_rate` or `rc_max_rate` |
| `Op.output`   | `doOutput` up to its loop: the restart, and a new encoder if there is none |
| `Op.frame`    | one frame of the loop: `dynamicSetEncParameters`, `CFFEncoder::write` |

The two rates go through the same code, so one rate has one definition. TCAE is off: nothing but the two requests
sets a rate.
-/

namespace CloudStreaming.Encoder.Rates

structure Rate where
  set : Int
  value : Int
  requested : Option Int

structure Setting where
  entry : Option Int
  fresh : Int

structure Field where
  entry : Option Int
  rate : Int

structure Settings where
  b : Setting
  maxrate : Setting

structure CFFEncoder where
  codec : Bool
  inited : Bool
  bitRate : Field
  rcMaxRate : Field

structure CTransCoder where
  bitrate : Rate
  maxBitrate : Rate
  isEncHWError : Bool
  isResolutionChange : Bool
  isCodecChange : Bool
  isProfileLevelChange : Bool
  encoder : Option CFFEncoder

/-- `refused`: `avcodec_open2` fails before it touches the context; `closed`: it fails later and takes the codec. -/
inductive OpenResult where
  | opened
  | refused
  | closed
deriving DecidableEq

/-- `send`: `avcodec_send_frame` accepts the frame. -/
structure FrameIo where
  openResult : OpenResult
  send : Bool

inductive Restart where
  | encHWError
  | resolutionChange
  | codecChange
  | profileLevelChange

/-- `parameters` of an output: `avcodec_parameters_to_context` succeeds. -/
inductive Op where
  | setBitrate (bitrate : { b : Int // 0 < b })
  | setMaxBitrate (maxBitrate : { b : Int // 0 < b })
  | restart (cause : Restart)
  | output (parameters : Bool)
  | frame (io : FrameIo)

/-! ## One rate -/

/-- What a context is configured to. -/
def Setting.configured (c : Setting) : Int := c.entry.getD c.fresh

/-- What is to be in force: the last value requested, or the configured one. -/
def Rate.inForce (c : Setting) (r : Rate) : Int := r.requested.getD c.configured

/-- `CTransCoder::setBitrate`, `CTransCoder::setMaxBitrate` (`CTransCoder.cpp:1394`, `:1402`). -/
def Rate.request (r : Rate) (b : Int) : Rate := { r with set := b, value := b }

/-- `dynamicSetEncParameters` (`:1100`, `:1106`). -/
def Rate.dynamicSet (r : Rate) (f : Field) : Rate × Field :=
  if r.set ≠ 0 then ({ r with set := 0 }, { f with rate := r.value }) else (r, f)

/-- `CFFEncoder::init`: the dictionary is copied last, unless the parameters failed before. -/
def Field.init (c : Setting) (parameters : Bool) : Field := ⟨if parameters then c.entry else none, c.fresh⟩

/-- `avcodec_open2` takes the entry out of the dictionary. -/
def Field.open2 (f : Field) : Field := ⟨none, f.entry.getD f.rate⟩

/-! ## The transcoder -/

/-- `CFFEncoder::init` (`CFFEncoder.cpp:68`). -/
def CFFEncoder.init (cfg : Settings) (parameters : Bool) : CFFEncoder :=
  ⟨true, false, .init cfg.b parameters, .init cfg.maxrate parameters⟩

/-- `CFFEncoder::write` (`:213`): whether the frame was accepted. -/
def CFFEncoder.write (e : CFFEncoder) (io : FrameIo) : CFFEncoder × Bool :=
  if e.inited then (e, io.send)
  else if !e.codec then (e, false)
  else
    match io.openResult with
    | .opened => ({ e with inited := true, bitRate := e.bitRate.open2, rcMaxRate := e.rcMaxRate.open2 }, io.send)
    | .refused => (e, false)
    | .closed => ({ e with codec := false }, false)

/-- The restart and the new encoder of `doOutput` (`CTransCoder.cpp:737-787`). -/
def output (cfg : Settings) (s : CTransCoder) (parameters : Bool) : CTransCoder :=
  let s :=
    if s.isEncHWError || s.isResolutionChange || s.isCodecChange || s.isProfileLevelChange then
      { s with
        encoder := none
        isEncHWError := false
        isResolutionChange := false
        isCodecChange := false
        isProfileLevelChange := false }
    else s
  match s.encoder with
  | none => { s with encoder := some (.init cfg parameters) }
  | some _ => s

/-- One frame: `dynamicSetEncParameters` and `write`. -/
def frame (s : CTransCoder) (io : FrameIo) : CTransCoder × Bool :=
  match s.encoder with
  | none => (s, false)
  | some e =>
    let (bitrate, bitRate) := s.bitrate.dynamicSet e.bitRate
    let (maxBitrate, rcMaxRate) := s.maxBitrate.dynamicSet e.rcMaxRate
    let (e, accepted) := CFFEncoder.write { e with bitRate := bitRate, rcMaxRate := rcMaxRate } io
    ({ s with bitrate := bitrate, maxBitrate := maxBitrate, encoder := some e }, accepted)

def restart (s : CTransCoder) : Restart → CTransCoder
  | .encHWError => { s with isEncHWError := true }
  | .resolutionChange => { s with isResolutionChange := true }
  | .codecChange => { s with isCodecChange := true }
  | .profileLevelChange => { s with isProfileLevelChange := true }

def step (cfg : Settings) (s : CTransCoder) : Op → CTransCoder
  | .setBitrate b => { s with bitrate := { s.bitrate.request b with requested := some b } }
  | .setMaxBitrate b => { s with maxBitrate := { s.maxBitrate.request b with requested := some b } }
  | .restart cause => restart s cause
  | .output parameters => output cfg s parameters
  | .frame io => (frame s io).1

/-- `CTransCoder::start` reads `m_bitrate` from the options; nothing is pending. -/
def start (cfg : Settings) : CTransCoder :=
  ⟨⟨0, cfg.b.entry.getD 0, none⟩, ⟨0, 0, none⟩, false, false, false, false, none⟩

/-! ## What is to hold -/

/-- Both rates of the context are the ones in force. -/
def InForce (cfg : Settings) (s : CTransCoder) : Prop :=
  ∃ e, s.encoder = some e ∧ e.bitRate.rate = s.bitrate.inForce cfg.b ∧
    e.rcMaxRate.rate = s.maxBitrate.inForce cfg.maxrate

/-- A frame that is accepted finds the rates in force. -/
def StaysInForce (cfg : Settings) (s : CTransCoder) : Op → Prop
  | .frame io => (frame s io).2 = true → InForce cfg (frame s io).1
  | _ => True

/-- The frame opens the context. -/
def CFFEncoder.opens (e : CFFEncoder) (io : FrameIo) : Prop :=
  e.inited = false ∧ e.codec = true ∧ io.openResult = .opened

/-- A rate that an opening leaves right: where the dictionary has an entry, nothing else was asked for; where it has
none, a request is pending or the context has the rate already. -/
def Held (c : Setting) (r : Rate) (f : Field) : Prop :=
  match f.entry with
  | some b => r.inForce c = b
  | none => r.set ≠ 0 ∨ f.rate = r.inForce c

/-- Both rates are right at every opening. -/
def OpensRight (cfg : Settings) (s : CTransCoder) : Op → Prop
  | .frame io => ∀ e, s.encoder = some e → e.opens io →
      Held cfg.b s.bitrate e.bitRate ∧ Held cfg.maxrate s.maxBitrate e.rcMaxRate
  | _ => True

/-! ## One rate through a frame -/

section
variable {c : Setting} {r : Rate} {f : Field}

/-- A pending request is the last one. -/
def Rate.Ok (r : Rate) : Prop := r.set ≠ 0 → r.requested = some r.value

/-- With nothing pending the context has the rate in force. -/
def Synced (c : Setting) (r : Rate) (f : Field) : Prop := r.set = 0 → f.rate = r.inForce c

theorem Rate.Ok.request {b : Int} : Rate.Ok { r.request b with requested := some b } := fun _ => rfl

theorem Rate.Ok.inForce (h : r.Ok) (hset : r.set ≠ 0) : r.inForce c = r.value := by
  rw [Rate.inForce, h hset]
  rfl

/-- After a positive request the old rate of the context does not matter. -/
theorem Synced.request {b : Int} (hb : 0 < b) : Synced c { r.request b with requested := some b } f := by
  intro hset
  exact absurd hset (Int.ne_of_gt hb)

/-- Nothing is pending after `dynamicSetEncParameters`, and the same rate is to be in force. -/
theorem dynamicSet_rate (h : r.Ok) :
    (r.dynamicSet f).1.Ok ∧ (r.dynamicSet f).1.set = 0 ∧ (r.dynamicSet f).1.inForce c = r.inForce c := by
  unfold Rate.dynamicSet
  split
  · exact ⟨fun hne => absurd rfl hne, rfl, rfl⟩
  · next hset => exact ⟨h, not_not.mp hset, rfl⟩

/-- The context then has the rate in force if it had it or if a request was pending. -/
theorem dynamicSet_synced (h : r.Ok) (hsync : Synced c r f) :
    (r.dynamicSet f).2.rate = r.inForce c := by
  unfold Rate.dynamicSet
  split
  · next hset => exact (h.inForce hset).symm
  · next hset => exact hsync (not_not.mp hset)

/-- **An opening leaves the rate right exactly when it is held.** -/
theorem open2_right_iff (h : r.Ok) : (r.dynamicSet f).2.open2.rate = r.inForce c ↔ Held c r f := by
  unfold Rate.dynamicSet Held Field.open2
  cases hentry : f.entry with
  | some b =>
    by_cases hset : r.set ≠ 0
    · simp [hset, eq_comm]
    · simp [hset, eq_comm, hentry]
  | none =>
    by_cases hset : r.set ≠ 0
    · simp [hset, h.inForce hset]
    · simp [hset, hentry]

end

/-! ## Runs -/

/-- A context that is open has the rates in force, up to what is pending. -/
structure Inv (cfg : Settings) (s : CTransCoder) : Prop where
  bitrate : s.bitrate.Ok
  maxBitrate : s.maxBitrate.Ok
  synced : ∀ e, s.encoder = some e → e.inited = true →
    Synced cfg.b s.bitrate e.bitRate ∧ Synced cfg.maxrate s.maxBitrate e.rcMaxRate

variable {cfg : Settings} {s : CTransCoder}

/-- `doOutput` keeps an encoder or makes a new one, which is not open. -/
theorem output_cases (cfg : Settings) (s : CTransCoder) (parameters : Bool) :
    (output cfg s parameters).bitrate = s.bitrate ∧ (output cfg s parameters).maxBitrate = s.maxBitrate ∧
      ((output cfg s parameters).encoder = s.encoder ∨
        (output cfg s parameters).encoder = some (.init cfg parameters)) := by
  unfold output
  by_cases hrestart : (s.isEncHWError || s.isResolutionChange || s.isCodecChange || s.isProfileLevelChange) = true
  · simp [hrestart]
  · cases he : s.encoder with
    | none => simp [hrestart, he]
    | some e => simp [hrestart, he]

/-- What a frame does to the encoder. -/
theorem write_cases (e : CFFEncoder) (io : FrameIo) :
    (e.inited = true ∧ e.write io = (e, io.send)) ∨
      (e.opens io ∧ e.write io =
        ({ e with inited := true, bitRate := e.bitRate.open2, rcMaxRate := e.rcMaxRate.open2 }, io.send)) ∨
      ((e.write io).1.inited = false ∧ (e.write io).2 = false) := by
  unfold CFFEncoder.write CFFEncoder.opens
  cases hinit : e.inited with
  | true => exact .inl ⟨rfl, rfl⟩
  | false =>
    cases hcodec : e.codec with
    | false => exact .inr (.inr ⟨hinit, rfl⟩)
    | true =>
      cases hopen : io.openResult with
      | opened => exact .inr (.inl ⟨⟨rfl, rfl, rfl⟩, rfl⟩)
      | refused => exact .inr (.inr ⟨hinit, rfl⟩)
      | closed => exact .inr (.inr ⟨rfl, rfl⟩)

/-- **One frame.** If an opening leaves the rates right, a frame that is accepted finds them in force, and they stay
in force in a context that is open. -/
theorem frame_spec (hinv : Inv cfg s) (io : FrameIo) (hopens : OpensRight cfg s (.frame io)) :
    Inv cfg (frame s io).1 ∧ StaysInForce cfg s (.frame io) := by
  cases he : s.encoder with
  | none =>
    have hframe : frame s io = (s, false) := by
      rw [frame, he]
    rw [StaysInForce, hframe]
    exact ⟨hinv, fun h => by cases h⟩
  | some e =>
    obtain ⟨hb, hbset, hbforce⟩ := dynamicSet_rate (c := cfg.b) (f := e.bitRate) hinv.bitrate
    obtain ⟨hm, hmset, hmforce⟩ := dynamicSet_rate (c := cfg.maxrate) (f := e.rcMaxRate) hinv.maxBitrate
    generalize he' : { e with
      bitRate := (s.bitrate.dynamicSet e.bitRate).2
      rcMaxRate := (s.maxBitrate.dynamicSet e.rcMaxRate).2 } = e'
    have hframe : frame s io = ({ s with
        bitrate := (s.bitrate.dynamicSet e.bitRate).1
        maxBitrate := (s.maxBitrate.dynamicSet e.rcMaxRate).1
        encoder := some (e'.write io).1 }, (e'.write io).2) := by
      rw [frame, he, ← he']
    -- what is left to show is about the encoder that the frame leaves
    have hgoal : ∀ w : CFFEncoder × Bool, e'.write io = w →
        (w.1.inited = true → w.1.bitRate.rate = s.bitrate.inForce cfg.b ∧
          w.1.rcMaxRate.rate = s.maxBitrate.inForce cfg.maxrate) →
        (w.2 = true → w.1.inited = true) → Inv cfg (frame s io).1 ∧ StaysInForce cfg s (.frame io) := by
      intro w hw hrates haccepted
      rw [StaysInForce, hframe, hw]
      refine ⟨⟨hb, hm, ?_⟩, fun h => ?_⟩
      · intro d hd hinit
        obtain rfl := Option.some.inj hd
        obtain ⟨hrate, hmax⟩ := hrates hinit
        exact ⟨fun _ => hrate.trans hbforce.symm, fun _ => hmax.trans hmforce.symm⟩
      · obtain ⟨hrate, hmax⟩ := hrates (haccepted h)
        exact ⟨w.1, rfl, hrate.trans hbforce.symm, hmax.trans hmforce.symm⟩
    rcases write_cases e' io with ⟨hinit, hw⟩ | ⟨hopen, hw⟩ | ⟨hinit, hrefused⟩
    · refine hgoal _ hw (fun _ => ?_) (fun _ => hinit)
      subst he'
      obtain ⟨hsb, hsm⟩ := hinv.synced e he hinit
      exact ⟨dynamicSet_synced hinv.bitrate hsb, dynamicSet_synced hinv.maxBitrate hsm⟩
    · refine hgoal _ hw (fun _ => ?_) (fun _ => rfl)
      subst he'
      obtain ⟨hheld, hmheld⟩ := hopens e he hopen
      exact ⟨(open2_right_iff hinv.bitrate).mpr hheld, (open2_right_iff hinv.maxBitrate).mpr hmheld⟩
    · refine hgoal _ rfl (fun h => ?_) (fun h => ?_)
      · rw [hinit] at h
        cases h
      · rw [hrefused] at h
        cases h

theorem Inv.step (hinv : Inv cfg s) (op : Op) (hopens : OpensRight cfg s op) : Inv cfg (step cfg s op) := by
  cases op with
  | setBitrate b =>
    refine ⟨.request, hinv.maxBitrate, fun e he hinit => ?_⟩
    exact ⟨.request b.2, (hinv.synced e he hinit).2⟩
  | setMaxBitrate b =>
    refine ⟨hinv.bitrate, .request, fun e he hinit => ?_⟩
    exact ⟨(hinv.synced e he hinit).1, .request b.2⟩
  | restart cause =>
    cases cause with
    | encHWError => exact ⟨hinv.bitrate, hinv.maxBitrate, hinv.synced⟩
    | resolutionChange => exact ⟨hinv.bitrate, hinv.maxBitrate, hinv.synced⟩
    | codecChange => exact ⟨hinv.bitrate, hinv.maxBitrate, hinv.synced⟩
    | profileLevelChange => exact ⟨hinv.bitrate, hinv.maxBitrate, hinv.synced⟩
  | output parameters =>
    obtain ⟨hb, hm, hencoder⟩ := output_cases cfg s parameters
    constructor
    · rw [Rates.step, hb]
      exact hinv.bitrate
    · rw [Rates.step, hm]
      exact hinv.maxBitrate
    · intro e he hinit
      rw [Rates.step] at he ⊢
      rw [hb, hm]
      rcases hencoder with hsame | hnew
      · exact hinv.synced e (hsame.symm.trans he) hinit
      · obtain rfl := Option.some.inj (hnew.symm.trans he)
        cases hinit
  | frame io => exact (frame_spec hinv io hopens).1

theorem Inv.start (cfg : Settings) : Inv cfg (start cfg) :=
  ⟨fun h => absurd rfl h, fun h => absurd rfl h, fun e he => by cases he⟩

/-- **A rate stays in force as long as no opening overwrites it.** In every run of requests, frames and restarts in
which each opening of a context finds the rates held, every frame that is accepted has the last requested rates in
its context, or the configured ones. -/
theorem rates_stay_in_force (cfg : Settings) (ops : List Op)
    (hopens : Runs.Meets (step cfg) (OpensRight cfg) (start cfg) ops) :
    Runs.Meets (step cfg) (StaysInForce cfg) (start cfg) ops := by
  refine Runs.Meets.imp (I := Inv cfg) (fun s op hinv => hinv.step op) ?_ ops (start cfg) (Inv.start cfg) hopens
  intro s op hinv h
  cases op with
  | frame io => exact (frame_spec hinv io h).2
  | setBitrate b => trivial
  | setMaxBitrate b => trivial
  | restart cause => trivial
  | output parameters => trivial

/-- Constant bitrate at 2 Mbit/s. -/
def cbr : Settings := ⟨⟨some 2000000, 0⟩, ⟨some 2000000, 0⟩⟩

def halfRate : { b : Int // 0 < b } := ⟨1000000, by decide⟩

/-- A request between two frames of one context. -/
theorem request_between_frames_stays :
    Runs.Meets (step cbr) (StaysInForce cbr) (start cbr)
      [.output true, .frame ⟨.opened, true⟩, .setBitrate halfRate, .frame ⟨.opened, true⟩] := by
  refine rates_stay_in_force cbr _ ⟨trivial, ?_, trivial, ?_, trivial⟩
  · rintro e he -
    obtain rfl := Option.some.inj he
    exact ⟨rfl, rfl⟩
  · rintro e he ⟨hinit, -⟩
    obtain rfl := Option.some.inj he
    cases hinit

/-- A request before the first frame, and one before a restart: the context is opened at the configured rate. -/
theorem request_lost_by_opening :
    ¬Runs.Meets (step cbr) (StaysInForce cbr) (start cbr)
      [.setBitrate halfRate, .output true, .frame ⟨.opened, true⟩] ∧
    ¬Runs.Meets (step cbr) (StaysInForce cbr) (start cbr)
      [.output true, .frame ⟨.opened, true⟩, .setBitrate halfRate, .frame ⟨.opened, true⟩, .restart .resolutionChange,
        .output true, .frame ⟨.opened, true⟩] := by
  constructor
  · rintro ⟨-, -, hframe, -⟩
    obtain ⟨e, he, hrate, -⟩ := hframe rfl
    obtain rfl := Option.some.inj he
    cases hrate
  · rintro ⟨-, -, -, -, -, -, hframe, -⟩
    obtain ⟨e, he, hrate, -⟩ := hframe rfl
    obtain rfl := Option.some.inj he
    cases hrate

end CloudStreaming.Encoder.Rates
