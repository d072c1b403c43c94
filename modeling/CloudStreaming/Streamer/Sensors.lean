import CloudStreaming.Lib.OrderedMap
import CloudStreaming.Lib.Runs
import Mathlib.Algebra.Order.Ring.Int

/-!
# Sensors of the client (`server-webrtc/aic-vhal-client/SensorHandler.cpp:68-134`, `ics-p2p-client.cpp:538-541`, `:866`)

The vHAL says which sensors it wants; the handler stores each control packet and passes it on to a client that has
asked for sensors. A client asks with a "sensorcheck", which sends it everything stored so far and then, in a second
step, turns the passing on. A control packet that comes between the two is stored only: it is not in what was sent,
and it is not passed on.

| here | there |
| --- | --- |
| `sensorMap`         | `mSensorMap`, in the order of a `std::map` |
| `Command`           | what `sendCmdToClient` writes: the type, and the period of a start |
| `sent`              | the commands sent so far, the last one first |
| `checking`          | the message thread is between the two steps of a "sensorcheck" |
| `Op.sensorCheck`    | its next step: `configureClientSensors`, or `setClientRequestFlag(true)` |

`mIsClientRequested` is not initialised; the model starts with either value. The map lock makes a control packet and
`configureClientSensors` one step each.
-/

namespace CloudStreaming.Streamer.Sensors

structure Config where
  enabled : Bool
  samplingPeriodMs : Int
deriving DecidableEq

inductive Command where
  | sensorStart (type samplingPeriodMs : Int)
  | sensorStop (type : Int)
deriving DecidableEq

def Command.type : Command → Int
  | .sensorStart type _ => type
  | .sensorStop type => type

/-- `sendCmdToClient` (`:120`). -/
def command (type : Int) (config : Config) : Command :=
  if config.enabled then .sensorStart type config.samplingPeriodMs else .sensorStop type

theorem command_type (type : Int) (config : Config) : (command type config).type = type := by
  unfold command
  split <;> rfl

/-- The last command that was sent for the type. -/
def lastSent (sent : List Command) (type : Int) : Option Command := sent.find? fun c => c.type = type

structure SensorHandler where
  sensorMap : OrderedMap Int Config
  isClientRequested : Bool
  checking : Bool
  sent : List Command

inductive Op where
  | ctrlPacket (type : Int) (config : Config)
  | sensorCheck
  | onStopped

/-- `processVHALCtrlMsg` (`:68`). -/
def processVHALCtrlMsg (s : SensorHandler) (type : Int) (config : Config) : SensorHandler :=
  { s with
    sensorMap := s.sensorMap.insert type config
    sent := if s.isClientRequested then command type config :: s.sent else s.sent }

/-- `configureClientSensors` (`:113`): the entries are sent one after another. -/
def configureClientSensors (s : SensorHandler) : SensorHandler :=
  { s with sent := s.sensorMap.entries.foldl (fun sent e => command e.1 e.2 :: sent) s.sent }

def setClientRequestFlag (s : SensorHandler) (flag : Bool) : SensorHandler := { s with isClientRequested := flag }

/-- The next step of a "sensorcheck" (`ics-p2p-client.cpp:539`, `:540`). -/
def sensorCheck (s : SensorHandler) : SensorHandler :=
  if s.checking then { setClientRequestFlag s true with checking := false }
  else { configureClientSensors s with checking := true }

def step (s : SensorHandler) : Op → SensorHandler
  | .ctrlPacket type config => processVHALCtrlMsg s type config
  | .sensorCheck => sensorCheck s
  | .onStopped => setClientRequestFlag s false

def start (isClientRequested : Bool) : SensorHandler := ⟨.empty, isClientRequested, false, []⟩

/-! ## Agreement -/

/-- The client was last told of every sensor what the map says. -/
def Told (s : SensorHandler) : Prop :=
  ∀ e ∈ s.sensorMap.entries, lastSent s.sent e.1 = some (command e.1 e.2)

/-- A client that has asked for sensors agrees with the map. -/
def Agree (s : SensorHandler) : Prop := s.isClientRequested = true → Told s

/-- What the vHAL wants of every sensor: its last control packet of the type. -/
def wants (wanted : Int → Option Config) : Op → Int → Option Config
  | .ctrlPacket type config => Function.update wanted type (some config)
  | _ => wanted

def wantedBy (ops : List Op) : Int → Option Config := ops.foldl wants fun _ => none

/-- The map has what the vHAL wants. -/
def Holds (s : SensorHandler) (wanted : Int → Option Config) : Prop :=
  ∀ type config, (type, config) ∈ s.sensorMap.entries ↔ wanted type = some config

/-- The client was last told to start what the vHAL wants on, with its period, and to stop what it wants off. -/
def Follows (s : SensorHandler) (wanted : Int → Option Config) : Prop :=
  ∀ type config, wanted type = some config →
    lastSent s.sent type = some (if config.enabled then .sensorStart type config.samplingPeriodMs else .sensorStop type)

/-- A control packet between the two steps of a "sensorcheck" is passed on, or repeats what was sent. -/
def PassedOn (s : SensorHandler) : Op → Prop
  | .ctrlPacket type config =>
    s.checking = true → s.isClientRequested = false → lastSent s.sent type = some (command type config)
  | _ => True

theorem lastSent_command (sent : List Command) (type : Int) (config : Config) :
    lastSent (command type config :: sent) type = some (command type config) := by
  simp [lastSent, command_type]

theorem lastSent_cons_ne {sent : List Command} {c : Command} {type : Int} (h : c.type ≠ type) :
    lastSent (c :: sent) type = lastSent sent type := by
  simp [lastSent, h]

/-- A type that is not among the entries is not sent. -/
theorem lastSent_foldl_ne {type : Int} : ∀ (es : List (Int × Config)) (sent : List Command),
    (∀ e ∈ es, e.1 ≠ type) →
      lastSent (es.foldl (fun sent e => command e.1 e.2 :: sent) sent) type = lastSent sent type
  | [], _, _ => rfl
  | e :: es, sent, h => by
    rw [List.foldl_cons, lastSent_foldl_ne es _ fun e' he' => h e' (List.mem_cons_of_mem _ he')]
    refine lastSent_cons_ne ?_
    rw [command_type]
    exact h e List.mem_cons_self

/-- **The snapshot is complete**: after it was sent, the client was told every entry. -/
theorem lastSent_foldl_mem : ∀ (es : List (Int × Config)) (sent : List Command),
    es.Pairwise (fun e e' => e.1 < e'.1) → ∀ e ∈ es,
      lastSent (es.foldl (fun sent e => command e.1 e.2 :: sent) sent) e.1 = some (command e.1 e.2)
  | [], _, _, _, he => by cases he
  | d :: es, sent, h, e, he => by
    obtain ⟨hd, hes⟩ := List.pairwise_cons.mp h
    rw [List.foldl_cons]
    rcases List.mem_cons.mp he with rfl | htail
    · rw [lastSent_foldl_ne es _ fun e' he' => ne_of_gt (hd e' he')]
      exact lastSent_command sent e.1 e.2
    · exact lastSent_foldl_mem es _ hes e htail

/-- A control packet that the client is told of, now or before. -/
theorem Told.insert {s s' : SensorHandler} {type : Int} {config : Config} (h : Told s)
    (hmap : s'.sensorMap = s.sensorMap.insert type config) (hself : lastSent s'.sent type = some (command type config))
    (hother : ∀ t, t ≠ type → lastSent s'.sent t = lastSent s.sent t) : Told s' := by
  intro e he
  rw [hmap, OrderedMap.mem_insert] at he
  rcases he with rfl | ⟨hne, hmem⟩
  · exact hself
  · rw [hother e.1 hne]
    exact h e hmem

/-- In a "sensorcheck" as well the client is up to date. -/
def Inv (s : SensorHandler) : Prop := s.isClientRequested = true ∨ s.checking = true → Told s

theorem Inv.step {s : SensorHandler} (hinv : Inv s) (op : Op) (hpassed : PassedOn s op) : Inv (step s op) := by
  cases op with
  | ctrlPacket type config =>
    intro hon
    have htold : Told s := hinv hon
    refine htold.insert rfl ?_ ?_
    · show lastSent (if s.isClientRequested then _ else _) type = _
      split
      · exact lastSent_command _ _ _
      · next hoff =>
        have hchecking : s.checking = true := hon.resolve_left hoff
        exact hpassed hchecking (Bool.not_eq_true _ ▸ hoff)
    · intro t ht
      show lastSent (if s.isClientRequested then _ else _) t = _
      split
      · refine lastSent_cons_ne ?_
        rw [command_type]
        exact ht.symm
      · rfl
  | sensorCheck =>
    show Inv (sensorCheck s)
    unfold sensorCheck
    split
    · next hchecking => exact fun _ => hinv (.inr hchecking)
    · exact fun _ e he => lastSent_foldl_mem _ _ s.sensorMap.ascending e he
  | onStopped =>
    rintro (hflag | hchecking)
    · cases hflag
    · exact hinv (.inr hchecking)

theorem Holds.step {s : SensorHandler} {wanted : Int → Option Config} (h : Holds s wanted) (op : Op) :
    Holds (step s op) (wants wanted op) := by
  cases op with
  | ctrlPacket type config =>
    intro t c
    show (t, c) ∈ (s.sensorMap.insert type config).entries ↔ Function.update wanted type (some config) t = some c
    rw [OrderedMap.mem_insert, h t c]
    by_cases ht : t = type
    · subst ht
      simp [eq_comm]
    · simp [ht]
  | sensorCheck =>
    intro t c
    have hmap : (sensorCheck s).sensorMap = s.sensorMap := by
      unfold sensorCheck
      split <;> rfl
    show (t, c) ∈ (sensorCheck s).sensorMap.entries ↔ _
    rw [hmap]
    exact h t c
  | onStopped => exact h

/-- Every control packet is stored over the one before it of its type. -/
theorem Holds.run {wanted : Int → Option Config} : ∀ (ops : List Op) (s : SensorHandler), Holds s wanted →
    Holds (ops.foldl Sensors.step s) (ops.foldl wants wanted) := by
  intro ops
  induction ops generalizing wanted with
  | nil => exact fun s h => h
  | cons op ops ih => exact fun s h => ih (Sensors.step s op) (h.step op)

/-- **Agreement.** In every interleaving of control packets, "sensorcheck" messages and stops in which no new control
packet falls between the two steps of a "sensorcheck" while the flag is down, the map has the last control packet of every
sensor, and a client that has asked for sensors was last told of every sensor in the map what the map says, so that no
enable or disable is missed. -/
theorem sensors_agree (isClientRequested : Bool) (ops : List Op)
    (hpassed : Runs.Meets step PassedOn (start isClientRequested) ops) :
    let s := ops.foldl step (start isClientRequested)
    Holds s (wantedBy ops) ∧ Agree s ∧ (s.isClientRequested = true → Follows s (wantedBy ops)) := by
  intro s
  have hinv : Inv s := by
    refine Runs.Meets.inv (fun s op h => h.step op) ops (start isClientRequested) ?_ hpassed
    rintro - e he
    cases he
  have hholds : Holds s (wantedBy ops) := by
    refine Holds.run ops (start isClientRequested) fun type config => ?_
    simp [start, OrderedMap.empty]
  refine ⟨hholds, fun hflag => hinv (.inl hflag), fun hflag type config hwanted => ?_⟩
  exact hinv (.inl hflag) (type, config) ((hholds type config).mpr hwanted)

/-- A client that asks, and a sensor that is turned on after it. -/
theorem enable_after_check_passed_on :
    let ops : List Op := [.sensorCheck, .sensorCheck, .ctrlPacket 1 ⟨true, 20⟩]
    let s := ops.foldl step (start false)
    (Holds s (wantedBy ops) ∧ Agree s ∧ (s.isClientRequested = true → Follows s (wantedBy ops))) ∧
      s.isClientRequested = true ∧ s.sent = [.sensorStart 1 20] :=
  ⟨sensors_agree false _ ⟨trivial, trivial, fun h => absurd h Bool.false_ne_true, trivial⟩, rfl, rfl⟩

/-- One that is not passed on breaks the agreement when the flag goes up. -/
theorem not_agree_of_missed {s : SensorHandler} {type : Int} {config : Config}
    (h : ¬PassedOn s (.ctrlPacket type config)) : ¬Agree ([.ctrlPacket type config, .sensorCheck].foldl step s) := by
  simp only [PassedOn, Classical.not_imp] at h
  obtain ⟨hchecking, hflag, hlast⟩ := h
  have hstored : processVHALCtrlMsg s type config = { s with sensorMap := s.sensorMap.insert type config } := by
    simp [processVHALCtrlMsg, hflag]
  have hcheck : [.ctrlPacket type config, .sensorCheck].foldl step s =
      { s with sensorMap := s.sensorMap.insert type config, isClientRequested := true, checking := false } := by
    show sensorCheck (processVHALCtrlMsg s type config) = _
    rw [hstored, sensorCheck, if_pos hchecking]
    rfl
  rw [hcheck]
  intro hagree
  exact hlast (hagree rfl (type, config) (OrderedMap.mem_insert.mpr (.inl rfl)))

/-- The accelerometer is turned on while the first client asks: it is never told. -/
theorem enable_within_check_missed :
    ¬Agree ([.sensorCheck, .ctrlPacket 1 ⟨true, 20⟩, .sensorCheck].foldl step (start false)) := by
  refine not_agree_of_missed (s := step (start false) .sensorCheck) fun h => ?_
  cases h rfl rfl

end CloudStreaming.Streamer.Sensors
