import CloudStreaming.Lib.Runs
import Mathlib.Data.Finset.Card

/-!
# Encoder clients and encoder modules (`streamer/core/encoder-common.cpp:183-268`)

The encoder modules are shared: the first client that registers starts them, the last one that unregisters stops
them. `encoder_register_client` tests for an empty set before it inserts, `encoder_unregister_client` after it erases.
The second test cannot tell the last client that goes from a client that was never there: with no client registered
every `encoder_unregister_client` stops modules that are not running.

| here | there |
| --- | --- |
| `Module`      | `ga_module_t`: which of its four functions are not `NULL` |
| `Modules`     | `vencoder`, `aencoder`; `ENABLE_AUDIO` is defined in `ga-common.h:62` |
| `Encoder`     | `encoder_clients`, `threadLaunched`, `sync_reset` |
| `calls`       | not in the source: the calls made, the oldest first |
| `receiver`    | `pCSendRecvMessage` of the module `irrv-receiver` |

The calls of `init` and `start` succeed; otherwise the process exits (`:193`, `:222`). Both functions hold
`encoder_lock` from beginning to end.
-/

namespace CloudStreaming.Streamer.EncoderClients

inductive Kind where
  | video
  | audio
deriving DecidableEq

inductive Call where
  | init
  | start
  | stop
  | deinit
deriving DecidableEq

structure Module where
  init : Bool
  start : Bool
  stop : Bool
  deinit : Bool

def Module.defines (m : Module) : Call → Bool
  | .init => m.init
  | .start => m.start
  | .stop => m.stop
  | .deinit => m.deinit

structure Modules where
  vencoder : Option Module
  aencoder : Option Module

def Modules.get (ms : Modules) : Kind → Option Module
  | .video => ms.vencoder
  | .audio => ms.aencoder

structure Encoder (C : Type) where
  clients : Finset C
  threadLaunched : Bool
  syncReset : Bool
  calls : List (Kind × Call)

inductive Op (C : Type) where
  | registerClient (rtsp : C)
  | unregisterClient (rtsp : C)

section
variable {C : Type} [DecidableEq C] (ms : Modules)

def init : Encoder C := ⟨∅, false, true, []⟩

/-- `encoder_running` (`:59`). -/
def encoderRunning (s : Encoder C) : Nat := if s.threadLaunched then 1 else 0

/-- `if (m != NULL && m->call != NULL) m->call(..)`. -/
def invoke (kind : Kind) (call : Call) (s : Encoder C) : Encoder C :=
  match ms.get kind with
  | some m => if m.defines call then { s with calls := s.calls ++ [(kind, call)] } else s
  | none => s

/-- `encoder_register_client` (`:184`). -/
def encoderRegisterClient (rtsp : C) (s : Encoder C) : Encoder C :=
  let s :=
    if s.clients.card = 0 then
      let s := invoke ms .video .init s
      let s := invoke ms .audio .init s
      let s := { s with threadLaunched := true }
      let s := invoke ms .video .start s
      invoke ms .audio .start s
    else s
  { s with clients := insert rtsp s.clients }

/-- `encoder_unregister_client` (`:246`). -/
def encoderUnregisterClient (rtsp : C) (s : Encoder C) : Encoder C :=
  let s := { s with clients := s.clients.erase rtsp }
  if s.clients.card = 0 then
    let s := { s with threadLaunched := false }
    let s := invoke ms .video .stop s
    let s := invoke ms .video .deinit s
    let s := invoke ms .audio .stop s
    let s := invoke ms .audio .deinit s
    { s with syncReset := true }
  else s

def step (s : Encoder C) : Op C → Encoder C
  | .registerClient rtsp => encoderRegisterClient ms rtsp s
  | .unregisterClient rtsp => encoderUnregisterClient ms rtsp s

/-- The calls made of one module. -/
def callsOf (kind : Kind) (s : Encoder C) : List Call :=
  s.calls.filterMap fun e => if e.1 = kind then some e.2 else none

/-! ## What a lifecycle is -/

/-- The set of clients alone. -/
def clientsAfter (clients : Finset C) : Op C → Finset C
  | .registerClient rtsp => insert rtsp clients
  | .unregisterClient rtsp => clients.erase rtsp

/-- 1 when the last client goes. -/
def ends (clients : Finset C) (op : Op C) : Nat := if clients ≠ ∅ ∧ clientsAfter clients op = ∅ then 1 else 0

/-- How often the last client has gone. -/
def sessions (clients : Finset C) : List (Op C) → Nat
  | [] => 0
  | op :: ops => ends clients op + sessions (clientsAfter clients op) ops

/-- Of the calls `cs` those the module defines. -/
def made (kind : Kind) (cs : List Call) : List Call :=
  match ms.get kind with
  | some m => cs.filter m.defines
  | none => []

/-- `n` times through the lifecycle, and half of it once more while there are clients. -/
def lifecycle (n : Nat) (clients : Finset C) : List Call :=
  (List.replicate n [Call.init, .start, .stop, .deinit]).flatten ++ if clients = ∅ then [] else [.init, .start]

/-- The modules have gone through `n` lifecycles, and they run exactly when there are clients. -/
def Conforms (n : Nat) (s : Encoder C) : Prop :=
  (∀ kind, callsOf kind s = made ms kind (lifecycle n s.clients)) ∧
    (encoderRunning s = 1 ↔ s.clients ≠ ∅)

/-- No module would be stopped: there is a client, or a module has neither `stop` nor `deinit`. -/
def StopsRunning (s : Encoder C) (op : Op C) : Prop :=
  ∀ rtsp, op = .unregisterClient rtsp → s.clients = ∅ →
    ∀ kind m, ms.get kind = some m → m.stop = false ∧ m.deinit = false

/-! ## One call -/

variable {ms} {kind : Kind}

theorem made_append (as bs : List Call) : made ms kind (as ++ bs) = made ms kind as ++ made ms kind bs := by
  unfold made
  cases ms.get kind with
  | none => rfl
  | some m => exact List.filter_append ..

omit [DecidableEq C] in
@[simp] theorem callsOf_invoke (k : Kind) (call : Call) (s : Encoder C) :
    callsOf kind (invoke ms k call s) = callsOf kind s ++ if k = kind then made ms kind [call] else [] := by
  by_cases hk : k = kind
  · subst hk
    simp only [invoke, made, callsOf]
    cases ms.get k with
    | none => simp
    | some m =>
      by_cases hd : m.defines call = true
      · simp [hd]
      · simp [hd]
  · simp only [invoke, callsOf, if_neg hk]
    cases ms.get k with
    | none => simp
    | some m =>
      by_cases hd : m.defines call = true
      · simp [hd, hk]
      · simp [hd]

omit [DecidableEq C] in
@[simp] theorem invoke_clients (k : Kind) (call : Call) (s : Encoder C) : (invoke ms k call s).clients = s.clients := by
  unfold invoke
  split
  · split <;> rfl
  · rfl

omit [DecidableEq C] in
@[simp] theorem invoke_threadLaunched (k : Kind) (call : Call) (s : Encoder C) :
    (invoke ms k call s).threadLaunched = s.threadLaunched := by
  unfold invoke
  split
  · split <;> rfl
  · rfl

omit [DecidableEq C] in
@[simp] theorem callsOf_mk (s : Encoder C) (clients : Finset C) (launched reset : Bool) :
    callsOf kind ⟨clients, launched, reset, s.calls⟩ = callsOf kind s := rfl

/-! ## One operation -/

theorem made_pair (a b : Call) : made ms kind [a, b] = made ms kind [a] ++ made ms kind [b] :=
  made_append [a] [b]

/-- `encoder_register_client`: `init` and `start` when there was no client. -/
theorem register_spec (kind : Kind) (rtsp : C) (s : Encoder C) :
    callsOf kind (encoderRegisterClient ms rtsp s) =
        callsOf kind s ++ (if s.clients = ∅ then made ms kind [.init, .start] else []) ∧
      (encoderRegisterClient ms rtsp s).clients = insert rtsp s.clients ∧
      (encoderRegisterClient ms rtsp s).threadLaunched = (s.threadLaunched || decide (s.clients = ∅)) := by
  unfold encoderRegisterClient
  by_cases hc : s.clients = ∅
  · simp only [Finset.card_eq_zero, hc, if_true, invoke_clients, invoke_threadLaunched]
    refine ⟨?_, by simp, by simp⟩
    rw [made_pair]
    cases kind <;> simp
  · simp [hc]

/-- `encoder_unregister_client`: `stop` and `deinit` when no client is left, whether or not there was one. -/
theorem unregister_spec (kind : Kind) (rtsp : C) (s : Encoder C) :
    callsOf kind (encoderUnregisterClient ms rtsp s) =
        callsOf kind s ++ (if s.clients.erase rtsp = ∅ then made ms kind [.stop, .deinit] else []) ∧
      (encoderUnregisterClient ms rtsp s).clients = s.clients.erase rtsp ∧
      (encoderUnregisterClient ms rtsp s).threadLaunched =
        (s.threadLaunched && decide (s.clients.erase rtsp ≠ ∅)) := by
  unfold encoderUnregisterClient
  by_cases hc : s.clients.erase rtsp = ∅
  · simp only [Finset.card_eq_zero, hc, if_true, invoke_clients, invoke_threadLaunched]
    refine ⟨?_, by simp, by simp⟩
    rw [made_pair]
    cases kind <;> simp
  · simp [hc]

theorem step_clients (s : Encoder C) (op : Op C) : (step ms s op).clients = clientsAfter s.clients op := by
  cases op with
  | registerClient rtsp => exact (register_spec .video rtsp s).2.1
  | unregisterClient rtsp => exact (unregister_spec .video rtsp s).2.1

theorem lifecycle_empty_succ (n : Nat) :
    lifecycle (n + 1) (∅ : Finset C) = (List.replicate n [Call.init, .start, .stop, .deinit]).flatten ++
      [.init, .start] ++ [.stop, .deinit] := by
  simp [lifecycle, List.replicate_succ']

/-- The calls of a module that does not run. -/
def stray (ms : Modules) (kind : Kind) (clients : Finset C) : Op C → List Call
  | .registerClient _ => []
  | .unregisterClient _ => if clients = ∅ then made ms kind [.stop, .deinit] else []

/-- **One operation** goes on with the lifecycle, and makes the stray calls. -/
theorem step_calls {n : Nat} {s : Encoder C} (h : callsOf kind s = made ms kind (lifecycle n s.clients)) (op : Op C) :
    callsOf kind (step ms s op) =
      made ms kind (lifecycle (n + ends s.clients op) (clientsAfter s.clients op)) ++ stray ms kind s.clients op := by
  cases op with
  | registerClient rtsp =>
    have hne : insert rtsp s.clients ≠ ∅ := Finset.insert_ne_empty rtsp s.clients
    have hend : ends s.clients (.registerClient rtsp) = 0 := if_neg fun hend => hne hend.2
    rw [step, (register_spec kind rtsp s).1, h, hend, Nat.add_zero, stray, List.append_nil]
    by_cases hc : s.clients = ∅
    · rw [if_pos hc, ← made_append, hc]
      simp [lifecycle, clientsAfter]
    · rw [if_neg hc]
      simp [lifecycle, clientsAfter, hc]
  | unregisterClient rtsp =>
    rw [step, (unregister_spec kind rtsp s).1, h, stray]
    by_cases hc : s.clients = ∅
    · have hend : ends s.clients (.unregisterClient rtsp) = 0 := if_neg fun hend => hend.1 hc
      rw [hend, clientsAfter]
      simp [hc]
    · by_cases he : s.clients.erase rtsp = ∅
      · have hend : ends s.clients (.unregisterClient rtsp) = 1 := if_pos ⟨hc, he⟩
        rw [hend, clientsAfter, he, if_pos rfl, if_neg hc, ← made_append, List.append_nil, lifecycle_empty_succ]
        simp only [lifecycle, if_neg hc]
      · have hend : ends s.clients (.unregisterClient rtsp) = 0 := if_neg fun hend => he hend.2
        rw [hend, clientsAfter, if_neg he, if_neg hc]
        simp [lifecycle, hc, he]

/-- The flag follows the set of clients, whatever is called. -/
theorem step_running {s : Encoder C} (h : encoderRunning s = 1 ↔ s.clients ≠ ∅) (op : Op C) :
    encoderRunning (step ms s op) = 1 ↔ (step ms s op).clients ≠ ∅ := by
  have hflag : ∀ t : Encoder C, encoderRunning t = 1 ↔ t.threadLaunched = true := by
    intro t
    cases hl : t.threadLaunched <;> simp [encoderRunning, hl]
  rw [hflag] at h
  rw [hflag, step_clients]
  cases op with
  | registerClient rtsp =>
    rw [step, (register_spec .video rtsp s).2.2]
    by_cases hc : s.clients = ∅
    · simp [hc, clientsAfter]
    · simp [h.mpr hc, clientsAfter]
  | unregisterClient rtsp =>
    rw [step, (unregister_spec .video rtsp s).2.2, clientsAfter]
    by_cases he : s.clients.erase rtsp = ∅
    · simp [he]
    · have hc : s.clients ≠ ∅ := by
        intro hc
        exact he (by rw [hc, Finset.erase_empty])
      simp [he, h.mpr hc]

theorem stray_eq_nil (s : Encoder C) (op : Op C) :
    (∀ kind, stray ms kind s.clients op = []) ↔ StopsRunning ms s op := by
  cases op with
  | registerClient rtsp => simp [stray, StopsRunning]
  | unregisterClient rtsp =>
    by_cases hc : s.clients = ∅
    · have hmade : ∀ kind, made ms kind [.stop, .deinit] = [] ↔
          ∀ m, ms.get kind = some m → m.stop = false ∧ m.deinit = false := by
        intro kind
        unfold made
        cases ms.get kind with
        | none => simp
        | some m => simp [List.filter_eq_nil_iff, Module.defines]
      simp [stray, StopsRunning, hc, hmade]
    · simp [stray, StopsRunning, hc]

theorem step_conforms {n : Nat} {s : Encoder C} (h : Conforms ms n s) (op : Op C) :
    Conforms ms (n + ends s.clients op) (step ms s op) ↔ StopsRunning ms s op := by
  rw [← stray_eq_nil]
  constructor
  · intro h' kind
    have hk := h'.1 kind
    rw [step_calls (h.1 kind), step_clients] at hk
    simpa using hk
  · intro hs
    refine ⟨fun kind => ?_, step_running h.2 op⟩
    rw [step_calls (h.1 kind), step_clients, hs kind, List.append_nil]

/-! ## Every sequence of calls -/

/-- A run from any state in which the modules are where they should be. -/
theorem run_conforms : ∀ (ops : List (Op C)) (n : Nat) (s : Encoder C), Conforms ms n s →
    ((∀ before, before <+: ops → Conforms ms (n + sessions s.clients before) (before.foldl (step ms) s)) ↔
      Runs.Meets (step ms) (StopsRunning ms) s ops)
  | [], n, s, h => by
    simp [Runs.Meets, sessions, h]
  | op :: ops, n, s, h => by
    have hstep := step_conforms h op
    have hsess : ∀ before, n + sessions s.clients (op :: before) =
        n + ends s.clients op + sessions (step ms s op).clients before := by
      intro before
      rw [sessions, step_clients, Nat.add_assoc]
    constructor
    · intro hall
      have hnext : Conforms ms (n + ends s.clients op) (step ms s op) := by
        have h₁ := hall [op] (by simp)
        rw [hsess] at h₁
        exact h₁
      refine ⟨hstep.mp hnext, (run_conforms ops _ _ hnext).mp fun before hb => ?_⟩
      have h₂ := hall (op :: before) (List.cons_prefix_cons.mpr ⟨rfl, hb⟩)
      rw [hsess] at h₂
      exact h₂
    · rintro ⟨hs, hrest⟩ before hb
      cases before with
      | nil => simpa [sessions] using h
      | cons op' before =>
        obtain ⟨rfl, hbefore⟩ := List.cons_prefix_cons.mp hb
        rw [hsess]
        exact (run_conforms ops _ _ (hstep.mpr hs)).mpr hrest before hbefore

theorem init_conforms (ms : Modules) : Conforms ms 0 (init : Encoder C) := by
  refine ⟨fun kind => ?_, by simp [init, encoderRunning]⟩
  unfold made
  cases ms.get kind <;> simp [callsOf, init, lifecycle]

/-- **When the encoder modules go through their lifecycle.** After each of the calls the modules have been called
`(init, start, stop, deinit)` once for every time the last client has gone, and `init, start` when there are clients
now, and `encoder_running()` is 1 exactly then: this holds of a sequence of calls exactly when
`encoder_unregister_client` is not called with no client registered, unless no module defines `stop` or `deinit`. -/
theorem encoder_lifecycle_iff (ms : Modules) (ops : List (Op C)) :
    (∀ before, before <+: ops → Conforms ms (sessions ∅ before) (before.foldl (step ms) init)) ↔
      Runs.Meets (step ms) (StopsRunning ms) init ops := by
  have h := run_conforms ops 0 init (init_conforms ms)
  simpa [init] using h

end

/-! ## The module `irrv-receiver` (`streamer/module/irrv-receiver/irrv-receiver.cpp:33-70`) -/

/-- `pCSendRecvMessage` is set or not; `none`: it is read when it is not. -/
def receiverCall (receiver : Bool) : Call → Option Bool
  | .init => some true
  | .start => if receiver then some receiver else none
  | .stop => if receiver then some receiver else none
  | .deinit => some false

def irrvReceiver : Module := ⟨true, true, true, true⟩

theorem receiver_cycles : ∀ n : Nat,
    (List.replicate n [Call.init, .start, .stop, .deinit]).flatten.foldlM receiverCall false = some false
  | 0 => rfl
  | n + 1 => by
    rw [List.replicate_succ, List.flatten_cons, List.foldlM_append]
    exact receiver_cycles n

/-- In a lifecycle the receiver is there when it is used. -/
theorem receiver_lifecycle {C : Type} [DecidableEq C] (aencoder : Option Module) (n : Nat) (clients : Finset C) :
    (made ⟨some irrvReceiver, aencoder⟩ .video (lifecycle n clients)).foldlM receiverCall false =
      some (decide (clients ≠ ∅)) := by
  have hall : made ⟨some irrvReceiver, aencoder⟩ .video (lifecycle n clients) = lifecycle n clients := by
    refine List.filter_eq_self.mpr fun call _ => ?_
    cases call <;> rfl
  rw [hall, lifecycle, List.foldlM_append, receiver_cycles]
  by_cases hc : clients = ∅
  · simp [hc]
  · simp [hc, receiverCall]

/-- **The receiver is there whenever it is used**, in every run that meets the condition. -/
theorem receiver_used_when_there {C : Type} [DecidableEq C] (aencoder : Option Module) (ops : List (Op C))
    (h : Runs.Meets (step ⟨some irrvReceiver, aencoder⟩) (StopsRunning ⟨some irrvReceiver, aencoder⟩) init ops) :
    ((callsOf .video (ops.foldl (step ⟨some irrvReceiver, aencoder⟩) init)).foldlM receiverCall false).isSome := by
  have hall := (run_conforms ops 0 init (init_conforms _)).mpr h ops (List.prefix_refl ops)
  rw [hall.1 .video, receiver_lifecycle]
  rfl

/-- The defect: a client that unregisters twice stops modules that do not run, and the receiver is read after
`deinit` has deleted it. -/
theorem unregister_twice_stops_stopped :
    let ms : Modules := ⟨some irrvReceiver, some irrvReceiver⟩
    let s : Encoder Nat := [Op.registerClient 0, .unregisterClient 0, .unregisterClient 0].foldl (step ms) init
    callsOf .video s = [.init, .start, .stop, .deinit, .stop, .deinit] ∧
      callsOf .audio s = [.init, .start, .stop, .deinit, .stop, .deinit] ∧
      (callsOf .video s).foldlM receiverCall false = none := by
  decide

end CloudStreaming.Streamer.EncoderClients
