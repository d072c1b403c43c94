import CloudStreaming.Irrv.Auth

/-!
# The authentication gate

Frames are written back, and controls applied, by the transcoding thread of an `IrrStreamer`, which decides
with two pieces of state: `auth_pass[server]`, which is right at any time (`Irrv.Auth`), and
`irr_stream_getAuthFlag()`, which goes through the pointer to the registered streamer and is `false` where
there is none (`stream.cpp:258-264`) or where the new one has not been started (`IrrStreamer.cpp:61`,
`:199`). `IrrStreamer::Register` and `Unregister` replace the pointer first; the destructor of the old
streamer stops and joins its thread afterwards (`:38-46`, `:69-75`). In between that thread reads the flag
of a stream that is gone as "not required": `teardown_leaks`. As long as every read of the flag finds the
streamer that requires authentication, nothing passes the gate (`gate_sound`).

`irrv_writeback` is two steps here, with its poll between them, because the flag it uses for the frame is
the one it read at its beginning.
-/

namespace CloudStreaming.Irrv

open Bytes Runs

/-- Frames are sent to, and controls applied from, authenticated connections only. -/
def Gated : List Event → Prop
  | [] => True
  | .vframe s c _ :: log => Authenticated log s c ∧ Gated log
  | .vctrl s c _ :: log => Authenticated log s c ∧ Gated log
  | _ :: log => Gated log

/-- A write-back between its two steps. -/
structure Pending where
  server : Server
  authRequired : Bool
  data : Buf
  flags : UInt32

/-- The server together with the life of its streamers: whether the registered one runs its thread, how
many old ones still do, and the write-backs under way. -/
structure Gate where
  world : World
  started : Bool
  retiring : Nat
  pending : List Pending

inductive GateOp where
  | register
  | start (auth : Bool)
  | unregister
  | join
  | writebackBegin (s : Server) (data : Buf) (flags : UInt32)
  | poll (s : Server) (io : Io)
  | writebackEnd (k : Nat) (fio : FrameIo)
  | close (s : Server)
  | peer (c : Conn) (bytes : Buf)

namespace Gate

def init : Gate := ⟨World.init none, false, 0, []⟩

/-- Some transcoding thread runs. -/
def running (g : Gate) : Bool := g.started || decide (0 < g.retiring)

/-- The pointer is replaced; the thread of the old streamer, if it has one, goes on until it is joined. -/
def replace (g : Gate) (streamer : Option Streamer) : Gate :=
  { g with
    world := { g.world with streamer := streamer }
    started := false
    retiring := if g.started then g.retiring + 1 else g.retiring }

/-- `IrrStreamer::start` (`:95`), as far as the flag goes; a started streamer is not started again. -/
def start (g : Gate) (auth : Bool) : Gate :=
  if g.started then g
  else
    match g.world.streamer with
    | none => g
    | some st =>
      { g with world := { g.world with streamer := some { st with auth := st.auth || auth } }, started := true }

def step (g : Gate) (o : GateOp) : Gate :=
  if g.world.aborted then g
  else
    match o with
    | .register => g.replace (some ⟨false, 0, false, false⟩)
    | .start auth => g.start auth
    | .unregister => g.replace none
    | .join => { g with retiring := g.retiring - 1 }
    | .writebackBegin s data flags =>
      if g.running then { g with pending := g.pending ++ [⟨s, g.world.authFlag, data, flags⟩] } else g
    | .poll s io => if g.running then { g with world := g.world.irrvChecknewconn s io } else g
    | .writebackEnd k fio =>
      match g.pending[k]? with
      | none => g
      | some p =>
        { g with
          world := g.world.sendFrame p.server p.authRequired p.data p.flags fio
          pending := g.pending.eraseIdx k }
    | .close s => { g with world := g.world.irrvClose s }
    | .peer c bytes => { g with world := g.world.peerSends c bytes }

/-- The step reads `irr_stream_getAuthFlag()`. -/
def reads (g : Gate) : GateOp → Bool
  | .writebackBegin _ _ _ => g.running
  | .poll _ _ => g.running
  | _ => false

end Gate

/-! ## The gate of one world -/

namespace World

/-- The bookkeeping is right, and nothing has passed the gate unauthenticated. -/
structure GateInv (w : World) : Prop where
  auth : AuthInv w
  gated : Gated w.log

theorem GateInv.current {w : World} (h : GateInv w) {s : Server} {c : Conn} (hc : w.clients s = some c)
    (hp : w.authPass s = true) : Authenticated w.log s c := by
  obtain ⟨c', hc', ha⟩ := (h.auth.agrees s).1 hp
  rw [hc] at hc'; cases hc'; exact ha

theorem GateInv.vframe {w : World} (h : GateInv w) (s : Server) (c : Conn) (data : Buf) (flags : UInt32)
    (io : FrameIo) (hc : w.clients s = some c) (hp : w.authPass s = true) :
    GateInv (w.sendVframe s c data flags io) := by
  have hrec : ∀ {u : World} (e : Event), Silent e → AuthInv u → AuthInv (u.record e) := fun e he hu =>
    hu.record he rfl rfl rfl (Nat.le_refl _)
  exact ⟨hrec (.send c data _) trivial (hrec (.send c _ _) trivial (hrec (.vframe s c ⟨data, flags⟩) trivial h.auth)),
    h.current hc hp, h.gated⟩

/-- While the flag is on, every callback keeps the gate shut. -/
theorem gateInv_preserved : Preserved (fun w => GateInv w ∧ w.authFlag = true) where
  accept w s io h hs := by
    refine ⟨⟨h.1.auth.acceptClient s io hs, ?_⟩, (acceptClient_authFlag w s io _).trans h.2⟩
    unfold acceptClient
    cases io.created <;> exact h.1.gated
  header w c os h := ⟨⟨authInv_preserved.header w c os h.1.auth, h.1.gated⟩, h.2⟩
  body w c os buf h := ⟨⟨authInv_preserved.body w c os buf h.1.auth, h.1.gated⟩, h.2⟩
  pass w s c body os h hc hf hm := ⟨⟨authInv_preserved.pass w s c body os h.1.auth hc hf hm, h.1.gated⟩, h.2⟩
  fail w s c body os h hc hf hm := ⟨⟨authInv_preserved.fail w s c body os h.1.auth hc hf hm, h.1.gated⟩, h.2⟩
  vctrl w s c v h hc hp := by
    refine ⟨⟨authInv_preserved.vctrl w s c v h.1.auth hc hp, ?_⟩, (authFlag_preserved true).vctrl w s c v h.2 hc hp⟩
    obtain ⟨f, hf, -⟩ := applyVctrl_cases w s c v
    rw [hf]
    exact ⟨h.1.current hc (hp h.2), h.1.gated⟩
  abort w h := ⟨⟨authInv_preserved.abort w h.1.auth, h.1.gated⟩, h.2⟩
  drop w s c h hc := by
    refine ⟨⟨authInv_preserved.drop w s c h.1.auth hc, ?_⟩, (dropClient_authFlag w s c).trans h.2⟩
    unfold dropClient
    dsimp only
    split <;> exact h.1.gated
  frame w s c data flags io h hc hp := ⟨h.1.vframe s c data flags io hc (hp h.2), h.2⟩
  message w s msg value os h := by
    refine ⟨⟨authInv_preserved.message w s msg value os h.1.auth, ?_⟩,
      (authFlag_preserved true).message w s msg value os h.2⟩
    unfold irrvSendMessage
    cases w.clients s <;> exact h.1.gated
  close w s h := ⟨⟨authInv_preserved.close w s h.1.auth, h.1.gated⟩, h.2⟩
  peer w c bytes h := ⟨⟨authInv_preserved.peer w c bytes h.1.auth, h.1.gated⟩, h.2⟩

/-- A new streamer pointer concerns neither the maps nor the log. -/
theorem GateInv.streamer {w : World} (h : GateInv w) (streamer : Option Streamer) :
    GateInv { w with streamer := streamer } :=
  ⟨h.auth.frame rfl rfl rfl (Nat.le_refl _), h.gated⟩

/-- The second step of a write-back that found authentication required. -/
theorem GateInv.sendFrame {w : World} (h : GateInv w) (s : Server) (data : Buf) (flags : UInt32) (fio : FrameIo) :
    GateInv (w.sendFrame s true data flags fio) := by
  unfold World.sendFrame
  split
  · exact h
  · rename_i c hc
    split
    · rename_i hp
      exact h.vframe s c data flags fio hc (permitted hp rfl)
    · exact h

end World

/-! ## Runs with streamers coming and going -/

namespace Gate

/-- Nothing has passed the gate, and the write-backs under way will not either. -/
structure Shut (g : Gate) : Prop where
  world : g.world.GateInv
  pending : ∀ p ∈ g.pending, p.authRequired = true

theorem Shut.replace {g : Gate} (h : g.Shut) (streamer : Option Streamer) : (g.replace streamer).Shut :=
  ⟨h.world.streamer streamer, h.pending⟩

/-- **One step**: the gate stays shut if the flag is on where it is read. -/
theorem Shut.step {g : Gate} (h : g.Shut) (o : GateOp) (hf : g.reads o = true → g.world.authFlag = true) :
    (g.step o).Shut := by
  unfold Gate.step
  split
  · exact h
  · cases o with
    | register => exact h.replace _
    | unregister => exact h.replace none
    | start auth =>
      show (g.start auth).Shut
      unfold Gate.start
      split
      · exact h
      · split
        · exact h
        · exact ⟨h.world.streamer _, h.pending⟩
    | join => exact ⟨h.world, h.pending⟩
    | writebackBegin s data flags =>
      dsimp only
      split
      · rename_i hrun
        refine ⟨h.world, fun p hp => ?_⟩
        rcases List.mem_append.1 hp with hp | hp
        · exact h.pending p hp
        · rw [List.mem_singleton.1 hp]; exact hf hrun
      · exact h
    | poll s io =>
      dsimp only
      split
      · rename_i hrun
        exact ⟨(World.gateInv_preserved.irrvChecknewconn g.world s io ⟨h.world, hf hrun⟩).1, h.pending⟩
      · exact h
    | writebackEnd k fio =>
      dsimp only
      split
      · exact h
      · rename_i p hp
        have hreq := h.pending p (List.mem_of_getElem? hp)
        refine ⟨?_, fun q hq => h.pending q (List.mem_of_mem_eraseIdx hq)⟩
        show (g.world.sendFrame p.server p.authRequired p.data p.flags fio).GateInv
        rw [hreq]
        exact h.world.sendFrame p.server p.data p.flags fio
    | close s => exact ⟨⟨World.authInv_preserved.close _ s h.world.auth, h.world.gated⟩, h.pending⟩
    | peer c bytes => exact ⟨⟨World.authInv_preserved.peer _ c bytes h.world.auth, h.world.gated⟩, h.pending⟩

/-- The three steps of a write-back that nothing interrupts are the callback. -/
theorem writeback_steps (g : Gate) (s : Server) (data : Buf) (flags : UInt32) (io : Io) (fio : FrameIo)
    (hrun : g.running = true) (ha : g.world.aborted = false) :
    (((g.step (.writebackBegin s data flags)).step (.poll s io)).step (.writebackEnd g.pending.length fio)).world =
      g.world.irrvWriteback s data flags io fio := by
  have hrun' : ({ g with pending := g.pending ++ [⟨s, g.world.authFlag, data, flags⟩] } : Gate).running = true := hrun
  simp only [Gate.step, ha, hrun, hrun', Bool.false_eq_true, if_false, if_true, World.irrvWriteback]
  split
  · rfl
  · simp

theorem init_shut : init.Shut := ⟨⟨World.init_authInv none, trivial⟩, fun _ hp => absurd hp List.not_mem_nil⟩

end Gate

/-- **The gate**: in every run of clients, polls, write-backs and streamers coming and going in which every
read of the authentication flag finds it on, frames go to and controls come from authenticated connections
only. -/
theorem gate_sound (ops : List GateOp)
    (hops : Meets Gate.step (fun g o => g.reads o = true → g.world.authFlag = true) Gate.init ops) :
    Gated (ops.foldl Gate.step Gate.init).world.log :=
  (Meets.inv (fun _ o h hf => h.step o hf) ops Gate.init Gate.init_shut hops).world.gated

/-- `before`, then one write-back of a frame of one byte by a thread that is left alone. -/
def thenWriteback (before : List GateOp) : List GateOp :=
  before ++ [.writebackBegin 0 [1] 0, .poll 0 Io.idle, .writebackEnd 0 ⟨[.moved 47 false], [.moved 0 false], .none⟩]

/-- A started stream with authentication and a client that authenticates before its first frame. -/
theorem gate_sound_authenticated :
    Gated ((thenWriteback [.register, .start true, .peer 0 (vauthEvent authId authKey), .poll 0 Io.ready]).foldl
      Gate.step Gate.init).world.log :=
  gate_sound _ ⟨by decide, by decide, by decide, by decide, by decide, by decide, by decide, trivial⟩

/-- The client of a stream with authentication connects and sends nothing; the streamer pointer is cleared. -/
def teardown : List GateOp := [.register, .start true, .poll 0 { Io.ready with selected := false }, .unregister]

/-- **A frame for a stranger during teardown**: the write-back that the old streamer's thread makes before
it is joined sends the client a frame. -/
theorem teardown_leaks : ¬ Gated ((thenWriteback teardown).foldl Gate.step Gate.init).world.log := by
  intro h
  have hlog : ((thenWriteback teardown).foldl Gate.step Gate.init).world.log =
      [.send 0 [1] [.moved 0 false], .send 0 (vframeEvent 0 1 720 1280) [.moved 47 false], .vframe 0 0 ⟨[1], 0⟩,
        .send 0 (World.headEvent .none true) [.moved 47 false], .accept 0 0] := by decide
  rw [hlog] at h
  obtain ⟨later, body, earlier, he, -⟩ := h.1
  have hmem : Event.vauth 0 0 body ∈ [Event.send 0 (World.headEvent .none true) [.moved 47 false], .accept 0 0] := by
    rw [he]; simp
  simp at hmem

end CloudStreaming.Irrv
