import CloudStreaming.Irrv.Steps
import Mathlib.Data.Set.Card

/-!
# Counting clients

`irr_stream_incClient` and `irr_stream_decClient` are called where a connection is accepted and where it
disconnects. Three other paths change the map without the counter, or the counter without the map: a new
connection whose proxy cannot be created (`irrv_protocol.cpp:255-260`), a failed authentication
(`:318-319`), and `irrv_close` of a server with a client (`:489-491`). Each of them leaves the counter one
higher than the number of connected servers for good (`step_balance`), so the counter is right after every
step of a run exactly if the run takes none of them (`clientCount_iff`).
-/

namespace CloudStreaming.Irrv

open Bytes Runs

namespace World

/-- The servers with a client. -/
def connected (w : World) : Set Server := { s | w.clients s ≠ none }

/-- The streamer's two flags. -/
def flags (w : World) : Option (Bool × Bool) := w.streamer.map (fun st => (st.allowEncode, st.allowTransmit))

/-- The counter is `excess` above the number of connected servers. -/
structure Balance (w : World) (excess : Int) : Prop where
  finite : w.connected.Finite
  count : ∃ st, w.streamer = some st ∧ st.clientNum = w.connected.ncard + excess

theorem Balance.getClientNum {w : World} {n : Int} (h : Balance w n) : w.getClientNum = w.connected.ncard + n := by
  obtain ⟨st, hst, hn⟩ := h.count
  rw [World.getClientNum, hst]; exact hn

theorem Balance.frame {w w' : World} {n : Int} (h : Balance w n) (hc : w'.clients = w.clients)
    (hs : w'.streamer = w.streamer) : Balance w' n := by
  have he : w'.connected = w.connected := by unfold connected; rw [hc]
  exact ⟨he ▸ h.finite, by rw [hs, he]; exact h.count⟩

/-- Flags and other members of the streamer do not matter. -/
theorem Balance.onStreamer {w : World} {n : Int} (h : Balance w n) (f : Streamer → Streamer)
    (hf : ∀ st, (f st).clientNum = st.clientNum) : Balance (w.onStreamer f) n := by
  obtain ⟨st, hst, hn⟩ := h.count
  exact ⟨h.finite, f st, by simp [World.onStreamer, hst], (hf st).trans hn⟩

theorem Balance.inc {w : World} {n : Int} (h : Balance w n) : Balance w.incClient (n + 1) := by
  obtain ⟨st, hst, hn⟩ := h.count
  refine ⟨h.finite, { st with clientNum := st.clientNum + 1 }, by simp [incClient, World.onStreamer, hst], ?_⟩
  show st.clientNum + 1 = w.connected.ncard + (n + 1)
  omega

theorem Balance.dec {w : World} {n : Int} (h : Balance w n) : Balance w.decClient (n - 1) := by
  obtain ⟨st, hst, hn⟩ := h.count
  refine ⟨h.finite, { st with clientNum := st.clientNum - 1 }, by simp [decClient, World.onStreamer, hst], ?_⟩
  show st.clientNum - 1 = w.connected.ncard + (n - 1)
  omega

theorem connected_connect {w : World} (s : Server) (c : Conn) :
    connected { w with clients := Function.update w.clients s (some c) } = insert s w.connected := by
  ext s'
  by_cases h : s' = s
  · subst h; simp [connected]
  · simp [connected, h]

theorem connected_clear {w : World} (s : Server) :
    connected { w with clients := Function.update w.clients s none } = w.connected \ {s} := by
  ext s'
  by_cases h : s' = s
  · subst h; simp [connected]
  · simp [connected, h]

/-- One more connected server, with the counter left behind. -/
theorem Balance.connect {w : World} {n : Int} (h : Balance w n) (s : Server) (c : Conn) (hs : w.clients s = none) :
    Balance { w with clients := Function.update w.clients s (some c) } (n - 1) := by
  have hmem : s ∉ w.connected := fun hm => hm hs
  obtain ⟨st, hst, hn⟩ := h.count
  refine ⟨?_, st, hst, ?_⟩
  · rw [connected_connect]; exact h.finite.insert s
  · rw [connected_connect, Set.ncard_insert_of_notMem hmem h.finite]
    push_cast; omega

/-- One connected server less, with the counter left behind. -/
theorem Balance.clear {w : World} {n : Int} (h : Balance w n) (s : Server) (hs : w.clients s ≠ none) :
    Balance { w with clients := Function.update w.clients s none } (n + 1) := by
  have hmem : s ∈ w.connected := hs
  obtain ⟨st, hst, hn⟩ := h.count
  have hcard := Set.ncard_sdiff_singleton_add_one hmem h.finite
  refine ⟨?_, st, hst, ?_⟩
  · rw [connected_clear]; exact h.finite.sdiff
  · rw [connected_clear]
    omega

/-! ## The small changes -/

theorem Balance.acceptClient {w : World} {n : Int} (h : Balance w n) (s : Server) (io : Io) (b : Bool)
    (hs : w.clients s = none) (hc : io.created = true) : Balance (w.acceptClient s io b) n := by
  have h1 := (h.connect s w.nextConn hs).inc
  rw [sub_add_cancel] at h1
  unfold World.acceptClient
  rw [hc]
  exact h1.frame rfl rfl

/-- A connection that cannot be created is counted all the same. -/
theorem Balance.acceptFails {w : World} {n : Int} (h : Balance w n) (s : Server) (io : Io) (b : Bool)
    (hs : w.clients s = none) (hc : io.created = false) :
    Balance (w.acceptClient s io b) (n + 1) ∧ (w.acceptClient s io b).clients s = none := by
  have hsame : Function.update w.clients s none = w.clients := by rw [← hs, Function.update_eq_self]
  unfold World.acceptClient
  rw [hc]
  refine ⟨?_, Function.update_self ..⟩
  exact (h.inc).frame hsame rfl

theorem Balance.applyVctrl {w : World} {n : Int} (h : Balance w n) (s : Server) (c : Conn) (v : Vctrl) :
    Balance (w.applyVctrl s c v) n := by
  obtain ⟨f, hf, hk⟩ := applyVctrl_cases w s c v
  rw [hf]
  have h1 : Balance (w.record (.vctrl s c v)) n := h.frame rfl rfl
  exact h1.onStreamer f (fun st => (hk st).2)

/-- A failed authentication closes the connection without counting. -/
theorem Balance.failVauth {w : World} {n : Int} (h : Balance w n) (s : Server) (c : Conn) (os : List SysOutcome)
    (hs : w.clients s = some c) : Balance (w.failVauth s c os) (n + 1) :=
  (h.clear s (by rw [hs]; simp)).frame rfl rfl

/-- A disconnect, without its flags. -/
def disconnected (w : World) (s : Server) (c : Conn) : World :=
  (({ w with clients := Function.update w.clients s none, authPass := Function.update w.authPass s false } :
    World).record (.drop s c)).decClient

theorem dropClient_eq (w : World) (s : Server) (c : Conn) :
    w.dropClient s c =
      if (w.disconnected s c).getClientNum = 0 then ((w.disconnected s c).setEncodeFlag false).setTransmitFlag false
      else w.disconnected s c := rfl

theorem Balance.disconnected {w : World} {n : Int} (h : Balance w n) (s : Server) (c : Conn)
    (hs : w.clients s = some c) : Balance (w.disconnected s c) n := by
  have h1 := h.clear s (by rw [hs]; simp)
  have h2 : Balance (({ w with
      clients := Function.update w.clients s none, authPass := Function.update w.authPass s false } :
      World).record (.drop s c)) (n + 1) := h1.frame rfl rfl
  have h3 := h2.dec
  rw [add_sub_cancel_right] at h3
  exact h3

theorem Balance.dropClient {w : World} {n : Int} (h : Balance w n) (s : Server) (c : Conn)
    (hs : w.clients s = some c) : Balance (w.dropClient s c) n := by
  have h1 := h.disconnected s c hs
  rw [dropClient_eq]
  split
  · have h2 : Balance ((w.disconnected s c).setEncodeFlag false) n := h1.onStreamer _ (fun _ => rfl)
    exact h2.onStreamer (fun st => { st with allowTransmit := false }) (fun _ => rfl)
  · exact h1

/-! ## One poll -/

/-- A new connection is there and its proxy cannot be created. -/
def AcceptFails (w : World) (s : Server) (io : Io) : Prop :=
  w.clients s = none ∧ io.newconn = true ∧ io.created = false

/-- The next event of the connection is a `VAUTH` with another id or key. -/
def FailingVauth (w : World) (c : Conn) (io : Io) : Prop :=
  let header := w.readHeader c io.recvHeader
  let body := (header.1.recvInto c io.recvBody (zeros vauthLen)).2
  wordAt header.2 1 = irrvEventVauth ∧ irrvCheckAuthentication (vauthId body) (vauthKey body) = false

/-- The poll finds the client readable, and what it reads is such a `VAUTH`. -/
def AuthFails (w : World) (s : Server) (io : Io) : Prop :=
  io.selected = true ∧ w.authFlag = true ∧ ∃ c, (w.pollAccept s io).clients s = some c ∧
    (w.pollAccept s io).checkConnect c io = .readable ∧ FailingVauth (w.pollAccept s io) c io

theorem Balance.readEvent {w : World} {n : Int} (h : Balance w n) (s : Server) (c : Conn) (io : Io) (b : Bool)
    (hs : w.clients s = some c) :
    ((b = true ∧ FailingVauth w c io) → Balance (w.readEvent s c io b) (n + 1)) ∧
      (¬ (b = true ∧ FailingVauth w c io) → Balance (w.readEvent s c io b) n) := by
  have hr : Balance (w.readHeader c io.recvHeader).1 n := h.frame rfl rfl
  unfold World.readEvent
  dsimp only
  by_cases ht : wordAt (w.readHeader c io.recvHeader).2 1 = irrvEventVauth ∧ b = true
  · rw [if_pos ht]
    let r := (w.readHeader c io.recvHeader).1.recvInto c io.recvBody (zeros vauthLen)
    have hb : Balance (r.1.record (.vauth s c r.2)) n := hr.frame rfl rfl
    unfold World.readVauth
    dsimp only
    split
    · rename_i hm
      refine ⟨fun hf => ?_, fun _ => hb.frame rfl rfl⟩
      have := hf.2.2
      rw [hm] at this; cases this
    · rename_i hm
      refine ⟨fun _ => hb.failVauth s c _ hs, fun hf => absurd ⟨ht.2, ht.1, ?_⟩ hf⟩
      simpa using hm
  · rw [if_neg ht]
    refine ⟨fun hf => absurd ⟨hf.2.1, hf.1⟩ ht, fun _ => ?_⟩
    split
    · have hb : Balance ((w.readHeader c io.recvHeader).1.recvInto c io.recvBody
          (overlay (io.uninit.take bodyLen) (zeros bodyLen))).1 n := hr.frame rfl rfl
      unfold World.readVctrl
      dsimp only
      split
      · exact hb.applyVctrl s c _
      · exact hb.frame rfl rfl
    · exact hr

/-- **One poll** leaves the counter where it was, relative to the connected servers, or one higher. -/
theorem Balance.irrvChecknewconn {w : World} {n : Int} (h : Balance w n) (s : Server) (io : Io) :
    (AcceptFails w s io ∨ AuthFails w s io → Balance (w.irrvChecknewconn s io) (n + 1)) ∧
      (¬ (AcceptFails w s io ∨ AuthFails w s io) → Balance (w.irrvChecknewconn s io) n) := by
  by_cases ha : AcceptFails w s io
  · obtain ⟨hs, hnew, hcr⟩ := ha
    have hp : w.pollAccept s io = w.acceptClient s io w.authFlag := by
      simp [World.pollAccept, irrvHaveClient, hs, hnew]
    obtain ⟨hb, hnone⟩ := h.acceptFails s io w.authFlag hs hcr
    refine ⟨fun _ => ?_, fun hn => absurd (Or.inl ⟨hs, hnew, hcr⟩) hn⟩
    unfold World.irrvChecknewconn
    simp only [hp, hnone]
    split <;> exact hb
  · have hb : Balance (w.pollAccept s io) n := by
      unfold World.pollAccept
      split
      · rename_i hc
        simp only [irrvHaveClient, Bool.and_eq_true, Bool.not_eq_true', Option.isSome_eq_false_iff,
          Option.isNone_iff_eq_none] at hc
        refine h.acceptClient s io _ hc.1 ?_
        by_contra hcr
        exact ha ⟨hc.1, hc.2, by simpa using hcr⟩
      · exact h
    have hflag := pollAccept_authFlag w s io
    unfold World.irrvChecknewconn AuthFails
    generalize w.pollAccept s io = u at hb hflag ⊢
    by_cases hsel : io.selected = true
    · simp only [hsel, if_true, true_and]
      cases hc : u.clients s with
      | none => simp [ha, hb]
      | some c =>
        simp only [Option.some.injEq, exists_eq_left']
        cases hst : u.checkConnect c io with
        | normal => simp [ha, hb]
        | disconnect => simpa [ha] using hb.dropClient s c hc
        | readable => simpa [ha] using hb.readEvent s c io w.authFlag hc
    · simp [hsel, ha, hb]

theorem sendFrame_same (w : World) (s : Server) (b : Bool) (data : Buf) (flags : UInt32) (fio : FrameIo) :
    (w.sendFrame s b data flags fio).clients = w.clients ∧ (w.sendFrame s b data flags fio).streamer = w.streamer := by
  unfold sendFrame
  split
  · exact ⟨rfl, rfl⟩
  · split <;> exact ⟨rfl, rfl⟩

/-- The flags after a disconnect: cleared if the counter reached 0, else as they were. -/
theorem dropClient_flags {w : World} (h : Balance w 0) (s : Server) (c : Conn) (hs : w.clients s = some c) :
    ((w.dropClient s c).connected = ∅ → (w.dropClient s c).flags = some (false, false)) ∧
      ((w.dropClient s c).connected ≠ ∅ → (w.dropClient s c).flags = w.flags) := by
  have hd := h.disconnected s c hs
  have hnum := hd.getClientNum
  obtain ⟨st, hst, -⟩ := h.count
  have hcon : (w.dropClient s c).connected = (w.disconnected s c).connected := by
    rw [dropClient_eq]; split <;> rfl
  have hzero : (w.disconnected s c).getClientNum = 0 ↔ (w.disconnected s c).connected = ∅ := by
    rw [hnum, add_zero, Nat.cast_eq_zero, Set.ncard_eq_zero hd.finite]
  rw [hcon, dropClient_eq]
  constructor
  · intro he
    rw [if_pos (hzero.2 he)]
    simp [flags, setEncodeFlag, setTransmitFlag, World.disconnected, decClient, World.onStreamer, hst]
  · intro hne
    rw [if_neg (fun h0 => hne (hzero.1 h0))]
    simp [flags, World.disconnected, decClient, World.onStreamer, hst]

theorem acceptClient_flags (w : World) (s : Server) (io : Io) (b : Bool) :
    (w.acceptClient s io b).flags = w.flags := by
  unfold acceptClient flags
  cases io.created <;> simp [incClient, World.onStreamer, sendTo, record, Option.map_map, Function.comp_def]

theorem pollAccept_flags (w : World) (s : Server) (io : Io) : (w.pollAccept s io).flags = w.flags := by
  unfold pollAccept
  split
  · exact acceptClient_flags w s io _
  · rfl

end World

/-! ## Whole runs -/

open World

/-- The poll of the step finds the client of `s` disconnected. -/
def Disconnects (w : World) (s : Server) (io : Io) (c : Conn) : Prop :=
  io.selected = true ∧ (w.pollAccept s io).clients s = some c ∧ (w.pollAccept s io).checkConnect c io = .disconnect

/-- The counter is the number of servers with a client. -/
def Counted (w : World) : Prop := w.getClientNum = w.connected.ncard

/-- A disconnect clears both flags if no client is left, and neither otherwise. -/
def FlagsRule (w : World) (o : Op) : Prop :=
  ∀ s io c, o.poll = some (s, io) → w.aborted = false → Disconnects w s io c →
    ((step w o).connected = ∅ → (step w o).flags = some (false, false)) ∧
      ((step w o).connected ≠ ∅ → (step w o).flags = w.flags)

/-- The steps that change the map and the counter apart. -/
def Miscounts (w : World) (o : Op) : Prop :=
  w.aborted = false ∧
    match o with
    | .close s => w.clients s ≠ none
    | o => ∃ s io, o.poll = some (s, io) ∧ (AcceptFails w s io ∨ AuthFails w s io)

/-- A step with a poll changes the maps and the streamer as the poll does. -/
theorem step_poll (w : World) (o : Op) {s : Server} {io : Io} (hp : o.poll = some (s, io)) (ha : w.aborted = false) :
    (step w o).clients = (w.irrvChecknewconn s io).clients ∧
      (step w o).streamer = (w.irrvChecknewconn s io).streamer := by
  rcases step_poll_cases w o hp ha with he | ⟨data, flags, fio, he⟩
  · rw [he]; exact ⟨rfl, rfl⟩
  · rw [he]; exact sendFrame_same _ s _ data flags fio

/-- **One step** keeps the excess of the counter, or raises it by one. -/
theorem step_balance (w : World) (o : Op) {n : Int} (h : Balance w n) :
    (Miscounts w o → Balance (step w o) (n + 1)) ∧ (¬ Miscounts w o → Balance (step w o) n) := by
  cases ha : w.aborted with
  | true =>
    have hstep : step w o = w := by simp [step, ha]
    rw [hstep]
    exact ⟨fun hm => absurd hm.1 (by simp [ha]), fun _ => h⟩
  | false =>
    cases hp : o.poll with
    | some x =>
      obtain ⟨s, io⟩ := x
      obtain ⟨hc, hs⟩ := step_poll w o hp ha
      obtain ⟨h1, h2⟩ := h.irrvChecknewconn s io
      have hm : Miscounts w o ↔ AcceptFails w s io ∨ AuthFails w s io := by
        cases o <;> cases hp <;> simp [Miscounts, ha, Op.poll]
      rw [hm]
      exact ⟨fun hb => (h1 hb).frame hc hs, fun hb => (h2 hb).frame hc hs⟩
    | none =>
      cases o with
      | checknewconn s io => cases hp
      | writeback s data flags io fio => cases hp
      | writeback2 s data type io fio => cases hp
      | sendMessage s msg value os =>
        refine ⟨fun hm => by simp [Miscounts, Op.poll] at hm, fun _ => ?_⟩
        simp only [step, ha, irrvSendMessage]
        cases w.clients s with
        | none => exact h
        | some c => exact h.frame rfl rfl
      | peer c bytes =>
        refine ⟨fun hm => by simp [Miscounts, Op.poll] at hm, fun _ => ?_⟩
        simp only [step, ha]
        exact h.frame rfl rfl
      | close s =>
        simp only [Miscounts, ha, true_and, not_not, step]
        refine ⟨fun hl => (h.clear s hl).frame rfl rfl, fun hn => ?_⟩
        refine h.frame ?_ rfl
        show Function.update w.clients s none = w.clients
        rw [← hn, Function.update_eq_self]

theorem flagsRule (w : World) (o : Op) (h : Balance w 0) : FlagsRule w o := by
  rintro s io c hp ha ⟨hsel, hc, hst⟩
  obtain ⟨hcl, hs⟩ := step_poll w o hp ha
  have hbal : Balance (w.pollAccept s io) 0 := by
    unfold pollAccept at hc ⊢
    split at hc
    · rename_i hacc
      rw [if_pos hacc]
      simp only [irrvHaveClient, Bool.and_eq_true, Bool.not_eq_true', Option.isSome_eq_false_iff,
        Option.isNone_iff_eq_none] at hacc
      refine h.acceptClient s io _ hacc.1 ?_
      by_contra hcr
      have := (h.acceptFails s io w.authFlag hacc.1 (by simpa using hcr)).2
      rw [this] at hc; cases hc
    · rename_i hacc
      rw [if_neg hacc]; exact h
  have hpoll : w.irrvChecknewconn s io = (w.pollAccept s io).dropClient s c := by
    unfold irrvChecknewconn
    simp only [hsel, if_true, hc, hst]
  have hcon : (step w o).connected = ((w.pollAccept s io).dropClient s c).connected := by
    unfold connected; rw [hcl, hpoll]
  have hfl : (step w o).flags = ((w.pollAccept s io).dropClient s c).flags := by
    unfold World.flags; rw [hs, hpoll]
  rw [hcon, hfl, ← pollAccept_flags w s io]
  exact dropClient_flags hbal s c hc

/-- One step counts right exactly when it does not miscount. -/
theorem step_counted_iff (w : World) (o : Op) (h : Balance w 0) :
    Counted (step w o) ∧ FlagsRule w o ↔ ¬ Miscounts w o := by
  obtain ⟨hbad, hgood⟩ := step_balance w o h
  by_cases hm : Miscounts w o
  · have hc : ¬ Counted (step w o) := by
      have := (hbad hm).getClientNum
      unfold Counted; omega
    exact ⟨fun hall => absurd hall.1 hc, fun hall => absurd hm hall⟩
  · have hc : Counted (step w o) := by
      have := (hgood hm).getClientNum
      unfold Counted; omega
    exact ⟨fun _ => hm, fun _ => ⟨hc, flagsRule w o h⟩⟩

theorem init_balance (auth encode transmit : Bool) : Balance (World.init (some ⟨auth, 0, encode, transmit⟩)) 0 := by
  have he : (World.init (some ⟨auth, 0, encode, transmit⟩)).connected = ∅ := by
    ext s; simp [connected, World.init]
  exact ⟨he ▸ Set.finite_empty, _, rfl, by rw [he]; simp⟩

/-- **Client counting**: in a run from a streamer with no clients, the counter is the number of connected
servers after every step, and every disconnect treats the flags accordingly, if and only if no step is a
failed accept, a failed authentication or an `irrv_close` of a server with a client. -/
theorem clientCount_iff (auth encode transmit : Bool) (ops : List Op) :
    Meets step (fun w o => Counted (step w o) ∧ FlagsRule w o) (World.init (some ⟨auth, 0, encode, transmit⟩)) ops ↔
      Meets step (fun w o => ¬ Miscounts w o) (World.init (some ⟨auth, 0, encode, transmit⟩)) ops := by
  refine meets_iff (I := fun w => Balance w 0) ?_ ?_ ops _ (init_balance auth encode transmit)
  · intro w o h
    exact step_counted_iff w o h
  · intro w o h hm
    exact (step_balance w o h).2 hm

/-- **A failed authentication is never counted out**: a client that connects and sends a `VAUTH` with a
wrong id and key is closed, and the counter stays at 1 with no client left. -/
theorem failedAuth_miscounts :
    let w := [Op.peer 0 (vauthEvent (zeros 16) (zeros 16)), .checknewconn 0 Io.ready].foldl step
      (World.init (some ⟨true, 0, false, false⟩))
    w.getClientNum = 1 ∧ w.connected.ncard = 0 := by
  intro w
  have hclients : w.clients = Function.update (Function.update (fun _ => none) 0 (some 0)) 0 none := rfl
  have hcon : w.connected = ∅ := by
    ext s; simp [connected, hclients]
  exact ⟨by decide, by rw [hcon]; simp⟩

end CloudStreaming.Irrv
