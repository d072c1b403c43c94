import CloudStreaming.Streamer.Controller
import Mathlib.Algebra.Ring.Int.Defs

/-!
# The control port (`streamer/core/controller.cpp:369-518`)

`ctrl_server_thread` serves one client after the other from one buffer. Over TCP a connection starts with a handshake,
which is whatever the first `recv` returns: it is checked up to the length it states, any start of the version is
accepted, and what came with it in the same `recv` is not looked at again (`:428`). Over UDP each datagram is a message
of its own; on Windows a datagram from another address than the last one asks the encoder for a key frame, is dropped,
and makes the server take the next datagram from anyone (`:453-470`).

| here | there |
| --- | --- |
| `Connection.first` | what the first `recv` returns (`:407`); `[]` for 0 or an error |
| `Connection.segs`  | what the next ones return, up to the one that ends the connection |
| `Connection.msgs`  | not in the source: what the client sends behind the first `recv` |
| `memcmp`           | `:418`; `beyond` compares bytes behind the copy of the version, which nothing defines |
| `Datagram.sender`  | `xsin`; an error leaves it zeroed, which is the address 0 here |
| `UdpServer.csin`   | `csin`, `none` while `clientaccepted` is 0 |
-/

namespace CloudStreaming.Streamer

open Memory Runs Chunks

namespace ControlServer

/-! ## TCP -/

/-- `strdup(CTRL_CURRENT_VERSION)`: `GACtrlV01` and its end. -/
def myctrlid : List UInt8 := [71, 65, 67, 116, 114, 108, 86, 48, 49, 0]

inductive Compared where
  | same
  | differs
  | beyond

/-- `memcmp(myctrlid, hh->id, n)`, with `hh` the start of the buffer. -/
def memcmp (mem : Nat → UInt8) (n : Nat) : Compared :=
  if load mem 1 (min n myctrlid.length) ≠ myctrlid.take n then .differs
  else if n ≤ myctrlid.length then .same
  else .beyond

/-- `hh->length-1` as a `size_t`. -/
def idLength (mem : Nat → UInt8) : Nat := ((mem 0).toNat + 18446744073709551615) % 18446744073709551616

structure Connection where
  first : List UInt8
  segs : List (List UInt8)
  msgs : List (List UInt8)

/-- The state in which the messages of a connection are received (`:424-432`). -/
def accept (s : Server) (conn : Connection) : Server :=
  { s with mem := store s.mem 0 conn.first, bufhead := 0, buflen := 0 }

/-- One connection (`:399-445`); `none` is the comparison that nothing defines. -/
def serve (hooks : Hooks) (s : Server) (conn : Connection) : Option Server :=
  let mem := store s.mem 0 conn.first
  if conn.first = [] then some s
  else if (mem 0).toNat > conn.first.length then some { s with mem := mem }
  else
    match memcmp mem (idLength mem) with
    | .differs => some { s with mem := mem }
    | .beyond => none
    | .same => some (conn.segs.foldl (Server.recv hooks) (accept s conn))

def serveAll (hooks : Hooks) (s : Server) (conns : List Connection) : Option Server := conns.foldlM (serve hooks) s

/-- A handshake that is accepted, by its own bytes: it states a length that it has, and a start of the version. -/
def greets : List UInt8 → Bool
  | [] => false
  | n :: id =>
    decide (1 ≤ n.toNat ∧ n.toNat ≤ id.length + 1 ∧ n.toNat ≤ myctrlid.length + 1) &&
      id.take (n.toNat - 1) == myctrlid.take (n.toNat - 1)

/-- The messages of a connection that arrive whole. -/
def Connection.arrived (conn : Connection) : List (List UInt8) :=
  if greets conn.first then whole conn.segs.flatten.length conn.msgs else []

/-- An accepted client sends well-formed messages, of which a last part may be lost, and they are cut only behind their
start; `recv` returns what it may. -/
def Proper (hooks : Hooks) (s : Server) (conn : Connection) : Prop :=
  greets conn.first = true →
    (∀ m ∈ conn.msgs, WellFormed m) ∧
    (∃ lost, conn.segs.flatten ++ lost = conn.msgs.flatten ∧ CutsBehindStart conn.msgs (conn.segs ++ [lost])) ∧
    Meets (Server.recv hooks) Server.Received (accept s conn) conn.segs

section
variable {hooks : Hooks} {s s' : Server} {conn : Connection}

theorem idLength_eq (mem : Nat → UInt8) :
    idLength mem = if mem 0 = 0 then 18446744073709551615 else (mem 0).toNat - 1 := by
  have hlt := (mem 0).toNat_lt
  unfold idLength
  split
  · next h => simp [h]
  · next h =>
    have hpos : (mem 0).toNat ≠ 0 := fun h0 => h (UInt8.toNat_inj.mp (by simpa using h0))
    omega

/-- Behind the first byte the buffer holds the rest of the first `recv`. -/
theorem load_first (mem : Nat → UInt8) {n : UInt8} {id : List UInt8} {k : Nat} (hk : k ≤ id.length) :
    load (store mem 0 (n :: id)) 1 k = id.take k := by
  have hall : load (store mem 0 (n :: id)) 0 (1 + id.length) = n :: id := by
    rw [Nat.add_comm]
    exact load_store_self mem 0 (n :: id)
  rw [load_add] at hall
  have hid : load (store mem 0 (n :: id)) 1 id.length = id := by simpa [load] using (List.cons.inj hall).2
  generalize store mem 0 (n :: id) = mem' at hid ⊢
  obtain ⟨j, hj⟩ := Nat.exists_eq_add_of_le hk
  calc load mem' 1 k = (load mem' 1 k ++ load mem' (1 + k) j).take k := (List.take_left' (load_length _ _ _)).symm
    _ = (load mem' 1 id.length).take k := by rw [hj, load_add]
    _ = id.take k := by rw [hid]

/-- **The handshake** is judged by the bytes of its own connection: what is in the buffer from before never makes a
client accepted. -/
theorem serve_accepts (hserve : serve hooks s conn = some s') :
    s' = if greets conn.first then conn.segs.foldl (Server.recv hooks) (accept s conn)
      else { s with mem := s'.mem } := by
  rcases hf : conn.first with _ | ⟨n, id⟩
  · rw [serve, if_pos hf] at hserve
    obtain rfl := Option.some.inj hserve
    simp [greets]
  · have hne : 0 < (n :: id).length := Nat.succ_pos _
    have h0 : store s.mem 0 (n :: id) 0 = n := store_inside (m := s.mem) (p := 0) hne
    have hlen := idLength_eq (store s.mem 0 (n :: id))
    rw [h0] at hlen
    simp only [serve, hf, h0, List.length_cons, reduceCtorEq, if_false] at hserve
    by_cases hbad : n.toNat > id.length + 1
    · rw [if_pos hbad] at hserve
      obtain rfl := Option.some.inj hserve
      have hg : greets (n :: id) = false := by simp [greets, hbad]
      rw [hg]
      rfl
    · rw [if_neg hbad] at hserve
      by_cases hn0 : n = 0
      · -- a stated length of 0 compares more than there is
        have hg : greets (n :: id) = false := by simp [greets, hn0]
        rw [hlen, if_pos hn0, memcmp] at hserve
        rw [hg]
        split at hserve
        · next hc =>
          obtain rfl := Option.some.inj hserve
          rfl
        · cases hserve
        · next hc =>
          split at hc
          · cases hc
          · split at hc
            · next h => exact absurd h (by decide)
            · cases hc
      · have hpos : 1 ≤ n.toNat := by
          have : n.toNat ≠ 0 := fun h => hn0 (UInt8.toNat_inj.mp (by simpa using h))
          omega
        rw [hlen, if_neg hn0, memcmp, load_first s.mem (by omega)] at hserve
        by_cases hsame : id.take (min (n.toNat - 1) myctrlid.length) = myctrlid.take (n.toNat - 1)
        · rw [if_neg (not_not.mpr hsame)] at hserve
          by_cases hle : n.toNat - 1 ≤ myctrlid.length
          · rw [if_pos hle] at hserve
            obtain rfl := Option.some.inj hserve
            rw [Nat.min_eq_left hle] at hsame
            have hg : greets (n :: id) = true := by
              simp only [greets, hsame, beq_self_eq_true, Bool.and_true, decide_eq_true_eq]
              omega
            rw [hg, if_pos rfl]
          · rw [if_neg hle] at hserve
            cases hserve
        · rw [if_pos hsame] at hserve
          obtain rfl := Option.some.inj hserve
          have hg : greets (n :: id) = false := by
            rw [greets, Bool.and_eq_false_iff, decide_eq_false_iff_not]
            by_cases hle : n.toNat - 1 ≤ myctrlid.length
            · rw [Nat.min_eq_left hle] at hsame
              exact .inr (beq_eq_false_iff_ne.mpr hsame)
            · exact .inl (by omega)
          rw [hg]
          rfl

/-! ### The messages of a connection -/

/-- The server with more in front of its logs. -/
def prepend (h : List Handed) (r : List (List UInt8)) (s : Server) : Server :=
  { s with handed := h ++ s.handed, replayed := r ++ s.replayed }

theorem handle_prepend (h : List Handed) (r : List (List UInt8)) (s : Server) (n : Nat) :
    (prepend h r s).handle hooks n = prepend h r (s.handle hooks n) := by
  have hmsg : load (prepend h r s).mem (prepend h r s).bufhead n = load s.mem s.bufhead n := rfl
  rw [Server.handle, Server.handle, hmsg]
  cases hr : (ctrlsysHandleMessage hooks (load s.mem s.bufhead n)).1 with
  | true =>
    simp only [if_true, prepend, List.append_assoc]
    rfl
  | false =>
    simp only [Bool.false_eq_true, if_false]
    cases hooks.replay with
    | none =>
      simp only [prepend, List.append_assoc]
      rfl
    | some replay =>
      simp only [prepend, List.append_assoc]
      rfl

theorem again_prepend (h : List Handed) (r : List (List UInt8)) (n : Nat) (s : Server) :
    (prepend h r s).again hooks n = prepend h r (s.again hooks n) := by
  induction n generalizing s with
  | zero => rfl
  | succ n ih =>
    rw [Server.again, Server.again]
    by_cases h2 : s.buflen < 2
    · rw [if_pos h2, if_pos (show (prepend h r s).buflen < 2 from h2)]
    rw [if_neg h2, if_neg (show ¬ (prepend h r s).buflen < 2 from h2)]
    simp only [show (prepend h r s).mem = s.mem from rfl, show (prepend h r s).bufhead = s.bufhead from rfl,
      show (prepend h r s).buflen = s.buflen from rfl, handle_prepend]
    generalize netLength (load s.mem s.bufhead 2) = k
    by_cases hk : k = 0
    · rw [if_pos hk, if_pos hk]
      rfl
    rw [if_neg hk, if_neg hk]
    by_cases hcut : s.buflen < k ∧ s.buflen + s.bufhead < bufSize
    · rw [if_pos hcut, if_pos hcut]
      rfl
    rw [if_neg hcut, if_neg hcut]
    simp only [show (prepend h r (s.handle hooks k)).buflen = (s.handle hooks k).buflen from rfl,
      show (prepend h r (s.handle hooks k)).bufhead = (s.handle hooks k).bufhead from rfl]
    by_cases hmore : (s.handle hooks k).buflen > k
    · rw [if_pos hmore, if_pos hmore]
      exact ih { s.handle hooks k with
        bufhead := (s.handle hooks k).bufhead + k, buflen := (s.handle hooks k).buflen - k }
    · rw [if_neg hmore, if_neg hmore]
      rfl

theorem recv_prepend (h : List Handed) (r : List (List UInt8)) (s : Server) (seg : List UInt8) :
    (prepend h r s).recv hooks seg = prepend h r (s.recv hooks seg) :=
  again_prepend h r _ { s with mem := store s.mem s.buflen seg, buflen := s.buflen + seg.length }

theorem foldl_prepend (h : List Handed) (r : List (List UInt8)) (segs : List (List UInt8)) (s : Server) :
    segs.foldl (Server.recv hooks) (prepend h r s) = prepend h r (segs.foldl (Server.recv hooks) s) := by
  induction segs generalizing s with
  | nil => rfl
  | cons seg segs ih => rw [List.foldl_cons, List.foldl_cons, recv_prepend, ih]

theorem meets_prepend (h : List Handed) (r : List (List UInt8)) (segs : List (List UInt8)) (s : Server)
    (hm : Meets (Server.recv hooks) Server.Received (prepend h r s) segs) :
    Meets (Server.recv hooks) Server.Received s segs := by
  induction segs generalizing s with
  | nil => trivial
  | cons seg segs ih =>
    refine ⟨hm.1, ih _ ?_⟩
    rw [← recv_prepend]
    exact hm.2

/-- The receives of a stream that has not arrived to its end. -/
theorem progress_front {msgs segs : List (List UInt8)} (hwf : ∀ m ∈ msgs, WellFormed m) (hcut : CutsBehindStart msgs segs)
    (hall : segs.flatten = msgs.flatten) (mid pre post : List (List UInt8)) (hsegs : segs = pre ++ mid ++ post)
    (h : Server.Progress hooks msgs pre s) (hrecv : Meets (Server.recv hooks) Server.Received s mid) :
    Server.Progress hooks msgs (pre ++ mid) (mid.foldl (Server.recv hooks) s) := by
  induction mid generalizing pre s with
  | nil =>
    rw [List.append_nil]
    exact h
  | cons seg mid ih =>
    have hnext := h.recv hwf hcut (show segs = pre ++ seg :: (mid ++ post) by simp [hsegs]) hall hrecv.1
    have hrun := ih (pre ++ [seg]) (by simp [hsegs]) hnext hrecv.2
    rwa [List.append_assoc] at hrun

/-- **One connection** of an accepted client hands on the messages that arrive whole, behind those of the clients
before. -/
theorem connection_spec (hp : Proper hooks s conn) (hg : greets conn.first = true) :
    let t := conn.segs.foldl (Server.recv hooks) (accept s conn)
    t.handed = s.handed ++ conn.arrived.map (⟨·, true⟩) ∧
      t.replayed = s.replayed ++ conn.arrived.filter (replays hooks) := by
  obtain ⟨hwf, ⟨lost, hall, hcut⟩, hrecv⟩ := hp hg
  let fresh : Server := { accept s conn with handed := [], replayed := [] }
  have hfresh : accept s conn = prepend s.handed s.replayed fresh := by simp [accept, prepend, fresh]
  have h0 : Server.Progress hooks conn.msgs [] fresh := ⟨[], conn.msgs, [], rfl, rfl, .inl rfl, rfl, rfl, rfl, rfl, rfl⟩
  have hrecv' : Meets (Server.recv hooks) Server.Received fresh conn.segs :=
    meets_prepend s.handed s.replayed _ _ (hfresh ▸ hrecv)
  have hall' : (conn.segs ++ [lost]).flatten = conn.msgs.flatten := by simpa using hall
  obtain ⟨done, rest, p, hmsgs, hpre, hpart, hw⟩ :=
    progress_front hwf hcut hall' conn.segs [] [lost] (by simp) h0 hrecv'
  have harrived : conn.arrived = done := by
    rw [List.nil_append] at hpre
    rw [Connection.arrived, if_pos hg, hpre, hmsgs]
    refine whole_eq (fun m hm => ?_) hpart
    have h2 := (hwf m (hmsgs ▸ List.mem_append_right done hm)).1
    exact List.ne_nil_of_length_pos (by omega)
  intro t
  have ht : t = prepend s.handed s.replayed (conn.segs.foldl (Server.recv hooks) fresh) := by
    rw [← foldl_prepend, ← hfresh]
  rw [ht, harrived]
  exact ⟨congrArg (s.handed ++ ·) hw.handed, congrArg (s.replayed ++ ·) hw.replayed⟩

/-- **One client after the other**: over any series of connections the server hands on, in their order, the messages
that arrive whole from the clients that greet it, and nothing of the others: no connection sees a byte of another. -/
theorem clients_served (hooks : Hooks) (s : Server) (conns : List Connection)
    (hp : Requires (serve hooks) (Proper hooks) s conns) {s' : Server} (hrun : serveAll hooks s conns = some s') :
    s'.handed = s.handed ++ (conns.flatMap Connection.arrived).map (⟨·, true⟩) ∧
      s'.replayed = s.replayed ++ (conns.flatMap Connection.arrived).filter (replays hooks) := by
  induction conns generalizing s with
  | nil =>
    obtain rfl := Option.some.inj hrun
    simp
  | cons conn conns ih =>
    rw [serveAll, List.foldlM_cons] at hrun
    obtain ⟨s₁, hserve, hrun⟩ := Option.bind_eq_some_iff.mp hrun
    obtain ⟨hhanded, hreplayed⟩ := ih s₁ (hp.2 s₁ hserve) hrun
    have hfirst : s₁.handed = s.handed ++ conn.arrived.map (⟨·, true⟩) ∧
        s₁.replayed = s.replayed ++ conn.arrived.filter (replays hooks) := by
      have heq := serve_accepts hserve
      by_cases hg : greets conn.first = true
      · rw [if_pos hg] at heq
        rw [heq]
        exact connection_spec hp.1 hg
      · rw [if_neg hg] at heq
        have hnone : conn.arrived = [] := if_neg hg
        rw [heq, hnone]
        simp
    rw [hhanded, hreplayed, hfirst.1, hfirst.2]
    simp [List.append_assoc]

end

/-- A client of another version, then one whose second message breaks off. -/
def twoConnections : List Connection :=
  [⟨[3, 88, 89], [[0, 3, 7]], [[0, 3, 7]]⟩,
    ⟨[11, 71, 65, 67, 116, 114, 108, 86, 48, 49, 0], [[0, 3, 1], [0, 4, 7]], [[0, 3, 1], [0, 4, 7, 8]]⟩]

theorem clients_served_two :
    ∃ s', serveAll replayOnly (Server.accepted (fun _ => 0) (CtrlQueue.init (fun _ => 0) 40 6)) twoConnections = some s' ∧
      s'.handed = [⟨[0, 3, 1], true⟩] ∧ s'.replayed = [[0, 3, 1]] := by
  obtain ⟨s', hs'⟩ : ∃ s', serveAll replayOnly (Server.accepted (fun _ => 0) (CtrlQueue.init (fun _ => 0) 40 6))
      twoConnections = some s' := Option.isSome_iff_exists.mp (by decide +kernel)
  refine ⟨s', hs', clients_served replayOnly _ twoConnections ?_ hs'⟩
  refine ⟨fun hg => absurd hg (by decide), fun s₁ hs₁ => ⟨fun _ => ⟨?_, ⟨[8], by decide, ?_⟩, ?_⟩, fun _ _ => trivial⟩⟩
  · simp [WellFormed, netLength, bufSize]
  · intro pre _ done m rest he _ _
    rcases done with _ | ⟨d, _ | ⟨d', done⟩⟩
    · exact ⟨[], List.nil_prefix, rfl⟩
    · have hd : [0, 3, 1] = d := (List.cons.inj he).1
      rw [← hd]
      exact ⟨[[0, 3, 1]], by decide, rfl⟩
    · have hlen := congrArg List.length he
      simp at hlen
  · obtain rfl := Option.some.inj hs₁
    exact ⟨⟨by decide, by decide⟩, ⟨by decide, by decide +kernel⟩, trivial⟩

/-! ## UDP -/

/-- What one `recvfrom` brings, and whether the encoder would take a request for a key frame. An error brings no bytes; on
Windows a datagram that does not fit the buffer is one. -/
structure Datagram where
  sender : Nat
  bytes : List UInt8
  granted : Bool

/-- What fits the buffer: elsewhere the rest of a larger datagram is lost. -/
def Datagram.message (d : Datagram) : List UInt8 := d.bytes.take bufSize

structure UdpServer where
  server : Server
  csin : Option Nat
  keyFrames : Nat

/-- From `tcp_again:` to the end of the loop, for the `n` bytes in the buffer (`:474-517`). -/
def deliver (hooks : Hooks) (n : Nat) (u : UdpServer) : UdpServer :=
  if n < 2 then u
  else
    let msglen := netLength (load u.server.mem 0 2)
    if msglen = 0 then u
    else if n ≠ msglen then u
    else { u with server := { ({ u.server with bufhead := 0, buflen := n }).handle hooks msglen with buflen := 0 } }

/-- One datagram (`:448-517`); `none` is the exit where the encoder does not take the request. -/
def datagram (hooks : Hooks) (win32 : Bool) (u : UdpServer) (d : Datagram) : Option UdpServer :=
  let u := { u with server := { u.server with mem := store u.server.mem 0 d.message } }
  match u.csin with
  | none => some (deliver hooks d.message.length { u with csin := some d.sender })
  | some client =>
    if client = d.sender then some (deliver hooks d.message.length u)
    else if win32 then
      if d.granted then some { u with csin := none, keyFrames := u.keyFrames + 1 } else none
    else some (deliver hooks d.message.length { u with csin := some d.sender })

def datagrams (hooks : Hooks) (win32 : Bool) (u : UdpServer) (ds : List Datagram) : Option UdpServer :=
  ds.foldlM (datagram hooks win32) u

/-- What becomes of a datagram. -/
inductive Verdict where
  | handed (sender : Nat) (m : List UInt8)
  | ignored (sender : Nat)
  | reconnected
  deriving DecidableEq

def Verdict.sender : Verdict → Option Nat
  | .handed sender _ | .ignored sender => some sender
  | .reconnected => none

def Verdict.message : Verdict → Option (List UInt8)
  | .handed _ m => some m
  | _ => none

/-- A message that states its own length is handed on, another one is not, and either may be lost to a reconnection, if it
is from another client than the one before. -/
def Judges (client : Option Nat) (d : Datagram) : Verdict → Prop
  | .handed sender m => sender = d.sender ∧ m = d.message ∧ WellFormed m
  | .ignored sender => sender = d.sender ∧ ¬ WellFormed d.message
  | .reconnected => ∃ before, client = some before ∧ before ≠ d.sender

/-- A datagram for each verdict, and each is judged by the client that the verdict before leaves. -/
inductive Judged : Option Nat → List Datagram → List Verdict → Prop where
  | nil (client : Option Nat) : Judged client [] []
  | cons {client : Option Nat} {d : Datagram} {v : Verdict} {ds : List Datagram} {log : List Verdict}
      (first : Judges client d v) (rest : Judged v.sender ds log) : Judged client (d :: ds) (v :: log)

/-- Two verdicts in a row are about one client, or a key frame stands between. -/
def SameSender (v w : Verdict) : Prop := ∀ a b, v.sender = some a → w.sender = some b → a = b

section
variable {hooks : Hooks} {win32 : Bool} {u u' : UdpServer} {d : Datagram}

variable (hooks) in
/-- What is behind the socket's bytes in the buffer plays no role. -/
theorem deliver_spec (client : Option Nat) (hmem : load u.server.mem 0 d.message.length = d.message) :
    ∃ v, Judges client d v ∧ v.sender = some d.sender ∧
      (deliver hooks d.message.length u).csin = u.csin ∧ (deliver hooks d.message.length u).keyFrames = u.keyFrames ∧
      (deliver hooks d.message.length u).server.handed = u.server.handed ++ v.message.toList.map (⟨·, true⟩) ∧
      (deliver hooks d.message.length u).server.replayed = u.server.replayed ++ v.message.toList.filter (replays hooks) := by
  have hmax : d.message.length ≤ bufSize := List.length_take_le _ _
  by_cases h2 : d.message.length < 2
  · refine ⟨.ignored d.sender, ⟨rfl, fun hwf => absurd hwf.1 (by omega)⟩, rfl, ?_⟩
    have hdeliver : deliver hooks d.message.length u = u := by
      rw [deliver, if_pos h2]
    rw [hdeliver]
    simp [Verdict.message]
  · have hnet : netLength (load u.server.mem 0 2) = netLength d.message := by
      rw [netLength_load u.server.mem 0 d.message.length (by omega), hmem]
    by_cases hlen : netLength d.message = d.message.length
    · -- the message is all of the datagram
      have hspec := Server.handle_spec hooks { u.server with bufhead := 0, buflen := d.message.length } d.message.length
      simp only [hmem] at hspec
      obtain ⟨-, -, hhanded, hreplayed, -⟩ := hspec
      have hin : decide (d.message.length ≤ d.message.length ∧ 0 + d.message.length ≤ bufSize) = true := by
        rw [decide_eq_true_eq]
        omega
      rw [hin] at hhanded
      refine ⟨.handed d.sender d.message, ⟨rfl, rfl, by omega, hmax, hlen⟩, rfl, ?_⟩
      have hdeliver : deliver hooks d.message.length u = { u with
          server := { ({ u.server with bufhead := 0, buflen := d.message.length }).handle hooks d.message.length with
            buflen := 0 } } := by
        rw [deliver, if_neg h2]
        simp only [hnet, hlen]
        rw [if_neg (by omega), if_neg (by simp)]
      rw [hdeliver]
      exact ⟨rfl, rfl, hhanded, hreplayed⟩
    · refine ⟨.ignored d.sender, ⟨rfl, fun hwf => hlen hwf.2.2⟩, rfl, ?_⟩
      have hdeliver : deliver hooks d.message.length u = u := by
        rw [deliver, if_neg h2]
        simp only [hnet]
        split
        · rfl
        · rw [if_pos (Ne.symm hlen)]
      simp [hdeliver, Verdict.message]

/-- **One datagram** gets one verdict. -/
theorem datagram_spec (hstep : datagram hooks win32 u d = some u') :
    ∃ v, Judges u.csin d v ∧ u'.csin = v.sender ∧ u'.keyFrames = u.keyFrames + [v].count .reconnected ∧
      u'.server.handed = u.server.handed ++ v.message.toList.map (⟨·, true⟩) ∧
      u'.server.replayed = u.server.replayed ++ v.message.toList.filter (replays hooks) ∧
      (win32 = true → ∀ a b, u.csin = some a → v.sender = some b → a = b) ∧ (win32 = false → v ≠ .reconnected) := by
  have hself : load (store u.server.mem 0 d.message) 0 d.message.length = d.message := load_store_self _ 0 _
  have hne : ∀ {v : Verdict}, v.sender = some d.sender → v ≠ .reconnected := by
    rintro v hv rfl
    cases hv
  have hcount : ∀ {v : Verdict}, v ≠ .reconnected → [v].count .reconnected = 0 := fun hv =>
    List.count_eq_zero.mpr (by simpa using Ne.symm hv)
  simp only [datagram] at hstep
  split at hstep
  · next hc =>
    obtain rfl := Option.some.inj hstep
    obtain ⟨v, hj, hv, hcsin, hkey, hhanded, hreplayed⟩ := deliver_spec hooks u.csin
      (u := { u with server := { u.server with mem := store u.server.mem 0 d.message }, csin := some d.sender }) hself
    refine ⟨v, hj, hcsin.trans hv.symm, ?_, hhanded, hreplayed, fun _ a b ha => ?_, fun _ => hne hv⟩
    · rw [hkey, hcount (hne hv)]
      rfl
    · rw [hc] at ha
      cases ha
  · next client hc =>
    split at hstep
    · next heq =>
      obtain rfl := Option.some.inj hstep
      obtain ⟨v, hj, hv, hcsin, hkey, hhanded, hreplayed⟩ := deliver_spec hooks u.csin
        (u := { u with server := { u.server with mem := store u.server.mem 0 d.message } }) hself
      refine ⟨v, hj, ?_, ?_, hhanded, hreplayed, fun _ a b ha hb => ?_, fun _ => hne hv⟩
      · rw [hcsin, hv, ← heq]
        exact hc
      · rw [hkey, hcount (hne hv)]
        rfl
      · rw [hc] at ha
        rw [hv] at hb
        rw [← Option.some.inj ha, ← Option.some.inj hb, heq]
    · next hother =>
      split at hstep
      · next hwin =>
        split at hstep
        · obtain rfl := Option.some.inj hstep
          refine ⟨.reconnected, ⟨client, hc, hother⟩, rfl, rfl, ?_, ?_, fun _ a b _ hb => (nomatch hb), fun hno => ?_⟩
          · simp [Verdict.message]
          · simp [Verdict.message]
          · rw [hwin] at hno
            cases hno
        · cases hstep
      · next hwin =>
        obtain rfl := Option.some.inj hstep
        obtain ⟨v, hj, hv, hcsin, hkey, hhanded, hreplayed⟩ := deliver_spec hooks u.csin
          (u := { u with server := { u.server with mem := store u.server.mem 0 d.message }, csin := some d.sender }) hself
        refine ⟨v, hj, hcsin.trans hv.symm, ?_, hhanded, hreplayed, fun hyes => absurd hyes hwin, fun _ => hne hv⟩
        rw [hkey, hcount (hne hv)]
        rfl

/-- **Datagrams**: each gets one verdict, in order; the messages that state their own length are handed on, each once and
from inside its own bytes. On Windows the datagram that another client comes in with is lost, and a key frame requested, so
messages of two clients are never handed on in a row without one between them; elsewhere none is lost. -/
theorem datagrams_served (hooks : Hooks) (win32 : Bool) (u : UdpServer) (ds : List Datagram) {u' : UdpServer}
    (hrun : datagrams hooks win32 u ds = some u') :
    ∃ log, Judged u.csin ds log ∧
      u'.server.handed = u.server.handed ++ (log.filterMap Verdict.message).map (⟨·, true⟩) ∧
      u'.server.replayed = u.server.replayed ++ (log.filterMap Verdict.message).filter (replays hooks) ∧
      u'.keyFrames = u.keyFrames + log.count .reconnected ∧
      (win32 = true → log.IsChain SameSender ∧ ∀ a b, u.csin = some a → log.head?.bind Verdict.sender = some b → a = b) ∧
      (win32 = false → .reconnected ∉ log) := by
  induction ds generalizing u with
  | nil =>
    obtain rfl := Option.some.inj hrun
    exact ⟨[], .nil u.csin, by simp, by simp, rfl, fun _ => ⟨.nil, fun _ _ _ hb => (nomatch hb)⟩, fun _ hmem => (nomatch hmem)⟩
  | cons d ds ih =>
    rw [datagrams, List.foldlM_cons] at hrun
    obtain ⟨u₁, hstep, hrun⟩ := Option.bind_eq_some_iff.mp hrun
    obtain ⟨v, hj, hcsin, hkey, hhanded, hreplayed, hsame, hnone⟩ := datagram_spec hstep
    obtain ⟨log, hall, hhanded', hreplayed', hkey', hchain, hno⟩ := ih u₁ hrun
    have hmsgs : (v :: log).filterMap Verdict.message = v.message.toList ++ log.filterMap Verdict.message := by
      cases hv : v.message <;> simp [hv]
    refine ⟨v :: log, .cons hj (hcsin ▸ hall), ?_, ?_, ?_, fun hwin => ⟨?_, hsame hwin⟩, fun hwin => ?_⟩
    · rw [hhanded', hhanded, hmsgs, List.map_append, List.append_assoc]
    · rw [hreplayed', hreplayed, hmsgs, List.filter_append, List.append_assoc]
    · have hcount : ([v] ++ log).count .reconnected = [v].count .reconnected + log.count .reconnected := List.count_append
      rw [List.singleton_append] at hcount
      rw [hkey', hkey, hcount, Nat.add_assoc]
    · refine List.isChain_cons.mpr ⟨fun w hw a b ha hb => ?_, (hchain hwin).1⟩
      exact (hchain hwin).2 a b (hcsin.trans ha) (by rw [hw]; exact hb)
    · rw [List.mem_cons, not_or]
      exact ⟨(hnone hwin).symm, hno hwin⟩

end

/-- Client 2 comes in after client 1: its first message goes to the key frame, its second is handed on. -/
theorem datagrams_served_change :
    ∃ u', ∃ log : List Verdict, datagrams replayOnly true
        ⟨Server.accepted (fun _ => 0) (CtrlQueue.init (fun _ => 0) 40 6), none, 0⟩
        [⟨1, [0, 3, 7], true⟩, ⟨2, [0, 2], true⟩, ⟨2, [0, 3, 8], true⟩] = some u' ∧
      u'.server.handed = (log.filterMap Verdict.message).map (⟨·, true⟩) ∧ u'.keyFrames = log.count .reconnected ∧
      log.IsChain SameSender := by
  obtain ⟨u', hu'⟩ := Option.isSome_iff_exists.mp (show (datagrams replayOnly true
    ⟨Server.accepted (fun _ => 0) (CtrlQueue.init (fun _ => 0) 40 6), none, 0⟩
    [⟨1, [0, 3, 7], true⟩, ⟨2, [0, 2], true⟩, ⟨2, [0, 3, 8], true⟩]).isSome = true by decide +kernel)
  obtain ⟨log, -, hhanded, -, hkey, hchain, -⟩ := datagrams_served replayOnly true _ _ hu'
  exact ⟨u', log, hu', hhanded, by rw [hkey, Nat.zero_add], (hchain rfl).1⟩

end ControlServer

end CloudStreaming.Streamer
