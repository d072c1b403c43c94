import CloudStreaming.Lib.Chunks
import CloudStreaming.Streamer.CtrlQueue

/-!
# Control messages over TCP (`streamer/core/controller.cpp:428-518`, `ctrl-msg.cpp:61-115`)

`ctrl_server_thread` collects the bytes of a connection in one buffer of 8192. `bufhead` and `buflen` say
where the bytes not yet handled start and how many they are; `recv` appends behind `buf + buflen`, which is
the end of these bytes only while `bufhead` is 0. The loop resets `bufhead` at its top, and the two
`goto tcp_readmore` (`:477`, `:492`) jump behind that: a message that is cut by the end of a `recv` while other
messages were handled before it is completed at the wrong place, even though its first part was moved to the front.

| here | there |
| --- | --- |
| `Server.mem`        | `buf`, by offset |
| `recv`              | `tcp_readmore:` with the bytes `recv` returned (`:436-447`), then on to the next wait for more |
| `again`             | `tcp_again:` to the next `goto tcp_readmore` or the top of the loop (`:474-517`) |
| `Handed.inside`     | not in the source: the message lies in the `buflen` bytes from `bufhead` on, and these in the buffer |
| `Hooks`             | `ctrlsys_handler_list` and `replay`; a callback may overwrite the message it is given, nothing else |

`recv <= 0` ends the connection and with it the run; UDP is left out.
-/

namespace CloudStreaming.Streamer

open Memory Runs Chunks

/-- `bufSize` (`:380`). -/
def bufSize : Nat := 8192

def ctrlMsgtypeSystem : UInt8 := 0xfe
def ctrlMsgsysSubtypeNetreport : UInt8 := 2
def ctrlMsgsysSubtypeMax : UInt8 := 2
/-- `sizeof(ctrlmsg_system_t)` and `sizeof(ctrlmsg_system_netreport_t)`, packed. -/
def ctrlmsgSystemSize : Nat := 4
def ctrlmsgSystemNetreportSize : Nat := 28

/-- The registered callbacks: what each leaves in the bytes of its message. -/
structure Hooks where
  handlerList : UInt8 → Option (List UInt8 → List UInt8)
  replay : Option (List UInt8 → List UInt8)

/-- `ntohs` of the first two bytes. -/
def netLength (b : List UInt8) : Nat := 256 * (b.getD 0 0).toNat + (b.getD 1 0).toNat

/-- The first `n` bytes in the other order: `ntohs`, `htonl` in place. -/
def swap (n : Nat) (b : List UInt8) : List UInt8 := (b.take n).reverse ++ b.drop n

/-- `ctrlsys_ntoh` (`ctrl-msg.cpp:62`): the converted message, and whether it is accepted. -/
def ctrlsysNtoh (msg : List UInt8) : List UInt8 × Bool :=
  let subtype := msg.getD 3 0
  let converted := swap 2 msg
  if subtype ≤ 1 then (converted, true)
  else if subtype = ctrlMsgsysSubtypeNetreport then
    if netLength msg ≠ ctrlmsgSystemNetreportSize then (converted, false)
    else
      -- duration, framecount, pktcount, pktloss, bytecount, capacity
      let field (i : Nat) := ((msg.drop (4 + 4 * i)).take 4).reverse
      (converted.take 4 ++ (List.range 6).flatMap field ++ msg.drop ctrlmsgSystemNetreportSize, true)
  else (converted, false)

/-- `ctrlsys_handle_message` (`ctrl-msg.cpp:94`): whether the message was handled, and what is left of it. -/
def ctrlsysHandleMessage (hooks : Hooks) (msg : List UInt8) : Bool × List UInt8 :=
  if msg.length < ctrlmsgSystemSize then (false, msg)
  else if msg.getD 2 0 ≠ ctrlMsgtypeSystem then (false, msg)
  else if msg.getD 3 0 > ctrlMsgsysSubtypeMax then (true, msg)
  else
    match hooks.handlerList (msg.getD 3 0) with
    | none => (true, msg)
    | some handler =>
      let r := ctrlsysNtoh msg
      (true, if r.2 then handler r.1 else r.1)

structure Handed where
  bytes : List UInt8
  inside : Bool
  deriving DecidableEq

structure Server where
  mem : Nat → UInt8
  bufhead : Nat
  buflen : Nat
  /-- What `ctrlsys_handle_message` was called with, oldest first. -/
  handed : List Handed
  /-- What `replay` was called with. -/
  replayed : List (List UInt8)
  queue : CtrlQueue

namespace Server

/-- A callback's changes to the `n` bytes at `p`. -/
def scribble (mem : Nat → UInt8) (p n : Nat) (left : List UInt8) : Nat → UInt8 := store mem p (left.take n)

/-- `// handle message` (`:501-511`). -/
def handle (hooks : Hooks) (s : Server) (msglen : Nat) : Server :=
  let msg := load s.mem s.bufhead msglen
  let r := ctrlsysHandleMessage hooks msg
  let s := { s with
    mem := scribble s.mem s.bufhead msglen r.2
    handed := s.handed ++ [⟨msg, decide (msglen ≤ s.buflen ∧ s.bufhead + s.buflen ≤ bufSize)⟩] }
  if r.1 then s
  else
    match hooks.replay with
    | some replay => { s with
        mem := scribble s.mem s.bufhead msglen (replay msg)
        replayed := s.replayed ++ [msg] }
    | none => { s with queue := (s.queue.writeMsg msg).1 }

/-- From `tcp_again:` until more bytes are needed. Each pass handles at least one byte, so `buflen` passes are
enough (`again_fuel`). -/
def again (hooks : Hooks) : Nat → Server → Server
  | 0, s => s
  | n + 1, s =>
    if s.buflen < 2 then s
    else
      let msglen := netLength (load s.mem s.bufhead 2)
      if msglen = 0 then { s with bufhead := 0 }
      else if s.buflen < msglen ∧ s.buflen + s.bufhead < bufSize then
        { s with mem := store s.mem 0 (load s.mem s.bufhead s.buflen) }
      else
        let s := s.handle hooks msglen
        if s.buflen > msglen then
          again hooks n { s with bufhead := s.bufhead + msglen, buflen := s.buflen - msglen }
        else { s with bufhead := 0, buflen := 0 }

/-- `tcp_readmore:` with the bytes `recv` put behind the first `buflen`. -/
def recv (hooks : Hooks) (s : Server) (seg : List UInt8) : Server :=
  let s := { s with mem := store s.mem s.buflen seg, buflen := s.buflen + seg.length }
  s.again hooks s.buflen

/-- `recv` returns at least one byte and no more than it was asked for. -/
def Received (s : Server) (seg : List UInt8) : Prop := seg ≠ [] ∧ seg.length ≤ bufSize - s.buflen

/-- The connection after the handshake. -/
def accepted (mem : Nat → UInt8) (queue : CtrlQueue) : Server := ⟨mem, 0, 0, [], [], queue⟩

end Server

/-- The first two bytes hold the length in network order, and the message fits the buffer. -/
def WellFormed (m : List UInt8) : Prop := 2 ≤ m.length ∧ m.length ≤ bufSize ∧ netLength m = m.length

/-- Messages that reach the replay callback. -/
def replays (hooks : Hooks) (m : List UInt8) : Bool := hooks.replay.isSome && !(ctrlsysHandleMessage hooks m).1

theorem netLength_load (mem : Nat → UInt8) (p n : Nat) (hn : 2 ≤ n) :
    netLength (load mem p 2) = netLength (load mem p n) := by
  obtain ⟨k, rfl⟩ := Nat.exists_eq_add_of_le hn
  rw [load_add]
  rfl

theorem netLength_append (x y : List UInt8) (hx : 2 ≤ x.length) : netLength (x ++ y) = netLength x := by
  match x, hx with
  | a :: b :: x, _ => rfl

namespace Server

theorem scribble_outside {mem : Nat → UInt8} {p n i : Nat} {left : List UInt8} (h : i < p ∨ p + n ≤ i) :
    scribble mem p n left i = mem i := by
  refine store_outside ?_
  rw [List.length_take]
  omega

/-- What handling a message of `n` bytes does: it is logged, and only its own bytes may change. -/
theorem handle_spec (hooks : Hooks) (s : Server) (n : Nat) :
    let t := s.handle hooks n
    let msg := load s.mem s.bufhead n
    t.bufhead = s.bufhead ∧ t.buflen = s.buflen ∧
    t.handed = s.handed ++ [⟨msg, decide (n ≤ s.buflen ∧ s.bufhead + s.buflen ≤ bufSize)⟩] ∧
    t.replayed = s.replayed ++ [msg].filter (replays hooks) ∧
    ∀ i, s.bufhead + n ≤ i → t.mem i = s.mem i := by
  intro t msg
  simp only [t, handle]
  cases hr : (ctrlsysHandleMessage hooks msg).1 with
  | true =>
    simp only [if_true]
    refine ⟨trivial, trivial, rfl, ?_, fun i hi => scribble_outside (Or.inr hi)⟩
    simp [replays, hr]
  | false =>
    simp only [Bool.false_eq_true, if_false]
    cases hp : hooks.replay with
    | none =>
      refine ⟨rfl, rfl, rfl, ?_, fun i hi => scribble_outside (Or.inr hi)⟩
      simp [replays, hp]
    | some replay =>
      refine ⟨rfl, rfl, rfl, ?_, fun i hi => ?_⟩
      · simp [replays, hp, hr]
        rfl
      · exact (scribble_outside (Or.inr hi)).trans (scribble_outside (Or.inr hi))

/-- More passes than bytes change nothing. -/
theorem again_fuel (hooks : Hooks) (n : Nat) (s : Server) (h : s.buflen ≤ n) :
    s.again hooks (n + 1) = s.again hooks n := by
  induction n generalizing s with
  | zero => simp [again, show s.buflen < 2 by omega]
  | succ n ih =>
    rw [again, again]
    split
    · rfl
    · dsimp only
      split
      · rfl
      · rename_i hz
        split
        · rfl
        · split
          · refine ih _ ?_
            have hb := (handle_spec hooks s (netLength (load s.mem s.bufhead 2))).2.1
            show (s.handle hooks _).buflen - _ ≤ n
            omega
          · rfl

/-- One pass over a buffer that starts with a whole message, and `rest` behind it. -/
theorem again_message (hooks : Hooks) {m rest : List UInt8} (hwf : WellFormed m) (s : Server)
    (hlen : s.buflen = m.length + rest.length) (hfit : s.bufhead + s.buflen ≤ bufSize)
    (hmem : load s.mem s.bufhead s.buflen = m ++ rest) (n : Nat) :
    ∃ mem queue, load mem (s.bufhead + m.length) rest.length = rest ∧
      s.again hooks (n + 1) = (
        let t : Server := ⟨mem, s.bufhead + m.length, rest.length, s.handed ++ [⟨m, true⟩],
          s.replayed ++ [m].filter (replays hooks), queue⟩
        if 0 < rest.length then t.again hooks n else { t with bufhead := 0, buflen := 0 }) := by
  obtain ⟨h2, hmax, hnet⟩ := hwf
  obtain ⟨hm, hrest⟩ := load_eq_append hmem
  have hl : netLength (load s.mem s.bufhead 2) = m.length := by
    rw [netLength_load s.mem s.bufhead m.length h2, hm, hnet]
  have h2' : ¬ s.buflen < 2 := by omega
  have hz : ¬ m.length = 0 := by omega
  have hcut : ¬ (s.buflen < m.length ∧ s.buflen + s.bufhead < bufSize) := by omega
  have hin : decide (m.length ≤ s.buflen ∧ s.bufhead + s.buflen ≤ bufSize) = true := by
    rw [decide_eq_true_eq]
    omega
  obtain ⟨hh, hb, hha, hre, hout⟩ := handle_spec hooks s m.length
  rw [hm, hin] at hha
  rw [hm] at hre
  refine ⟨(s.handle hooks m.length).mem, (s.handle hooks m.length).queue, ?_, ?_⟩
  · refine Eq.trans (load_congr fun i _ => ?_) hrest
    exact hout _ (by omega)
  · have hleft : s.buflen - m.length = rest.length := by omega
    simp only [again, if_neg h2', hl, if_neg hz, if_neg hcut, hh, hb, hleft, hha, hre]
    by_cases hpos : 0 < rest.length
    · rw [if_pos hpos, if_pos (by omega)]
    · rw [if_neg hpos, if_neg (by omega)]

/-- A buffer of whole messages is handed on message by message. -/
theorem again_whole (hooks : Hooks) (ms : List (List UInt8)) (hne : ms ≠ []) (hwf : ∀ m ∈ ms, WellFormed m) (s : Server)
    (hlen : s.buflen = ms.flatten.length) (hfit : s.bufhead + s.buflen ≤ bufSize)
    (hmem : load s.mem s.bufhead s.buflen = ms.flatten) (n : Nat) (hn : s.buflen ≤ n) :
    let t := s.again hooks n
    t.bufhead = 0 ∧ t.buflen = 0 ∧ t.handed = s.handed ++ ms.map (⟨·, true⟩) ∧
      t.replayed = s.replayed ++ ms.filter (replays hooks) := by
  induction ms generalizing s n with
  | nil => exact absurd rfl hne
  | cons m ms ih =>
    have hm := hwf m (by simp)
    rw [List.flatten_cons, List.length_append] at hlen
    rw [List.flatten_cons] at hmem
    obtain ⟨k, rfl⟩ : ∃ k, n = k + 1 := ⟨n - 1, by have := hm.1; omega⟩
    obtain ⟨mem, queue, hrest, hpass⟩ := again_message hooks hm s hlen hfit hmem k
    intro t
    simp only [t, hpass]
    by_cases hms : ms = []
    · subst hms
      exact ⟨rfl, rfl, rfl, rfl⟩
    · have hpos : 0 < ms.flatten.length := by
        obtain ⟨m', ms', rfl⟩ := List.exists_cons_of_ne_nil hms
        have := (hwf m' (by simp)).1
        rw [List.flatten_cons, List.length_append]
        omega
      rw [if_pos hpos]
      obtain ⟨r1, r2, r3, r4⟩ := ih hms (fun x hx => hwf x (by simp [hx]))
        ⟨mem, s.bufhead + m.length, ms.flatten.length, s.handed ++ [⟨m, true⟩],
          s.replayed ++ [m].filter (replays hooks), queue⟩ rfl (by simp only; omega) hrest k
        (by have := hm.1; simp only; omega)
      refine ⟨r1, r2, r3.trans ?_, r4.trans ?_⟩
      · rw [List.append_assoc]
        rfl
      · rw [List.append_assoc, ← List.filter_append]
        rfl

/-- A part of a message at the front of the buffer stays there: moving it to the front moves nothing. -/
theorem again_part (hooks : Hooks) {m p : List UInt8} (hwf : WellFormed m) (hp : Part p m) (s : Server)
    (hhead : s.bufhead = 0) (hlen : s.buflen = p.length) (hmem : load s.mem 0 p.length = p) (n : Nat) :
    s.again hooks n = s := by
  cases n with
  | zero => rfl
  | succ n =>
    rw [again]
    split
    · rfl
    · rename_i h2
      have h2' : 2 ≤ p.length := by omega
      have hnet : netLength (load s.mem s.bufhead 2) = m.length := by
        obtain ⟨-, rest, -, rfl⟩ := hp
        rw [hhead, netLength_load s.mem 0 p.length h2', hmem, ← netLength_append p rest h2', hwf.2.2]
      have hlt := hp.length_lt
      have hmax := hwf.2.1
      have hz : ¬ m.length = 0 := by omega
      have hcut : s.buflen < m.length ∧ s.buflen + s.bufhead < bufSize := by omega
      have hmove : store s.mem 0 (load s.mem s.bufhead s.buflen) = s.mem := by rw [hhead, store_load_self]
      simp only [hnet, if_neg hz, if_pos hcut, hmove]

/-- Between two `recv`: the messages in `done` are handed on, and `p` waits at the front of the buffer. -/
structure Waits (hooks : Hooks) (done : List (List UInt8)) (p : List UInt8) (s : Server) : Prop where
  bufhead : s.bufhead = 0
  buflen : s.buflen = p.length
  mem : load s.mem 0 p.length = p
  handed : s.handed = done.map (⟨·, true⟩)
  replayed : s.replayed = done.filter (replays hooks)

/-- The new bytes are put behind those that wait. -/
theorem Waits.stored {hooks : Hooks} {done : List (List UInt8)} {p : List UInt8} {s : Server} (h : Waits hooks done p s)
    (seg : List UInt8) : load (store s.mem s.buflen seg) 0 (p ++ seg).length = p ++ seg := by
  rw [List.length_append, load_add, h.buflen, Nat.zero_add, load_store_self, load_store_disjoint (by omega), h.mem]

/-- Whole messages arrive: all are handed on and nothing waits. -/
theorem Waits.recv_whole {hooks : Hooks} {done ms : List (List UInt8)} {p seg : List UInt8} {s : Server}
    (h : Waits hooks done p s) (hseg : Received s seg) (hwf : ∀ m ∈ ms, WellFormed m) (hx : p ++ seg = ms.flatten) :
    Waits hooks (done ++ ms) [] (s.recv hooks seg) := by
  have hne : ms ≠ [] := by
    rintro rfl
    exact hseg.1 (List.append_eq_nil_iff.mp hx).2
  have hlen : s.buflen + seg.length = ms.flatten.length := by rw [h.buflen, ← List.length_append, hx]
  have hfit : s.buflen + seg.length ≤ bufSize := by
    have h1 := hseg.2
    have h2 := List.length_pos_iff.mpr hseg.1
    omega
  have hmem := h.stored seg
  rw [hx, ← hlen] at hmem
  obtain ⟨r1, r2, r3, r4⟩ := again_whole hooks ms hne hwf
    { s with mem := store s.mem s.buflen seg, buflen := s.buflen + seg.length } hlen
    (by show s.bufhead + (s.buflen + seg.length) ≤ bufSize; rw [h.bufhead]; omega)
    (by show load _ s.bufhead _ = _; rw [h.bufhead]; exact hmem) (s.buflen + seg.length) (le_refl _)
  refine ⟨r1, r2, rfl, r3.trans ?_, r4.trans ?_⟩
  · rw [List.map_append, ← h.handed]
  · rw [List.filter_append, ← h.replayed]

/-- More of the message that waits. -/
theorem Waits.recv_part {hooks : Hooks} {done : List (List UInt8)} {p seg m : List UInt8} {s : Server}
    (h : Waits hooks done p s) (hwf : WellFormed m) (hx : Part (p ++ seg) m) :
    Waits hooks done (p ++ seg) (s.recv hooks seg) := by
  have hlen : s.buflen + seg.length = (p ++ seg).length := by rw [h.buflen, ← List.length_append]
  have hmem := h.stored seg
  have he : s.recv hooks seg = { s with mem := store s.mem s.buflen seg, buflen := s.buflen + seg.length } :=
    again_part hooks hwf hx { s with mem := store s.mem s.buflen seg, buflen := s.buflen + seg.length } h.bufhead hlen
      hmem _
  rw [he]
  exact ⟨h.bufhead, hlen, hmem, h.handed, h.replayed⟩

/-- What has arrived in `pre`: whole messages, all handed on, and perhaps a part of the next. -/
def Progress (hooks : Hooks) (msgs pre : List (List UInt8)) (s : Server) : Prop :=
  ∃ done rest p, msgs = done ++ rest ∧ pre.flatten = done.flatten ++ p ∧
    (p = [] ∨ ∃ m rest', rest = m :: rest' ∧ Part p m) ∧ Waits hooks done p s

/-- A segment that ends inside a message does not finish others before it: the message that is cut would start
inside the segment. -/
theorem cut_follows_nothing {segs pre post done ms rest : List (List UInt8)} {p q seg m : List UInt8}
    (hcut : CutsBehindStart (done ++ (ms ++ m :: rest)) segs) (hsegs : segs = pre ++ seg :: post)
    (hpre : pre.flatten = done.flatten ++ p) (hnext : (pre ++ [seg]).flatten = (done ++ ms).flatten ++ q)
    (hpart : Part q m) (hshort : ms ≠ [] → p.length < ms.flatten.length) : ms = [] := by
  by_contra hne
  have hlt : pre.flatten.length < (done ++ ms).flatten.length := by
    rw [hpre, List.flatten_append, List.length_append, List.length_append]
    exact Nat.add_lt_add_left (hshort hne) _
  have hin : (done ++ ms).flatten.length < (pre ++ [seg]).flatten.length := by
    rw [hnext, List.length_append]
    have := List.length_pos_iff.mpr hpart.1
    omega
  have hin' : (pre ++ [seg]).flatten.length < (done ++ ms ++ [m]).flatten.length := by
    have hm : (done ++ ms ++ [m]).flatten = (done ++ ms).flatten ++ m := by
      rw [List.flatten_append, List.flatten_singleton]
    have := hpart.length_lt
    rw [hnext, hm, List.length_append, List.length_append]
    omega
  obtain ⟨pre', hpre', hlen'⟩ := hcut (pre ++ [seg]) ⟨post, by rw [hsegs, List.append_assoc]; rfl⟩ (done ++ ms) m rest
    (by rw [List.append_assoc]) hin hin'
  have := no_boundary hsegs hpre' (by omega)
  omega

/-- What waits is shorter than the messages it is the start of. -/
theorem waiting_short {ms rest : List (List UInt8)} {p : List UInt8} (hwf : ∀ m ∈ ms, WellFormed m)
    (hp : p = [] ∨ ∃ m rest', ms ++ rest = m :: rest' ∧ Part p m) (hne : ms ≠ []) : p.length < ms.flatten.length := by
  obtain ⟨m₀, ms', rfl⟩ := List.exists_cons_of_ne_nil hne
  rw [List.flatten_cons, List.length_append]
  rcases hp with rfl | ⟨m', r', he, hpart⟩
  · have := (hwf m₀ (by simp)).1
    rw [List.length_nil]
    omega
  · simp only [List.cons_append, List.cons.injEq] at he
    have := hpart.length_lt
    rw [← he.1] at this
    omega

/-- **One `recv`**, of segments that cut a message only behind its start. -/
theorem Progress.recv {hooks : Hooks} {msgs segs pre post : List (List UInt8)} {seg : List UInt8} {s : Server}
    (h : Progress hooks msgs pre s) (hwf : ∀ m ∈ msgs, WellFormed m) (hcut : CutsBehindStart msgs segs)
    (hsegs : segs = pre ++ seg :: post) (hall : segs.flatten = msgs.flatten) (hseg : Received s seg) :
    Progress hooks msgs (pre ++ [seg]) (s.recv hooks seg) := by
  obtain ⟨done, rest, p, rfl, hpre, hp, hw⟩ := h
  -- what has arrived of the messages not yet handed on
  have hx : p ++ seg ++ post.flatten = rest.flatten := by
    rw [hsegs, List.flatten_append, List.flatten_cons, hpre, List.flatten_append, List.append_assoc,
      List.append_cancel_left_eq] at hall
    rw [List.append_assoc]
    exact hall
  obtain ⟨ms, rest', q, rfl, hq, hcase⟩ := of_flatten rest _ _ hx
  have hwf' : ∀ m ∈ ms, WellFormed m := fun m hm => hwf m (by simp [hm])
  have hnext : (pre ++ [seg]).flatten = (done ++ ms).flatten ++ q := by
    rw [List.flatten_append, hpre, List.flatten_singleton, List.append_assoc, hq, List.flatten_append, List.append_assoc]
  rcases hcase with rfl | ⟨m, rest'', rfl, hpart⟩
  · rw [List.append_nil] at hq
    exact ⟨done ++ ms, rest', [], by rw [List.append_assoc], hnext, Or.inl rfl, hw.recv_whole hseg hwf' hq⟩
  · obtain rfl := cut_follows_nothing hcut hsegs hpre hnext hpart (waiting_short hwf' hp)
    rw [List.flatten_nil, List.nil_append] at hq
    have hw' : Waits hooks done (p ++ seg) (s.recv hooks seg) :=
      hw.recv_part (hwf m (by simp)) (hq ▸ hpart)
    refine ⟨done, m :: rest'', q, rfl, ?_, Or.inr ⟨m, rest'', rfl, hpart⟩, hq ▸ hw'⟩
    rw [hnext, List.append_nil]

theorem Progress.run {hooks : Hooks} {msgs segs : List (List UInt8)} (hwf : ∀ m ∈ msgs, WellFormed m)
    (hcut : CutsBehindStart msgs segs) (hall : segs.flatten = msgs.flatten) (post pre : List (List UInt8)) (s : Server)
    (hsegs : segs = pre ++ post) (h : Progress hooks msgs pre s) (hrecv : Meets (Server.recv hooks) Received s post) :
    Progress hooks msgs segs (post.foldl (Server.recv hooks) s) := by
  induction post generalizing pre s with
  | nil =>
    rw [List.append_nil] at hsegs
    rw [hsegs]
    exact h
  | cons seg post ih =>
    exact ih (pre ++ [seg]) (s.recv hooks seg) (by rw [hsegs, List.append_assoc]; rfl)
      (h.recv hwf hcut hsegs hall hrecv.1) hrecv.2

/-- Everything has arrived, so everything is handed on. -/
theorem Progress.complete {hooks : Hooks} {msgs segs : List (List UInt8)} {s : Server} (h : Progress hooks msgs segs s)
    (hwf : ∀ m ∈ msgs, WellFormed m) (hall : segs.flatten = msgs.flatten) : Waits hooks msgs [] s := by
  obtain ⟨done, rest, p, rfl, hpre, hp, hw⟩ := h
  rw [hall, List.flatten_append, List.append_cancel_left_eq] at hpre
  cases rest with
  | nil =>
    have hnil : p = [] := hpre.symm
    rw [List.append_nil, ← hnil]
    exact hw
  | cons m rest =>
    have hp' : p = [] ∨ ∃ m' rest', (m :: rest) ++ [] = m' :: rest' ∧ Part p m' := by
      rw [List.append_nil]
      exact hp
    have hshort := waiting_short (fun m' hm' => hwf m' (List.mem_append_right _ hm')) hp' (List.cons_ne_nil _ _)
    rw [hpre] at hshort
    exact absurd hshort (Nat.lt_irrefl _)

end Server

/-- **Control messages** are handed on exactly as sent, each from inside the received bytes, for every segmentation
that cuts a message only if a segment starts with it. -/
theorem control_messages_handed_on (hooks : Hooks) (mem : Nat → UInt8) (queue : CtrlQueue) (msgs segs : List (List UInt8))
    (hwf : ∀ m ∈ msgs, WellFormed m) (hall : segs.flatten = msgs.flatten)
    (hrecv : Meets (Server.recv hooks) Server.Received (Server.accepted mem queue) segs)
    (hcut : CutsBehindStart msgs segs) :
    let s := segs.foldl (Server.recv hooks) (Server.accepted mem queue)
    s.handed = msgs.map (⟨·, true⟩) ∧ s.replayed = msgs.filter (replays hooks) := by
  have h0 : Server.Progress hooks msgs [] (Server.accepted mem queue) :=
    ⟨[], msgs, [], rfl, rfl, Or.inl rfl, ⟨rfl, rfl, rfl, rfl, rfl⟩⟩
  have h := (Server.Progress.run hwf hcut hall segs [] _ rfl h0 hrecv).complete hwf hall
  exact ⟨h.handed, h.replayed⟩

/-- Only `replay` is registered. -/
def replayOnly : Hooks := ⟨fun _ => none, some id⟩

/-- Two messages, the first in two pieces. -/
theorem control_messages_cut_first :
    let s := [[0, 3], [1], [0, 4, 7, 8]].foldl (Server.recv replayOnly)
      (Server.accepted (fun _ => 0) (CtrlQueue.init (fun _ => 0) 40 6))
    s.handed = [⟨[0, 3, 1], true⟩, ⟨[0, 4, 7, 8], true⟩] := by
  refine (control_messages_handed_on replayOnly (fun _ => 0) (CtrlQueue.init (fun _ => 0) 40 6)
    [[0, 3, 1], [0, 4, 7, 8]] [[0, 3], [1], [0, 4, 7, 8]] ?_ (by decide) ?_ ?_).1
  · simp [WellFormed, netLength, bufSize]
  · exact ⟨⟨by decide, by decide⟩, ⟨by decide, by decide +kernel⟩, ⟨by decide, by decide +kernel⟩, trivial⟩
  · intro pre _ done m rest he _ _
    rcases done with _ | ⟨d, _ | ⟨d', done⟩⟩
    · exact ⟨[], List.nil_prefix, rfl⟩
    · simp only [List.cons_append, List.nil_append, List.cons.injEq] at he
      rw [← he.1]
      exact ⟨[[0, 3], [1]], by decide, rfl⟩
    · simp at he

/-- **A message cut behind another one is lost**: the first `recv` brings the first message and two bytes of the
second, the next one the rest, and only the first message is handed on. -/
theorem control_message_lost :
    let msgs : List (List UInt8) := [[0, 3, 1], [0, 4, 7, 8]]
    let segs : List (List UInt8) := [[0, 3, 1, 0, 4], [7, 8]]
    let s₀ := Server.accepted (fun _ => 0) (CtrlQueue.init (fun _ => 0) 40 6)
    (∀ m ∈ msgs, WellFormed m) ∧ segs.flatten = msgs.flatten ∧
    Meets (Server.recv replayOnly) Server.Received s₀ segs ∧
    (segs.foldl (Server.recv replayOnly) s₀).handed = [⟨[0, 3, 1], true⟩] ∧
    (segs.foldl (Server.recv replayOnly) s₀).handed ≠ msgs.map (⟨·, true⟩) := by
  refine ⟨by simp [WellFormed, netLength, bufSize], by decide, ?_, by decide +kernel, by decide +kernel⟩
  exact ⟨⟨by decide, by decide⟩, ⟨by decide, by decide +kernel⟩, trivial⟩

end CloudStreaming.Streamer
