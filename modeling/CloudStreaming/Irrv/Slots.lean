import CloudStreaming.Lib.Descriptors
import CloudStreaming.Lib.Heap

/-!
# The slots of the socket server (`encoder/sock_util/sock_server.cpp:35-354`)

A server holds its connections in `client_slots`, and a caller names one by a proxy, which holds the number of its slot.
`sock_server_has_newconn` looks for an empty slot and, if there is none, takes the next client in to close it at once;
every way out of `sock_server_create_client` that does not store the descriptor closes it.

| here | there |
| --- | --- |
| `Process.table`   | the descriptors of the process, those of other code among them |
| `Process.server`  | the `sock_server_t` of the caller; `none` is `NULL` |
| `Process.proxies` | the `sock_client_proxy_t`s, by their `id`; those of a closed server are taken as gone |
| `Process.pending` | the clients that have connected and are not accepted, oldest first |
| `connected`, `gone`, `others` | not in the source: how many clients have connected, those whose connection is over, what other code has open |

`close` of -1 or of a descriptor that is not open does nothing. The use of a proxy that was freed is no step, and other
code closes what it has opened.
-/

namespace CloudStreaming.Sock

open Alloc Descriptors

/-- `SOCK_MAX_CLIENTS`. -/
def sockMaxClients : Nat := 512

inductive Resource where
  | other (k : Nat)
  | listening
  | connection (c : Nat)
  deriving DecidableEq

def Resource.connection? : Resource → Option Nat
  | .connection c => some c
  | _ => none

structure SockServer where
  socketfd : Nat
  clientSlots : List (Option Nat)

structure Process where
  table : Table Resource
  server : Option SockServer
  proxies : Heap Nat
  pending : List Nat
  connected : Nat
  gone : List Nat
  others : List (Nat × Nat)

/-- How far `sock_server_init` gets: what fails behind `socket` closes it (`:74-146`). -/
inductive InitIo where
  | noSocket
  | fails
  | works

/-- The return value of `select`. -/
inductive Select where
  | failed
  | timeout
  | ready

/-- Whether `accept`, `ioctl` and `malloc` succeed. -/
structure CreateIo where
  accept : Bool
  ioctl : Bool
  malloc : Bool

inductive SockOp where
  | connect
  | abort (c : Nat)
  | otherOpen (k : Nat)
  | otherClose (fd : Nat)
  | init (io : InitIo)
  | hasNewconn (nsel : Select) (accept : Bool)
  | createClient (io : CreateIo)
  | closeClient (client : Option Nat)
  | close

namespace Process

def start : Process := ⟨.empty, none, .empty, [], 0, [], []⟩

/-- `sock_server_find_empty_slot` (`:35`). -/
def findEmptySlot (server : SockServer) : Nat := server.clientSlots.findIdx Option.isNone

/-- `close`. -/
def closeFd (p : Process) (fd : Nat) : Process :=
  match p.table.get fd with
  | none => p
  | some r => { p with table := p.table.close fd, gone := r.connection?.toList ++ p.gone }

/-- `accept` on the socket of the server; `none` is -1. -/
def accept (p : Process) (works : Bool) : Process × Option Nat :=
  match p.pending with
  | [] => (p, none)
  | c :: pending =>
    if works then ({ p with pending := pending, table := p.table.opened (.connection c) }, some p.table.fresh)
    else (p, none)

/-- `sock_server_init` (`:50`). -/
def init (p : Process) : InitIo → Process
  | .noSocket => p
  | .fails =>
    let socketfd := p.table.fresh
    { p with table := p.table.opened .listening }.closeFd socketfd
  | .works =>
    { p with
      table := p.table.opened .listening
      server := some ⟨p.table.fresh, List.replicate sockMaxClients none⟩ }

/-- `sock_server_has_newconn` (`:195`). -/
def hasNewconn (p : Process) (nsel : Select) (works : Bool) : Process × Bool :=
  match p.server, nsel with
  | some server, .ready =>
    if findEmptySlot server < sockMaxClients then (p, true)
    else
      match p.accept works with
      | (p, none) => (p, false)
      | (p, some clientfd) => (p.closeFd clientfd, false)
  | _, _ => (p, false)

/-- `sock_server_create_client` (`:262`). -/
def createClient (p : Process) (io : CreateIo) : Process × Option Nat :=
  match p.server with
  | none => (p, none)
  | some server =>
    match p.accept io.accept with
    | (p, none) => (p, none)
    | (p, some clientfd) =>
      if !io.ioctl then (p.closeFd clientfd, none)
      else
        let id := findEmptySlot server
        if id ≥ sockMaxClients then (p.closeFd clientfd, none)
        else if !io.malloc then (p.closeFd clientfd, none)
        else
          ({ p with
            server := some { server with clientSlots := server.clientSlots.set id (some clientfd) }
            proxies := p.proxies.alloc id }, some p.proxies.next)

/-- `sock_server_close_client` (`:328`) of a proxy that is there. -/
def closeClient (p : Process) (client : Option Nat) : Option Process :=
  match p.server, client with
  | none, _ => some p
  | _, none => some p
  | some server, some q =>
    match p.proxies.cells q with
    | none => none
    | some id =>
      let p :=
        match server.clientSlots.getD id none with
        | none => p
        | some fd => { p.closeFd fd with server := some { server with clientSlots := server.clientSlots.set id none } }
      some { p with proxies := p.proxies.free q }

/-- `sock_server_close` (`:168`); the system gives up on the clients that still wait. -/
def close (p : Process) : Process :=
  match p.server with
  | none => p
  | some server =>
    let p := server.clientSlots.foldl (fun p slot => slot.elim p p.closeFd) (p.closeFd server.socketfd)
    { p with server := none, proxies := p.proxies.clear, pending := [], gone := p.pending ++ p.gone }

def step (p : Process) : SockOp → Option Process
  | .connect =>
    -- nobody listens where there is no server
    if p.server.isSome then some { p with pending := p.pending ++ [p.connected], connected := p.connected + 1 } else some p
  | .abort c => if c ∈ p.pending then some { p with pending := p.pending.erase c, gone := c :: p.gone } else none
  | .otherOpen k => some { p with table := p.table.opened (.other k), others := (p.table.fresh, k) :: p.others }
  | .otherClose fd =>
    match p.table.get fd with
    | some (.other _) => some { p.closeFd fd with others := p.others.filter fun e => e.1 ≠ fd }
    | _ => none
  | .init io => if p.server.isSome then none else some (p.init io)
  | .hasNewconn nsel works => some (p.hasNewconn nsel works).1
  | .createClient io => some (p.createClient io).1
  | .closeClient client => p.closeClient client
  | .close => some p.close

def run (p : Process) (ops : List SockOp) : Option Process := ops.foldlM step p

end Process

/-! ## What is open -/

/-- The connections among what is open. -/
def conns (t : Table Resource) : List Nat := t.entries.filterMap fun e => e.2.connection?

/-- The books of a process: what other code has open, the listening socket, and one descriptor, one slot and one proxy
for each connection that is held; every client that ever connected waits, is held or is gone. -/
structure Accounted (p : Process) : Prop where
  others : ∀ fd k, p.table.get fd = some (.other k) ↔ (fd, k) ∈ p.others
  listening : ∀ fd, p.table.get fd = some .listening ↔ ∃ server, p.server = some server ∧ server.socketfd = fd
  held : ∀ fd, (∃ c, p.table.get fd = some (.connection c)) ↔
    ∃ server, ∃ i : Nat, p.server = some server ∧ server.clientSlots[i]? = some (some fd)
  size : ∀ server, p.server = some server → server.clientSlots.length = sockMaxClients
  distinct : ∀ server, p.server = some server → ∀ (i j : Nat) fd, server.clientSlots[i]? = some (some fd) →
    server.clientSlots[j]? = some (some fd) → i = j
  proxied : ∀ i : Nat, (∃ q, p.proxies.cells q = some i) ↔
    ∃ server fd, p.server = some server ∧ server.clientSlots[i]? = some (some fd)
  single : ∀ q q' i, p.proxies.cells q = some i → p.proxies.cells q' = some i → q = q'
  waiting : p.server = none → p.pending = []
  clients : (p.pending ++ (p.gone ++ conns p.table)).Perm (List.range p.connected)

section
variable {p p' : Process} {t : Table Resource} {fd fd' c : Nat} {r : Resource}

theorem conns_opened : conns (t.opened r) = r.connection?.toList ++ conns t := by
  cases h : r.connection? <;> simp [conns, Table.opened, h]

theorem conns_close (h : t.get fd = some r) : (conns t).Perm (r.connection?.toList ++ conns (t.close fd)) := by
  have hperm := (Table.close_perm h).filterMap fun e => e.2.connection?
  cases hr : r.connection? <;> simpa [conns, hr] using hperm

@[simp] theorem closeFd_get : (p.closeFd fd).table.get fd' = if fd' = fd then none else p.table.get fd' := by
  unfold Process.closeFd
  split
  · next h =>
    split
    · next he => rw [he, h]
    · rfl
  · simp

@[simp] theorem closeFd_server : (p.closeFd fd).server = p.server := by
  unfold Process.closeFd
  split <;> rfl

@[simp] theorem closeFd_proxies : (p.closeFd fd).proxies = p.proxies := by
  unfold Process.closeFd
  split <;> rfl

@[simp] theorem closeFd_pending : (p.closeFd fd).pending = p.pending := by
  unfold Process.closeFd
  split <;> rfl

@[simp] theorem closeFd_connected : (p.closeFd fd).connected = p.connected := by
  unfold Process.closeFd
  split <;> rfl

@[simp] theorem closeFd_others : (p.closeFd fd).others = p.others := by
  unfold Process.closeFd
  split <;> rfl

/-- A connection that is closed is gone. -/
theorem closeFd_clients : ((p.closeFd fd).gone ++ conns (p.closeFd fd).table).Perm (p.gone ++ conns p.table) := by
  unfold Process.closeFd
  split
  · rfl
  · next r h =>
    refine List.Perm.trans ?_ ((conns_close h).symm.append_left p.gone)
    simp only [List.append_assoc]
    rw [← List.append_assoc, ← List.append_assoc]
    exact List.perm_append_comm.append_right _

/-- What is opened and closed again leaves a trace only if it was a client. -/
theorem closeFd_opened (p : Process) (r : Resource) :
    { p with table := p.table.opened r }.closeFd p.table.fresh = { p with gone := r.connection?.toList ++ p.gone } := by
  simp [Process.closeFd, Table.close_opened]

/-- **A client that is let in and closed at once.** -/
theorem accept_closed {works : Bool} {clientfd : Nat} (h : p.accept works = (p', some clientfd)) :
    ∃ c, p.pending = c :: p'.pending ∧ p'.closeFd clientfd = { p with pending := p'.pending, gone := c :: p.gone } ∧
      clientfd = p.table.fresh ∧ p' = { p with pending := p'.pending, table := p.table.opened (.connection c) } := by
  unfold Process.accept at h
  split at h
  · simp at h
  · next c pending hp =>
    split at h
    · obtain ⟨rfl, hfd⟩ := Prod.mk.inj h
      obtain rfl := Option.some.inj hfd
      exact ⟨c, hp, closeFd_opened { p with pending := pending } (.connection c), rfl, rfl⟩
    · simp at h

theorem accept_none {works : Bool} (h : p.accept works = (p', none)) : p' = p := by
  unfold Process.accept at h
  split at h
  · exact (Prod.mk.inj h).1.symm
  · split at h
    · simp at h
    · exact (Prod.mk.inj h).1.symm

theorem Accounted.refused (h : Accounted p) (hp : p.pending = c :: p'.pending) :
    Accounted { p with pending := p'.pending, gone := c :: p.gone } where
  others := h.others
  listening := h.listening
  held := h.held
  size := h.size
  distinct := h.distinct
  proxied := h.proxied
  single := h.single
  waiting hs := by
    have hnil := h.waiting hs
    rw [hp] at hnil
    cases hnil
  clients := by
    have hc := h.clients
    rw [hp, List.cons_append] at hc
    exact List.perm_middle.trans hc

/-- The slot that is found is empty. -/
theorem findEmptySlot_empty {server : SockServer} (hsize : server.clientSlots.length = sockMaxClients)
    (hlt : Process.findEmptySlot server < sockMaxClients) :
    server.clientSlots[Process.findEmptySlot server]? = some none := by
  rw [← hsize] at hlt
  rw [List.getElem?_eq_getElem hlt, Option.some.injEq, ← Option.isNone_iff_eq_none]
  exact List.findIdx_getElem (w := hlt)

/-- **A client that is taken in**: its descriptor, its slot and its proxy. -/
theorem Accounted.taken (h : Accounted p) {server : SockServer} (hs : p.server = some server) {pending : List Nat}
    (hp : p.pending = c :: pending) {id : Nat} (hid : server.clientSlots[id]? = some none) :
    Accounted { p with
      pending := pending
      table := p.table.opened (.connection c)
      server := some { server with clientSlots := server.clientSlots.set id (some p.table.fresh) }
      proxies := p.proxies.alloc id } := by
  have hlt : id < server.clientSlots.length := (List.getElem?_eq_some_iff.mp hid).1
  have hfresh : p.table.get p.table.fresh = none := Table.get_fresh
  have hset : ∀ (i : Nat) fd, (server.clientSlots.set id (some p.table.fresh))[i]? = some (some fd) ↔
      i = id ∧ fd = p.table.fresh ∨ i ≠ id ∧ server.clientSlots[i]? = some (some fd) := by
    intro i fd
    by_cases hi : i = id
    · simp [hi, hlt, eq_comm]
    · simp [hi, Ne.symm hi]
  -- the new descriptor is in no slot yet
  have hnew : ∀ i : Nat, server.clientSlots[i]? ≠ some (some p.table.fresh) := by
    intro i hi
    obtain ⟨c', hc'⟩ := (h.held p.table.fresh).mpr ⟨server, i, hs, hi⟩
    rw [hfresh] at hc'
    cases hc'
  have hid' : ∀ q, p.proxies.cells q ≠ some id := by
    intro q hq
    obtain ⟨server', fd, hs', hslot⟩ := (h.proxied id).mp ⟨q, hq⟩
    obtain rfl := Option.some.inj (hs.symm.trans hs')
    rw [hid] at hslot
    cases hslot
  refine ⟨fun fd k => ?_, fun fd => ?_, fun fd => ?_, ?_, ?_, fun i => ?_, fun q q' i => ?_, fun hn => (nomatch hn), ?_⟩
  · by_cases hfd : fd = p.table.fresh
    · subst hfd
      simpa [hfresh] using (h.others p.table.fresh k).not.mp (by simp [hfresh])
    · simpa [hfd] using h.others fd k
  · by_cases hfd : fd = p.table.fresh
    · subst hfd
      have hno := (h.listening p.table.fresh).not.mp (by simp [hfresh])
      simpa [hs] using hno
    · simpa [hfd, hs] using h.listening fd
  · by_cases hfd : fd = p.table.fresh
    · subst hfd
      simp only [Table.get_opened, if_true, Option.some.injEq]
      exact ⟨fun _ => ⟨_, id, rfl, (hset id _).mpr (.inl ⟨rfl, rfl⟩)⟩, fun _ => ⟨c, rfl⟩⟩
    · simp only [Table.get_opened, if_neg hfd]
      rw [h.held fd]
      constructor
      · rintro ⟨server', i, hs', hi⟩
        obtain rfl := Option.some.inj (hs.symm.trans hs')
        refine ⟨_, i, rfl, (hset i fd).mpr (.inr ⟨?_, hi⟩)⟩
        rintro rfl
        rw [hid] at hi
        cases hi
      · rintro ⟨server', i, hs', hi⟩
        obtain rfl := Option.some.inj hs'
        rcases (hset i fd).mp hi with ⟨-, hfd'⟩ | ⟨-, hi⟩
        · exact absurd hfd' hfd
        · exact ⟨server, i, hs, hi⟩
  · rintro server' hs'
    obtain rfl := Option.some.inj hs'
    simpa using h.size server hs
  · rintro server' hs' i j fd hi hj
    obtain rfl := Option.some.inj hs'
    rcases (hset i fd).mp hi with ⟨rfl, rfl⟩ | ⟨-, hi⟩
    · rcases (hset j _).mp hj with ⟨rfl, -⟩ | ⟨-, hj⟩
      · rfl
      · exact absurd hj (hnew j)
    · rcases (hset j fd).mp hj with ⟨-, rfl⟩ | ⟨-, hj⟩
      · exact absurd hi (hnew i)
      · exact h.distinct server hs i j fd hi hj
  · by_cases hi : i = id
    · subst hi
      exact ⟨fun _ => ⟨_, p.table.fresh, rfl, (hset i _).mpr (.inl ⟨rfl, rfl⟩)⟩, fun _ => ⟨_, Heap.alloc_self⟩⟩
    · constructor
      · rintro ⟨q, hq⟩
        by_cases hqn : q = p.proxies.next
        · subst hqn
          exact absurd (Option.some.inj (Heap.alloc_self.symm.trans hq)).symm hi
        · obtain ⟨server', fd, hs', hslot⟩ := (h.proxied i).mp ⟨q, (Heap.alloc_ne hqn).symm.trans hq⟩
          obtain rfl := Option.some.inj (hs.symm.trans hs')
          exact ⟨_, fd, rfl, (hset i fd).mpr (.inr ⟨hi, hslot⟩)⟩
      · rintro ⟨server', fd, hs', hslot⟩
        obtain rfl := Option.some.inj hs'
        obtain ⟨-, hslot⟩ := ((hset i fd).mp hslot).resolve_left fun hc => hi hc.1
        obtain ⟨q, hq⟩ := (h.proxied i).mpr ⟨server, fd, hs, hslot⟩
        exact ⟨q, (Heap.alloc_ne (Nat.ne_of_lt (Heap.lt_next (Option.isSome_of_eq_some hq)))).trans hq⟩
  · intro hq hq'
    by_cases hqn : q = p.proxies.next
    · subst hqn
      obtain rfl := Option.some.inj (Heap.alloc_self.symm.trans hq)
      by_contra hne
      exact hid' q' ((Heap.alloc_ne (Ne.symm hne)).symm.trans hq')
    · have hold := (Heap.alloc_ne hqn).symm.trans hq
      by_cases hqn' : q' = p.proxies.next
      · subst hqn'
        obtain rfl := Option.some.inj (Heap.alloc_self.symm.trans hq')
        exact absurd hold (hid' q)
      · exact h.single q q' i hold ((Heap.alloc_ne hqn').symm.trans hq')
  · have hc := h.clients
    rw [hp, List.cons_append] at hc
    refine List.Perm.trans ?_ hc
    rw [conns_opened]
    have hmid : (p.gone ++ c :: conns p.table).Perm (c :: (p.gone ++ conns p.table)) := List.perm_middle
    exact (hmid.append_left pending).trans List.perm_middle

/-- A descriptor that is held is neither the socket of the server nor another's. -/
theorem Accounted.own (h : Accounted p) {server : SockServer} (hs : p.server = some server) {i : Nat}
    (hi : server.clientSlots[i]? = some (some fd)) : ∃ c, p.table.get fd = some (.connection c) :=
  (h.held fd).mpr ⟨server, i, hs, hi⟩

/-- **A client that is closed**: its descriptor, its slot and its proxy. -/
theorem Accounted.released (h : Accounted p) {server : SockServer} (hs : p.server = some server) {q id : Nat}
    (hq : p.proxies.cells q = some id) (hid : server.clientSlots[id]? = some (some fd)) :
    Accounted { p.closeFd fd with
      server := some { server with clientSlots := server.clientSlots.set id none }
      proxies := p.proxies.free q } := by
  obtain ⟨c, hc⟩ := h.own hs hid
  have hlt : id < server.clientSlots.length := (List.getElem?_eq_some_iff.mp hid).1
  have hset : ∀ (i : Nat) fd', (server.clientSlots.set id none)[i]? = some (some fd') ↔
      i ≠ id ∧ server.clientSlots[i]? = some (some fd') := by
    intro i fd'
    by_cases hi : i = id
    · simp [hi, hlt]
    · simp [hi, Ne.symm hi]
  refine ⟨fun fd' k => ?_, fun fd' => ?_, fun fd' => ?_, ?_, ?_, fun i => ?_, fun q₁ q₂ i => ?_, fun hn => (nomatch hn), ?_⟩
  · by_cases hfd : fd' = fd
    · subst hfd
      simpa using (h.others fd' k).not.mp (by simp [hc])
    · simpa [hfd] using h.others fd' k
  · by_cases hfd : fd' = fd
    · subst hfd
      simpa [hs] using (h.listening fd').not.mp (by simp [hc])
    · simpa [hfd, hs] using h.listening fd'
  · by_cases hfd : fd' = fd
    · subst hfd
      simp only [closeFd_get, if_true, reduceCtorEq, exists_false, false_iff]
      rintro ⟨server', i, hs', hi⟩
      obtain rfl := Option.some.inj hs'
      obtain ⟨hne, hi⟩ := (hset i fd').mp hi
      exact hne (h.distinct server hs i id fd' hi hid)
    · simp only [closeFd_get, if_neg hfd]
      rw [h.held fd']
      constructor
      · rintro ⟨server', i, hs', hi⟩
        obtain rfl := Option.some.inj (hs.symm.trans hs')
        refine ⟨_, i, rfl, (hset i fd').mpr ⟨?_, hi⟩⟩
        rintro rfl
        rw [hid] at hi
        exact hfd (Option.some.inj (Option.some.inj hi)).symm
      · rintro ⟨server', i, hs', hi⟩
        obtain rfl := Option.some.inj hs'
        exact ⟨server, i, hs, ((hset i fd').mp hi).2⟩
  · rintro server' hs'
    obtain rfl := Option.some.inj hs'
    simpa using h.size server hs
  · rintro server' hs' i j fd' hi hj
    obtain rfl := Option.some.inj hs'
    exact h.distinct server hs i j fd' ((hset i fd').mp hi).2 ((hset j fd').mp hj).2
  · constructor
    · rintro ⟨q', hq'⟩
      by_cases hqq : q' = q
      · subst hqq
        simp at hq'
      · have hold := (Heap.free_ne hqq).symm.trans hq'
        obtain ⟨server', fd', hs', hslot⟩ := (h.proxied i).mp ⟨q', hold⟩
        obtain rfl := Option.some.inj (hs.symm.trans hs')
        refine ⟨_, fd', rfl, (hset i fd').mpr ⟨?_, hslot⟩⟩
        rintro rfl
        exact hqq (h.single q' q i hold hq)
    · rintro ⟨server', fd', hs', hslot⟩
      obtain rfl := Option.some.inj hs'
      obtain ⟨hne, hslot⟩ := (hset i fd').mp hslot
      obtain ⟨q', hq'⟩ := (h.proxied i).mpr ⟨server, fd', hs, hslot⟩
      have hqq : q' ≠ q := by
        rintro rfl
        exact hne (Option.some.inj (hq'.symm.trans hq))
      exact ⟨q', (Heap.free_ne hqq).trans hq'⟩
  · intro hq₁ hq₂
    have hold : ∀ {q'}, (p.proxies.free q).cells q' = some i → p.proxies.cells q' = some i := by
      intro q' hq'
      by_cases hqq : q' = q
      · subst hqq
        simp at hq'
      · exact (Heap.free_ne hqq).symm.trans hq'
    exact h.single q₁ q₂ i (hold hq₁) (hold hq₂)
  · simp only [closeFd_pending, closeFd_connected]
    exact (closeFd_clients.append_left p.pending).trans h.clients

/-- The loop of `sock_server_close` (`:177-182`). -/
theorem closeSlots_spec (slots : List (Option Nat)) (p : Process) :
    let p' := slots.foldl (fun p slot => slot.elim p p.closeFd) p
    (∀ fd, p'.table.get fd = if some fd ∈ slots then none else p.table.get fd) ∧ p'.pending = p.pending ∧
      p'.connected = p.connected ∧ p'.others = p.others ∧ p'.proxies = p.proxies ∧
      (p'.gone ++ conns p'.table).Perm (p.gone ++ conns p.table) := by
  induction slots generalizing p with
  | nil => simp
  | cons slot slots ih =>
    cases slot with
    | none => simpa using ih p
    | some fd₀ =>
      obtain ⟨hget, hpending, hconnected, hothers, hproxies, hperm⟩ := ih (p.closeFd fd₀)
      refine ⟨fun fd => ?_, by simpa using hpending, by simpa using hconnected, by simpa using hothers,
        by simpa using hproxies, hperm.trans closeFd_clients⟩
      rw [List.foldl_cons, Option.elim_some, hget fd, closeFd_get]
      by_cases hfd : fd = fd₀
      · simp [hfd]
      · simp [hfd]

/-- **The server is closed**: what is left is what other code has open. -/
theorem Accounted.close (h : Accounted p) : Accounted p.close := by
  unfold Process.close
  split
  · exact h
  · next server hs =>
    obtain ⟨hget, hpending, hconnected, hothers, hproxies, hperm⟩ :=
      closeSlots_spec server.clientSlots (p.closeFd server.socketfd)
    simp only [closeFd_get, closeFd_pending, closeFd_connected, closeFd_others] at hget hpending hconnected hothers
    have hmem : ∀ fd, some fd ∈ server.clientSlots ↔ ∃ c, p.table.get fd = some (.connection c) := by
      intro fd
      rw [h.held fd, List.mem_iff_getElem?]
      constructor
      · exact fun ⟨i, hi⟩ => ⟨server, i, hs, hi⟩
      · rintro ⟨server', i, hs', hi⟩
        obtain rfl := Option.some.inj (hs.symm.trans hs')
        exact ⟨i, hi⟩
    -- only other code's descriptors get past both closes
    have hleft : ∀ fd r, (if some fd ∈ server.clientSlots then none
        else if fd = server.socketfd then none else p.table.get fd) = some r ↔
          p.table.get fd = some r ∧ ∃ k, r = .other k := by
      intro fd r
      have hl := h.listening fd
      constructor
      · intro hr
        split at hr
        · cases hr
        · next hno =>
          split at hr
          · cases hr
          · next hne =>
            refine ⟨hr, ?_⟩
            cases r with
            | other k => exact ⟨k, rfl⟩
            | listening =>
              obtain ⟨server', hs', heq⟩ := hl.mp hr
              obtain rfl := Option.some.inj (hs.symm.trans hs')
              exact absurd heq.symm hne
            | connection c => exact absurd ((hmem fd).mpr ⟨c, hr⟩) hno
      · rintro ⟨hr, k, rfl⟩
        have hno : some fd ∉ server.clientSlots := by
          intro hin
          obtain ⟨c, hc⟩ := (hmem fd).mp hin
          rw [hr] at hc
          cases hc
        have hne : fd ≠ server.socketfd := by
          rintro rfl
          have hlis := hl.mpr ⟨server, hs, rfl⟩
          rw [hr] at hlis
          cases hlis
        rw [if_neg hno, if_neg hne, hr]
    refine ⟨fun fd k => ?_, fun fd => ?_, fun fd => ?_, fun _ hn => (nomatch hn), fun _ hn => (nomatch hn), fun i => ?_,
      fun q q' i hq => (nomatch hq), fun _ => rfl, ?_⟩
    · simp only [hget, hleft, hothers, h.others fd k]
      simp
    · simp only [hget, hleft]
      simp
    · simp only [hget, hleft]
      simp
    · simp [Heap.clear]
    · simp only [hpending, hconnected, List.nil_append, List.append_assoc]
      exact ((hperm.trans closeFd_clients).append_left p.pending).trans h.clients

theorem Accounted.start : Accounted Process.start where
  others fd k := by simp [Process.start, Table.get, Table.empty]
  listening fd := by simp [Process.start, Table.get, Table.empty]
  held fd := by simp [Process.start, Table.get, Table.empty]
  size _ hs := nomatch hs
  distinct _ hs := nomatch hs
  proxied i := by simp [Process.start, Heap.empty]
  single _ _ _ hq := nomatch hq
  waiting _ := rfl
  clients := .refl _

/-- **A new server** has all its slots empty. -/
theorem Accounted.init (h : Accounted p) (hs : p.server = none) (io : InitIo) : Accounted (p.init io) := by
  cases io with
  | noSocket => exact h
  | fails =>
    show Accounted ({ p with table := p.table.opened .listening }.closeFd p.table.fresh)
    rw [closeFd_opened]
    exact h
  | works =>
    have hslots : ∀ (i : Nat) fd, (List.replicate sockMaxClients (none : Option Nat))[i]? ≠ some (some fd) := by
      intro i fd hi
      have hmem := List.mem_of_getElem? hi
      simp at hmem
    have hfresh : p.table.get p.table.fresh = none := Table.get_fresh
    refine ⟨fun fd k => ?_, fun fd => ?_, fun fd => ?_, ?_, ?_, fun i => ?_, h.single, fun hn => (nomatch hn), ?_⟩
    · by_cases hfd : fd = p.table.fresh
      · subst hfd
        simpa [Process.init, hfresh] using (h.others p.table.fresh k).not.mp (by simp [hfresh])
      · simpa [Process.init, hfd] using h.others fd k
    · have hno : p.table.get fd ≠ some .listening := by simpa [hs] using h.listening fd
      by_cases hfd : fd = p.table.fresh
      · simp [Process.init, hfd]
      · simp [Process.init, hfd, hno, Ne.symm hfd]
    · have hno : ¬ ∃ c, p.table.get fd = some (.connection c) := by simpa [hs] using h.held fd
      constructor
      · rintro ⟨c, hc⟩
        by_cases hfd : fd = p.table.fresh
        · simp [Process.init, hfd] at hc
        · simp only [Process.init, Table.get_opened, if_neg hfd] at hc
          exact absurd ⟨c, hc⟩ hno
      · rintro ⟨server, i, hs', hi⟩
        obtain rfl := Option.some.inj hs'
        exact absurd hi (hslots i fd)
    · rintro server hs'
      obtain rfl := Option.some.inj hs'
      simp
    · rintro server hs' i j fd hi
      obtain rfl := Option.some.inj hs'
      exact absurd hi (hslots i fd)
    · have hno := (h.proxied i).not.mpr (by simp [hs])
      refine iff_of_false hno ?_
      rintro ⟨server, fd, hs', hi⟩
      obtain rfl := Option.some.inj hs'
      exact hslots i fd hi
    · have hc := h.clients
      simp only [Process.init, conns_opened]
      exact hc

/-- What other code opens. -/
theorem Accounted.otherOpen (h : Accounted p) (k : Nat) :
    Accounted { p with table := p.table.opened (.other k), others := (p.table.fresh, k) :: p.others } := by
  have hfresh : p.table.get p.table.fresh = none := Table.get_fresh
  refine ⟨fun fd k' => ?_, fun fd => ?_, fun fd => ?_, h.size, h.distinct, h.proxied, h.single, h.waiting, ?_⟩
  · have ho := h.others fd k'
    by_cases hfd : fd = p.table.fresh
    · subst hfd
      have hno := ho.not.mp (by simp [hfresh])
      simp [hno, eq_comm]
    · simp [hfd, ho]
  · rw [← h.listening fd]
    by_cases hfd : fd = p.table.fresh <;> simp [hfd, hfresh]
  · rw [← h.held fd]
    by_cases hfd : fd = p.table.fresh <;> simp [hfd, hfresh]
  · simp only [conns_opened]
    exact h.clients

/-- What other code closes. -/
theorem Accounted.otherClose (h : Accounted p) {k : Nat} (hk : p.table.get fd = some (.other k)) :
    Accounted { p.closeFd fd with others := p.others.filter fun e => e.1 ≠ fd } := by
  refine ⟨fun fd' k' => ?_, fun fd' => ?_, fun fd' => ?_, ?_, ?_, ?_, ?_, ?_, ?_⟩
  · have ho := h.others fd' k'
    by_cases hfd : fd' = fd
    · simp [hfd]
    · simp [hfd, ho]
  · simp only [closeFd_get, closeFd_server]
    rw [← h.listening fd']
    by_cases hfd : fd' = fd
    · simp [hfd, hk]
    · simp [hfd]
  · simp only [closeFd_get, closeFd_server]
    rw [← h.held fd']
    by_cases hfd : fd' = fd
    · simp [hfd, hk]
    · simp [hfd]
  · simpa using h.size
  · simpa using h.distinct
  · simpa using h.proxied
  · simpa using h.single
  · simpa using h.waiting
  · simp only [closeFd_pending, closeFd_connected]
    exact (closeFd_clients.append_left p.pending).trans h.clients

/-- **`sock_server_has_newconn`** takes a client in only to close it. -/
theorem Accounted.hasNewconn (h : Accounted p) (nsel : Select) (works : Bool) : Accounted (p.hasNewconn nsel works).1 := by
  unfold Process.hasNewconn
  split
  · split
    · exact h
    · cases ha : p.accept works with
      | mk p' clientfd =>
        cases clientfd with
        | none =>
          rw [accept_none ha]
          exact h
        | some clientfd =>
          obtain ⟨c, hp, hclosed, -, -⟩ := accept_closed ha
          simp only [hclosed]
          exact h.refused hp
  · exact h

/-- **`sock_server_create_client`** keeps the descriptor or closes it. -/
theorem Accounted.createClient (h : Accounted p) (io : CreateIo) : Accounted (p.createClient io).1 := by
  unfold Process.createClient
  split
  · exact h
  · next server hs =>
    cases ha : p.accept io.accept with
    | mk p' clientfd =>
      cases clientfd with
      | none =>
        rw [accept_none ha]
        exact h
      | some clientfd =>
        obtain ⟨c, hp, hclosed, hfd, hp'⟩ := accept_closed ha
        have hrefused : Accounted (p'.closeFd clientfd) := by
          rw [hclosed]
          exact h.refused hp
        simp only
        split
        · exact hrefused
        · split
          · exact hrefused
          · next hlt =>
            split
            · exact hrefused
            · have hid := findEmptySlot_empty (h.size server hs) (Nat.lt_of_not_le hlt)
              have htaken := h.taken hs hp hid
              rw [hfd, hp']
              exact htaken

/-- **One call** keeps the books. -/
theorem Accounted.step (h : Accounted p) {o : SockOp} (hstep : p.step o = some p') : Accounted p' := by
  cases o with
  | connect =>
    simp only [Process.step] at hstep
    split at hstep
    · next hs =>
      obtain rfl := Option.some.inj hstep
      refine ⟨h.others, h.listening, h.held, h.size, h.distinct, h.proxied, h.single, fun hn => ?_, ?_⟩
      · simp only at hn
        simp [hn] at hs
      · show (p.pending ++ [p.connected] ++ (p.gone ++ conns p.table)).Perm (List.range (p.connected + 1))
        rw [List.range_succ, List.append_assoc, List.singleton_append]
        exact List.perm_middle.trans ((List.Perm.cons _ h.clients).trans (List.perm_append_singleton _ _).symm)
    · obtain rfl := Option.some.inj hstep
      exact h
  | abort c =>
    obtain ⟨hc, he⟩ := Option.ite_none_right_eq_some.mp hstep
    obtain rfl := Option.some.inj he
    refine ⟨h.others, h.listening, h.held, h.size, h.distinct, h.proxied, h.single, fun hn => ?_, ?_⟩
    · rw [h.waiting hn] at hc
      cases hc
    · refine List.Perm.trans ?_ h.clients
      rw [List.cons_append]
      exact List.perm_middle.trans ((List.perm_cons_erase hc).symm.append_right _)
  | otherOpen k =>
    obtain rfl := Option.some.inj hstep
    exact h.otherOpen k
  | otherClose fd =>
    simp only [Process.step] at hstep
    split at hstep
    · next k hk =>
      obtain rfl := Option.some.inj hstep
      exact h.otherClose hk
    · cases hstep
  | init io =>
    obtain ⟨hs, he⟩ := Option.ite_none_left_eq_some.mp hstep
    obtain rfl := Option.some.inj he
    exact h.init (by simpa using hs) io
  | hasNewconn nsel works =>
    obtain rfl := Option.some.inj hstep
    exact h.hasNewconn nsel works
  | createClient io =>
    obtain rfl := Option.some.inj hstep
    exact h.createClient io
  | closeClient client =>
    simp only [Process.step, Process.closeClient] at hstep
    split at hstep
    · obtain rfl := Option.some.inj hstep
      exact h
    · obtain rfl := Option.some.inj hstep
      exact h
    · next server q hs =>
      split at hstep
      · cases hstep
      · next id hq =>
        obtain rfl := Option.some.inj hstep
        obtain ⟨server', fd, hs', hslot⟩ := (h.proxied id).mp ⟨q, hq⟩
        obtain rfl := Option.some.inj (hs.symm.trans hs')
        have hgetD : server.clientSlots.getD id none = some fd := by rw [List.getD_eq_getElem?_getD, hslot]; rfl
        have hreleased := h.released hs hq hslot
        simp only [hgetD, closeFd_proxies]
        exact hreleased
  | close =>
    obtain rfl := Option.some.inj hstep
    exact h.close

/-- **No descriptor is lost, and none is closed twice**: whatever clients, other code and the calls of a server do in any
order, the process has open what other code opened, the socket of its server and one descriptor for each connection in a
slot, each with its proxy; and every client that connected waits, is in a slot or is gone, once. -/
theorem descriptors_accounted (ops : List SockOp) (hrun : Process.start.run ops = some p) : Accounted p := by
  have hsteps : ∀ (ops : List SockOp) (p₀ : Process), Accounted p₀ → p₀.run ops = some p → Accounted p := by
    intro ops
    induction ops with
    | nil =>
      rintro p₀ h hrun
      obtain rfl := Option.some.inj hrun
      exact h
    | cons o ops ih =>
      intro p₀ h hrun
      rw [Process.run, List.foldlM_cons] at hrun
      obtain ⟨p₁, hstep, hrun⟩ := Option.bind_eq_some_iff.mp hrun
      exact ih p₁ (h.step hstep) hrun
  exact hsteps ops _ Accounted.start hrun

end

/-- A log file, a server, a client that is taken in and one that comes too late. -/
def oneClient : List SockOp :=
  [.otherOpen 0, .init .works, .connect, .hasNewconn .ready true, .createClient ⟨true, true, true⟩, .connect,
    .closeClient (some 0), .createClient ⟨true, false, true⟩, .close]

theorem descriptors_accounted_one : ∃ p, Process.start.run oneClient = some p ∧ Accounted p ∧ p.gone = [1, 0] := by
  obtain ⟨p, hp⟩ := Option.isSome_iff_exists.mp (show (Process.start.run oneClient).isSome = true by decide +kernel)
  have hgone : (Process.start.run oneClient).map (·.gone) = some [1, 0] := by decide +kernel
  rw [hp] at hgone
  exact ⟨p, hp, descriptors_accounted oneClient hp, Option.some.inj hgone⟩

end CloudStreaming.Sock
