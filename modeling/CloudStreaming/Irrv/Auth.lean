import CloudStreaming.Irrv.Steps

/-!
# Authentication bookkeeping

`auth_pass` is keyed by the listening server, not by the connection, so every path that drops or replaces
a connection has to reset it. All of them do, whether or not the stream requires authentication:
`authPass_iff` says that after any run `auth_pass[s]` is set exactly while the current connection of `s`
has sent a matching `VAUTH` since it was accepted and no failing one since.
-/

namespace CloudStreaming.Irrv

open Bytes Runs

/-- The body of a `VAUTH` has the id and the key. -/
def Matching (body : Buf) : Prop := body.take 16 = authId ∧ (body.drop 16).take 16 = authKey

/-- The server has read a matching `VAUTH` from connection `c` of `s` since it accepted it, and no failing
one since. The log is newest first. -/
def Authenticated (log : List Event) (s : Server) (c : Conn) : Prop :=
  ∃ later body earlier, log = later ++ .vauth s c body :: earlier ∧ Matching body ∧ .accept s c ∈ earlier ∧
    ∀ body', .vauth s c body' ∈ later → Matching body'

/-- The connections accepted so far. -/
def accepted (log : List Event) : List Conn :=
  log.filterMap fun
    | .accept _ c => some c
    | _ => none

/-! ## `Authenticated` and the log -/

theorem matching_iff {body : Buf} :
    World.irrvCheckAuthentication (World.vauthId body) (World.vauthKey body) = true ↔ Matching body := by
  simp [World.irrvCheckAuthentication, Matching, World.vauthId, World.vauthKey]

theorem authenticated_cons {log : List Event} {s : Server} {c : Conn} {e : Event} (he : ∀ body, e ≠ .vauth s c body) :
    Authenticated (e :: log) s c ↔ Authenticated log s c := by
  constructor
  · rintro ⟨later, body, earlier, heq, hm, ha, hl⟩
    cases later with
    | nil => exact absurd (List.cons.inj heq).1 (he body)
    | cons x later =>
      obtain ⟨rfl, rfl⟩ := List.cons.inj heq
      exact ⟨later, body, earlier, rfl, hm, ha, fun body' h => hl body' (List.mem_cons_of_mem _ h)⟩
  · rintro ⟨later, body, earlier, rfl, hm, ha, hl⟩
    refine ⟨e :: later, body, earlier, rfl, hm, ha, fun body' h => ?_⟩
    rcases List.mem_cons.1 h with h | h
    · exact absurd h.symm (he body')
    · exact hl body' h

theorem authenticated_pass {log : List Event} {s : Server} {c : Conn} {body : Buf} (h : .accept s c ∈ log)
    (hm : Matching body) : Authenticated (.vauth s c body :: log) s c :=
  ⟨[], body, log, rfl, hm, h, fun _ h' => absurd h' List.not_mem_nil⟩

theorem Authenticated.accepted {log : List Event} {s : Server} {c : Conn} (h : Authenticated log s c) :
    .accept s c ∈ log := by
  obtain ⟨later, body, earlier, rfl, -, ha, -⟩ := h
  exact List.mem_append_right _ (List.mem_cons_of_mem _ ha)

theorem mem_accepted {log : List Event} {c : Conn} : c ∈ accepted log ↔ ∃ s, .accept s c ∈ log := by
  unfold Irrv.accepted
  rw [List.mem_filterMap]
  constructor
  · rintro ⟨e, he, hc⟩
    cases e <;> simp at hc
    subst hc; exact ⟨_, he⟩
  · rintro ⟨s, he⟩
    exact ⟨_, he, rfl⟩

/-! ## The invariant -/

namespace World

/-- `auth_pass` and the log agree; connection numbers are new when they are given out. -/
structure AuthInv (w : World) : Prop where
  agrees : ∀ s, w.authPass s = true ↔ ∃ c, w.clients s = some c ∧ Authenticated w.log s c
  live : ∀ s c, w.clients s = some c → .accept s c ∈ w.log
  fresh : ∀ s c, .accept s c ∈ w.log → c < w.nextConn
  nodup : (accepted w.log).Nodup

/-- Events that say nothing about who is connected or authenticated. -/
def Silent : Event → Prop
  | .accept _ _ => False
  | .vauth _ _ _ => False
  | _ => True

theorem accepted_silent {log : List Event} {e : Event} (h : Silent e) : accepted (e :: log) = accepted log := by
  cases e <;> first | exact absurd h id | rfl

/-- A step that records a silent event and leaves the maps alone. -/
theorem AuthInv.record {w w' : World} (h : AuthInv w) {e : Event} (he : Silent e) (hlog : w'.log = e :: w.log)
    (hc : w'.clients = w.clients) (hp : w'.authPass = w.authPass) (hn : w.nextConn ≤ w'.nextConn) :
    AuthInv w' := by
  have hne : ∀ s c body, e ≠ .vauth s c body := by rintro s c body rfl; exact he
  have hna : ∀ s c, e ≠ .accept s c := by rintro s c rfl; exact he
  refine ⟨fun s => ?_, fun s c hs => ?_, fun s c ha => ?_, ?_⟩
  · rw [hp, hc, hlog, h.agrees s]
    simp only [authenticated_cons (hne s _)]
  · rw [hc] at hs; rw [hlog]; exact List.mem_cons_of_mem e (h.live s c hs)
  · rw [hlog] at ha
    rcases List.mem_cons.1 ha with ha | ha
    · exact absurd ha.symm (hna s c)
    · exact Nat.lt_of_lt_of_le (h.fresh s c ha) hn
  · rw [hlog, accepted_silent he]; exact h.nodup

/-- A step that changes neither the log nor the maps. -/
theorem AuthInv.frame {w w' : World} (h : AuthInv w) (hlog : w'.log = w.log) (hc : w'.clients = w.clients)
    (hp : w'.authPass = w.authPass) (hn : w.nextConn ≤ w'.nextConn) : AuthInv w' :=
  ⟨by rw [hp, hc, hlog]; exact h.agrees, by rw [hc, hlog]; exact h.live,
    fun s c ha => Nat.lt_of_lt_of_le (h.fresh s c (hlog ▸ ha)) hn, by rw [hlog]; exact h.nodup⟩

/-- Both maps forget the connection of `s`. -/
theorem AuthInv.clear {w : World} (h : AuthInv w) (s : Server) :
    AuthInv { w with clients := Function.update w.clients s none, authPass := Function.update w.authPass s false } := by
  refine ⟨fun s' => ?_, fun s' c hs => ?_, h.fresh, h.nodup⟩
  · by_cases hs : s' = s
    · subst hs; simp
    · simp only [Function.update_of_ne hs]; exact h.agrees s'
  · by_cases he : s' = s
    · subst he; simp at hs
    · simp only [Function.update_of_ne he] at hs; exact h.live s' c hs

/-- Another server's `VAUTH`. -/
theorem vauth_ne {s s' : Server} {c : Conn} {body : Buf} (he : s' ≠ s) (c' : Conn) (body' : Buf) :
    Event.vauth s c body ≠ .vauth s' c' body' := fun h => he (by cases h; rfl)

/-- A `VAUTH` that does not match: the server has no connection any more. -/
theorem AuthInv.fail {w : World} (h : AuthInv w) (s : Server) (c : Conn) (body : Buf) :
    AuthInv { w.record (.vauth s c body) with
      clients := Function.update w.clients s none, authPass := Function.update w.authPass s false } := by
  refine ⟨fun s' => ?_, fun s' c' hc => ?_, fun s' c' ha => ?_, h.nodup⟩
  · by_cases he : s' = s
    · subst he
      simp
    · simp only [Function.update_of_ne he, record_log, h.agrees s', authenticated_cons (vauth_ne he _)]
  · by_cases he : s' = s
    · subst he
      simp at hc
    · simp only [Function.update_of_ne he] at hc
      exact List.mem_cons_of_mem _ (h.live s' c' hc)
  · rcases List.mem_cons.1 ha with ha | ha
    · cases ha
    · exact h.fresh s' c' ha

/-- A matching `VAUTH` of the current connection. -/
theorem AuthInv.pass {w : World} (h : AuthInv w) (s : Server) (c : Conn) {body : Buf} (hs : w.clients s = some c)
    (hm : Matching body) :
    AuthInv { w.record (.vauth s c body) with authPass := Function.update w.authPass s true } := by
  refine ⟨fun s' => ?_, fun s' c' hc => List.mem_cons_of_mem _ (h.live s' c' hc), fun s' c' ha => ?_, h.nodup⟩
  · by_cases he : s' = s
    · subst he
      simp only [Function.update_self, record_clients, hs, record_log, true_iff]
      exact ⟨c, rfl, authenticated_pass (h.live s' c hs) hm⟩
    · simp only [Function.update_of_ne he, record_clients, record_log, h.agrees s', authenticated_cons (vauth_ne he _)]
  · rcases List.mem_cons.1 ha with ha | ha
    · cases ha
    · exact h.fresh s' c' ha

/-- A new connection has no `VAUTH` in the log yet. -/
theorem AuthInv.accept {w : World} (h : AuthInv w) (s : Server) (hs : w.clients s = none) :
    AuthInv (({ w with clients := Function.update w.clients s (some w.nextConn), nextConn := w.nextConn + 1 } :
      World).record (.accept s w.nextConn)) := by
  have hnew : ∀ s', ¬ Authenticated w.log s' w.nextConn := fun s' ha =>
    absurd (h.fresh s' w.nextConn ha.accepted) (Nat.lt_irrefl _)
  refine ⟨fun s' => ?_, fun s' c hc => ?_, fun s' c ha => ?_, ?_⟩
  · have hcons : ∀ c, Authenticated (.accept s w.nextConn :: w.log) s' c ↔ Authenticated w.log s' c := fun c =>
      authenticated_cons (fun body hh => by cases hh)
    simp only [record_authPass, record_clients, record_log, hcons, h.agrees s']
    by_cases he : s' = s
    · subst he
      simp only [hs, Function.update_self]
      constructor
      · rintro ⟨c, hc, -⟩; cases hc
      · rintro ⟨c, hc, ha⟩
        cases hc; exact absurd ha (hnew s')
    · simp only [Function.update_of_ne he]
  · by_cases he : s' = s
    · subst he
      simp only [record_clients, Function.update_self] at hc
      cases hc
      exact List.mem_cons_self
    · simp only [record_clients, Function.update_of_ne he] at hc
      exact List.mem_cons_of_mem _ (h.live s' c hc)
  · rcases List.mem_cons.1 ha with ha | ha
    · cases ha
      exact Nat.lt_succ_self _
    · exact Nat.lt_trans (h.fresh s' c ha) (Nat.lt_succ_self _)
  · show (w.nextConn :: accepted w.log).Nodup
    refine List.nodup_cons.2 ⟨fun hm => ?_, h.nodup⟩
    obtain ⟨s', ha⟩ := mem_accepted.1 hm
    exact absurd (h.fresh s' w.nextConn ha) (Nat.lt_irrefl _)

theorem AuthInv.acceptClient {w : World} (h : AuthInv w) (s : Server) (io : Io) (hs : w.clients s = none) :
    AuthInv (w.acceptClient s io w.authFlag) := by
  unfold World.acceptClient
  cases io.created with
  | false =>
    have hsame : Function.update w.clients s none = w.clients := by rw [← hs, Function.update_eq_self]
    exact h.frame rfl hsame rfl (Nat.le_succ _)
  | true => exact (h.accept s hs).record (e := .send w.nextConn _ io.sendHead) trivial rfl rfl rfl (Nat.le_refl _)

theorem AuthInv.dropClient {w : World} (h : AuthInv w) (s : Server) (c : Conn) : AuthInv (w.dropClient s c) := by
  have hc : AuthInv (({ w with
      clients := Function.update w.clients s none, authPass := Function.update w.authPass s false } :
      World).record (.drop s c)) :=
    (h.clear s).record (e := .drop s c) trivial rfl rfl rfl (Nat.le_refl _)
  refine hc.frame ?_ ?_ ?_ ?_
  all_goals
    unfold World.dropClient
    dsimp only
    split <;> simp [decClient, setEncodeFlag, setTransmitFlag, onStreamer]

theorem authInv_preserved : Preserved AuthInv where
  accept w s io h hs := h.acceptClient s io hs
  header w c os h := h.record (e := .header c (w.pos c)) trivial rfl rfl rfl (Nat.le_refl _)
  body w c os buf h := h.frame rfl rfl rfl (Nat.le_refl _)
  pass w s c body os h hs _ hm :=
    (h.pass s c hs (matching_iff.mp hm)).record (e := .send c _ os) trivial rfl rfl rfl (Nat.le_refl _)
  fail w s c body os h _ _ _ := (h.fail s c body).record (e := .send c _ os) trivial rfl rfl rfl (Nat.le_refl _)
  vctrl w s c v h _ _ := by
    obtain ⟨f, hf, -⟩ := applyVctrl_cases w s c v
    rw [hf]
    exact h.record (e := .vctrl s c v) trivial rfl rfl rfl (Nat.le_refl _)
  abort w h := h.frame rfl rfl rfl (Nat.le_refl _)
  drop w s c h _ := h.dropClient s c
  frame w s c data flags io h _ _ := by
    have hrec : ∀ {u : World} (e : Event), Silent e → AuthInv u → AuthInv (u.record e) := fun e he hu =>
      hu.record he rfl rfl rfl (Nat.le_refl _)
    exact hrec (.send c data io.sendData) trivial
      (hrec (.send c _ io.sendInfo) trivial (hrec (.vframe s c ⟨data, flags⟩) trivial h))
  message w s msg value os h := by
    unfold irrvSendMessage
    cases w.clients s with
    | none => exact h
    | some c => exact h.record (e := .send c _ os) trivial rfl rfl rfl (Nat.le_refl _)
  close w s h := h.clear s
  peer w c bytes h := h.frame rfl rfl rfl (Nat.le_refl _)

theorem init_authInv (streamer : Option Streamer) : AuthInv (World.init streamer) :=
  ⟨fun s => by simp [World.init], fun s c hc => by simp [World.init] at hc,
    fun s c ha => by simp [World.init] at ha, List.nodup_nil⟩

end World

/-- **Authentication bookkeeping**, over every run of the callbacks on any servers and any bytes from the
peers, in particular where authentication is required: `auth_pass[s]` is set exactly while the current
connection of `s` is authenticated, and no connection number is ever given out twice. -/
theorem authPass_iff (streamer : Option Streamer) (ops : List Op) :
    let w := ops.foldl step (World.init streamer)
    (∀ s, w.authPass s = true ↔ ∃ c, w.clients s = some c ∧ Authenticated w.log s c) ∧ (accepted w.log).Nodup := by
  intro w
  have h : w.AuthInv := World.authInv_preserved.run ops _ (World.init_authInv streamer)
  exact ⟨h.agrees, h.nodup⟩

end CloudStreaming.Irrv
