import CloudStreaming.Lib.Runs
import CloudStreaming.Irrv.Server

/-!
# The transfer loops (`sock_util/sock_server.cpp:465-596`, `sock_util/sock_client.cpp:229-344`)

`sock_server_send`, `sock_server_recv`, `sock_client_send` and `sock_client_recv` are one loop over `send` or
`recv`. A positive result moves the pointer; any other result looks at `errno`, tries again after `EINTR` and
`EAGAIN` and otherwise returns the result of the system call. For a result of 0, the end of the stream, `errno`
is whatever an earlier call left there, and the return value is 0 also where part of the buffer was moved:
`part_then_end_of_stream`. `sock_transfer_iff` says when the loops do what their callers expect.

| here | there |
| --- | --- |
| `Turn.errno`      | `errno` after the call, which 0 and positive results do not set |
| `Turn.timeout`    | what `sock_timeout` returns, if it is asked in this turn |
| `Transfer.offset` | `p_src - data`, `p_dst - data` |
| `Transfer.bytes`  | not in the source: the offsets of the buffer the system has read or written, oldest first |
| `Transfer.ended`  | the function has returned this value |

One `send` or `recv` moves at most `0x7ffff000` bytes, whatever it is asked for, so that the result is an
`int`. The sleeps and the log are left out.
-/

namespace CloudStreaming.Sock

open Runs

inductive Errno where
  | eintr
  | eagain
  | other
  deriving DecidableEq, Repr

/-- What `send` or `recv` does; `moved more` is at most `more + 1` bytes. -/
inductive SysResult where
  | moved (more : ℕ)
  | zero
  | failed
  deriving DecidableEq, Repr

structure Turn where
  result : SysResult
  errno : Errno
  timeout : Bool
  deriving DecidableEq, Repr

/-- The most one system call moves. -/
def maxCount : ℕ := 0x7ffff000

/-- `ret` of a call for `left` bytes. -/
def Turn.ret (t : Turn) (left : ℕ) : Int :=
  match t.result with
  | .moved more => min (more + 1) (min left maxCount)
  | .zero => 0
  | .failed => -1

structure Transfer where
  leftLen : ℕ
  offset : ℕ
  doRetry : Bool
  bytes : List ℕ
  ended : Option Int
  deriving DecidableEq, Repr

/-- `(int)` of a length. -/
def toInt (n : ℕ) : Int := (UInt32.ofNat n).toInt32.toInt

/-- Before the first turn (`:482-485`). -/
def Transfer.start (datalen : ℕ) : Transfer := ⟨datalen, 0, false, [], none⟩

/-- The end of a turn (`:515-527`): `timeout` is asked only with `do_retry`. -/
def Transfer.finish (datalen : ℕ) (s : Transfer) (timeout : Bool) : Transfer :=
  let doRetry := s.doRetry && !timeout
  let s := { s with doRetry := doRetry }
  if 0 < s.leftLen ∧ doRetry = true then s else { s with ended := some (toInt (datalen - s.leftLen)) }

/-- One turn of the loop. -/
def turn (oneShot : Bool) (datalen : ℕ) (s : Transfer) (t : Turn) : Transfer :=
  if s.ended.isSome then s
  else
    let ret := t.ret s.leftLen
    if 0 < ret then
      let leftLen := s.leftLen - ret.toNat
      Transfer.finish datalen
        { s with
          leftLen := leftLen
          offset := s.offset + ret.toNat
          bytes := s.bytes ++ List.range' s.offset ret.toNat
          doRetry := if 0 < leftLen ∧ !oneShot then true else s.doRetry } t.timeout
    else if t.errno = .eintr ∨ t.errno = .eagain then
      Transfer.finish datalen { s with doRetry := if !oneShot then true else s.doRetry } t.timeout
    else { s with ended := some ret }

/-- A null handle. -/
def refused (datalen : ℕ) : Transfer := { Transfer.start datalen with ended := some (-1) }

/-- `sock_server_send` (`sock_server.cpp:465`). -/
def sockServerSend (server sender : Bool) (datalen : ℕ) (turns : List Turn) : Transfer :=
  turns.foldl (turn false datalen) (if server && sender then Transfer.start datalen else refused datalen)

/-- `sock_server_recv` (`sock_server.cpp:530`). -/
def sockServerRecv (server receiver : Bool) (datalen : ℕ) (oneShot : Bool) (turns : List Turn) : Transfer :=
  turns.foldl (turn oneShot datalen) (if server && receiver then Transfer.start datalen else refused datalen)

/-- `sock_client_send` (`sock_client.cpp:229`). -/
def sockClientSend (client : Bool) (datalen : ℕ) (turns : List Turn) : Transfer :=
  turns.foldl (turn false datalen) (if client then Transfer.start datalen else refused datalen)

/-- `sock_client_recv` (`sock_client.cpp:287`). -/
def sockClientRecv (client : Bool) (datalen : ℕ) (turns : List Turn) : Transfer :=
  turns.foldl (turn false datalen) (if client then Transfer.start datalen else refused datalen)

/-! ## What the callers expect -/

/-- A hard error, or the end of the stream. -/
def Turn.Stops (t : Turn) : Prop := (t.result = .zero ∨ t.result = .failed) ∧ t.errno = .other

/-- The turn `t` from `s` to `s'` moves as many of the next bytes of the buffer as the call, asked for all the rest,
takes; it ends the loop exactly at the end of the buffer or for a reason; and a value it returns that is not negative
is the number of bytes moved. A loop that has ended does nothing. -/
structure Expected (datalen : ℕ) (s : Transfer) (t : Turn) (s' : Transfer) : Prop where
  next : s.ended = none →
    s'.bytes = s.bytes ++ List.range' s.bytes.length (t.ret (datalen - s.bytes.length)).toNat
  inOrder : s'.bytes = List.range s'.bytes.length
  within : s'.bytes.length ≤ datalen
  reason : s.ended = none → (s'.ended ≠ none ↔ s'.bytes.length = datalen ∨ t.Stops ∨ t.timeout = true)
  returned : ∀ ret, s'.ended = some ret → 0 ≤ ret → ret = s'.bytes.length
  stays : s.ended ≠ none → s' = s

/-- Every turn of a function is as expected. -/
def Transfers (datalen : ℕ) (f : List Turn → Transfer) (turns : List Turn) : Prop :=
  ∀ pre t, pre ++ [t] <+: turns → Expected datalen (f pre) t (f (pre ++ [t]))

/-- The total does not fit an `int` and yet looks like one. -/
def Wraps (n : ℕ) : Prop := 2 ^ 32 ≤ n ∧ n % 2 ^ 32 < 2 ^ 31

/-- When a running loop goes right: the end of the stream finds nothing moved yet, and the total it would return
does not wrap. -/
def Careful (datalen : ℕ) (s : Transfer) (t : Turn) : Prop :=
  s.ended = none →
    let ret := t.ret s.leftLen
    let total := s.offset + ret.toNat
    (ret = 0 → t.errno = .other → s.offset = 0) ∧
    (0 < ret ∨ t.errno ≠ .other → total = datalen ∨ t.timeout = true → ¬ Wraps total)

/-! ## One turn -/

theorem toInt_iff (n : ℕ) : (0 ≤ toInt n → toInt n = n) ↔ ¬ Wraps n := by
  have hmod : toInt n = if n % 2 ^ 32 < 2 ^ 31 then ((n % 2 ^ 32 : ℕ) : Int) else (n % 2 ^ 32 : ℕ) - (2 ^ 32 : ℕ) := by
    show (BitVec.ofNat 32 n).toInt = _
    rw [BitVec.toInt_eq_toNat_cond, BitVec.toNat_ofNat]
    split <;> split <;> omega
  rw [hmod, Wraps]
  split <;> omega

theorem Turn.ret_le (t : Turn) (left : ℕ) : t.ret left ≤ left := by
  unfold Turn.ret
  split <;> omega

/-- A turn that moves bytes, or is to be tried again. -/
def Turn.GoesOn (t : Turn) (left : ℕ) : Prop := 0 < t.ret left ∨ t.errno ≠ .other

theorem Turn.GoesOn.not_stops {t : Turn} {left : ℕ} (h : t.GoesOn left) : ¬ t.Stops := by
  rintro ⟨hres, hother⟩
  rcases h with hret | herrno
  · rcases hres with hres | hres <;> simp [Turn.ret, hres] at hret
  · exact herrno hother

theorem finish_ended (datalen : ℕ) (s : Transfer) (timeout : Bool) (hended : s.ended = none)
    (hretry : 0 < s.leftLen → s.doRetry = true) :
    (s.finish datalen timeout).ended =
      if s.leftLen = 0 ∨ timeout = true then some (toInt (datalen - s.leftLen)) else none := by
  unfold Transfer.finish
  rcases Nat.eq_zero_or_pos s.leftLen with h0 | hpos
  · simp [h0]
  · have hne : s.leftLen ≠ 0 := Nat.pos_iff_ne_zero.mp hpos
    cases timeout with
    | true => simp [hpos]
    | false => simp [hpos, hne, hretry hpos, hended]

@[simp] theorem finish_bytes (datalen : ℕ) (s : Transfer) (timeout : Bool) :
    (s.finish datalen timeout).bytes = s.bytes := by
  unfold Transfer.finish
  dsimp only
  split <;> rfl

@[simp] theorem finish_offset (datalen : ℕ) (s : Transfer) (timeout : Bool) :
    (s.finish datalen timeout).offset = s.offset := by
  unfold Transfer.finish
  dsimp only
  split <;> rfl

@[simp] theorem finish_leftLen (datalen : ℕ) (s : Transfer) (timeout : Bool) :
    (s.finish datalen timeout).leftLen = s.leftLen := by
  unfold Transfer.finish
  dsimp only
  split <;> rfl

/-- A turn that goes on takes the next bytes, and ends the loop at the end of the buffer or of the time. -/
theorem turn_goesOn (datalen : ℕ) (s : Transfer) (t : Turn) (hended : s.ended = none) (h : t.GoesOn s.leftLen) :
    let k := (t.ret s.leftLen).toNat
    let s' := turn false datalen s t
    s'.bytes = s.bytes ++ List.range' s.offset k ∧ s'.offset = s.offset + k ∧ s'.leftLen = s.leftLen - k ∧
      s'.ended = if s.leftLen - k = 0 ∨ t.timeout = true then some (toInt (datalen - (s.leftLen - k))) else none := by
  intro k s'
  by_cases hret : 0 < t.ret s.leftLen
  · have hs' : s' = Transfer.finish datalen
        { s with
          leftLen := s.leftLen - k
          offset := s.offset + k
          bytes := s.bytes ++ List.range' s.offset k
          doRetry := if 0 < s.leftLen - k then true else s.doRetry } t.timeout := by
      simp [s', k, turn, hended, hret]
    rw [hs']
    refine ⟨by simp, by simp, by simp, finish_ended _ _ _ hended fun hpos => ?_⟩
    exact if_pos hpos
  · have hk : k = 0 := by omega
    have herrno : t.errno = .eintr ∨ t.errno = .eagain := by
      rcases h with h | h
      · exact absurd h hret
      · cases he : t.errno with
        | eintr => exact Or.inl rfl
        | eagain => exact Or.inr rfl
        | other => exact absurd he h
    have hs' : s' = Transfer.finish datalen { s with doRetry := true } t.timeout := by
      simp [s', turn, hended, hret, herrno]
    rw [hs', hk]
    refine ⟨by simp, by simp, by simp, finish_ended _ _ _ hended fun _ => rfl⟩

/-- Any other turn returns the result of the system call. -/
theorem turn_returns (oneShot : Bool) (datalen : ℕ) (s : Transfer) (t : Turn) (hended : s.ended = none)
    (h : ¬ t.GoesOn s.leftLen) : turn oneShot datalen s t = { s with ended := some (t.ret s.leftLen) } := by
  obtain ⟨hret, herrno⟩ := not_or.mp h
  have hother : t.errno = .other := not_not.mp herrno
  simp [turn, hended, hret, hother]

theorem turn_ended (oneShot : Bool) (datalen : ℕ) (s : Transfer) (t : Turn) (hended : s.ended ≠ none) :
    turn oneShot datalen s t = s := by
  simp [turn, Option.isSome_iff_ne_none, hended]

/-! ## Whole transfers -/

/-- The bytes moved are the first ones of the buffer, and a returned value that is not negative counts them. -/
structure Tracked (datalen : ℕ) (s : Transfer) : Prop where
  bytes : s.bytes = List.range s.offset
  left : s.offset + s.leftLen = datalen
  returned : ∀ ret, s.ended = some ret → 0 ≤ ret → ret = s.offset

theorem Tracked.start (datalen : ℕ) : Tracked datalen (Transfer.start datalen) :=
  ⟨rfl, Nat.zero_add _, fun _ h => nomatch h⟩

theorem range_append_range' (n k : ℕ) : List.range n ++ List.range' n k = List.range (n + k) := by
  rw [List.range_eq_range', List.range_eq_range', List.range'_append_1.symm]
  simp

theorem Tracked.length {datalen : ℕ} {s : Transfer} (h : Tracked datalen s) : s.bytes.length = s.offset := by
  rw [h.bytes, List.length_range]

/-- What is left of the buffer is what the call is asked for. -/
theorem Tracked.rest {datalen : ℕ} {s : Transfer} (h : Tracked datalen s) : datalen - s.bytes.length = s.leftLen := by
  have := h.length
  have := h.left
  omega

/-- After a turn that goes on: the bytes, and the value returned if it is the last. -/
theorem Tracked.goesOn {datalen : ℕ} {s : Transfer} (h : Tracked datalen s) (t : Turn) (hended : s.ended = none)
    (hon : t.GoesOn s.leftLen) :
    let n := s.offset + (t.ret s.leftLen).toNat
    let s' := turn false datalen s t
    s'.bytes = List.range n ∧ s'.offset = n ∧ s'.offset + s'.leftLen = datalen ∧
      (n = datalen ∨ t.timeout = true → s'.ended = some (toInt n)) ∧
      (¬ (n = datalen ∨ t.timeout = true) → s'.ended = none) := by
  intro n s'
  have hle := t.ret_le s.leftLen
  have hleft := h.left
  obtain ⟨hbytes, hoffset, hrest, hend⟩ := turn_goesOn datalen s t hended hon
  have htotal : datalen - (s.leftLen - (t.ret s.leftLen).toNat) = n := by omega
  rw [htotal] at hend
  refine ⟨?_, hoffset, ?_, fun hstop => ?_, fun hgo => ?_⟩
  · rw [hbytes, h.bytes, range_append_range']
  · rw [hoffset, hrest]
    omega
  · rw [hend, if_pos]
    exact hstop.imp_left fun _ => by omega
  · rw [hend, if_neg]
    exact fun hstop => hgo (hstop.imp_left fun _ => by omega)

theorem Tracked.expected_goesOn {datalen : ℕ} {s : Transfer} (h : Tracked datalen s) (t : Turn) (hended : s.ended = none)
    (hon : t.GoesOn s.leftLen) : Expected datalen s t (turn false datalen s t) ↔ Careful datalen s t := by
  obtain ⟨hbytes, hoffset, htotal, hlast, hmore⟩ := h.goesOn t hended hon
  have hlen : (turn false datalen s t).bytes.length = s.offset + (t.ret s.leftLen).toNat := by
    rw [hbytes, List.length_range]
  constructor
  · intro he
    refine fun _ => ⟨fun hr ho => absurd hon (by simp [Turn.GoesOn, hr, ho]), fun _ hstop => ?_⟩
    refine (toInt_iff _).mp fun hpos => ?_
    rw [he.returned _ (hlast hstop) hpos, hlen]
  · intro hc
    obtain ⟨-, hwrap⟩ := hc hended
    refine ⟨fun _ => ?_, by rw [hlen, hbytes], by omega, fun _ => ?_, fun ret hret hpos => ?_, absurd hended⟩
    · rw [h.rest, h.length, hbytes, h.bytes, range_append_range']
    · rw [hlen, or_iff_right hon.not_stops]
      by_cases hstop : s.offset + (t.ret s.leftLen).toNat = datalen ∨ t.timeout = true
      · exact iff_of_true (by rw [hlast hstop]; simp) hstop
      · exact iff_of_false (not_not.mpr (hmore hstop)) hstop
    · by_cases hstop : s.offset + (t.ret s.leftLen).toNat = datalen ∨ t.timeout = true
      · rw [hlast hstop] at hret
        have hvalue := Option.some.inj hret
        rw [hlen, ← hvalue]
        exact (toInt_iff _).mpr (hwrap hon hstop) (hvalue ▸ hpos)
      · rw [hmore hstop] at hret
        exact absurd hret (by simp)

/-- A call that moves nothing, and is no failure, was asked for nothing. -/
theorem Turn.ret_moved {t : Turn} {left more : ℕ} (h : t.result = .moved more) (hret : ¬ 0 < t.ret left) : left = 0 := by
  have hr : t.ret left = min ((more : Int) + 1) (min (left : Int) maxCount) := by rw [Turn.ret, h]
  have hmax : maxCount = 0x7ffff000 := rfl
  omega

theorem Tracked.expected_returns {datalen : ℕ} {s : Transfer} (h : Tracked datalen s) (t : Turn) (hended : s.ended = none)
    (hon : ¬ t.GoesOn s.leftLen) : Expected datalen s t (turn false datalen s t) ↔ Careful datalen s t := by
  obtain ⟨hret, herrno⟩ := not_or.mp hon
  have hother : t.errno = .other := not_not.mp herrno
  have hlen := h.length
  have hleft := h.left
  rw [turn_returns false datalen s t hended hon]
  constructor
  · intro he
    refine fun _ => ⟨fun hr _ => ?_, fun hon' => absurd hon' hon⟩
    have hcount : t.ret s.leftLen = (s.bytes.length : Int) := he.returned _ rfl (by omega)
    omega
  · intro hc
    obtain ⟨hquiet, -⟩ := hc hended
    refine ⟨fun _ => ?_, ?_, ?_, fun _ => iff_of_true (Option.some_ne_none _) ?_, fun ret hr hpos => ?_, absurd hended⟩
    · have hnone : (t.ret s.leftLen).toNat = 0 := Int.toNat_of_nonpos (Int.not_lt.mp hret)
      rw [h.rest, hnone, List.range'_zero, List.append_nil]
    · show s.bytes = List.range s.bytes.length
      rw [hlen]
      exact h.bytes
    · show s.bytes.length ≤ datalen
      omega
    · cases hres : t.result with
      | zero => exact Or.inr (Or.inl ⟨Or.inl hres, hother⟩)
      | failed => exact Or.inr (Or.inl ⟨Or.inr hres, hother⟩)
      | moved more =>
        have hnone := Turn.ret_moved hres hret
        exact Or.inl (show s.bytes.length = datalen by omega)
    · cases hr
      have h0 : t.ret s.leftLen = 0 := Int.le_antisymm (Int.not_lt.mp hret) hpos
      show t.ret s.leftLen = (s.bytes.length : Int)
      rw [h0, hlen, hquiet h0 hother]
      rfl

theorem Tracked.expected_ended {datalen : ℕ} {s : Transfer} (h : Tracked datalen s) (t : Turn) (hended : s.ended ≠ none) :
    Expected datalen s t (turn false datalen s t) ↔ Careful datalen s t := by
  have hlen := h.length
  have hleft := h.left
  rw [turn_ended false datalen s t hended]
  refine ⟨fun _ hn => absurd hn hended, fun _ => ⟨fun hn => absurd hn hended, ?_, by omega, fun hn => absurd hn hended,
    fun ret hr hpos => ?_, fun _ => rfl⟩⟩
  · rw [hlen]
    exact h.bytes
  · rw [hlen]
    exact h.returned ret hr hpos

theorem Tracked.expected_iff {datalen : ℕ} {s : Transfer} (h : Tracked datalen s) (t : Turn) :
    Expected datalen s t (turn false datalen s t) ↔ Careful datalen s t := by
  by_cases hended : s.ended = none
  · by_cases hon : t.GoesOn s.leftLen
    · exact h.expected_goesOn t hended hon
    · exact h.expected_returns t hended hon
  · exact h.expected_ended t hended

theorem Tracked.turn {datalen : ℕ} {s : Transfer} (h : Tracked datalen s) (t : Turn) (hc : Careful datalen s t) :
    Tracked datalen (turn false datalen s t) := by
  have he := (h.expected_iff t).mpr hc
  by_cases hended : s.ended = none
  · by_cases hon : t.GoesOn s.leftLen
    · obtain ⟨hbytes, hoffset, htotal, -⟩ := h.goesOn t hended hon
      refine ⟨by rw [hbytes, hoffset], htotal, fun ret hr hpos => ?_⟩
      rw [he.returned ret hr hpos, hbytes, List.length_range, hoffset]
    · rw [turn_returns false datalen s t hended hon] at he ⊢
      refine ⟨h.bytes, h.left, fun ret hr hpos => ?_⟩
      rw [he.returned ret hr hpos]
      exact congrArg Nat.cast h.length
  · rw [turn_ended false datalen s t hended]
    exact h

theorem transfers_iff (datalen : ℕ) (turns : List Turn) :
    Transfers datalen (fun pre => pre.foldl (turn false datalen) (Transfer.start datalen)) turns ↔
      Meets (turn false datalen) (Careful datalen) (Transfer.start datalen) turns := by
  rw [Transfers, ← @meets_iff_states _ _ (turn false datalen) (Expected datalen)]
  exact meets_iff (I := Tracked datalen) (fun s t h => h.expected_iff t) (fun s t h hc => h.turn t hc) turns _
    (Tracked.start datalen)

/-- **Transfers**: `sock_server_send`, `sock_client_send` and `sock_server_recv` move in every turn the next bytes of
the buffer, as many as the call takes, end with the buffer or for a reason and count what they moved, for every
sequence of outcomes, if and only if the end of the stream never comes after a part of the buffer (and no total wraps). -/
theorem sock_transfer_iff (datalen : ℕ) (turns : List Turn) :
    (Transfers datalen (sockServerSend true true datalen) turns ↔
      Meets (turn false datalen) (Careful datalen) (Transfer.start datalen) turns) ∧
    (Transfers datalen (sockClientSend true datalen) turns ↔
      Meets (turn false datalen) (Careful datalen) (Transfer.start datalen) turns) ∧
    (Transfers datalen (sockServerRecv true true datalen false) turns ↔
      Meets (turn false datalen) (Careful datalen) (Transfer.start datalen) turns) :=
  ⟨transfers_iff datalen turns, transfers_iff datalen turns, transfers_iff datalen turns⟩

/-- **The peer closes after a part of the buffer**: 4 of 10 bytes are received, then `recv` returns 0 with an
`errno` that is neither `EINTR` nor `EAGAIN`; the function returns 0. -/
theorem part_then_end_of_stream :
    let turns : List Turn := [⟨.moved 3, .other, false⟩, ⟨.zero, .other, false⟩]
    let s := sockServerRecv true true 10 false turns
    s.ended = some 0 ∧ s.bytes = [0, 1, 2, 3] ∧ ¬ Transfers 10 (sockServerRecv true true 10 false) turns := by
  intro turns s
  have hs : s.ended = some 0 ∧ s.bytes = [0, 1, 2, 3] := by decide
  refine ⟨hs.1, hs.2, fun h => ?_⟩
  have hcount : (0 : Int) = s.bytes.length :=
    (h [⟨.moved 3, .other, false⟩] ⟨.zero, .other, false⟩ List.prefix_rfl).returned 0 hs.1 (by decide)
  rw [hs.2] at hcount
  exact absurd hcount (by decide)

/-! ## The loop of `Irrv.Server`

The server module counts the bytes only, and its connections report the end of the stream elsewhere. -/

/-- The outcomes of that module as turns, where `left` bytes are asked for and `avail` are there. -/
def turnsOf : List Irrv.SysOutcome → ℕ → ℕ → List Turn
  | [], _, _ => []
  | .error :: _, _, _ => [⟨.failed, .other, false⟩]
  | .again timeout :: os, left, avail => ⟨.failed, .eagain, timeout⟩ :: turnsOf os left avail
  | .moved n timeout :: os, left, avail =>
    let k := min (n + 1) (min left avail)
    (if avail = 0 then ⟨.failed, .eagain, timeout⟩ else ⟨.moved (min n (avail - 1)), .other, timeout⟩) ::
      turnsOf os (left - k) (avail - k)

theorem foldl_ended (datalen : ℕ) (turns : List Turn) (s : Transfer) (h : s.ended ≠ none) :
    turns.foldl (turn false datalen) s = s := by
  induction turns with
  | nil => rfl
  | cons t turns ih => rw [List.foldl_cons, turn_ended false datalen s t h, ih]

/-- A turn that goes on and the rest of the loop. -/
theorem foldl_goesOn (datalen : ℕ) {s : Transfer} {t : Turn} {rest : ℕ} (turns : List Turn) (hended : s.ended = none)
    (hon : t.GoesOn s.leftLen)
    (ih : ∀ s', s'.ended = none → s'.leftLen = s.leftLen - (t.ret s.leftLen).toNat →
      (turns.foldl (turn false datalen) s').offset = s'.offset + rest) :
    ((t :: turns).foldl (turn false datalen) s).offset = s.offset + (t.ret s.leftLen).toNat +
      if t.timeout = true ∨ s.leftLen - (t.ret s.leftLen).toNat = 0 then 0 else rest := by
  obtain ⟨-, hoffset, hleft, hend⟩ := turn_goesOn datalen s t hended hon
  rw [List.foldl_cons]
  by_cases hstop : t.timeout = true ∨ s.leftLen - (t.ret s.leftLen).toNat = 0
  · rw [if_pos hstop.symm] at hend
    rw [if_pos hstop, foldl_ended _ _ _ (by rw [hend]; simp), hoffset, Nat.add_zero]
  · rw [if_neg fun h => hstop h.symm] at hend
    rw [if_neg hstop, ih _ hend hleft, hoffset]

theorem sockLoop_turns (datalen : ℕ) (os : List Irrv.SysOutcome) (left avail : ℕ) (s : Transfer) (hmax : left ≤ maxCount)
    (hended : s.ended = none) (hleft : s.leftLen = left) :
    ((turnsOf os left avail).foldl (turn false datalen) s).offset = s.offset + Irrv.sockLoop os left avail := by
  induction os generalizing left avail s with
  | nil => rfl
  | cons o os ih =>
    cases o with
    | error =>
      have hnot : ¬ (⟨.failed, .other, false⟩ : Turn).GoesOn s.leftLen := by simp [Turn.GoesOn, Turn.ret]
      rw [turnsOf, List.foldl_cons, turn_returns false datalen s _ hended hnot]
      rfl
    | again timeout =>
      have hon : (⟨.failed, .eagain, timeout⟩ : Turn).GoesOn s.leftLen := Or.inr (by simp)
      have h := foldl_goesOn datalen (turnsOf os left avail) hended hon fun s' h1 h2 =>
        ih left avail s' hmax h1 (h2.trans (by simp [Turn.ret, hleft]))
      rw [turnsOf, h]
      simp [Irrv.sockLoop, Turn.ret, hleft]
    | moved n timeout =>
      rw [turnsOf]
      by_cases havail : avail = 0
      · have hon : (⟨.failed, .eagain, timeout⟩ : Turn).GoesOn s.leftLen := Or.inr (by simp)
        have h := foldl_goesOn datalen (turnsOf os left 0) hended hon fun s' h1 h2 =>
          ih left 0 s' hmax h1 (h2.trans (by simp [Turn.ret, hleft]))
        simp only [havail, if_true, Nat.min_zero, Nat.sub_zero]
        rw [h]
        simp [Irrv.sockLoop, Turn.ret, hleft]
      · let t : Turn := ⟨.moved (min n (avail - 1)), .other, timeout⟩
        have hret : t.ret s.leftLen = ((min (n + 1) (min left avail) : ℕ) : Int) := by
          have hr : t.ret s.leftLen = min (((min n (avail - 1) : ℕ) : Int) + 1) (min (s.leftLen : Int) maxCount) := rfl
          rw [hr, hleft]
          omega
        rw [if_neg havail]
        by_cases hzero : left = 0
        · have hnot : ¬ t.GoesOn s.leftLen := by
            rintro (hpos | herr)
            · rw [hret] at hpos
              omega
            · exact herr rfl
          rw [List.foldl_cons, turn_returns false datalen s t hended hnot, foldl_ended _ _ _ (by simp)]
          simp [Irrv.sockLoop, hzero]
        · have hon : t.GoesOn s.leftLen := Or.inl (by rw [hret]; omega)
          have hk : (t.ret s.leftLen).toNat = min (n + 1) (min left avail) := by rw [hret]; rfl
          have h := foldl_goesOn datalen
            (turnsOf os (left - min (n + 1) (min left avail)) (avail - min (n + 1) (min left avail))) hended hon
            fun s' h1 h2 => ih _ _ s' (by omega) h1 (by rw [h2, hk, hleft])
          rw [h, hk, hleft]
          simp only [Irrv.sockLoop, t, Bool.or_eq_true, beq_iff_eq]
          split <;> omega

/-- What the server module takes `sock_server_recv` to read is what this loop reads. -/
theorem sockServerRecv_offset (os : List Irrv.SysOutcome) (len : ℕ) (sent : Irrv.Buf) (hmax : len ≤ maxCount) :
    (sockServerRecv true true len false (turnsOf os len sent.length)).offset = Irrv.sockServerRecv os len sent := by
  have h := sockLoop_turns len os len sent.length (Transfer.start len) hmax rfl rfl
  exact h.trans (Nat.zero_add _)

end CloudStreaming.Sock
