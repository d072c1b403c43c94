import CloudStreaming.Irrv.Receiver
import Mathlib.Algebra.GroupWithZero.Nat
import Mathlib.Algebra.Ring.Int.Defs

/-!
# The payload loop of a frame (`irrv-receiver/CSendRecvMessage.cpp:571-598`, `sock_client.cpp:168-174`)

`recv_es_stream` asks for the data of a frame with non-blocking `recv`s until all of it is there. Of a return
value it only asks whether it is positive: `EAGAIN`, the end of the stream and a broken connection all lead to
the next turn. `Irrv.Receiver` has the loop with the bytes it moves, for connections that stay open; here it is
with every outcome of `recv`, and without the bytes.

| here | there |
| --- | --- |
| `PayloadRecv`      | what `recv` with `MSG_DONTWAIT` does; `error` is any `errno` but `EAGAIN` |
| `VframeHeader`     | the fields of `irrv_vframe_t` and of the object the test of `:584` reads |
| `leftSize os h n`  | `left_size` at the `n`-th test of the loop |
| `LoopEnds`         | the loop ends after finitely many turns |
| `Returns`          | `recv_es_stream` returns: a frame that looks broken ends it at once (`:585`), and after the loop there is none |
-/

namespace CloudStreaming.Irrv

/-- `got more`: `more + 1` bytes are there. -/
inductive PayloadRecv where
  | got (more : ℕ)
  | closed
  | again
  | error
  deriving DecidableEq, Repr

structure VframeHeader where
  dataSize : UInt32
  videoSize : UInt32
  width : UInt32
  height : UInt32
  deriving DecidableEq, Repr

namespace VframeHeader

/-- Not a "broken frame" (`:584`); the product wraps. -/
def accepted (h : VframeHeader) : Bool :=
  !(decide (h.dataSize = 0) || decide (h.dataSize < h.videoSize) || decide (4 * h.width * h.height < h.dataSize))

end VframeHeader

namespace PayloadRecv

/-- The bytes that are there. -/
def bytes : PayloadRecv → ℕ
  | got more => more + 1
  | _ => 0

/-- The return value of `sock_client_recv(m_client, p, left_size)`. -/
def ret (o : PayloadRecv) (left : Int) : Int :=
  match o with
  | got more => min (more + 1) left
  | closed => 0
  | again | error => -1

end PayloadRecv

/-- One turn of the loop (`:593-597`). -/
def payloadTurn (left : Int) (o : PayloadRecv) : Int := if o.ret left > 0 then left - o.ret left else left

/-- `left_size`, an `int`, after `n` turns; once it is not positive there are no more. -/
def leftSize (os : ℕ → PayloadRecv) (h : VframeHeader) : ℕ → Int
  | 0 => h.dataSize.toInt32.toInt
  | n + 1 => if leftSize os h n ≤ 0 then leftSize os h n else payloadTurn (leftSize os h n) (os n)

def LoopEnds (os : ℕ → PayloadRecv) (h : VframeHeader) : Prop := ∃ n, leftSize os h n ≤ 0

def Returns (os : ℕ → PayloadRecv) (h : VframeHeader) : Prop := h.accepted = false ∨ LoopEnds os h

/-- From some turn on the peer has closed, or the connection is broken. -/
def PeerEnds (os : ℕ → PayloadRecv) : Prop := ∃ n, ∀ i, n ≤ i → os i = .closed ∨ os i = .error

/-- The bytes that came in the first `n` turns. -/
def arrived (os : ℕ → PayloadRecv) (n : ℕ) : ℕ := ((List.range n).map fun i => (os i).bytes).sum

/-- All the data of the frame comes. -/
def AllArrive (os : ℕ → PayloadRecv) (h : VframeHeader) : Prop := ∃ n, h.dataSize.toNat ≤ arrived os n

/-! ## What is left -/

theorem arrived_succ (os : ℕ → PayloadRecv) (n : ℕ) : arrived os (n + 1) = arrived os n + (os n).bytes := by
  simp [arrived, List.range_succ]

/-- A turn takes what is there, up to what is left. -/
theorem payloadTurn_eq (left : Int) (o : PayloadRecv) (hl : 0 < left) : payloadTurn left o = max 0 (left - o.bytes) := by
  cases o with
  | got more =>
    have hpos : min ((more : Int) + 1) left > 0 := by omega
    have hret : (PayloadRecv.got more).ret left = min ((more : Int) + 1) left := rfl
    rw [payloadTurn, hret, if_pos hpos, PayloadRecv.bytes]
    omega
  | closed => simp [payloadTurn, PayloadRecv.ret, PayloadRecv.bytes]; omega
  | again => simp [payloadTurn, PayloadRecv.ret, PayloadRecv.bytes]; omega
  | error => simp [payloadTurn, PayloadRecv.ret, PayloadRecv.bytes]; omega

/-- A size that is an `int`. -/
theorem leftSize_zero (os : ℕ → PayloadRecv) (h : VframeHeader) :
    leftSize os h 0 = if h.dataSize.toNat < 2 ^ 31 then (h.dataSize.toNat : Int) else h.dataSize.toNat - 2 ^ 32 := by
  have hlt := h.dataSize.toNat_lt
  show h.dataSize.toBitVec.toInt = _
  rw [BitVec.toInt_eq_toNat_cond]
  simp only [UInt32.toNat_toBitVec]
  split <;> split <;> omega

/-- The measure: it goes down by what arrives and by nothing else. -/
theorem leftSize_eq (os : ℕ → PayloadRecv) (h : VframeHeader) (hsize : h.dataSize.toNat < 2 ^ 31) (n : ℕ) :
    leftSize os h n = max 0 ((h.dataSize.toNat : Int) - arrived os n) := by
  induction n with
  | zero =>
    rw [leftSize_zero, if_pos hsize]
    simp [arrived]
  | succ n ih =>
    rw [leftSize, arrived_succ]
    split
    · rename_i hdone
      rw [ih] at hdone ⊢
      omega
    · rename_i hleft
      rw [payloadTurn_eq _ _ (by omega), ih]
      omega

/-- The loop ends exactly when all the data comes, or when `left_size` is negative from the start. -/
theorem loopEnds_iff (os : ℕ → PayloadRecv) (h : VframeHeader) :
    LoopEnds os h ↔ AllArrive os h ∨ 2 ^ 31 ≤ h.dataSize.toNat := by
  by_cases hsize : h.dataSize.toNat < 2 ^ 31
  · constructor
    · rintro ⟨n, hn⟩
      rw [leftSize_eq os h hsize n] at hn
      exact Or.inl ⟨n, by omega⟩
    · rintro (⟨n, hn⟩ | hbig)
      · refine ⟨n, ?_⟩
        rw [leftSize_eq os h hsize n]
        omega
      · omega
  · refine ⟨fun _ => Or.inr (by omega), fun _ => ⟨0, ?_⟩⟩
    have hlt := h.dataSize.toNat_lt
    rw [leftSize_zero, if_neg hsize]
    omega

/-- **The payload loop ends with its connection** exactly when the connection does not end before the data: for an
accepted frame and any outcomes of `recv`, that the loop ends and `recv_es_stream` returns where the peer ends or
all the data comes is the same as that a peer which ends has sent all the data (or that the size is no positive
`int`). -/
theorem payload_loop_ends_iff (h : VframeHeader) (haccepted : h.accepted = true) (os : ℕ → PayloadRecv) :
    ((PeerEnds os ∨ AllArrive os h) → LoopEnds os h ∧ Returns os h) ↔
      (PeerEnds os → AllArrive os h ∨ 2 ^ 31 ≤ h.dataSize.toNat) := by
  have hboth : LoopEnds os h ∧ Returns os h ↔ LoopEnds os h := by simp [Returns, haccepted]
  rw [hboth, loopEnds_iff]
  constructor
  · intro hreturns hends
    exact hreturns (Or.inl hends)
  · rintro hdata (hends | hall)
    · exact hdata hends
    · exact Or.inl hall

/-- A frame of 1000 bytes for a screen of 720 × 1280. -/
def smallFrame : VframeHeader := ⟨1000, 1000, 720, 1280⟩

/-- The frame comes in two pieces with an `EAGAIN` between them, and the peer closes. -/
def wholeThenClosed : ℕ → PayloadRecv
  | 0 => .got 599
  | 1 => .again
  | 2 => .got 399
  | _ => .closed

theorem payload_whole_then_closed :
    smallFrame.accepted = true ∧ ((PeerEnds wholeThenClosed ∨ AllArrive wholeThenClosed smallFrame) →
      LoopEnds wholeThenClosed smallFrame ∧ Returns wholeThenClosed smallFrame) := by
  refine ⟨by decide, (payload_loop_ends_iff smallFrame (by decide) wholeThenClosed).mpr fun _ => Or.inl ⟨3, ?_⟩⟩
  decide

/-- The peer closes in the middle of the frame. -/
def halfThenClosed : ℕ → PayloadRecv
  | 0 => .got 599
  | _ => .closed

/-- **A peer that closes in the middle of a frame**: `recv` returns 0 for ever, and the loop does not end. -/
theorem payload_half_then_closed :
    smallFrame.accepted = true ∧ PeerEnds halfThenClosed ∧ ¬ Returns halfThenClosed smallFrame := by
  refine ⟨by decide, ⟨1, fun i hi => ?_⟩, ?_⟩
  · cases i with
    | zero => omega
    | succ i => exact Or.inl rfl
  · rintro (hbroken | ⟨n, hn⟩)
    · exact absurd hbroken (by decide)
    have harrived : ∀ n, arrived halfThenClosed n ≤ 600 := by
      intro n
      induction n with
      | zero => simp [arrived]
      | succ n ih =>
        rw [arrived_succ]
        cases n with
        | zero => decide
        | succ n => simpa [halfThenClosed, PayloadRecv.bytes] using ih
    rw [leftSize_eq _ _ (by decide)] at hn
    have hsize : smallFrame.dataSize.toNat = 1000 := by decide
    have := harrived n
    omega

end CloudStreaming.Irrv
