import Mathlib.Order.Bounds.Basic

/-!
# Escalation of hardware errors (`encoder/shared/CTransCoder.cpp:697-720`)

`hwErrorCount` is called at every hardware error of the decoder, the filters or the encoder. It keeps three fields, the
number of errors of the burst it is in, the time of the last one and the time the burst has lasted, and ends the process
when the burst gets too long in either sense.

| here | there |
| --- | --- |
| `CTransCoder`  | `m_hwErrorCnt`, `m_hwErrorOccurTimeInMs`, `m_hwErrorDurationInMs` |
| `hwErrorCount` | the call at the clock reading `currTimeInMs`: the fields it leaves and whether it sends `SIGINT` |
-/

namespace CloudStreaming.Encoder.HwErrors

/-- `CTransCoder.h:40`. -/
def HW_ERROR_INTERVAL : UInt64 := 5000

def HW_ERROR_DURATION_MAX : UInt64 := 300

def HW_ERROR_COUNT_MAX : Int := 10

/-- The fields of the count. `m_hwErrorCnt` is an `int`; it is above 11 only in a process that got `SIGINT` before
(`cnt_le_of_quiet`), so that its overflow is left out. -/
structure CTransCoder where
  hwErrorCnt : Int := 0
  hwErrorOccurTimeInMs : UInt64 := 0
  hwErrorDurationInMs : UInt64 := 0
  deriving DecidableEq, Repr

/-- `hwErrorCount` (`CTransCoder.cpp:697`). -/
def hwErrorCount (s : CTransCoder) (currTimeInMs : UInt64) : CTransCoder × Bool :=
  let deltaTimeInMs := currTimeInMs - s.hwErrorOccurTimeInMs
  let s' : CTransCoder :=
    if deltaTimeInMs ≥ HW_ERROR_INTERVAL then
      ⟨0, currTimeInMs, 0⟩
    else
      ⟨s.hwErrorCnt + 1, currTimeInMs, s.hwErrorDurationInMs + deltaTimeInMs⟩
  (s', decide (s'.hwErrorDurationInMs > HW_ERROR_DURATION_MAX) || decide (s'.hwErrorCnt > HW_ERROR_COUNT_MAX))

/-- The fields after the calls at `t 1`, …, `t n`. -/
def after (t : Nat → UInt64) : Nat → CTransCoder
  | 0 => {}
  | n + 1 => (hwErrorCount (after t n) (t (n + 1))).1

/-- The `n + 1`-st call sends `SIGINT`. -/
def sigint (t : Nat → UInt64) (n : Nat) : Bool := (hwErrorCount (after t n) (t (n + 1))).2

/-- A call that does not send `SIGINT` leaves a small count, and the next one adds at most one to it. -/
theorem cnt_le_of_quiet {s : CTransCoder} {t : UInt64} (h : (hwErrorCount s t).2 = false) :
    (hwErrorCount s t).1.hwErrorCnt ≤ HW_ERROR_COUNT_MAX := by
  simp only [hwErrorCount, Bool.or_eq_false_iff, decide_eq_false_iff_not] at h ⊢
  omega

/-! ## Bursts -/

/-- Where a burst that reaches to the `n`-th error can have begun: no gap from there on. -/
def starts (t : Nat → UInt64) (n : Nat) : Set Nat :=
  {k | 1 ≤ k ∧ k ≤ n ∧ ∀ j, k ≤ j → j < n → (t (j + 1)).toNat - (t j).toNat < HW_ERROR_INTERVAL.toNat}

variable {t : Nat → UInt64} {k n : Nat}

/-- The last error alone. -/
theorem self_mem_starts (h : 1 ≤ n) : n ∈ starts t n := by
  refine ⟨h, le_rfl, ?_⟩
  intro j hj hjn
  omega

/-- A short gap continues the burst. -/
theorem starts_succ_of_lt (hgap : (t (n + 1)).toNat - (t n).toNat < HW_ERROR_INTERVAL.toNat)
    (hk : IsLeast (starts t n) k) : IsLeast (starts t (n + 1)) k := by
  obtain ⟨⟨hk1, hkn, hall⟩, hleast⟩ := hk
  refine ⟨⟨hk1, by omega, ?_⟩, ?_⟩
  · intro j hj hjn
    rcases Nat.lt_succ_iff_lt_or_eq.mp hjn with hlt | rfl
    · exact hall j hj hlt
    · exact hgap
  · rintro m ⟨hm1, -, hm⟩
    by_cases hmn : m ≤ n
    · exact hleast ⟨hm1, hmn, fun j hj hjn => hm j hj (by omega)⟩
    · omega

/-- A long one starts a new burst. -/
theorem starts_succ_of_ge (hn : 1 ≤ n) (hgap : HW_ERROR_INTERVAL.toNat ≤ (t (n + 1)).toNat - (t n).toNat) :
    IsLeast (starts t (n + 1)) (n + 1) := by
  refine ⟨self_mem_starts (by omega), ?_⟩
  rintro m ⟨-, hmn, hm⟩
  by_contra hlt
  have := hm n (by omega) (by omega)
  omega

/-! ## The fields describe the burst -/

/-- The fields after the `n`-th call, in terms of the first error `k` of the burst. -/
structure InBurst (t : Nat → UInt64) (n k : Nat) (s : CTransCoder) : Prop where
  start : IsLeast (starts t n) k
  cnt : s.hwErrorCnt = (n : Int) - k
  occurTime : s.hwErrorOccurTimeInMs = t n
  duration : s.hwErrorDurationInMs.toNat = (t n).toNat - (t k).toNat
  first : (t k).toNat ≤ (t n).toNat

/-- A difference of two readings in order is exact. -/
theorem toNat_delta {a b : UInt64} (h : a ≤ b) : (b - a).toNat = b.toNat - a.toNat :=
  UInt64.toNat_sub_of_le b a h

/-- The first call: there was no error before, and the clock is past the interval. -/
theorem inBurst_one (h1 : HW_ERROR_INTERVAL ≤ t 1) : InBurst t 1 1 (after t 1) := by
  have hdelta : t 1 - (0 : UInt64) ≥ HW_ERROR_INTERVAL := by simpa using h1
  have hs : after t 1 = ⟨0, t 1, 0⟩ := by
    show (if t 1 - (0 : UInt64) ≥ HW_ERROR_INTERVAL then (⟨0, t 1, 0⟩ : CTransCoder) else _) = _
    exact if_pos hdelta
  rw [hs]
  refine ⟨⟨self_mem_starts le_rfl, ?_⟩, rfl, rfl, by simp, le_rfl⟩
  rintro m ⟨hm, -⟩
  exact hm

/-- One more call, at a reading that is not before the last one. -/
theorem inBurst_step {s : CTransCoder} (hn : 1 ≤ n) (hle : t n ≤ t (n + 1)) (h : InBurst t n k s) :
    ∃ k', InBurst t (n + 1) k' (hwErrorCount s (t (n + 1))).1 := by
  have hdelta : (t (n + 1) - s.hwErrorOccurTimeInMs).toNat = (t (n + 1)).toNat - (t n).toNat := by
    rw [h.occurTime, toNat_delta hle]
  have hleNat : (t n).toNat ≤ (t (n + 1)).toNat := UInt64.le_iff_toNat_le.mp hle
  have hfirst : (t k).toNat ≤ (t (n + 1)).toNat := h.first.trans hleNat
  simp only [hwErrorCount]
  split
  next hge =>
    refine ⟨n + 1, starts_succ_of_ge hn ?_, by simp, rfl, by simp, le_rfl⟩
    rw [← hdelta]
    exact UInt64.le_iff_toNat_le.mp hge
  next hlt =>
    have hgap : (t (n + 1)).toNat - (t n).toNat < HW_ERROR_INTERVAL.toNat := by
      rw [← hdelta]
      exact UInt64.lt_iff_toNat_lt.mp (UInt64.not_le.mp hlt)
    refine ⟨k, starts_succ_of_lt hgap h.start, ?_, rfl, ?_, hfirst⟩
    · rw [h.cnt]
      push_cast
      omega
    · -- the sum of the gaps is the whole duration, which the clock bounds
      have hbound : (t (n + 1)).toNat < 2 ^ 64 := (t (n + 1)).toNat_lt
      have hn' := h.first
      rw [UInt64.toNat_add, hdelta, h.duration, Nat.mod_eq_of_lt]
      · omega
      · omega

theorem after_inBurst (hmono : ∀ j, 1 ≤ j → j < n → t j ≤ t (j + 1)) (h1 : HW_ERROR_INTERVAL ≤ t 1) (hn : 1 ≤ n) :
    ∃ k, InBurst t n k (after t n) := by
  induction n with
  | zero => omega
  | succ n ih =>
    rcases Nat.eq_zero_or_pos n with rfl | hpos
    · exact ⟨1, inBurst_one h1⟩
    · obtain ⟨k, hk⟩ := ih (fun j hj hjn => hmono j hj (by omega)) hpos
      exact inBurst_step hpos (hmono n hpos (by omega)) hk

/-- **Escalation.** Called at readings `t 1 ≤ … ≤ t (n + 1)`, the last call sends `SIGINT` exactly when the burst it
belongs to, which began at the least `k` without a gap from there on, has lasted too long or has too many errors. -/
theorem sigint_iff_burst (t : Nat → UInt64) (n : Nat) (hmono : ∀ j, 1 ≤ j → j < n + 1 → t j ≤ t (j + 1))
    (h1 : HW_ERROR_INTERVAL ≤ t 1) :
    ∃ k, IsLeast (starts t (n + 1)) k ∧
      (sigint t n = true ↔
        (t (n + 1)).toNat - (t k).toNat > HW_ERROR_DURATION_MAX.toNat ∨ (n + 1 : Int) - k > HW_ERROR_COUNT_MAX) := by
  obtain ⟨k, hk⟩ := after_inBurst hmono h1 (Nat.succ_pos n)
  refine ⟨k, hk.start, ?_⟩
  have hsig : sigint t n = (decide ((after t (n + 1)).hwErrorDurationInMs > HW_ERROR_DURATION_MAX) ||
      decide ((after t (n + 1)).hwErrorCnt > HW_ERROR_COUNT_MAX)) := rfl
  have hdur : (after t (n + 1)).hwErrorDurationInMs > HW_ERROR_DURATION_MAX ↔
      (t (n + 1)).toNat - (t k).toNat > HW_ERROR_DURATION_MAX.toNat := by
    rw [gt_iff_lt, UInt64.lt_iff_toNat_lt, hk.duration]
  have hcnt : (after t (n + 1)).hwErrorCnt > HW_ERROR_COUNT_MAX ↔ (n + 1 : Int) - k > HW_ERROR_COUNT_MAX := by
    rw [hk.cnt]
    push_cast
    rfl
  rw [hsig, Bool.or_eq_true, decide_eq_true_eq, decide_eq_true_eq, hdur, hcnt]

/-- Errors at 6000, 6200, 20000, 20100 and 20400 ms: the fifth call sends `SIGINT`, the second and the fourth do
not. -/
def readings (n : Nat) : UInt64 := [0, 6000, 6200, 20000, 20100, 20400].getD n 20400

theorem sigint_iff_burst_readings :
    (∃ k, IsLeast (starts readings 5) k ∧
      (sigint readings 4 = true ↔
        (readings 5).toNat - (readings k).toNat > HW_ERROR_DURATION_MAX.toNat ∨
          (4 + 1 : Int) - k > HW_ERROR_COUNT_MAX)) ∧
      sigint readings 4 = true ∧ sigint readings 1 = false ∧ sigint readings 3 = false := by
  refine ⟨sigint_iff_burst readings 4 ?_ (by decide), by decide, by decide, by decide⟩
  intro j hj hj'
  have hcases : j = 1 ∨ j = 2 ∨ j = 3 ∨ j = 4 := by omega
  rcases hcases with rfl | rfl | rfl | rfl <;> decide

end CloudStreaming.Encoder.HwErrors
