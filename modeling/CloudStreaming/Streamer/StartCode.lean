import Mathlib.Tactic.SplitIfs

/-!
# Finding a start code (`streamer/core/ga-common.cpp:771-798`)

`ga_find_startcode` looks for `00 00 01` or `00 00 00 01` in `[buf, end)`. Positions are counted from `buf`; `mem` is
the memory from there on, so that what lies at `end` and behind it has a value too, and the search is run with the list
of the positions it reads. The comparison `ptr < end-4` is of integers: for a buffer of less than four bytes `end-4` is
before `buf`.

One bound serves both lengths, and it is too small for each of them: a start code that begins in the last four bytes is
not found (`gaFindStartcode_eq_none_iff`), although three bytes are enough for the short one and four for the long one.
-/

namespace CloudStreaming.Streamer.StartCode

/-- Memory from `buf` on. -/
abbrev Mem := Nat → UInt8

/-- The position and `startcode_len`; `none` is `NULL`. -/
abbrev Found := Option (Nat × Nat)

/-- The body of the loop (`:787-795`): the length of the start code at `ptr` and the positions read for it. -/
def body (mem : Mem) (ptr : Nat) : Option Nat × List Nat :=
  if mem ptr = 0 then
    if mem (ptr + 1) = 0 then
      if mem (ptr + 2) = 1 then (some 3, [ptr, ptr + 1, ptr + 2])
      else if mem (ptr + 2) = 0 then
        if mem (ptr + 3) = 1 then (some 4, [ptr, ptr + 1, ptr + 2, ptr + 2, ptr + 3])
        else (none, [ptr, ptr + 1, ptr + 2, ptr + 2, ptr + 3])
      else (none, [ptr, ptr + 1, ptr + 2, ptr + 2])
    else (none, [ptr, ptr + 1])
  else (none, [ptr])

/-- `for(ptr = buf; ptr < end-4; ptr++)` from `ptr` on, with `k` bytes left. -/
def scanFrom (mem : Mem) (size : Nat) : Nat → Nat → Found × List Nat
  | 0, _ => (none, [])
  | k + 1, ptr =>
    if (ptr : Int) < size - 4 then
      match body mem ptr with
      | (some len, reads) => (some (ptr, len), reads)
      | (none, reads) =>
        let rest := scanFrom mem size k (ptr + 1)
        (rest.1, reads ++ rest.2)
    else (none, [])

/-- `ga_find_startcode(buf, buf + size, &startcode_len)`, with the positions it reads. -/
def gaFindStartcode (mem : Mem) (size : Nat) : Found × List Nat := scanFrom mem size size 0

/-! ## What it should find -/

/-- The length of the start code that begins at `p` and lies completely inside the buffer. -/
def startcodeAt (mem : Mem) (size p : Nat) : Option Nat :=
  if mem p = 0 ∧ mem (p + 1) = 0 ∧ mem (p + 2) = 1 ∧ p + 3 ≤ size then some 3
  else if mem p = 0 ∧ mem (p + 1) = 0 ∧ mem (p + 2) = 0 ∧ mem (p + 3) = 1 ∧ p + 4 ≤ size then some 4
  else none

/-- No start code begins before `p`. -/
def NoneBefore (mem : Mem) (size p : Nat) : Prop := ∀ q < p, startcodeAt mem size q = none

/-- The result is the leftmost start code, or `NULL` and there is none. -/
def IsLeftmost (mem : Mem) (size : Nat) : Found → Prop
  | some (p, len) => startcodeAt mem size p = some len ∧ NoneBefore mem size p
  | none => ∀ p, startcodeAt mem size p = none

theorem startcodeAt_len {mem : Mem} {size p len : Nat} (h : startcodeAt mem size p = some len) :
    len = 3 ∨ len = 4 := by
  unfold startcodeAt at h
  split_ifs at h
  · cases h
    exact Or.inl rfl
  · cases h
    exact Or.inr rfl

/-! ## One round -/

/-- Inside the bound both lengths fit, and the body decides which of them is there. -/
theorem body_eq_startcodeAt (mem : Mem) {size ptr : Nat} (hptr : ptr + 4 < size) :
    (body mem ptr).1 = startcodeAt mem size ptr := by
  have h3 : ptr + 3 ≤ size := by omega
  have h4 : ptr + 4 ≤ size := by omega
  have h01 : (0 : UInt8) ≠ 1 := by decide
  unfold body startcodeAt
  by_cases b0 : mem ptr = 0
  · by_cases b1 : mem (ptr + 1) = 0
    · by_cases b2 : mem (ptr + 2) = 1
      · simp [b0, b1, b2, h3]
      · by_cases b2' : mem (ptr + 2) = 0
        · by_cases b3 : mem (ptr + 3) = 1
          · simp [b0, b1, b2', b3, h4, h01]
          · simp [b0, b1, b2', b3, h01]
        · simp [b0, b1, b2, b2']
    · simp [b0, b1]
  · simp [b0]

theorem body_reads (mem : Mem) (ptr i : Nat) (hi : i ∈ (body mem ptr).2) : i ≤ ptr + 3 := by
  unfold body at hi
  split_ifs at hi <;> simp at hi <;> omega

/-! ## The whole search -/

/-- A round inside the bound finds the start code at `ptr`, or there is none and the next round follows. All four bytes
it may read are inside the buffer. -/
theorem scanFrom_round (mem : Mem) {size ptr : Nat} (k : Nat) (hptr : ptr + 4 < size) :
    ∃ reads, (∀ i ∈ reads, i < size) ∧
      ((∃ len, startcodeAt mem size ptr = some len ∧ scanFrom mem size (k + 1) ptr = (some (ptr, len), reads)) ∨
        (startcodeAt mem size ptr = none ∧ scanFrom mem size (k + 1) ptr =
          ((scanFrom mem size k (ptr + 1)).1, reads ++ (scanFrom mem size k (ptr + 1)).2))) := by
  have hguard : (ptr : Int) < size - 4 := by omega
  have hcode := body_eq_startcodeAt mem hptr
  refine ⟨(body mem ptr).2, ?_, ?_⟩
  · intro i hi
    have := body_reads mem ptr i hi
    omega
  · rcases hb : body mem ptr with ⟨found, reads⟩
    rw [hb] at hcode
    cases found with
    | some len =>
      refine Or.inl ⟨len, hcode.symm, ?_⟩
      simp only [scanFrom, if_pos hguard, hb]
    | none =>
      refine Or.inr ⟨hcode.symm, ?_⟩
      simp only [scanFrom, if_pos hguard, hb]

theorem scanFrom_stop {mem : Mem} {size k ptr : Nat} (hptr : ¬ ptr + 4 < size) :
    scanFrom mem size k ptr = (none, []) := by
  cases k with
  | zero => rfl
  | succ k =>
    have hguard : ¬ (ptr : Int) < size - 4 := by omega
    simp only [scanFrom, if_neg hguard]

/-- What is found is the first start code from `ptr` on, and it begins inside the bound. -/
theorem scanFrom_some {mem : Mem} {size k ptr p len : Nat} (hk : k + ptr = size)
    (h : (scanFrom mem size k ptr).1 = some (p, len)) :
    ptr ≤ p ∧ p + 4 < size ∧ startcodeAt mem size p = some len ∧
      ∀ q, ptr ≤ q → q < p → startcodeAt mem size q = none := by
  induction k generalizing ptr with
  | zero => cases h
  | succ k ih =>
    by_cases hptr : ptr + 4 < size
    · obtain ⟨reads, -, ⟨l, hcode, hscan⟩ | ⟨hcode, hscan⟩⟩ := scanFrom_round mem k hptr
      · rw [hscan] at h
        cases h
        refine ⟨Nat.le_refl _, hptr, hcode, ?_⟩
        intro q hq hqp
        omega
      · rw [hscan] at h
        obtain ⟨hle, hlt, hat, hnone⟩ := ih (by omega) h
        refine ⟨by omega, hlt, hat, ?_⟩
        intro q hq hqp
        by_cases hqptr : q = ptr
        · rw [hqptr]
          exact hcode
        · exact hnone q (by omega) hqp
    · rw [scanFrom_stop hptr] at h
      cases h

/-- When nothing is found, no start code begins inside the bound. -/
theorem scanFrom_none {mem : Mem} {size k ptr : Nat} (hk : k + ptr = size)
    (h : (scanFrom mem size k ptr).1 = none) {q : Nat} (hq : ptr ≤ q) (hqs : q + 4 < size) :
    startcodeAt mem size q = none := by
  induction k generalizing ptr with
  | zero => omega
  | succ k ih =>
    obtain ⟨reads, -, ⟨l, hcode, hscan⟩ | ⟨hcode, hscan⟩⟩ := scanFrom_round mem k (show ptr + 4 < size by omega)
    · rw [hscan] at h
      cases h
    · rw [hscan] at h
      by_cases hqptr : q = ptr
      · rw [hqptr]
        exact hcode
      · exact ih (by omega) h (by omega)

theorem scanFrom_reads {mem : Mem} {size k ptr i : Nat} (hi : i ∈ (scanFrom mem size k ptr).2) : i < size := by
  induction k generalizing ptr with
  | zero => cases hi
  | succ k ih =>
    by_cases hptr : ptr + 4 < size
    · obtain ⟨reads, hreads, ⟨l, hcode, hscan⟩ | ⟨hcode, hscan⟩⟩ := scanFrom_round mem k hptr
      · rw [hscan] at hi
        exact hreads i hi
      · rw [hscan] at hi
        rcases List.mem_append.mp hi with hi | hi
        · exact hreads i hi
        · exact ih hi
    · rw [scanFrom_stop hptr] at hi
      cases hi

theorem gaFindStartcode_some {mem : Mem} {size : Nat} {r : Nat × Nat}
    (h : (gaFindStartcode mem size).1 = some r) :
    r.1 + 4 < size ∧ startcodeAt mem size r.1 = some r.2 ∧ NoneBefore mem size r.1 := by
  obtain ⟨-, hlt, hat, hnone⟩ := scanFrom_some (by omega) h
  exact ⟨hlt, hat, fun q hq => hnone q (Nat.zero_le q) hq⟩

/-- "If a non-NULL pointer is returned, you can read the frame data start from the returned pointer plus
`startcode_len`" (`:779-780`): there is at least one byte of it. -/
theorem gaFindStartcode_frame {mem : Mem} {size : Nat} {r : Nat × Nat}
    (h : (gaFindStartcode mem size).1 = some r) : r.1 + r.2 < size := by
  obtain ⟨hlt, hat, -⟩ := gaFindStartcode_some h
  rcases startcodeAt_len hat with hlen | hlen <;> omega

/-- `NULL` means that no start code begins before the last four bytes, and no more than that. -/
theorem gaFindStartcode_eq_none_iff {mem : Mem} {size : Nat} :
    (gaFindStartcode mem size).1 = none ↔ ∀ p, p + 4 < size → startcodeAt mem size p = none := by
  constructor
  · intro h p hp
    exact scanFrom_none (by omega) h (Nat.zero_le p) hp
  · intro h
    cases hr : (gaFindStartcode mem size).1 with
    | none => rfl
    | some r =>
      obtain ⟨hlt, hat, -⟩ := gaFindStartcode_some hr
      rw [h r.1 hlt] at hat
      cases hat

/-- The leftmost start code of the buffer, if there is one, begins before its last four bytes. -/
def LeftmostInBound (mem : Mem) (size : Nat) : Prop :=
  ∀ p, startcodeAt mem size p ≠ none → NoneBefore mem size p → p + 4 < size

/-- There is a leftmost one among the start codes. -/
theorem exists_leftmost {mem : Mem} {size p : Nat} (hp : startcodeAt mem size p ≠ none) :
    ∃ q, startcodeAt mem size q ≠ none ∧ NoneBefore mem size q := by
  induction p using Nat.strongRecOn with
  | ind p ih =>
    by_cases hbefore : NoneBefore mem size p
    · exact ⟨p, hp, hbefore⟩
    · simp only [NoneBefore, Classical.not_forall] at hbefore
      obtain ⟨q, hqp, hq⟩ := hbefore
      exact ih q hqp hq

/-- The search finds the leftmost start code, or that there is none, exactly when the leftmost one does not begin in the
last four bytes. It stays inside the buffer on every input. -/
theorem gaFindStartcode_leftmost_iff (mem : Mem) (size : Nat) :
    (IsLeftmost mem size (gaFindStartcode mem size).1 ∧ ∀ i ∈ (gaFindStartcode mem size).2, i < size) ↔
      LeftmostInBound mem size := by
  constructor
  · rintro ⟨hleft, -⟩ p hp hbefore
    cases hr : (gaFindStartcode mem size).1 with
    | none =>
      rw [hr] at hleft
      exact absurd (hleft p) hp
    | some r =>
      obtain ⟨hlt, hat, hnone⟩ := gaFindStartcode_some hr
      -- both are leftmost, so they are the same
      have hpr : ¬ r.1 < p := by
        intro hrp
        rw [hbefore r.1 hrp] at hat
        cases hat
      have hrp : ¬ p < r.1 := fun hpr => hp (hnone p hpr)
      omega
  · intro hbound
    refine ⟨?_, fun i hi => scanFrom_reads hi⟩
    cases hr : (gaFindStartcode mem size).1 with
    | some r =>
      obtain ⟨-, hat, hnone⟩ := gaFindStartcode_some hr
      exact ⟨hat, hnone⟩
    | none =>
      intro p
      by_cases hp : startcodeAt mem size p = none
      · exact hp
      · obtain ⟨q, hq, hbefore⟩ := exists_leftmost hp
        exact absurd (gaFindStartcode_eq_none_iff.mp hr q (hbound q hq hbefore)) hq

/-- `00 00 01 65`: a start code and the first byte of its frame. -/
def shortFrame : Mem := fun i => [0, 0, 1, 0x65].getD i 0

theorem shortFrame_missed :
    (gaFindStartcode shortFrame 4).1 = none ∧ startcodeAt shortFrame 4 0 = some 3 ∧
      ¬ IsLeftmost shortFrame 4 (gaFindStartcode shortFrame 4).1 := by
  have hnull : (gaFindStartcode shortFrame 4).1 = none := by decide
  have hat : startcodeAt shortFrame 4 0 = some 3 := by decide
  refine ⟨hnull, hat, ?_⟩
  rw [hnull]
  intro h
  rw [h 0] at hat
  cases hat

end CloudStreaming.Streamer.StartCode
