import Mathlib.Algebra.Group.Nat.Defs
import Mathlib.Data.List.GetD

/-!
# Byte buffers of 32-bit little-endian words

A C structure of `uint32_t` fields is `words` of its fields; `wordAt b i` reads field `i` back, and reads
zeros past the end of a short buffer. `overlay got buf` is a buffer after `got.length` bytes were
received into its front.
-/

namespace Bytes

/-- The four bytes of a word, least significant first. -/
def u32le (v : UInt32) : List UInt8 :=
  [UInt8.ofNat v.toNat, UInt8.ofNat (v.toNat / 2 ^ 8), UInt8.ofNat (v.toNat / 2 ^ 16), UInt8.ofNat (v.toNat / 2 ^ 24)]

def words (ws : List UInt32) : List UInt8 := ws.flatMap u32le

def wordAt (b : List UInt8) (i : Nat) : UInt32 :=
  UInt32.ofNat ((b.getD (4 * i) 0).toNat + 2 ^ 8 * (b.getD (4 * i + 1) 0).toNat +
    2 ^ 16 * (b.getD (4 * i + 2) 0).toNat + 2 ^ 24 * (b.getD (4 * i + 3) 0).toNat)

/-- `n` zero bytes. -/
def zeros (n : Nat) : List UInt8 := List.replicate n 0

def overlay (got buf : List UInt8) : List UInt8 := got ++ buf.drop got.length

@[simp] theorem u32le_length (v : UInt32) : (u32le v).length = 4 := rfl

@[simp] theorem words_cons (w : UInt32) (ws : List UInt32) : words (w :: ws) = u32le w ++ words ws := rfl

@[simp] theorem words_length (ws : List UInt32) : (words ws).length = 4 * ws.length := by
  induction ws with
  | nil => rfl
  | cons w ws ih => rw [words_cons, List.length_append, ih, u32le_length, List.length_cons]; omega

@[simp] theorem zeros_length (n : Nat) : (zeros n).length = n := List.length_replicate

theorem wordAt_zero (w : UInt32) (b : List UInt8) : wordAt (u32le w ++ b) 0 = w := by
  have hw := w.toNat_lt
  refine UInt32.toNat_inj.1 ?_
  simp only [wordAt, u32le, Nat.mul_zero, Nat.zero_add, List.cons_append, List.getD_cons_zero,
    List.getD_cons_succ, UInt8.toNat_ofNat', UInt32.toNat_ofNat']
  omega

theorem wordAt_succ (w : UInt32) (b : List UInt8) (i : Nat) : wordAt (u32le w ++ b) (i + 1) = wordAt b i := by
  have h : ∀ k, (u32le w ++ b).getD (4 * (i + 1) + k) 0 = b.getD (4 * i + k) 0 := by
    intro k
    rw [List.getD_append_right _ _ _ _ (by rw [u32le_length]; omega), u32le_length]
    congr 1; omega
  have h0 := h 0
  simp only [Nat.add_zero] at h0
  simp only [wordAt, h0, h 1, h 2, h 3]

/-- **Round trip**: field `i` of a structure in front of anything. -/
theorem wordAt_words (b : List UInt8) :
    ∀ (ws : List UInt32) (i : Nat), i < ws.length → wordAt (words ws ++ b) i = ws.getD i 0
  | w :: ws, 0, _ => by rw [words_cons, List.append_assoc, wordAt_zero, List.getD_cons_zero]
  | w :: ws, i + 1, h => by
    rw [words_cons, List.append_assoc, wordAt_succ, wordAt_words b ws i (by simpa using h), List.getD_cons_succ]

/-- A field that lies in the first part of a buffer. -/
theorem wordAt_append {a : List UInt8} (b : List UInt8) {i : Nat} (h : 4 * i + 3 < a.length) :
    wordAt (a ++ b) i = wordAt a i := by
  have hk : ∀ k, k < a.length → (a ++ b).getD k 0 = a.getD k 0 := fun k hk => List.getD_append _ _ _ _ hk
  simp only [wordAt]
  rw [hk (4 * i) (by omega), hk (4 * i + 1) (by omega), hk (4 * i + 2) (by omega), hk (4 * i + 3) h]

theorem overlay_eq {got buf : List UInt8} (h : buf.length ≤ got.length) : overlay got buf = got := by
  rw [overlay, List.drop_eq_nil_of_le h, List.append_nil]

end Bytes
