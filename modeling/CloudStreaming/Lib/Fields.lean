import Mathlib.Algebra.GroupWithZero.Nat
import Mathlib.Data.Nat.Basic

/-!
# Packed records

A packed C structure is a list of fields of fixed widths, each its value's bytes, least significant first. `encode` lays
the fields out one behind the other and `split` reads them back, from a buffer that may go on behind the record.
-/

namespace Fields

/-- The `n` bytes of a value, least significant first. -/
def le : Nat → Nat → List UInt8
  | 0, _ => []
  | n + 1, v => UInt8.ofNat v :: le n (v / 256)

/-- The value of bytes, least significant first. -/
def value : List UInt8 → Nat
  | [] => 0
  | b :: bs => b.toNat + 256 * value bs

/-- A record of widths and values. -/
def encode (fs : List (Nat × Nat)) : List UInt8 := fs.flatMap fun f => le f.1 f.2

/-- The values of the fields at the start of a buffer; a buffer that is too short reads as zeros behind its end. -/
def split : List Nat → List UInt8 → List Nat
  | [], _ => []
  | w :: ws, b => value (b.take w) :: split ws (b.drop w)

@[simp] theorem le_length (n v : Nat) : (le n v).length = n := by
  induction n generalizing v with
  | zero => rfl
  | succ n ih => rw [le, List.length_cons, ih]

@[simp] theorem le_one (v : Nat) : le 1 v = [UInt8.ofNat v] := rfl

/-- The bytes of a value hold it as far as they reach. -/
theorem value_le (n v : Nat) : value (le n v) = v % 256 ^ n := by
  induction n generalizing v with
  | zero => rw [pow_zero, Nat.mod_one]; rfl
  | succ n ih =>
    rw [le, value, ih, pow_succ', Nat.mod_mul, UInt8.toNat_ofNat']

/-- The bytes of the value of bytes are these bytes. -/
theorem le_value (bs : List UInt8) : le bs.length (value bs) = bs := by
  induction bs with
  | nil => rfl
  | cons b bs ih =>
    have hb : b.toNat < 256 := b.toNat_lt
    have hlow : UInt8.ofNat (b.toNat + 256 * value bs) = b := by
      apply UInt8.toNat_inj.mp
      rw [UInt8.toNat_ofNat']
      omega
    have hrest : (b.toNat + 256 * value bs) / 256 = value bs := by omega
    rw [List.length_cons, value, le, hlow, hrest, ih]

/-! ## Records -/

@[simp] theorem encode_nil : encode [] = [] := rfl

@[simp] theorem encode_cons (f : Nat × Nat) (fs : List (Nat × Nat)) : encode (f :: fs) = le f.1 f.2 ++ encode fs := rfl

@[simp] theorem encode_length (fs : List (Nat × Nat)) : (encode fs).length = (fs.map Prod.fst).sum := by
  induction fs with
  | nil => rfl
  | cons f fs ih => rw [encode_cons, List.length_append, le_length, ih, List.map_cons, List.sum_cons]

@[simp] theorem split_nil (b : List UInt8) : split [] b = [] := rfl

@[simp] theorem split_length (ws : List Nat) (b : List UInt8) : (split ws b).length = ws.length := by
  induction ws generalizing b with
  | nil => rfl
  | cons w ws ih => rw [split, List.length_cons, ih, List.length_cons]

/-- **Round trip** of a record, in front of anything. -/
theorem split_encode (fs : List (Nat × Nat)) (rest : List UInt8) :
    split (fs.map Prod.fst) (encode fs ++ rest) = fs.map fun f => f.2 % 256 ^ f.1 := by
  induction fs with
  | nil => rfl
  | cons f fs ih =>
    have htake : (le f.1 f.2 ++ (encode fs ++ rest)).take f.1 = le f.1 f.2 := by
      rw [List.take_append_of_le_length (le_of_eq (le_length _ _).symm), List.take_of_length_le (le_of_eq (le_length _ _))]
    have hdrop : (le f.1 f.2 ++ (encode fs ++ rest)).drop f.1 = encode fs ++ rest := by
      rw [List.drop_append_of_le_length (le_of_eq (le_length _ _).symm), List.drop_of_length_le (le_of_eq (le_length _ _)),
        List.nil_append]
    rw [encode_cons, List.append_assoc, List.map_cons, split, htake, hdrop, ih, value_le, List.map_cons]

/-- The fields of values that fit are read back as they are. -/
theorem split_encode_of_lt {fs : List (Nat × Nat)} (h : ∀ f ∈ fs, f.2 < 256 ^ f.1) (rest : List UInt8) :
    split (fs.map Prod.fst) (encode fs ++ rest) = fs.map Prod.snd := by
  rw [split_encode]
  exact List.map_congr_left fun f hf => Nat.mod_eq_of_lt (h f hf)

end Fields
