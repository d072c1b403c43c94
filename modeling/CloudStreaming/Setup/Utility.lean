import CloudStreaming.Lib.Substrings
import CloudStreaming.Streamer.Conf
import Mathlib.Data.List.TakeWhile

/-!
# Strings of the setup tool (`apps/idd-setup-tool/Utility.h`, `Utility.cpp:38-54`)

Strings are lists of characters, `tstring::npos` is `none`, and letters are lower-cased as in the C locale. What the
tool lets happen to it is a `Fault`: an exception that nothing catches, or undefined behaviour.
-/

namespace CloudStreaming.Setup

open Streamer.Conf (isSpace readSign)

abbrev Str := List Char

inductive Fault where
  | invalidArgument
  | outOfRange
  | signedOverflow
  | vectorIndex
deriving DecidableEq

def stringToLowerCase (s : Str) : Str := s.map Char.toLower

/-- `CheckIfStringContainsPattern`. -/
def checkIfStringContainsPattern (target pattern : Str) (ignoreCase : Bool) : Bool :=
  let target := if ignoreCase then stringToLowerCase target else target
  let pattern := if ignoreCase then stringToLowerCase pattern else pattern
  (Substrings.find target pattern).isSome

def decimal (ds : Str) : Nat := Nat.ofDigitChars 10 ds 0

def signed (neg : Bool) (n : Nat) : Int := if neg then -n else n

/-- `std::stoi`: spaces, a sign and digits, and what follows them is not looked at. -/
def stoi (s : Str) : Except Fault Int :=
  let (neg, s) := readSign (s.dropWhile isSpace)
  let ds := s.takeWhile Char.isDigit
  let n := signed neg (decimal ds)
  if ds = [] then .error .invalidArgument
  else if n < -2147483648 ∨ 2147483647 < n then .error .outOfRange
  else .ok n

/-- The value of a numeral, an optional sign and digits and nothing else, that is in the range of an `int32_t`. -/
def numeral (s : Str) : Option Int :=
  let (neg, ds) := readSign s
  let n := signed neg (decimal ds)
  if ds ≠ [] ∧ ds.all Char.isDigit ∧ -2147483648 ≤ n ∧ n ≤ 2147483647 then some n else none

/-! ## Lemmas -/

@[simp]
theorem ok_bind {α β : Type} (a : α) (f : α → Except Fault β) : (Except.ok a >>= f) = f a := rfl

@[simp]
theorem error_bind {α β : Type} (e : Fault) (f : α → Except Fault β) : (Except.error e >>= f) = .error e := rfl

theorem bind_eq_ok {α β : Type} {x : Except Fault α} {f : α → Except Fault β} {b : β} :
    (x >>= f) = .ok b ↔ ∃ a, x = .ok a ∧ f a = .ok b := by
  cases x with
  | error e =>
    constructor
    · intro h
      cases h
    · rintro ⟨a, h, -⟩
      cases h
  | ok a =>
    constructor
    · intro h
      exact ⟨a, rfl, h⟩
    · rintro ⟨a', h, hb⟩
      cases h
      exact hb

theorem takeWhile_digits {ds : Str} (h : ds.all Char.isDigit) : ds.takeWhile Char.isDigit = ds :=
  List.takeWhile_eq_self_iff.mpr (by simpa using h)

/-- A sign or a digit is no space. -/
theorem isSpace_of_isDigit {c : Char} (h : c.isDigit) : isSpace c = false ∧ c ≠ '-' ∧ c ≠ '+' := by
  obtain ⟨h0, h9⟩ : 48 ≤ c.toNat ∧ c.toNat ≤ 57 := by simpa [Char.isDigit, UInt32.le_iff_toNat_le] using h
  refine ⟨?_, ?_, ?_⟩
  · have hne : c ≠ ' ' := by
      rintro rfl
      exact absurd h0 (by decide)
    simp [isSpace, hne]
    omega
  · rintro rfl
    exact absurd h0 (by decide)
  · rintro rfl
    exact absurd h0 (by decide)

theorem ne_nil_of_decimal {ds : Str} (h : 0 < decimal ds) : ds ≠ [] := by
  rintro rfl
  exact absurd h (by decide)

/-- Digits are read as they stand. -/
theorem readSign_digits {ds : Str} (hne : ds ≠ []) (hds : ds.all Char.isDigit) :
    ds.dropWhile isSpace = ds ∧ readSign ds = (false, ds) := by
  cases ds with
  | nil => exact absurd rfl hne
  | cons c cs =>
    obtain ⟨hspace, hminus, hplus⟩ := isSpace_of_isDigit (List.all_eq_true.mp hds c List.mem_cons_self)
    refine ⟨List.dropWhile_cons_of_neg (by simp [hspace]), ?_⟩
    unfold readSign
    split
    · next heq => exact absurd (List.cons.inj heq).1 hminus
    · next heq => exact absurd (List.cons.inj heq).1 hplus
    · rfl

theorem stoi_digits {ds : Str} (hne : ds ≠ []) (hds : ds.all Char.isDigit) :
    stoi ds = if decimal ds ≤ 2147483647 then .ok (decimal ds : Int) else .error .outOfRange := by
  obtain ⟨hspace, hsign⟩ := readSign_digits hne hds
  simp only [stoi, hspace, hsign, takeWhile_digits hds, if_neg hne, signed]
  by_cases hle : decimal ds ≤ 2147483647
  · rw [if_pos hle, if_neg]
    · rfl
    · simp only [Bool.false_eq_true, if_false]
      omega
  · rw [if_neg hle, if_pos]
    simp only [Bool.false_eq_true, if_false]
    omega

theorem stoi_of_numeral {s : Str} {n : Int} (h : numeral s = some n) : stoi s = .ok n := by
  unfold numeral at h
  match hs : readSign s with
  | (neg, ds) =>
    simp only [hs] at h
    split at h
    · next hok =>
      obtain ⟨hne, hds, hlo, hhi⟩ := hok
      cases h
      have hspace : s.dropWhile isSpace = s := by
        unfold readSign at hs
        split at hs
        · rfl
        · rfl
        · cases hs
          exact (readSign_digits hne hds).1
      simp only [stoi, hspace, hs, takeWhile_digits hds, if_neg hne]
      rw [if_neg (by omega)]
    · cases h

end CloudStreaming.Setup
