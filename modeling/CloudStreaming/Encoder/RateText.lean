import CloudStreaming.Encoder.RateControl
import Mathlib.Tactic.IntervalCases
import Mathlib.Tactic.Ring

/-!
# Rates as they are written (`encoder/shared/encoder.cpp:116-132`, `:343-398`)

A rate is documented as `digits[.digits][K|M]`. `atoi` reads its whole part and `convert_bitrate` all of it, so with a
positive whole part and a value that fits into an `int` both find the rate positive: the rates that are misjudged are
those below one unit and those too large.
-/

namespace CloudStreaming.Encoder.Options

open Service

/-- `digits[.digits][K|M]`; an empty `fraction` is none at all. -/
structure RateText where
  whole : Str
  fraction : Str
  unit : Option Char
  whole_ne_nil : whole ≠ []
  whole_digits : ∀ c ∈ whole, c.isDigit = true
  fraction_digits : ∀ c ∈ fraction, c.isDigit = true
  unit_mem : ∀ c ∈ unit, c = 'K' ∨ c = 'M'

namespace RateText

/-- What stands after the whole part. -/
def tail (t : RateText) : Str :=
  match t.fraction with
  | [] => t.unit.toList
  | f :: fs => '.' :: f :: fs ++ t.unit.toList

def str (t : RateText) : Str := t.whole ++ t.tail

end RateText

/-! ## Characters -/

def digitChars : List Char := ['0', '1', '2', '3', '4', '5', '6', '7', '8', '9']

theorem isDigit_mem {c : Char} (h : c.isDigit = true) : c ∈ digitChars := by
  have hbounds : 48 ≤ c.toNat ∧ c.toNat ≤ 57 := by
    simpa [Char.isDigit, UInt32.le_iff_toNat_le] using h
  obtain ⟨hlo, hhi⟩ := hbounds
  have hc : c = Char.ofNat c.toNat := (Char.ofNat_toNat c).symm
  generalize c.toNat = n at hlo hhi hc
  interval_cases n <;> simp [hc, digitChars]

theorem isDigit_not_sign {c : Char} (h : c.isDigit = true) : isspace c = false ∧ c ≠ '-' ∧ c ≠ '+' := by
  have hall : (digitChars.all fun c => !isspace c && c != '-' && c != '+') = true := by decide
  simpa [and_assoc] using List.all_eq_true.mp hall c (isDigit_mem h)

/-- A string that begins with a word has the word's characters. -/
theorem exists_of_startsNocase {s : Str} {word : String} {ch : Char} (h : startsNocase s word = true)
    (hch : (word.toList.map Char.toLower).contains ch = true) : ∃ c ∈ s, c.toLower = ch := by
  rw [startsNocase, sameNocase_iff] at h
  rw [← h, List.contains_iff_mem, List.mem_map] at hch
  obtain ⟨c, hc, rfl⟩ := hch
  exact ⟨c, List.mem_of_mem_take hc, rfl⟩

/-! ## Digits -/

theorem numeral_append (base : Nat) (s t : Str) :
    numeral base (s ++ t) = numeral base s * base ^ t.length + numeral base t := by
  have hfold : ∀ (t : Str) (n : Nat), t.foldl (fun n c => base * n + digitValue c) n =
      n * base ^ t.length + t.foldl (fun n c => base * n + digitValue c) 0 := by
    intro t
    induction t with
    | nil => simp
    | cons c t ih =>
      intro n
      rw [List.foldl_cons, List.foldl_cons, ih (base * n + digitValue c), ih (base * 0 + digitValue c)]
      simp only [List.length_cons, pow_succ]
      ring
  rw [numeral, List.foldl_append, hfold]
  rfl

theorem split_digits {s t : Str} (hs : ∀ c ∈ s, c.isDigit = true) (ht : t.takeWhile Char.isDigit = []) :
    (s ++ t).takeWhile Char.isDigit = s ∧ (s ++ t).dropWhile Char.isDigit = t := by
  have hsplit := List.takeWhile_append_dropWhile (p := Char.isDigit) (l := t)
  rw [ht, List.nil_append] at hsplit
  rw [List.takeWhile_append_of_pos hs, List.dropWhile_append_of_pos hs, ht, hsplit, List.append_nil]
  exact ⟨rfl, rfl⟩

theorem digits_append {s t : Str} (hs : ∀ c ∈ s, c.isDigit = true) (ht : t.takeWhile Char.isDigit = []) :
    digits (s ++ t) = numeral 10 s := by
  have hfold : ∀ (s : Str) (n : Nat), (∀ c ∈ s, c.isDigit = true) →
      s.foldl (fun n c => 10 * n + ((c.toNat - '0'.toNat : Nat) : Int)) n =
        (s.foldl (fun n c => 10 * n + digitValue c) n : Nat) := by
    intro s
    induction s with
    | nil => simp
    | cons c s ih =>
      intro n hs
      rw [List.forall_mem_cons] at hs
      have hvalue : (10 * (n : Int) + ((c.toNat - '0'.toNat : Nat) : Int)) = ((10 * n + digitValue c : Nat) : Int) := by
        simp [digitValue, hs.1]
      rw [List.foldl_cons, List.foldl_cons, hvalue, ih _ hs.2]
  rw [digits, (split_digits hs ht).1]
  exact hfold s 0 hs

/-! ## Both readings -/

namespace RateText

variable (t : RateText)

def wholeValue : Nat := numeral 10 t.whole

theorem unit_takeWhile : t.unit.toList.takeWhile Char.isDigit = [] := by
  cases hu : t.unit with
  | none => rfl
  | some c => rcases t.unit_mem c hu with rfl | rfl <;> rfl

theorem tail_takeWhile : t.tail.takeWhile Char.isDigit = [] := by
  unfold tail
  split
  · exact t.unit_takeWhile
  · rfl

theorem str_eq_cons : ∃ d s, t.str = d :: s ∧ d.isDigit = true := by
  cases hw : t.whole with
  | nil => exact absurd hw t.whole_ne_nil
  | cons d ds => exact ⟨d, ds ++ t.tail, by simp [str, hw], t.whole_digits d (by simp [hw])⟩

theorem leadingInt_str : leadingInt t.str = t.wholeValue := by
  obtain ⟨d, s, hstr, hd⟩ := t.str_eq_cons
  obtain ⟨hspace, hminus, hplus⟩ := isDigit_not_sign hd
  have hdigits : digits t.str = t.wholeValue := digits_append t.whole_digits t.tail_takeWhile
  rw [hstr] at hdigits ⊢
  simp [leadingInt, signedDigits, hspace, hminus, hplus, hdigits]

theorem atoi_str (h : t.wholeValue < 2 ^ 31) : atoi t.str = t.wholeValue := by
  have hrange : max (-2 ^ 63) (min (2 ^ 63 - 1) (t.wholeValue : Int)) = t.wholeValue := by omega
  rw [atoi, leadingInt_str, hrange]
  exact Int.bmod_eq_of_le_mul_two (by push_cast; omega) (by push_cast; omega)

theorem mem_str {c : Char} (h : c ∈ t.str) : c ∈ digitChars ++ ['.', 'K', 'M'] := by
  have hdigit {c : Char} (h : c.isDigit = true) : c ∈ digitChars ++ ['.', 'K', 'M'] :=
    List.mem_append_left ['.', 'K', 'M'] (isDigit_mem h)
  have hunit (h : c ∈ t.unit.toList) : c = 'K' ∨ c = 'M' := t.unit_mem c (by simpa using h)
  rcases List.mem_append.mp h with h | h
  · exact hdigit (t.whole_digits c h)
  · unfold tail at h
    split at h
    · rcases hunit h with rfl | rfl <;> simp
    · next f fs hf =>
      rcases List.mem_append.mp h with h | h
      · rcases List.mem_cons.mp h with rfl | h
        · simp
        · exact hdigit (t.fraction_digits c (hf ▸ h))
      · rcases hunit h with rfl | rfl <;> simp

/-- It is no infinity, no NaN and no hexadecimal number. -/
theorem not_startsNocase (word : String) (ch : Char) (hch : (word.toList.map Char.toLower).contains ch = true)
    (h : ((digitChars ++ ['.', 'K', 'M']).all fun c => c.toLower != ch) = true) :
    startsNocase t.str word = false := by
  rw [Bool.eq_false_iff]
  intro hstart
  obtain ⟨c, hc, hlower⟩ := exists_of_startsNocase hstart hch
  simpa [hlower] using List.all_eq_true.mp h c (t.mem_str hc)

theorem mantissa_str : mantissa 10 Char.isDigit t.str =
    ((numeral 10 (t.whole ++ t.fraction) : ℚ) / 10 ^ t.fraction.length, t.unit.toList) := by
  obtain ⟨htake, hdrop⟩ := split_digits t.whole_digits t.tail_takeWhile
  unfold mantissa
  rw [str, htake, hdrop]
  unfold tail
  cases hf : t.fraction with
  | nil =>
    cases hu : t.unit with
    | none => simp
    | some c => rcases t.unit_mem c hu with rfl | rfl <;> simp
  | cons f fs =>
    have hdigits : ∀ c ∈ f :: fs, c.isDigit = true := hf ▸ t.fraction_digits
    obtain ⟨htakef, hdropf⟩ := split_digits hdigits t.unit_takeWhile
    simp only [List.cons_append] at htakef hdropf ⊢
    simp only [htakef, hdropf]
    rfl

theorem strtod_str : strtod t.str =
    some ((numeral 10 (t.whole ++ t.fraction) : ℚ) / 10 ^ t.fraction.length) := by
  obtain ⟨d, s, hstr, hd⟩ := t.str_eq_cons
  obtain ⟨hspace, hminus, hplus⟩ := isDigit_not_sign hd
  have hexp : exponent 'e' t.unit.toList = 0 := by
    cases hu : t.unit with
    | none => rfl
    | some c => rcases t.unit_mem c hu with rfl | rfl <;> rfl
  have hmag : magnitude t.str = some ((numeral 10 (t.whole ++ t.fraction) : ℚ) / 10 ^ t.fraction.length) := by
    have hinf := t.not_startsNocase "inf" 'i' (by decide) (by decide)
    have hnan := t.not_startsNocase "nan" 'n' (by decide) (by decide)
    have hhex := t.not_startsNocase "0x" 'x' (by decide) (by decide)
    simp [magnitude, hinf, hnan, hhex, mantissa_str, hexp]
  rw [hstr] at hmag ⊢
  simp [strtod, hspace, hminus, hplus, hmag]

theorem wholeValue_le : (t.wholeValue : ℚ) ≤ (numeral 10 (t.whole ++ t.fraction) : ℚ) / 10 ^ t.fraction.length := by
  rw [le_div_iff₀ (by positivity), numeral_append]
  push_cast
  exact le_add_of_nonneg_right (Nat.cast_nonneg _)

end RateText

section
variable (fl : Rounding ℚ 53) (undefined : Option ℚ → Int)

/-- The value of the rate is below what an `int` holds. -/
def Fits (s : Str) : Prop := ∀ d, (atof fl s).map (applyUnit fl s) = some d → d < 2 ^ 31

/-- No rounding and no unit takes a rate below an integer it is not below. -/
theorem int_le_applyUnit {n : ℤ} {x : ℚ} (s : Str) (h0 : 0 ≤ n) (hn : n ≤ 2 ^ 53) (hx : n ≤ x) :
    (n : ℚ) ≤ applyUnit fl s (fl.round x) := by
  have habs : |n| ≤ 2 ^ 53 := abs_le.mpr ⟨by omega, hn⟩
  have h0' : (0 : ℚ) ≤ n := by exact_mod_cast h0
  have hround : (n : ℚ) ≤ fl.round x := fl.int_le_round habs hx
  unfold applyUnit
  split
  · exact fl.int_le_round habs (by linarith)
  · exact fl.int_le_round habs (by linarith)
  · exact hround

theorem RateText.exists_rate (t : RateText) : ∃ d, (atof fl t.str).map (applyUnit fl t.str) = some d := by
  rw [atof, t.strtod_str]
  exact ⟨_, rfl⟩

variable {fl} (t : RateText)

theorem RateText.int_le_rate {n : ℤ} {d : ℚ} (h0 : 0 ≤ n) (hn : n ≤ 2 ^ 53) (hle : n ≤ t.wholeValue)
    (hd : (atof fl t.str).map (applyUnit fl t.str) = some d) : (n : ℚ) ≤ d := by
  rw [atof, t.strtod_str, Option.map_some, Option.map_some, Option.some.injEq] at hd
  rw [← hd]
  refine int_le_applyUnit fl t.str h0 hn (le_trans ?_ t.wholeValue_le)
  exact_mod_cast hle

theorem RateText.atoi_pos (hpos : 0 < t.wholeValue) (hfit : Fits fl t.str) : 0 < atoi t.str := by
  have hlt : t.wholeValue < 2 ^ 31 := by
    by_contra hge
    obtain ⟨d, hd⟩ := t.exists_rate fl
    have hle : ((2 ^ 31 : ℤ) : ℚ) ≤ d := t.int_le_rate (by norm_num) (by norm_num) (by push_cast; omega) hd
    have hd' := hfit d hd
    push_cast at hle
    linarith
  rw [t.atoi_str hlt]
  exact_mod_cast hpos

theorem RateText.convertBitrate_pos (hpos : 0 < t.wholeValue) (hfit : Fits fl t.str) :
    0 < convertBitrate fl undefined (some t.str) := by
  obtain ⟨d, hd⟩ := t.exists_rate fl
  have hone : ((1 : ℤ) : ℚ) ≤ d := t.int_le_rate (by norm_num) (by norm_num) (by omega) hd
  have hnonneg : 0 ≤ d := by
    push_cast at hone
    linarith
  have hlo : 1 ≤ ⌊d⌋ := Int.le_floor.mpr hone
  have hhi : ⌊d⌋ < 2 ^ 31 := Int.floor_lt.mpr (by exact_mod_cast hfit d hd)
  simp only [convertBitrate, hd, toInt, Rounding.trunc_of_nonneg hnonneg]
  rw [if_pos ⟨by omega, hhi⟩]
  omega

end

/-- **Rates of at least one unit that fit into an `int` are judged right**, whatever the mode. -/
theorem whole_units_judged_right (fl : Rounding ℚ 53) (undefined : Option ℚ → Int) (rc : RateControlInfo)
    (b m : RateText) (hb : rc.bitrate = some b.str) (hm : rc.maxrate = some m.str) (hbpos : 0 < b.wholeValue)
    (hmpos : 0 < m.wholeValue) (hbfit : Fits fl b.str) (hmfit : Fits fl m.str) :
    (irrCheckRateCtrlOptions (platform fl undefined false) rc).isSome ↔ Valid (platform fl undefined false) rc := by
  rw [accepts_iff rfl]
  apply settings_iff.mpr
  intro mode b' m' _ hb' hm' _
  obtain rfl : b.str = b' := Option.some.inj (hb.symm.trans hb')
  obtain rfl : m.str = m' := Option.some.inj (hm.symm.trans hm')
  refine iff_of_true ⟨b.atoi_pos hbpos hbfit, m.atoi_pos hmpos hmfit⟩ ?_
  exact b.convertBitrate_pos undefined hbpos hbfit

end CloudStreaming.Encoder.Options
