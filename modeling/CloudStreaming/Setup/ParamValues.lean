import CloudStreaming.Setup.Utility

/-!
# Values of a parameter (`apps/idd-setup-tool/CommandParserImpl.cpp:708-754`)

`ExtractAndStoreParamInfo` takes one segment after another off the text behind `name=`, stores each through the
parameter's target, and compares the number of segments with `ArgumentCount` when all are stored. So an array of
`ArgumentCount` elements is written past its end before too many values are refused, and a segment that is no number
throws out of the function. The loop ends with the text: behind a delimiter at its end there is no segment.

| here | there |
| --- | --- |
| `Write.cell i v` | `Target[i] = v`, with `Target` an array of strings, numbers or paths |
| `Write.push v`   | `Target->push_back(v)` |
| `Fault.signedOverflow` | `DelimiterCount++` at `INT32_MAX` |
-/

namespace CloudStreaming.Setup

open Substrings

inductive ArgumentTypes where
  | none
  | string
  | integer
  | stringVector
  | integerVector
  | path
deriving DecidableEq

/-- `ParamStruct`: `OptionsList` has `VariationsCount` names. -/
structure ParamStruct where
  target : Nat
  type : ArgumentTypes
  optionsList : List Str
  delimiter : Str
  argumentCount : Nat
  ignoreCase : Bool

inductive Value where
  | str (s : Str)
  | int (n : Int)
deriving DecidableEq

inductive Write where
  | cell (i : Nat) (v : Value)
  | push (v : Value)
deriving DecidableEq

/-! ## The function -/

/-- The segment and what is left (`:715-724`). -/
def nextSegment (delimiter arguments : Str) : Str × Str :=
  match find arguments delimiter with
  | some loc =>
    if 0 < delimiter.length then (arguments.take loc, arguments.drop (loc + delimiter.length)) else (arguments, [])
  | none => (arguments, [])

/-- A segment is stored (`:730-746`). -/
def store (type : ArgumentTypes) (i : Nat) (segment : Str) : Except Fault (List Write) :=
  match type with
  | .string => .ok [.cell i (.str segment)]
  | .integer => do .ok [.cell i (.int (← stoi segment))]
  | .stringVector => .ok [.push (.str segment)]
  | .integerVector => do .ok [.push (.int (← stoi segment))]
  | .path => .ok [.cell i (.str segment)]
  | .none => .ok []

/-- `DelimiterCount++`. -/
def increment (count : Nat) : Except Fault Nat :=
  if count < 2147483647 then .ok (count + 1) else .error .signedOverflow

/-- The segment in lower case, if the case is ignored (`:726`). -/
def ParamStruct.cased (p : ParamStruct) (segment : Str) : Str :=
  if p.ignoreCase then stringToLowerCase segment else segment

theorem length_nextSegment {delimiter arguments : Str} (h : arguments ≠ []) :
    (nextSegment delimiter arguments).2.length < arguments.length := by
  have hpos := List.length_pos_iff.mpr h
  unfold nextSegment
  split
  · next loc hloc =>
    have := length_of_find hloc
    split
    · rw [List.length_drop]
      omega
    · exact hpos
  · exact hpos

/-- The loop (`:712-747`): what is stored, and `DelimiterCount`. -/
def extractLoop (p : ParamStruct) (arguments : Str) (count : Nat) : Except Fault (List Write × Nat) :=
  if _h : arguments ≠ [] then do
    let writes ← store p.type count (p.cased (nextSegment p.delimiter arguments).1)
    let count ← increment count
    let (rest, count) ← extractLoop p (nextSegment p.delimiter arguments).2 count
    .ok (writes ++ rest, count)
  else .ok ([], count)
termination_by arguments.length
decreasing_by exact length_nextSegment _h

/-- `ExtractAndStoreParamInfo`. -/
def extractAndStoreParamInfo (p : ParamStruct) (arguments : Str) : Except Fault (List Write × Bool) := do
  let (writes, count) ← extractLoop p arguments 0
  if p.argumentCount ≠ 0 ∧ count ≠ p.argumentCount then .ok (writes, false)
  else if p.argumentCount = 0 ∧ count = 0 then .ok (writes, false)
  else .ok (writes, true)

/-! ## Segments and what is to be stored -/

namespace ArgumentTypes

def IsInteger (t : ArgumentTypes) : Prop := t = integer ∨ t = integerVector

/-- The target is an array. -/
def IsArray (t : ArgumentTypes) : Prop := t = string ∨ t = integer ∨ t = path

/-- The `i`-th value, stored. -/
def write (t : ArgumentTypes) (i : Nat) (v : Value) : List Write :=
  match t with
  | none => []
  | string | integer | path => [.cell i v]
  | stringVector | integerVector => [.push v]

/-- The value of a segment, with `number` to read numbers. -/
def value (t : ArgumentTypes) (number : Str → Int) (segment : Str) : Value :=
  match t with
  | integer | integerVector => .int (number segment)
  | _ => .str segment

/-- All segments, stored from place `i` on. -/
def writes (t : ArgumentTypes) (number : Str → Int) : Nat → List Str → List Write
  | _, [] => []
  | i, segment :: rest => t.write i (t.value number segment) ++ t.writes number (i + 1) rest

end ArgumentTypes

namespace ParamStruct

variable (p : ParamStruct) (s : Str)

/-- The delimiter-separated segments of the text; the empty text has none. -/
def segments : List Str := if s = [] then [] else (splitOn p.delimiter s).map p.cased

/-- A segment that has to be a number is none, or is out of range. -/
def Malformed : Prop := p.type.IsInteger ∧ ∃ segment ∈ p.segments s, numeral segment = none

/-- The number of segments is the one that is asked for. -/
def Counts (n : Nat) : Prop := if p.argumentCount = 0 then 1 ≤ n else n = p.argumentCount

instance (n : Nat) : Decidable (p.Counts n) :=
  inferInstanceAs (Decidable (if p.argumentCount = 0 then 1 ≤ n else n = p.argumentCount))

/-- The target is an array of `ArgumentCount` elements. -/
def Bounded : Prop := p.type.IsArray ∧ 0 < p.argumentCount

/-- What is to happen to a text: a malformed one is rejected, another is accepted by the number of its segments and
they are stored; an array is not written past its end. -/
structure Extracted (writes : List Write) (result : Bool) : Prop where
  room : p.Bounded → writes.length ≤ p.argumentCount
  rejected : p.Malformed s → result = false
  counted : ¬ p.Malformed s → (result = true ↔ p.Counts (p.segments s).length)
  stored : ¬ p.Malformed s → (p.Bounded → (p.segments s).length ≤ p.argumentCount) →
    writes = p.type.writes (fun segment => (numeral segment).getD 0) 0 (p.segments s)

/-- The function does what is to happen. -/
def Meets : Prop :=
  ∃ writes result, extractAndStoreParamInfo p s = .ok (writes, result) ∧ p.Extracted s writes result

/-- The text ends with a delimiter. -/
def Trailing : Prop := s ≠ [] ∧ (splitOn p.delimiter s).getLast? = some []

end ParamStruct

/-- The segments without an empty one at the end. -/
def trimmed (segments : List Str) : List Str :=
  if segments.getLast? = some [] then segments.dropLast else segments

/-- The segments the loop takes. -/
def ParamStruct.passes (p : ParamStruct) (s : Str) : List Str := (trimmed (splitOn p.delimiter s)).map p.cased

/-- **When the function does what is to happen**: the text has fewer than `2^31` segments, and not more than an array
has elements; every number can be converted; and where a number is not converted as a whole, or behind a delimiter at
the end, the count is wrong anyway. -/
structure ParamStruct.Fits (p : ParamStruct) (s : Str) : Prop where
  few : (p.passes s).length < 2147483648
  room : p.Bounded → (p.passes s).length ≤ p.argumentCount
  converts : p.type.IsInteger → ∀ segment ∈ p.passes s, ∃ n, stoi segment = .ok n
  whole : p.Malformed s → p.argumentCount ≠ 0 ∧ (p.passes s).length ≠ p.argumentCount
  closed : ¬ p.type.IsInteger → p.Trailing s → p.type = .none ∧
    (p.argumentCount = 0 ∨ ((p.passes s).length ≠ p.argumentCount ∧ (p.passes s).length + 1 ≠ p.argumentCount))

/-! ## The segments the loop takes -/

theorem trimmed_cons (a : Str) {l : List Str} (h : l ≠ []) : trimmed (a :: l) = a :: trimmed l := by
  obtain ⟨b, l, rfl⟩ := List.exists_cons_of_ne_nil h
  unfold trimmed
  rw [List.getLast?_cons_cons]
  split
  · rfl
  · rfl

theorem nextSegment_eq (d s : Str) : nextSegment d s = ((cut d s).1, (cut d s).2.getD []) := by
  unfold nextSegment cut
  cases find s d with
  | none => rfl
  | some i =>
    dsimp only
    split
    · rfl
    · rfl

namespace ParamStruct

variable {p : ParamStruct} {s : Str}

theorem passes_nil : p.passes [] = [] := by
  have hcut : cut p.delimiter [] = ([], none) := by
    unfold cut
    split
    · next i hi =>
      have hlen := length_of_find hi
      rw [if_neg]
      simp only [List.length_nil] at hlen
      omega
    · rfl
  rw [passes, splitOn_none (by rw [hcut]), hcut]
  rfl

/-- One turn takes one segment. -/
theorem passes_of_ne_nil (h : s ≠ []) :
    p.passes s = p.cased (nextSegment p.delimiter s).1 :: p.passes (nextSegment p.delimiter s).2 := by
  rw [nextSegment_eq]
  cases hcut : (cut p.delimiter s).2 with
  | some r =>
    rw [passes, splitOn_some hcut, trimmed_cons _ (splitOn_ne_nil _ _)]
    rfl
  | none =>
    have hall : (cut p.delimiter s).1 = s := by
      unfold cut at hcut ⊢
      split
      · next i hi =>
        rw [hi] at hcut
        split
        · next hpos => simp [hpos] at hcut
        · rfl
      · rfl
    have htrim : trimmed [s] = [s] := by
      rw [trimmed, if_neg]
      simpa using h
    show p.passes s = p.cased (cut p.delimiter s).1 :: p.passes []
    rw [passes_nil, passes, splitOn_none hcut, hall, htrim]
    rfl

theorem passes_ne_nil (h : s ≠ []) : p.passes s ≠ [] := by
  rw [passes_of_ne_nil h]
  simp

/-- The segments are the ones the loop takes, but for an empty one at the end. -/
theorem segments_eq (h : ¬ p.Trailing s) : p.segments s = p.passes s := by
  by_cases hs : s = []
  · rw [hs, passes_nil]
    rfl
  · rw [segments, if_neg hs, passes, trimmed, if_neg fun hlast => h ⟨hs, hlast⟩]

theorem segments_of_trailing (h : p.Trailing s) : p.segments s = p.passes s ++ [p.cased []] := by
  obtain ⟨hs, hlast⟩ := h
  have hsplit : splitOn p.delimiter s = (splitOn p.delimiter s).dropLast ++ [[]] :=
    (List.dropLast_append_getLast? [] hlast).symm
  rw [segments, if_neg hs, passes, trimmed, if_pos hlast]
  nth_rewrite 1 [hsplit]
  rw [List.map_append]
  rfl

theorem length_segments_of_trailing (h : p.Trailing s) : (p.segments s).length = (p.passes s).length + 1 := by
  rw [segments_of_trailing h, List.length_append]
  rfl

end ParamStruct

/-! ## The loop -/

/-- What `stoi` makes of a text, if it does not throw. -/
def stoiValue (segment : Str) : Int := (stoi segment).toOption.getD 0

theorem store_eq_ok {t : ArgumentTypes} {i : Nat} {segment : Str} {ws : List Write} :
    store t i segment = .ok ws ↔
      (t.IsInteger → ∃ n, stoi segment = .ok n) ∧ ws = t.write i (t.value stoiValue segment) := by
  have hnum : ∀ {f : Int → List Write}, (do .ok (f (← stoi segment))) = Except.ok ws ↔
      (∃ n, stoi segment = .ok n) ∧ ws = f (stoiValue segment) := by
    intro f
    rw [bind_eq_ok]
    constructor
    · rintro ⟨n, hn, hws⟩
      cases hws
      exact ⟨⟨n, hn⟩, by rw [stoiValue, hn]; rfl⟩
    · rintro ⟨⟨n, hn⟩, hws⟩
      refine ⟨n, hn, ?_⟩
      rw [hws, stoiValue, hn]
      rfl
  cases t with
  | integer =>
    rw [store, hnum]
    simp [ArgumentTypes.IsInteger, ArgumentTypes.write, ArgumentTypes.value]
  | integerVector =>
    rw [store, hnum]
    simp [ArgumentTypes.IsInteger, ArgumentTypes.write, ArgumentTypes.value]
  | none => simp [store, ArgumentTypes.IsInteger, ArgumentTypes.write, eq_comm]
  | string => simp [store, ArgumentTypes.IsInteger, ArgumentTypes.write, ArgumentTypes.value, eq_comm]
  | stringVector => simp [store, ArgumentTypes.IsInteger, ArgumentTypes.write, ArgumentTypes.value, eq_comm]
  | path => simp [store, ArgumentTypes.IsInteger, ArgumentTypes.write, ArgumentTypes.value, eq_comm]

theorem increment_eq_ok {i j : Nat} : increment i = .ok j ↔ i + 1 < 2147483648 ∧ j = i + 1 := by
  unfold increment
  split
  · simp only [Except.ok.injEq]
    omega
  · simp only [reduceCtorEq, false_iff]
    omega

/-- **The loop**: it returns exactly if the segments it takes are few enough and can be converted, and it has stored
them then. -/
theorem extractLoop_eq_ok (p : ParamStruct) (s : Str) (i : Nat) (ws : List Write) (n : Nat) (hi : i < 2147483648) :
    extractLoop p s i = .ok (ws, n) ↔
      i + (p.passes s).length < 2147483648 ∧
      (p.type.IsInteger → ∀ segment ∈ p.passes s, ∃ v, stoi segment = .ok v) ∧
      ws = p.type.writes stoiValue i (p.passes s) ∧ n = i + (p.passes s).length := by
  by_cases hs : s = []
  · subst hs
    rw [extractLoop, dif_neg (by simp), ParamStruct.passes_nil]
    simp [ArgumentTypes.writes, hi, eq_comm]
  · rw [extractLoop, dif_pos hs, ParamStruct.passes_of_ne_nil hs]
    simp only [bind_eq_ok, store_eq_ok, increment_eq_ok]
    constructor
    · rintro ⟨_, ⟨hconv, rfl⟩, _, ⟨hlt, rfl⟩, ⟨rest, n'⟩, hrest, hok⟩
      obtain ⟨hlt', hconv', rfl, rfl⟩ := (extractLoop_eq_ok p _ _ _ _ hlt).mp hrest
      cases hok
      refine ⟨?_, fun hint segment hmem => ?_, rfl, ?_⟩
      · rw [List.length_cons]
        omega
      · rcases List.mem_cons.mp hmem with rfl | hmem
        · exact hconv hint
        · exact hconv' hint segment hmem
      · rw [List.length_cons]
        omega
    · rintro ⟨hlt, hconv, rfl, rfl⟩
      rw [List.length_cons] at hlt
      refine ⟨_, ⟨fun hint => hconv hint _ List.mem_cons_self, rfl⟩, _, ⟨by omega, rfl⟩, ⟨_, _⟩,
        (extractLoop_eq_ok p _ _ _ _ (by omega)).mpr
          ⟨by omega, fun hint segment hmem => hconv hint segment (List.mem_cons_of_mem _ hmem), rfl, rfl⟩, ?_⟩
      rw [List.length_cons]
      congr 2
      omega
termination_by s.length
decreasing_by all_goals exact length_nextSegment hs

/-! ## What a call comes to -/

theorem ArgumentTypes.length_writes {t : ArgumentTypes} (h : t ≠ .none) (number : Str → Int) :
    ∀ (i : Nat) (l : List Str), (t.writes number i l).length = l.length
  | _, [] => rfl
  | i, segment :: rest => by
    have hone : (t.write i (t.value number segment)).length = 1 := by
      cases t with
      | none => exact absurd rfl h
      | _ => rfl
    rw [writes, List.length_append, hone, length_writes h number (i + 1) rest, List.length_cons]
    omega

theorem ArgumentTypes.writes_none (number : Str → Int) : ∀ (i : Nat) (l : List Str), writes .none number i l = []
  | _, [] => rfl
  | i, _ :: rest => writes_none number (i + 1) rest

/-- The way numbers are read does not matter for the others. -/
theorem ArgumentTypes.writes_congr {t : ArgumentTypes} {f g : Str → Int} :
    ∀ {i : Nat} {l : List Str}, (t.IsInteger → ∀ segment ∈ l, f segment = g segment) → t.writes f i l = t.writes g i l
  | _, [], _ => rfl
  | i, segment :: rest, h => by
    have hhead : t.value f segment = t.value g segment := by
      cases t with
      | integer => exact congrArg Value.int (h (.inl rfl) segment List.mem_cons_self)
      | integerVector => exact congrArg Value.int (h (.inr rfl) segment List.mem_cons_self)
      | _ => rfl
    rw [writes, writes, hhead, writes_congr fun hint seg hseg => h hint seg (List.mem_cons_of_mem _ hseg)]

namespace ParamStruct

variable {p : ParamStruct} {s : Str}

/-- The call returns exactly if the loop does; its result is by the number of the segments taken. -/
theorem extract_eq_ok {ws : List Write} {r : Bool} :
    extractAndStoreParamInfo p s = .ok (ws, r) ↔
      (p.passes s).length < 2147483648 ∧
      (p.type.IsInteger → ∀ segment ∈ p.passes s, ∃ v, stoi segment = .ok v) ∧
      ws = p.type.writes stoiValue 0 (p.passes s) ∧ (r = true ↔ p.Counts (p.passes s).length) := by
  have hres : ∀ {n : Nat}, (if p.argumentCount ≠ 0 ∧ n ≠ p.argumentCount then Except.ok (ws, false)
      else if p.argumentCount = 0 ∧ n = 0 then .ok (ws, false) else .ok (ws, true)) =
        (.ok (ws, r) : Except Fault (List Write × Bool)) ↔ (r = true ↔ p.Counts n) := by
    intro n
    unfold Counts
    by_cases h0 : p.argumentCount = 0
    · by_cases hn : n = 0
      · cases r <;> simp [h0, hn]
      · have hpos : 1 ≤ n := by omega
        cases r <;> simp [h0, hn, hpos]
    · by_cases hn : n = p.argumentCount
      · cases r <;> simp [h0, hn]
      · cases r <;> simp [h0, hn]
  unfold extractAndStoreParamInfo
  rw [bind_eq_ok]
  constructor
  · rintro ⟨⟨ws', n⟩, hloop, hok⟩
    obtain ⟨hfew, hconv, rfl, rfl⟩ := (extractLoop_eq_ok p s 0 ws' n (by decide)).mp hloop
    rw [Nat.zero_add] at hfew hok
    have hws : ws = p.type.writes stoiValue 0 (p.passes s) := by
      simp only at hok
      split at hok
      · cases hok
        rfl
      · split at hok
        · cases hok
          rfl
        · cases hok
          rfl
    subst hws
    exact ⟨hfew, hconv, rfl, hres.mp hok⟩
  · rintro ⟨hfew, hconv, rfl, hr⟩
    exact ⟨(_, (p.passes s).length), (extractLoop_eq_ok p s 0 _ _ (by decide)).mpr
      ⟨by omega, hconv, rfl, by omega⟩, hres.mpr hr⟩

theorem ne_none_of_isArray (h : p.type.IsArray) : p.type ≠ .none := by
  rintro h'
  rw [h'] at h
  rcases h with h | h | h <;> cases h

theorem ne_nil_of_malformed (h : p.Malformed s) : s ≠ [] := by
  rintro rfl
  obtain ⟨-, segment, hmem, -⟩ := h
  exact absurd hmem List.not_mem_nil

theorem numeral_nil : numeral [] = none := rfl

/-- A number behind a delimiter at the end is malformed: it is empty. -/
theorem malformed_of_trailing (hint : p.type.IsInteger) (h : p.Trailing s) : p.Malformed s := by
  refine ⟨hint, p.cased [], ?_, ?_⟩
  · rw [segments_of_trailing h]
    simp
  · unfold cased
    split
    · exact numeral_nil
    · exact numeral_nil

/-- Where nothing is malformed, every number is converted to its value. -/
theorem stored_eq (hm : ¬ p.Malformed s) (ht : ¬ p.Trailing s) :
    p.type.writes stoiValue 0 (p.passes s) =
      p.type.writes (fun segment => (numeral segment).getD 0) 0 (p.segments s) := by
  rw [segments_eq ht]
  apply ArgumentTypes.writes_congr
  intro hint segment hmem
  rw [← segments_eq ht] at hmem
  cases hn : numeral segment with
  | none => exact absurd ⟨hint, segment, hmem, hn⟩ hm
  | some n =>
    rw [stoiValue, stoi_of_numeral hn]
    rfl

theorem fits_of_meets (h : p.Meets s) : p.Fits s := by
  obtain ⟨ws, r, hex, hx⟩ := h
  obtain ⟨hfew, hconv, rfl, hr⟩ := extract_eq_ok.mp hex
  have hroom : p.Bounded → (p.passes s).length ≤ p.argumentCount := by
    intro hb
    have := hx.room hb
    rwa [ArgumentTypes.length_writes (ne_none_of_isArray hb.1)] at this
  refine ⟨hfew, hroom, hconv, fun hm => ?_, fun hint htr => ?_⟩
  · -- the result is `false`, and the text is not empty
    have hne := passes_ne_nil (p := p) (ne_nil_of_malformed hm)
    have hpos := List.length_pos_iff.mpr hne
    have hnot : ¬ p.Counts (p.passes s).length := by
      rw [← hr, hx.rejected hm]
      simp
    unfold Counts at hnot
    split at hnot
    · exact absurd hpos hnot
    · next h0 => exact ⟨h0, hnot⟩
  · have hm : ¬ p.Malformed s := fun hm => hint hm.1
    have hlen := length_segments_of_trailing htr
    have hcount := hx.counted hm
    rw [hr, hlen] at hcount
    have hpos := List.length_pos_iff.mpr (passes_ne_nil (p := p) htr.1)
    by_cases hnone : p.type = .none
    · refine ⟨hnone, ?_⟩
      unfold Counts at hcount
      split at hcount
      · next h0 => exact .inl h0
      · refine .inr ⟨fun h => ?_, fun h => ?_⟩
        · have := hcount.mp h
          omega
        · have := hcount.mpr h
          omega
    · exfalso
      by_cases hfit : p.Bounded → (p.segments s).length ≤ p.argumentCount
      · have hstored := congrArg List.length (hx.stored hm hfit)
        rw [ArgumentTypes.length_writes hnone, ArgumentTypes.length_writes hnone, hlen] at hstored
        omega
      · obtain ⟨hb, hgt⟩ := Classical.not_imp.mp hfit
        have := hroom hb
        have h0 : p.argumentCount ≠ 0 := Nat.ne_of_gt hb.2
        simp only [Counts, if_neg h0] at hcount
        omega

theorem meets_of_fits (h : p.Fits s) : p.Meets s := by
  refine ⟨p.type.writes stoiValue 0 (p.passes s), decide (p.Counts (p.passes s).length), ?_, ?_, ?_, ?_, ?_⟩
  · exact extract_eq_ok.mpr ⟨h.few, h.converts, rfl, by simp⟩
  · intro hb
    rw [ArgumentTypes.length_writes (ne_none_of_isArray hb.1)]
    exact h.room hb
  · intro hm
    obtain ⟨h0, hne⟩ := h.whole hm
    simp [Counts, h0, hne]
  · intro hm
    rw [decide_eq_true_iff]
    by_cases htr : p.Trailing s
    · have hint : ¬ p.type.IsInteger := fun hint => hm (malformed_of_trailing hint htr)
      have hlen := length_segments_of_trailing htr
      have hpos := List.length_pos_iff.mpr (passes_ne_nil (p := p) htr.1)
      unfold Counts
      rw [hlen]
      rcases (h.closed hint htr).2 with h0 | ⟨h1, h2⟩
      · rw [if_pos h0, if_pos h0]
        omega
      · split
        · omega
        · omega
    · rw [segments_eq htr]
  · intro hm _
    by_cases htr : p.Trailing s
    · have hint : ¬ p.type.IsInteger := fun hint => hm (malformed_of_trailing hint htr)
      rw [(h.closed hint htr).1, ArgumentTypes.writes_none, ArgumentTypes.writes_none]
    · exact stored_eq hm htr

end ParamStruct

/-- **Values**: for every parameter and every text, the function does what is to happen exactly under the condition. -/
theorem extract_meets_iff (p : ParamStruct) (s : Str) : p.Meets s ↔ p.Fits s :=
  ⟨ParamStruct.fits_of_meets, ParamStruct.meets_of_fits⟩

/-- `resolution` of the command `set` (`IddSetupToolCommandParser.cpp:90`): two numbers with an `x` between them. -/
def resolution : ParamStruct :=
  { target := 0, type := .integer, optionsList := ["resolution".toList], delimiter := ['x'], argumentCount := 2,
    ignoreCase := true }

/-- **A third number**: it is stored behind the array's two elements, and then rejected. -/
theorem resolution_past_array :
    extractAndStoreParamInfo resolution "1920x1080x60".toList =
      .ok ([.cell 0 (.int 1920), .cell 1 (.int 1080), .cell 2 (.int 60)], false) ∧
    ¬ resolution.Meets "1920x1080x60".toList := by
  have hpasses : resolution.passes "1920x1080x60".toList = ["1920", "1080", "60"].map String.toList := by
    rw [ParamStruct.passes_of_ne_nil (by decide), ParamStruct.passes_of_ne_nil (by decide),
      ParamStruct.passes_of_ne_nil (by decide)]
    have hrest : (nextSegment resolution.delimiter (nextSegment resolution.delimiter
        (nextSegment resolution.delimiter "1920x1080x60".toList).2).2).2 = [] := by decide
    rw [hrest, ParamStruct.passes_nil]
    decide
  constructor
  · apply ParamStruct.extract_eq_ok.mpr
    rw [hpasses]
    refine ⟨by decide, fun _ segment hmem => ?_, by decide, by decide⟩
    have hall : ∀ segment ∈ ["1920", "1080", "60"].map String.toList, (stoi segment).isOk = true := by decide
    have hok := hall segment hmem
    cases hstoi : stoi segment with
    | ok n => exact ⟨n, rfl⟩
    | error e =>
      rw [hstoi] at hok
      cases hok
  · intro h
    have hroom := (ParamStruct.fits_of_meets h).room ⟨.inr (.inl rfl), by decide⟩
    rw [hpasses] at hroom
    exact absurd hroom (by decide)

end CloudStreaming.Setup
