import CloudStreaming.Setup.Displays

/-!
# The status of a display change (`apps/idd-setup-tool/RearrangeDisplays.cpp:398-525`)

`EnableDisableDisplay` returns `0` or `-1`, and `EnableDisableDisplayManager` keeps `status &= ...` of a status that
starts with `1`: what comes out is `0` as soon as one sub-pattern succeeded, and `1` if none did. The statuses of the
calls fall to the sub-patterns one after another: a sub-pattern takes one for each of its displays, up to one that
fails, and one for the call that applies the changes.
-/

namespace CloudStreaming.Setup.Displays

/-! ## The statuses of a sub-pattern -/

/-- `m` changes from the call number `k` on: whether all succeed, and the number of the call behind them. -/
def tries (sts : Nat → Int) : Nat → Nat → Bool × Nat
  | k, 0 => (true, k)
  | k, m + 1 => if sts k = 0 then tries sts (k + 1) m else (false, k + 1)

/-- A sub-pattern with `m` displays: the changes, and the call that applies them. -/
def attempt (sts : Nat → Int) (k m : Nat) : Bool × Nat :=
  match tries sts k m with
  | (false, k) => (false, k)
  | (true, k) => (decide (sts k = 0), k + 1)

/-- The sub-patterns of an entry, by the numbers of their displays. -/
def attempts (sts : Nat → Int) : Nat → List Nat → List Bool
  | _, [] => []
  | k, m :: ms => (attempt sts k m).1 :: attempts sts (attempt sts k m).2 ms

/-- All calls succeeded. -/
def AllSucceeded (log : List Call) : Prop := ∀ c ∈ log, c.status = 0

section
variable {active : List DisplayDevice}

theorem allSucceeded_snoc {log : List Call} {c : Call} :
    AllSucceeded (log ++ [c]) ↔ AllSucceeded log ∧ c.status = 0 := by
  simp [AllSucceeded, or_imp, forall_and]

theorem changeAll_spec (sts : Nat → Int) (width height : Nat) :
    ∀ (ds : List DisplayDevice) (log : List Call),
      (changeAll sts width height ds log).2 = (tries sts log.length ds.length).1 ∧
      (changeAll sts width height ds log).1.length = (tries sts log.length ds.length).2 ∧
      (AllSucceeded (changeAll sts width height ds log).1 ↔
        AllSucceeded log ∧ (tries sts log.length ds.length).1 = true)
  | [], log => ⟨rfl, rfl, by simp [changeAll, tries]⟩
  | d :: ds, log => by
    unfold changeAll
    simp only [changeDisplaySettingsEx, checkAndPrintDisplayChangeStatus, List.length_cons, tries]
    by_cases hok : sts log.length = 0
    · obtain ⟨hbool, hlen, hall⟩ :=
        changeAll_spec sts width height ds (log ++ [⟨some d.deviceName, width, height, sts log.length⟩])
      rw [List.length_append] at hbool hlen hall
      simp only [hok, decide_true, if_true] at hbool hlen hall ⊢
      refine ⟨hbool, hlen, hall.trans ?_⟩
      rw [allSucceeded_snoc]
      simp
    · simp only [hok, decide_false, Bool.false_eq_true, if_false]
      refine ⟨trivial, by simp, ?_⟩
      rw [allSucceeded_snoc]
      simp [hok]

/-- The displays of a sub-pattern. -/
def displayCount (p : Pattern) (name : Str) (active : List DisplayDevice) (sub : Str) : Nat :=
  (active.filter (chosenBy p name sub)).length

/-- **A sub-pattern**: its result, and its calls. -/
theorem enableDisableDisplay_spec (sts : Nat → Int) (p : Pattern) (name : Str) (enable : Bool) (hne : active ≠ [])
    (sub : Str) (log : List Call) :
    (enableDisableDisplay sts active (targetInfo p name enable sub) log).2 =
      (if (attempt sts log.length (displayCount p name active sub)).1 then 0 else -1) ∧
    (enableDisableDisplay sts active (targetInfo p name enable sub) log).1.length =
      (attempt sts log.length (displayCount p name active sub)).2 ∧
    (AllSucceeded (enableDisableDisplay sts active (targetInfo p name enable sub) log).1 ↔
      AllSucceeded log ∧ (attempt sts log.length (displayCount p name active sub)).1 = true) := by
  unfold enableDisableDisplay displayCount
  rw [if_neg (by simpa using hne), changeEach_eq]
  obtain ⟨hbool, hlen, hall⟩ := changeAll_spec sts (defaultSize p sub enable).1 (defaultSize p sub enable).2
    (active.filter (chosenBy p name sub)) log
  unfold attempt
  generalize changeAll sts (defaultSize p sub enable).1 (defaultSize p sub enable).2
    (active.filter (chosenBy p name sub)) log = changed at hbool hlen hall ⊢
  generalize tries sts log.length (active.filter (chosenBy p name sub)).length = tried at hbool hlen hall ⊢
  obtain ⟨log', b⟩ := changed
  obtain ⟨b', k⟩ := tried
  obtain rfl : b = b' := hbool
  obtain rfl : log'.length = k := hlen
  cases b with
  | false => exact ⟨rfl, rfl, hall⟩
  | true =>
    have hall : AllSucceeded log' ↔ AllSucceeded log := by simpa using hall
    simp only [changeDisplaySettingsEx, checkAndPrintDisplayChangeStatus]
    by_cases hok : sts log'.length = 0
    · simp only [hok, decide_true, if_true]
      refine ⟨trivial, by simp, ?_⟩
      rw [allSucceeded_snoc, hall]
      simp
    · simp only [hok, decide_false, Bool.false_eq_true, if_false]
      refine ⟨trivial, by simp, ?_⟩
      rw [allSucceeded_snoc, hall]
      simp [hok]

/-- **The sub-patterns of an entry**: the status is `0` as soon as one succeeded, and all calls succeeded exactly if
every one did. -/
theorem changeSubPatterns_spec (sts : Nat → Int) (p : Pattern) (name : Str) (enable : Bool) (hne : active ≠ []) :
    ∀ (subs : List Str) (log : List Call) (status : Int32), status = 0 ∨ status = 1 →
      ((changeSubPatterns sts p name active enable subs log status).2 = 0 ↔
        status = 0 ∨ true ∈ attempts sts log.length (subs.map (displayCount p name active))) ∧
      (AllSucceeded (changeSubPatterns sts p name active enable subs log status).1 ↔
        AllSucceeded log ∧ ∀ b ∈ attempts sts log.length (subs.map (displayCount p name active)), b = true)
  | [], log, status, _ => by simp [changeSubPatterns, attempts]
  | sub :: subs, log, status, hstatus => by
    obtain ⟨hret, hlen, hall⟩ := enableDisableDisplay_spec sts p name enable hne sub log
    rw [changeSubPatterns, List.map_cons, attempts]
    generalize enableDisableDisplay sts active (targetInfo p name enable sub) log = r at hret hlen hall ⊢
    obtain ⟨log', ret⟩ := r
    generalize attempt sts log.length (displayCount p name active sub) = tried at hret hlen hall ⊢
    obtain ⟨b, k⟩ := tried
    obtain rfl : log'.length = k := hlen
    obtain rfl : ret = if b then 0 else -1 := hret
    have hand : status &&& (if b then 0 else -1) = if b then 0 else status := by
      rcases hstatus with rfl | rfl <;> cases b <;> decide
    have hstatus' : (if b then 0 else status) = 0 ∨ (if b then 0 else status) = 1 := by
      cases b with
      | true => exact .inl rfl
      | false => exact hstatus
    obtain ⟨hzero, hsucc⟩ := changeSubPatterns_spec sts p name enable hne subs log' (if b then 0 else status) hstatus'
    simp only [hand]
    refine ⟨hzero.trans ?_, hsucc.trans ?_⟩
    · cases b <;> simp
    · rw [hall]
      simp [and_assoc]

end

/-! ## The status of the manager -/

/-- The string is an abbreviation, or an abbreviation and an index in range. -/
def Named (table : List Pattern) (l : Listing) (s : Str) : Prop :=
  ∃ p ∈ table, s = p.abbreviation ∨ ∃ index : Str, s = p.abbreviation ++ index ∧ index.all Char.isDigit ∧
    1 ≤ decimal index ∧ decimal index ≤ (l.patternMatchCounts p.abbreviation).getD 0

/-- The manager returns, with `0` exactly if the string was matched and every change that was made succeeded. -/
def Truthful (sts : Nat → Int) (table : List Pattern) (l : Listing) (pattern : Str) (active : List DisplayDevice)
    (enable : Bool) : Prop :=
  ∃ log status, enableDisableDisplayManager sts table l pattern active enable = .ok (log, status) ∧
    (status = 0 ↔ Named table l (stringToLowerCase pattern) ∧ AllSucceeded log)

/-- **When the status is truthful**: no index is too large for an `int` at an entry up to the one that is matched, and of
that one's sub-patterns all succeed or none. -/
structure Uniform (sts : Nat → Int) (table : List Pattern) (l : Listing) (s : Str) (active : List DisplayDevice) :
    Prop where
  convertible : Convertible l s table
  uniform : ∀ p name, chosen l s table = some (p, name) →
    (∀ b ∈ attempts sts 0 (p.displaysToMatch.map (displayCount p name active)), b = true) ∨
    ∀ b ∈ attempts sts 0 (p.displaysToMatch.map (displayCount p name active)), b = false

theorem target_isSome {l : Listing} {s : Str} {p : Pattern} :
    (target l s p).isSome ↔ s = p.abbreviation ∨ ∃ index : Str, s = p.abbreviation ++ index ∧ index.all Char.isDigit ∧
      1 ≤ decimal index ∧ decimal index ≤ (l.patternMatchCounts p.abbreviation).getD 0 := by
  rw [l.counts]
  constructor
  · intro h
    by_cases hext : Extends p.abbreviation s
    · obtain ⟨⟨index, rfl⟩, hdigits⟩ := hext
      rw [List.drop_left] at hdigits
      rw [target_append hdigits] at h
      split at h
      · next hnil => exact .inl (by rw [hnil, List.append_nil])
      · split at h
        · next hpos =>
          have hlt := (List.getElem?_eq_some_iff.mp (Option.eq_some_of_isSome h)).1
          exact .inr ⟨index, rfl, hdigits, hpos, by omega⟩
        · cases h
    · simp only [target, if_neg hext] at h
      cases h
  · rintro (rfl | ⟨index, rfl, hdigits, hpos, hle⟩)
    · have h : target l (p.abbreviation ++ []) p = some [] := by rw [target_append rfl, if_pos rfl]
      rw [List.append_nil] at h
      rw [h]
      rfl
    · rw [target_append hdigits, if_neg (ne_nil_of_decimal hpos), if_pos hpos, List.getElem?_eq_getElem (by omega)]
      rfl

theorem chosen_isSome {table : List Pattern} {l : Listing} {s : Str} :
    (chosen l s table).isSome ↔ Named table l s := by
  simp [chosen, Named, List.findSome?_isSome_iff, target_isSome]

theorem mem_of_chosen {table : List Pattern} {l : Listing} {s name : Str} {p : Pattern}
    (h : chosen l s table = some (p, name)) : p ∈ table := by
  obtain ⟨q, hq, hmap⟩ := List.exists_of_findSome?_eq_some h
  obtain ⟨name', -, heq⟩ := Option.map_eq_some_iff.mp hmap
  obtain rfl : q = p := congrArg Prod.fst heq
  exact hq

theorem attempts_ne_nil (sts : Nat → Int) (k : Nat) {ms : List Nat} (h : ms ≠ []) : attempts sts k ms ≠ [] := by
  obtain ⟨m, ms, rfl⟩ := List.exists_cons_of_ne_nil h
  simp [attempts]

/-- Some and all are the same of the results exactly if they are uniform. -/
theorem some_iff_all {bs : List Bool} (h : bs ≠ []) :
    (true ∈ bs ↔ ∀ b ∈ bs, b = true) ↔ (∀ b ∈ bs, b = true) ∨ ∀ b ∈ bs, b = false := by
  constructor
  · intro hiff
    by_cases hmem : true ∈ bs
    · exact .inl (hiff.mp hmem)
    · refine .inr fun b hb => ?_
      cases b with
      | false => rfl
      | true => exact absurd hb hmem
  · rintro (hall | hnone)
    · obtain ⟨b, hb⟩ := List.exists_mem_of_ne_nil bs h
      exact iff_of_true (hall b hb ▸ hb) hall
    · have hnot : true ∉ bs := fun hmem => absurd (hnone true hmem) (by decide)
      refine iff_of_false hnot fun hall => ?_
      obtain ⟨b, hb⟩ := List.exists_mem_of_ne_nil bs h
      exact hnot (hall b hb ▸ hb)

/-- **The entry that is matched**: its status says whether all calls succeeded exactly if its sub-patterns are
uniform. -/
theorem changeSubPatterns_truthful_iff {active : List DisplayDevice} {p : Pattern} (sts : Nat → Int) (name : Str)
    (enable : Bool) (hne : active ≠ []) (hsubs : p.displaysToMatch ≠ []) :
    ((changeSubPatterns sts p name active enable p.displaysToMatch [] 1).2 = 0 ↔
      AllSucceeded (changeSubPatterns sts p name active enable p.displaysToMatch [] 1).1) ↔
    (∀ b ∈ attempts sts 0 (p.displaysToMatch.map (displayCount p name active)), b = true) ∨
      ∀ b ∈ attempts sts 0 (p.displaysToMatch.map (displayCount p name active)), b = false := by
  obtain ⟨hzero, hsucc⟩ := changeSubPatterns_spec sts p name enable hne p.displaysToMatch [] 1 (.inr rfl)
  have hnil : AllSucceeded [] := fun _ hc => absurd hc List.not_mem_nil
  rw [or_iff_right (by decide)] at hzero
  rw [and_iff_right hnil] at hsucc
  rw [hzero, hsucc]
  apply some_iff_all
  apply attempts_ne_nil
  simpa using hsubs

/-- **The status**: for every string, table of entries with sub-patterns, listing, non-empty list of displays and all
statuses of the calls, what is returned is truthful exactly under the condition. -/
theorem status_truthful_iff (sts : Nat → Int) (table : List Pattern) (l : Listing) (pattern : Str)
    (active : List DisplayDevice) (enable : Bool) (hsubs : ∀ p ∈ table, p.displaysToMatch ≠ []) (hne : active ≠ []) :
    Truthful sts table l pattern active enable ↔ Uniform sts table l (stringToLowerCase pattern) active := by
  unfold Truthful enableDisableDisplayManager
  by_cases hconv : Convertible l (stringToLowerCase pattern) table
  · rw [managerLoop_eq hconv]
    cases hchosen : chosen l (stringToLowerCase pattern) table with
    | none =>
      have hnamed : ¬ Named table l (stringToLowerCase pattern) := by
        rw [← chosen_isSome, hchosen]
        simp
      refine iff_of_true ⟨[], 1, rfl, iff_of_false (by decide) fun h => hnamed h.1⟩ ⟨hconv, ?_⟩
      rw [hchosen]
      simp
    | some k =>
      obtain ⟨p, name⟩ := k
      have hnamed : Named table l (stringToLowerCase pattern) := by
        rw [← chosen_isSome, hchosen]
        rfl
      have htruthful := changeSubPatterns_truthful_iff sts name enable hne (hsubs p (mem_of_chosen hchosen))
      constructor
      · rintro ⟨log, status, heq, hiff⟩
        have hrun : changeSubPatterns sts p name active enable p.displaysToMatch [] 1 = (log, status) :=
          Except.ok.inj heq
        rw [hrun] at htruthful
        refine ⟨hconv, fun p' name' hchosen' => ?_⟩
        obtain ⟨rfl, rfl⟩ := Prod.mk.inj (Option.some.inj (hchosen.symm.trans hchosen'))
        exact htruthful.mp (hiff.trans (and_iff_right hnamed))
      · intro h
        refine ⟨_, _, rfl, ?_⟩
        rw [and_iff_right hnamed]
        exact htruthful.mpr (h.uniform p name hchosen)
  · rw [managerLoop_error hconv]
    refine iff_of_false ?_ fun h => hconv h.convertible
    rintro ⟨log, status, h, -⟩
    cases h

/-- The first call fails (`DISP_CHANGE_FAILED`), and no other. -/
def firstFails (k : Nat) : Int := if k = 0 then -1 else 0

def idd : Pattern := ⟨"idd".toList, ["Intel IddSampleDriver Device".toList], false, .description⟩

/-- An abbreviation with one sub-pattern reports the change that failed. -/
theorem idd_status_truthful :
    Truthful firstFails [idd] .empty "IDD".toList [⟨"DISPLAY1".toList, "Intel IddSampleDriver Device".toList, []⟩] false := by
  refine (status_truthful_iff _ _ _ _ _ _ (by decide) (by decide)).mpr ⟨⟨by decide, fun _ => trivial⟩, ?_⟩
  intro p name h
  obtain ⟨rfl, rfl⟩ : idd = p ∧ [] = name := Prod.mk.inj (Option.some.inj h)
  decide

/-- `virtio` of the tool's table, with two sub-patterns. -/
def virtio : Pattern :=
  ⟨"virtio".toList, ["Red Hat VirtIO GPU DOD controller".toList, "Red Hat QXL controller".toList], false, .description⟩

def virtioDisplay : DisplayDevice := ⟨"DISPLAY1".toList, "Red Hat VirtIO GPU DOD controller".toList, []⟩

/-- **A failed change is reported as a success**: the display's change fails, the second sub-pattern matches no display
and its apply call succeeds, and `1 & -1 & 0` is returned. -/
theorem virtio_failure_hidden :
    virtio ∈ supportedEnableDisablePatterns ∧
    (enableDisableDisplayManager firstFails [virtio] .empty "virtio".toList [virtioDisplay] false).map
      (fun r => (r.1.map Call.status, r.2)) = .ok ([-1, 0], 0) ∧
    ¬ Truthful firstFails [virtio] .empty "virtio".toList [virtioDisplay] false := by
  have hrun : (enableDisableDisplayManager firstFails [virtio] .empty "virtio".toList [virtioDisplay] false).map
      (fun r => (r.1.map Call.status, r.2)) = .ok ([-1, 0], 0) := rfl
  refine ⟨by decide, hrun, ?_⟩
  rintro ⟨log, status, heq, hiff⟩
  rw [heq] at hrun
  obtain ⟨hstatuses, rfl⟩ := Prod.mk.inj (Except.ok.inj hrun)
  have hall := (hiff.mp rfl).2
  have hmem : (-1 : Int) ∈ log.map Call.status := by
    rw [hstatuses]
    decide
  obtain ⟨c, hc, hstatus⟩ := List.mem_map.mp hmem
  rw [hall c hc] at hstatus
  exact absurd hstatus (by decide)

end CloudStreaming.Setup.Displays
