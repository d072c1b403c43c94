import CloudStreaming.Setup.Utility

/-!
# Displays by pattern (`apps/idd-setup-tool/RearrangeDisplays.cpp:185-221`, `:398-525`)

`CheckEnableDisablePatternMatches` lists a display under the patterns it matches, with a number each, when the displays
are enumerated. `EnableDisableDisplayManager` takes an abbreviation, or an abbreviation and a number, and changes the
displays that `EnableDisableDisplay` matches once more, by itself. The two matches differ: the listing also looks for a
pattern of vendor and device ids in the description, and a display is found by its name wherever the name is the
beginning of the one that is listed.

| here | there |
| --- | --- |
| `DisplayDevice` | `DISPLAY_DEVICE`, with what `LookupDeviceIDForDisplay` finds for its `DeviceKey` |
| `Pattern`       | `EnableDisablePatternStruct`; `AdaptersToMatch` is not read here |
| `Listing`       | `PatternMatchCounts` and `DeviceNamesForIndexedPatterns` |
| `sts`           | the statuses `ChangeDisplaySettingsEx` returns, call by call |
| `Call`          | a call of `ChangeDisplaySettingsEx`; `none` is the one that applies the others |

What is printed is left out, and of a `DEVMODE` all but its width and height.
-/

namespace CloudStreaming.Setup.Displays

open Substrings

structure DisplayDevice where
  deviceName : Str
  deviceString : Str
  deviceId : Str
deriving DecidableEq

inductive PatternType where
  | description
  | vendorAndDeviceId
deriving DecidableEq

structure Pattern where
  abbreviation : Str
  displaysToMatch : List Str
  isAnInvertedTarget : Bool
  patternType : PatternType
deriving DecidableEq

/-- `SupportedEnableDisablePatterns` (`Utility.h:107-117`). -/
def supportedEnableDisablePatterns : List Pattern :=
  [⟨"flex".toList, [], false, .vendorAndDeviceId⟩,
   ⟨"non-flex".toList, ["VEN_8086&DEV_56C1".toList, "VEN_8086&DEV_56C1".toList], true, .vendorAndDeviceId⟩,
   ⟨"idd".toList, ["Intel IddSampleDriver Device".toList], false, .description⟩,
   ⟨"non-idd".toList, ["Intel IddSampleDriver Device".toList], true, .description⟩,
   ⟨"msft".toList, ["Microsoft Basic Display".toList], false, .description⟩,
   ⟨"virtio".toList, ["Red Hat VirtIO GPU DOD controller".toList, "Red Hat QXL controller".toList], false,
     .description⟩]

/-- `DisplayToResolutionMap` (`Utility.h:125-132`). -/
def displayToResolutionMap (sub : Str) : Option (Nat × Nat × PatternType) :=
  [("VEN_8086&DEV_56C0".toList, 1920, 1080, .vendorAndDeviceId),
   ("VEN_8086&DEV_56C1".toList, 1920, 1080, .vendorAndDeviceId),
   ("Intel IddSampleDriver Device".toList, 1920, 1080, .description),
   ("Microsoft Basic Display".toList, 1024, 768, .description),
   ("Red Hat VirtIO GPU DOD controller".toList, 1280, 1024, .description),
   ("Red Hat QXL controller".toList, 1024, 768, .description)].lookup sub

/-! ## The listing -/

structure Listing where
  patternMatchCounts : Str → Option Nat
  deviceNamesForIndexedPatterns : Str → List Str
  counts : ∀ a, (patternMatchCounts a).getD 0 = (deviceNamesForIndexedPatterns a).length

namespace Listing

def empty : Listing := ⟨fun _ => none, fun _ => [], fun _ => rfl⟩

/-- A display is counted and its name kept (`:207-213`). -/
def add (l : Listing) (a name : Str) : Listing where
  patternMatchCounts :=
    match l.patternMatchCounts a with
    | none => Function.update l.patternMatchCounts a (some 1)
    | some n => Function.update l.patternMatchCounts a (some (n + 1))
  deviceNamesForIndexedPatterns :=
    match l.patternMatchCounts a with
    | none => Function.update l.deviceNamesForIndexedPatterns a ([] ++ [name])
    | some _ => Function.update l.deviceNamesForIndexedPatterns a (l.deviceNamesForIndexedPatterns a ++ [name])
  counts := by
    intro b
    have ha := l.counts a
    have hb := l.counts b
    cases hcount : l.patternMatchCounts a with
    | none =>
      by_cases hba : b = a
      · subst hba
        simp
      · simpa [Function.update_of_ne hba] using hb
    | some n =>
      by_cases hba : b = a
      · subst hba
        rw [hcount] at ha
        simpa using ha
      · simpa [Function.update_of_ne hba] using hb

end Listing

/-- A sub-pattern matches a display in the listing (`:191-202`). -/
def listedBy (p : Pattern) (d : DisplayDevice) (sub : Str) : Bool :=
  let byDescription := checkIfStringContainsPattern d.deviceString sub true != p.isAnInvertedTarget
  let byId := checkIfStringContainsPattern d.deviceId sub true != p.isAnInvertedTarget
  if byDescription then true
  else if p.patternType = .description ∧ byDescription then true
  else if p.patternType = .vendorAndDeviceId ∧ byId then true
  else false

/-- `CheckEnableDisablePatternMatches` (`:185`). -/
def checkEnableDisablePatternMatches (table : List Pattern) (l : Listing) (d : DisplayDevice) : Listing :=
  table.foldl (fun l p => if p.displaysToMatch.any (listedBy p d) then l.add p.abbreviation d.deviceName else l) l

/-- The listing after the displays are enumerated (`:255-281`). -/
def queryListing (table : List Pattern) (displays : List DisplayDevice) : Listing :=
  displays.foldl (checkEnableDisablePatternMatches table) .empty

/-! ## The changes -/

structure Call where
  device : Option Str
  width : Nat
  height : Nat
  status : Int

/-- `display_target_info_t`. -/
structure TargetInfo where
  pattern : Str
  isAnInvertedTarget : Bool
  targetDeviceName : Str
  patternType : PatternType
  defaultWidth : Nat
  defaultHeight : Nat

/-- `ChangeDisplaySettingsEx`: the call, with its status, behind the ones before. -/
def changeDisplaySettingsEx (sts : Nat → Int) (log : List Call) (device : Option Str) (width height : Nat) :
    List Call × Int :=
  (log ++ [⟨device, width, height, sts log.length⟩], sts log.length)

/-- `CheckAndPrintDisplayChangeStatus`: `DISP_CHANGE_SUCCESSFUL` is zero. -/
def checkAndPrintDisplayChangeStatus (status : Int) : Bool := status = 0

/-- `is_match` (`:406-413`). -/
def isMatch (t : TargetInfo) (d : DisplayDevice) : Bool :=
  if t.patternType = .description ∧ checkIfStringContainsPattern d.deviceString t.pattern true ≠ t.isAnInvertedTarget
  then true
  else if t.patternType = .vendorAndDeviceId ∧ checkIfStringContainsPattern d.deviceId t.pattern true ≠ t.isAnInvertedTarget
  then true
  else false

/-- The loop over the displays (`:404-431`): `false` is the return at a failed change. -/
def changeEach (sts : Nat → Int) (t : TargetInfo) : List DisplayDevice → List Call → List Call × Bool
  | [], log => (log, true)
  | d :: ds, log =>
    if isMatch t d then
      if 0 < t.targetDeviceName.length ∧ find t.targetDeviceName d.deviceName ≠ some 0 then changeEach sts t ds log
      else
        let (log, ret) := changeDisplaySettingsEx sts log (some d.deviceName) t.defaultWidth t.defaultHeight
        if checkAndPrintDisplayChangeStatus ret then changeEach sts t ds log else (log, false)
    else changeEach sts t ds log

/-- `EnableDisableDisplay` (`:398`). -/
def enableDisableDisplay (sts : Nat → Int) (active : List DisplayDevice) (t : TargetInfo) (log : List Call) :
    List Call × Int32 :=
  if active.isEmpty then (log, -1)
  else
    match changeEach sts t active log with
    | (log, false) => (log, -1)
    | (log, true) =>
      let (log, ret) := changeDisplaySettingsEx sts log none 0 0
      if checkAndPrintDisplayChangeStatus ret then (log, 0) else (log, -1)

/-- The width and height of a change (`:497-507`). -/
def defaultSize (p : Pattern) (sub : Str) (enable : Bool) : Nat × Nat :=
  if enable then
    match displayToResolutionMap sub with
    | some (width, height, type) => if type = p.patternType then (width, height) else (1920, 1080)
    | none => (1920, 1080)
  else (0, 0)

/-- `target_info` (`:491-507`). -/
def targetInfo (p : Pattern) (name : Str) (enable : Bool) (sub : Str) : TargetInfo :=
  { pattern := sub
    isAnInvertedTarget := p.isAnInvertedTarget
    targetDeviceName := name
    patternType := p.patternType
    defaultWidth := (defaultSize p sub enable).1
    defaultHeight := (defaultSize p sub enable).2 }

/-- The loop over the sub-patterns (`:490-509`). -/
def changeSubPatterns (sts : Nat → Int) (p : Pattern) (name : Str) (active : List DisplayDevice) (enable : Bool) :
    List Str → List Call → Int32 → List Call × Int32
  | [], log, status => (log, status)
  | sub :: subs, log, status =>
    let (log, ret) := enableDisableDisplay sts active (targetInfo p name enable sub) log
    changeSubPatterns sts p name active enable subs log (status &&& ret)

/-- `is_a_full_match` and `target_device_name` (`:457-487`). -/
def fullMatch (l : Listing) (pattern : Str) (p : Pattern) : Except Fault (Option Str) :=
  if find pattern p.abbreviation = some 0 then
    if p.abbreviation.length < pattern.length then
      let indexString := pattern.drop p.abbreviation.length
      if indexString.all Char.isDigit then do
        let targetIndex ← stoi indexString
        if targetIndex < 1 ∨ ((l.patternMatchCounts p.abbreviation).getD 0 : Int) < targetIndex then .ok none
        else
          match (l.deviceNamesForIndexedPatterns p.abbreviation)[targetIndex.toNat - 1]? with
          | some name => .ok (some name)
          | none => .error .vectorIndex
      else .ok none
    else .ok (some [])
  else .ok none

/-- The loop over the patterns (`:457-513`). -/
def managerLoop (sts : Nat → Int) (l : Listing) (pattern : Str) (active : List DisplayDevice) (enable : Bool) :
    List Pattern → Except Fault (List Call × Int32)
  | [] => .ok ([], 1)
  | p :: ps => do
    match ← fullMatch l pattern p with
    | some name => .ok (changeSubPatterns sts p name active enable p.displaysToMatch [] 1)
    | none => managerLoop sts l pattern active enable ps

/-- `EnableDisableDisplayManager` (`:446`). -/
def enableDisableDisplayManager (sts : Nat → Int) (table : List Pattern) (l : Listing) (pattern : Str)
    (active : List DisplayDevice) (enable : Bool) : Except Fault (List Call × Int32) :=
  managerLoop sts l (stringToLowerCase pattern) active enable table

/-! ## The displays a sub-pattern changes -/

/-- A sub-pattern matches a display in `EnableDisableDisplay`. -/
def actsBy (p : Pattern) (d : DisplayDevice) (sub : Str) : Bool :=
  match p.patternType with
  | .description => checkIfStringContainsPattern d.deviceString sub true != p.isAnInvertedTarget
  | .vendorAndDeviceId => checkIfStringContainsPattern d.deviceId sub true != p.isAnInvertedTarget

/-- It is changed, if the change is for the display `name`; the empty name is every display's. -/
def chosenBy (p : Pattern) (name sub : Str) (d : DisplayDevice) : Bool :=
  actsBy p d sub && decide (name = [] ∨ d.deviceName <+: name)

/-- Each of the displays is changed, up to a change that fails. -/
def changeAll (sts : Nat → Int) (width height : Nat) : List DisplayDevice → List Call → List Call × Bool
  | [], log => (log, true)
  | d :: ds, log =>
    let (log, ret) := changeDisplaySettingsEx sts log (some d.deviceName) width height
    if checkAndPrintDisplayChangeStatus ret then changeAll sts width height ds log else (log, false)

section
variable {sts : Nat → Int} {p : Pattern} {name : Str} {enable : Bool} {sub : Str}

theorem isMatch_targetInfo (d : DisplayDevice) : isMatch (targetInfo p name enable sub) d = actsBy p d sub := by
  unfold isMatch actsBy targetInfo
  cases p.patternType with
  | description =>
    generalize checkIfStringContainsPattern d.deviceString sub true = b
    cases b <;> cases p.isAnInvertedTarget <;> rfl
  | vendorAndDeviceId =>
    generalize checkIfStringContainsPattern d.deviceId sub true = b
    cases b <;> cases p.isAnInvertedTarget <;> rfl

/-- The displays that are passed over do not matter. -/
theorem changeEach_eq (active : List DisplayDevice) (log : List Call) :
    changeEach sts (targetInfo p name enable sub) active log =
      changeAll sts (defaultSize p sub enable).1 (defaultSize p sub enable).2 (active.filter (chosenBy p name sub)) log := by
  induction active generalizing log with
  | nil => rfl
  | cons d ds ih =>
    rw [changeEach, isMatch_targetInfo]
    have hname : (0 < name.length ∧ find name d.deviceName ≠ some 0) ↔ ¬ (name = [] ∨ d.deviceName <+: name) := by
      rw [not_or, ← find_eq_zero, List.length_pos_iff]
    by_cases hacts : actsBy p d sub
    · rw [if_pos hacts]
      by_cases hin : name = [] ∨ d.deviceName <+: name
      · have hchosen : chosenBy p name sub d := by simp [chosenBy, hacts, hin]
        rw [if_neg (by simpa only [targetInfo, hname, not_not] using hin), List.filter_cons_of_pos hchosen, changeAll]
        simp only [ih]
        rfl
      · have hchosen : ¬ chosenBy p name sub d := by simp [chosenBy, hacts, hin]
        rw [if_pos (by simpa only [targetInfo, hname] using hin), List.filter_cons_of_neg hchosen, ih]
    · have hchosen : ¬ chosenBy p name sub d := by simp [chosenBy, hacts]
      rw [if_neg hacts, List.filter_cons_of_neg hchosen, ih]

end

/-! ## The entry that is matched -/

/-- The string is the abbreviation and digits, perhaps none. -/
def Extends (a s : Str) : Prop := a <+: s ∧ (s.drop a.length).all Char.isDigit

instance (a s : Str) : Decidable (Extends a s) := inferInstanceAs (Decidable (_ ∧ _))

/-- The name a full match is for, if it is one: the empty name without an index. -/
def target (l : Listing) (s : Str) (p : Pattern) : Option Str :=
  let ds := s.drop p.abbreviation.length
  if Extends p.abbreviation s then
    if ds = [] then some []
    else if 1 ≤ decimal ds then (l.deviceNamesForIndexedPatterns p.abbreviation)[decimal ds - 1]? else none
  else none

/-- The index does not fit an `int`. -/
def Huge (s : Str) (p : Pattern) : Prop :=
  Extends p.abbreviation s ∧ s.drop p.abbreviation.length ≠ [] ∧ 2147483647 < decimal (s.drop p.abbreviation.length)

instance (s : Str) (p : Pattern) : Decidable (Huge s p) := inferInstanceAs (Decidable (_ ∧ _ ∧ _))

theorem fullMatch_eq (l : Listing) (s : Str) (p : Pattern) :
    fullMatch l s p = if Huge s p then .error .outOfRange else .ok (target l s p) := by
  unfold fullMatch
  by_cases hstart : p.abbreviation <+: s
  · rw [if_pos (find_eq_zero.mpr hstart)]
    by_cases hlen : p.abbreviation.length < s.length
    · have hne : s.drop p.abbreviation.length ≠ [] := by
        rw [ne_eq, List.drop_eq_nil_iff]
        omega
      rw [if_pos hlen]
      by_cases hds : (s.drop p.abbreviation.length).all Char.isDigit
      · have hext : Extends p.abbreviation s := ⟨hstart, hds⟩
        simp only [if_pos hds, stoi_digits hne hds]
        by_cases hle : decimal (s.drop p.abbreviation.length) ≤ 2147483647
        · rw [if_pos hle, if_neg (fun h : Huge s p => absurd h.2.2 (by omega))]
          simp only [ok_bind, l.counts, target, if_pos hext, if_neg hne]
          by_cases hpos : 1 ≤ decimal (s.drop p.abbreviation.length)
          · rw [if_pos hpos]
            by_cases hcount : decimal (s.drop p.abbreviation.length) ≤
                (l.deviceNamesForIndexedPatterns p.abbreviation).length
            · rw [if_neg (by omega), Int.toNat_natCast, List.getElem?_eq_getElem (by omega)]
            · rw [if_pos (by omega), List.getElem?_eq_none (by omega)]
          · rw [if_pos (by omega), if_neg hpos]
        · rw [if_neg hle, if_pos ⟨hext, hne, by omega⟩]
          rfl
      · have hext : ¬ Extends p.abbreviation s := fun h => hds h.2
        simp only [if_neg hds, if_neg (fun h : Huge s p => hext h.1), target, if_neg hext]
    · have hnil : s.drop p.abbreviation.length = [] := List.drop_eq_nil_iff.mpr (by omega)
      have hext : Extends p.abbreviation s := ⟨hstart, by rw [hnil]; rfl⟩
      rw [if_neg hlen, if_neg (fun h : Huge s p => h.2.1 hnil)]
      simp only [target, if_pos hext, if_pos hnil]
  · have hext : ¬ Extends p.abbreviation s := fun h => hstart h.1
    rw [if_neg (fun h => hstart (find_eq_zero.mp h)), if_neg (fun h : Huge s p => hext h.1)]
    simp only [target, if_neg hext]

/-- The first entry that is matched, and the name it is matched for. -/
def chosen (l : Listing) (s : Str) (table : List Pattern) : Option (Pattern × Str) :=
  table.findSome? fun p => (target l s p).map fun name => (p, name)

/-- No entry before the one that is matched, and not that one, has an index that does not fit an `int`. -/
def Convertible (l : Listing) (s : Str) : List Pattern → Prop
  | [] => True
  | p :: ps => ¬ Huge s p ∧ (target l s p = none → Convertible l s ps)

theorem managerLoop_eq {sts : Nat → Int} {l : Listing} {s : Str} {active : List DisplayDevice} {enable : Bool} :
    ∀ {table : List Pattern}, Convertible l s table →
      managerLoop sts l s active enable table = .ok (match chosen l s table with
        | some (p, name) => changeSubPatterns sts p name active enable p.displaysToMatch [] 1
        | none => ([], 1))
  | [], _ => rfl
  | p :: ps, h => by
    rw [managerLoop, fullMatch_eq, if_neg h.1]
    simp only [ok_bind, chosen, List.findSome?_cons]
    cases htarget : target l s p with
    | some name => rfl
    | none => exact managerLoop_eq (h.2 htarget)

theorem managerLoop_error {sts : Nat → Int} {l : Listing} {s : Str} {active : List DisplayDevice} {enable : Bool} :
    ∀ {table : List Pattern}, ¬ Convertible l s table →
      managerLoop sts l s active enable table = .error .outOfRange
  | [], h => absurd trivial h
  | p :: ps, h => by
    rw [managerLoop, fullMatch_eq]
    by_cases hhuge : Huge s p
    · rw [if_pos hhuge]
      rfl
    · rw [if_neg hhuge]
      have hnext : target l s p = none ∧ ¬ Convertible l s ps := by
        by_contra hnot
        refine h ⟨hhuge, fun htarget => ?_⟩
        by_contra hps
        exact hnot ⟨htarget, hps⟩
      rw [hnext.1]
      exact managerLoop_error hnext.2

/-! ## Well-named tables -/

/-- Abbreviations are in lower case, and none is another one followed by digits. -/
structure WellNamed (table : List Pattern) : Prop where
  lower : ∀ p ∈ table, stringToLowerCase p.abbreviation = p.abbreviation
  apart : table.Pairwise fun p q => ¬ Extends p.abbreviation q.abbreviation ∧ ¬ Extends q.abbreviation p.abbreviation

theorem extends_append {a ds : Str} (h : ds.all Char.isDigit) : Extends a (a ++ ds) :=
  ⟨List.prefix_append a ds, by rwa [List.drop_left]⟩

theorem extends_refl (a : Str) : Extends a a := ⟨List.prefix_refl a, by rw [List.drop_length]; rfl⟩

/-- What an abbreviation with digits extends is not apart from the abbreviation. -/
theorem extends_cases {a b ds : Str} (h : Extends b (a ++ ds)) (hds : ds.all Char.isDigit) :
    Extends b a ∨ Extends a b := by
  obtain ⟨hstart, hdigits⟩ := h
  rcases List.prefix_or_prefix_of_prefix hstart (List.prefix_append a ds) with hba | hab
  · -- the rest is digits, so what is behind `b` in `a` is
    obtain ⟨x, rfl⟩ := hba
    refine .inl (extends_append ?_)
    rw [List.append_assoc, List.drop_left, List.all_append, Bool.and_eq_true] at hdigits
    exact hdigits.1
  · obtain ⟨y, rfl⟩ := hab
    refine .inr (extends_append ?_)
    obtain ⟨z, hz⟩ := hstart
    rw [List.append_assoc, List.append_cancel_left_eq] at hz
    rw [← hz, List.all_append, Bool.and_eq_true] at hds
    exact hds.1

theorem toLower_of_isDigit {c : Char} (h : c.isDigit) : c.toLower = c := by
  obtain ⟨-, h9⟩ : 48 ≤ c.toNat ∧ c.toNat ≤ 57 := by simpa [Char.isDigit, UInt32.le_iff_toNat_le] using h
  have hnot : ¬ (c.val ≥ 'A'.val ∧ c.val ≤ 'Z'.val) := by
    rintro ⟨hA, -⟩
    have hA : 65 ≤ c.toNat := UInt32.le_iff_toNat_le.mp hA
    omega
  exact dif_neg hnot

theorem stringToLowerCase_digits {ds : Str} (h : ds.all Char.isDigit) : stringToLowerCase ds = ds := by
  rw [stringToLowerCase]
  conv_rhs => rw [← List.map_id ds]
  apply List.map_congr_left
  intro c hc
  exact toLower_of_isDigit (List.all_eq_true.mp h c hc)

section
variable {table pre post : List Pattern} {p : Pattern} {l : Listing} {ds : Str}

/-- The entries before and behind one. -/
theorem WellNamed.split (hw : WellNamed (pre ++ p :: post)) :
    (∀ q ∈ pre, ¬ Extends q.abbreviation p.abbreviation ∧ ¬ Extends p.abbreviation q.abbreviation) ∧
    ∀ q ∈ post, ¬ Extends q.abbreviation p.abbreviation ∧ ¬ Extends p.abbreviation q.abbreviation := by
  obtain ⟨-, hpost, hcross⟩ := List.pairwise_append.mp hw.apart
  refine ⟨fun q hq => hcross q hq p List.mem_cons_self, fun q hq => ?_⟩
  exact (List.rel_of_pairwise_cons hpost hq).symm

theorem WellNamed.lower_append (hw : WellNamed table) (hp : p ∈ table) (hds : ds.all Char.isDigit) :
    stringToLowerCase (p.abbreviation ++ ds) = p.abbreviation ++ ds := by
  have hlower := hw.lower p hp
  have hdigits := stringToLowerCase_digits hds
  unfold stringToLowerCase at hlower hdigits ⊢
  rw [List.map_append, hlower, hdigits]

/-- Entries that the string does not extend are passed over. -/
theorem managerLoop_skip {sts : Nat → Int} {s : Str} {active : List DisplayDevice} {enable : Bool} {rest : List Pattern} :
    ∀ {pre : List Pattern}, (∀ q ∈ pre, ¬ Extends q.abbreviation s) →
      managerLoop sts l s active enable (pre ++ rest) = managerLoop sts l s active enable rest
  | [], _ => rfl
  | q :: qs, h => by
    have hq := h q List.mem_cons_self
    have htarget : target l s q = none := by simp only [target, if_neg hq]
    rw [List.cons_append, managerLoop, fullMatch_eq, if_neg fun hhuge : Huge s q => hq hhuge.1, htarget]
    exact managerLoop_skip fun q' hq' => h q' (List.mem_cons_of_mem _ hq')

/-- **An abbreviation**, perhaps with digits, is matched at its own entry. -/
theorem WellNamed.manager_eq (hw : WellNamed table) (hp : p ∈ table) (hds : ds.all Char.isDigit) {sts : Nat → Int}
    {active : List DisplayDevice} {enable : Bool} :
    (2147483647 < decimal ds →
      enableDisableDisplayManager sts table l (p.abbreviation ++ ds) active enable = .error .outOfRange) ∧
    (decimal ds ≤ 2147483647 → ∀ name, target l (p.abbreviation ++ ds) p = some name →
      enableDisableDisplayManager sts table l (p.abbreviation ++ ds) active enable =
        .ok (changeSubPatterns sts p name active enable p.displaysToMatch [] 1)) := by
  obtain ⟨pre, post, rfl⟩ := List.append_of_mem hp
  have hskip : ∀ q ∈ pre, ¬ Extends q.abbreviation (p.abbreviation ++ ds) := by
    intro q hq hext
    obtain ⟨hqp, hpq⟩ := hw.split.1 q hq
    exact (extends_cases hext hds).elim hqp hpq
  have hdrop : (p.abbreviation ++ ds).drop p.abbreviation.length = ds := List.drop_left
  rw [enableDisableDisplayManager, hw.lower_append hp hds, managerLoop_skip hskip, managerLoop, fullMatch_eq]
  constructor
  · intro hgt
    have hne := ne_nil_of_decimal (Nat.zero_lt_of_lt hgt)
    have hhuge : Huge (p.abbreviation ++ ds) p := ⟨extends_append hds, by rwa [hdrop], by rwa [hdrop]⟩
    rw [if_pos hhuge]
    rfl
  · intro hle name htarget
    have hhuge : ¬ Huge (p.abbreviation ++ ds) p := by
      rintro ⟨-, -, hgt⟩
      rw [hdrop] at hgt
      omega
    rw [if_neg hhuge, htarget]
    rfl

theorem target_append (hds : ds.all Char.isDigit) :
    target l (p.abbreviation ++ ds) p =
      if ds = [] then some []
      else if 1 ≤ decimal ds then (l.deviceNamesForIndexedPatterns p.abbreviation)[decimal ds - 1]? else none := by
  have hdrop : (p.abbreviation ++ ds).drop p.abbreviation.length = ds := List.drop_left
  simp only [target, if_pos (extends_append hds), hdrop]

end

/-! ## The names that are listed -/

/-- A display is listed under a pattern. -/
def listed (p : Pattern) (d : DisplayDevice) : Bool := p.displaysToMatch.any (listedBy p d)

/-- A display is changed by a pattern. -/
def acted (p : Pattern) (d : DisplayDevice) : Bool := p.displaysToMatch.any (actsBy p d)

theorem Listing.names_add (l : Listing) (a b name : Str) :
    (l.add b name).deviceNamesForIndexedPatterns a =
      l.deviceNamesForIndexedPatterns a ++ if a = b then [name] else [] := by
  show (match l.patternMatchCounts b with
    | none => Function.update l.deviceNamesForIndexedPatterns b ([] ++ [name])
    | some _ => Function.update l.deviceNamesForIndexedPatterns b (l.deviceNamesForIndexedPatterns b ++ [name])) a = _
  by_cases hab : a = b
  · subst hab
    cases hcount : l.patternMatchCounts a with
    | none =>
      have hnil : l.deviceNamesForIndexedPatterns a = [] := by
        have := l.counts a
        rw [hcount] at this
        exact List.eq_nil_of_length_eq_zero this.symm
      simp [hnil]
    | some n => simp
  · cases hcount : l.patternMatchCounts b with
    | none => simp [hab]
    | some n => simp [hab]

theorem names_check (table : List Pattern) (l : Listing) (d : DisplayDevice) (a : Str) :
    (checkEnableDisablePatternMatches table l d).deviceNamesForIndexedPatterns a =
      l.deviceNamesForIndexedPatterns a ++
        ((table.filter fun p => decide (a = p.abbreviation) && listed p d).map fun _ => d.deviceName) := by
  unfold checkEnableDisablePatternMatches
  induction table generalizing l with
  | nil => simp
  | cons p ps ih =>
    rw [List.foldl_cons, ih]
    by_cases hlisted : listed p d
    · have hany : p.displaysToMatch.any (listedBy p d) = true := hlisted
      rw [if_pos hany, Listing.names_add]
      by_cases ha : a = p.abbreviation
      · rw [List.filter_cons_of_pos (by simp [ha, hlisted]), if_pos ha, List.append_assoc]
        rfl
      · rw [List.filter_cons_of_neg (by simp [ha]), if_neg ha, List.append_nil]
    · have hany : ¬ p.displaysToMatch.any (listedBy p d) = true := hlisted
      rw [if_neg hany, List.filter_cons_of_neg (by simp [hlisted])]

/-- In a well-named table the displays listed under a pattern are the ones that match it, in their order. -/
theorem WellNamed.names_query {table : List Pattern} {p : Pattern} (hw : WellNamed table) (hp : p ∈ table)
    (displays : List DisplayDevice) :
    (queryListing table displays).deviceNamesForIndexedPatterns p.abbreviation =
      (displays.filter (listed p)).map DisplayDevice.deviceName := by
  have hone : ∀ d : DisplayDevice,
      ((table.filter fun q => decide (p.abbreviation = q.abbreviation) && listed q d).map fun _ => d.deviceName) =
        if listed p d then [d.deviceName] else [] := by
    intro d
    obtain ⟨pre, post, rfl⟩ := List.append_of_mem hp
    obtain ⟨hpre, hpost⟩ := hw.split
    have hnone : ∀ qs : List Pattern,
        (∀ q ∈ qs, ¬ Extends q.abbreviation p.abbreviation ∧ ¬ Extends p.abbreviation q.abbreviation) →
        (qs.filter fun q => decide (p.abbreviation = q.abbreviation) && listed q d) = [] := by
      intro qs hqs
      rw [List.filter_eq_nil_iff]
      intro q hq hsel
      have heq : p.abbreviation = q.abbreviation := by
        simp only [Bool.and_eq_true, decide_eq_true_iff] at hsel
        exact hsel.1
      exact (hqs q hq).1 (heq ▸ extends_refl _)
    rw [List.filter_append, hnone pre hpre, List.nil_append]
    by_cases hlisted : listed p d
    · rw [List.filter_cons_of_pos (by simp [hlisted]), hnone post hpost, if_pos hlisted]
      rfl
    · rw [List.filter_cons_of_neg (by simp [hlisted]), hnone post hpost, if_neg hlisted]
      rfl
  have hfold : ∀ (ds : List DisplayDevice) (l : Listing),
      (ds.foldl (checkEnableDisablePatternMatches table) l).deviceNamesForIndexedPatterns p.abbreviation =
        l.deviceNamesForIndexedPatterns p.abbreviation ++ (ds.filter (listed p)).map DisplayDevice.deviceName := by
    intro ds
    induction ds with
    | nil => simp
    | cons d ds ih =>
      intro l
      rw [List.foldl_cons, ih, names_check, hone]
      by_cases hlisted : listed p d
      · rw [if_pos hlisted, List.filter_cons_of_pos hlisted, List.append_assoc]
        rfl
      · rw [if_neg hlisted, List.filter_cons_of_neg hlisted, List.append_nil]
  rw [queryListing, hfold]
  rfl

/-! ## The displays that are changed -/

/-- The call changes the display of this name. -/
def Names (n : Str) (c : Call) : Prop := c.device = some n

section
variable {p : Pattern} {name : Str} {enable : Bool} {active : List DisplayDevice} {n : Str}

theorem changeAll_succeeds (width height : Nat) :
    ∀ (ds : List DisplayDevice) (log : List Call),
      ∃ log', changeAll (fun _ => 0) width height ds log = (log', true) ∧
        ∀ n, (∃ c ∈ log', Names n c) ↔ (∃ c ∈ log, Names n c) ∨ ∃ d ∈ ds, d.deviceName = n
  | [], log => ⟨log, rfl, by simp⟩
  | d :: ds, log => by
    obtain ⟨log', heq, hmem⟩ := changeAll_succeeds width height ds (log ++ [⟨some d.deviceName, width, height, 0⟩])
    refine ⟨log', heq, fun n => ?_⟩
    rw [hmem]
    simp [Names, or_and_right, exists_or, or_assoc]

/-- A sub-pattern, where every change succeeds. -/
theorem enableDisableDisplay_succeeds (sub : Str) (log : List Call) :
    ∀ n, (∃ c ∈ (enableDisableDisplay (fun _ => 0) active (targetInfo p name enable sub) log).1, Names n c) ↔
      (∃ c ∈ log, Names n c) ∨ ∃ d ∈ active, chosenBy p name sub d ∧ d.deviceName = n := by
  intro n
  unfold enableDisableDisplay
  cases active with
  | nil => simp
  | cons d ds =>
    rw [if_neg (by simp), changeEach_eq]
    obtain ⟨log', heq, hmem⟩ := changeAll_succeeds (defaultSize p sub enable).1 (defaultSize p sub enable).2
      ((d :: ds).filter (chosenBy p name sub)) log
    have hlast : (∃ c ∈ log' ++ [Call.mk none 0 0 0], Names n c) ↔ ∃ c ∈ log', Names n c := by
      simp [Names, or_and_right, exists_or]
    simp only [heq]
    show (∃ c ∈ log' ++ [Call.mk none 0 0 0], Names n c) ↔ _
    rw [hlast, hmem]
    simp only [List.mem_filter, and_assoc]

/-- All sub-patterns, where every change succeeds. -/
theorem changeSubPatterns_succeeds :
    ∀ (subs : List Str) (log : List Call) (status : Int32),
      (∃ c ∈ (changeSubPatterns (fun _ => 0) p name active enable subs log status).1, Names n c) ↔
        (∃ c ∈ log, Names n c) ∨ ∃ sub ∈ subs, ∃ d ∈ active, chosenBy p name sub d ∧ d.deviceName = n
  | [], log, status => by simp [changeSubPatterns]
  | sub :: subs, log, status => by
    rw [changeSubPatterns, changeSubPatterns_succeeds, enableDisableDisplay_succeeds, or_assoc]
    simp

/-- From no calls: what is changed are the displays that match and are meant. -/
theorem changed_iff :
    (∃ c ∈ (changeSubPatterns (fun _ => 0) p name active enable p.displaysToMatch [] 1).1, Names n c) ↔
      ∃ d ∈ active, acted p d ∧ (name = [] ∨ d.deviceName <+: name) ∧ d.deviceName = n := by
  rw [changeSubPatterns_succeeds]
  simp only [List.not_mem_nil, false_and, exists_false, false_or, chosenBy, acted, Bool.and_eq_true,
    decide_eq_true_iff, List.any_eq_true]
  constructor
  · rintro ⟨sub, hsub, d, hd, ⟨hacts, hname⟩, hn⟩
    exact ⟨d, hd, ⟨sub, hsub, hacts⟩, hname, hn⟩
  · rintro ⟨d, hd, ⟨sub, hsub, hacts⟩, hname, hn⟩
    exact ⟨sub, hsub, d, hd, ⟨hacts, hname⟩, hn⟩

end

/-! ## Listing and acting -/

/-- The manager changes the display of this name, where every change succeeds. -/
def Changes (table : List Pattern) (l : Listing) (s : Str) (active : List DisplayDevice) (enable : Bool) (n : Str) :
    Prop :=
  ∃ log status, enableDisableDisplayManager (fun _ => 0) table l s active enable = .ok (log, status) ∧
    ∃ c ∈ log, Names n c

/-- The displays that are listed under a pattern are the ones its abbreviation changes, and the abbreviation with an
index changes the one with that number in the list, and no other. -/
def Agrees (table : List Pattern) (displays : List DisplayDevice) : Prop :=
  ∀ p ∈ table, ∀ enable : Bool,
    (∀ d ∈ displays,
      d.deviceName ∈ (queryListing table displays).deviceNamesForIndexedPatterns p.abbreviation ↔
        Changes table (queryListing table displays) p.abbreviation displays enable d.deviceName) ∧
    ∀ index : Str, index.all Char.isDigit → 1 ≤ decimal index → ∀ n,
      ((queryListing table displays).deviceNamesForIndexedPatterns p.abbreviation)[decimal index - 1]? = some n →
        ∀ m, Changes table (queryListing table displays) (p.abbreviation ++ index) displays enable m ↔ m = n

/-- **When listing and acting agree**: no display has its description match a pattern of ids that its id does not match;
of the displays that match a pattern none has a name that another one's begins with; and there are fewer than `2^31`
of them. -/
structure Consistent (table : List Pattern) (displays : List DisplayDevice) : Prop where
  ids : ∀ p ∈ table, p.patternType = .vendorAndDeviceId → ∀ d ∈ displays,
    (∃ sub ∈ p.displaysToMatch, checkIfStringContainsPattern d.deviceString sub true ≠ p.isAnInvertedTarget) →
      ∃ sub ∈ p.displaysToMatch, checkIfStringContainsPattern d.deviceId sub true ≠ p.isAnInvertedTarget
  names : ∀ p ∈ table, ∀ d ∈ displays, ∀ d' ∈ displays, acted p d → acted p d' →
    d.deviceName <+: d'.deviceName → d = d'
  few : ∀ p ∈ table, (displays.filter (acted p)).length < 2147483648

theorem listed_iff (p : Pattern) (d : DisplayDevice) :
    listed p d ↔ acted p d ∨ (p.patternType = .vendorAndDeviceId ∧
      ∃ sub ∈ p.displaysToMatch, checkIfStringContainsPattern d.deviceString sub true ≠ p.isAnInvertedTarget) := by
  have hsub : ∀ sub, listedBy p d sub ↔ actsBy p d sub ∨ (p.patternType = .vendorAndDeviceId ∧
      checkIfStringContainsPattern d.deviceString sub true ≠ p.isAnInvertedTarget) := by
    intro sub
    unfold listedBy actsBy
    generalize checkIfStringContainsPattern d.deviceString sub true = a
    generalize checkIfStringContainsPattern d.deviceId sub true = b
    cases p.patternType <;> cases a <;> cases b <;> cases p.isAnInvertedTarget <;> decide
  simp only [listed, acted, List.any_eq_true, hsub]
  constructor
  · rintro ⟨sub, hmem, h | ⟨htype, h⟩⟩
    · exact .inl ⟨sub, hmem, h⟩
    · exact .inr ⟨htype, sub, hmem, h⟩
  · rintro (⟨sub, hmem, h⟩ | ⟨htype, sub, hmem, h⟩)
    · exact ⟨sub, hmem, .inl h⟩
    · exact ⟨sub, hmem, .inr ⟨htype, h⟩⟩

theorem acted_of_ids {p : Pattern} {d : DisplayDevice} (h : p.patternType = .vendorAndDeviceId) :
    acted p d ↔ ∃ sub ∈ p.displaysToMatch, checkIfStringContainsPattern d.deviceId sub true ≠ p.isAnInvertedTarget := by
  simp [acted, actsBy, h, List.any_eq_true]

section
variable {table : List Pattern} {displays : List DisplayDevice} {p : Pattern} {l : Listing} {enable : Bool} {index : Str}

/-- The manager at an entry changes what the entry changes. -/
theorem changes_of_manager {s name m : Str}
    (h : enableDisableDisplayManager (fun _ => 0) table l s displays enable =
      .ok (changeSubPatterns (fun _ => 0) p name displays enable p.displaysToMatch [] 1)) :
    Changes table l s displays enable m ↔
      ∃ d ∈ displays, acted p d ∧ (name = [] ∨ d.deviceName <+: name) ∧ d.deviceName = m := by
  rw [← changed_iff (p := p) (n := m)]
  unfold Changes
  constructor
  · rintro ⟨log, status, heq, hcalls⟩
    have hlog := Except.ok.inj (h.symm.trans heq)
    rw [hlog]
    exact hcalls
  · intro hcalls
    exact ⟨_, _, h, hcalls⟩

/-- An abbreviation changes the displays that match. -/
theorem WellNamed.changes_iff (hw : WellNamed table) (hp : p ∈ table) {m : Str} :
    Changes table l p.abbreviation displays enable m ↔ ∃ d ∈ displays, acted p d ∧ d.deviceName = m := by
  have hmanager : enableDisableDisplayManager (fun _ => 0) table l (p.abbreviation ++ []) displays enable =
      .ok (changeSubPatterns (fun _ => 0) p [] displays enable p.displaysToMatch [] 1) :=
    (hw.manager_eq hp rfl).2 (by decide) [] (by rw [target_append rfl, if_pos rfl])
  rw [List.append_nil] at hmanager
  rw [changes_of_manager hmanager]
  simp

/-- With an index, those whose names the listed one begins with. -/
theorem WellNamed.changes_index_iff (hw : WellNamed table) (hp : p ∈ table) (hindex : index.all Char.isDigit)
    (hpos : 1 ≤ decimal index) (hle : decimal index ≤ 2147483647) {n m : Str}
    (hn : (l.deviceNamesForIndexedPatterns p.abbreviation)[decimal index - 1]? = some n) :
    Changes table l (p.abbreviation ++ index) displays enable m ↔
      ∃ d ∈ displays, acted p d ∧ (n = [] ∨ d.deviceName <+: n) ∧ d.deviceName = m := by
  apply changes_of_manager
  exact (hw.manager_eq hp hindex).2 hle n
    (by rw [target_append hindex, if_neg (ne_nil_of_decimal hpos), if_pos hpos, hn])

theorem WellNamed.not_changes_of_huge (hw : WellNamed table) (hp : p ∈ table) (hindex : index.all Char.isDigit)
    (hgt : 2147483647 < decimal index) {m : Str} : ¬ Changes table l (p.abbreviation ++ index) displays enable m := by
  rintro ⟨log, status, heq, -⟩
  rw [(hw.manager_eq hp hindex).1 hgt] at heq
  cases heq

theorem eq_of_deviceName (hd : (displays.map DisplayDevice.deviceName).Nodup) {d d' : DisplayDevice}
    (hmem : d ∈ displays) (hmem' : d' ∈ displays) (h : d.deviceName = d'.deviceName) : d = d' :=
  List.inj_on_of_nodup_map hd hmem hmem' h

/-- The digits of a number. -/
theorem digits_of (k : Nat) : (Nat.toDigits 10 k).all Char.isDigit ∧ decimal (Nat.toDigits 10 k) = k :=
  ⟨List.all_eq_true.mpr fun _ hc => Nat.isDigit_of_mem_toDigits (by decide) (by decide) hc,
    Nat.ofDigitChars_ten_toDigits⟩

theorem WellNamed.names_of_listed (hw : WellNamed table) (hp : p ∈ table) (h : ∀ d ∈ displays, listed p d ↔ acted p d) :
    (queryListing table displays).deviceNamesForIndexedPatterns p.abbreviation =
      (displays.filter (acted p)).map DisplayDevice.deviceName := by
  rw [hw.names_query hp]
  congr 1
  apply List.filter_congr
  intro d hmem
  rw [Bool.eq_iff_iff]
  exact h d hmem

theorem WellNamed.agrees_of_consistent (hw : WellNamed table) (h : Consistent table displays) : Agrees table displays := by
  intro p hp enable
  have hlisted : ∀ d ∈ displays, listed p d ↔ acted p d := by
    intro d hmem
    rw [listed_iff]
    refine ⟨fun hor => hor.elim id ?_, .inl⟩
    rintro ⟨htype, hex⟩
    exact (acted_of_ids htype).mpr (h.ids p hp htype d hmem hex)
  have hnames := hw.names_of_listed hp hlisted
  constructor
  · intro d hmem
    rw [hw.changes_iff hp, hnames, List.mem_map]
    simp only [List.mem_filter, and_assoc]
  · intro index hindex hpos n hn m
    obtain ⟨d', hd', hname'⟩ : ∃ d', (displays.filter (acted p))[decimal index - 1]? = some d' ∧ d'.deviceName = n := by
      rw [hnames, List.getElem?_map] at hn
      exact Option.map_eq_some_iff.mp hn
    have hlt := (List.getElem?_eq_some_iff.mp hd').1
    have hcount := h.few p hp
    obtain ⟨hmem', hacted'⟩ := List.mem_filter.mp (List.mem_of_getElem? hd')
    rw [hw.changes_index_iff hp hindex hpos (by omega) hn]
    constructor
    · rintro ⟨d, hmem, hacted, hstart, rfl⟩
      rcases hstart with hnil | hstart
      · -- the empty name begins every other
        have heq := h.names p hp d' hmem' d hmem hacted' hacted (by rw [hname', hnil]; exact List.nil_prefix)
        rw [← heq, hname']
      · rw [← hname'] at hstart
        rw [h.names p hp d hmem d' hmem' hacted hacted' hstart, hname']
    · rintro rfl
      exact ⟨d', hmem', hacted', .inr (by rw [hname']), hname'⟩

variable (hw : WellNamed table) (hd : (displays.map DisplayDevice.deviceName).Nodup)
include hw hd

theorem listed_iff_of_agrees (h : Agrees table displays) (hp : p ∈ table) {d : DisplayDevice} (hmem : d ∈ displays) :
    listed p d ↔ acted p d := by
  refine ⟨fun hlisted => ?_, fun hacted => (listed_iff p d).mpr (.inl hacted)⟩
  have hin : d.deviceName ∈ (queryListing table displays).deviceNamesForIndexedPatterns p.abbreviation := by
    rw [hw.names_query hp]
    exact List.mem_map_of_mem (List.mem_filter.mpr ⟨hmem, hlisted⟩)
  obtain ⟨d', hmem', hacted, hname⟩ := hw.changes_iff hp |>.mp (((h p hp true).1 d hmem).mp hin)
  rwa [eq_of_deviceName hd hmem' hmem hname] at hacted

theorem consistent_of_agrees (h : Agrees table displays) : Consistent table displays := by
  have hlisted : ∀ p ∈ table, ∀ d ∈ displays, listed p d ↔ acted p d :=
    fun p hp d hmem => listed_iff_of_agrees hw hd h hp hmem
  have hfew : ∀ p ∈ table, (displays.filter (acted p)).length < 2147483648 := by
    intro p hp
    by_contra hmany
    -- the last display that is listed has a number that cannot be given
    obtain ⟨hdigits, hvalue⟩ := digits_of (displays.filter (acted p)).length
    have hnames := hw.names_of_listed hp (hlisted p hp)
    have hlast : (displays.filter (acted p)).length - 1 <
        ((queryListing table displays).deviceNamesForIndexedPatterns p.abbreviation).length := by
      rw [hnames, List.length_map]
      omega
    have hchanges := ((h p hp true).2 _ hdigits (by omega) _ (by
      rw [hvalue]
      exact List.getElem?_eq_getElem hlast) _).mpr rfl
    exact hw.not_changes_of_huge hp hdigits (by omega) hchanges
  refine ⟨fun p hp htype d hmem hex => ?_, fun p hp d hmem d' hmem' hacted hacted' hstart => ?_, hfew⟩
  · rw [← acted_of_ids htype, ← hlisted p hp d hmem, listed_iff]
    exact .inr ⟨htype, hex⟩
  · obtain ⟨i, hi⟩ := List.getElem?_of_mem (List.mem_filter.mpr ⟨hmem', hacted'⟩)
    have hlt : i < (displays.filter (acted p)).length := (List.getElem?_eq_some_iff.mp hi).1
    have hcount := hfew p hp
    obtain ⟨hdigits, hvalue⟩ := digits_of (i + 1)
    have hn : ((queryListing table displays).deviceNamesForIndexedPatterns p.abbreviation)[
        decimal (Nat.toDigits 10 (i + 1)) - 1]? = some d'.deviceName := by
      rw [hw.names_of_listed hp (hlisted p hp), hvalue, Nat.add_sub_cancel, List.getElem?_map, hi]
      rfl
    have hchanges : Changes table (queryListing table displays) (p.abbreviation ++ Nat.toDigits 10 (i + 1)) displays true
        d.deviceName :=
      (hw.changes_index_iff hp hdigits (by omega) (by omega) hn).mpr ⟨d, hmem, hacted, .inr hstart, rfl⟩
    exact eq_of_deviceName hd hmem hmem' (((h p hp true).2 _ hdigits (by omega) _ hn _).mp hchanges)

end

/-- **Listing and acting**: for every well-named table and every list of displays with distinct names, they agree exactly
if the displays are consistent with the table. -/
theorem displays_agree_iff (table : List Pattern) (displays : List DisplayDevice) (hw : WellNamed table)
    (hd : (displays.map DisplayDevice.deviceName).Nodup) : Agrees table displays ↔ Consistent table displays :=
  ⟨consistent_of_agrees hw hd, hw.agrees_of_consistent⟩

theorem supported_wellNamed : WellNamed supportedEnableDisablePatterns := ⟨by decide, by decide⟩

/-- The tool's own table, with an IDD display and a Microsoft one. -/
theorem displays_agree_two :
    Agrees supportedEnableDisablePatterns
      [⟨"DISPLAY1".toList, "Intel IddSampleDriver Device".toList, "Root\\IddSampleDriver".toList⟩,
       ⟨"DISPLAY2".toList, "Microsoft Basic Display Driver".toList, "Root\\BasicDisplay".toList⟩] :=
  (displays_agree_iff _ _ supported_wellNamed (by decide)).mpr ⟨by decide, by decide, by decide⟩

/-- A Flex display, by its id. -/
def flexDisplay : DisplayDevice :=
  ⟨"DISPLAY1".toList, "Intel(R) Data Center GPU Flex 140".toList, "PCI\\VEN_8086&DEV_56C1".toList⟩

/-- **A Flex display is listed as another**: its description is not its id, and so it is listed under `non-flex`, with a
number; the abbreviation does not change it. -/
theorem flex_listed_as_nonFlex :
    flexDisplay.deviceName ∈ (queryListing supportedEnableDisablePatterns
      [flexDisplay]).deviceNamesForIndexedPatterns "non-flex".toList ∧
    ¬ Changes supportedEnableDisablePatterns (queryListing supportedEnableDisablePatterns [flexDisplay])
      "non-flex".toList [flexDisplay] false flexDisplay.deviceName ∧
    ¬ Agrees supportedEnableDisablePatterns [flexDisplay] := by
  have hnot : ¬ Changes supportedEnableDisablePatterns (queryListing supportedEnableDisablePatterns [flexDisplay])
      "non-flex".toList [flexDisplay] false flexDisplay.deviceName := by
    have hp : supportedEnableDisablePatterns[1] ∈ supportedEnableDisablePatterns := List.getElem_mem _
    intro h
    obtain ⟨d, hmem, hacted, -⟩ := (supported_wellNamed.changes_iff hp).mp h
    obtain rfl := List.mem_singleton.mp hmem
    exact absurd hacted (by decide)
  refine ⟨by decide, hnot, fun h => ?_⟩
  have hids := (consistent_of_agrees supported_wellNamed (by decide) h).ids
  exact absurd hids (by decide)

end CloudStreaming.Setup.Displays
