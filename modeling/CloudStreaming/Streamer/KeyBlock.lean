import CloudStreaming.Lib.OrderedMap
import CloudStreaming.Streamer.Conf
import Mathlib.Data.Char
import Mathlib.Data.List.Lex

/-!
# Key blocking (`module/ctrl-sdl/ctrl-sdl.cpp:536-620`)

Two parameter maps of the configuration name keys that are not replayed: `key-block-scancode` by their scancodes, which
are 16-bit numbers, and `key-block-keycode` by their SDL keycodes, which have 32 bits. `sdlmsg_kb_init` walks both maps
through the iterator of `ga_conf_mapkey` and `ga_conf_mapnextkey` and keeps of each number an `unsigned short`, of a
keycode too (`:569`).

| here | there |
| --- | --- |
| `ParamMap` | a `gaConfVar`: its map in the order of its keys, and `mi` as a position |
| `Stop`     | a loop that goes on after its fuel, or a buffer without a `NUL` that is read as a string |
| `Blocked`  | the keys of `kbScancode` and of `kbSdlkey`; all values are 1 |
| `SdlMsg`   | the part of `sdlmsg_keyboard_t` that is read, as it arrives |
-/

namespace CloudStreaming.Streamer.KeyBlock

open Conf

/-! ## The parameter maps (`ga-confvar.cpp:118-171`, `ga-conf.cpp:506`, `:667-751`) -/

structure ParamMap where
  mapdata : OrderedMap Str Str
  mi : Nat

namespace ParamMap

def msize (m : ParamMap) : Nat := m.mapdata.entries.length

def mreset (m : ParamMap) : ParamMap := { m with mi := 0 }

def mkey (m : ParamMap) : Str := (m.mapdata.entries[m.mi]?.map Prod.fst).getD []

def mvalue (m : ParamMap) : Str := (m.mapdata.entries[m.mi]?.map Prod.snd).getD []

def mnextkey (m : ParamMap) : ParamMap × Str :=
  if m.mi = m.msize then (m, [])
  else
    let m := { m with mi := m.mi + 1 }
    (m, m.mkey)

end ParamMap

abbrev Vars := Str → Option ParamMap

inductive Stop where
  | fuel
  | pastBuffer
  deriving DecidableEq

/-- `strncpy` to a buffer of 64 bytes, and the buffer given on as a string: 64 characters leave no room for a `NUL`, and
what reads the string goes past the buffer's end. -/
def strncpy (s : Str) : Except Stop Str := if s.length < 64 then .ok s else .error .pastBuffer

def gaConfMapsize (c : Vars) (mapname : Str) : Nat :=
  match c mapname with
  | none => 0
  | some v => v.msize

def gaConfMapreset (c : Vars) (mapname : Str) : Vars :=
  match c mapname with
  | none => c
  | some v => Function.update c mapname (some v.mreset)

def gaConfMapkey (c : Vars) (mapname : Str) : Except Stop (Option Str) :=
  match c mapname with
  | none => .ok none
  | some v => if v.mkey = [] then .ok none else some <$> strncpy v.mkey

def gaConfMapvalue (c : Vars) (mapname : Str) : Except Stop (Option Str) :=
  match c mapname with
  | none => .ok none
  | some v => if v.mkey = [] then .ok none else some <$> strncpy v.mvalue

def gaConfMapnextkey (c : Vars) (mapname : Str) : Except Stop (Vars × Option Str) :=
  match c mapname with
  | none => .ok (c, none)
  | some v => do
    let (v, k) := v.mnextkey
    let key ← if k = [] then .ok none else some <$> strncpy k
    .ok (Function.update c mapname (some v), key)

/-! ## The blocked keys -/

/-- One of the loops of `sdlmsg_kb_init` (`:546-560`, `:565-579`): `put` is the conversion to the type of the map's
keys. -/
def loadKeys {α : Type} [DecidableEq α] (put : UInt16 → α) (mapname : Str) :
    Nat → Vars → Option Str → Finset α → Except Stop (Vars × Finset α)
  | _, c, none, db => .ok (c, db)
  | 0, _, some _, _ => .error .fuel
  | fuel + 1, c, some key, db => do
    let sc := UInt16.ofInt (strtol key).value
    let db ←
      if sc = 0 then .ok db
      else
        match ← gaConfMapvalue c mapname with
        | none => .ok db
        | some val => .ok (if gaConfBoolval val 0 ≠ 0 then insert (put sc) db else db)
    let (c, next) ← gaConfMapnextkey c mapname
    loadKeys put mapname fuel c next db

/-- A map of `sdlmsg_kb_init`, if it has keys (`:544`, `:563`). -/
def loadMap {α : Type} [DecidableEq α] (put : UInt16 → α) (mapname : Str) (c : Vars) :
    Except Stop (Vars × Finset α) :=
  if gaConfMapsize c mapname > 0 then do
    let c := gaConfMapreset c mapname
    let key ← gaConfMapkey c mapname
    loadKeys put mapname (gaConfMapsize c mapname) c key ∅
  else .ok (c, ∅)

structure Blocked where
  kbScancode : Finset UInt16
  kbSdlkey : Finset Int

def scancodeMap : Str := "key-block-scancode".toList

def keycodeMap : Str := "key-block-keycode".toList

/-- `sdlmsg_kb_init` (`:537`). -/
def sdlmsgKbInit (c : Vars) : Except Stop Blocked := do
  let (c, kbScancode) ← loadMap (fun sc => sc) scancodeMap c
  let (_, kbSdlkey) ← loadMap (fun kc => (kc.toNat : Int)) keycodeMap c
  .ok ⟨kbScancode, kbSdlkey⟩

/-! ## Messages -/

structure SdlMsg where
  msgtype : UInt8
  scancode : UInt16
  sdlkey : UInt32
  deriving DecidableEq

/-- The two bytes in the other order. -/
def ntohs (x : UInt16) : UInt16 := UInt16.ofNat (x.toNat % 256 * 256 + x.toNat / 256)

/-- The four bytes in the other order. -/
def ntohl (x : UInt32) : UInt32 :=
  UInt32.ofNat (x.toNat % 256 * 16777216 + x.toNat / 256 % 256 * 65536 + x.toNat / 65536 % 256 * 256 +
    x.toNat / 16777216)

def msgtypeKeyboard : UInt8 := 1

/-- `sdlmsg_ntoh` (`:84`) of a keyboard message; the fields of the others are not modelled. -/
def sdlmsgNtoh (m : SdlMsg) : SdlMsg :=
  if m.msgtype = msgtypeKeyboard then
    { m with
      scancode := if m.scancode ≠ 0 then ntohs m.scancode else m.scancode
      sdlkey := if m.sdlkey ≠ 0 then ntohl m.sdlkey else m.sdlkey }
  else m

/-- `sdlmsg_key_blocked` (`:594`), with the two `sdlmsg_kb_match` functions. -/
def sdlmsgKeyBlocked (kb : Blocked) (m : SdlMsg) : Bool :=
  if m.msgtype ≠ msgtypeKeyboard then false
  else if m.scancode ∈ kb.kbScancode then true
  else if m.sdlkey.toInt32.toInt ∈ kb.kbSdlkey then true
  else false

/-- `sdlmsg_replay` (`:612`): what is given to `sdlmsg_replay_native`, if anything. -/
def sdlmsgReplay (kb : Blocked) (m : SdlMsg) : Option SdlMsg :=
  let m := sdlmsgNtoh m
  if sdlmsgKeyBlocked kb m then none else some m

/-! ## Numerals -/

inductive Radix where
  | decimal
  | octal
  | hex (x : Char)

def Radix.base : Radix → Nat
  | decimal => 10
  | octal => 8
  | hex _ => 16

/-- What stands before the digits. -/
def Radix.lead : Radix → Str
  | decimal => []
  | octal => ['0']
  | hex x => ['0', x]

/-- A C integer constant with an optional sign. -/
structure Numeral where
  sign : Option Bool
  radix : Radix
  ds : Str
  valid : ∀ c ∈ ds, (digitValue c).any (fun d => decide (d < radix.base)) = true
  decimal_lead : radix = .decimal → ∃ c cs, ds = c :: cs ∧ c ≠ '0'
  hex_lead : ∀ x, radix = .hex x → (x = 'x' ∨ x = 'X') ∧ ds ≠ []

namespace Numeral

def signText : Option Bool → Str
  | none => []
  | some false => ['+']
  | some true => ['-']

def text (n : Numeral) : Str := signText n.sign ++ n.radix.lead ++ n.ds

def magnitude (n : Numeral) : Int := n.ds.foldl (fun (v : Int) c => v * n.radix.base + (digitValue c).getD 0) 0

def value (n : Numeral) : Int := if n.sign = some true then -n.magnitude else n.magnitude

theorem digits_eq {base : Nat} :
    ∀ {ds : Str}, (∀ c ∈ ds, ∃ d, digitValue c = some d ∧ d < base) →
      digits base ds = ds.map fun c => (digitValue c).getD 0
  | [], _ => rfl
  | c :: ds, h => by
    obtain ⟨d, hd, hlt⟩ := h c List.mem_cons_self
    have ih : digits base ds = ds.map fun c => (digitValue c).getD 0 :=
      digits_eq fun c' hc' => h c' (List.mem_cons_of_mem _ hc')
    simp [digits, hd, hlt, ih]

variable (n : Numeral)

theorem digit_of_mem : ∀ c ∈ n.ds, ∃ d, digitValue c = some d ∧ d < n.radix.base := by
  intro c hc
  obtain ⟨d, hd, hlt⟩ := (Option.any_eq_true _ _).mp (n.valid c hc)
  exact ⟨d, hd, of_decide_eq_true hlt⟩

/-- The first digit is no space, sign or letter. -/
theorem digit_first {c : Char} {d base : Nat} (hd : digitValue c = some d) (hlt : d < base) (hbase : base ≤ 10) :
    isSpace c = false ∧ c ≠ '-' ∧ c ≠ '+' ∧ c ≠ 'x' ∧ c ≠ 'X' := by
  have hrange : '0' ≤ c ∧ c ≤ '9' := by
    unfold digitValue at hd
    split at hd
    · assumption
    · split at hd
      · cases hd
        omega
      · split at hd
        · cases hd
          omega
        · cases hd
  have h0 : 48 ≤ c.toNat := hrange.1
  have h9 : c.toNat ≤ 57 := hrange.2
  refine ⟨?_, ?_, ?_, ?_, ?_⟩
  · have hne : c ≠ ' ' := by
      rintro rfl
      exact absurd h0 (by decide)
    simp [isSpace, hne]
    omega
  all_goals
    rintro rfl
    first
      | exact absurd h0 (by decide)
      | exact absurd h9 (by decide)

/-- The numeral without its sign starts with a decimal digit. -/
theorem body_first : ∃ c cs, n.radix.lead ++ n.ds = c :: cs ∧ isSpace c = false ∧ c ≠ '-' ∧ c ≠ '+' := by
  match hr : n.radix with
  | .decimal =>
    obtain ⟨c, cs, hds, -⟩ := n.decimal_lead hr
    obtain ⟨d, hd, hlt⟩ := n.digit_of_mem c (by rw [hds]; exact List.mem_cons_self)
    rw [hr] at hlt
    obtain ⟨h1, h2, h3, -⟩ := digit_first hd hlt (by decide)
    exact ⟨c, cs, hds, h1, h2, h3⟩
  | .octal => exact ⟨'0', n.ds, rfl, by decide, by decide, by decide⟩
  | .hex x => exact ⟨'0', x :: n.ds, rfl, by decide, by decide, by decide⟩

theorem foldl_digits (ds : Str) (base : Nat) (v : Int) :
    (ds.map fun c => (digitValue c).getD 0).foldl (fun (v : Int) (d : Nat) => v * base + d) v =
      ds.foldl (fun (v : Int) c => v * base + (digitValue c).getD 0) v := by
  rw [List.foldl_map]

/-- The base is read off the lead, and the digits have the magnitude. -/
theorem readBase_body : ∃ rest, readBase (n.radix.lead ++ n.ds) = (n.radix.base, rest) ∧
    digits n.radix.base rest ≠ [] ∧
    (digits n.radix.base rest).foldl (fun (v : Int) (d : Nat) => v * n.radix.base + d) 0 = n.magnitude := by
  have hdigits := digits_eq n.digit_of_mem
  match hr : n.radix with
  | .decimal =>
    obtain ⟨c, cs, hds, hne⟩ := n.decimal_lead hr
    rw [hr] at hdigits
    refine ⟨n.ds, ?_, ?_, ?_⟩
    · rw [Radix.lead, List.nil_append, hds]
      unfold readBase
      split
      · next heq => exact absurd (List.cons.inj heq).1 hne
      · next heq => exact absurd (List.cons.inj heq).1 hne
      · rfl
    · rw [hdigits, hds]
      simp
    · rw [hdigits, foldl_digits, magnitude, hr]
  | .octal =>
    rw [hr] at hdigits
    have hzero : digits 8 ('0' :: n.ds) = 0 :: digits 8 n.ds := rfl
    refine ⟨'0' :: n.ds, ?_, ?_, ?_⟩
    · cases hds : n.ds with
      | nil => rfl
      | cons c cs =>
        obtain ⟨d, hd, hlt⟩ := n.digit_of_mem c (by rw [hds]; exact List.mem_cons_self)
        rw [hr] at hlt
        obtain ⟨-, -, -, hx, hX⟩ := digit_first hd hlt (by decide)
        have hnot : ¬ ((c = 'x' ∨ c = 'X') ∧ digits 16 cs ≠ []) := fun h => h.1.elim hx hX
        simp only [Radix.lead, Radix.base, List.singleton_append, readBase, if_neg hnot]
    · rw [Radix.base, hzero]
      simp
    · have hbase : (Radix.octal.base : Nat) = 8 := rfl
      rw [hbase] at hdigits ⊢
      rw [hzero, List.foldl_cons, hdigits, foldl_digits, magnitude, hr]
      rfl
  | .hex x =>
    obtain ⟨hx, hne⟩ := n.hex_lead x hr
    rw [hr] at hdigits
    have hsome : digits 16 n.ds ≠ [] := by
      rw [Radix.base] at hdigits
      rw [hdigits]
      simpa using hne
    refine ⟨n.ds, ?_, hsome, ?_⟩
    · simp only [Radix.lead, Radix.base, List.cons_append, List.nil_append, readBase, if_pos (And.intro hx hsome)]
    · rw [hdigits, foldl_digits, magnitude, hr]

/-- The digits as `Int`s, which is how `strtol` adds them up. -/
theorem cast_digits (l : List Nat) : (l >>= fun d => pure (d : Int)) = l.map fun d : Nat => (d : Int) := by
  induction l with
  | nil => rfl
  | cons d l ih =>
    rw [List.map_cons, ← ih]
    rfl

/-- `strtol` reads a numeral as its value. -/
theorem strtol_text (hlo : -9223372036854775808 ≤ n.value) (hhi : n.value ≤ 9223372036854775807) :
    (strtol n.text).value = n.value := by
  obtain ⟨c, cs, hbody, hspace, hminus, hplus⟩ := n.body_first
  obtain ⟨rest, hbase, hne, hmag⟩ := n.readBase_body
  have hsigned : readSign (n.text.dropWhile isSpace) = (decide (n.sign = some true), n.radix.lead ++ n.ds) := by
    rw [text, List.append_assoc]
    match n.sign with
    | none =>
      rw [signText, List.nil_append, hbody, List.dropWhile_cons_of_neg (by simp [hspace])]
      unfold readSign
      split
      · next heq => exact absurd (List.cons.inj heq).1 hminus
      · next heq => exact absurd (List.cons.inj heq).1 hplus
      · rfl
    | some false => rfl
    | some true => rfl
  have hvalue : (if decide (n.sign = some true) = true then -n.magnitude else n.magnitude) = n.value := by
    rw [value]
    simp
  simp only [strtol, hsigned, hbase]
  rw [cast_digits, List.foldl_map, hmag, hvalue, if_neg (by omega), if_neg (by omega)]

end Numeral

/-! ## Configurations -/

/-- The text is one of the words for true (`ga-conf.cpp:404-409`). -/
def IsTrue (t : Str) : Prop := lowercase t ∈ ["true", "1", "y", "yes", "enabled", "enable"].map String.toList

def IsFalse (t : Str) : Prop := lowercase t ∈ ["false", "0", "n", "no", "disabled", "disable"].map String.toList

/-- A parameter map whose keys are numerals of a range, not zero, and whose values are boolean. -/
structure KeyMap (lo hi : Int) where
  entries : List (Numeral × Str)
  ascending : entries.Pairwise fun e e' => e.1.text < e'.1.text
  nonzero : ∀ e ∈ entries, e.1.value ≠ 0
  range : ∀ e ∈ entries, lo ≤ e.1.value ∧ e.1.value ≤ hi
  boolean : ∀ e ∈ entries, IsTrue e.2 ∨ IsFalse e.2

namespace KeyMap

variable {lo hi : Int}

/-- The map as the configuration has it. -/
def texts (m : KeyMap lo hi) : List (Str × Str) := m.entries.map fun e => (e.1.text, e.2)

/-- The number is configured true. -/
def Blocks (m : KeyMap lo hi) (v : Int) : Prop := ∃ e ∈ m.entries, IsTrue e.2 ∧ e.1.value = v

/-- The keys fit in `keybuf`. -/
def Short (m : KeyMap lo hi) : Prop := ∀ e ∈ m.entries, e.1.text.length < 64

end KeyMap

/-- The entries of a parameter map; a map that is not there has none. -/
def entriesOf (c : Vars) (mapname : Str) : List (Str × Str) :=
  match c mapname with
  | none => []
  | some v => v.mapdata.entries

/-- A configuration in which both maps are of the ranges of the fields they name. -/
structure Config where
  vars : Vars
  scancodes : KeyMap 1 65535
  keycodes : KeyMap (-2147483648) 2147483647
  scancodes_eq : entriesOf vars scancodeMap = scancodes.texts
  keycodes_eq : entriesOf vars keycodeMap = keycodes.texts

/-! ## The walk over a map -/

section
variable {lo hi : Int} {m : KeyMap lo hi} {mapname : Str} {c : Vars} {md : OrderedMap Str Str} {i : Nat}
  {e : Numeral × Str} {rest : List (Numeral × Str)}

/-- A word of a list of short words fits in `valbuf`. -/
theorem short_of_word {words : List Str} {t : Str} (hwords : ∀ w ∈ words, w.length < 64) (h : lowercase t ∈ words) :
    t.length < 64 := by
  have hlen : (lowercase t).length = t.length := List.length_map ..
  rw [← hlen]
  exact hwords _ h

theorem short_of_boolean {t : Str} (h : IsTrue t ∨ IsFalse t) : t.length < 64 := by
  rcases h with htrue | hfalse
  · exact short_of_word (by decide) htrue
  · exact short_of_word (by decide) hfalse

theorem gaConfBoolval_of_isTrue {t : Str} (h : IsTrue t) : gaConfBoolval t 0 = 1 := if_pos h

theorem gaConfBoolval_of_isFalse {t : Str} (h : IsFalse t) : gaConfBoolval t 0 = 0 ∧ ¬ IsTrue t := by
  have hnot : ¬ IsTrue t := by
    intro ht
    have hdisj : ∀ w ∈ ["true", "1", "y", "yes", "enabled", "enable"].map String.toList,
        w ∉ ["false", "0", "n", "no", "disabled", "disable"].map String.toList := by decide
    exact hdisj _ ht h
  exact ⟨(if_neg hnot).trans (if_pos h), hnot⟩

theorem text_ne_nil (n : Numeral) : n.text ≠ [] := by
  obtain ⟨c, cs, hbody, -⟩ := n.body_first
  rw [Numeral.text, List.append_assoc, hbody]
  simp

/-- The iterator stands at the entry. -/
theorem mkey_at (hmd : md.entries = m.texts) (hrest : m.entries.drop i = e :: rest) :
    (ParamMap.mk md i).mkey = e.1.text ∧ (ParamMap.mk md i).mvalue = e.2 ∧ i ≠ (ParamMap.mk md i).msize := by
  have hget : m.entries[i]? = some e := by
    rw [← List.head?_drop, hrest]
    rfl
  have hentry : md.entries[i]? = some (e.1.text, e.2) := by rw [hmd, KeyMap.texts, List.getElem?_map, hget]; rfl
  have hlt : i < md.entries.length := (List.getElem?_eq_some_iff.mp hentry).1
  refine ⟨?_, ?_, Nat.ne_of_lt hlt⟩
  · rw [ParamMap.mkey, hentry]
    rfl
  · rw [ParamMap.mvalue, hentry]
    rfl

/-- The first key of the entries, as the loop gets it: `NULL` at the end. -/
def nextKey : List (Numeral × Str) → Except Stop (Option Str)
  | [] => .ok none
  | e :: _ => some <$> strncpy e.1.text

theorem key_at (hmd : md.entries = m.texts) (hrest : m.entries.drop i = rest) :
    (if (ParamMap.mk md i).mkey = [] then .ok none else some <$> strncpy (ParamMap.mk md i).mkey) = nextKey rest := by
  cases rest with
  | nil =>
    have hlen : md.entries.length ≤ i := by
      rw [hmd, KeyMap.texts, List.length_map]
      exact List.drop_eq_nil_iff.mp hrest
    rw [if_pos]
    · rfl
    · rw [ParamMap.mkey, List.getElem?_eq_none hlen]
      rfl
  | cons e rest =>
    rw [(mkey_at hmd hrest).1, if_neg (text_ne_nil _)]
    rfl

/-- What an entry adds to the blocked keys. -/
def Adds {α : Type} (put : UInt16 → α) (e : Numeral × Str) (a : α) : Prop :=
  IsTrue e.2 ∧ UInt16.ofInt e.1.value ≠ 0 ∧ a = put (UInt16.ofInt e.1.value)

/-- The numerals of the map are in the range of a `long`. -/
def InLong (m : KeyMap lo hi) : Prop :=
  ∀ e ∈ m.entries, -9223372036854775808 ≤ e.1.value ∧ e.1.value ≤ 9223372036854775807

theorem KeyMap.inLong (m : KeyMap lo hi) (hlo : -9223372036854775808 ≤ lo) (hhi : hi ≤ 9223372036854775807) : InLong m := by
  intro e he
  obtain ⟨h1, h2⟩ := m.range e he
  exact ⟨hlo.trans h1, h2.trans hhi⟩

/-- What a walk over the entries comes to: all keys fit in the buffer, and it adds what the entries add, or a key does
not and it goes past the buffer's end. -/
def Walked {α : Type} (put : UInt16 → α) (mapname : Str) (rest : List (Numeral × Str)) (c : Vars) (db : Finset α)
    (r : Except Stop (Vars × Finset α)) : Prop :=
  ((∀ e ∈ rest, e.1.text.length < 64) ∧ ∃ c' db', r = .ok (c', db') ∧
    (∀ other, other ≠ mapname → c' other = c other) ∧ ∀ a, a ∈ db' ↔ a ∈ db ∨ ∃ e ∈ rest, Adds put e a) ∨
  ((∃ e ∈ rest, 64 ≤ e.1.text.length) ∧ r = .error .pastBuffer)

/-- **The walk** from a position. -/
theorem loadKeys_spec {α : Type} [DecidableEq α] (put : UInt16 → α) (hmd : md.entries = m.texts) (hlong : InLong m) :
    ∀ (rest : List (Numeral × Str)) (i : Nat) (c : Vars) (fuel : Nat) (db : Finset α), m.entries.drop i = rest →
      c mapname = some ⟨md, i⟩ → rest.length ≤ fuel →
      Walked put mapname rest c db (nextKey rest >>= fun key => loadKeys put mapname fuel c key db)
  | [], i, c, fuel, db, _, _, _ => .inl ⟨by simp, c, db, by cases fuel <;> rfl, fun _ _ => rfl, by simp⟩
  | e :: rest, i, c, 0, db, _, _, hfuel => absurd hfuel (Nat.not_succ_le_zero _)
  | e :: rest, i, c, fuel + 1, db, hrest, hc, hfuel => by
    by_cases hkey64 : e.1.text.length < 64
    · have hmem : e ∈ m.entries := List.mem_of_mem_drop (hrest ▸ List.mem_cons_self)
      obtain ⟨hkey, hvalue, hend⟩ := mkey_at hmd hrest
      have hdrop : m.entries.drop (i + 1) = rest := by rw [← List.tail_drop, hrest]; rfl
      have hread : (strtol e.1.text).value = e.1.value := e.1.strtol_text (hlong e hmem).1 (hlong e hmem).2
      have hval : gaConfMapvalue c mapname = .ok (some e.2) := by
        have hshort : e.2.length < 64 := short_of_boolean (m.boolean e hmem)
        simp only [gaConfMapvalue, hc, hkey, if_neg (text_ne_nil _), hvalue, strncpy, if_pos hshort]
        rfl
      have hstep : gaConfMapnextkey c mapname =
          nextKey rest >>= fun key => .ok (Function.update c mapname (some ⟨md, i + 1⟩), key) := by
        simp only [gaConfMapnextkey, hc, ParamMap.mnextkey, if_neg hend, ← key_at hmd hdrop]
        split <;> rfl
      generalize hdb : (if UInt16.ofInt e.1.value = 0 then db
        else if gaConfBoolval e.2 0 ≠ 0 then insert (put (UInt16.ofInt e.1.value)) db else db) = db₁
      have hadd : ∀ a, a ∈ db₁ ↔ a ∈ db ∨ Adds put e a := by
        intro a
        subst hdb
        unfold Adds
        split
        · next h0 => simp [h0]
        · next h0 =>
          rcases m.boolean e hmem with ht | hf
          · rw [gaConfBoolval_of_isTrue ht, if_pos (by decide)]
            simp [ht, h0, or_comm]
          · obtain ⟨hzero, hnot⟩ := gaConfBoolval_of_isFalse hf
            rw [hzero, if_neg (by decide)]
            simp [hnot]
      have hturn : (nextKey (e :: rest) >>= fun key => loadKeys put mapname (fuel + 1) c key db) =
          nextKey rest >>= fun key =>
            loadKeys put mapname fuel (Function.update c mapname (some ⟨md, i + 1⟩)) key db₁ := by
        rw [nextKey, strncpy, if_pos hkey64]
        show loadKeys put mapname (fuel + 1) c (some e.1.text) db = _
        rw [loadKeys]
        simp only [hread, hval, hstep, ← hdb]
        cases nextKey rest <;> split <;> rfl
      rw [hturn]
      rcases loadKeys_spec put hmd hlong rest (i + 1) (Function.update c mapname (some ⟨md, i + 1⟩)) fuel db₁ hdrop
        (Function.update_self ..) (Nat.le_of_succ_le_succ hfuel) with
        ⟨hall, c', db', hload, hother, hmem'⟩ | ⟨⟨e', he', hlen⟩, herror⟩
      · refine .inl ⟨?_, c', db', hload, fun other hne => ?_, fun a => ?_⟩
        · simpa [hkey64] using hall
        · rw [hother other hne, Function.update_of_ne hne]
        · rw [hmem', hadd, or_assoc]
          simp
      · exact .inr ⟨⟨e', List.mem_cons_of_mem _ he', hlen⟩, herror⟩
    · refine .inr ⟨⟨e, List.mem_cons_self, by omega⟩, ?_⟩
      rw [nextKey, strncpy, if_neg hkey64]
      rfl

/-- A map that is loaded: its iterator is reset, and all its entries are walked over. -/
theorem loadMap_spec {α : Type} [DecidableEq α] (put : UInt16 → α) (hm : entriesOf c mapname = m.texts)
    (hlong : InLong m) : Walked put mapname m.entries c ∅ (loadMap put mapname c) := by
  have hlen : m.texts.length = m.entries.length := List.length_map ..
  have hsize : gaConfMapsize c mapname = m.entries.length := by
    rw [← hlen, ← hm, gaConfMapsize, entriesOf]
    cases c mapname <;> rfl
  unfold loadMap
  rw [hsize]
  split
  · next hpos =>
    match hc : c mapname with
    | none =>
      simp only [gaConfMapsize, hc] at hsize
      omega
    | some v =>
      have hmd : v.mapdata.entries = m.texts := by rw [← hm, entriesOf, hc]
      have hreset : gaConfMapreset c mapname = Function.update c mapname (some ⟨v.mapdata, 0⟩) := by
        rw [gaConfMapreset, hc]
        rfl
      have hkey : gaConfMapkey (gaConfMapreset c mapname) mapname = nextKey m.entries := by
        rw [hreset, gaConfMapkey, Function.update_self]
        exact key_at hmd rfl
      have hsize' : gaConfMapsize (gaConfMapreset c mapname) mapname = m.entries.length := by
        rw [hreset, gaConfMapsize, Function.update_self]
        exact (congrArg List.length hmd).trans hlen
      have hwalk := loadKeys_spec put hmd hlong m.entries 0 (gaConfMapreset c mapname) m.entries.length ∅ rfl
        (by rw [hreset, Function.update_self]) (Nat.le_refl _)
      simp only [hkey, hsize']
      rcases hwalk with ⟨hall, c', db', hload, hother, hmem⟩ | herror
      · refine .inl ⟨hall, c', db', hload, fun other hne => ?_, hmem⟩
        rw [hother other hne, hreset, Function.update_of_ne hne]
      · exact .inr herror
  · next hzero =>
    have hnil : m.entries = [] := List.eq_nil_of_length_eq_zero (by omega)
    exact .inl ⟨by simp [hnil], c, ∅, rfl, fun _ _ => rfl, by simp [hnil]⟩

/-- A map whose keys fit in the buffer is loaded, and another is not. -/
theorem loadMap_eq_ok {α : Type} [DecidableEq α] (put : UInt16 → α) (hm : entriesOf c mapname = m.texts)
    (hlong : InLong m) (hshort : m.Short) :
    ∃ c' db, loadMap put mapname c = .ok (c', db) ∧ (∀ other, other ≠ mapname → c' other = c other) ∧
      ∀ a, a ∈ db ↔ ∃ e ∈ m.entries, Adds put e a := by
  rcases loadMap_spec put hm hlong with ⟨-, c', db, hload, hother, hmem⟩ | ⟨⟨e, he, hlen⟩, -⟩
  · exact ⟨c', db, hload, hother, by simpa using hmem⟩
  · exact absurd (hshort e he) (by omega)

theorem short_of_loadMap {α : Type} [DecidableEq α] {put : UInt16 → α} (hm : entriesOf c mapname = m.texts)
    (hlong : InLong m) {r : Vars × Finset α} (h : loadMap put mapname c = .ok r) : m.Short := by
  rcases loadMap_spec put hm hlong with ⟨hall, -⟩ | ⟨-, herror⟩
  · exact hall
  · rw [h] at herror
    cases herror

end

/-! ## Suppressed messages -/

namespace Config

variable (cfg : Config)

/-- The maps are loaded, and a keyboard message is suppressed exactly if one of its codes is configured true. -/
def Obeyed : Prop :=
  ∃ kb, sdlmsgKbInit cfg.vars = .ok kb ∧ ∀ msg : SdlMsg, msg.msgtype = msgtypeKeyboard →
    (sdlmsgReplay kb msg = none ↔
      cfg.scancodes.Blocks (ntohs msg.scancode).toNat ∨ cfg.keycodes.Blocks (ntohl msg.sdlkey).toInt32.toInt)

/-- What is suppressed: the codes that were loaded. -/
theorem replay_eq_none {kb : Blocked} {msg : SdlMsg} (h : msg.msgtype = msgtypeKeyboard) :
    sdlmsgReplay kb msg = none ↔
      ntohs msg.scancode ∈ kb.kbScancode ∨ (ntohl msg.sdlkey).toInt32.toInt ∈ kb.kbSdlkey := by
  have hsc : (if msg.scancode ≠ 0 then ntohs msg.scancode else msg.scancode) = ntohs msg.scancode := by
    split
    · rfl
    · next h0 => rw [not_not.mp h0]; decide
  have hkey : (if msg.sdlkey ≠ 0 then ntohl msg.sdlkey else msg.sdlkey) = ntohl msg.sdlkey := by
    split
    · rfl
    · next h0 => rw [not_not.mp h0]; decide
  have hntoh : sdlmsgNtoh msg = { msg with scancode := ntohs msg.scancode, sdlkey := ntohl msg.sdlkey } := by
    rw [sdlmsgNtoh, if_pos h, hsc, hkey]
  simp only [sdlmsgReplay, hntoh, sdlmsgKeyBlocked, h, ne_eq, not_true_eq_false, if_false]
  by_cases h1 : ntohs msg.scancode ∈ kb.kbScancode
  · simp [h1]
  · by_cases h2 : (ntohl msg.sdlkey).toInt32.toInt ∈ kb.kbSdlkey
    · simp [h1, h2]
    · simp [h1, h2]

/-- An `unsigned short` keeps the numbers of 16 bits. -/
theorem toNat_ofInt {v : Int} (hlo : 1 ≤ v) (hhi : v ≤ 65535) : ((UInt16.ofInt v).toNat : Int) = v := by
  have h : (UInt16.ofInt v).toNat = (v % 65536).toNat % 65536 := by
    rw [UInt16.ofInt, UInt16.toNat_ofNat']
    rfl
  omega

theorem ofInt_ne_zero {v : Int} (hlo : 1 ≤ v) (hhi : v ≤ 65535) : UInt16.ofInt v ≠ 0 := by
  intro h
  have := toNat_ofInt hlo hhi
  rw [h] at this
  have h0 : (0 : UInt16).toNat = 0 := rfl
  omega

/-- The scancodes that are loaded are the ones configured true. -/
theorem scancode_adds {v : UInt16} :
    (∃ e ∈ cfg.scancodes.entries, Adds (fun sc => sc) e v) ↔ cfg.scancodes.Blocks v.toNat := by
  constructor
  · rintro ⟨e, he, ht, -, rfl⟩
    obtain ⟨hlo, hhi⟩ := cfg.scancodes.range e he
    exact ⟨e, he, ht, (toNat_ofInt hlo hhi).symm⟩
  · rintro ⟨e, he, ht, hv⟩
    obtain ⟨hlo, hhi⟩ := cfg.scancodes.range e he
    refine ⟨e, he, ht, ofInt_ne_zero hlo hhi, ?_⟩
    apply UInt16.toNat_inj.mp
    have hkept := toNat_ofInt hlo hhi
    show v.toNat = (UInt16.ofInt e.1.value).toNat
    omega

/-- The keycodes that are loaded are numbers of 16 bits, not zero. -/
theorem keycode_adds_range {v : Int} (h : ∃ e ∈ cfg.keycodes.entries, Adds (fun kc => (kc.toNat : Int)) e v) :
    1 ≤ v ∧ v ≤ 65535 := by
  obtain ⟨e, -, -, hne, rfl⟩ := h
  have hlt := (UInt16.ofInt e.1.value).toNat_lt
  have hpos : (UInt16.ofInt e.1.value).toNat ≠ 0 := fun h0 => hne (UInt16.toNat_inj.mp h0)
  show 1 ≤ ((UInt16.ofInt e.1.value).toNat : Int) ∧ ((UInt16.ofInt e.1.value).toNat : Int) ≤ 65535
  omega

/-- They are the ones configured true, if those have 16 bits. -/
theorem keycode_adds {v : Int} (hall : ∀ v, cfg.keycodes.Blocks v → 1 ≤ v ∧ v ≤ 65535) :
    (∃ e ∈ cfg.keycodes.entries, Adds (fun kc => (kc.toNat : Int)) e v) ↔ cfg.keycodes.Blocks v := by
  constructor
  · rintro ⟨e, he, ht, -, rfl⟩
    obtain ⟨hlo, hhi⟩ := hall e.1.value ⟨e, he, ht, rfl⟩
    exact ⟨e, he, ht, (toNat_ofInt hlo hhi).symm⟩
  · rintro ⟨e, he, ht, rfl⟩
    obtain ⟨hlo, hhi⟩ := hall e.1.value ⟨e, he, ht, rfl⟩
    exact ⟨e, he, ht, ofInt_ne_zero hlo hhi, (toNat_ofInt hlo hhi).symm⟩

/-- The keycodes are there after the scancodes are loaded. -/
theorem keycodes_kept {c : Vars} (h : ∀ other, other ≠ scancodeMap → c other = cfg.vars other) :
    entriesOf c keycodeMap = cfg.keycodes.texts := by
  rw [← cfg.keycodes_eq, entriesOf, h keycodeMap (by decide)]
  rfl

/-- Both maps are loaded, if their keys fit in the buffer. -/
theorem init_spec (hs : cfg.scancodes.Short) (hk : cfg.keycodes.Short) :
    ∃ kb, sdlmsgKbInit cfg.vars = .ok kb ∧
      (∀ v, v ∈ kb.kbScancode ↔ ∃ e ∈ cfg.scancodes.entries, Adds (fun sc => sc) e v) ∧
      ∀ v, v ∈ kb.kbSdlkey ↔ ∃ e ∈ cfg.keycodes.entries, Adds (fun kc => (kc.toNat : Int)) e v := by
  obtain ⟨c, kbScancode, hload, hother, hsc⟩ :=
    loadMap_eq_ok (fun sc => sc) cfg.scancodes_eq (cfg.scancodes.inLong (by decide) (by decide)) hs
  have hkeys := cfg.keycodes_kept hother
  obtain ⟨c', kbSdlkey, hload', -, hkc⟩ :=
    loadMap_eq_ok (fun kc => (kc.toNat : Int)) hkeys (cfg.keycodes.inLong (by decide) (by decide)) hk
  refine ⟨⟨kbScancode, kbSdlkey⟩, ?_, hsc, hkc⟩
  rw [sdlmsgKbInit, hload]
  show (loadMap (fun kc => (kc.toNat : Int)) keycodeMap c >>= fun r => .ok (Blocked.mk kbScancode r.2)) = _
  rw [hload']
  rfl

/-- Only then. -/
theorem short_of_init {kb : Blocked} (h : sdlmsgKbInit cfg.vars = .ok kb) :
    cfg.scancodes.Short ∧ cfg.keycodes.Short := by
  have hs : cfg.scancodes.Short := by
    cases hload : loadMap (fun sc => sc) scancodeMap cfg.vars with
    | error e =>
      rw [sdlmsgKbInit, hload] at h
      cases h
    | ok r => exact short_of_loadMap cfg.scancodes_eq (cfg.scancodes.inLong (by decide) (by decide)) hload
  refine ⟨hs, ?_⟩
  obtain ⟨c, kbScancode, hload, hother, -⟩ :=
    loadMap_eq_ok (fun sc => sc) cfg.scancodes_eq (cfg.scancodes.inLong (by decide) (by decide)) hs
  have hkeys := cfg.keycodes_kept hother
  have h : (loadMap (fun kc => (kc.toNat : Int)) keycodeMap c >>= fun r => .ok (Blocked.mk kbScancode r.2)) = .ok kb := by
    rw [← h, sdlmsgKbInit, hload]
    rfl
  cases hload' : loadMap (fun kc => (kc.toNat : Int)) keycodeMap c with
  | error e =>
    rw [hload'] at h
    cases h
  | ok r => exact short_of_loadMap hkeys (cfg.keycodes.inLong (by decide) (by decide)) hload'

theorem ntohl_bytes {x : UInt32} {a b c d : Nat} (ha : a < 256) (hb : b < 256) (hc : c < 256) (hd : d < 256)
    (hx : x.toNat = a + b * 256 + c * 65536 + d * 16777216) :
    (ntohl x).toNat = d + c * 256 + b * 65536 + a * 16777216 := by
  have h0 : x.toNat % 256 = a := by omega
  have h1 : x.toNat / 256 % 256 = b := by omega
  have h2 : x.toNat / 65536 % 256 = c := by omega
  have h3 : x.toNat / 16777216 = d := by omega
  rw [ntohl, UInt32.toNat_ofNat', h0, h1, h2, h3, Nat.mod_eq_of_lt (by omega)]
  omega

theorem ntohl_ntohl (x : UInt32) : ntohl (ntohl x) = x := by
  obtain ⟨a, b, c, d, ha, hb, hc, hd, hx⟩ : ∃ a b c d, a < 256 ∧ b < 256 ∧ c < 256 ∧ d < 256 ∧
      x.toNat = a + b * 256 + c * 65536 + d * 16777216 := by
    have hlt := x.toNat_lt
    exact ⟨x.toNat % 256, x.toNat / 256 % 256, x.toNat / 65536 % 256, x.toNat / 16777216, by omega, by omega,
      by omega, by omega, by omega⟩
  apply UInt32.toNat_inj.mp
  rw [ntohl_bytes hd hc hb ha (ntohl_bytes ha hb hc hd hx), hx]

/-- Where the messages suppressed are the ones configured, the keycodes configured true have 16 bits. -/
theorem range_of_obeyed (h : cfg.Obeyed) {v : Int} (hv : cfg.keycodes.Blocks v) : 1 ≤ v ∧ v ≤ 65535 := by
  obtain ⟨kb', hinit', hobeys⟩ := h
  obtain ⟨hs, hk⟩ := cfg.short_of_init hinit'
  obtain ⟨kb, hinit, hsc, hkc⟩ := cfg.init_spec hs hk
  obtain rfl : kb = kb' := Except.ok.inj (hinit.symm.trans hinit')
  obtain ⟨e, he, -, hval⟩ := id hv
  have hrange := cfg.keycodes.range e he
  -- a message with this keycode, and with the scancode that no map can name
  have hmsg := hobeys ⟨msgtypeKeyboard, 0, ntohl (Int32.ofInt v).toUInt32⟩ rfl
  have hcode : (ntohl (ntohl (Int32.ofInt v).toUInt32)).toInt32.toInt = v := by
    rw [ntohl_ntohl, Int32.toInt32_toUInt32, Int32.toInt_ofInt_of_le (by omega) (by omega)]
  rw [replay_eq_none rfl, hcode] at hmsg
  rcases hmsg.mpr (.inr hv) with h0 | h
  · obtain ⟨e', -, -, hne, h0'⟩ := (hsc _).mp h0
    have h0' : ntohs 0 = UInt16.ofInt e'.1.value := h0'
    exact absurd h0'.symm hne
  · exact cfg.keycode_adds_range ((hkc v).mp h)

end Config

/-- **Key blocking**: for every configuration, the messages suppressed are the ones configured exactly if all keys fit
in the buffer and every keycode configured true is a number of 16 bits. -/
theorem keys_blocked_iff (cfg : Config) :
    cfg.Obeyed ↔ cfg.scancodes.Short ∧ cfg.keycodes.Short ∧ ∀ v, cfg.keycodes.Blocks v → 1 ≤ v ∧ v ≤ 65535 := by
  constructor
  · intro h
    obtain ⟨kb, hinit, -⟩ := id h
    obtain ⟨hs, hk⟩ := cfg.short_of_init hinit
    exact ⟨hs, hk, fun v hv => cfg.range_of_obeyed h hv⟩
  · rintro ⟨hs, hk, hall⟩
    obtain ⟨kb, hinit, hsc, hkc⟩ := cfg.init_spec hs hk
    refine ⟨kb, hinit, fun msg hmsg => ?_⟩
    rw [Config.replay_eq_none hmsg, hsc, hkc, cfg.scancode_adds, cfg.keycode_adds hall]

/-- `0x...` with these digits. -/
def hexNumeral (ds : Str) (hne : ds ≠ []) (valid : ds.all fun c => (digitValue c).any fun d => decide (d < 16)) :
    Numeral where
  sign := none
  radix := .hex 'x'
  ds := ds
  valid := List.all_eq_true.mp valid
  decimal_lead := fun h => nomatch h
  hex_lead := by
    rintro x ⟨⟩
    exact ⟨.inl rfl, hne⟩

theorem isTrue_true : IsTrue "true".toList := by
  show lowercase "true".toList ∈ ["true", "1", "y", "yes", "enabled", "enable"].map String.toList
  decide

/-- A configuration that blocks one keycode, and no scancode. -/
def blockKeycode (n : Numeral) (hne : n.value ≠ 0) (hrange : -2147483648 ≤ n.value ∧ n.value ≤ 2147483647) :
    Config where
  vars := fun name => if name = keycodeMap then some ⟨⟨[(n.text, "true".toList)], List.pairwise_singleton _ _⟩, 0⟩ else none
  scancodes := ⟨[], .nil, by simp, by simp, by simp⟩
  keycodes :=
    { entries := [(n, "true".toList)]
      ascending := List.pairwise_singleton _ _
      nonzero := by simpa using hne
      range := by simpa using hrange
      boolean := by
        intro e he
        obtain rfl := List.mem_singleton.mp he
        exact .inl isTrue_true }
  scancodes_eq := rfl
  keycodes_eq := rfl

/-- `0x40000052`, the arrow up. -/
def arrowUp : Numeral := hexNumeral "40000052".toList (by decide) rfl

/-- **Another key is blocked**: `0x40000052` is loaded as `0x52`. The arrow up is replayed, and the key of `0x52` is
not. -/
theorem arrow_up_passes :
    let cfg := blockKeycode arrowUp (by decide) (by decide)
    (∃ kb, sdlmsgKbInit cfg.vars = .ok kb ∧
      sdlmsgReplay kb ⟨msgtypeKeyboard, 0, ntohl 0x40000052⟩ ≠ none ∧
      sdlmsgReplay kb ⟨msgtypeKeyboard, 0, ntohl 0x52⟩ = none) ∧
    cfg.keycodes.Blocks 0x40000052 ∧ ¬ cfg.Obeyed := by
  intro cfg
  have hblocks : cfg.keycodes.Blocks 0x40000052 :=
    ⟨(arrowUp, "true".toList), List.mem_singleton.mpr rfl, isTrue_true, by decide⟩
  refine ⟨⟨⟨∅, {0x52}⟩, rfl, by decide, by decide⟩, hblocks, fun h => ?_⟩
  have hrange := cfg.range_of_obeyed h hblocks
  exact absurd hrange.2 (by decide)

end CloudStreaming.Streamer.KeyBlock
