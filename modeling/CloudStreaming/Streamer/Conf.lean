import CloudStreaming.Lib.Runs
import Mathlib.Data.Finmap

/-!
# The configuration store (`streamer/core/ga-conf.cpp:210-656`, `streamer/core/ga-confvar.cpp:34-121`)

A parameter has a plain value and a map of its own. `ga_conf_mapreadv` reads the map with `operator[]`, which inserts
the key it does not find; `ga_conf_maperase` erases the parameter and not the key. `Spec` is the store as its comments
describe it: a finite map from names to a value and a finite map. What the reads return determines the whole store
(`conf_ext`), so the two can be compared after every operation by comparing all reads.

| here | there |
| --- | --- |
| `Str`        | a C string: the characters before the `NUL` |
| `GaConfVar`  | `data`, `mapdata`; the iterator `mi` is left out |
| `Vars`       | `ga_vars` |
| `slen`       | `none`: `store` is `NULL`, the result is a copy |
| `past`       | what follows the buffer of 64 bytes in memory, up to the next `NUL` |
| `Result`     | the string returned, `none` for `NULL`; or the number |
-/

namespace CloudStreaming.Streamer.Conf

abbrev Str := List Char

structure GaConfVar where
  data : Str
  mapdata : Finmap fun _ : Str => Str

abbrev Vars := Finmap fun _ : Str => GaConfVar

/-- `gaConfVar()`. -/
def GaConfVar.new : GaConfVar := ⟨[], ∅⟩

/-- `gaConfVar::operator=(const char *)`. -/
def GaConfVar.assign (value : Str) : GaConfVar := ⟨value, ∅⟩

/-- `gaConfVar::operator[]`: a key that is not there is inserted. -/
def GaConfVar.index (v : GaConfVar) (key : Str) : GaConfVar × Str :=
  match v.mapdata.lookup key with
  | some s => (v, s)
  | none => ({ v with mapdata := v.mapdata.insert key [] }, [])

/-! ## Conversions -/

def isSpace (c : Char) : Bool := c = ' ' || (9 ≤ c.toNat && c.toNat ≤ 13)

def digitValue (c : Char) : Option Nat :=
  if '0' ≤ c ∧ c ≤ '9' then some (c.toNat - '0'.toNat)
  else if 'a' ≤ c ∧ c ≤ 'z' then some (c.toNat - 'a'.toNat + 10)
  else if 'A' ≤ c ∧ c ≤ 'Z' then some (c.toNat - 'A'.toNat + 10)
  else none

def digits (base : Nat) : Str → List Nat
  | [] => []
  | c :: cs =>
    match digitValue c with
    | some d => if d < base then d :: digits base cs else []
    | none => []

/-- The sign `strtol` reads. -/
def readSign : Str → Bool × Str
  | '-' :: s => (true, s)
  | '+' :: s => (false, s)
  | s => (false, s)

/-- The base `strtol(.., 0)` reads: `0x` counts only before a digit. -/
def readBase : Str → Nat × Str
  | '0' :: x :: s =>
    if (x = 'x' ∨ x = 'X') ∧ digits 16 s ≠ [] then (16, s) else (8, '0' :: x :: s)
  | '0' :: s => (8, '0' :: s)
  | s => (10, s)

/-- What `strtol` leaves: the number, `errno == ERANGE`, and whether there was a number. -/
structure Strtol where
  value : Int
  erange : Bool
  parsed : Bool

/-- `strtol(s, &endptr, 0)` with a `long` of 64 bits. -/
def strtol (s : Str) : Strtol :=
  let (neg, s) := readSign (s.dropWhile isSpace)
  let (base, s) := readBase s
  let ds := digits base s
  let n : Int := ds.foldl (fun n d => n * base + d) 0
  let n := if neg then -n else n
  if n < -9223372036854775808 then ⟨-9223372036854775808, true, true⟩
  else if 9223372036854775807 < n then ⟨9223372036854775807, true, true⟩
  else ⟨n, false, ds ≠ []⟩

def lowercase (s : Str) : Str := s.map Char.toLower

/-- `ga_conf_boolval` (`:400`). -/
def gaConfBoolval (s : Str) (defval : Int) : Int :=
  if lowercase s ∈ ["true", "1", "y", "yes", "enabled", "enable"].map String.toList then 1
  else if lowercase s ∈ ["false", "0", "n", "no", "disabled", "disable"].map String.toList then 0
  else defval

/-- A buffer of 64 bytes read as a string: with no `NUL` in it the string goes on behind it. -/
def bufferString (buf past : Str) : Str := if buf.length < 64 then buf else buf ++ past

/-- `long` to `int`. -/
def toInt (n : Int) : Int := Int.bmod n 4294967296

/-! ## The store -/

/-- `ga_conf_readv` (`:232`). -/
def gaConfReadv (c : Vars) (key : Str) (slen : Option Nat) : Option Str :=
  match c.lookup key with
  | none => none
  | some v =>
    match slen with
    | none => some v.data
    | some slen => if v.data.length ≥ slen then none else some v.data

/-- `ga_conf_readstr` (`:253`). -/
def gaConfReadstr (c : Vars) (key : Str) : Str :=
  match c.lookup key with
  | none => []
  | some v => v.data

/-- `ga_conf_readint` (`:271`). -/
def gaConfReadint (c : Vars) (key : Str) : Int :=
  let str := gaConfReadstr c key
  if str = [] then 0
  else
    let sl := strtol str
    if sl.erange ∨ sl.value > 2147483647 ∨ sl.value < -2147483648 then 0
    else if sl.parsed = false then 0
    else sl.value

/-- `ga_conf_readbool` (`:434`). -/
def gaConfReadbool (c : Vars) (key : Str) (defval : Int) : Int :=
  let str := gaConfReadstr c key
  if str = [] then defval else gaConfBoolval str defval

/-- `ga_conf_writev` (`:451`). -/
def gaConfWritev (c : Vars) (key value : Str) : Vars := c.insert key (.assign value)

/-- `ga_conf_erase` (`:465`). -/
def gaConfErase (c : Vars) (key : Str) : Vars := c.erase key

/-- `ga_conf_haskey` (`:492`). -/
def gaConfHaskey (c : Vars) (mapname key : Str) : Int :=
  match c.lookup mapname with
  | none => 0
  | some v => if key ∈ v.mapdata then 1 else 0

/-- `ga_conf_mapsize` (`:506`). -/
def gaConfMapsize (c : Vars) (mapname : Str) : Int :=
  match c.lookup mapname with
  | none => 0
  | some v => toInt v.mapdata.keys.card

/-- `ga_conf_ismap` (`:479`). -/
def gaConfIsmap (c : Vars) (mapname : Str) : Int := if gaConfMapsize c mapname > 0 then 1 else 0

/-- `ga_conf_mapreadv` (`:527`): the key is looked up with `operator[]`. -/
def gaConfMapreadv (c : Vars) (mapname key : Str) (slen : Option Nat) : Vars × Option Str :=
  match c.lookup mapname with
  | none => (c, none)
  | some v =>
    let (v, s) := v.index key
    let c := c.insert mapname v
    if s = [] then (c, none)
    else
      match slen with
      | none => (c, some s)
      | some slen => (c, some (s.take slen))

/-- `ga_conf_mapreadint` (`:550`). -/
def gaConfMapreadint (c : Vars) (mapname key past : Str) : Vars × Int :=
  match gaConfMapreadv c mapname key (some 64) with
  | (c, none) => (c, 0)
  | (c, some buf) => (c, toInt (strtol (bufferString buf past)).value)

/-- `ga_conf_mapreadbool` (`:615`). -/
def gaConfMapreadbool (c : Vars) (mapname key : Str) (defval : Int) (past : Str) : Vars × Int :=
  match gaConfMapreadv c mapname key (some 64) with
  | (c, none) => (c, defval)
  | (c, some buf) => (c, gaConfBoolval (bufferString buf past) defval)

/-- `ga_conf_mapwritev` (`:635`). -/
def gaConfMapwritev (c : Vars) (mapname key value : Str) : Vars :=
  let v := (c.lookup mapname).getD .new
  c.insert mapname { v with mapdata := v.mapdata.insert key value }

/-- `ga_conf_maperase` (`:650`): the parameter is erased, `key` is not looked at. -/
def gaConfMaperase (c : Vars) (mapname _key : Str) : Vars :=
  match c.lookup mapname with
  | none => c
  | some _ => c.erase mapname

inductive Read where
  | readv (key : Str) (slen : Option Nat)
  | readstr (key : Str)
  | readint (key : Str)
  | haskey (mapname key : Str)
  | mapsize (mapname : Str)
  | ismap (mapname : Str)
  | mapreadv (mapname key : Str) (slen : Option Nat)
  | mapreadint (mapname key past : Str)
  | mapreadbool (mapname key : Str) (defval : Int) (past : Str)

inductive Op where
  | writev (key value : Str)
  | mapwritev (mapname key value : Str)
  | erase (key : Str)
  | maperase (mapname key : Str)
  | clear
  | read (r : Read)

inductive Result where
  | str (s : Option Str)
  | int (n : Int)
deriving DecidableEq

/-- A read, with the store it leaves behind. -/
def read (c : Vars) : Read → Vars × Result
  | .readv key slen => (c, .str (gaConfReadv c key slen))
  | .readstr key => (c, .str (some (gaConfReadstr c key)))
  | .readint key => (c, .int (gaConfReadint c key))
  | .haskey mapname key => (c, .int (gaConfHaskey c mapname key))
  | .mapsize mapname => (c, .int (gaConfMapsize c mapname))
  | .ismap mapname => (c, .int (gaConfIsmap c mapname))
  | .mapreadv mapname key slen => (gaConfMapreadv c mapname key slen).map id .str
  | .mapreadint mapname key past => (gaConfMapreadint c mapname key past).map id .int
  | .mapreadbool mapname key defval past => (gaConfMapreadbool c mapname key defval past).map id .int

def step (c : Vars) : Op → Vars
  | .writev key value => gaConfWritev c key value
  | .mapwritev mapname key value => gaConfMapwritev c mapname key value
  | .erase key => gaConfErase c key
  | .maperase mapname key => gaConfMaperase c mapname key
  | .clear => ∅
  | .read r => (read c r).1

/-! ## The store as a map of maps -/

namespace Spec

/-- The value of a key of a parameter map. -/
def mapValue (c : Vars) (mapname key : Str) : Option Str := (c.lookup mapname).bind fun v => v.mapdata.lookup key

/-- What a read of a parameter map hands out: `NULL` for the empty value. -/
def mapRead (c : Vars) (mapname key : Str) : Option Str := (mapValue c mapname key).filter (· ≠ [])

/-- What `strncpy` copies. -/
def copied (slen : Option Nat) (s : Str) : Str := (slen.map s.take).getD s

def read (c : Vars) : Read → Result
  | .readv key slen => .str (gaConfReadv c key slen)
  | .readstr key => .str (some (gaConfReadstr c key))
  | .readint key => .int (gaConfReadint c key)
  | .haskey mapname key => .int (if (mapValue c mapname key).isSome then 1 else 0)
  | .mapsize mapname => .int (gaConfMapsize c mapname)
  | .ismap mapname => .int (gaConfIsmap c mapname)
  | .mapreadv mapname key slen => .str ((mapRead c mapname key).map (copied slen))
  | .mapreadint mapname key past => .int
      (((mapRead c mapname key).map fun s => toInt (strtol (bufferString (s.take 64) past)).value).getD 0)
  | .mapreadbool mapname key defval past => .int
      (((mapRead c mapname key).map fun s => gaConfBoolval (bufferString (s.take 64) past) defval).getD defval)

/-- A write changes the entry it names, `maperase` the key it names, a read nothing. -/
def step (c : Vars) : Op → Vars
  | .writev key value => c.insert key ⟨value, ∅⟩
  | .mapwritev mapname key value =>
    let v := (c.lookup mapname).getD ⟨[], ∅⟩
    c.insert mapname { v with mapdata := v.mapdata.insert key value }
  | .erase key => c.erase key
  | .maperase mapname key =>
    match c.lookup mapname with
    | none => c
    | some v => c.insert mapname { v with mapdata := v.mapdata.erase key }
  | .clear => ∅
  | .read _ => c

end Spec

/-- The store as the reads show it is the one of the specification. -/
def Agree (c d : Vars) : Prop := ∀ r, (read c r).2 = Spec.read d r

end CloudStreaming.Streamer.Conf
