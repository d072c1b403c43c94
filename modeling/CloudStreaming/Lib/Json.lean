import Mathlib.Data.List.Dedup
import Mathlib.Data.Rat.Defs

/-!
# JSON values with checked access

A dynamically typed value in the manner of `nlohmann::json`: access by key and conversion to a C++ type are operations
that fail where the library throws. `none` is the exception.

| here | there |
| --- | --- |
| `Json.int`     | a number without fraction or exponent, signed or unsigned |
| `Json.float`   | any other number, as the exact value of the `double` |
| `index`        | `operator[]` with a key on a value that is not `const`: a key that is not there reads as null |
| `indexed`      | the value after that: the key has been inserted |
| `arithmetic`   | `get` at an arithmetic type: a number or a boolean |
-/

inductive Json where
  | null
  | bool (b : Bool)
  | int (n : Int)
  | float (q : Rat)
  | str (s : String)
  | arr (elems : List Json)
  | obj (fields : List (String × Json))

namespace Json

def isString : Json → Bool
  | str _ => true
  | _ => false

def isNumber : Json → Bool
  | int _ => true
  | float _ => true
  | _ => false

def isObject : Json → Bool
  | obj _ => true
  | _ => false

/-- The number of elements: 0 of null, 1 of a scalar. -/
def size : Json → Nat
  | null => 0
  | arr elems => elems.length
  | obj fields => (fields.map Prod.fst).dedup.length
  | _ => 1

/-- `operator[]` with a key. -/
def index (j : Json) (key : String) : Option Json :=
  match j with
  | null => some null
  | obj fields => some ((fields.lookup key).getD null)
  | _ => none

/-- The value once it was indexed by `key`. -/
def indexed (j : Json) (key : String) : Json :=
  match j with
  | null => obj [(key, null)]
  | obj fields => if (fields.lookup key).isSome then obj fields else obj (fields ++ [(key, null)])
  | j => j

def getString : Json → Option String
  | str s => some s
  | _ => none

def arithmetic : Json → Option Rat
  | int n => some n
  | float q => some q
  | bool b => some (if b then 1 else 0)
  | _ => none

/-- Rounded towards zero, as a cast does. -/
def truncate (q : Rat) : Int := q.num.tdiv q.den

/-- `get<int32_t>`. -/
def getInt32 (j : Json) : Option Int := j.arithmetic.map fun q => (truncate q).bmod 4294967296

/-- `get<uint32_t>`. -/
def getUInt32 (j : Json) : Option Nat := j.arithmetic.map fun q => ((truncate q) % 4294967296).toNat

/-- `get<std::vector<T>>`, for the conversion of an element. -/
def getVector {α : Type} (get : Json → Option α) : Json → Option (List α)
  | arr elems => elems.mapM get
  | _ => none

/-- The field `key`, converted. -/
def read {α : Type} (j : Json) (get : Json → Option α) (key : String) : Option α := (j.index key).bind get

/-- The field `key` can be read and satisfies `p`. -/
def has (j : Json) (key : String) (p : Json → Bool) : Bool := (j.index key).any p

/-- It can be indexed by a key: an object, or null. -/
def indexable : Json → Bool
  | null => true
  | obj _ => true
  | _ => false

theorem getInt32_int (n : Int) : (int n).getInt32 = some (n.bmod 4294967296) := by
  have htrunc : truncate (n : Rat) = n := by simp [truncate]
  show some ((truncate (n : Rat)).bmod 4294967296) = _
  rw [htrunc]

/-! ## Conversion of all elements -/

section
variable {α β : Type} {f : α → Option β}

/-- Every element is converted. -/
theorem mapM_eq_some {g : α → β} {l : List α} (h : ∀ a ∈ l, f a = some (g a)) : l.mapM f = some (l.map g) := by
  induction l with
  | nil => rfl
  | cons a l ih =>
    have hl := ih (fun b hb => h b (List.mem_cons_of_mem a hb))
    simp [List.mapM_cons, h a List.mem_cons_self, hl]

/-- One element is not. -/
theorem mapM_eq_none {l : List α} {a : α} (ha : a ∈ l) (h : f a = none) : l.mapM f = none := by
  induction l with
  | nil => cases ha
  | cons b l ih =>
    rcases List.mem_cons.mp ha with rfl | ha
    · simp [List.mapM_cons, h]
    · cases hb : f b with
      | none => simp [List.mapM_cons, hb]
      | some c => simp [List.mapM_cons, hb, ih ha]

theorem getVector_strings (strings : List String) :
    getVector getString (arr (strings.map str)) = some strings := by
  show (strings.map str).mapM getString = some strings
  induction strings with
  | nil => rfl
  | cons s rest ih => simp [List.mapM_cons, getString, ih]

end

end Json
