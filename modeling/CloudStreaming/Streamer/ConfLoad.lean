import CloudStreaming.Lib.Scripts
import CloudStreaming.Streamer.ConfFile

/-!
# Loading configuration files (`streamer/core/ga-conf.cpp:110-208`)

`ga_conf_load` parses a file line by line and `ga_conf_parse` calls it again for an `include`. Nothing remembers which
files are being loaded: a file that includes itself, directly or through others, is opened again and again, and the
call that should return 0 or -1 (`:182`) never does. Loading is a run of scripts in the sense of `Scripts`: a line
passes, or fails and ends its file, or calls another file. `gaConfLoad_terminates_iff` is the exact condition.

| here | there |
| --- | --- |
| `Files`       | `fopen` and `fgets`: the lines of the file of that name, `none` if it does not open |
| `gaConfLoad`  | `ga_conf_load` on a name that is not null; `fuel` bounds the depth of the calls, `none` is a deeper one |
| `confScript`  | a file as a script |

Whether a file opens depends on its name only: the limits of a process on open files and on the stack, which end an
endless recursion in their own way, are left out, and so are the log messages.
-/

namespace CloudStreaming.Streamer.Conf

open Scripts

abbrev Files := Str → Option (List Str)

/-- `ga_conf_parse` (`:111`), `load` being `ga_conf_load`. -/
def gaConfParse (load : Vars → Str → Option (Vars × Int)) (filename : Str) (c : Vars) (buf : Str) :
    Option (Vars × Int) :=
  match lineAction filename buf with
  | .skip => some (c, 0)
  | .malformed => some (c, -1)
  | .load path => load c path
  | .assign option value => some ((LineAction.assign option value).store c, 0)
  | .assignMap option key value => some ((LineAction.assignMap option key value).store c, 0)

/-- The loop over the lines (`:199-207`). -/
def loadLines (load : Vars → Str → Option (Vars × Int)) (filename : Str) : Vars → Nat → List Str → Option (Vars × Int)
  | c, lineno, [] => some (c, lineno)
  | c, lineno, buf :: lines =>
    match gaConfParse load filename c buf with
    | none => none
    | some (c, ret) => if ret < 0 then some (c, -1) else loadLines load filename c (lineno + 1) lines

/-- `ga_conf_load` (`:189`): the store it leaves and its result. -/
def gaConfLoad (fs : Files) : Nat → Vars → Str → Option (Vars × Int)
  | 0, _, _ => none
  | fuel + 1, c, filename =>
    match fs filename with
    | none => some (c, -1)
    | some lines => loadLines (gaConfLoad fs fuel) filename c 0 lines

/-! ## Files as scripts -/

def lineCmd (filename buf : Str) : Cmd Str :=
  match lineAction filename buf with
  | .malformed => .fail
  | .load path => .call path
  | _ => .pass

def confScript (fs : Files) (filename : Str) : Option (List (Cmd Str)) :=
  (fs filename).map fun lines => lines.map (lineCmd filename)

/-- Loading `a` gets to an include of `b`: the line names `b`, and all lines before it pass. -/
def Includes (fs : Files) (a b : Str) : Prop := Calls (confScript fs) a b

/-- Whether a load succeeded. -/
def loaded (r : Vars × Int) : Bool := decide (0 ≤ r.2)

/-- The loop takes the course of the script; what it stores has no influence on it. -/
theorem loadLines_run {load : Vars → Str → Option (Vars × Int)} {rec : Str → Option Bool}
    (h : ∀ c path, (load c path).map loaded = rec path) (filename : Str) :
    ∀ (lines : List Str) (c : Vars) (lineno : Nat),
      (loadLines load filename c lineno lines).map loaded = runCmds rec (lines.map (lineCmd filename))
  | [], c, lineno => by simp [loadLines, runCmds, loaded]
  | buf :: lines, c, lineno => by
    have ih := loadLines_run h filename lines
    rw [loadLines, List.map_cons]
    unfold gaConfParse lineCmd
    cases lineAction filename buf with
    | skip => exact ih c (lineno + 1)
    | malformed => rfl
    | assign option value => exact ih _ (lineno + 1)
    | assignMap option key value => exact ih _ (lineno + 1)
    | load path =>
      have hpath := h c path
      dsimp only
      rw [runCmds, ← hpath]
      cases hl : load c path with
      | none => rfl
      | some r =>
        dsimp only [Option.map_some]
        by_cases hneg : r.2 < 0
        · have hfail : loaded r = false := decide_eq_false (not_le.mpr hneg)
          rw [if_pos hneg, hfail]
          rfl
        · have hok : loaded r = true := decide_eq_true (not_lt.mp hneg)
          rw [if_neg hneg, hok]
          exact ih r.1 (lineno + 1)

theorem gaConfLoad_run (fs : Files) : ∀ (fuel : Nat) (c : Vars) (filename : Str),
    (gaConfLoad fs fuel c filename).map loaded = run (confScript fs) fuel filename
  | 0, _, _ => rfl
  | fuel + 1, c, filename => by
    rw [gaConfLoad, run]
    cases hf : fs filename with
    | none =>
      have hs : confScript fs filename = none := by rw [confScript, hf]; rfl
      rw [hs]
      rfl
    | some lines =>
      have hs : confScript fs filename = some (lines.map (lineCmd filename)) := by rw [confScript, hf]; rfl
      rw [hs]
      exact loadLines_run (gaConfLoad_run fs fuel) filename lines c 0

/-- `ga_conf_load` returns. -/
def Returns (fs : Files) (c : Vars) (filename : Str) : Prop := ∃ fuel, (gaConfLoad fs fuel c filename).isSome = true

theorem returns_iff (fs : Files) (c : Vars) (filename : Str) :
    Returns fs c filename ↔ Terminates (confScript fs) filename := by
  have h : ∀ fuel, (run (confScript fs) fuel filename).isSome = (gaConfLoad fs fuel c filename).isSome := by
    intro fuel
    rw [← gaConfLoad_run fs fuel c, Option.isSome_map]
  simp only [Returns, Terminates, h]

/-- **`ga_conf_load` returns exactly when no infinite chain of includes starts at the file**; with finitely many files
that open, when no file it reaches includes itself, directly or through others. -/
theorem gaConfLoad_terminates_iff (fs : Files) (c : Vars) (filename : Str) :
    (Returns fs c filename ↔ ¬ ∃ f : Nat → Str, f 0 = filename ∧ ∀ i, Includes fs (f i) (f (i + 1))) ∧
    ({path | (fs path).isSome = true}.Finite →
      (Returns fs c filename ↔
        ∀ b, Relation.ReflTransGen (Includes fs) filename b → ¬ Relation.TransGen (Includes fs) b b)) := by
  constructor
  · have hchain := not_acc_iff_exists_descending_chain (r := fun b a => Includes fs a b) (x := filename)
    rw [returns_iff, terminates_iff_acc]
    exact not_not.symm.trans (not_congr hchain)
  · intro hfin
    rw [returns_iff]
    apply terminates_iff_acyclic
    apply hfin.subset
    intro path hpath
    simpa [confScript] using hpath

/-- `ga.conf` with the one line `include = ga.conf`. -/
def selfInclude : Files := fun path => if path = "ga.conf".toList then some ["include = ga.conf\n".toList] else none

/-- A file that includes itself is never loaded. -/
theorem selfInclude_diverges : ¬ Returns selfInclude ∅ "ga.conf".toList := by
  rintro ⟨fuel, h⟩
  have hnone : ∀ fuel c, gaConfLoad selfInclude fuel c "ga.conf".toList = none := by
    intro fuel
    induction fuel with
    | zero => intro c; rfl
    | succ fuel ih =>
      intro c
      have hline : lineAction "ga.conf".toList "include = ga.conf\n".toList = .load "ga.conf".toList := by decide +kernel
      have hfs : selfInclude "ga.conf".toList = some ["include = ga.conf\n".toList] := if_pos rfl
      rw [gaConfLoad, hfs]
      simp only [loadLines, gaConfParse, hline, ih]
  rw [hnone] at h
  cases h

end CloudStreaming.Streamer.Conf
