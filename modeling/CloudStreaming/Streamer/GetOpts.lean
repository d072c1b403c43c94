import Mathlib.Data.List.GetD
import Mathlib.Data.List.Nodup

/-!
# The streamer's command line (`streamer/core/ga-get-opts.cpp:136-238`)

`ga_get_opts::parse` walks the words behind the application's name. A word that starts with `-` is an option, in its
short form `-c` or its long form `--name`; depending on the option's argument type the next word is its argument. The
first other word ends the walk, and only then are the caller's `argc` and `argv` moved behind the options.

`CommandLine` is the grammar, by the words alone; `parse` follows the source.

| here | there |
| --- | --- |
| `CStr`        | a C string: the characters before the `NUL` |
| `Opt`         | `ga_get_opts::option`; a short name `NUL` or an empty long name is none (`usage_options`, `:328-338`) |
| `argumentCheck` | the virtual `argument_check`, on the argument just stored |
| `Result.argv` | `argv_ref_`, as an index into the caller's table |
-/

namespace CloudStreaming.Streamer.GetOpts

structure CStr where
  chars : List Char
  noNul : '\x00' ∉ chars

/-- `ptr[i]`: the `NUL` ends the string. -/
def CStr.get (s : CStr) (i : Nat) : Char := s.chars.getD i '\x00'

def CStr.strlen (s : CStr) : Nat := s.chars.length

inductive ArgumentType where
  | no
  | optional
  | mandatory
deriving DecidableEq

structure Opt where
  shortName : Char
  longName : List Char
  argumentType : ArgumentType
  argumentCheck : List Char → Bool
  argument : List Char
  valid : Bool

inductive Thrown where
  | nameNotGiven
  | moreThanOneCharacter
  | notSupported
  | onlyOnce
  | badArgument
  | mandatoryNotSpecified
deriving DecidableEq

def Thrown.text : Thrown → String
  | nameNotGiven => "ga_get_opts: Option name not given!!!"
  | moreThanOneCharacter => "ga_get_opts: More than one character given for a short form of an option!!!"
  | notSupported => "ga_get_opts: Option not supported"
  | onlyOnce => "ga_get_opts: Option can be specified only once!!!"
  | badArgument => "ga_get_opts: Bad argument given for an option!!!"
  | mandatoryNotSpecified => "ga_get_opts: Mandatory argument not specified for option!!!"

/-- The search of the known options (`:153-174`): the option and its place in the list. -/
def findOption (ptr : CStr) : List Opt → Except Thrown (Option (Nat × Opt))
  | [] => .ok none
  | o :: os =>
    if ptr.get 1 = '-' then
      if 2 < ptr.strlen ∧ o.longName = ptr.chars.drop 2 then .ok (some (0, o))
      else (findOption ptr os).map (Option.map fun p => (p.1 + 1, p.2))
    else if ptr.strlen ≠ 2 then .error .moreThanOneCharacter
    else if o.shortName = ptr.get 1 then .ok (some (0, o))
    else (findOption ptr os).map (Option.map fun p => (p.1 + 1, p.2))

/-- `found` (`:192-204`): the next word, if it is the argument. -/
def nextArgument (argType : ArgumentType) : List CStr → Option CStr
  | [] => none
  | next :: _ =>
    if next.strlen = 0 then none
    else if argType = .optional ∧ next.get 0 = '-' then none
    else some next

/-- What one turn of the loop does: it leaves it, throws, or goes on behind one word or two. -/
inductive Turn where
  | over
  | throws (e : Thrown) (opts : List Opt)
  | one (opts : List Opt)
  | two (opts : List Opt)

/-- `valid(true)` (`:227`). -/
def setValid (o : Opt) : Opt := { o with valid := true }

/-- `argument(value)` (`:208`). -/
def setArgument (a : List Char) (o : Opt) : Opt := { o with argument := a }

/-- The body of the loop (`:142-232`) at the word `ptr`. -/
def turn (opts : List Opt) (ptr : CStr) (rest : List CStr) : Turn :=
  if ptr.get 0 = '-' then
    if ptr.strlen = 1 then .throws .nameNotGiven opts
    else
      match findOption ptr opts with
      | .error e => .throws e opts
      | .ok none => .throws .notSupported opts
      | .ok (some (k, o)) =>
        if o.valid then .throws .onlyOnce opts
        else if o.argumentType = .no then .one (opts.modify k setValid)
        else
          match nextArgument o.argumentType rest with
          | some a =>
            let opts := opts.modify k (setArgument a.chars)
            if o.argumentCheck a.chars then .two (opts.modify k setValid) else .throws .badArgument opts
          | none =>
            if o.argumentType = .mandatory then .throws .mandatoryNotSpecified opts
            else .one (opts.modify k setValid)
  else .over

structure Loop where
  opts : List Opt
  i : Nat
  thrown : Option Thrown

/-- The loop (`:141`): `words` is the table from `i` on. -/
def loop (opts : List Opt) (i : Nat) : List CStr → Loop
  | [] => ⟨opts, i, none⟩
  | ptr :: rest =>
    match turn opts ptr rest, rest with
    | .over, _ => ⟨opts, i, none⟩
    | .throws e opts, _ => ⟨opts, i, some e⟩
    | .one opts, rest => loop opts (i + 1) rest
    | .two opts, [] => ⟨opts, i + 2, none⟩
    | .two opts, _ :: rest => loop opts (i + 2) rest

structure Result where
  opts : List Opt
  argc : Int
  argv : Nat
  thrown : Option Thrown

/-- `ga_get_opts::parse` (`:136`), called with `argc` the length of the table. -/
def parse (opts : List Opt) (table : List CStr) : Result :=
  let l := loop opts 1 table.tail
  match l.thrown with
  | some e => ⟨l.opts, table.length, 0, some e⟩
  | none => ⟨l.opts, table.length - l.i, l.i, none⟩

/-! ## The grammar -/

/-- The word is the short form `-c` or the long form `--name` of the option. -/
def Opt.InForm (o : Opt) (w : CStr) : Prop :=
  w.chars = ['-', o.shortName] ∨ (w.chars = '-' :: '-' :: o.longName ∧ o.longName ≠ [])

/-- The forms that `parse` knows: a word that starts with `--` is a long form only. -/
def Opt.NamedBy (o : Opt) (w : CStr) : Prop :=
  (w.chars = ['-', o.shortName] ∧ o.shortName ≠ '-') ∨ (w.chars = '-' :: '-' :: o.longName ∧ o.longName ≠ [])

/-- An option, by its place in the list, and the argument it was given. -/
abbrev Use := Nat × Option (List Char)

/-- The word is one that an option can take: not empty and, where the argument is optional, not led by `-`. -/
def ArgumentType.Takes (t : ArgumentType) (a : CStr) : Prop :=
  a.chars ≠ [] ∧ (t = .optional → a.get 0 ≠ '-')

/-- `words` are options of `opts` in a form of `named`, used as in `uses`, and then `rest`. -/
inductive CommandLine (named : Opt → CStr → Prop) (opts : List Opt) : List CStr → List Use → List CStr → Prop
  | rest {rest : List CStr} (h : ∀ w, rest.head? = some w → w.get 0 ≠ '-') : CommandLine named opts rest [] rest
  | flag {k : Nat} {o : Opt} {w : CStr} {words rest : List CStr} {uses : List Use} (hk : opts[k]? = some o)
      (hw : named o w) (ht : o.argumentType = .no) (h : CommandLine named opts words uses rest) :
      CommandLine named opts (w :: words) ((k, none) :: uses) rest
  | omitted {k : Nat} {o : Opt} {w : CStr} {words rest : List CStr} {uses : List Use} (hk : opts[k]? = some o)
      (hw : named o w) (ht : o.argumentType = .optional)
      (hnext : ∀ a, words.head? = some a → ¬ ArgumentType.optional.Takes a)
      (h : CommandLine named opts words uses rest) : CommandLine named opts (w :: words) ((k, none) :: uses) rest
  | given {k : Nat} {o : Opt} {w a : CStr} {words rest : List CStr} {uses : List Use} (hk : opts[k]? = some o)
      (hw : named o w) (ht : o.argumentType ≠ .no) (ha : o.argumentType.Takes a)
      (hc : o.argumentCheck a.chars = true) (h : CommandLine named opts words uses rest) :
      CommandLine named opts (w :: a :: words) ((k, some a.chars) :: uses) rest

/-- No option is used twice. -/
def Once (uses : List Use) : Prop := (uses.map Prod.fst).Nodup

/-- Distinct names, as far as the options have names. -/
def Distinct (opts : List Opt) : Prop :=
  opts.Pairwise fun o o' =>
    (o.shortName = o'.shortName → o.shortName = '\x00') ∧ (o.longName = o'.longName → o.longName = [])

/-- The option after one use. -/
def Opt.used (a : Option (List Char)) (o : Opt) : Opt := { o with valid := true, argument := a.getD o.argument }

/-- The option at `k` after the uses. -/
def mark (uses : List Use) (k : Nat) (o : Opt) : Opt :=
  match uses.lookup k with
  | none => o
  | some a => o.used a

/-- The options after the uses: those used are valid, with the arguments given. -/
def marked (opts : List Opt) (uses : List Use) : List Opt := opts.mapIdx (mark uses)

/-! ## Uses -/

section
variable {opts : List Opt} {uses : List Use} {k : Nat} {o : Opt}

theorem lookup_of_unused (h : k ∉ uses.map Prod.fst) : uses.lookup k = none := by
  rw [List.lookup_eq_none_iff]
  intro p hp
  rw [bne_iff_ne]
  rintro rfl
  exact h (List.mem_map_of_mem hp)

theorem mark_of_unused (h : k ∉ uses.map Prod.fst) : mark uses k o = o := by
  rw [mark, lookup_of_unused h]

/-- One more use of an option changes that option only. -/
theorem mark_append (a : Option (List Char)) (j : Nat) (h : k ∉ uses.map Prod.fst) :
    mark (uses ++ [(k, a)]) j o = if k = j then o.used a else mark uses j o := by
  unfold mark
  rw [List.lookup_append]
  by_cases hj : k = j
  · subst hj
    rw [if_pos rfl, lookup_of_unused h]
    simp
  · have hne : (j == k) = false := beq_eq_false_iff_ne.mpr (Ne.symm hj)
    rw [if_neg hj]
    simp [List.lookup_cons, hne]

theorem marked_append (a : Option (List Char)) (h : k ∉ uses.map Prod.fst) :
    marked opts (uses ++ [(k, a)]) = (marked opts uses).modify k (Opt.used a) := by
  apply List.ext_getElem?
  intro j
  rw [marked, marked, List.getElem?_mapIdx, List.getElem?_modify, List.getElem?_mapIdx]
  cases hj : opts[j]? with
  | none => rfl
  | some o =>
    rw [Option.map_some, mark_append a j h]
    by_cases hkj : k = j
    · subst hkj
      simp [mark_of_unused h]
    · simp [hkj]

theorem marked_nil : marked opts [] = opts := by
  apply List.ext_getElem?
  intro j
  rw [marked, List.getElem?_mapIdx]
  cases opts[j]? with
  | none => rfl
  | some o => rfl

/-- Uses leave the names. -/
theorem Distinct.marked (h : Distinct opts) (uses : List Use) : Distinct (marked opts uses) := by
  have hnames : (GetOpts.marked opts uses).map (fun o => (o.shortName, o.longName)) =
      opts.map fun o => (o.shortName, o.longName) := by
    apply List.ext_getElem?
    intro j
    rw [List.getElem?_map, List.getElem?_map, GetOpts.marked, List.getElem?_mapIdx]
    cases opts[j]? with
    | none => rfl
    | some o =>
      simp only [Option.map_some, mark]
      split <;> rfl
  have hpair : ∀ l : List Opt, Distinct l ↔ (l.map fun o => (o.shortName, o.longName)).Pairwise fun p q =>
      (p.1 = q.1 → p.1 = '\x00') ∧ (p.2 = q.2 → p.2 = []) := by
    intro l
    rw [List.pairwise_map]
    rfl
  rw [hpair, hnames, ← hpair]
  exact h

end

/-! ## The search -/

section
variable {w : CStr} {o o' : Opt} {k : Nat} {cur : List Opt}

/-- The two tests of the search, of a word that is led by `-`. -/
theorem namedBy_iff (h0 : w.get 0 = '-') :
    o.NamedBy w ↔ (w.get 1 = '-' ∧ 2 < w.strlen ∧ o.longName = w.chars.drop 2) ∨
      (w.get 1 ≠ '-' ∧ w.strlen = 2 ∧ o.shortName = w.get 1) := by
  unfold Opt.NamedBy CStr.get CStr.strlen at *
  match h : w.chars with
  | [] => simp [h] at h0
  | [a] => simp
  | a :: b :: cs =>
    simp only [h, List.getD_cons_zero] at h0
    subst h0
    simp only [List.getD_cons_succ, List.getD_cons_zero, List.length_cons, List.drop_succ_cons, List.drop_zero,
      List.cons.injEq, true_and]
    constructor
    · rintro (⟨⟨rfl, rfl⟩, hne⟩ | ⟨⟨rfl, rfl⟩, hne⟩)
      · exact .inr ⟨hne, rfl, rfl⟩
      · have := List.length_pos_of_ne_nil hne
        exact .inl ⟨rfl, by omega, rfl⟩
    · rintro (⟨rfl, hlen, hname⟩ | ⟨hne, hlen, hname⟩)
      · refine .inr ⟨⟨rfl, hname.symm⟩, ?_⟩
        rw [hname]
        exact List.ne_nil_of_length_pos (by omega)
      · have hcs : cs = [] := List.eq_nil_of_length_eq_zero (by omega)
        exact .inl ⟨⟨hname.symm, hcs⟩, hname ▸ hne⟩

theorem Opt.NamedBy.led (h : o.NamedBy w) : w.get 0 = '-' := by
  rcases h with ⟨h, -⟩ | ⟨h, -⟩ <;> simp [CStr.get, h]

theorem Opt.NamedBy.strlen_ne (h : o.NamedBy w) : w.strlen ≠ 1 := by
  rcases h with ⟨h, -⟩ | ⟨h, -⟩ <;> simp [CStr.strlen, h]

/-- The character of a word of two is not the `NUL`, so it is a name. -/
theorem get_one_ne_nul (h : w.strlen = 2) : w.get 1 ≠ '\x00' := by
  have hlt : 1 < w.chars.length := by
    rw [CStr.strlen] at h
    omega
  rw [CStr.get, List.getD_eq_getElem _ _ hlt]
  intro hnul
  exact w.noNul (hnul ▸ List.getElem_mem hlt)

/-- A word that names two options: they have one name. -/
theorem Opt.NamedBy.same (h : o.NamedBy w) (h' : o'.NamedBy w) :
    (o.shortName = o'.shortName ∧ o.shortName ≠ '\x00') ∨ (o.longName = o'.longName ∧ o.longName ≠ []) := by
  have h0 := h.led
  rcases (namedBy_iff h0).mp h with ⟨hl, hlen, hname⟩ | ⟨hl, hlen, hname⟩
  · rcases (namedBy_iff h0).mp h' with ⟨-, -, hname'⟩ | ⟨hl', -, -⟩
    · refine .inr ⟨hname.trans hname'.symm, ?_⟩
      rw [hname]
      apply List.ne_nil_of_length_pos
      rw [List.length_drop]
      exact Nat.sub_pos_of_lt hlen
    · exact absurd hl hl'
  · rcases (namedBy_iff h0).mp h' with ⟨hl', -, -⟩ | ⟨-, -, hname'⟩
    · exact absurd hl' hl
    · refine .inl ⟨hname.trans hname'.symm, ?_⟩
      rw [hname]
      exact get_one_ne_nul hlen

/-- What the search finds has the name. -/
theorem findOption_sound (h0 : w.get 0 = '-') :
    ∀ {cur : List Opt} {k : Nat} {o : Opt}, findOption w cur = .ok (some (k, o)) → cur[k]? = some o ∧ o.NamedBy w
  | [], k, o, h => by simp [findOption] at h
  | p :: ps, k, o, h => by
    have hrest : (findOption w ps).map (Option.map fun q => (q.1 + 1, q.2)) = .ok (some (k, o)) →
        (p :: ps)[k]? = some o ∧ o.NamedBy w := by
      intro h
      match hf : findOption w ps with
      | .error e =>
        rw [hf] at h
        cases h
      | .ok none =>
        rw [hf] at h
        cases h
      | .ok (some (j, o')) =>
        rw [hf] at h
        obtain ⟨rfl, rfl⟩ : j + 1 = k ∧ o' = o := by simpa [Except.map] using h
        obtain ⟨hk, hw⟩ := findOption_sound h0 hf
        exact ⟨hk, hw⟩
    unfold findOption at h
    split at h
    · next h1 =>
      split at h
      · next hlong =>
        obtain ⟨rfl, rfl⟩ : 0 = k ∧ p = o := by simpa using h
        exact ⟨rfl, (namedBy_iff h0).mpr (.inl ⟨h1, hlong⟩)⟩
      · exact hrest h
    · next h1 =>
      split at h
      · cases h
      · next hlen =>
        split at h
        · next hshort =>
          obtain ⟨rfl, rfl⟩ : 0 = k ∧ p = o := by simpa using h
          exact ⟨rfl, (namedBy_iff h0).mpr (.inr ⟨h1, not_not.mp hlen, hshort⟩)⟩
        · exact hrest h

/-- The option of the name is found. -/
theorem findOption_complete (hw : o.NamedBy w) :
    ∀ {cur : List Opt} {k : Nat}, Distinct cur → cur[k]? = some o → findOption w cur = .ok (some (k, o))
  | [], k, _, hk => by simp at hk
  | p :: ps, 0, _, hk => by
    obtain rfl : p = o := by simpa using hk
    rcases (namedBy_iff hw.led).mp hw with ⟨h1, hlong⟩ | ⟨h1, hlen, hshort⟩
    · rw [findOption, if_pos h1, if_pos hlong]
    · rw [findOption, if_neg h1, if_neg (not_not.mpr hlen), if_pos hshort]
  | p :: ps, k + 1, hd, hk => by
    obtain ⟨hp, hps⟩ := List.pairwise_cons.mp hd
    have hk' : ps[k]? = some o := hk
    have hp := hp o (List.mem_of_getElem? hk')
    -- the word names an option behind `p`, so it does not name `p`
    have hnot : ¬ p.NamedBy w := by
      intro h
      rcases h.same hw with ⟨hs, hne⟩ | ⟨hl, hne⟩
      · exact hne (hp.1 hs)
      · exact hne (hp.2 hl)
    rw [namedBy_iff hw.led, not_or] at hnot
    have ih := findOption_complete hw hps hk'
    rcases (namedBy_iff hw.led).mp hw with ⟨h1, -⟩ | ⟨h1, hlen, -⟩
    · rw [findOption, if_pos h1, if_neg fun h => hnot.1 ⟨h1, h⟩, ih]
      rfl
    · rw [findOption, if_neg h1, if_neg (not_not.mpr hlen), if_neg fun h => hnot.2 ⟨h1, hlen, h⟩, ih]
      rfl

end

/-! ## One turn -/

section
variable {opts : List Opt} {done : List Use} {k : Nat} {o : Opt} {w a : CStr} {rest : List CStr}

/-- The option of an unused name, among the options as they are now. -/
theorem getElem?_marked (hk : opts[k]? = some o) (hnew : k ∉ done.map Prod.fst) : (marked opts done)[k]? = some o := by
  rw [marked, List.getElem?_mapIdx, hk, Option.map_some, mark_of_unused hnew]

/-- An option that was used is valid. -/
theorem valid_of_used (hk : (marked opts done)[k]? = some o) (hused : k ∈ done.map Prod.fst) : o.valid = true := by
  rw [marked, List.getElem?_mapIdx] at hk
  obtain ⟨p, -, rfl⟩ := Option.map_eq_some_iff.mp hk
  unfold mark
  cases hl : done.lookup k with
  | some a => rfl
  | none =>
    obtain ⟨u, hu, rfl⟩ := List.mem_map.mp hused
    rw [List.lookup_eq_none_iff] at hl
    simpa using hl u hu

theorem modify_setValid (hnew : k ∉ done.map Prod.fst) :
    (marked opts done).modify k setValid = marked opts (done ++ [(k, none)]) := by
  rw [marked_append none hnew]
  rfl

theorem modify_setArgument (b : List Char) (hnew : k ∉ done.map Prod.fst) :
    ((marked opts done).modify k (setArgument b)).modify k setValid = marked opts (done ++ [(k, some b)]) := by
  rw [marked_append (some b) hnew, List.modify_modify_eq]
  rfl

theorem nextArgument_eq_some {t : ArgumentType} :
    nextArgument t rest = some a ↔ rest.head? = some a ∧ t.Takes a := by
  cases rest with
  | nil => simp [nextArgument]
  | cons next rest =>
    have hempty : next.strlen = 0 ↔ next.chars = [] := List.length_eq_zero_iff
    simp only [nextArgument, ArgumentType.Takes, List.head?_cons, Option.some_inj]
    constructor
    · intro h
      split at h
      · cases h
      · next hlen =>
        split at h
        · cases h
        · next hled =>
          obtain rfl : next = a := Option.some.inj h
          exact ⟨rfl, fun hnil => hlen (hempty.mpr hnil), fun ht hl => hled ⟨ht, hl⟩⟩
    · rintro ⟨rfl, hne, hled⟩
      rw [if_neg fun h => hne (hempty.mp h), if_neg fun h => hled h.1 h.2]

theorem nextArgument_eq_none {t : ArgumentType} :
    nextArgument t rest = none ↔ ∀ a, rest.head? = some a → ¬ t.Takes a := by
  rw [Option.eq_none_iff_forall_ne_some]
  constructor
  · intro h a ha ht
    exact h a (nextArgument_eq_some.mpr ⟨ha, ht⟩)
  · intro h a ha
    obtain ⟨hhead, ht⟩ := nextArgument_eq_some.mp ha
    exact h a hhead ht

/-- The turn at an option that is named and was not used. -/
theorem turn_named (rest : List CStr) (hd : Distinct opts) (hv : ∀ o ∈ opts, o.valid = false) (hk : opts[k]? = some o)
    (hw : o.NamedBy w) (hnew : k ∉ done.map Prod.fst) :
    turn (marked opts done) w rest =
      if o.argumentType = .no then .one (marked opts (done ++ [(k, none)]))
      else
        match nextArgument o.argumentType rest with
        | some a =>
          if o.argumentCheck a.chars then .two (marked opts (done ++ [(k, some a.chars)]))
          else .throws .badArgument ((marked opts done).modify k (setArgument a.chars))
        | none =>
          if o.argumentType = .mandatory then .throws .mandatoryNotSpecified (marked opts done)
          else .one (marked opts (done ++ [(k, none)])) := by
  have hfind := findOption_complete hw (hd.marked done) (getElem?_marked hk hnew)
  have hvalid : ¬ o.valid = true := by
    rw [hv o (List.mem_of_getElem? hk)]
    exact Bool.false_ne_true
  rw [turn, if_pos hw.led, if_neg hw.strlen_ne, hfind]
  simp only [if_neg hvalid, modify_setValid hnew, modify_setArgument _ hnew]

/-- A turn that goes on is at an option that is named and was not used. -/
theorem turn_inv (h : ∀ e cur, turn (marked opts done) w rest ≠ .throws e cur)
    (hover : turn (marked opts done) w rest ≠ .over) :
    ∃ k o, opts[k]? = some o ∧ o.NamedBy w ∧ k ∉ done.map Prod.fst := by
  unfold turn at h hover
  split at hover
  · next h0 =>
    rw [if_pos h0] at h
    split at hover
    · next hlen => exact absurd (if_pos hlen) (h _ _)
    · next hlen =>
      rw [if_neg hlen] at h
      match hf : findOption w (marked opts done) with
      | .error e => exact absurd (by rw [hf]) (h e _)
      | .ok none => exact absurd (by rw [hf]) (h _ _)
      | .ok (some (k, p)) =>
        rw [hf] at h
        obtain ⟨hk, hw⟩ := findOption_sound h0 hf
        have hnew : k ∉ done.map Prod.fst := by
          intro hused
          exact absurd (if_pos (valid_of_used hk hused)) (h _ _)
        rw [marked, List.getElem?_mapIdx] at hk
        obtain ⟨o, ho, rfl⟩ := Option.map_eq_some_iff.mp hk
        rw [mark_of_unused hnew] at hw
        exact ⟨k, o, ho, hw, hnew⟩
  · exact absurd rfl hover

/-- The ways a turn goes on. -/
theorem turn_cases (hd : Distinct opts) (hv : ∀ o ∈ opts, o.valid = false)
    (h : ∀ e cur, turn (marked opts done) w rest ≠ .throws e cur) (hover : turn (marked opts done) w rest ≠ .over) :
    ∃ k o, opts[k]? = some o ∧ o.NamedBy w ∧ k ∉ done.map Prod.fst ∧
      (turn (marked opts done) w rest = .one (marked opts (done ++ [(k, none)])) ∧
          (o.argumentType = .no ∨ o.argumentType = .optional ∧ nextArgument .optional rest = none) ∨
        ∃ a, turn (marked opts done) w rest = .two (marked opts (done ++ [(k, some a.chars)])) ∧
          o.argumentType ≠ .no ∧ nextArgument o.argumentType rest = some a ∧ o.argumentCheck a.chars = true) := by
  obtain ⟨k, o, hk, hw, hnew⟩ := turn_inv h hover
  refine ⟨k, o, hk, hw, hnew, ?_⟩
  have hturn := turn_named rest hd hv hk hw hnew
  by_cases hno : o.argumentType = .no
  · rw [if_pos hno] at hturn
    exact .inl ⟨hturn, .inl hno⟩
  · rw [if_neg hno] at hturn
    cases hnext : nextArgument o.argumentType rest with
    | some a =>
      simp only [hnext] at hturn
      by_cases hc : o.argumentCheck a.chars = true
      · rw [if_pos hc] at hturn
        exact .inr ⟨a, hturn, hno, rfl, hc⟩
      · rw [if_neg hc] at hturn
        exact absurd hturn (h _ _)
    | none =>
      simp only [hnext] at hturn
      by_cases hm : o.argumentType = .mandatory
      · rw [if_pos hm] at hturn
        exact absurd hturn (h _ _)
      · rw [if_neg hm] at hturn
        have hopt : o.argumentType = .optional := by
          cases ht : o.argumentType with
          | no => exact absurd ht hno
          | optional => rfl
          | mandatory => exact absurd ht hm
        exact .inl ⟨hturn, .inr ⟨hopt, hopt ▸ hnext⟩⟩

theorem turn_over : turn opts w rest = .over ↔ w.get 0 ≠ '-' := by
  constructor
  · intro h h0
    rw [turn, if_pos h0] at h
    split at h
    · cases h
    · split at h
      · cases h
      · cases h
      · split at h
        · cases h
        · split at h
          · cases h
          · split at h
            · split at h <;> cases h
            · split at h <;> cases h
  · intro h0
    rw [turn, if_neg h0]

end

/-! ## The loop -/

section
variable {opts : List Opt} {done uses : List Use} {words rest : List CStr}

theorem loop_over {w : CStr} (i : Nat) (h : turn opts w rest = .over) : loop opts i (w :: rest) = ⟨opts, i, none⟩ := by
  rw [loop.eq_def]
  simp only [h]

theorem loop_one {w : CStr} {cur : List Opt} (i : Nat) (h : turn opts w rest = .one cur) :
    loop opts i (w :: rest) = loop cur (i + 1) rest := by
  rw [loop.eq_def]
  simp only [h]

theorem loop_two {w a : CStr} {cur : List Opt} (i : Nat) (h : turn opts w (a :: rest) = .two cur) :
    loop opts i (w :: a :: rest) = loop cur (i + 2) rest := by
  rw [loop.eq_def]
  simp only [h]

theorem once_append {u : Use} : Once (done ++ u :: uses) → u.1 ∉ done.map Prod.fst := by
  intro h hmem
  rw [Once, List.map_append, List.map_cons] at h
  exact (List.nodup_append.mp h).2.2 _ hmem _ List.mem_cons_self rfl

theorem CommandLine.length_le {named : Opt → CStr → Prop} (h : CommandLine named opts words uses rest) :
    rest.length ≤ words.length := by
  induction h with
  | rest => exact Nat.le_refl _
  | flag hk hw ht h ih => exact Nat.le_succ_of_le ih
  | omitted hk hw ht hnext h ih => exact Nat.le_succ_of_le ih
  | given hk hw ht ha hc h ih => exact Nat.le_succ_of_le (Nat.le_succ_of_le ih)

/-- `rest` is the end of the words. -/
theorem CommandLine.suffix {named : Opt → CStr → Prop} (h : CommandLine named opts words uses rest) :
    rest <:+ words := by
  induction h with
  | rest => exact List.suffix_refl _
  | flag hk hw ht h ih => exact ih.trans (List.suffix_cons _ _)
  | omitted hk hw ht hnext h ih => exact ih.trans (List.suffix_cons _ _)
  | given hk hw ht ha hc h ih => exact ih.trans ((List.suffix_cons _ _).trans (List.suffix_cons _ _))

/-- The loop goes through the options of a command line, and stops at its rest. -/
theorem loop_of_commandLine (hd : Distinct opts) (hv : ∀ o ∈ opts, o.valid = false)
    (h : CommandLine Opt.NamedBy opts words uses rest) :
    ∀ (done : List Use) (i : Nat), Once (done ++ uses) →
      loop (marked opts done) i words =
        ⟨marked opts (done ++ uses), i + (words.length - rest.length), none⟩ := by
  induction h with
  | @rest rest hled =>
    intro done i _
    cases rest with
    | nil => simp [loop]
    | cons w rest =>
      rw [loop_over i (turn_over.mpr (hled w rfl))]
      simp
  | @flag k o w words rest uses hk hw ht h ih =>
    intro done i honce
    have hturn := turn_named words hd hv hk hw (once_append honce)
    rw [if_pos ht] at hturn
    rw [loop_one i hturn, ih _ (i + 1) (by simpa using honce), List.append_assoc, List.length_cons]
    have hle := h.length_le
    congr 1
    omega
  | @omitted k o w words rest uses hk hw ht hnext h ih =>
    intro done i honce
    have hturn := turn_named words hd hv hk hw (once_append honce)
    rw [ht, nextArgument_eq_none.mpr hnext] at hturn
    rw [loop_one i hturn, ih _ (i + 1) (by simpa using honce), List.append_assoc, List.length_cons]
    have hle := h.length_le
    congr 1
    omega
  | @given k o w a words rest uses hk hw ht ha hc h ih =>
    intro done i honce
    have hturn := turn_named (a :: words) hd hv hk hw (once_append honce)
    rw [if_neg ht, nextArgument_eq_some.mpr ⟨rfl, ha⟩] at hturn
    simp only [hc, if_true] at hturn
    rw [loop_two i hturn, ih _ (i + 2) (by simpa using honce), List.append_assoc, List.length_cons, List.length_cons]
    have hle := h.length_le
    congr 1
    omega

theorem Once.concat {k : Nat} (h : Once done) (a : Option (List Char)) (hnew : k ∉ done.map Prod.fst) :
    Once (done ++ [(k, a)]) := by
  rw [Once, List.map_append, List.map_singleton, List.nodup_append]
  refine ⟨h, List.nodup_singleton k, fun x hx y hy hxy => ?_⟩
  obtain rfl : y = k := List.mem_singleton.mp hy
  exact hnew (hxy ▸ hx)

/-- What the loop goes through is a command line. -/
theorem commandLine_of_loop (hd : Distinct opts) (hv : ∀ o ∈ opts, o.valid = false) :
    ∀ (words : List CStr) (done : List Use) (i : Nat), Once done → (loop (marked opts done) i words).thrown = none →
      ∃ uses rest, CommandLine Opt.NamedBy opts words uses rest ∧ Once (done ++ uses)
  | [], done, i, honce, _ => ⟨[], [], .rest (by simp), by simpa using honce⟩
  | w :: words, done, i, honce, hl => by
    by_cases hover : turn (marked opts done) w words = .over
    · refine ⟨[], w :: words, .rest fun w' hw' => ?_, by simpa using honce⟩
      obtain rfl : w = w' := by simpa using hw'
      exact turn_over.mp hover
    · have hgoes : ∀ e cur, turn (marked opts done) w words ≠ .throws e cur := by
        intro e cur hturn
        rw [loop.eq_def] at hl
        simp only [hturn] at hl
        cases hl
      obtain ⟨k, o, hk, hw, hnew, ⟨hturn, harg⟩ | ⟨a, hturn, hno, hnext, hc⟩⟩ := turn_cases hd hv hgoes hover
      · rw [loop_one i hturn] at hl
        obtain ⟨uses, rest, hline, honce'⟩ := commandLine_of_loop hd hv words _ _ (honce.concat none hnew) hl
        refine ⟨(k, none) :: uses, rest, ?_, by simpa using honce'⟩
        rcases harg with hno | ⟨hopt, hnext⟩
        · exact .flag hk hw hno hline
        · exact .omitted hk hw hopt (nextArgument_eq_none.mp hnext) hline
      · obtain ⟨hhead, ha⟩ := nextArgument_eq_some.mp hnext
        cases words with
        | nil => cases hhead
        | cons a' words =>
          obtain rfl : a' = a := by simpa using hhead
          rw [loop_two i hturn] at hl
          obtain ⟨uses, rest, hline, honce'⟩ := commandLine_of_loop hd hv words _ _ (honce.concat _ hnew) hl
          exact ⟨(k, some a'.chars) :: uses, rest, .given hk hw hno ha hc hline, by simpa using honce'⟩

end

/-! ## The whole command line -/

/-- `parse` returns exactly for the command lines, leaves the options marked and the caller behind them; otherwise the
caller's `argc` and `argv` stay. -/
structure Parses (named : Opt → CStr → Prop) (opts : List Opt) (table : List CStr) : Prop where
  returns_iff : (parse opts table).thrown = none ↔
    ∃ uses rest, CommandLine named opts table.tail uses rest ∧ Once uses
  returned : ∀ uses rest, CommandLine named opts table.tail uses rest → Once uses →
    (parse opts table).opts = marked opts uses ∧ (parse opts table).argc = rest.length ∧
      table.drop (parse opts table).argv = rest
  thrown : (parse opts table).thrown ≠ none → (parse opts table).argc = table.length ∧ (parse opts table).argv = 0

theorem parse_of_commandLine {opts : List Opt} {app : CStr} {words rest : List CStr} {uses : List Use}
    (hd : Distinct opts) (hv : ∀ o ∈ opts, o.valid = false) (h : CommandLine Opt.NamedBy opts words uses rest)
    (honce : Once uses) :
    parse opts (app :: words) = ⟨marked opts uses, rest.length, 1 + (words.length - rest.length), none⟩ := by
  have hloop := loop_of_commandLine hd hv h [] 1 (by simpa using honce)
  rw [marked_nil, List.nil_append] at hloop
  have hle := h.length_le
  simp only [parse, List.tail_cons, hloop, List.length_cons, Result.mk.injEq, true_and, and_true]
  omega

/-- **The command line's grammar**: for every list of options with distinct names, none of them valid yet, and every
table with the application's name. -/
theorem parse_grammar (opts : List Opt) (hd : Distinct opts) (hv : ∀ o ∈ opts, o.valid = false) (app : CStr)
    (words : List CStr) : Parses Opt.NamedBy opts (app :: words) := by
  constructor
  case returns_iff =>
    constructor
    · intro h
      have hl : (loop (marked opts []) 1 words).thrown = none := by
        rw [marked_nil]
        cases ht : (loop opts 1 words).thrown with
        | none => rfl
        | some e => simp [parse, ht] at h
      obtain ⟨uses, rest, hline, honce⟩ := commandLine_of_loop hd hv words [] 1 List.nodup_nil hl
      exact ⟨uses, rest, hline, honce⟩
    · rintro ⟨uses, rest, hline, honce⟩
      have hline : CommandLine Opt.NamedBy opts words uses rest := hline
      rw [parse_of_commandLine hd hv hline honce]
  case returned =>
    intro uses rest hline honce
    have hline : CommandLine Opt.NamedBy opts words uses rest := hline
    rw [parse_of_commandLine hd hv hline honce]
    refine ⟨rfl, rfl, ?_⟩
    obtain ⟨front, hfront⟩ : rest <:+ words := hline.suffix
    subst hfront
    rw [Nat.add_comm, List.drop_succ_cons, List.length_append, Nat.add_sub_cancel, List.drop_left]
  case thrown =>
    intro h
    cases ht : (loop opts 1 words).thrown with
    | none => simp [parse, ht] at h
    | some e => simp [parse, ht]

/-- An option with a mandatory argument. -/
def size : Opt := ⟨'s', "size".toList, .mandatory, fun _ => true, [], false⟩

/-- An option with an optional argument. -/
def verbose : Opt := ⟨'v', "verbose".toList, .optional, fun a => a ≠ "no".toList, [], false⟩

def appName : CStr := ⟨"app".toList, by decide⟩

/-- A mandatory argument that looks like an option, and an optional one that is left out. -/
theorem parse_grammar_sample :
    (parse [size, verbose] [appName, ⟨"--size".toList, by decide⟩, ⟨"-v".toList, by decide⟩,
      ⟨"-v".toList, by decide⟩]).thrown = none ∧
    Parses Opt.NamedBy [size, verbose] [appName, ⟨"--size".toList, by decide⟩, ⟨"-v".toList, by decide⟩,
      ⟨"-v".toList, by decide⟩] := by
  refine ⟨by decide, parse_grammar _ ?_ ?_ _ _⟩
  · exact List.pairwise_pair.mpr ⟨by decide, by decide⟩
  · decide

/-- An option whose short name is `-`. -/
def dash : Opt := ⟨'-', "dash".toList, .no, fun _ => true, [], false⟩

/-- **`--` is not a short form**: the option whose short name is `-` cannot be given by it. -/
theorem dash_not_supported :
    Distinct [dash] ∧ (∀ o ∈ [dash], o.valid = false) ∧
    (parse [dash] [appName, ⟨"--".toList, by decide⟩]).thrown = some .notSupported ∧
    ¬ Parses Opt.InForm [dash] [appName, ⟨"--".toList, by decide⟩] := by
  have hthrown : (parse [dash] [appName, ⟨"--".toList, by decide⟩]).thrown = some .notSupported := by decide
  refine ⟨List.pairwise_singleton _ _, by decide, hthrown, fun h => ?_⟩
  have hline : CommandLine Opt.InForm [dash] [⟨"--".toList, by decide⟩] [(0, none)] [] :=
    .flag rfl (.inl rfl) rfl (.rest fun _ h => nomatch h)
  have hnone := h.returns_iff.mpr ⟨_, _, hline, List.nodup_singleton 0⟩
  rw [hthrown] at hnone
  cases hnone

end CloudStreaming.Streamer.GetOpts
