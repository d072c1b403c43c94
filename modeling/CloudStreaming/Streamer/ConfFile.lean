import CloudStreaming.Streamer.Conf
import Mathlib.Data.List.DropRight

/-!
# Reading configuration files (`streamer/core/ga-conf.cpp:46-208`)

`ga_conf_load` hands every line to `ga_conf_parse`, which splits it at the first `=`, trims both sides with
`ga_conf_trim` and stores the value, or loads another file for `include`.

Two things go wrong with comments. `ga_conf_trim` looks for `//` at the *first* slash only (`:77-80`), so `a/b//c` keeps
its comment; and the line is split before the comment is removed (`:117-128`), so an `=` inside a comment ends the key
and the rest of the comment becomes the value. `conf_comments_iff` says for which strings and lines neither happens.

| here | there |
| --- | --- |
| `gaConfTrim`   | `ga_conf_trim`; the buffer is changed in place there |
| `LineAction`   | what `ga_conf_parse` does with a line, before it does it |
| `parentPath`, `joinPath` | `std::filesystem::path` with `/` as the separator |
| `uncommented`  | not in the source: a line without its comment |
-/

namespace CloudStreaming.Streamer.Conf

/-! ## `ga_conf_trim` -/

/-- The character after the first slash is a slash. -/
def firstSlashDoubled (s : Str) : Bool :=
  match s.dropWhile (· ≠ '/') with
  | '/' :: '/' :: _ => true
  | _ => false

/-- `if((ptr = strchr(buf, '/')) != NULL) { if(*(ptr+1) == '/') *ptr = '\0'; }` (`:77-80`). -/
def cutFirstSlash (s : Str) : Str := if firstSlashDoubled s then s.takeWhile (· ≠ '/') else s

/-- `ga_conf_trim` (`:62`). The second pass over `#` runs backwards and finds nothing new. -/
def gaConfTrim (buf : Str) : Str :=
  let buf := buf.dropWhile isSpace
  if buf.head? = some '[' then []
  else
    let buf := (buf.takeWhile (· ≠ '#')).takeWhile (· ≠ ';')
    let buf := (cutFirstSlash buf).takeWhile (· ≠ '#')
    buf.rdropWhile isSpace

/-! ### What it should do -/

/-- `//` occurs in the string. -/
def HasSlashes (s : Str) : Prop := ['/', '/'] <:+: s

/-- The text before the first `//`. -/
def beforeSlashes : Str → Str
  | [] => []
  | '/' :: '/' :: _ => []
  | c :: s => c :: beforeSlashes s

/-- The text before the first `#` and the first `;`. -/
def beforeMarks (s : Str) : Str := (s.takeWhile (· ≠ '#')).takeWhile (· ≠ ';')

/-- A line without its comment: the text before the first of `#`, `;` and `//`. -/
def uncommented (s : Str) : Str := beforeSlashes (beforeMarks s)

/-- A trimmed string. -/
structure Trimmed (s t : Str) : Prop where
  head : ∀ c ∈ t.head?, isSpace c = false
  last : ∀ c ∈ t.getLast?, isSpace c = false
  hash : '#' ∉ t
  semicolon : ';' ∉ t
  slashes : ¬ HasSlashes t
  start : t <+: s.dropWhile isSpace
  again : gaConfTrim t = t

/-- `ga_conf_trim` finds the `//` of the string, if it has one: the string is a section header, or the text before its
first `#` and `;` has no `//`, or has it at its first slash. -/
def SlashesFound (s : Str) : Prop :=
  (s.dropWhile isSpace).head? = some '[' ∨ ¬ HasSlashes (beforeMarks (s.dropWhile isSpace)) ∨
    firstSlashDoubled (beforeMarks (s.dropWhile isSpace)) = true

/-! ### Slashes -/

theorem firstSlashDoubled_iff {s : Str} :
    firstSlashDoubled s = true ↔ ∃ rest, s.dropWhile (· ≠ '/') = '/' :: '/' :: rest := by
  unfold firstSlashDoubled
  split
  · rename_i rest h
    exact ⟨fun _ => ⟨rest, h⟩, fun _ => rfl⟩
  · rename_i h
    constructor
    · intro h'
      cases h'
    · rintro ⟨rest, hr⟩
      exact absurd hr (h rest)

theorem cutFirstSlash_isPrefix (s : Str) : cutFirstSlash s <+: s := by
  unfold cutFirstSlash
  split
  · exact List.takeWhile_prefix _
  · exact List.prefix_refl s

theorem not_hasSlashes_of_notMem {s : Str} (h : '/' ∉ s) : ¬ HasSlashes s := by
  intro hs
  exact h (hs.subset List.mem_cons_self)

theorem notMem_takeWhile_ne (c : Char) (s : Str) : c ∉ s.takeWhile (· ≠ c) := by
  intro h
  have := List.mem_takeWhile_imp h
  simp at this

theorem cutFirstSlash_hasSlashes_iff (s : Str) :
    ¬ HasSlashes (cutFirstSlash s) ↔ ¬ HasSlashes s ∨ firstSlashDoubled s = true := by
  unfold cutFirstSlash
  cases hd : firstSlashDoubled s with
  | true =>
    simp only [if_true, or_true, iff_true]
    exact not_hasSlashes_of_notMem (notMem_takeWhile_ne '/' s)
  | false => simp

/-- Cutting again finds nothing, also after the end was shortened. -/
theorem cutFirstSlash_again {s t : Str} (h : t <+: cutFirstSlash s) : cutFirstSlash t = t := by
  have hd : firstSlashDoubled t = false := by
    by_contra hd
    obtain ⟨rest, hr⟩ := firstSlashDoubled_iff.mp (Bool.eq_true_of_not_eq_false hd)
    have hmem : '/' ∈ t := (List.dropWhile_suffix _).subset (by rw [hr]; exact List.mem_cons_self)
    unfold cutFirstSlash at h
    cases hs : firstSlashDoubled s with
    | true =>
      rw [hs, if_pos rfl] at h
      exact notMem_takeWhile_ne '/' s (h.subset hmem)
    | false =>
      rw [hs, if_neg (by simp)] at h
      obtain ⟨u, rfl⟩ := h
      have : firstSlashDoubled (t ++ u) = true := by
        apply firstSlashDoubled_iff.mpr
        refine ⟨rest ++ u, ?_⟩
        rw [List.dropWhile_append, hr]
        rfl
      rw [hs] at this
      cases this
  rw [cutFirstSlash, hd, if_neg (by simp)]

/-! ### The trimmed string -/

theorem beforeMarks_isPrefix (s : Str) : beforeMarks s <+: s :=
  (List.takeWhile_prefix _).trans (List.takeWhile_prefix _)

theorem hash_notMem_beforeMarks (s : Str) : '#' ∉ beforeMarks s := fun h =>
  notMem_takeWhile_ne '#' s ((List.takeWhile_prefix _).subset h)

theorem semicolon_notMem_beforeMarks (s : Str) : ';' ∉ beforeMarks s := notMem_takeWhile_ne ';' _

theorem takeWhile_ne_of_notMem {c : Char} {s : Str} (h : c ∉ s) : s.takeWhile (· ≠ c) = s := by
  apply List.takeWhile_eq_self_iff.mpr
  intro x hx
  exact decide_eq_true fun e => h (e ▸ hx)

/-- The passes in one: the second `#` pass changes nothing. -/
theorem gaConfTrim_eq (s : Str) :
    gaConfTrim s = if (s.dropWhile isSpace).head? = some '[' then []
      else (cutFirstSlash (beforeMarks (s.dropWhile isSpace))).rdropWhile isSpace := by
  have hhash : '#' ∉ cutFirstSlash (beforeMarks (s.dropWhile isSpace)) := fun h =>
    hash_notMem_beforeMarks _ ((cutFirstSlash_isPrefix _).subset h)
  have he : gaConfTrim s = if (s.dropWhile isSpace).head? = some '[' then []
      else ((cutFirstSlash (beforeMarks (s.dropWhile isSpace))).takeWhile (· ≠ '#')).rdropWhile isSpace := rfl
  rw [he, takeWhile_ne_of_notMem hhash]

theorem gaConfTrim_start (s : Str) : gaConfTrim s <+: s.dropWhile isSpace := by
  rw [gaConfTrim_eq]
  split
  · exact List.nil_prefix
  · exact ((List.rdropWhile_prefix _ _).trans (cutFirstSlash_isPrefix _)).trans (beforeMarks_isPrefix _)

theorem head?_of_isPrefix {s t : Str} {c : Char} (h : t <+: s) (hc : c ∈ t.head?) : c ∈ s.head? := by
  obtain ⟨u, rfl⟩ := h
  cases t with
  | nil => cases hc
  | cons x t => exact hc

theorem dropWhile_head (s : Str) : ∀ c ∈ (s.dropWhile isSpace).head?, isSpace c = false := by
  intro c hc
  have h := List.head?_dropWhile_not isSpace s
  rw [Option.mem_def.1 hc] at h
  simpa using h

theorem gaConfTrim_head (s : Str) : ∀ c ∈ (gaConfTrim s).head?, isSpace c = false :=
  fun c hc => dropWhile_head s c (head?_of_isPrefix (gaConfTrim_start s) hc)

theorem gaConfTrim_last (s : Str) : ∀ c ∈ (gaConfTrim s).getLast?, isSpace c = false := by
  intro c hc
  rw [gaConfTrim_eq] at hc
  split at hc
  · cases hc
  · obtain ⟨hne, rfl⟩ := List.mem_getLast?_eq_getLast hc
    simpa using List.rdropWhile_last_not isSpace _ hne

theorem gaConfTrim_marks (s : Str) : '#' ∉ gaConfTrim s ∧ ';' ∉ gaConfTrim s := by
  have hsub : ∀ c ∈ gaConfTrim s, c ∈ beforeMarks (s.dropWhile isSpace) := by
    intro c hc
    rw [gaConfTrim_eq] at hc
    split at hc
    · cases hc
    · exact ((List.rdropWhile_prefix _ _).trans (cutFirstSlash_isPrefix _)).subset hc
  exact ⟨fun h => hash_notMem_beforeMarks _ (hsub _ h), fun h => semicolon_notMem_beforeMarks _ (hsub _ h)⟩

theorem dropWhile_of_head {t : Str} (h : ∀ c ∈ t.head?, isSpace c = false) : t.dropWhile isSpace = t := by
  cases t with
  | nil => rfl
  | cons c t => rw [List.dropWhile_cons, h c rfl, if_neg (by simp)]

theorem rdropWhile_of_last {t : Str} (h : ∀ c ∈ t.getLast?, isSpace c = false) : t.rdropWhile isSpace = t := by
  apply List.rdropWhile_eq_self_iff.mpr
  intro hne
  simpa using h _ (List.getLast_mem_getLast? hne)

theorem beforeMarks_of_notMem {t : Str} (h : '#' ∉ t ∧ ';' ∉ t) : beforeMarks t = t := by
  rw [beforeMarks, takeWhile_ne_of_notMem h.1, takeWhile_ne_of_notMem h.2]

/-- A string that is trimmed already. -/
theorem gaConfTrim_of_trimmed {t : Str} (hhead : ∀ c ∈ t.head?, isSpace c = false) (hsection : t.head? ≠ some '[')
    (hlast : ∀ c ∈ t.getLast?, isSpace c = false) (hmarks : '#' ∉ t ∧ ';' ∉ t) (hslash : cutFirstSlash t = t) :
    gaConfTrim t = t := by
  rw [gaConfTrim_eq, dropWhile_of_head hhead, if_neg hsection, beforeMarks_of_notMem hmarks, hslash,
    rdropWhile_of_last hlast]

theorem gaConfTrim_again (s : Str) : gaConfTrim (gaConfTrim s) = gaConfTrim s := by
  by_cases hsec : (s.dropWhile isSpace).head? = some '['
  · have hnil : gaConfTrim s = [] := by rw [gaConfTrim_eq, if_pos hsec]
    rw [hnil]
    rfl
  · have he : gaConfTrim s = (cutFirstSlash (beforeMarks (s.dropWhile isSpace))).rdropWhile isSpace := by
      rw [gaConfTrim_eq, if_neg hsec]
    refine gaConfTrim_of_trimmed (gaConfTrim_head s) (fun h => ?_) (gaConfTrim_last s) (gaConfTrim_marks s) ?_
    · exact hsec (head?_of_isPrefix (gaConfTrim_start s) h)
    · rw [he]
      exact cutFirstSlash_again (List.rdropWhile_prefix _ _)

/-- Taking spaces off the end takes no slashes off. -/
theorem hasSlashes_rdropWhile (s : Str) : HasSlashes (s.rdropWhile isSpace) ↔ HasSlashes s := by
  constructor
  · exact fun h => h.trans (List.rdropWhile_prefix _ _).isInfix
  · rintro ⟨pre, post, rfl⟩
    induction post using List.reverseRecOn with
    | nil =>
      have hlast : ∀ c ∈ (pre ++ ['/', '/'] ++ []).getLast?, isSpace c = false := by
        intro c hc
        simp only [List.append_nil, List.getLast?_append, List.getLast?_cons_cons, List.getLast?_singleton,
          Option.some_or, Option.mem_some_iff] at hc
        subst hc
        rfl
      rw [rdropWhile_of_last hlast]
      exact ⟨pre, [], rfl⟩
    | append_singleton post c ih =>
      rw [← List.append_assoc, List.rdropWhile_concat]
      split
      · exact ih
      · exact ⟨pre, post ++ [c], by simp⟩

theorem gaConfTrim_slashes (s : Str) : ¬ HasSlashes (gaConfTrim s) ↔ SlashesFound s := by
  unfold SlashesFound
  rw [gaConfTrim_eq]
  split
  · rename_i hsec
    simp only [hsec, true_or, iff_true]
    exact not_hasSlashes_of_notMem List.not_mem_nil
  · rename_i hsec
    rw [hasSlashes_rdropWhile, cutFirstSlash_hasSlashes_iff]
    simp [hsec]

/-- **`ga_conf_trim` does what it should exactly when it finds the `//`.** -/
theorem trimmed_iff (s : Str) : Trimmed s (gaConfTrim s) ↔ SlashesFound s := by
  rw [← gaConfTrim_slashes]
  constructor
  · exact fun h => h.slashes
  · exact fun h => ⟨gaConfTrim_head s, gaConfTrim_last s, (gaConfTrim_marks s).1, (gaConfTrim_marks s).2, h,
      gaConfTrim_start s, gaConfTrim_again s⟩

/-! ## `ga_conf_parse` -/

/-- What a line asks for. -/
inductive LineAction where
  | skip
  | malformed
  | load (path : Str)
  | assign (option value : Str)
  | assignMap (option key value : Str)
deriving DecidableEq

/-- The option and the value of a line: the two sides of its first `=`, trimmed, if neither is empty (`:116-131`). -/
def splitLine (buf : Str) : Option (Str × Str) :=
  match buf.dropWhile (· ≠ '=') with
  | [] => none
  | _ :: token =>
    if token = [] then none
    else
      let option := gaConfTrim (buf.takeWhile (· ≠ '='))
      let token := gaConfTrim token
      if option = [] ∨ token = [] then none else some (option, token)

/-- `std::filesystem::path::parent_path`: up to the last separator, without it unless it is the root. -/
def parentPath (path : Str) : Str :=
  let dir := path.rdropWhile (· ≠ '/')
  let trimmed := dir.rdropWhile (· = '/')
  if trimmed = [] then dir else trimmed

/-- `directoryPath / incPath` for a relative path. -/
def joinPath (dir path : Str) : Str :=
  if dir = [] ∨ dir.getLast? = some '/' then dir ++ path else dir ++ '/' :: path

/-- The file an include names (`:134-138`). -/
def includePath (filename token : Str) : Str :=
  if token.head? = some '/' then token else joinPath (parentPath filename) token

/-- The option of a map, `name[key]` (`:144-166`): `none` without a bracket, an error when it is malformed. -/
def mapKey (option : Str) : Option (Except Unit (Str × Str)) :=
  match option.dropWhile (· ≠ '[') with
  | [] => none
  | _ :: rest =>
    match rest.dropWhile (· ≠ ']') with
    | [_] =>
      let key := rest.takeWhile (· ≠ ']')
      if key = [] then some (.error ()) else some (.ok (option.takeWhile (· ≠ '['), key))
    | _ => some (.error ())

/-- `ga_conf_parse` (`:111`) up to what it does. -/
def lineAction (filename buf : Str) : LineAction :=
  match splitLine buf with
  | none => .skip
  | some (option, token) =>
    if option = "include".toList then .load (includePath filename token)
    else
      match mapKey option with
      | none => .assign option token
      | some (.error _) => .malformed
      | some (.ok (name, key)) => .assignMap name key token

/-- `ga_vars[option] = token`, `ga_vars[option][leftbracket] = token`. -/
def LineAction.store (c : Vars) : LineAction → Vars
  | .assign option value => c.insert option (.assign value)
  | .assignMap option key value =>
    let v := (c.lookup option).getD .new
    c.insert option { v with mapdata := v.mapdata.insert key value }
  | _ => c

/-- The entry a line stores: a name, the key of a map if it has one, and the value. -/
def LineAction.stored : LineAction → Option (Str × Option Str × Str)
  | .assign option value => some (option, none, value)
  | .assignMap option key value => some (option, some key, value)
  | _ => none

/-! ### Lines and their comments -/

theorem beforeSlashes_isPrefix (s : Str) : beforeSlashes s <+: s := by
  induction s using beforeSlashes.induct with
  | case1 => exact List.prefix_refl []
  | case2 rest => exact List.nil_prefix
  | case3 c s h ih =>
    rw [beforeSlashes.eq_3 c s h]
    exact List.cons_prefix_cons.mpr ⟨rfl, ih⟩

theorem beforeSlashes_eq_self {s : Str} (h : ¬ HasSlashes s) : beforeSlashes s = s := by
  induction s using beforeSlashes.induct with
  | case1 => rfl
  | case2 rest => exact absurd ⟨[], rest, rfl⟩ h
  | case3 c s hc ih =>
    rw [beforeSlashes.eq_3 c s hc, ih fun hs => h (hs.trans (List.suffix_cons c s).isInfix)]

theorem not_hasSlashes_beforeSlashes (s : Str) : ¬ HasSlashes (beforeSlashes s) := by
  induction s using beforeSlashes.induct with
  | case1 => exact not_hasSlashes_of_notMem List.not_mem_nil
  | case2 rest => exact not_hasSlashes_of_notMem List.not_mem_nil
  | case3 c s hc ih =>
    rw [beforeSlashes.eq_3 c s hc]
    rintro ⟨pre, post, he⟩
    cases pre with
    | nil =>
      -- the two slashes would be the first two characters of the string itself
      simp only [List.nil_append, List.cons_append, List.cons.injEq] at he
      obtain ⟨u, hu⟩ := beforeSlashes_isPrefix s
      rw [← he.2] at hu
      exact hc _ he.1.symm hu.symm
    | cons x pre =>
      simp only [List.cons_append, List.cons.injEq] at he
      exact ih ⟨pre, post, he.2⟩

theorem beforeSlashes_of_doubled {s : Str} (h : firstSlashDoubled s = true) :
    beforeSlashes s = s.takeWhile (· ≠ '/') := by
  obtain ⟨rest, hr⟩ := firstSlashDoubled_iff.mp h
  induction s using beforeSlashes.induct with
  | case1 => rfl
  | case2 rest' => rfl
  | case3 c s hc ih =>
    rw [beforeSlashes.eq_3 c s hc]
    by_cases hslash : c = '/'
    · subst hslash
      rw [List.dropWhile_cons_of_neg (by simp)] at hr
      exact absurd (List.cons.inj hr).2 (hc rest rfl)
    · rw [List.dropWhile_cons_of_pos (by simp [hslash])] at hr
      rw [List.takeWhile_cons_of_pos (by simp [hslash]), ih (firstSlashDoubled_iff.mpr ⟨rest, hr⟩) hr]

/-- Where `ga_conf_trim` finds the slashes it cuts where the comment begins. -/
theorem cutFirstSlash_eq {s : Str} (h : ¬ HasSlashes s ∨ firstSlashDoubled s = true) :
    cutFirstSlash s = beforeSlashes s := by
  cases hd : firstSlashDoubled s with
  | true => rw [cutFirstSlash, hd, if_pos rfl, beforeSlashes_of_doubled hd]
  | false =>
    rw [hd] at h
    have hs : ¬ HasSlashes s := h.resolve_right (by simp)
    rw [cutFirstSlash, hd, if_neg (by simp), beforeSlashes_eq_self hs]

theorem uncommented_isPrefix (s : Str) : uncommented s <+: s :=
  (beforeSlashes_isPrefix _).trans (beforeMarks_isPrefix s)

theorem not_hasSlashes_uncommented (s : Str) : ¬ HasSlashes (uncommented s) := not_hasSlashes_beforeSlashes _

theorem beforeMarks_cons {c : Char} (h1 : c ≠ '#') (h2 : c ≠ ';') (s : Str) :
    beforeMarks (c :: s) = c :: beforeMarks s := by
  rw [beforeMarks, List.takeWhile_cons_of_pos (by simp [h1]), List.takeWhile_cons_of_pos (by simp [h2])]
  rfl

/-- A character that cannot begin a comment. -/
theorem uncommented_cons {c : Char} (h : c ≠ '#' ∧ c ≠ ';' ∧ c ≠ '/') (s : Str) :
    uncommented (c :: s) = c :: uncommented s := by
  rw [uncommented, beforeMarks_cons h.1 h.2.1, beforeSlashes.eq_3 c _ (fun _ hc => absurd hc h.2.2)]
  rfl

theorem isSpace_ne {c : Char} (h : isSpace c = true) : c ≠ '#' ∧ c ≠ ';' ∧ c ≠ '/' := by
  refine ⟨?_, ?_, ?_⟩ <;> rintro rfl <;> simp [isSpace] at h

theorem uncommented_dropWhile (s : Str) : (uncommented s).dropWhile isSpace = uncommented (s.dropWhile isSpace) := by
  induction s with
  | nil => rfl
  | cons c s ih =>
    cases hc : isSpace c with
    | true =>
      rw [uncommented_cons (isSpace_ne hc), List.dropWhile_cons_of_pos hc, List.dropWhile_cons_of_pos hc, ih]
    | false =>
      rw [List.dropWhile_cons_of_neg (by simp [hc])]
      apply dropWhile_of_head
      intro x hx
      have := head?_of_isPrefix (uncommented_isPrefix (c :: s)) hx
      obtain rfl := Option.some.inj this
      exact hc

/-- Trimming a side of a line after its comment is gone. -/
theorem gaConfTrim_uncommented {s : Str} (h : SlashesFound s) : gaConfTrim (uncommented s) = gaConfTrim s := by
  rw [gaConfTrim_eq, gaConfTrim_eq, uncommented_dropWhile]
  by_cases hsec : (s.dropWhile isSpace).head? = some '['
  · obtain ⟨rest, hrest⟩ : ∃ rest, s.dropWhile isSpace = '[' :: rest := by
      cases hs : s.dropWhile isSpace with
      | nil => rw [hs] at hsec; cases hsec
      | cons c rest =>
        rw [hs] at hsec
        obtain rfl := Option.some.inj hsec
        exact ⟨rest, rfl⟩
    rw [if_pos hsec, hrest, uncommented_cons (by decide)]
    exact if_pos rfl
  · have hsec' : ¬ (uncommented (s.dropWhile isSpace)).head? = some '[' :=
      fun hc => hsec (head?_of_isPrefix (uncommented_isPrefix _) hc)
    rw [if_neg hsec, if_neg hsec']
    have hfound := h.resolve_left hsec
    have hno := not_hasSlashes_uncommented (s.dropWhile isSpace)
    have hsub : uncommented (s.dropWhile isSpace) <+: beforeMarks (s.dropWhile isSpace) := beforeSlashes_isPrefix _
    have hmarks : beforeMarks (uncommented (s.dropWhile isSpace)) = uncommented (s.dropWhile isSpace) :=
      beforeMarks_of_notMem ⟨fun hc => hash_notMem_beforeMarks _ (hsub.subset hc),
        fun hc => semicolon_notMem_beforeMarks _ (hsub.subset hc)⟩
    rw [hmarks, cutFirstSlash_eq (Or.inl hno), beforeSlashes_eq_self hno, cutFirstSlash_eq hfound]
    rfl

/-- The two sides of the first `=` of a line. -/
def keyPart (line : Str) : Str := line.takeWhile (· ≠ '=')
def valuePart (line : Str) : Str := (line.dropWhile (· ≠ '=')).tail

theorem beforeMarks_append_eq (l r : Str) :
    beforeMarks (l ++ '=' :: r) = if beforeMarks l = l then l ++ '=' :: beforeMarks r else beforeMarks l := by
  induction l with
  | nil =>
    have h0 : beforeMarks ([] : Str) = [] := rfl
    rw [List.nil_append, List.nil_append, h0, if_pos rfl, beforeMarks_cons (by decide) (by decide)]
  | cons c l ih =>
    by_cases h1 : c = '#'
    · subst h1
      have hnil : ∀ s : Str, beforeMarks ('#' :: s) = [] := fun s => rfl
      rw [List.cons_append, hnil, hnil, if_neg (by simp)]
    · by_cases h2 : c = ';'
      · subst h2
        have hnil : ∀ s : Str, beforeMarks (';' :: s) = [] := fun s => rfl
        rw [List.cons_append, hnil, hnil, if_neg (by simp)]
      · rw [List.cons_append, beforeMarks_cons h1 h2, beforeMarks_cons h1 h2, ih]
        by_cases he : beforeMarks l = l
        · rw [if_pos he, if_pos (by rw [he])]
          rfl
        · rw [if_neg he, if_neg (fun h => he (List.cons.inj h).2)]

theorem beforeSlashes_append_eq (l r : Str) :
    beforeSlashes (l ++ '=' :: r) =
      if beforeSlashes l = l then l ++ '=' :: beforeSlashes r else beforeSlashes l := by
  induction l using beforeSlashes.induct with
  | case1 =>
    rw [List.nil_append, beforeSlashes.eq_3 _ _ (by simp), beforeSlashes.eq_1, if_pos rfl]
    rfl
  | case2 rest => rfl
  | case3 c l hc ih =>
    have hc' : ∀ tail, c = '/' → l ++ '=' :: r = '/' :: tail → False := by
      intro tail h he
      cases l with
      | nil => simp at he
      | cons x l => exact hc l h (by rw [(List.cons.inj he).1])
    rw [List.cons_append, beforeSlashes.eq_3 c _ hc', beforeSlashes.eq_3 c l hc, ih]
    by_cases he : beforeSlashes l = l
    · rw [if_pos he, if_pos (by rw [he])]
      rfl
    · rw [if_neg he, if_neg (fun h => he (List.cons.inj h).2)]

/-- A comment before the `=` takes the `=` with it; otherwise it is a comment of the value. -/
theorem uncommented_append_eq (l r : Str) :
    uncommented (l ++ '=' :: r) = if uncommented l = l then l ++ '=' :: uncommented r else uncommented l := by
  unfold uncommented
  rw [beforeMarks_append_eq]
  by_cases hm : beforeMarks l = l
  · rw [if_pos hm, beforeSlashes_append_eq, hm]
  · have hne : beforeSlashes (beforeMarks l) ≠ l := by
      intro he
      apply hm
      have h1 := (beforeSlashes_isPrefix (beforeMarks l)).length_le
      rw [he] at h1
      exact (beforeMarks_isPrefix l).eq_of_length_le h1
    rw [if_neg hm, if_neg hne]

theorem line_eq {line : Str} (h : '=' ∈ line) : line = keyPart line ++ '=' :: valuePart line := by
  induction line with
  | nil => cases h
  | cons c line ih =>
    by_cases hc : c = '='
    · subst hc
      rfl
    · have hk : keyPart (c :: line) = c :: keyPart line := List.takeWhile_cons_of_pos (by simp [hc])
      have hv : valuePart (c :: line) = valuePart line := by
        rw [valuePart, List.dropWhile_cons_of_pos (by simp [hc])]
        rfl
      rw [hk, hv, List.cons_append, ← ih ((List.mem_cons.1 h).resolve_left fun e => hc e.symm)]

/-- `splitLine` in terms of the two sides. -/
theorem splitLine_append {l r : Str} (hl : '=' ∉ l) :
    splitLine (l ++ '=' :: r) =
      if r = [] ∨ gaConfTrim l = [] ∨ gaConfTrim r = [] then none else some (gaConfTrim l, gaConfTrim r) := by
  have hall : ∀ c ∈ l, decide (c ≠ '=') = true := by
    intro c hc
    apply decide_eq_true
    rintro rfl
    exact hl hc
  have ht : (l ++ '=' :: r).takeWhile (· ≠ '=') = l := by
    rw [List.takeWhile_append_of_pos hall, List.takeWhile_cons_of_neg (by simp), List.append_nil]
  have hd : (l ++ '=' :: r).dropWhile (· ≠ '=') = '=' :: r := by
    rw [List.dropWhile_append_of_pos hall, List.dropWhile_cons_of_neg (by simp)]
  unfold splitLine
  rw [hd, ht]
  dsimp only
  by_cases hr : r = []
  · rw [if_pos hr, if_pos (Or.inl hr)]
  · by_cases ho : gaConfTrim l = [] ∨ gaConfTrim r = []
    · rw [if_neg hr, if_pos ho, if_pos (Or.inr ho)]
    · rw [if_neg hr, if_neg ho, if_neg (not_or.mpr ⟨hr, ho⟩)]

theorem splitLine_of_notMem {line : Str} (h : '=' ∉ line) : splitLine line = none := by
  have hd : line.dropWhile (· ≠ '=') = [] :=
    List.dropWhile_eq_nil_iff.mpr fun c hc => decide_eq_true fun e => h (e ▸ hc)
  unfold splitLine
  rw [hd]

/-- What a line stores comes from its two sides, and the value is the right one. -/
theorem splitLine_of_stored {filename line : Str} {e : Str × Option Str × Str}
    (h : (lineAction filename line).stored = some e) : ∃ option, splitLine line = some (option, e.2.2) := by
  unfold lineAction at h
  split at h
  · cases h
  · rename_i option token hs
    refine ⟨option, ?_⟩
    rw [hs]
    split at h
    · cases h
    · split at h
      · obtain rfl := Option.some.inj h
        rfl
      · cases h
      · obtain rfl := Option.some.inj h
        rfl

theorem lineAction_congr {filename a b : Str} (h : splitLine a = splitLine b) :
    lineAction filename a = lineAction filename b := by
  unfold lineAction
  rw [h]

/-- Trimming gives the same with and without the comment only if it finds the slashes: without it there are none. -/
theorem slashesFound_of_trim_eq {r : Str} (h : gaConfTrim (uncommented r) = gaConfTrim r) : SlashesFound r := by
  refine (gaConfTrim_slashes r).mp fun hslash => ?_
  rw [← h] at hslash
  apply not_hasSlashes_uncommented r
  exact (hslash.trans (gaConfTrim_start _).isInfix).trans (List.dropWhile_suffix _).isInfix

/-- A comment in the value that trimming finds makes no difference to the two sides of the line. -/
theorem splitLine_uncommented {l r : Str} {sides : Str × Str} (hl : '=' ∉ l)
    (hs : splitLine (l ++ '=' :: r) = some sides) (hfound : SlashesFound r) :
    splitLine (l ++ '=' :: uncommented r) = splitLine (l ++ '=' :: r) := by
  have hval := gaConfTrim_uncommented hfound
  rw [splitLine_append hl] at hs
  rw [splitLine_append hl, splitLine_append hl, hval]
  split at hs
  · cases hs
  · rename_i hne
    have hr : uncommented r ≠ [] := by
      intro h0
      rw [h0] at hval
      exact hne (Or.inr (Or.inr hval.symm))
    rw [if_neg hne, if_neg fun hc => hc.elim hr fun hc => hne (Or.inr hc)]

/-- **A stored entry is the one the line would store without its comment** exactly when there is no comment mark before
the `=` and the `//` of the value is found. -/
theorem stored_uncommented_iff {filename line : Str} {e : Str × Option Str × Str}
    (h : (lineAction filename line).stored = some e) :
    (lineAction filename (uncommented line)).stored = some e ↔
      uncommented (keyPart line) = keyPart line ∧ SlashesFound (valuePart line) := by
  obtain ⟨option, hs⟩ := splitLine_of_stored h
  have hmem : '=' ∈ line := by
    by_contra hno
    rw [splitLine_of_notMem hno] at hs
    cases hs
  have hl : '=' ∉ keyPart line := notMem_takeWhile_ne '=' line
  have hline := line_eq hmem
  generalize keyPart line = l at hl hline
  generalize valuePart line = r at hline
  subst hline
  constructor
  · intro hu
    obtain ⟨option', hs'⟩ := splitLine_of_stored hu
    rw [uncommented_append_eq] at hs'
    by_cases hk : uncommented l = l
    · rw [splitLine_append hl] at hs
      rw [if_pos hk, splitLine_append hl] at hs'
      split at hs
      · cases hs
      · split at hs'
        · cases hs'
        · -- both values are the stored one
          have hval : gaConfTrim (uncommented r) = gaConfTrim r := by
            rw [(Prod.mk.inj (Option.some.inj hs)).2, (Prod.mk.inj (Option.some.inj hs')).2]
          exact ⟨hk, slashesFound_of_trim_eq hval⟩
    · rw [if_neg hk, splitLine_of_notMem fun hc => hl ((uncommented_isPrefix l).subset hc)] at hs'
      cases hs'
  · rintro ⟨hk, hfound⟩
    rw [uncommented_append_eq, if_pos hk, ← h]
    apply congrArg LineAction.stored
    exact lineAction_congr (splitLine_uncommented hl hs hfound)

/-- **Comments**: trimming is right exactly for the strings whose `//` it finds, and what a line stores is free of its
comment exactly when no comment mark precedes the `=` and the `//` of the value is found. -/
theorem conf_comments_iff (buf filename line : Str) :
    (Trimmed buf (gaConfTrim buf) ↔ SlashesFound buf) ∧
    ∀ e, (lineAction filename line).stored = some e →
      ((lineAction filename (uncommented line)).stored = some e ↔
        uncommented (keyPart line) = keyPart line ∧ SlashesFound (valuePart line)) :=
  ⟨trimmed_iff buf, fun _ => stored_uncommented_iff⟩

/-- `a/b//c` keeps its comment, and `k # x = v` stores `v` for `k` out of its comment. -/
theorem conf_comment_kept :
    gaConfTrim ['a', '/', 'b', '/', '/', 'c'] = ['a', '/', 'b', '/', '/', 'c'] ∧
    ¬ Trimmed ['a', '/', 'b', '/', '/', 'c'] (gaConfTrim ['a', '/', 'b', '/', '/', 'c']) ∧
    (lineAction [] ['k', ' ', '#', ' ', 'x', ' ', '=', ' ', 'v']).stored = some (['k'], none, ['v']) ∧
    uncommented ['k', ' ', '#', ' ', 'x', ' ', '=', ' ', 'v'] = ['k', ' '] ∧
    (lineAction [] ['k', ' ']).stored = none := by
  refine ⟨rfl, fun h => ?_, rfl, rfl, rfl⟩
  exact h.slashes ⟨['a', '/', 'b'], ['c'], rfl⟩

end CloudStreaming.Streamer.Conf
