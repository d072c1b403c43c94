import CloudStreaming.Setup.ParamValues

/-!
# The setup tool's command line (`apps/idd-setup-tool/CommandParserImpl.cpp:29-55`, `:421-435`, `:756-851`)

`ParseCommands` gives one argument after another to `ProcessSingleCommand`: it is a global option, the name of a
command if there is none yet, or an option of the command. An option `name=values` is found by `name=` anywhere in the
argument, and is taken whether its values keep to the parameter's constraints or not; if nothing was found, the options
of the command are looked up, also where there is no command and `Commands` has no element for it.

| here | there |
| --- | --- |
| `Tables`      | what is registered; the help texts and `MiscCounters` are left out |
| `State`       | what the parse changes: the arguments' targets are `switched` and `stored`, `tcout` is `out` |
| `Outcome`     | `ConstraintFunction` is called, and decides, or `false` is returned |
| `Accepted`    | the grammar, by the tables and the arguments alone |
| `Takes`, `Stray` | not in the source: something registered is in an argument, or nothing is |
| `Reading`     | what `ProcessSingleCommand` takes an argument for |
-/

namespace CloudStreaming.Setup.CommandParser

open Substrings

structure CommandStruct where
  commandNumber : Nat
  commandName : Str

structure SwitchStruct where
  target : Nat
  optionsList : List Str

/-- The tables of `CommandParserImpl`, with the invariant of `CommandNameToNumberLookup`. -/
structure Tables where
  commands : List CommandStruct
  commandNameToNumberLookup : Str → Option Nat
  globalSwitches : List SwitchStruct
  globalParams : List ParamStruct
  commandSpecificSettings : Str → List ParamStruct
  commandSpecificSwitches : Str → List SwitchStruct
  commandSpecificParams : Str → List ParamStruct
  lookup_valid : ∀ name k, commandNameToNumberLookup name = some k →
    ∃ cmd, 0 < k ∧ commands[k - 1]? = some cmd ∧ stringToLowerCase cmd.commandName = name
  lookup_complete : ∀ cmd ∈ commands, (commandNameToNumberLookup (stringToLowerCase cmd.commandName)).isSome

/-! ## Registration (`:29-55`, `:116-400`) -/

namespace Tables

def empty : Tables where
  commands := []
  commandNameToNumberLookup := fun _ => none
  globalSwitches := []
  globalParams := []
  commandSpecificSettings := fun _ => []
  commandSpecificSwitches := fun _ => []
  commandSpecificParams := fun _ => []
  lookup_valid := by simp
  lookup_complete := by simp

/-- `AddCommand` (`:29`): a command of the same name loses its switches and parameters, and keeps its settings. -/
def addCommand (t : Tables) (name : Str) : Tables :=
  let key := stringToLowerCase name
  { t with
    commands := t.commands ++ [⟨t.commands.length + 1, name⟩]
    commandNameToNumberLookup := Function.update t.commandNameToNumberLookup key (some (t.commands.length + 1))
    commandSpecificSwitches := Function.update t.commandSpecificSwitches key []
    commandSpecificParams := Function.update t.commandSpecificParams key []
    lookup_valid := by
      intro name' k h
      by_cases hkey : name' = key
      · subst hkey
        rw [Function.update_self] at h
        cases h
        exact ⟨⟨t.commands.length + 1, name⟩, by omega, by simp, rfl⟩
      · rw [Function.update_of_ne hkey] at h
        obtain ⟨cmd, hpos, hget, hname⟩ := t.lookup_valid name' k h
        exact ⟨cmd, hpos, List.getElem?_append_left (List.getElem?_eq_some_iff.mp hget).1 ▸ hget, hname⟩
    lookup_complete := by
      intro cmd hmem
      by_cases hkey : stringToLowerCase cmd.commandName = key
      · rw [hkey, Function.update_self]
        rfl
      · rw [Function.update_of_ne hkey]
        rcases List.mem_append.mp hmem with hmem | hmem
        · exact t.lookup_complete cmd hmem
        · obtain rfl := List.mem_singleton.mp hmem
          exact absurd rfl hkey }

/-- More than `MAX_ARGUMENT_VARIATIONS` names end the tool. -/
def withNames {α : Type} (optionsList : List Str) (t : α) : Option α := if 3 < optionsList.length then none else some t

def addGlobalSwitch (t : Tables) (s : SwitchStruct) : Option Tables :=
  withNames s.optionsList { t with globalSwitches := t.globalSwitches ++ [s] }

def addGlobalParam (t : Tables) (p : ParamStruct) : Option Tables :=
  withNames p.optionsList { t with globalParams := t.globalParams ++ [p] }

/-- `push_back` to the vector of a command. -/
def pushBack {α : Type} (m : Str → List α) (command : Str) (a : α) : Str → List α :=
  Function.update m (stringToLowerCase command) (m (stringToLowerCase command) ++ [a])

def addCommandSpecificSetting (t : Tables) (command : Str) (p : ParamStruct) : Option Tables :=
  withNames p.optionsList { t with commandSpecificSettings := pushBack t.commandSpecificSettings command p }

def addCommandSpecificSwitch (t : Tables) (command : Str) (s : SwitchStruct) : Option Tables :=
  withNames s.optionsList { t with commandSpecificSwitches := pushBack t.commandSpecificSwitches command s }

def addCommandSpecificParam (t : Tables) (command : Str) (p : ParamStruct) : Option Tables :=
  withNames p.optionsList { t with commandSpecificParams := pushBack t.commandSpecificParams command p }

end Tables

/-! ## The parse -/

structure State where
  currentCommandNumber : Nat
  rawArguments : List Str
  switched : List Nat
  stored : List (Nat × Write)
  out : List Str

/-- The state of a new parser. -/
def State.init : State := ⟨0, [], [], [], []⟩

/-- The options of parameters, in the order they are tried, each with its `name=` in lower case. -/
def keys (params : List ParamStruct) : List (ParamStruct × Str) :=
  params.flatMap fun p => p.optionsList.map fun o => (p, stringToLowerCase o ++ ['='])

/-- The first option whose `name=` is in the argument. -/
def findParam (params : List ParamStruct) (arg : Str) : Option (ParamStruct × Str) :=
  (keys params).find? fun k => (find (stringToLowerCase arg) k.2).isSome

def findSwitch (switches : List SwitchStruct) (arg : Str) : Option SwitchStruct :=
  switches.find? fun s => s.optionsList.any fun o => stringToLowerCase arg = stringToLowerCase o

/-- The loop over a table of parameters (`:773-786`, `:805-818`, `:820-833`); `message` is what a violation prints. -/
def checkParams (message : Str → Str) (params : List ParamStruct) (st : State) (arg : Str) :
    Except Fault (Option State) :=
  match findParam params arg with
  | none => .ok none
  | some (p, key) => do
    let (writes, ok) ← extractAndStoreParamInfo p (arg.drop key.length)
    let st := { st with stored := st.stored ++ writes.map fun w => (p.target, w) }
    .ok (some (if ok then st else { st with out := st.out ++ [message arg] }))

/-- The loop over a table of switches (`:788-796`, `:835-843`). -/
def checkSwitches (switches : List SwitchStruct) (st : State) (arg : Str) : Option State :=
  (findSwitch switches arg).map fun s => { st with switched := st.switched ++ [s.target] }

def globalMessage (arg : Str) : Str :=
  "ERROR: Command line global parameter \"".toList ++ arg ++ "\" violated constraints. See --help option.".toList

def settingMessage (arg : Str) : Str :=
  "ERROR: Command line command specific setting \"".toList ++ arg ++
    "\" violated constraints. See --help option for the current command.".toList

def paramMessage (arg : Str) : Str :=
  "ERROR: Command line command specific parameter \"".toList ++ arg ++
    "\" violated constraints. See --help option for the current command.".toList

def checkForGlobalOptions (t : Tables) (st : State) (arg : Str) : Except Fault (Option State) := do
  match ← checkParams globalMessage t.globalParams st arg with
  | some st => .ok (some st)
  | none => .ok (checkSwitches t.globalSwitches st arg)

/-- `Commands[index]`. -/
def commandAt (t : Tables) (index : Int) : Except Fault CommandStruct :=
  if 0 ≤ index then
    match t.commands[index.toNat]? with
    | some cmd => .ok cmd
    | none => .error .vectorIndex
  else .error .vectorIndex

def checkForCommandSpecificOptions (t : Tables) (st : State) (arg : Str) : Except Fault (Option State) := do
  let cmd ← commandAt t (st.currentCommandNumber - 1)
  let currentCommandName := stringToLowerCase cmd.commandName
  match ← checkParams settingMessage (t.commandSpecificSettings currentCommandName) st arg with
  | some st => .ok (some st)
  | none =>
    match ← checkParams paramMessage (t.commandSpecificParams currentCommandName) st arg with
    | some st => .ok (some st)
    | none => .ok (checkSwitches (t.commandSpecificSwitches currentCommandName) st arg)

def checkForCommandChange (t : Tables) (st : State) (arg : Str) : Option State :=
  (t.commandNameToNumberLookup (stringToLowerCase arg)).map fun k => { st with currentCommandNumber := k }

/-- `ProcessSingleCommand` (`:756`): `none` is `false`. -/
def processSingleCommand (t : Tables) (st : State) (arg : Str) : Except Fault (Option State) := do
  match ← checkForGlobalOptions t st arg with
  | some st => .ok (some st)
  | none =>
    match if st.currentCommandNumber = 0 then checkForCommandChange t st arg else none with
    | some st => .ok (some st)
    | none => checkForCommandSpecificOptions t st arg

inductive Outcome where
  | constraintFunction (st : State)
  | invalid (st : State)

/-- The loop of `ParseCommands` (`:424-431`). -/
def parseLoop (t : Tables) : State → List Str → Except Fault Outcome
  | st, [] => .ok (.constraintFunction st)
  | st, arg :: rest => do
    let st := { st with rawArguments := st.rawArguments ++ [arg] }
    match ← processSingleCommand t st arg with
    | some st => parseLoop t st rest
    | none => .ok (.invalid { st with out := st.out ++ ["Invalid Argument Detected: ".toList ++ arg] })

/-- `ParseCommands` (`:421`), with the arguments behind the program's name. -/
def parseCommands (t : Tables) (args : List Str) : Except Fault Outcome := parseLoop t .init args

/-! ## The grammar -/

/-- The values keep to the parameter's constraints. -/
def Valid (p : ParamStruct) (values : Str) : Prop := ¬ p.Malformed values ∧ p.Counts (p.segments values).length

/-- The argument is `name=values`, with the name in any case and valid values. -/
def IsParam (params : List ParamStruct) (arg : Str) : Prop :=
  ∃ p ∈ params, ∃ o ∈ p.optionsList,
    stringToLowerCase o ++ ['='] <+: stringToLowerCase arg ∧ Valid p (arg.drop (o.length + 1))

def IsSwitch (switches : List SwitchStruct) (arg : Str) : Prop :=
  ∃ s ∈ switches, ∃ o ∈ s.optionsList, stringToLowerCase arg = stringToLowerCase o

def IsGlobal (t : Tables) (arg : Str) : Prop := IsSwitch t.globalSwitches arg ∨ IsParam t.globalParams arg

def IsCommand (t : Tables) (arg : Str) : Prop :=
  ∃ cmd ∈ t.commands, stringToLowerCase cmd.commandName = stringToLowerCase arg

/-- An option of the command with this name. -/
def IsSpecific (t : Tables) (command arg : Str) : Prop :=
  IsSwitch (t.commandSpecificSwitches command) arg ∨ IsParam (t.commandSpecificSettings command) arg ∨
    IsParam (t.commandSpecificParams command) arg

/-- Every argument is a global option, the first command's name, or an option of that command. -/
def Accepted (t : Tables) : Option Str → List Str → Prop
  | _, [] => True
  | none, arg :: rest =>
    (IsGlobal t arg ∧ Accepted t none rest) ∨
      (¬ IsGlobal t arg ∧ IsCommand t arg ∧ Accepted t (some (stringToLowerCase arg)) rest)
  | some command, arg :: rest => (IsGlobal t arg ∨ IsSpecific t command arg) ∧ Accepted t (some command) rest

/-- `ConstraintFunction` is reached exactly if every argument is in the grammar, and otherwise `false` is returned. -/
def Meets (t : Tables) (args : List Str) : Prop :=
  (∃ st, parseCommands t args = .ok (.constraintFunction st) ∧ Accepted t none args) ∨
    (∃ st, parseCommands t args = .ok (.invalid st) ∧ ¬ Accepted t none args)

/-! ## What is in an argument -/

/-- The values are fewer than `2^31`, and each one that is taken for a number starts with one that fits an `int`. -/
def Readable (p : ParamStruct) (values : Str) : Prop :=
  (p.passes values).length < 2147483648 ∧
    (p.type.IsInteger → ∀ segment ∈ p.passes values, ∃ n, stoi segment = .ok n)

/-- The option's `name=` is anywhere in the argument. -/
def Occurs (o arg : Str) : Prop := stringToLowerCase o ++ ['='] <:+: stringToLowerCase arg

def NoOption (params : List ParamStruct) (arg : Str) : Prop := ∀ p ∈ params, ∀ o ∈ p.optionsList, ¬ Occurs o arg

/-- The first option in the argument, parameter by parameter and name by name, is `o` of `p`. -/
inductive FirstOption (arg : Str) : List ParamStruct → ParamStruct → Str → Prop
  | here {p : ParamStruct} {params : List ParamStruct} {before after : List Str} {o : Str}
      (hlist : p.optionsList = before ++ o :: after) (hnot : ∀ o' ∈ before, ¬ Occurs o' arg) (h : Occurs o arg) :
      FirstOption arg (p :: params) p o
  | there {q : ParamStruct} {params : List ParamStruct} {p : ParamStruct} {o : Str}
      (hnot : ∀ o' ∈ q.optionsList, ¬ Occurs o' arg) (h : FirstOption arg params p o) :
      FirstOption arg (q :: params) p o

/-- What is registered is in the argument, and its values are readable if it is a parameter; from one command to
another. -/
inductive Takes (t : Tables) (arg : Str) : Option Str → Option Str → Prop
  | globalParam {command : Option Str} {p : ParamStruct} {o : Str} (h : FirstOption arg t.globalParams p o)
      (hread : Readable p (arg.drop (o.length + 1))) : Takes t arg command command
  | globalSwitch {command : Option Str} (hparams : NoOption t.globalParams arg) (h : IsSwitch t.globalSwitches arg) :
      Takes t arg command command
  | command (hparams : NoOption t.globalParams arg) (hswitches : ¬ IsSwitch t.globalSwitches arg)
      (h : IsCommand t arg) : Takes t arg none (some (stringToLowerCase arg))
  | setting {command : Str} {p : ParamStruct} {o : Str} (hparams : NoOption t.globalParams arg)
      (hswitches : ¬ IsSwitch t.globalSwitches arg) (h : FirstOption arg (t.commandSpecificSettings command) p o)
      (hread : Readable p (arg.drop (o.length + 1))) : Takes t arg (some command) (some command)
  | param {command : Str} {p : ParamStruct} {o : Str} (hparams : NoOption t.globalParams arg)
      (hswitches : ¬ IsSwitch t.globalSwitches arg) (hsettings : NoOption (t.commandSpecificSettings command) arg)
      (h : FirstOption arg (t.commandSpecificParams command) p o) (hread : Readable p (arg.drop (o.length + 1))) :
      Takes t arg (some command) (some command)
  | switch {command : Str} (hparams : NoOption t.globalParams arg) (hswitches : ¬ IsSwitch t.globalSwitches arg)
      (hsettings : NoOption (t.commandSpecificSettings command) arg)
      (hspecific : NoOption (t.commandSpecificParams command) arg)
      (h : IsSwitch (t.commandSpecificSwitches command) arg) : Takes t arg (some command) (some command)

/-- Nothing registered for the command is in the argument. -/
structure Stray (t : Tables) (command arg : Str) : Prop where
  globalParams : NoOption t.globalParams arg
  globalSwitches : ¬ IsSwitch t.globalSwitches arg
  settings : NoOption (t.commandSpecificSettings command) arg
  params : NoOption (t.commandSpecificParams command) arg
  switches : ¬ IsSwitch (t.commandSpecificSwitches command) arg

/-- One argument after the other, by what each one does to the command. -/
inductive Line (takes : Str → Option Str → Option Str → Prop) : Option Str → List Str → Option Str → Prop
  | nil {command : Option Str} : Line takes command [] command
  | cons {arg : Str} {rest : List Str} {command command' command'' : Option Str} (h : takes arg command command')
      (hrest : Line takes command' rest command'') : Line takes command (arg :: rest) command''

/-- Behind a command there is a stray argument, and the ones before it are taken. -/
def Stopped (t : Tables) (command : Option Str) (args : List Str) : Prop :=
  ∃ before arg after name, args = before ++ arg :: after ∧ Line (Takes t) command before (some name) ∧ Stray t name arg

/-- The argument is in the grammar, behind this command. -/
def InForm (t : Tables) : Option Str → Str → Prop
  | none, arg => IsGlobal t arg ∨ IsCommand t arg
  | some command, arg => IsGlobal t arg ∨ IsSpecific t command arg

/-- No argument is a command's name with a global parameter's `name=` in it. -/
def Plain (t : Tables) (args : List Str) : Prop := ∀ arg ∈ args, IsCommand t arg → NoOption t.globalParams arg

/-- **When the line is treated as the grammar says**: every argument is taken and in the grammar, or behind the command
there is a stray one. Where a command's name is taken for a parameter the grammar and the tool go on with different
commands, and both are named. -/
def Treated (t : Tables) (args : List Str) : Prop :=
  (Plain t args ∧
    ((∃ command, Line (fun arg command command' => Takes t arg command command' ∧ InForm t command arg) none args command) ∨
      Stopped t none args)) ∨
  (¬ Plain t args ∧
    (((∃ command, Line (Takes t) none args command) ∧ Accepted t none args) ∨
      (Stopped t none args ∧ ¬ Accepted t none args)))

/-! ## How arguments are read -/

inductive Reading where
  | param (p : ParamStruct) (key : Str)
  | switch
  | command
  | unknown

/-- What an argument is taken for, with this command. -/
def reading (t : Tables) (command : Option Str) (arg : Str) : Reading :=
  match findParam t.globalParams arg with
  | some (p, key) => .param p key
  | none =>
    if (findSwitch t.globalSwitches arg).isSome then .switch
    else
      match command with
      | none => if (t.commandNameToNumberLookup (stringToLowerCase arg)).isSome then .command else .unknown
      | some command =>
        match findParam (t.commandSpecificSettings command) arg with
        | some (p, key) => .param p key
        | none =>
          match findParam (t.commandSpecificParams command) arg with
          | some (p, key) => .param p key
          | none => if (findSwitch (t.commandSpecificSwitches command) arg).isSome then .switch else .unknown

/-! ## One argument -/

section
variable {t : Tables} {st : State} {arg : Str} {p : ParamStruct} {key : Str} {params : List ParamStruct}

/-- The command of the state. -/
def Selected (t : Tables) (st : State) : Option Str → Prop
  | none => st.currentCommandNumber = 0
  | some name => ∃ cmd, 0 < st.currentCommandNumber ∧ t.commands[st.currentCommandNumber - 1]? = some cmd ∧
      stringToLowerCase cmd.commandName = name

theorem readable_iff {values : Str} : Readable p values ↔ ∃ r, extractAndStoreParamInfo p values = .ok r := by
  constructor
  · rintro ⟨hfew, hconv⟩
    exact ⟨(_, decide (p.Counts (p.passes values).length)),
      ParamStruct.extract_eq_ok.mpr ⟨hfew, hconv, rfl, decide_eq_true_iff⟩⟩
  · rintro ⟨⟨ws, r⟩, h⟩
    obtain ⟨hfew, hconv, -⟩ := ParamStruct.extract_eq_ok.mp h
    exact ⟨hfew, hconv⟩

theorem Selected.congr {st' : State} {command : Option Str} (h : Selected t st command)
    (hn : st'.currentCommandNumber = st.currentCommandNumber) : Selected t st' command := by
  cases command with
  | none => exact hn.trans h
  | some name =>
    unfold Selected
    rw [hn]
    exact h

/-- What comes of an argument that is taken for a value of `p`: the command stays, or the tool ends. -/
def Taken (t : Tables) (command : Option Str) (p : ParamStruct) (key arg : Str) (r : Except Fault (Option State)) :
    Prop :=
  (Readable p (arg.drop key.length) → ∃ st', r = .ok (some st') ∧ Selected t st' command) ∧
    (¬ Readable p (arg.drop key.length) → ∃ e, r = .error e)

/-- A table of parameters, and what is tried behind it. -/
theorem checkParams_some (message : Str → Str) {command : Option Str} (rest : Except Fault (Option State))
    (hsel : Selected t st command) (h : findParam params arg = some (p, key)) :
    Taken t command p key arg (do
      match ← checkParams message params st arg with
      | some st => .ok (some st)
      | none => rest) := by
  unfold Taken checkParams
  rw [readable_iff]
  simp only [h]
  cases extractAndStoreParamInfo p (arg.drop key.length) with
  | error e =>
    constructor
    · rintro ⟨r, hr⟩
      cases hr
    · intro _
      exact ⟨e, rfl⟩
  | ok r =>
    refine ⟨fun _ => ⟨_, rfl, hsel.congr ?_⟩, fun hnot => absurd ⟨r, rfl⟩ hnot⟩
    split
    · rfl
    · rfl

theorem checkParams_none (message : Str → Str) (st : State) (h : findParam params arg = none) :
    checkParams message params st arg = .ok none := by
  unfold checkParams
  simp only [h]

theorem checkSwitches_some {switches : List SwitchStruct} (st : State) (h : (findSwitch switches arg).isSome) :
    ∃ st', checkSwitches switches st arg = some st' ∧ st'.currentCommandNumber = st.currentCommandNumber := by
  obtain ⟨s, hs⟩ := Option.isSome_iff_exists.mp h
  refine ⟨{ st with switched := st.switched ++ [s.target] }, ?_, rfl⟩
  rw [checkSwitches, hs]
  rfl

theorem checkSwitches_none {switches : List SwitchStruct} (st : State) (h : ¬ (findSwitch switches arg).isSome) :
    checkSwitches switches st arg = none := by
  rw [checkSwitches, Option.not_isSome_iff_eq_none.mp h]
  rfl

/-- What comes of an argument, by its reading. -/
def Processed (t : Tables) (command : Option Str) (arg : Str) (r : Except Fault (Option State)) : Prop :=
  match reading t command arg with
  | .param p key => Taken t command p key arg r
  | .switch => ∃ st', r = .ok (some st') ∧ Selected t st' command
  | .command => ∃ st', r = .ok (some st') ∧ Selected t st' (some (stringToLowerCase arg))
  | .unknown => if command = none then r = .error .vectorIndex else r = .ok none

/-- The options of the command, if the argument is no global one. -/
theorem specific_spec {command : Str} (hsel : Selected t st (some command))
    (hparam : findParam t.globalParams arg = none) (hswitch : ¬ (findSwitch t.globalSwitches arg).isSome) :
    Processed t (some command) arg (checkForCommandSpecificOptions t st arg) := by
  obtain ⟨cmd, hpos, hget, hname⟩ := id hsel
  have hcmd : commandAt t (st.currentCommandNumber - 1) = .ok cmd := by
    have hindex : ((st.currentCommandNumber : Int) - 1).toNat = st.currentCommandNumber - 1 := by omega
    rw [commandAt, if_pos (by omega), hindex]
    simp only [hget]
  unfold Processed reading checkForCommandSpecificOptions
  simp only [hparam, if_neg hswitch, hcmd, ok_bind, hname]
  cases hset : findParam (t.commandSpecificSettings command) arg with
  | some k => exact checkParams_some settingMessage _ hsel hset
  | none =>
    simp only [checkParams_none settingMessage st hset, ok_bind]
    cases hpar : findParam (t.commandSpecificParams command) arg with
    | some k => exact checkParams_some paramMessage _ hsel hpar
    | none =>
      simp only [checkParams_none paramMessage st hpar, ok_bind]
      by_cases hsw : (findSwitch (t.commandSpecificSwitches command) arg).isSome
      · obtain ⟨st', heq, hcur⟩ := checkSwitches_some st hsw
        simp only [if_pos hsw]
        exact ⟨st', congrArg Except.ok heq, hsel.congr hcur⟩
      · simp only [if_neg hsw]
        exact congrArg Except.ok (checkSwitches_none st hsw)

/-- **One argument** comes to what it is taken for. -/
theorem process_spec {command : Option Str} (hsel : Selected t st command) :
    Processed t command arg (processSingleCommand t st arg) := by
  cases hparam : findParam t.globalParams arg with
  | some k =>
    unfold Processed reading processSingleCommand checkForGlobalOptions
    simp only [hparam]
    obtain ⟨hok, herr⟩ := checkParams_some globalMessage (.ok (checkSwitches t.globalSwitches st arg)) hsel hparam
    refine ⟨fun hread => ?_, fun hread => ?_⟩
    · obtain ⟨st', heq, hsel'⟩ := hok hread
      exact ⟨st', by rw [heq]; rfl, hsel'⟩
    · obtain ⟨e, heq⟩ := herr hread
      exact ⟨e, by rw [heq]; rfl⟩
  | none =>
    have hglobal : checkForGlobalOptions t st arg = .ok (checkSwitches t.globalSwitches st arg) := by
      unfold checkForGlobalOptions
      simp only [checkParams_none globalMessage st hparam, ok_bind]
    unfold processSingleCommand
    rw [hglobal]
    by_cases hswitch : (findSwitch t.globalSwitches arg).isSome
    · obtain ⟨st', heq, hcur⟩ := checkSwitches_some st hswitch
      unfold Processed reading
      simp only [hparam, if_pos hswitch, heq, ok_bind]
      exact ⟨st', rfl, hsel.congr hcur⟩
    · rw [checkSwitches_none st hswitch]
      simp only [ok_bind]
      cases command with
      | some command =>
        have hpos : st.currentCommandNumber ≠ 0 := by
          obtain ⟨-, hpos, -⟩ := hsel
          omega
        simp only [if_neg hpos]
        exact specific_spec hsel hparam hswitch
      | none =>
        have hzero : st.currentCommandNumber = 0 := hsel
        simp only [if_pos hzero]
        unfold Processed reading
        simp only [hparam, if_neg hswitch]
        cases hlookup : t.commandNameToNumberLookup (stringToLowerCase arg) with
        | some k =>
          obtain ⟨cmd, hpos, hget, hname⟩ := t.lookup_valid _ k hlookup
          refine ⟨{ st with currentCommandNumber := k }, ?_, cmd, hpos, hget, hname⟩
          simp only [checkForCommandChange, hlookup, Option.map_some]
        | none =>
          simp only [checkForCommandChange, hlookup, Option.map_none, Option.isSome_none, Bool.false_eq_true, if_false,
            if_true]
          unfold checkForCommandSpecificOptions commandAt
          rw [hzero, if_neg (by decide)]
          rfl

end

/-! ## All arguments -/

section
variable {t : Tables}

theorem findParam_none_iff {params : List ParamStruct} {arg : Str} :
    findParam params arg = none ↔ NoOption params arg := by
  simp only [findParam, keys, List.find?_eq_none, List.mem_flatMap, List.mem_map, find_isSome, NoOption, Occurs]
  constructor
  · intro h p hp o ho
    exact h _ ⟨p, hp, o, ho, rfl⟩
  · rintro h _ ⟨p, hp, o, ho, rfl⟩
    exact h p hp o ho

/-- The first of a parameter's names in the argument. -/
theorem find_name_iff {names : List Str} {arg o : Str} :
    (names.find? fun o => (find (stringToLowerCase arg) (stringToLowerCase o ++ ['='])).isSome) = some o ↔
      ∃ before after, names = before ++ o :: after ∧ (∀ o' ∈ before, ¬ Occurs o' arg) ∧ Occurs o arg := by
  have hfound : ∀ o' : Str, (find (stringToLowerCase arg) (stringToLowerCase o' ++ ['='])).isSome = true ↔ Occurs o' arg :=
    fun _ => find_isSome
  rw [List.find?_eq_some_iff_append]
  constructor
  · rintro ⟨hocc, before, after, hlist, hnot⟩
    exact ⟨before, after, hlist, fun o' ho' h => by simpa [(hfound o').mpr h] using hnot o' ho', (hfound o).mp hocc⟩
  · rintro ⟨before, after, hlist, hnot, hocc⟩
    refine ⟨(hfound o).mpr hocc, before, after, hlist, fun o' ho' => ?_⟩
    simpa using mt (hfound o').mp (hnot o' ho')

theorem findParam_some_iff {params : List ParamStruct} {arg : Str} {p : ParamStruct} {key : Str} :
    findParam params arg = some (p, key) ↔
      ∃ o, key = stringToLowerCase o ++ ['='] ∧ FirstOption arg params p o := by
  induction params with
  | nil =>
    refine iff_of_false (by simp [findParam, keys]) ?_
    rintro ⟨o, -, h⟩
    cases h
  | cons q params ih =>
    -- the names of the first parameter, then the rest
    have hsplit : findParam (q :: params) arg =
        (((q.optionsList.find? fun o => (find (stringToLowerCase arg) (stringToLowerCase o ++ ['='])).isSome).map
          fun o => (q, stringToLowerCase o ++ ['='])).or (findParam params arg)) := by
      simp only [findParam, keys, List.flatMap_cons, List.find?_append, List.find?_map]
      rfl
    rw [hsplit]
    cases hfind : q.optionsList.find? fun o => (find (stringToLowerCase arg) (stringToLowerCase o ++ ['='])).isSome with
    | some o =>
      obtain ⟨before, after, hlist, hnot, hocc⟩ := find_name_iff.mp hfind
      simp only [Option.map_some, Option.some_or, Option.some.injEq, Prod.mk.injEq]
      constructor
      · rintro ⟨rfl, rfl⟩
        exact ⟨o, rfl, .here hlist hnot hocc⟩
      · rintro ⟨o', rfl, h⟩
        cases h with
        | here hlist' hnot' hocc' =>
          have hfind' := find_name_iff.mpr ⟨_, _, hlist', hnot', hocc'⟩
          obtain rfl := Option.some.inj (hfind.symm.trans hfind')
          exact ⟨rfl, rfl⟩
        | there hnone _ => exact absurd hocc (hnone o (hlist ▸ by simp))
    | none =>
      have hnot : ∀ o ∈ q.optionsList, ¬ Occurs o arg := by
        intro o ho h
        exact List.find?_eq_none.mp hfind o ho (find_isSome.mpr h)
      simp only [Option.map_none, Option.none_or, ih]
      refine exists_congr fun o => and_congr_right fun _ => ⟨fun h => .there hnot h, fun h => ?_⟩
      cases h with
      | here hlist _ h' => exact absurd h' (hnot o (hlist ▸ by simp))
      | there _ h' => exact h'

theorem findSwitch_iff {switches : List SwitchStruct} {arg : Str} :
    (findSwitch switches arg).isSome ↔ IsSwitch switches arg := by
  simp [findSwitch, IsSwitch, List.find?_isSome]

theorem lookup_iff {arg : Str} : (t.commandNameToNumberLookup (stringToLowerCase arg)).isSome ↔ IsCommand t arg := by
  constructor
  · intro h
    obtain ⟨k, hk⟩ := Option.isSome_iff_exists.mp h
    obtain ⟨cmd, -, hget, hname⟩ := t.lookup_valid _ k hk
    exact ⟨cmd, List.mem_of_getElem? hget, hname⟩
  · rintro ⟨cmd, hmem, hname⟩
    rw [← hname]
    exact t.lookup_complete cmd hmem

theorem length_key (o : Str) : (stringToLowerCase o ++ ['=']).length = o.length + 1 := by
  rw [List.length_append, List.length_singleton]
  exact congrArg (· + 1) (List.length_map _)

theorem FirstOption.found {params : List ParamStruct} {arg : Str} {p : ParamStruct} {o : Str}
    (h : FirstOption arg params p o) : findParam params arg = some (p, stringToLowerCase o ++ ['=']) :=
  findParam_some_iff.mpr ⟨o, rfl, h⟩

theorem NoOption.not_isParam {params : List ParamStruct} {arg : Str} (h : NoOption params arg) : ¬ IsParam params arg := by
  rintro ⟨p, hp, o, ho, hstart, -⟩
  exact h p hp o ho hstart.isInfix

/-- An argument is taken if it is for what it is read as, and the values are readable. -/
theorem takes_iff {arg : Str} {command command' : Option Str} :
    Takes t arg command command' ↔
      match reading t command arg with
      | .param p key => Readable p (arg.drop key.length) ∧ command' = command
      | .switch => command' = command
      | .command => command' = some (stringToLowerCase arg)
      | .unknown => False := by
  constructor
  · intro h
    unfold reading
    cases h with
    | globalParam h hread =>
      simp only [h.found, length_key]
      exact ⟨hread, trivial⟩
    | globalSwitch hparams h => simp [findParam_none_iff.mpr hparams, findSwitch_iff.mpr h]
    | command hparams hswitches h =>
      simp [findParam_none_iff.mpr hparams, mt findSwitch_iff.mp hswitches, lookup_iff.mpr h]
    | setting hparams hswitches h hread =>
      simp only [findParam_none_iff.mpr hparams, if_neg (mt findSwitch_iff.mp hswitches), h.found, length_key]
      exact ⟨hread, trivial⟩
    | param hparams hswitches hsettings h hread =>
      simp only [findParam_none_iff.mpr hparams, if_neg (mt findSwitch_iff.mp hswitches),
        findParam_none_iff.mpr hsettings, h.found, length_key]
      exact ⟨hread, trivial⟩
    | switch hparams hswitches hsettings hspecific h =>
      simp [findParam_none_iff.mpr hparams, mt findSwitch_iff.mp hswitches, findParam_none_iff.mpr hsettings,
        findParam_none_iff.mpr hspecific, findSwitch_iff.mpr h]
  · intro h
    unfold reading at h
    cases hglobal : findParam t.globalParams arg with
    | some k =>
      obtain ⟨p, key⟩ := k
      obtain ⟨o, rfl, hfirst⟩ := findParam_some_iff.mp hglobal
      simp only [hglobal, length_key] at h
      exact h.2 ▸ .globalParam hfirst h.1
    | none =>
      have hparams := findParam_none_iff.mp hglobal
      by_cases hswitch : (findSwitch t.globalSwitches arg).isSome
      · simp only [hglobal, if_pos hswitch] at h
        exact h ▸ .globalSwitch hparams (findSwitch_iff.mp hswitch)
      · have hswitches : ¬ IsSwitch t.globalSwitches arg := mt findSwitch_iff.mpr hswitch
        simp only [hglobal, if_neg hswitch] at h
        cases command with
        | none =>
          by_cases hlookup : (t.commandNameToNumberLookup (stringToLowerCase arg)).isSome
          · simp only [if_pos hlookup] at h
            exact h ▸ .command hparams hswitches (lookup_iff.mp hlookup)
          · simp only [if_neg hlookup] at h
        | some name =>
          cases hset : findParam (t.commandSpecificSettings name) arg with
          | some k =>
            obtain ⟨p, key⟩ := k
            obtain ⟨o, rfl, hfirst⟩ := findParam_some_iff.mp hset
            simp only [hset, length_key] at h
            exact h.2 ▸ .setting hparams hswitches hfirst h.1
          | none =>
            have hsettings := findParam_none_iff.mp hset
            cases hpar : findParam (t.commandSpecificParams name) arg with
            | some k =>
              obtain ⟨p, key⟩ := k
              obtain ⟨o, rfl, hfirst⟩ := findParam_some_iff.mp hpar
              simp only [hset, hpar, length_key] at h
              exact h.2 ▸ .param hparams hswitches hsettings hfirst h.1
            | none =>
              have hspecific := findParam_none_iff.mp hpar
              by_cases hsw : (findSwitch (t.commandSpecificSwitches name) arg).isSome
              · simp only [hset, hpar, if_pos hsw] at h
                exact h ▸ .switch hparams hswitches hsettings hspecific (findSwitch_iff.mp hsw)
              · simp only [hset, hpar, if_neg hsw] at h

/-- A stray argument is read as nothing. -/
theorem stray_iff {name arg : Str} : Stray t name arg ↔ reading t (some name) arg = .unknown := by
  constructor
  · rintro ⟨hparams, hswitches, hsettings, hspecific, hsw⟩
    simp [reading, findParam_none_iff.mpr hparams, mt findSwitch_iff.mp hswitches, findParam_none_iff.mpr hsettings,
      findParam_none_iff.mpr hspecific, mt findSwitch_iff.mp hsw]
  · intro h
    unfold reading at h
    cases hglobal : findParam t.globalParams arg with
    | some k => simp [hglobal] at h
    | none =>
      by_cases hswitch : (findSwitch t.globalSwitches arg).isSome
      · simp [hglobal, hswitch] at h
      · cases hset : findParam (t.commandSpecificSettings name) arg with
        | some k => simp [hglobal, hswitch, hset] at h
        | none =>
          cases hpar : findParam (t.commandSpecificParams name) arg with
          | some k => simp [hglobal, hswitch, hset, hpar] at h
          | none =>
            by_cases hsw : (findSwitch (t.commandSpecificSwitches name) arg).isSome
            · simp [hglobal, hswitch, hset, hpar, hsw] at h
            · exact ⟨findParam_none_iff.mp hglobal, mt findSwitch_iff.mpr hswitch, findParam_none_iff.mp hset,
                findParam_none_iff.mp hpar, mt findSwitch_iff.mpr hsw⟩

section
variable {st : State} {arg : Str} {rest : List Str} {command command' : Option Str}

theorem Takes.unique {command'' : Option Str} (h : Takes t arg command command') (h' : Takes t arg command command'') :
    command'' = command' := by
  rw [takes_iff] at h h'
  split at h
  · next hread =>
    rw [hread] at h'
    exact h'.2.trans h.2.symm
  · next hread =>
    rw [hread] at h'
    exact h'.trans h.symm
  · next hread =>
    rw [hread] at h'
    exact h'.trans h.symm
  · exact h.elim

theorem Takes.not_stray {name : Str} (h : Takes t arg (some name) command') : ¬ Stray t name arg := by
  rw [takes_iff] at h
  rw [stray_iff]
  intro hread
  rw [hread] at h
  exact h

/-- An argument that is taken. -/
theorem process_takes (hsel : Selected t st command) (h : Takes t arg command command') :
    ∃ st', processSingleCommand t st arg = .ok (some st') ∧ Selected t st' command' := by
  have hstep : Processed t command arg (processSingleCommand t st arg) := process_spec hsel
  rw [takes_iff] at h
  unfold Processed at hstep
  cases hread : reading t command arg with
  | param p key =>
    simp only [hread] at h hstep
    exact h.2 ▸ hstep.1 h.1
  | switch =>
    simp only [hread] at h hstep
    exact h ▸ hstep
  | command =>
    simp only [hread] at h hstep
    exact h ▸ hstep
  | unknown => simp only [hread] at h

theorem process_stray {name : Str} (hsel : Selected t st (some name)) (h : Stray t name arg) :
    processSingleCommand t st arg = .ok none := by
  have hstep : Processed t (some name) arg (processSingleCommand t st arg) := process_spec hsel
  unfold Processed at hstep
  simpa [stray_iff.mp h] using hstep

/-- Otherwise the tool ends. -/
theorem process_error (hsel : Selected t st command) (htakes : ∀ command', ¬ Takes t arg command command')
    (hstray : ∀ name, command = some name → ¬ Stray t name arg) : ∃ e, processSingleCommand t st arg = .error e := by
  have hstep : Processed t command arg (processSingleCommand t st arg) := process_spec hsel
  simp only [takes_iff] at htakes
  unfold Processed at hstep
  cases hread : reading t command arg with
  | param p key =>
    simp only [hread, not_and] at htakes hstep
    exact hstep.2 fun hreadable => htakes command hreadable rfl
  | switch =>
    simp only [hread] at htakes
    exact absurd rfl (htakes command)
  | command =>
    simp only [hread] at htakes
    exact absurd rfl (htakes _)
  | unknown =>
    simp only [hread] at hstep
    cases command with
    | none => exact ⟨_, hstep⟩
    | some name => exact absurd (stray_iff.mpr hread) (hstray name rfl)

theorem line_cons_iff (h : Takes t arg command command') :
    (∃ c, Line (Takes t) command (arg :: rest) c) ↔ ∃ c, Line (Takes t) command' rest c := by
  constructor
  · rintro ⟨c, hline⟩
    cases hline with
    | cons h' hrest => exact ⟨c, h.unique h' ▸ hrest⟩
  · rintro ⟨c, hline⟩
    exact ⟨c, .cons h hline⟩

theorem stopped_cons_iff (h : Takes t arg command command') :
    Stopped t command (arg :: rest) ↔ Stopped t command' rest := by
  constructor
  · rintro ⟨before, stray, after, name, heq, hline, hstray⟩
    cases hline with
    | nil =>
      obtain ⟨rfl, rfl⟩ := List.cons.inj heq
      exact absurd hstray h.not_stray
    | cons h' hrest =>
      obtain ⟨rfl, rfl⟩ := List.cons.inj heq
      exact ⟨_, stray, after, name, rfl, h.unique h' ▸ hrest, hstray⟩
  · rintro ⟨before, stray, after, name, rfl, hline, hstray⟩
    exact ⟨arg :: before, stray, after, name, rfl, .cons h hline, hstray⟩

/-- Nothing is taken and nothing refused at an argument that is not taken. -/
theorem not_line (htakes : ∀ command', ¬ Takes t arg command command') :
    ¬ ∃ c, Line (Takes t) command (arg :: rest) c := by
  rintro ⟨c, hline⟩
  cases hline with
  | cons h _ => exact htakes _ h

theorem stopped_iff_stray (htakes : ∀ command', ¬ Takes t arg command command') :
    Stopped t command (arg :: rest) ↔ ∃ name, command = some name ∧ Stray t name arg := by
  constructor
  · rintro ⟨before, stray, after, name, heq, hline, hstray⟩
    cases hline with
    | nil =>
      obtain ⟨rfl, rfl⟩ := List.cons.inj heq
      exact ⟨name, rfl, hstray⟩
    | cons h _ =>
      obtain ⟨rfl, -⟩ := List.cons.inj heq
      exact absurd h (htakes _)
  · rintro ⟨name, rfl, hstray⟩
    exact ⟨[], arg, rest, name, rfl, .nil, hstray⟩

end

/-- **The whole line**: `ConstraintFunction` is reached if every argument is taken, and `false` returned if one behind the
command is stray. -/
theorem parse_spec : ∀ (args : List Str) (st : State) (command : Option Str), Selected t st command →
    ((∃ st', parseLoop t st args = .ok (.constraintFunction st')) ↔ ∃ c, Line (Takes t) command args c) ∧
    ((∃ st', parseLoop t st args = .ok (.invalid st')) ↔ Stopped t command args)
  | [], st, command, _ => by
    refine ⟨iff_of_true ⟨st, rfl⟩ ⟨command, .nil⟩, iff_of_false ?_ ?_⟩
    · rintro ⟨st', h⟩
      cases h
    · rintro ⟨before, arg, after, name, heq, -⟩
      simp at heq
  | arg :: rest, st, command, hsel => by
    have hsel' : Selected t { st with rawArguments := st.rawArguments ++ [arg] } command := hsel.congr rfl
    by_cases htakes : ∃ command', Takes t arg command command'
    · obtain ⟨command', h⟩ := htakes
      obtain ⟨st', hok, hnext⟩ := process_takes hsel' h
      rw [line_cons_iff h, stopped_cons_iff h]
      simp only [parseLoop, hok, ok_bind]
      exact parse_spec rest st' command' hnext
    · have hnot : ∀ command', ¬ Takes t arg command command' := not_exists.mp htakes
      rw [stopped_iff_stray hnot]
      by_cases hstray : ∃ name, command = some name ∧ Stray t name arg
      · obtain ⟨name, rfl, h⟩ := id hstray
        simp [parseLoop, process_stray hsel' h, not_line hnot, h]
      · obtain ⟨e, he⟩ := process_error hsel' hnot fun name hname h => hstray ⟨name, hname, h⟩
        simp [parseLoop, he, error_bind, not_line hnot, hstray]

/-- An argument that is taken, in the grammar: the rest goes on behind the same command. -/
theorem Takes.accepted_iff {arg : Str} {rest : List Str} {command command' : Option Str}
    (h : Takes t arg command command') (hplain : IsCommand t arg → NoOption t.globalParams arg) :
    Accepted t command (arg :: rest) ↔ InForm t command arg ∧ Accepted t command' rest := by
  have hglobal : NoOption t.globalParams arg → ¬ IsSwitch t.globalSwitches arg → ¬ IsGlobal t arg :=
    fun hparams hswitches => not_or.mpr ⟨hswitches, hparams.not_isParam⟩
  cases h with
  | globalParam hfirst hread =>
    cases command with
    | some name => exact Iff.rfl
    | none =>
      have hcommand : ¬ IsCommand t arg := by
        intro hcommand
        have hnone := findParam_none_iff.mpr (hplain hcommand)
        rw [hfirst.found] at hnone
        cases hnone
      simp [Accepted, InForm, hcommand]
  | globalSwitch hparams hswitch =>
    cases command with
    | some name => exact Iff.rfl
    | none =>
      have hin : IsGlobal t arg := .inl hswitch
      simp [Accepted, InForm, hin]
  | command hparams hswitches hcommand =>
    simp [Accepted, InForm, hglobal hparams hswitches, hcommand]
  | setting => exact Iff.rfl
  | param => exact Iff.rfl
  | switch => exact Iff.rfl

theorem Plain.tail {arg : Str} {rest : List Str} (h : Plain t (arg :: rest)) : Plain t rest :=
  fun a ha => h a (List.mem_cons_of_mem _ ha)

theorem Plain.line_iff {args : List Str} {command c : Option Str} (hplain : Plain t args) :
    Line (Takes t) command args c ∧ Accepted t command args ↔
      Line (fun arg command command' => Takes t arg command command' ∧ InForm t command arg) command args c := by
  constructor
  · rintro ⟨hline, haccepted⟩
    induction hline with
    | nil => exact .nil
    | cons h _ ih =>
      obtain ⟨hform, hrest⟩ := (h.accepted_iff (hplain _ List.mem_cons_self)).mp haccepted
      exact .cons ⟨h, hform⟩ (ih hplain.tail hrest)
  · intro hline
    induction hline with
    | nil => exact ⟨.nil, trivial⟩
    | cons h _ ih =>
      obtain ⟨hrest, haccepted⟩ := ih hplain.tail
      exact ⟨.cons h.1 hrest, (h.1.accepted_iff (hplain _ List.mem_cons_self)).mpr ⟨h.2, haccepted⟩⟩

/-- **What is refused is not in the grammar**, if no command's name is taken for a parameter. -/
theorem Plain.not_accepted {args : List Str} {command : Option Str} (hplain : Plain t args)
    (h : Stopped t command args) : ¬ Accepted t command args := by
  obtain ⟨before, arg, after, name, rfl, hline, hstray⟩ := h
  generalize hend : some name = c at hline
  induction hline with
  | nil =>
    subst hend
    rintro ⟨hglobal | hspecific, -⟩
    · exact hglobal.elim hstray.globalSwitches hstray.globalParams.not_isParam
    · exact hspecific.elim hstray.switches
        (Or.elim · hstray.settings.not_isParam hstray.params.not_isParam)
  | cons h _ ih =>
    intro haccepted
    exact ih hplain.tail hend ((h.accepted_iff (hplain _ List.mem_cons_self)).mp haccepted).2

end

/-- **The command line**: for all tables and all arguments, `ConstraintFunction` is reached exactly if every argument is
in the grammar and otherwise `false` is returned, under the condition and only then. -/
theorem parse_meets_iff (t : Tables) (args : List Str) : Meets t args ↔ Treated t args := by
  obtain ⟨hreach, hfalse⟩ := parse_spec args .init none rfl
  have hmeets : Meets t args ↔
      ((∃ c, Line (Takes t) none args c) ∧ Accepted t none args) ∨ (Stopped t none args ∧ ¬ Accepted t none args) := by
    unfold Meets parseCommands
    rw [← hreach, ← hfalse]
    simp only [exists_and_right]
  rw [hmeets]
  unfold Treated
  by_cases hplain : Plain t args
  · simp only [hplain, true_and, not_true, false_and, or_false, ← hplain.line_iff, exists_and_right]
    exact or_congr Iff.rfl (and_iff_left_of_imp hplain.not_accepted)
  · simp only [hplain, false_and, not_false_iff, true_and, false_or]

/-- `--delay` (`IddSetupToolCommandParser.cpp:30`): one number. -/
def delay : ParamStruct :=
  { target := 1, type := .integer, optionsList := ["--delay".toList], delimiter := [], argumentCount := 1,
    ignoreCase := true }

/-- The global parameter `--delay`, and the command `install` with its switch `--trust`. -/
def sampleTables : Tables :=
  let t := ((Tables.empty.addGlobalParam delay).getD .empty).addCommand "install".toList
  (t.addCommandSpecificSwitch "install".toList ⟨2, ["--trust".toList]⟩).getD .empty

/-- **No number**: `--delay=` violates the constraint, which is printed, and `ConstraintFunction` is reached; and
`--trust`, before its command, is looked up among the options of `Commands[-1]`. -/
theorem delay_without_number :
    (∃ st, parseCommands sampleTables ["--delay=".toList] = .ok (.constraintFunction st)) ∧
    ¬ Meets sampleTables ["--delay=".toList] ∧
    parseCommands sampleTables ["--trust".toList] = .error .vectorIndex := by
  have hline : Line (Takes sampleTables) none ["--delay=".toList] none := by
    refine .cons (takes_iff.mpr ?_) .nil
    have hread : reading sampleTables none "--delay=".toList = .param delay "--delay=".toList := rfl
    simp only [hread]
    refine ⟨⟨?_, fun _ segment hmem => ?_⟩, trivial⟩
    · show (delay.passes []).length < 2147483648
      rw [ParamStruct.passes_nil]
      decide
    · have hmem : segment ∈ delay.passes [] := hmem
      rw [ParamStruct.passes_nil] at hmem
      exact absurd hmem List.not_mem_nil
  have hreach := ((parse_spec _ .init none rfl).1).mpr ⟨none, hline⟩
  have hrejected : ¬ Accepted sampleTables none ["--delay=".toList] := by
    have hglobal : ¬ IsGlobal sampleTables "--delay=".toList := by
      rintro (⟨s, hmem, -⟩ | ⟨p, hmem, o, ho, -, -, hcounts⟩)
      · exact absurd hmem List.not_mem_nil
      · have hmem : p ∈ [delay] := hmem
        obtain rfl := List.mem_singleton.mp hmem
        have ho : o ∈ ["--delay".toList] := ho
        obtain rfl := List.mem_singleton.mp ho
        exact absurd hcounts (by decide)
    rintro (⟨hin, -⟩ | ⟨-, ⟨cmd, hmem, hname⟩, -⟩)
    · exact hglobal hin
    · have hmem : cmd ∈ [CommandStruct.mk 1 "install".toList] := hmem
      obtain rfl := List.mem_singleton.mp hmem
      exact absurd hname (by decide)
  refine ⟨hreach, ?_, rfl⟩
  rintro (⟨st, -, haccepted⟩ | ⟨st, hinvalid, -⟩)
  · exact hrejected haccepted
  · obtain ⟨st', hst'⟩ := hreach
    rw [parseCommands, hst'] at hinvalid
    cases hinvalid

end CloudStreaming.Setup.CommandParser
