import TestWatch.CommandLine.Argument
import TestWatch.Keyed

/-!
# Levels of a command line

A command line has two levels: the program with its options, and a command with its own.  At each
level the arguments are scanned from left to right.  The value of an option is held back until the
next option turns up, so that what is wrong with it comes to light only then; an argument that is
not known is reported before that.

Options that are not given are looked up in the environment after the scan.
-/

namespace TestWatch

open Text

/-- What can be given at a level. -/
structure Level.Rules where
  /-- The options, in the order in which their variables are looked up. -/
  options : List Opt
  /-- The argument without a name, if there is one. -/
  operand : Option Opt
  /-- The names of commands that begin the next level. -/
  commands : List Text
  /-- The options that have to be given. -/
  required : List Opt

/-- A variable of the environment with its value. -/
abbrev Environment := Keyed Text

namespace Level

/-- An option whose value is held back, or still to come. -/
structure Pending where
  /-- The option. -/
  opt : Opt
  /-- Its value, if it has come. -/
  value : Option Text
  deriving DecidableEq, Repr

/-- Where the scan of a level stands. -/
structure Scan where
  /-- The arguments that were read. -/
  given : List Argument
  /-- What is held back. -/
  pending : Option Pending
  /-- Whether the argument without a name has come. -/
  operandSeen : Bool
  /-- Whether everything else is an argument without a name. -/
  operandsOnly : Bool
  deriving DecidableEq, Repr

/-- A scan that begins. -/
def Scan.start : Scan := ⟨[], none, false, false⟩

/-- Whether the last option still waits for its value. -/
def Scan.awaits (s : Scan) : Bool := s.pending.any fun p => p.value.isNone

/-- Takes an argument in, unless its option was given before. -/
def Scan.accept (s : Scan) (opt : Opt) (value : Text) : Except UsageError Scan :=
  if s.given.any (·.opt == opt) then .error .conflict
  else (opt.read value).map fun arg => { s with given := s.given ++ [arg] }

/-- Takes in what is held back. -/
def Scan.settle (s : Scan) : Except UsageError Scan :=
  match s.pending with
  | none => .ok s
  | some ⟨_, none⟩ => .error .invalidValue
  | some ⟨opt, some value⟩ => { s with pending := none }.accept opt value

/-- Holds an option back. -/
def Scan.hold (s : Scan) (opt : Opt) (value : Option Text) : Except UsageError Scan :=
  s.settle.map fun s => { s with pending := some ⟨opt, value⟩ }

/-- Takes an option in that is given without a value. -/
def Scan.flag (s : Scan) (opt : Opt) : Except UsageError Scan := do
  let s ← s.settle
  match opt with
  | .help => .error .help
  | .version => .error .version
  | opt => s.accept opt "true".toList

/-- Takes an option in that is given with its value. -/
def Scan.attach (s : Scan) (opt : Opt) (value : Text) : Except UsageError Scan := do
  let s ← s.settle
  s.accept opt value

/-- An option by its long name, with the value that stands after an equals sign. -/
def takeLong (rules : Rules) (s : Scan) (body : Text) : Except UsageError Scan :=
  let name := ((cutAt '=' body).map Prod.fst).getD body
  let value := (cutAt '=' body).map Prod.snd
  match rules.options.find? (·.long == some name) with
  | none => .error .unknownArgument
  | some opt =>
    match opt.takesValue, value with
    | true, some value => s.attach opt value
    | true, none => s.hold opt none
    | false, some _ => .error .tooManyValues
    | false, none => s.flag opt

/-- Options by their letters.  After the letter of an option with a value comes that value, perhaps
with an equals sign before it. -/
def takeShort (rules : Rules) (s : Scan) : Text → Except UsageError Scan
  | [] => .ok s
  | c :: rest =>
    match rules.options.find? (·.short == some c) with
    | none => .error .unknownArgument
    | some opt =>
      if opt.takesValue then
        if rest.isEmpty then s.hold opt none
        else s.attach opt ((dropFront? ['='] rest).getD rest)
      else do
        let s ← s.flag opt
        takeShort rules s rest

/-- The refusal of an argument for which there is no place. -/
def stray (rules : Rules) (s : Scan) (arg : Text) : UsageError :=
  if rules.commands.isEmpty || (s.operandsOnly && rules.commands.contains arg) then .unknownArgument
  else .unknownCommand

/-- An argument without a name. -/
def takeOperand (rules : Rules) (s : Scan) (arg : Text) : Except UsageError Scan :=
  match rules.operand with
  | some opt =>
    if s.operandSeen then .error (stray rules s arg)
    else (s.hold opt (some arg)).map fun s => { s with operandSeen := true }
  | none => .error (stray rules s arg)

/-- One argument that begins no command. -/
def takeArgument (rules : Rules) (s : Scan) (arg : Text) : Except UsageError Scan :=
  if s.operandsOnly then takeOperand rules s arg
  else match arg with
    | ['-', '-'] => .ok { s with operandsOnly := true }
    | '-' :: '-' :: body => takeLong rules s body
    | '-' :: c :: rest => takeShort rules s (c :: rest)
    | arg =>
      match s.pending with
      | some ⟨opt, none⟩ => .ok { s with pending := some ⟨opt, some arg⟩ }
      | _ => takeOperand rules s arg

/-- A command that was met, with the arguments after it. -/
structure Call where
  /-- The name of the command. -/
  name : Text
  /-- The arguments after it. -/
  args : List Text
  deriving DecidableEq, Repr

/-- Scans arguments up to their end, or up to the name of a command. -/
def scan (rules : Rules) (s : Scan) : List Text → Except UsageError (Scan × Option Call)
  | [] => .ok (s, none)
  | arg :: rest =>
    if !s.operandsOnly && !s.awaits && rules.commands.contains arg then .ok (s, some ⟨arg, rest⟩)
    else do
      let s ← takeArgument rules s arg
      scan rules s rest

/-! ## After the scan -/

/-- What was given at a level. -/
structure Given where
  /-- Arguments of the command line. -/
  typed : List Argument
  /-- Arguments from the environment. -/
  inherited : List Argument
  deriving DecidableEq, Repr

/-- The argument that the environment holds for an option that was not given. -/
def inherit (env : Environment) (typed : List Argument) (opt : Opt) :
    Except UsageError (Option Argument) :=
  if typed.any (·.opt == opt) then .ok none
  else match opt.variableName.bind (List.lookup · env) with
    | none => .ok none
    | some value => (opt.read value).map some

/-- What was given at a level, once its scan is over. -/
def settleAll (rules : Rules) (env : Environment) (s : Scan) : Except UsageError Given := do
  let s ← s.settle
  let inherited ← rules.options.mapM (inherit env s.given)
  .ok ⟨s.given, inherited.filterMap id⟩

/-- Whether an option was given. -/
def Given.has (g : Given) (opt : Opt) : Bool :=
  g.typed.any (·.opt == opt) || g.inherited.any (·.opt == opt)

/-- What a level of its own comes to, in which no other begins. -/
def read (rules : Rules) (env : Environment) (args : List Text) : Except UsageError Given := do
  let scanned ← scan rules .start args
  let given ← settleAll rules env scanned.1
  if rules.required.all given.has then .ok given else .error .missingArgument

end Level

end TestWatch
