import TestWatch.CommandLine.Level

/-!
# The command line

What the program is asked to do: a command with its options, and the options that go with every
command.  The latter may stand before the command or after it; what stands after it counts, then
what stands before, then the environment.

The arguments after the name of a command are read as a whole before anything held back before it
comes to light.
-/

namespace TestWatch

open Text

/-- What is said of the serial port. -/
structure PortOptions where
  /-- Its path, if one is given. -/
  port : Option Text
  /-- Its rate, if one is given. -/
  rate : Option Nat
  deriving DecidableEq, Repr

/-- A command. -/
inductive Command where
  /-- Load an image and watch it. -/
  | run (chip image : Text) (serial : PortOptions) (timeout : Option TimeSpan)
    (esptool : Option Text)
  /-- Watch a device that is running already. -/
  | monitor (serial : PortOptions) (timeout : Option TimeSpan)
  /-- Evaluate a captured log. -/
  | replay (log : Text) (timeout : Option TimeSpan)
  deriving DecidableEq, Repr

/-- What the program is asked to do. -/
structure Invocation where
  /-- Whether there is more to read in the journal. -/
  verbose : Bool
  /-- When to use color. -/
  color : ColorChoice
  /-- The path of the file with settings, if one is given. -/
  configFile : Option Text
  /-- The command. -/
  command : Command
  deriving DecidableEq, Repr

namespace CommandLine

/-- The names of the commands. -/
inductive CommandName where
  /-- Load an image and watch it. -/
  | run
  /-- Watch a device that is running already. -/
  | monitor
  /-- Evaluate a captured log. -/
  | replay
  deriving DecidableEq, Repr

/-- The commands. -/
def CommandName.all : List CommandName := [.run, .monitor, .replay]

/-- The name of a command. -/
def CommandName.word : CommandName → Text
  | .run => "run".toList
  | .monitor => "monitor".toList
  | .replay => "replay".toList

/-- The name by which help is asked for. -/
def helpWord : Text := "help".toList

/-- The options that go with every command. -/
def sharedOptions : List Opt := [.verbose, .color, .configFile]

/-- What can be given before the command. -/
def programRules : Level.Rules :=
  ⟨sharedOptions ++ [.help, .version], none, CommandName.all.map (·.word) ++ [helpWord], []⟩

/-- What can be given after the name of a command. -/
def CommandName.rules : CommandName → Level.Rules
  | .run =>
    ⟨[.chip, .image, .port, .rate, .timeout, .esptool] ++ sharedOptions ++ [.help], none, [],
      [.chip, .image]⟩
  | .monitor => ⟨[.port, .rate, .timeout] ++ sharedOptions ++ [.help], none, [], []⟩
  | .replay => ⟨[.log, .timeout] ++ sharedOptions ++ [.help], some .log, [], [.log]⟩

/-! ## Looking arguments up -/

/-- The text given for an option. -/
def textOf (args : List Argument) (opt : Opt) : Option Text :=
  args.findSome? fun arg => match arg with
    | .text o value => if o = opt then some value else none
    | _ => none

/-- The rate given. -/
def rateOf (args : List Argument) : Option Nat :=
  args.findSome? fun arg => match arg with
    | .rate rate => some rate
    | _ => none

/-- The timeout given. -/
def timeoutOf (args : List Argument) : Option TimeSpan :=
  args.findSome? fun arg => match arg with
    | .timeout timeout => some timeout
    | _ => none

/-- Whether more to read was asked for. -/
def verboseOf (args : List Argument) : Option Bool :=
  args.findSome? fun arg => match arg with
    | .verbose wanted => some wanted
    | _ => none

/-- The choice of color given. -/
def colorOf (args : List Argument) : Option ColorChoice :=
  args.findSome? fun arg => match arg with
    | .color choice => some choice
    | _ => none

/-- What was given at a level, what was typed before what was inherited. -/
def allGiven (given : Level.Given) : List Argument := given.typed ++ given.inherited

/-- The command that its arguments make. -/
def CommandName.command (name : CommandName) (args : List Argument) : Option Command :=
  let serial : PortOptions := ⟨textOf args .port, rateOf args⟩
  match name with
  | .run => do
    let chip ← textOf args .chip
    let image ← textOf args .image
    some (.run chip image serial (timeoutOf args) (textOf args .esptool))
  | .monitor => some (.monitor serial (timeoutOf args))
  | .replay => do
    let log ← textOf args .log
    some (.replay log (timeoutOf args))

/-! ## The whole line -/

/-- The answer to a request for help by name: the one command whose help is asked for has to be
known. -/
def answerHelp : List Text → UsageError
  | [] => .help
  | [name] => if programRules.commands.contains name then .help else .unknownCommand
  | _ => .unknownCommand

/-- What was given at the level of the program. -/
def readProgram (env : Environment) (s : Level.Scan) : Except UsageError Level.Given :=
  Level.settleAll programRules env s

/-- What is wrong with a command line without a command. -/
def withoutCommand (given : Level.Given) : UsageError :=
  if (allGiven given).isEmpty then .nothingGiven else .missingCommand

/-- Puts both levels together. -/
def combine (name : CommandName) (outer inner : Level.Given) : Except UsageError Invocation :=
  let shared := inner.typed ++ outer.typed ++ outer.inherited
  match name.command (allGiven inner) with
  | none => .error .missingArgument
  | some command =>
    .ok ⟨(verboseOf shared).getD false, (colorOf shared).getD .auto, textOf shared .configFile,
      command⟩

/-- Reads a command line, the name of the program left out. -/
def read (env : Environment) (args : List Text) : Except UsageError Invocation := do
  let scanned ← Level.scan programRules .start args
  match scanned.2 with
  | none =>
    let given ← readProgram env scanned.1
    .error (withoutCommand given)
  | some call =>
    match CommandName.all.find? (·.word == call.name) with
    | none => .error (answerHelp call.args)
    | some name =>
      let inner ← Level.read name.rules env call.args
      let outer ← readProgram env scanned.1
      combine name outer inner

end CommandLine

end TestWatch
