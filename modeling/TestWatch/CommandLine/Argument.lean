import TestWatch.TimeSpan.Reading

/-!
# Arguments

The options of the command line, their names, the variables of the environment that stand in for
them, and the reading of their values.
-/

namespace TestWatch

open Text

/-- An option, or an argument without a name. -/
inductive Opt where
  /-- The chip of the device. -/
  | chip
  /-- The path of the image to load. -/
  | image
  /-- The path of the serial port. -/
  | port
  /-- The rate of the serial port. -/
  | rate
  /-- The timeout. -/
  | timeout
  /-- The name of esptool. -/
  | esptool
  /-- The path of a captured log. -/
  | log
  /-- More to read in the journal. -/
  | verbose
  /-- When to use color. -/
  | color
  /-- The path of the file with settings. -/
  | configFile
  /-- A request for help. -/
  | help
  /-- A request for the release. -/
  | version
  deriving DecidableEq, Repr

namespace Opt

/-- The name after two hyphens. -/
def long : Opt → Option Text
  | .chip => some "chip".toList
  | .image => some "binary".toList
  | .port => some "port".toList
  | .rate => some "baud".toList
  | .timeout => some "timeout".toList
  | .esptool => some "esptool".toList
  | .log => none
  | .verbose => some "verbose".toList
  | .color => some "color".toList
  | .configFile => some "config-file".toList
  | .help => some "help".toList
  | .version => some "version".toList

/-- The letter after one hyphen. -/
def short : Opt → Option Char
  | .chip => some 'c'
  | .image => some 'f'
  | .port => some 'p'
  | .rate => some 'b'
  | .timeout => some 't'
  | .verbose => some 'v'
  | .help => some 'h'
  | .version => some 'V'
  | .esptool | .log | .color | .configFile => none

/-- The variable that stands in for the option. -/
def variableName : Opt → Option Text
  | .chip => some "ESP_RAM_TEST_CHIP".toList
  | .port => some "ESP_RAM_TEST_PORT".toList
  | .rate => some "ESP_RAM_TEST_BAUD".toList
  | .timeout => some "ESP_RAM_TEST_TIMEOUT".toList
  | .esptool => some "ESP_RAM_TEST_ESPTOOL".toList
  | .verbose => some "ESP_RAM_TEST_VERBOSE".toList
  | .color => some "ESP_RAM_TEST_COLOR".toList
  | .configFile => some "ESP_RAM_TEST_CONFIG_FILE".toList
  | .image | .log | .help | .version => none

/-- Whether the option comes with a value. -/
def takesValue : Opt → Bool
  | .verbose | .help | .version => false
  | _ => true

end Opt

/-- When to use color. -/
inductive ColorChoice where
  /-- Where it is supported. -/
  | auto
  /-- Always. -/
  | always
  /-- Never. -/
  | never
  deriving DecidableEq, Repr

/-- The word for a choice. -/
def ColorChoice.word : ColorChoice → Text
  | .auto => "auto".toList
  | .always => "always".toList
  | .never => "never".toList

/-- The choices. -/
def ColorChoice.all : List ColorChoice := [.auto, .always, .never]

/-- Why a command line was refused, or what it asks for instead of a command. -/
inductive UsageError where
  /-- Help is asked for. -/
  | help
  /-- The release is asked for. -/
  | version
  /-- Nothing is given at all. -/
  | nothingGiven
  /-- An argument is not known. -/
  | unknownArgument
  /-- A value is missing, or is none of those that can be chosen from. -/
  | invalidValue
  /-- A value cannot be read. -/
  | valueRefused (message : Text)
  /-- A value is given to an option without one. -/
  | tooManyValues
  /-- An option is given twice. -/
  | conflict
  /-- An argument is missing. -/
  | missingArgument
  /-- The command is missing. -/
  | missingCommand
  /-- A command is not known. -/
  | unknownCommand
  deriving DecidableEq, Repr

/-- The exit status after a refusal; a request that was met is none. -/
def UsageError.exitStatus : UsageError → Nat
  | .help | .version => 0
  | _ => 2

/-- An option with its value. -/
inductive Argument where
  /-- An option whose value is a text. -/
  | text (opt : Opt) (value : Text)
  /-- The rate. -/
  | rate (rate : Nat)
  /-- The timeout. -/
  | timeout (timeout : TimeSpan)
  /-- Whether there is more to read in the journal. -/
  | verbose (wanted : Bool)
  /-- When to use color. -/
  | color (choice : ColorChoice)
  deriving DecidableEq, Repr

/-- The option of an argument. -/
def Argument.opt : Argument → Opt
  | .text opt _ => opt
  | .rate _ => .rate
  | .timeout _ => .timeout
  | .verbose _ => .verbose
  | .color _ => .color

/-! ## Reading values -/

/-- Reads a rate. -/
def readRate (s : Text) : Except UsageError Nat :=
  match readInt64 s with
  | .error e => .error (.valueRefused e.message)
  | .ok n =>
    if 0 ≤ n ∧ n < word32 then .ok n.toNat
    else .error (.valueRefused (decimalInt n ++ " is not in 0..=4294967295".toList))

/-- Reads a timeout: whole seconds, or a span of time with units.  It may not be nothing. -/
def readTimeout (s : Text) : Except UsageError TimeSpan :=
  let span : Except TimeSpan.ReadError TimeSpan := match readWord64 s with
    | .ok seconds => .ok (.ofSeconds seconds)
    | .error _ => TimeSpan.read s
  match span with
  | .error e => .error (.valueRefused e.message)
  | .ok span =>
    if span.isZero then .error (.valueRefused "timeout must be greater than zero".toList)
    else .ok span

/-- Reads a truth value. -/
def readTruth (s : Text) : Except UsageError Bool :=
  if s = "true".toList then .ok true
  else if s = "false".toList then .ok false
  else .error .invalidValue

/-- Reads a choice of color. -/
def readColor (s : Text) : Except UsageError ColorChoice :=
  match ColorChoice.all.find? (·.word == s) with
  | some choice => .ok choice
  | none => .error .invalidValue

/-- Reads the value of an option. -/
def Opt.read (opt : Opt) (value : Text) : Except UsageError Argument :=
  match opt with
  | .rate => (readRate value).map .rate
  | .timeout => (readTimeout value).map .timeout
  | .verbose => (readTruth value).map .verbose
  | .color => (readColor value).map .color
  | opt => .ok (.text opt value)

/-- What is read for an option is an argument of that option. -/
theorem opt_of_read {opt : Opt} {value : Text} {arg : Argument} (h : opt.read value = .ok arg) :
    arg.opt = opt := by
  cases opt <;> simp only [Opt.read, Except.map] at h <;>
    first
      | (split at h <;> cases h; rfl)
      | (cases h; rfl)

/-- A timeout that was read is more than nothing. -/
theorem readTimeout_pos {s : Text} {span : TimeSpan} (h : readTimeout s = .ok span) :
    span.isZero = false := by
  unfold readTimeout at h
  simp only at h
  split at h
  · cases h
  · split at h
    · cases h
    · rename_i hz; cases h; simpa using hz

end TestWatch
