import TestWatch.Files
import TestWatch.Journal
import TestWatch.Release
import TestWatch.Text.ShellWord

/-!
# esptool

Loading a test image into the memory of a device is the work of esptool, a program that is started
for it.  It is asked for its release first, because the name of the command that loads an image
depends on it.

Starting a program is left to a `Launcher`.  What a call of esptool comes to is a `Run`: its result,
the calls that were made, and what was noted.
-/

namespace TestWatch

open Text

/-! ## Programs -/

/-- How a program ended. -/
inductive Ending where
  /-- With a status of its own. -/
  | status (code : Nat)
  /-- By a signal. -/
  | signal (number : Nat)
  /-- By a signal that left a dump of its memory. -/
  | dumped (number : Nat)
  deriving DecidableEq, Repr

namespace Ending

/-- The names of the signals of Linux, from number one on; those for real time have none. -/
def signalNames : List String :=
  ["SIGHUP", "SIGINT", "SIGQUIT", "SIGILL", "SIGTRAP", "SIGABRT", "SIGBUS", "SIGFPE", "SIGKILL",
    "SIGUSR1", "SIGSEGV", "SIGUSR2", "SIGPIPE", "SIGALRM", "SIGTERM", "SIGSTKFLT", "SIGCHLD",
    "SIGCONT", "SIGSTOP", "SIGTSTP", "SIGTTIN", "SIGTTOU", "SIGURG", "SIGXCPU", "SIGXFSZ",
    "SIGVTALRM", "SIGPROF", "SIGWINCH", "SIGIO", "SIGPWR", "SIGSYS"]

/-- The name of a signal, if it has one. -/
def signalName? : Nat → Option String
  | 0 => none
  | number + 1 => signalNames[number]?

/-- A signal in words: its number, and its name if it has one. -/
def signalWording (number : Nat) : Text :=
  "signal: ".toList ++ decimal number
    ++ match signalName? number with
      | some name => " (".toList ++ name.toList ++ ")".toList
      | none => []

/-- How a program ended, in words. -/
def wording : Ending → Text
  | .status code => "exit status: ".toList ++ decimal code
  | .signal number => signalWording number
  | .dumped number => signalWording number ++ " (core dumped)".toList

/-- Whether a program ended well. -/
def isGood (ending : Ending) : Bool := ending == .status 0

end Ending

/-- A program that has ended. -/
structure Finished where
  /-- How it ended. -/
  ending : Ending
  /-- What it wrote to its output. -/
  output : Octets
  /-- What it wrote to its error output. -/
  errors : Octets
  deriving DecidableEq, Repr

/-- Starts the program with a name and some arguments and waits for its end, or says why it could
not be started. -/
abbrev Launcher := Text → List Text → Except Fault Finished

/-- A stand-in for esptool with answers that are known beforehand. -/
structure PreparedTool where
  /-- The answer to a question for its release. -/
  release : Finished
  /-- The answer to everything else. -/
  other : Finished
  deriving DecidableEq, Repr

/-- The answer to a call. -/
def PreparedTool.answer (tool : PreparedTool) (args : List Text) : Finished :=
  if args.head? = some "version".toList then tool.release else tool.other

/-- The launcher for the programs that can be seen, if each of them is a prepared tool. -/
def PreparedTool.launcher (tool : PreparedTool) (files : Files) : Launcher := fun name args =>
  if (name :: args).any (·.contains '\x00') then
    .error ⟨.invalidInput, "nul byte found in provided data".toList⟩
  else (files.checkProgram name).map fun _ => tool.answer args

namespace Esptool

/-! ## Errors -/

/-- What can go wrong in a call. -/
inductive CallError where
  /-- The program could not be started. -/
  | exec (command : Text) (fault : Fault)
  /-- The program did not end well. -/
  | failed (command : Text) (ending : Ending) (errors : Text)
  deriving DecidableEq, Repr

/-- The texts of an error and of its cause, if it has one. -/
def CallError.chain : CallError → List Text
  | .exec command fault => ["failed to execute `".toList ++ command ++ "`".toList, fault.text]
  | .failed command ending errors =>
    ["`".toList ++ command ++ "` failed with ".toList ++ ending.wording ++ "\nstderr:\n".toList
      ++ errors]

/-- Why the release is not known. -/
inductive ReleaseError where
  /-- The call went wrong. -/
  | call (error : CallError)
  /-- The output names no release. -/
  | noRelease (command : Text) (output : Text)
  deriving DecidableEq, Repr

/-- The texts of an error and of its cause, if it has one. -/
def ReleaseError.chain : ReleaseError → List Text
  | .call e => e.chain
  | .noRelease command output =>
    ["could not find a version in the output of `".toList ++ command ++ "`:\n".toList ++ output]

/-- Why an image could not be loaded. -/
inductive LoadError where
  /-- There is no such image. -/
  | imageMissing (path : Text)
  /-- The release of esptool is not known. -/
  | release (error : ReleaseError)
  /-- The call went wrong. -/
  | call (error : CallError)
  deriving DecidableEq, Repr

/-- The texts of an error and of its causes. -/
def LoadError.chain : LoadError → List Text
  | .imageMissing path => ["binary file not found: `".toList ++ path ++ "`".toList]
  | .release e => "failed to negotiate esptool capabilities".toList :: e.chain
  | .call e => e.chain

/-! ## Calls -/

/-- What calls of esptool come to. -/
structure Run (ε α : Type) where
  /-- The result. -/
  result : Except ε α
  /-- The arguments of the calls that were made, in their order. -/
  calls : List (List Text)
  /-- What was noted. -/
  journal : Journal

/-- An entry about loading. -/
def entry (level : Level) (text : Text) : Entry := ⟨level, .loading, text⟩

/-- Calls esptool once; a program that has ended counts as a result, however it ended. -/
def call (launch : Launcher) (tool : Text) (args : List Text) : Run CallError Finished :=
  let command := shellCommand (tool :: args)
  let journal := [entry .trace ("executing command: ".toList ++ command)]
  match launch tool args with
  | .error fault => ⟨.error (.exec command fault), [], journal⟩
  | .ok finished => ⟨.ok finished, [args], journal⟩

/-- The refusal of a program that did not end well. -/
def failure (tool : Text) (args : List Text) (finished : Finished) : CallError :=
  .failed (shellCommand (tool :: args)) finished.ending (decodeMarking finished.errors)

/-! ## The release -/

/-- The arguments of the question for the release. -/
def releaseArgs : List Text := ["version".toList]

/-- The release that a finished call names. -/
def releaseIn (tool : Text) (finished : Finished) : Except ReleaseError Release :=
  if finished.ending.isGood then
    match Release.last? (decodeMarking finished.output) with
    | some release => .ok release
    | none =>
      .error (.noRelease (shellCommand (tool :: releaseArgs)) (decodeMarking finished.output))
  else .error (.call (failure tool releaseArgs finished))

/-- Asks esptool for its release. -/
def release (launch : Launcher) (tool : Text) : Run ReleaseError Release :=
  let run := call launch tool releaseArgs
  let result := match run.result with
    | .error e => .error (.call e)
    | .ok finished => releaseIn tool finished
  ⟨result, run.calls, run.journal⟩

/-- The first release whose commands have their words joined by hyphens. -/
def firstHyphened : Release := .plain 5 0 0

/-- The command that loads an image.  What came before the first hyphened release has hyphens already,
so that the numbers alone are compared. -/
def loadCommand (release : Release) : Text :=
  if (Release.order release.core firstHyphened).isGE then "load-ram".toList
  else "load_ram".toList

/-! ## Loading -/

/-- What is to be loaded, and where. -/
structure Load where
  /-- The chip of the device. -/
  chip : Text
  /-- The port that the device is attached to. -/
  port : Text
  /-- The rate of the transfer. -/
  rate : Nat
  /-- The path of the image. -/
  image : Text
  deriving DecidableEq, Repr

/-- The arguments of the call that loads an image. -/
def Load.args (l : Load) (release : Release) : List Text :=
  ["--chip".toList, l.chip, "--port".toList, l.port, "--baud".toList, decimal l.rate,
    loadCommand release, l.image]

/-- Loads an image with an esptool of a known release. -/
def loadWith (launch : Launcher) (tool : Text) (l : Load) (release : Release) :
    Run LoadError Unit :=
  let args := l.args release
  let run := call launch tool args
  let opening :=
    [entry .debug ("esptool ".toList ++ release.shown ++ " uses `".toList ++ loadCommand release
        ++ "`".toList),
      entry .info ("loading ".toList ++ l.image ++ " into RAM of ".toList ++ l.chip)]
  match run.result with
  | .error e => ⟨.error (.call e), run.calls, opening ++ run.journal⟩
  | .ok finished =>
    if finished.ending.isGood then ⟨.ok (), run.calls, opening ++ run.journal⟩
    else
      ⟨.error (.call (failure tool args finished)), run.calls, opening ++ run.journal
        ++ [entry .debug ("stdout:\n".toList ++ decodeMarking finished.output)]⟩

/-- Loads an image.  Nothing is started for an image that does not exist. -/
def load (launch : Launcher) (files : Files) (tool : Text) (l : Load) : Run LoadError Unit :=
  if files.existsAt l.image then
    let asked := release launch tool
    match asked.result with
    | .error e => ⟨.error (.release e), asked.calls, asked.journal⟩
    | .ok release =>
      let loaded := loadWith launch tool l release
      ⟨loaded.result, asked.calls ++ loaded.calls, asked.journal ++ loaded.journal⟩
  else ⟨.error (.imageMissing l.image), [], []⟩

end Esptool

end TestWatch
