import TestWatch.Program

/-!
# The command

Collects what the program can see - variables, and the files that the command line and the settings
name - and runs the program on it.  Serial ports are not set up and programs are not started from
here; the program is told so.
-/

namespace TestWatch

open Text

namespace Outer

/-- The variables that the program looks at. -/
def variableNames : List Text :=
  Program.logVariable
    :: (CommandLine.sharedOptions ++ (CommandLine.CommandName.all.flatMap (·.rules.options))).filterMap
      Opt.variableName

/-- The environment, as far as the program looks at it. -/
def readVariables : IO Environment :=
  variableNames.filterMapM fun name => do
    let value ← IO.getEnv (String.ofList name)
    return value.map fun value => (name, value.toList)

/-- What stands at a path. -/
def lookAt (path : Text) : IO (Option Node) := do
  let place := System.mkFilePath [String.ofList path]
  try
    match (← place.metadata).type with
    | .dir => return some .directory
    | .file => return some (.file (← IO.FS.readBinFile place).toList false)
    | .symlink | .other => return some .null
  catch e =>
    match e with
    | .noFileOrDirectory .. | .inappropriateType .. => return none
    | e => return some (.barred ⟨.other, e.toString.toList⟩)

/-- The paths that lead to a path, and the path itself. -/
def waysTo (path : Text) : List Text :=
  let parts := split '/' path
  ((List.range parts.length).map fun n => join ['/'] (parts.take (n + 1))).filter (!·.isEmpty)

/-- The files with what stands on the way to a path. -/
def explore (files : Files) (path : Text) : IO Files :=
  (waysTo path).foldlM (fun files way => do
    match ← lookAt way with
    | some node => return files.add way node
    | none => return files) files

/-- The paths at which settings may be found. -/
def settingsPaths (home : Text) (invocation : Invocation) : List Text :=
  let file := invocation.configFile.getD (Settings.inDirectory home Settings.usualPath)
  [file, Settings.completed file]

/-- The paths that a command names. -/
def commandPaths (settings : Settings) : Command → List Text
  | .run _ image serial _ _ => [image, serial.port.getD settings.port]
  | .monitor serial _ => [serial.port.getD settings.port]
  | .replay log _ => [log]

/-- The files that the program may look at. -/
def readFiles (home : Text) (invocation : Invocation) : IO Files := do
  let files ← (settingsPaths home invocation).foldlM explore ⟨some home, []⟩
  match (Settings.load files home invocation.configFile).result with
  | .ok settings => (commandPaths settings invocation.command).foldlM explore files
  | .error _ => return files

/-- The working directory, or why it is not known. -/
def findHome : IO (Except DirectoryFault Text) := do
  try
    return .ok (← IO.currentDir).toString.toList
  catch e =>
    return .error (.untold ⟨.other, e.toString.toList⟩)

/-- What the program can see. -/
def surroundings (home : Text) (args : List Text) : IO Surroundings := do
  let environment ← readVariables
  let files ← match CommandLine.read environment args with
    | .ok invocation => readFiles home invocation
    | .error _ => pure ⟨some home, []⟩
  return ⟨environment, files, fun _ _ => .error FaultKind.unsupported.fault, none⟩

/-- Runs the program where it was started. -/
def runHere (args : List Text) : IO Program.Ended := do
  match ← findHome with
  | .ok home => return Program.run (← surroundings home args) args
  | .error fault =>
    let world := { Surroundings.secluded with environment := ← readVariables }
    return Program.runOn { Host.ordinary with directory := some fault } world args

end Outer

end TestWatch

/-- Runs the program and prints what it has to say. -/
def main (args : List String) : IO UInt32 := do
  let ended ← TestWatch.Outer.runHere (args.map (·.toList))
  let output ← IO.getStdout
  output.write ⟨ended.output.toArray⟩
  output.flush
  let errors ← IO.getStderr
  errors.write ⟨ended.errors.toArray⟩
  return UInt32.ofNat ended.status
