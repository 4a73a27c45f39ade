import TestWatch.CommandLine
import TestWatch.Esptool
import TestWatch.Feed.Opening
import TestWatch.Journal.Filter
import TestWatch.Report
import TestWatch.Settings

/-!
# The program

From the arguments to the exit status: the command line is read, then the settings; the feed of the
command is opened, for an image that is to be loaded before the load begins; the session is watched,
its report printed, and the verdict noted.  What goes wrong on the way is noted with its causes, also
where it is the system that does not let the program go on (`Host`).

`Program.runOn` is all of it, as a function of the host and of what the program can see.
-/

namespace TestWatch

open Text

/-- What the program can see. -/
structure Surroundings where
  /-- The environment. -/
  environment : Environment
  /-- The files. -/
  files : Files
  /-- How programs are started. -/
  launch : Launcher
  /-- When the output begins to fail, if ever. -/
  refusal : Option Refusal

/-- Surroundings in which there is nothing, and whose output takes everything. -/
def Surroundings.secluded : Surroundings :=
  ⟨[], ⟨none, []⟩, fun _ _ => .error FaultKind.unsupported.fault, none⟩

/-! ## The host -/

/-- Why the working directory is not known. -/
inductive DirectoryFault where
  /-- The system does not tell it. -/
  | untold (fault : Fault)
  /-- Its path is no text; the causes are worded where paths are read. -/
  | noText (causes : List Text)
  deriving DecidableEq, Repr

/-- The texts of the causes. -/
def DirectoryFault.causes : DirectoryFault → List Text
  | .untold f => [f.text]
  | .noText causes => causes

/-- What the system refuses to the program before a session begins. -/
structure Host where
  /-- Why the working directory is not known. -/
  directory : Option DirectoryFault
  /-- Why there is nothing that sessions could run on. -/
  runtime : Option Fault
  /-- Why nothing can listen for signals. -/
  listening : Option Fault
  deriving DecidableEq, Repr

/-- A host that refuses nothing. -/
def Host.ordinary : Host := ⟨none, none, none⟩

/-! ## Failures -/

/-- What ends the program early. -/
inductive Failure where
  /-- The working directory is not known. -/
  | directory (fault : DirectoryFault)
  /-- The settings were refused. -/
  | settings (refusal : Settings.SettingsRefusal)
  /-- The serial port could not be opened. -/
  | port (refusal : PortRefusal)
  /-- The log could not be opened. -/
  | log (refusal : LogRefusal)
  /-- The image could not be loaded. -/
  | load (error : Esptool.LoadError)
  /-- There is nothing that a session could run on. -/
  | runtime (fault : Fault)
  /-- Nothing can listen for signals. -/
  | listening (fault : Fault)
  /-- A read failed. -/
  | read (source : Text) (fault : Fault)
  /-- The report could not be printed. -/
  | output (fault : Fault)

namespace Failure

/-- A name in a message. -/
def named (before name after : Text) : Styled :=
  [plainly before, Text.Style.of .bold name, plainly after]

/-- What went wrong. -/
def heading : Failure → Styled
  | .directory (.untold _) => [plainly "could not determine current directory".toList]
  | .directory (.noText _) => [plainly "current directory is not valid UTF-8".toList]
  | .settings refusal => named "failed to parse config at `".toList refusal.file ['`']
  | .port refusal => named "failed to open serial port `".toList refusal.path ['`']
  | .log refusal => [plainly ("failed to open replay log `".toList ++ refusal.path ++ ['`'])]
  | .load (.imageMissing path) => named "binary file not found: `".toList path ['`']
  | .load (.release _) => [plainly "failed to determine esptool version".toList]
  | .load (.call (.exec command _)) => named "failed to execute `".toList command ['`']
  | .load (.call (.failed _ _ _)) => [plainly "failed to load binary into RAM".toList]
  | .runtime _ => [plainly "error creating async runtime".toList]
  | .listening _ => [plainly "error setting up signal handler".toList]
  | .read source _ => named "error reading from ".toList source []
  | .output _ => [plainly "error writing output".toList]

/-- Why it went wrong, the nearest cause first. -/
def causes : Failure → List Text
  | .directory fault => fault.causes
  | .settings refusal => [refusal.fault.message?.getD "the file is not valid TOML".toList]
  | .port refusal => refusal.fault.chain
  | .log refusal => [refusal.fault.text]
  | .load (.imageMissing _) => []
  | .load (.release e) => e.chain
  | .load (.call (.exec _ f)) => [f.text]
  | .load (.call e) => e.chain
  | .runtime f | .listening f | .read _ f | .output f => [f.text]

/-- What is noted of a failure. -/
def journal (color : Bool) (failure : Failure) : Journal :=
  ⟨.error, .failure, failure.heading.shown color⟩
    :: failure.causes.map fun cause => ⟨.error, .cause, "\nCaused by:\n  ".toList ++ cause⟩

end Failure

/-! ## Work -/

/-- What the program does, one thing after the other. -/
inductive Deed where
  /-- The settings are read. -/
  | readSettings (journal : Journal)
  /-- The serial port is opened, if it can be. -/
  | openPort (path : Text) (rate : Nat)
  /-- The log is opened, if it can be. -/
  | openLog (path : Text)
  /-- The image is loaded, if it can be. -/
  | load (calls : List (List Text)) (journal : Journal)
  /-- A session is watched. -/
  | watch (outcome : Outcome)
  /-- The report is printed, as far as it can be. -/
  | report (octets : Octets)
  /-- Something is noted: the verdict, or what went wrong. -/
  | note (journal : Journal)
  deriving DecidableEq, Repr

namespace Deed

/-- What a deed prints. -/
def output : Deed → Octets
  | .watch outcome => outcome.echo.sink.taken
  | .report octets => octets
  | _ => []

/-- What a deed notes. -/
def journal : Deed → Journal
  | .readSettings journal | .load _ journal | .note journal => journal
  | .watch outcome => outcome.journal
  | _ => []

/-- The calls of esptool that a deed makes. -/
def calls : Deed → List (List Text)
  | .load calls _ => calls
  | _ => []

end Deed

/-- What some work comes to. -/
structure Work where
  /-- The exit status. -/
  status : Nat
  /-- What was done. -/
  deeds : List Deed
  deriving DecidableEq, Repr

namespace Work

/-- Work that ended early. -/
def failed (color : Bool) (failure : Failure) : Work := ⟨1, [.note (failure.journal color)]⟩

/-- Work after something else was done. -/
def after (deed : Deed) (work : Work) : Work := { work with deeds := deed :: work.deeds }

end Work

namespace Program

/-- An entry about the command. -/
def entry (level : Level) (text : Text) : Entry := ⟨level, .command, text⟩

/-- What is noted when a session begins. -/
def opening : Entry := entry .info "monitoring Unity test execution...".toList

/-- What is noted of a session at its end. -/
def verdict (color : Bool) (o : Outcome) : Journal :=
  match o.interruption with
  | some (.readFault source f) => (Failure.read source f).journal color
  | some (.signal signal) =>
    [entry .error ("test monitoring interrupted by ".toList ++ signal.wording)]
  | none =>
    if o.isCompleted then
      [entry .info "Unity test execution completed!".toList,
        if o.isSuccess then entry .info "all Unity tests passed!".toList
        else entry .warn ("Unity tests completed with ".toList ++ decimal o.tally.failed
          ++ " failures".toList)]
    else [entry .error "test monitoring timed out or failed to detect completion".toList]

/-- The report of a session as it is printed. -/
def reportOctets (color : Bool) (o : Outcome) : Octets :=
  encode ('\n' :: Report.render color o.tally ++ ['\n'])

/-- Reports a session that was watched, and notes the verdict if the report could be printed. -/
def conclude (color : Bool) (o : Outcome) : Work :=
  let sink := o.echo.sink
  let printed := sink.put (reportOctets color o)
  let report := Deed.report (printed.1.taken.drop sink.taken.length)
  match printed.2 with
  | some f => (Work.failed color (.output f)).after report
  | none => ⟨exitStatus o.isSuccess, [report, .note (verdict color o)]⟩

/-- Watches a feed and reports. -/
def watch (world : Surroundings) (color : Bool) (timing : Timing) (feed : Feed) : Work :=
  let outcome := Session.run timing (.fresh world.refusal) feed
  ((conclude color outcome).after (.watch outcome)).after (.note [opening])

/-- Watches a feed and reports, if the host lets a session begin. -/
def attend (host : Host) (world : Surroundings) (color : Bool) (timing : Timing) (feed : Feed) :
    Work :=
  match host.runtime, host.listening with
  | some f, _ => .failed color (.runtime f)
  | none, some f => (Work.failed color (.listening f)).after (.note [opening])
  | none, none => watch world color timing feed

/-- The times to keep to, with the timeout of the command line if there is one. -/
def timingFor (settings : Settings) (timeout : Option TimeSpan) : Timing :=
  { settings.timing with timeout := timeout.getD settings.timing.timeout }

/-- Opens the serial port that a command names and goes on with it. -/
def withPort (world : Surroundings) (color : Bool) (settings : Settings) (serial : PortOptions)
    (next : (path : Text) → (rate : Nat) → Feed → Work) : Work :=
  let path := serial.port.getD settings.port
  let rate := serial.rate.getD settings.rate
  let rest : Work := match openSerial world.files path rate with
    | .error refusal => .failed color (.port refusal)
    | .ok feed => next path rate feed
  rest.after (.openPort path rate)

/-- Loads an image and goes on if that succeeds. -/
def withImage (world : Surroundings) (color : Bool) (tool : Text) (load : Esptool.Load)
    (next : Work) : Work :=
  let loaded := Esptool.load world.launch world.files tool load
  let rest : Work := match loaded.result with
    | .error e => .failed color (.load e)
    | .ok () => next
  rest.after (.load loaded.calls loaded.journal)

/-- Carries a command out. -/
def perform (host : Host) (world : Surroundings) (color : Bool) (settings : Settings) :
    Command → Work
  | .run chip image serial timeout esptool =>
    withPort world color settings serial fun path rate feed =>
      withImage world color (esptool.getD settings.esptool) ⟨chip, path, rate, image⟩
        (attend host world color (timingFor settings timeout) feed)
  | .monitor serial timeout =>
    withPort world color settings serial fun _ _ feed =>
      attend host world color (timingFor settings timeout) feed
  | .replay log timeout =>
    let rest : Work := match openReplay world.files log with
      | .error refusal => .failed color (.log refusal)
      | .ok replay => attend host world color (timingFor settings timeout) replay.feed
    rest.after (.openLog log)

/-- Loads the settings and carries the command out, if the working directory is known. -/
def carryOut (host : Host) (world : Surroundings) (color : Bool) (invocation : Invocation) : Work :=
  match host.directory with
  | some fault => .failed color (.directory fault)
  | none =>
    let loaded := Settings.load world.files (world.files.home.getD []) invocation.configFile
    let rest : Work := match loaded.result with
      | .error refusal => .failed color (.settings refusal)
      | .ok settings => perform host world color settings invocation.command
    rest.after (.readSettings loaded.journal)

/-! ## What is shown -/

/-- The variable with the directives for the journal. -/
def logVariable : Text := "ESP_RAM_TEST_LOG".toList

/-- The filter for the journal, and what is noted of directives that cannot be read. -/
def filterFor (environment : Environment) (verbose : Bool) : Filter × Journal :=
  let usual := Filter.upTo (if verbose then .debug else .info)
  match List.lookup logVariable environment with
  | none | some [] => (usual, [])
  | some directives =>
    match Filter.read directives with
    | some filter => (filter, [])
    | none =>
      (usual, [⟨.warn, .journal, "ignoring invalid ".toList ++ logVariable ++ " value `".toList
        ++ directives ++ "`".toList⟩])

/-- The style of a level. -/
def levelStyle : Level → Text.Style
  | .error => .error
  | .warn => .warning
  | .info => .info
  | .debug => .bold
  | .trace => .faint

/-- An entry as it is shown, on lines of its own. -/
def shownEntry (color : Bool) (entry : Entry) : Text :=
  let level : Styled :=
    if entry.topic = .cause then []
    else [(levelStyle entry.level).of ('[' :: entry.level.name ++ [']']), plainly [' ']]
  level.shown color ++ entry.text ++ ['\n']

/-- What a filter shows of a journal. -/
def shownJournal (filter : Filter) (color : Bool) (journal : Journal) : Text :=
  (List.filter filter.shows journal).flatMap (shownEntry color)

/-! ## The whole program -/

/-- The name and release of the program. -/
def releaseLine : Text := "esp-ram-test 0.1.0\n".toList

/-- How the program is used, in short. -/
def usageLine : Text := "Usage: esp-ram-test [OPTIONS] <run|monitor|replay>\n".toList

/-- How a run of the program ended. -/
structure Ended where
  /-- The exit status. -/
  status : Nat
  /-- What was printed. -/
  output : Octets
  /-- What was printed about the work. -/
  errors : Octets
  /-- The arguments of the calls of esptool. -/
  calls : List (List Text)
  deriving DecidableEq, Repr

/-- How a run ends that carries no command out. -/
def turnedAway (e : UsageError) : Ended :=
  match e with
  | .help => ⟨e.exitStatus, encode usageLine, [], []⟩
  | .version => ⟨e.exitStatus, encode releaseLine, [], []⟩
  | _ => ⟨e.exitStatus, [], encode usageLine, []⟩

/-- Runs the program on a host. -/
def runOn (host : Host) (world : Surroundings) (args : List Text) : Ended :=
  match CommandLine.read world.environment args with
  | .error e => turnedAway e
  | .ok invocation =>
    let color := invocation.color == .always
    let shown := filterFor world.environment invocation.verbose
    let work := carryOut host world color invocation
    let journal := shown.2 ++ work.deeds.flatMap Deed.journal
    ⟨work.status, work.deeds.flatMap Deed.output, encode (shownJournal shown.1 color journal),
      work.deeds.flatMap Deed.calls⟩

/-- Runs the program on a host that refuses nothing. -/
def run (world : Surroundings) (args : List Text) : Ended := runOn .ordinary world args

/-- A session that was watched ends the program with zero exactly if its report was printed and it
is a success. -/
theorem status_conclude (color : Bool) (o : Outcome) :
    (conclude color o).status = 0
      ↔ (o.echo.sink.put (reportOctets color o)).2 = none ∧ o.isSuccess = true := by
  unfold conclude
  dsimp only
  split
  · rename_i f hf
    simp [Work.failed, Work.after, hf]
  · rename_i hf
    simp only [exitStatus, hf, true_and]
    split <;> simp_all

/-- The work of watching a feed has the status of its report. -/
theorem status_watch (world : Surroundings) (color : Bool) (timing : Timing) (feed : Feed) :
    (watch world color timing feed).status
      = (conclude color (Session.run timing (.fresh world.refusal) feed)).status := rfl

/-- A session that is no success ends the program with one, whether its report was printed or not. -/
theorem status_conclude_of_failure (color : Bool) {o : Outcome} (h : o.isSuccess = false) :
    (conclude color o).status = 1 := by
  unfold conclude
  dsimp only
  split
  · rfl
  · rw [h]
    rfl

end Program

end TestWatch
