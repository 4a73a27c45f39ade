import TestWatch.Files
import TestWatch.Journal
import TestWatch.Session
import TestWatch.Settings.Field
import TestWatch.Settings.KeyPath
import TestWatch.Toml.Reading

/-!
# Settings

The settings of the program: defaults, and over them what a TOML file holds.  A file that is asked
for has to exist, the file at the usual place need not.  Keys of a file that mean nothing are passed
over with a warning, values that cannot be read are refused, and so are a timeout and a poll
interval of nothing.

`read_defaultTree` says that the default layer holds the default settings.
-/

namespace TestWatch

open Text

/-- The settings. -/
structure Settings where
  /-- The times that a session keeps to. -/
  timing : Timing
  /-- The path of the serial port. -/
  port : Text
  /-- The rate of the serial port. -/
  rate : Nat
  /-- The name of esptool. -/
  esptool : Text
  deriving DecidableEq, Repr

namespace Settings

/-- The settings where nothing else is said. -/
def default : Settings :=
  ⟨⟨.ofSeconds 5, .ofMillis 10, .ofMillis 500⟩, "/dev/ttyUSB0".toList, 115200, "esptool.py".toList⟩

/-- The default layer. -/
def defaultTree : Tree :=
  .table none [
    ("monitor".toList, .table none [
      ("timeout".toList, .ofText "5s".toList),
      ("poll-interval".toList, .ofText "10ms".toList),
      ("grace-period".toList, .ofText "500ms".toList)]),
    ("serial".toList, .table none [
      ("port".toList, .ofText "/dev/ttyUSB0".toList),
      ("baud-rate".toList, .leaf none (.int 115200))]),
    ("loader".toList, .table none [("esptool".toList, .ofText "esptool.py".toList)])]

/-! ## Sections -/

/-- The timeout. -/
def timeoutField : Field TimeSpan := ⟨"timeout".toList, asSpan⟩

/-- The poll interval. -/
def pollField : Field TimeSpan := ⟨"poll-interval".toList, asSpan⟩

/-- The grace period. -/
def graceField : Field TimeSpan := ⟨"grace-period".toList, asSpan⟩

/-- The path of the serial port. -/
def portField : Field Text := ⟨"port".toList, asText⟩

/-- The rate of the serial port. -/
def rateField : Field Nat := ⟨"baud-rate".toList, asRate⟩

/-- The name of esptool. -/
def esptoolField : Field Text := ⟨"esptool".toList, asText⟩

/-- The settings of sessions. -/
def monitorSection : Section :=
  ⟨"monitor".toList, "MonitorSettings",
    [(timeoutField.key, timeoutField.check), (pollField.key, pollField.check),
      (graceField.key, graceField.check)]⟩

/-- The settings of the serial port. -/
def serialSection : Section :=
  ⟨"serial".toList, "SerialSettings",
    [(portField.key, portField.check), (rateField.key, rateField.check)]⟩

/-- The settings of loading. -/
def loaderSection : Section :=
  ⟨"loader".toList, "LoaderSettings", [(esptoolField.key, esptoolField.check)]⟩

/-- The sections. -/
def sections : List Section := [monitorSection, serialSection, loaderSection]

/-! ## Reading a tree -/

/-- Reads a section out of a tree. -/
def readSection {α : Type} (tree : Tree) (s : Section) (read : Source → Except ValueError α) :
    Except ValueError α :=
  match List.lookup s.key tree.rows with
  | none => .error ⟨s.key, .absent⟩
  | some t => (s.source t >>= read).mapError (ValueError.under s.key)

/-- The settings that a tree holds. -/
def read (tree : Tree) : Except ValueError Settings := do
  let timing ← readSection tree monitorSection fun source => do
    let timeout ← monitorSection.get source 0 timeoutField
    let pollInterval ← monitorSection.get source 1 pollField
    let gracePeriod ← monitorSection.get source 2 graceField
    .ok (Timing.mk timeout pollInterval gracePeriod)
  let (port, rate) ← readSection tree serialSection fun source => do
    let port ← serialSection.get source 0 portField
    let rate ← serialSection.get source 1 rateField
    .ok (port, rate)
  let esptool ← readSection tree loaderSection fun source =>
    loaderSection.get source 0 esptoolField
  .ok ⟨timing, port, rate, esptool⟩

/-- Puts a text into a sorted list, once. -/
def insertSorted (s : Text) : List Text → List Text
  | [] => [s]
  | t :: rest =>
    if s = t then t :: rest
    else if s < t then s :: t :: rest
    else t :: insertSorted s rest

/-- The keys of a tree that mean nothing, sorted. -/
def strangers (tree : Tree) : List Text :=
  let found := tree.rows.flatMap fun row =>
    match sections.find? (·.key == row.1) with
    | some s => (s.strangers row.2).map fun key => s.key ++ '.' :: key
    | none => [row.1]
  found.foldr insertSorted []

/-! ## Files -/

/-- The usual path of the file, from the directory that it belongs to. -/
def usualPath : Text := ".config/esp-ram-test.toml".toList

/-- A path in a directory. -/
def inDirectory (dir path : Text) : Text :=
  if dir.isEmpty ∨ dir.getLast? = some '/' then dir ++ path else dir ++ '/' :: path

/-- A path without slashes and lone dots at its end. -/
def bareEnd (path : Text) : Text :=
  let parts := (split '/' path).reverse.dropWhile fun part => part.isEmpty || part == ['.']
  join ['/'] parts.reverse

/-- The path of a file whose name leaves out what kind of file it is. -/
def completed (path : Text) : Text := bareEnd path ++ ".toml".toList

/-- The file that a path stands for, with its path: the one there, or else the one whose name says
that it is a TOML file. -/
def locate (files : Files) (path : Text) : Option (Text × Octets) :=
  if path.isEmpty then none
  else match files.content? path with
    | some content => some (path, content)
    | none => (files.content? (completed path)).map fun content => (completed path, content)

/-- The path of a file as it is named in refusals. -/
def originOf (files : Files) (path : Text) : Text :=
  let local_ := files.fromHome path
  (if local_.head? = some '/' then ['/'] else [])
    ++ join ['/'] ((nonEmpty (split '/' local_)).filter (· != ['.']))

/-- The octets without the mark of their order that they may start with. -/
def withoutMark : Octets → Octets
  | 0xEF :: 0xBB :: 0xBF :: octets => octets
  | octets => octets

/-- The layer that a file holds. -/
def layer (files : Files) (path : Text) (content : Octets) : Option (Keyed Tree) :=
  (Toml.read (decodeMarking (withoutMark content))).map (Tree.ofRows (some (originOf files path)))

/-! ## All together -/

/-- Why settings were refused. -/
inductive SettingsFault where
  /-- There is no such file. -/
  | noFile (path : Text)
  /-- The file is no TOML document. -/
  | malformed
  /-- A value cannot be read. -/
  | value (error : ValueError)
  /-- A span of time that may not be nothing is nothing. -/
  | zeroSpan (key : Text)
  deriving DecidableEq, Repr

/-- The wording of a refusal; for a file that is no TOML document there is none. -/
def SettingsFault.message? : SettingsFault → Option Text
  | .noFile path => some ("configuration file ".toList ++ '"' :: path ++ "\" not found".toList)
  | .malformed => none
  | .value e => some e.message
  | .zeroSpan key => some ("`".toList ++ key ++ "` must be greater than zero".toList)

/-- The refusal of settings. -/
structure SettingsRefusal where
  /-- The file that was asked for. -/
  file : Text
  /-- The reason. -/
  fault : SettingsFault
  deriving DecidableEq, Repr

/-- The wording of the refusal itself, without its reason. -/
def SettingsRefusal.message (refusal : SettingsRefusal) : Text :=
  "failed to parse esp-ram-test config at `".toList ++ refusal.file ++ "`".toList

/-- The settings of a tree, if they make sense. -/
def validate (settings : Settings) : Except SettingsFault Settings :=
  if settings.timing.timeout.isZero then .error (.zeroSpan "monitor.timeout".toList)
  else if settings.timing.pollInterval.isZero then .error (.zeroSpan "monitor.poll-interval".toList)
  else .ok settings

/-- The tree of the defaults with a file over them. -/
def assemble (files : Files) (path : Text) (required : Bool) : Except SettingsFault Tree :=
  match locate files path with
  | none => if required then .error (.noFile path) else .ok defaultTree
  | some (path, content) =>
    match layer files path content with
    | none => .error .malformed
    | some rows => .ok (defaultTree.setAll rows)

/-- The warning about keys that mean nothing. -/
def warning (file : Text) (keys : List Text) : Entry :=
  ⟨.warn, .settings, "ignoring unknown configuration keys in config file ".toList ++ file
    ++ ":\n".toList ++ join ['\n'] (keys.map fun key => "  - ".toList ++ key)⟩

/-- What loading settings comes to. -/
structure Loaded where
  /-- The settings, or why they were refused. -/
  result : Except SettingsRefusal Settings
  /-- The keys that mean nothing. -/
  strangers : List Text
  /-- What was noted. -/
  journal : Journal

/-- Loads the settings from a file, or from the usual one in a directory. -/
def load (files : Files) (dir : Text) (asked : Option Text) : Loaded :=
  let file := asked.getD (inDirectory dir usualPath)
  let refuse (fault : SettingsFault) : Except SettingsRefusal Settings := .error ⟨file, fault⟩
  match assemble files file asked.isSome with
  | .error fault => ⟨refuse fault, [], []⟩
  | .ok tree =>
    match read tree with
    | .error e => ⟨refuse (.value e), [], []⟩
    | .ok settings =>
      let keys := Settings.strangers tree
      ⟨settings.validate.mapError (SettingsRefusal.mk file), keys,
        if keys.isEmpty then [] else [warning file keys]⟩

/-- The default layer holds the default settings. -/
theorem read_defaultTree : read defaultTree = .ok default := by rfl

/-- Settings that were loaded have a timeout and a poll interval. -/
theorem timing_of_load {files : Files} {dir : Text} {asked : Option Text} {settings : Settings}
    (h : (load files dir asked).result = .ok settings) :
    settings.timing.timeout.isZero = false ∧ settings.timing.pollInterval.isZero = false := by
  have hv : ∀ {s : Settings} {file : Text},
      Except.mapError (SettingsRefusal.mk file) s.validate = .ok settings →
        settings.timing.timeout.isZero = false ∧ settings.timing.pollInterval.isZero = false := by
    intro s file h
    unfold validate at h
    split at h
    · cases h
    · split at h
      · cases h
      · rename_i ht hp
        cases h
        exact ⟨by simpa using ht, by simpa using hp⟩
  unfold load at h
  simp only at h
  split at h
  · cases h
  · split at h
    · cases h
    · exact hv h

end Settings

end TestWatch
