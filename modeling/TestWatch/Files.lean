import TestWatch.Feed.Replay

/-!
# Files

The files that the program can see: what stands at which place, and what a path leads to.  A path is
walked component by component, so that every component but the last has to be a directory; two dots
lead back to the directory above, one dot stays.
-/

namespace TestWatch

open Text

/-- What stands at a place. -/
inductive Node where
  /-- A file. -/
  | file (content : Octets) (executable : Bool)
  /-- A directory. -/
  | directory
  /-- A device that holds nothing. -/
  | null
  /-- A terminal, with what reads of it will yield. -/
  | terminal (steps : List FeedStep)
  /-- A device that holds nothing and cannot be set up as a terminal. -/
  | unruly (fault : Fault)
  /-- Something that cannot be opened. -/
  | barred (fault : Fault)
  deriving DecidableEq, Repr

/-- A place: the components that lead there from the working directory, or from the root if the
first one is the root. -/
abbrev Place := List Text

namespace Place

/-- The component that stands for the root; no other component can hold a slash. -/
def root : Text := ['/']

/-- The component that stays. -/
def here : Text := ['.']

/-- The component that leads back. -/
def up : Text := ['.', '.']

/-- The place above another.  Above the working directory nothing is known. -/
def above (place : Place) : Place :=
  if place.all (· == up) then place ++ [up]
  else if place = [root] then place
  else place.dropLast

end Place

/-- The files that can be seen. -/
structure Files where
  /-- The path of the working directory, if it is known. -/
  home : Option Text
  /-- What stands where; directories that lead to something need not be listed. -/
  entries : List (Place × Node)
  deriving DecidableEq, Repr

/-! ## Faults -/

/-- The fault that a name leads to nothing. -/
def Fault.missing : Fault := ⟨.notFound, "No such file or directory (os error 2)".toList⟩

/-- The fault that something may not be done. -/
def Fault.denied : Fault := ⟨.permissionDenied, "Permission denied (os error 13)".toList⟩

/-- The fault that something on the way is no directory. -/
def Fault.noDirectory : Fault := ⟨.notADirectory, "Not a directory (os error 20)".toList⟩

/-- The fault that something is a directory. -/
def Fault.aDirectory : Fault := ⟨.isADirectory, "Is a directory (os error 21)".toList⟩

/-- The fault that something is no terminal. -/
def Fault.noTerminal : Fault := ⟨.other, "Inappropriate ioctl for device (os error 25)".toList⟩

/-- The fault that a name is too long. -/
def Fault.nameTooLong : Fault := ⟨.invalidFilename, "File name too long (os error 36)".toList⟩

/-- The fault that a name holds a NUL. -/
def Fault.nulInName : Fault :=
  ⟨.invalidInput, "file name contained an unexpected NUL byte".toList⟩

namespace Files

/-- The most octets of a component. -/
def componentLimit : Nat := 255

/-- The most octets of a path. -/
def pathLimit : Nat := 4095

/-- Whether something is listed below a place. -/
def leadsOn (files : Files) (place : Place) : Bool :=
  files.entries.any fun entry => place.isPrefixOf entry.1 && place.length < entry.1.length

/-- What stands at a place. -/
def nodeAt (files : Files) (place : Place) : Option Node :=
  match files.entries.lookup place with
  | some node => some node
  | none =>
    if place = [Place.root] || place.all (· == Place.up) || files.leadsOn place then
      some .directory
    else none

/-- A place one component on, without a look at what stands there. -/
def stepTo (place : Place) (c : Text) : Place :=
  if c = Place.here then place
  else if c = Place.up then place.above
  else if c = Place.root then [Place.root]
  else place ++ [c]

/-- Walks on from a place. -/
def walk (files : Files) : Place → List Text → Except Fault Place
  | place, [] => if (files.nodeAt place).isSome then .ok place else .error .missing
  | place, c :: rest =>
    match files.nodeAt place with
    | none => .error .missing
    | some .directory =>
      if componentLimit < (encode c).length then .error .nameTooLong
      else files.walk (stepTo place c) rest
    | some _ => .error .noDirectory

/-- The components that a path goes through; a slash at the end asks for a directory. -/
def components (path : Text) : List Text :=
  (if path.head? = some '/' then [Place.root] else []) ++ nonEmpty (split '/' path)
    ++ (if path.getLast? = some '/' then [Place.here] else [])

/-- The path as it stands in the working directory, if it leads there by the full name. -/
def fromHome (files : Files) (path : Text) : Text :=
  match files.home with
  | none => path
  | some home => (dropFront? (home ++ ['/']) path).getD path

/-- The place that a path leads to. -/
def find (files : Files) (path : Text) : Except Fault Place :=
  if path.contains '\x00' then .error .nulInName
  else if path.isEmpty then .error .missing
  else if pathLimit < (encode path).length then .error .nameTooLong
  else files.walk [] (components (files.fromHome path))

/-- What a path leads to. -/
def nodeOf (files : Files) (path : Text) : Except Fault Node := do
  let place ← files.find path
  match files.nodeAt place with
  | some node => .ok node
  | none => .error .missing

/-- What a path leads to, if that can be opened. -/
def open? (files : Files) (path : Text) : Except Fault Node := do
  match ← files.nodeOf path with
  | .barred f => .error f
  | node => .ok node

/-- Whether a path leads to anything. -/
def existsAt (files : Files) (path : Text) : Bool := (files.nodeOf path).isOk

/-- The content of the file that a path leads to, if it is a file. -/
def content? (files : Files) (path : Text) : Option Octets :=
  match files.open? path with
  | .ok (.file content _) => some content
  | _ => none

/-- The log that a path leads to.  A directory can be opened, but not read. -/
def openLog (files : Files) (path : Text) : Except Fault LogReader := do
  match ← files.open? path with
  | .file content _ => .ok (.items [.data content])
  | .directory => .ok (.broken .aDirectory)
  | .terminal steps => .ok (.items (steps.map (·.read)))
  | .null | .unruly _ | .barred _ => .ok (.items [])

/-- Whether the program that a name calls for can be started.  A name without a slash is looked for
among the programs that are installed, and none is. -/
def checkProgram (files : Files) (name : Text) : Except Fault Unit :=
  if name.contains '/' then do
    match ← files.open? name with
    | .file _ true => .ok ()
    | _ => .error .denied
  else .error .missing

/-- The files with something more at the end of a path. -/
def add (files : Files) (path : Text) (node : Node) : Files :=
  { files with
    entries := ((components (files.fromHome path)).foldl stepTo [], node) :: files.entries }

end Files

end TestWatch
