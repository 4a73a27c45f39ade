import TestWatch.Files

/-!
# Opening feeds

A feed is opened by the path of a captured log or of a serial port.  A serial port has to be a
terminal, and its rate one of those that every adapter knows (`rate_of_openSerial`).
-/

namespace TestWatch

open Text

/-! ## Logs -/

/-- Why a log could not be opened for replay. -/
structure LogRefusal where
  /-- The path of the log. -/
  path : Text
  /-- The fault. -/
  fault : Fault
  deriving DecidableEq, Repr

/-- The texts of the refusal and of its cause. -/
def LogRefusal.chain (refusal : LogRefusal) : List Text :=
  ["failed to open replay log `".toList ++ refusal.path ++ "`".toList, refusal.fault.text]

/-- Opens a log for replay. -/
def openReplay (files : Files) (path : Text) : Except LogRefusal Replay :=
  match files.openLog path with
  | .ok reader => .ok (Replay.start ("replay log `".toList ++ path ++ "`".toList) reader)
  | .error fault => .error ⟨path, fault⟩

/-! ## Serial ports -/

/-- The rates that a serial port can be set to. -/
def supportedRates : List Nat := [9600, 19200, 38400, 57600, 115200, 230400, 460800, 921600]

/-- What kept a serial port from being opened. -/
inductive PortFault where
  /-- The rate is not among the supported ones. -/
  | unsupportedRate (rate : Nat)
  /-- The device could not be opened. -/
  | opening (fault : Fault)
  /-- The device could not be set up. -/
  | settingUp (fault : Fault)
  deriving DecidableEq, Repr

/-- The texts of a fault and of its cause, if it has one. -/
def PortFault.chain : PortFault → List Text
  | .unsupportedRate rate =>
    ["unsupported baud rate ".toList ++ decimal rate ++ " (supported: ".toList
      ++ join ", ".toList (supportedRates.map decimal) ++ ")".toList]
  | .opening f => ["error opening device".toList, f.text]
  | .settingUp f => ["error configuring terminal attributes".toList, f.text]

/-- Why a serial port could not be opened. -/
structure PortRefusal where
  /-- The path of the port. -/
  path : Text
  /-- What went wrong. -/
  fault : PortFault
  deriving DecidableEq, Repr

/-- The texts of the refusal and of its causes. -/
def PortRefusal.chain (refusal : PortRefusal) : List Text :=
  ("failed to open serial port `".toList ++ refusal.path ++ "`".toList) :: refusal.fault.chain

/-- What opening something as a serial port gives. -/
def attach (path : Text) : Node → Except PortFault Feed
  | .directory => .error (.opening .aDirectory)
  | .file _ _ | .null => .error (.settingUp .noTerminal)
  | .unruly f => .error (.settingUp f)
  | .barred f => .error (.opening f)
  | .terminal steps => .ok ⟨"serial port `".toList ++ path ++ "`".toList, steps⟩

/-- Opens a serial port at a rate. -/
def openSerial (files : Files) (path : Text) (rate : Nat) : Except PortRefusal Feed :=
  Except.mapError (PortRefusal.mk path) <|
    if supportedRates.contains rate then
      match files.open? path with
      | .ok node => attach path node
      | .error fault => .error (.opening fault)
    else .error (.unsupportedRate rate)

/-- A port that was opened has a supported rate. -/
theorem rate_of_openSerial {files : Files} {path : Text} {rate : Nat} {feed : Feed}
    (h : openSerial files path rate = .ok feed) : rate ∈ supportedRates := by
  unfold openSerial at h
  split at h
  · rename_i hr; simpa using hr
  · cases h

end TestWatch
