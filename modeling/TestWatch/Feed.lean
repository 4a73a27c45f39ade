import TestWatch.Text.Utf8

/-!
# Feeds

Where a session's octets come from.  A feed answers each read at once: with the octets that are
there, with nothing if there are none yet, or with a fault.  What matters of a feed is what its
reads will yield, one after the other; after the last of them there is nothing for ever.

A signal to stop may be raised while a read is under way.
-/

namespace TestWatch

/-- The kinds of faults that the system reports. -/
inductive FaultKind where
  /-- A name leads to nothing. -/
  | notFound
  /-- An access is not permitted. -/
  | permissionDenied
  /-- The other side broke the connection. -/
  | connectionReset
  /-- Nobody reads what is written. -/
  | brokenPipe
  /-- An operation would have to wait. -/
  | wouldBlock
  /-- An argument is not acceptable. -/
  | invalidInput
  /-- Data are not what they should be. -/
  | invalidData
  /-- An operation took too long. -/
  | timedOut
  /-- A write took nothing. -/
  | writeZero
  /-- An operation was interrupted and may be tried again. -/
  | interrupted
  /-- An operation is not supported. -/
  | unsupported
  /-- Data end too early. -/
  | unexpectedEof
  /-- Something is a directory. -/
  | isADirectory
  /-- Something is no directory. -/
  | notADirectory
  /-- A name cannot be a file's. -/
  | invalidFilename
  /-- Anything else. -/
  | other
  deriving DecidableEq, Repr

/-- The wording of a fault of which only the kind is known. -/
def FaultKind.wording : FaultKind → Text
  | .notFound => "entity not found".toList
  | .permissionDenied => "permission denied".toList
  | .connectionReset => "connection reset".toList
  | .brokenPipe => "broken pipe".toList
  | .wouldBlock => "operation would block".toList
  | .invalidInput => "invalid input parameter".toList
  | .invalidData => "invalid data".toList
  | .timedOut => "timed out".toList
  | .writeZero => "write zero".toList
  | .interrupted => "operation interrupted".toList
  | .unsupported => "unsupported".toList
  | .unexpectedEof => "unexpected end of file".toList
  | .isADirectory => "is a directory".toList
  | .notADirectory => "not a directory".toList
  | .invalidFilename => "invalid filename".toList
  | .other => "other error".toList

/-- A fault of an operation. -/
structure Fault where
  /-- Its kind. -/
  kind : FaultKind
  /-- Its wording. -/
  text : Text
  deriving DecidableEq, Repr

/-- A fault of which only the kind is known. -/
def FaultKind.fault (kind : FaultKind) : Fault := ⟨kind, kind.wording⟩

/-- What one read yields. -/
inductive Read where
  /-- Octets; if there are none, nothing is available now. -/
  | data (octets : Octets)
  /-- The read fails. -/
  | fault (fault : Fault)
  deriving DecidableEq, Repr

/-- The octets that a read brings. -/
def Read.octets : Read → Octets
  | .data octets => octets
  | .fault _ => []

/-- The signals that ask a session to stop. -/
inductive StopSignal where
  /-- An interrupt from the keyboard. -/
  | interrupt
  /-- A request to terminate. -/
  | terminate
  /-- The terminal is gone. -/
  | hangup
  deriving DecidableEq, Repr

/-- The name of a signal in messages. -/
def StopSignal.wording : StopSignal → Text
  | .interrupt => "interrupt".toList
  | .terminate => "SIGTERM".toList
  | .hangup => "SIGHUP".toList

/-- One read, and the signal that is raised while it is under way. -/
structure FeedStep where
  /-- What the read yields. -/
  read : Read
  /-- The signal, if one is raised. -/
  signal : Option StopSignal
  deriving DecidableEq, Repr

/-- A feed: its name for messages, and what its reads will yield. -/
structure Feed where
  /-- The name. -/
  name : Text
  /-- The reads to come; after them nothing is available for ever. -/
  steps : List FeedStep
  deriving DecidableEq, Repr

/-- A read during which no signal is raised. -/
def Read.quietly (read : Read) : FeedStep := ⟨read, none⟩

end TestWatch
