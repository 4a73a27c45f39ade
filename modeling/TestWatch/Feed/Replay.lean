import TestWatch.Feed
import TestWatch.Text.Numeral
import TestWatch.Text.Quoted

/-!
# Replaying a log

A log that was captured earlier is read as if it came from a device, a limited number of octets at
a time.  Once a read of the log yields nothing, the replay is exhausted and does not read it again.

`Replay.read` is one read, and `Replay.readInto` puts what it yields behind a buffer (`readInto_eq`);
`Replay.reads` is all of them.
-/

namespace TestWatch

open Text

/-- What a log yields. -/
inductive LogReader where
  /-- Items one after the other: a read takes from the first one only, and leaves an item behind
  that is read up.  After the last item there is nothing. -/
  | items (items : List Read)
  /-- The same fault at every read. -/
  | broken (fault : Fault)
  deriving DecidableEq, Repr

/-- A read of at most `limit` octets from a list of items, and the items left. -/
def readItems (limit : Nat) : List Read → Read × List Read
  | [] => (.data [], [])
  | .fault fault :: rest => (.fault fault, rest)
  | .data octets :: rest =>
    (.data (octets.take limit),
      if (octets.drop limit).isEmpty then rest else .data (octets.drop limit) :: rest)

/-- Whether a read was interrupted and is to be tried again. -/
def Read.isInterrupted : Read → Bool
  | .fault f => f.kind == .interrupted
  | .data _ => false

/-- A read of at most `limit` octets, tried again as long as it is interrupted. -/
def LogReader.read (limit : Nat) : LogReader → Read × LogReader
  | .items list =>
    let taken := readItems limit (list.dropWhile Read.isInterrupted)
    (taken.1, .items taken.2)
  | .broken f => (.fault f, .broken f)

/-- A log that is being replayed. -/
structure Replay where
  /-- The name of the log for messages. -/
  name : Text
  /-- The log. -/
  reader : LogReader
  /-- The most octets that one read yields. -/
  chunk : Nat
  /-- A read yields something at least. -/
  chunk_pos : 0 < chunk
  /-- Whether the log has been read up. -/
  exhausted : Bool

namespace Replay

/-- The most octets of a read unless something else is asked for. -/
def defaultChunk : Nat := 64

/-- A replay from the beginning of a log. -/
def start (name : Text) (reader : LogReader) : Replay :=
  ⟨name, reader, defaultChunk, by decide, false⟩

/-- The replay with another limit on a read; a limit of nothing counts as one octet. -/
def withChunk (r : Replay) (chunk : Nat) : Replay :=
  { r with chunk := max chunk 1, chunk_pos := by omega }

/-- One read, and the replay after it. -/
def read (r : Replay) : Read × Replay :=
  if r.exhausted then (.data [], r)
  else match r.reader.read r.chunk with
    | (.data [], reader) => (.data [], { r with reader := reader, exhausted := true })
    | (read, reader) => (read, { r with reader := reader })

/-! ## Reading onto the end of a buffer -/

/-- A buffer with octets written over what it holds from a place on. -/
def overwrite (buffer : Octets) (start : Nat) (octets : Octets) : Octets :=
  buffer.take start ++ octets ++ buffer.drop (start + octets.length)

/-- One read onto the end of a buffer: how many octets came, the buffer and the replay after it.  The
buffer grows by as much as a read may yield, the log is read into the new part, and the buffer is cut
back to what came, or to what it was if the read fails. -/
def readInto (r : Replay) (buffer : Octets) : Except Fault Nat × Octets × Replay :=
  if r.exhausted then (.ok 0, buffer, r)
  else
    let start := buffer.length
    let grown := buffer ++ List.replicate r.chunk 0
    match r.reader.read r.chunk with
    | (.data octets, reader) =>
      (.ok octets.length, (overwrite grown start octets).take (start + octets.length),
        { r with reader := reader, exhausted := octets.isEmpty })
    | (.fault fault, reader) => (.error fault, grown.take start, { r with reader := reader })

/-- A buffer that has grown, and is cut back to what was written behind its old end, has the octets
behind it. -/
theorem take_overwrite (buffer room octets : Octets) :
    (overwrite (buffer ++ room) buffer.length octets).take (buffer.length + octets.length)
      = buffer ++ octets := by
  have hlength : buffer.length + octets.length = (buffer ++ octets).length :=
    List.length_append.symm
  rw [overwrite, List.take_left, hlength, List.take_left]

/-- What comes is put behind the buffer, and a fault leaves the buffer as it was. -/
theorem readInto_eq (r : Replay) (buffer : Octets) :
    r.readInto buffer = match r.read with
      | (.data octets, next) => (.ok octets.length, buffer ++ octets, next)
      | (.fault fault, next) => (.error fault, buffer, next) := by
  unfold readInto read
  split
  · simp
  · rename_i hexhausted
    rw [Bool.not_eq_true] at hexhausted
    rcases r.reader.read r.chunk with ⟨octets | fault, reader⟩
    · dsimp only
      rw [take_overwrite]
      cases octets <;> simp [hexhausted]
    · simp

/-! ## All reads -/

/-- Octets cut into pieces of at most `limit`, which counts as one if it is zero. -/
def pieces (limit : Nat) (octets : Octets) : List Octets :=
  if octets.isEmpty then []
  else octets.take (max limit 1) :: pieces limit (octets.drop (max limit 1))
termination_by octets.length
decreasing_by
  rename_i h
  have : octets.length ≠ 0 := fun h0 => h (by simp [List.length_eq_zero_iff.1 h0])
  rw [List.length_drop]
  omega

/-- What the reads of a list of items yield, up to the one that yields nothing. -/
def readsOf (limit : Nat) : List Read → List Read
  | [] => []
  | .data octets :: rest =>
    if octets.isEmpty then [] else (pieces limit octets).map Read.data ++ readsOf limit rest
  | .fault fault :: rest =>
    if fault.kind = .interrupted then readsOf limit rest else .fault fault :: readsOf limit rest

/-- What the reads of a replay yield, up to the one that yields nothing.  A session does not read
on after a fault, so that a log that is broken for good counts with its first read. -/
def reads (r : Replay) : List Read :=
  if r.exhausted then []
  else match r.reader with
    | .items items => readsOf r.chunk items
    | .broken fault => [.fault fault]

/-- The replay as a feed. -/
def feed (r : Replay) : Feed := ⟨r.name, r.reads.map Read.quietly⟩

/-- A truth value as it is shown. -/
def shownBool (b : Bool) : Text := if b then "true".toList else "false".toList

/-- The replay as it is shown. -/
def shown (r : Replay) : Text :=
  "ReplaySource \x7b name: ".toList ++ quoted r.name ++ ", chunk_size: ".toList ++ decimal r.chunk
    ++ ", exhausted: ".toList ++ shownBool r.exhausted ++ ", .. \x7d".toList

end Replay

end TestWatch
