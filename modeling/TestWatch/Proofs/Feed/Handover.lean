import Mathlib.Data.List.Basic
import TestWatch.Feed.Replay

/-!
# A log is handed over exactly once

A replay puts the octets of its log behind a buffer, call by call.  What it gives out is a row of
yields: octets and faults, one by one.  What its log holds is such a row too, up to the first item
without octets; interruptions do not count (`contents`).

`CallOf` says what one call can do to a replay that still holds some yields: give out the first of
them, or find that there are none.  `call_of_holds` says that a call does one of these.  So what the
calls have given out so far and what the replay still holds are together what the log holds
(`exists_holds_after`): nothing is lost, held back or given out twice.  `hands_over_once` is what this
comes to for any number of calls.
-/

namespace TestWatch

/-- What a log gives out at a time. -/
inductive Yield where
  /-- An octet. -/
  | octet (octet : UInt8)
  /-- A fault. -/
  | fault (fault : Fault)
  deriving DecidableEq, Repr

/-- The octet that is given out, if it is one. -/
def Yield.octet? : Yield → Option UInt8
  | .octet b => some b
  | .fault _ => none

/-- The octets among what is given out. -/
def octetsIn (yields : List Yield) : Octets := yields.filterMap Yield.octet?

theorem octetsIn_append (a b : List Yield) : octetsIn (a ++ b) = octetsIn a ++ octetsIn b :=
  List.filterMap_append

theorem octetsIn_octets (octets : Octets) : octetsIn (octets.map .octet) = octets := by
  rw [octetsIn, List.filterMap_map]
  exact List.filterMap_some

/-! ## What a log holds -/

/-- What an item of a log gives out. -/
def Read.yields : Read → List Yield
  | .data octets => octets.map .octet
  | .fault f => [.fault f]

theorem octetsIn_yields (item : Read) : octetsIn item.yields = item.octets := by
  cases item with
  | data octets => exact octetsIn_octets octets
  | fault fault => rfl

/-- The items of a log before the first one without octets. -/
def readable (items : List Read) : List Read := items.takeWhile (· ≠ .data [])

/-- What a log gives out: its octets and faults in order, interruptions aside. -/
def contents (items : List Read) : List Yield :=
  ((readable items).filter (!·.isInterrupted)).flatMap Read.yields

/-- The octets that a log gives out. -/
def octetsOf (items : List Read) : Octets := (readable items).flatMap Read.octets

/-- The octets among what a log gives out are all of its octets. -/
theorem octetsIn_contents (items : List Read) : octetsIn (contents items) = octetsOf items := by
  unfold contents octetsOf
  induction readable items with
  | nil => rfl
  | cons item rest ih =>
    rw [List.flatMap_cons, ← ih, ← octetsIn_yields item, List.filter_cons]
    cases item with
    | data octets => exact octetsIn_append _ _
    | fault fault =>
      cases hitem : (Read.fault fault).isInterrupted
      · exact octetsIn_append _ _
      · rfl

theorem contents_nil : contents [] = [] := rfl

theorem contents_end (rest : List Read) : contents (.data [] :: rest) = [] := rfl

theorem contents_data {octets : Octets} (h : octets ≠ []) (rest : List Read) :
    contents (.data octets :: rest) = octets.map .octet ++ contents rest := by
  have hitem : (!(Read.data octets).isInterrupted) = true := rfl
  rw [contents, readable, List.takeWhile_cons_of_pos (by simpa using h),
    List.filter_cons_of_pos (p := (!Read.isInterrupted ·)) hitem]
  rfl

theorem contents_fault {fault : Fault} (h : fault.kind ≠ .interrupted) (rest : List Read) :
    contents (.fault fault :: rest) = .fault fault :: contents rest := by
  have hitem : (!(Read.fault fault).isInterrupted) = true := by simpa [Read.isInterrupted] using h
  rw [contents, readable, List.takeWhile_cons_of_pos (by simp),
    List.filter_cons_of_pos (p := (!Read.isInterrupted ·)) hitem]
  rfl

/-- Interruptions give nothing out. -/
theorem contents_dropWhile (items : List Read) :
    contents (items.dropWhile Read.isInterrupted) = contents items := by
  induction items with
  | nil => rfl
  | cons item items ih =>
    by_cases h : item.isInterrupted = true
    · have hne : item ≠ .data [] := by
        rintro rfl
        exact Bool.false_ne_true h
      rw [List.dropWhile_cons_of_pos h, ih, contents, contents, readable, readable,
        List.takeWhile_cons_of_pos (by simpa using hne), List.filter_cons_of_neg (by simp [h])]
    · rw [List.dropWhile_cons_of_neg h]

/-- What a read leaves of an item stays in front of the others. -/
theorem contents_readItems (limit : Nat) (octets : Octets) (rest : List Read) :
    contents (readItems limit (.data octets :: rest)).2
      = (octets.drop limit).map .octet ++ contents rest := by
  rw [readItems]
  dsimp only
  split
  · rename_i hdrop
    rw [List.isEmpty_iff.1 hdrop]
    rfl
  · rename_i hdrop
    exact contents_data (by simpa using hdrop) rest

/-! ## One call -/

namespace Replay

/-- The replay reads at most `chunk` octets at a time, and its log still holds these yields. -/
structure Holds (r : Replay) (chunk : Nat) (yields : List Yield) : Prop where
  /-- The limit on a read. -/
  chunk_eq : r.chunk = chunk
  /-- What is left of the log; once it is exhausted nothing counts any more. -/
  script : ∃ items, r.reader = .items items ∧ yields = if r.exhausted then [] else contents items

/-- What a call can do to a replay that still holds some yields, and to a buffer. -/
inductive CallOf (r : Replay) (buffer : Octets) (chunk : Nat) :
    List Yield → Except Fault Nat × Octets × Replay → Prop
  /-- An exhausted replay gives nothing and stays as it is. -/
  | spent (h : r.exhausted = true) : CallOf r buffer chunk [] (.ok 0, buffer, r)
  /-- The log holds nothing more, and the replay is exhausted. -/
  | last {next : Replay} (h : r.exhausted = false) (hnext : next.Holds chunk [])
      (hexhausted : next.exhausted = true) : CallOf r buffer chunk [] (.ok 0, buffer, next)
  /-- Some octets are put behind the buffer. -/
  | octets {octets : Octets} {yields : List Yield} {next : Replay} (h : r.exhausted = false)
      (hne : octets ≠ []) (hle : octets.length ≤ chunk) (hnext : next.Holds chunk yields)
      (hexhausted : next.exhausted = false) :
      CallOf r buffer chunk (octets.map .octet ++ yields) (.ok octets.length, buffer ++ octets, next)
  /-- A fault is told of. -/
  | fault {fault : Fault} {yields : List Yield} {next : Replay} (h : r.exhausted = false)
      (hkind : fault.kind ≠ .interrupted) (hnext : next.Holds chunk yields)
      (hexhausted : next.exhausted = false) :
      CallOf r buffer chunk (.fault fault :: yields) (.error fault, buffer, next)

/-- A call does what it can. -/
theorem call_of_holds {r : Replay} {chunk : Nat} {yields : List Yield} (h : r.Holds chunk yields)
    (buffer : Octets) : CallOf r buffer chunk yields (r.readInto buffer) := by
  obtain ⟨items, hreader, rfl⟩ := h.script
  have hchunk : r.chunk = chunk := h.chunk_eq
  have hpos := r.chunk_pos
  rw [readInto_eq, read]
  by_cases hexhausted : r.exhausted = true
  · rw [if_pos hexhausted, if_pos hexhausted]
    have hcall : CallOf r buffer chunk [] (.ok 0, buffer, r) := .spent hexhausted
    simpa using hcall
  rw [Bool.not_eq_true] at hexhausted
  rw [if_neg (by simp [hexhausted]), if_neg (by simp [hexhausted]), hreader, LogReader.read,
    ← contents_dropWhile]
  have hhead := List.head?_dropWhile_not Read.isInterrupted items
  generalize items.dropWhile Read.isInterrupted = unread at hhead
  -- the first item that is no interruption decides
  rcases unread with _ | ⟨octets | fault, rest⟩
  · have hcall : CallOf r buffer chunk []
        (.ok 0, buffer, { r with reader := .items [], exhausted := true }) :=
      .last hexhausted ⟨hchunk, [], rfl, rfl⟩ rfl
    simpa [readItems, contents_nil] using hcall
  · by_cases hnil : octets = []
    · subst hnil
      have hcall : CallOf r buffer chunk []
          (.ok 0, buffer, { r with reader := .items rest, exhausted := true }) :=
        .last hexhausted ⟨hchunk, rest, rfl, rfl⟩ rfl
      simpa [readItems, contents_end] using hcall
    · have hne : octets.take r.chunk ≠ [] := by simp [hnil, Nat.ne_of_gt hpos]
      have hcontents : contents (.data octets :: rest) = (octets.take r.chunk).map .octet
          ++ contents (readItems r.chunk (.data octets :: rest)).2 := by
        rw [contents_data hnil, contents_readItems, ← List.append_assoc, ← List.map_append,
          List.take_append_drop]
      have hcall : CallOf r buffer chunk (contents (.data octets :: rest))
          (.ok (octets.take r.chunk).length, buffer ++ octets.take r.chunk,
            { r with reader := .items (readItems r.chunk (.data octets :: rest)).2 }) :=
        hcontents ▸ .octets hexhausted hne (hchunk ▸ List.length_take_le _ _)
          ⟨hchunk, _, rfl, by simp [hexhausted]⟩ hexhausted
      obtain ⟨b, more, htaken⟩ := List.exists_cons_of_ne_nil hne
      have hread : (readItems r.chunk (.data octets :: rest)).1 = .data (b :: more) :=
        congrArg Read.data htaken
      rw [htaken] at hcall
      rw [hread]
      exact hcall
  · have hkind : fault.kind ≠ .interrupted := by simpa [Read.isInterrupted] using hhead
    have hcall : CallOf r buffer chunk (.fault fault :: contents rest)
        (.error fault, buffer, { r with reader := .items rest }) :=
      .fault hexhausted hkind ⟨hchunk, rest, rfl, by simp [hexhausted]⟩ hexhausted
    rw [contents_fault hkind]
    simpa [readItems] using hcall

/-- What a call gives out: the octets behind the buffer, or a fault. -/
def given (buffer : Octets) : Except Fault Nat × Octets × Replay → List Yield
  | (.ok _, filled, _) => (filled.drop buffer.length).map .octet
  | (.error f, _, _) => [.fault f]

namespace CallOf

variable {r : Replay} {buffer : Octets} {chunk : Nat} {yields : List Yield}
  {result : Except Fault Nat × Octets × Replay}

/-- A call takes what it gives out from what the log holds, and puts the octets behind the buffer. -/
theorem step (h : CallOf r buffer chunk yields result) (hr : r.Holds chunk yields) :
    ∃ rest, result.2.2.Holds chunk rest ∧ given buffer result ++ rest = yields
      ∧ result.2.1 = buffer ++ octetsIn (given buffer result) := by
  cases h with
  | spent => exact ⟨[], hr, by simp [given], by simp [given, octetsIn]⟩
  | last _ hnext => exact ⟨[], hnext, by simp [given], by simp [given, octetsIn]⟩
  | octets _ _ _ hnext =>
    exact ⟨_, hnext, by simp [given], by simp [given, octetsIn_octets]⟩
  | fault _ _ hnext => exact ⟨_, hnext, rfl, (List.append_nil buffer).symm⟩

/-- A replay is exhausted by the call that tells of nothing. -/
theorem exhausted_iff (h : CallOf r buffer chunk yields result) :
    result.2.2.exhausted = true ↔ result.1 = .ok 0 := by
  cases h with
  | spent h => exact ⟨fun _ => rfl, fun _ => h⟩
  | last _ _ hexhausted => exact ⟨fun _ => rfl, fun _ => hexhausted⟩
  | octets _ hne _ _ hexhausted =>
    simp [hexhausted, hne]
  | fault _ _ _ hexhausted => simp [hexhausted]

theorem of_ok (h : CallOf r buffer chunk yields result) {count : Nat} (hok : result.1 = .ok count) :
    count ≤ chunk ∧ ∃ new : Octets, new.length = count ∧ result.2.1 = buffer ++ new := by
  cases h with
  | spent =>
    cases hok
    exact ⟨Nat.zero_le _, [], rfl, (List.append_nil buffer).symm⟩
  | last =>
    cases hok
    exact ⟨Nat.zero_le _, [], rfl, (List.append_nil buffer).symm⟩
  | octets _ _ hle =>
    cases hok
    exact ⟨hle, _, rfl, rfl⟩
  | fault => cases hok

theorem of_error (h : CallOf r buffer chunk yields result) {fault : Fault}
    (herror : result.1 = .error fault) :
    fault.kind ≠ .interrupted ∧ result.2.1 = buffer ∧ result.2.2.exhausted = false := by
  cases h with
  | spent => cases herror
  | last => cases herror
  | octets => cases herror
  | fault _ hkind _ hexhausted =>
    cases herror
    exact ⟨hkind, rfl, hexhausted⟩

end CallOf

/-- An exhausted replay does not look at its log. -/
theorem readInto_of_exhausted {r : Replay} (h : r.exhausted = true) (buffer : Octets) :
    r.readInto buffer = (.ok 0, buffer, r) := if_pos h

/-! ## Many calls -/

/-- A buffer and a replay after some calls. -/
def after (r : Replay) (buffer : Octets) : Nat → Octets × Replay
  | 0 => (buffer, r)
  | n + 1 => ((r.after buffer n).2.readInto (r.after buffer n).1).2

/-- The call after `n` calls. -/
def call (r : Replay) (buffer : Octets) (n : Nat) : Except Fault Nat × Octets × Replay :=
  (r.after buffer n).2.readInto (r.after buffer n).1

/-- Its answer. -/
def answer (r : Replay) (buffer : Octets) (n : Nat) : Except Fault Nat := (r.call buffer n).1

/-- What `n` calls give out, one after the other. -/
def givenBy (r : Replay) (buffer : Octets) (n : Nat) : List Yield :=
  (List.range n).flatMap fun k => given (r.after buffer k).1 (r.call buffer k)

theorem after_succ (r : Replay) (buffer : Octets) (n : Nat) :
    r.after buffer (n + 1) = (r.call buffer n).2 := rfl

theorem givenBy_succ (r : Replay) (buffer : Octets) (n : Nat) :
    r.givenBy buffer (n + 1)
      = r.givenBy buffer n ++ given (r.after buffer n).1 (r.call buffer n) := by
  rw [givenBy, List.range_succ, List.flatMap_append, List.flatMap_singleton, givenBy]

section Runs

variable {r : Replay} {chunk : Nat} {yields : List Yield}

/-- What has been given out and what the replay still holds are together what it held at first, and
the octets that have been given out stand behind the buffer. -/
theorem exists_holds_after (h : r.Holds chunk yields) (buffer : Octets) (n : Nat) :
    ∃ rest, (r.after buffer n).2.Holds chunk rest ∧ r.givenBy buffer n ++ rest = yields
      ∧ (r.after buffer n).1 = buffer ++ octetsIn (r.givenBy buffer n) := by
  induction n with
  | zero => exact ⟨yields, h, rfl, (List.append_nil buffer).symm⟩
  | succ n ih =>
    obtain ⟨rest, hholds, hyields, hbuffer⟩ := ih
    obtain ⟨left, hleft, hgiven, hfilled⟩ :=
      (call_of_holds hholds (r.after buffer n).1).step hholds
    refine ⟨left, hleft, ?_, ?_⟩
    · rw [givenBy_succ, List.append_assoc, call, hgiven, hyields]
    · rw [givenBy_succ, octetsIn_append, ← List.append_assoc, ← hbuffer]
      exact hfilled

/-- Every call is one of a replay that holds something. -/
theorem exists_callOf (h : r.Holds chunk yields) (buffer : Octets) (n : Nat) :
    ∃ rest, CallOf (r.after buffer n).2 (r.after buffer n).1 chunk rest (r.call buffer n) := by
  obtain ⟨rest, hholds, -⟩ := exists_holds_after h buffer n
  exact ⟨rest, call_of_holds hholds _⟩

theorem exhausted_after_succ_iff (h : r.Holds chunk yields) (buffer : Octets) (n : Nat) :
    (r.after buffer (n + 1)).2.exhausted = true ↔ r.answer buffer n = .ok 0 := by
  obtain ⟨rest, hcall⟩ := exists_callOf h buffer n
  exact hcall.exhausted_iff

/-- Once a replay is exhausted, calls change nothing. -/
theorem after_of_exhausted {buffer : Octets} {n : Nat}
    (h : (r.after buffer n).2.exhausted = true) {m : Nat} (hm : n ≤ m) :
    r.after buffer m = r.after buffer n := by
  induction hm with
  | refl => rfl
  | step _ ih => rw [after_succ, call, ih, readInto_of_exhausted h]

/-- A replay is exhausted if some call has told of nothing. -/
theorem exhausted_after_iff (h : r.Holds chunk yields) (hfresh : r.exhausted = false)
    (buffer : Octets) (n : Nat) :
    (r.after buffer n).2.exhausted = true ↔ ∃ k < n, r.answer buffer k = .ok 0 := by
  constructor
  · intro hexhausted
    cases n with
    | zero => exact absurd hexhausted (by simp [after, hfresh])
    | succ n => exact ⟨n, Nat.lt_succ_self n, (exhausted_after_succ_iff h buffer n).1 hexhausted⟩
  · rintro ⟨k, hk, hanswer⟩
    have hthen := (exhausted_after_succ_iff h buffer k).2 hanswer
    rw [after_of_exhausted hthen hk]
    exact hthen

/-- An exhausted replay has given out all that it held. -/
theorem givenBy_of_exhausted (h : r.Holds chunk yields) {buffer : Octets} {n : Nat}
    (hexhausted : (r.after buffer n).2.exhausted = true) : r.givenBy buffer n = yields := by
  obtain ⟨rest, hholds, hyields, -⟩ := exists_holds_after h buffer n
  obtain ⟨items, -, hrest⟩ := hholds.script
  rw [if_pos hexhausted] at hrest
  rw [← hyields, hrest, List.append_nil]

end Runs

/-- A replay from the beginning of a log holds all of it. -/
theorem holds_start (name : Text) (items : List Read) (chunk : Nat) :
    ((start name (.items items)).withChunk chunk).Holds (max chunk 1) (contents items) :=
  ⟨rfl, items, rfl, rfl⟩

/-- **A log is handed over exactly once**, whatever its items, the limit on a read and the buffer, over
any number of calls.  A call that succeeds puts as many octets behind the buffer as it tells, and no
more than the limit.  One that fails leaves the buffer as it was and the replay unexhausted, and is
never the interruption of a read.  What the calls give out, octets and faults in their order, is a
beginning of what the log holds before its first item without octets, and all of it once a call has
told of nothing; the octets behind the buffer are those of the log.  With the first such call the
replay is exhausted, and from then on it tells of nothing, changes nothing and does not look at its
log. -/
theorem hands_over_once (name : Text) (items : List Read) (chunk : Nat) (buffer : Octets) :
    let r := (start name (.items items)).withChunk chunk
    (∀ n count, r.answer buffer n = .ok count →
        count ≤ max chunk 1
          ∧ ∃ new, new.length = count
            ∧ (r.after buffer (n + 1)).1 = (r.after buffer n).1 ++ new)
      ∧ (∀ n fault, r.answer buffer n = .error fault →
        fault.kind ≠ .interrupted ∧ (r.after buffer (n + 1)).1 = (r.after buffer n).1
          ∧ (r.after buffer (n + 1)).2.exhausted = false)
      ∧ (∀ n, r.givenBy buffer n <+: contents items
        ∧ ∃ new, (r.after buffer n).1 = buffer ++ new ∧ new <+: octetsOf items)
      ∧ (∀ n, (∃ k < n, r.answer buffer k = .ok 0) →
        r.givenBy buffer n = contents items ∧ (r.after buffer n).1 = buffer ++ octetsOf items)
      ∧ (∀ n, (r.after buffer n).2.exhausted = true ↔ ∃ k < n, r.answer buffer k = .ok 0)
      ∧ ∀ n, (r.after buffer n).2.exhausted = true →
        (∀ m, n ≤ m → r.answer buffer m = .ok 0 ∧ r.after buffer m = r.after buffer n)
          ∧ ∀ (log : LogReader) (other : Octets),
            let spent : Replay := { (r.after buffer n).2 with reader := log }
            spent.readInto other = (.ok 0, other, spent) := by
  intro r
  have hstart : r.Holds (max chunk 1) (contents items) := holds_start name items chunk
  have hexhausted := exhausted_after_iff hstart rfl buffer
  refine ⟨?_, ?_, ?_, ?_, hexhausted, ?_⟩
  · intro n count hanswer
    obtain ⟨rest, hcall⟩ := exists_callOf hstart buffer n
    exact hcall.of_ok hanswer
  · intro n fault hanswer
    obtain ⟨rest, hcall⟩ := exists_callOf hstart buffer n
    exact hcall.of_error hanswer
  · intro n
    obtain ⟨rest, -, hgiven, hbuffer⟩ := exists_holds_after hstart buffer n
    refine ⟨⟨rest, hgiven⟩, _, hbuffer, octetsIn rest, ?_⟩
    rw [← octetsIn_append, hgiven, octetsIn_contents]
  · intro n hanswer
    have hall := givenBy_of_exhausted hstart ((hexhausted n).2 hanswer)
    obtain ⟨rest, -, -, hbuffer⟩ := exists_holds_after hstart buffer n
    rw [hall, octetsIn_contents] at hbuffer
    exact ⟨hall, hbuffer⟩
  · intro n hspent
    constructor
    · intro m hm
      have hsame := after_of_exhausted hspent hm
      refine ⟨?_, hsame⟩
      rw [answer, call, hsame, readInto_of_exhausted hspent]
    · intro log other spent
      exact readInto_of_exhausted (r := spent) hspent other

/-- A log with an interruption, a fault between its octets, and more behind an item without octets. -/
theorem hands_over_once_around_fault :
    let items : List Read := [.data [1, 2, 3], .fault FaultKind.interrupted.fault, .data [4],
      .fault FaultKind.timedOut.fault, .data [5], .data [], .data [6]]
    let r := (start "log".toList (.items items)).withChunk 2
    r.answer [0] 1 = .ok 1 ∧ r.answer [0] 3 = .error FaultKind.timedOut.fault
      ∧ (r.after [0] 4).1 = (r.after [0] 3).1
      ∧ r.answer [0] 5 = .ok 0 ∧ (r.after [0] 6).1 = [0, 1, 2, 3, 4, 5]
      ∧ r.givenBy [0] 6 = [.octet 1, .octet 2, .octet 3, .octet 4, .fault FaultKind.timedOut.fault,
        .octet 5]
      ∧ (r.after [0] 6).2.exhausted = true ∧ r.after [0] 9 = r.after [0] 6 := by
  intro items r
  obtain ⟨-, hfault, -, hall, hexhausted, hspent⟩ := hands_over_once "log".toList items 2 [0]
  have hlast : r.answer [0] 5 = .ok 0 := rfl
  have hthen := (hexhausted 6).2 ⟨5, by decide, hlast⟩
  obtain ⟨hgiven, hbuffer⟩ := hall 6 ⟨5, by decide, hlast⟩
  exact ⟨rfl, rfl, (hfault 3 _ rfl).2.1, hlast, hbuffer, hgiven, hthen,
    ((hspent 6 hthen).1 9 (by decide)).2⟩

end Replay

end TestWatch
