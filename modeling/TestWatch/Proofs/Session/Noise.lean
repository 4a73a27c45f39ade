import Mathlib.Logic.Relation
import TestWatch.Proofs.LineBuffer.Reassembly
import TestWatch.Proofs.Program.Replaying

/-!
# Noise on the line

What a session makes of a log is not disturbed by

* octets that belong to no character, wherever they stand between two characters (`Riddled`),
* lines that say nothing (`InsertsLine`), and
* blanks at the ends of lines (`Pads`).

None of them changes what is told by a log, `gist`: the events that count for something, of the lines
that a newline ends and of all lines.  For each kind of noise there is one lemma on one insertion
(`gist_riddled`, `gist_insertsLine`, `gist_pads`), and `gist_noisy` puts any number of them together.
Phase, trigger and counts are read off the gist (`verdict_eq`, `applyAll_textLines`), so that
`run_noisy` follows for every reader that hands the octets out.
-/

namespace TestWatch

open Text

/-! ## Events that count for something -/

namespace Event

/-- Whether an event counts a test, sets the counts or completes a run. -/
def isHeeded : Event → Bool
  | .result _ _ | .summary _ _ | .verdict _ | .marker _ => true
  | .malformedSummary | .unclassified => false

theorem trigger?_of_not_isHeeded {event : Event} (h : event.isHeeded = false) :
    event.trigger? = none := by
  cases event <;> first | rfl | cases h

end Event

theorem Tally.apply_of_not_isHeeded {event : Event} (h : event.isHeeded = false) (t : Tally) :
    t.apply event = t := by
  cases event <;> first | rfl | cases h

/-- The counts of some events are those of the events that count for something. -/
theorem Tally.applyAll_filter_isHeeded (t : Tally) (events : List Event) :
    t.applyAll (events.filter Event.isHeeded) = t.applyAll events := by
  induction events generalizing t with
  | nil => rfl
  | cons event events ih =>
    cases h : event.isHeeded with
    | true =>
      rw [List.filter_cons_of_pos h]
      exact ih (t.apply event)
    | false =>
      rw [List.filter_cons_of_neg (by simp [h]), ih]
      show _ = (t.apply event).applyAll events
      rw [apply_of_not_isHeeded h]

/-- The first trigger among some events is that among the events that count for something. -/
theorem findSome?_filter_isHeeded (events : List Event) :
    (events.filter Event.isHeeded).findSome? Event.trigger? = events.findSome? Event.trigger? := by
  induction events with
  | nil => rfl
  | cons event events ih =>
    cases h : event.isHeeded with
    | true => rw [List.filter_cons_of_pos h, List.findSome?_cons, List.findSome?_cons, ih]
    | false =>
      rw [List.filter_cons_of_neg (by simp [h]), ih, List.findSome?_cons,
        Event.trigger?_of_not_isHeeded h]

/-- A line that says nothing: it is blank, or it is neither a result, a verdict nor a phrase that
closes a run, nor a summary that can be read. -/
def IsIdle (line : Text) : Prop :=
  trim line = [] ∨ Event.ofLine line = .unclassified ∨ Event.ofLine line = .malformedSummary

theorem not_isHeeded_of_isIdle {line : Text} (h : IsIdle line) :
    (Event.ofLine line).isHeeded = false := by
  rcases h with hblank | hevent | hevent
  · rw [Event.ofLine, hblank]
    rfl
  · rw [hevent]
    rfl
  · rw [hevent]
    rfl

/-! ## The gist of a log -/

/-- What the segments between the newlines say. -/
def segmentEvents (bytes : Octets) : List Event := eventsOf ((bytes.splitOn newline).map decode)

/-- What is told by a log: the events that count for something, of the lines that a newline ends and
of all lines. -/
def gist (bytes : Octets) : List Event × List Event :=
  ((segmentEvents bytes).dropLast.filter Event.isHeeded,
    (segmentEvents bytes).filter Event.isHeeded)

theorem eventsOf_terminatedLines (bytes : Octets) :
    eventsOf (terminatedLines bytes) = (segmentEvents bytes).dropLast := by
  rw [segmentEvents, terminatedLines, eventsOf, eventsOf, List.map_dropLast, List.map_dropLast]

/-- The counts over all lines of a log. -/
theorem applyAll_textLines (bytes : Octets) :
    Tally.empty.applyAll (eventsOf (textLines bytes)) = Tally.empty.applyAll (gist bytes).2 := by
  have hsegments : segmentEvents bytes
      = eventsOf (terminatedLines bytes) ++ [Event.ofLine (decode (lastSegment bytes))] := by
    rw [terminatedLines_eq, lastSegment_eq, segmentEvents, splitOn_newline, List.map_append,
      eventsOf_append]
    rfl
  -- a last line without text says nothing
  have hlast : (eventsOf (nonEmpty [decode (lastSegment bytes)])).filter Event.isHeeded
      = [Event.ofLine (decode (lastSegment bytes))].filter Event.isHeeded := by
    cases decode (lastSegment bytes) <;> rfl
  rw [← Tally.applyAll_filter_isHeeded, textLines, eventsOf_append, List.filter_append, hlast,
    ← List.filter_append, ← hsegments]
  rfl

/-- The first trigger among the lines that a newline ends. -/
theorem findTrigger_eq_gist (bytes : Octets) :
    findTrigger (terminatedLines bytes) = (gist bytes).1.findSome? Event.trigger? := by
  rw [findTrigger, eventsOf_terminatedLines, ← findSome?_filter_isHeeded]
  rfl

theorem gist_of_decode {a b : Octets} (h : decode a = decode b) : gist a = gist b := by
  have hsegments : segmentEvents a = segmentEvents b := by
    rw [segmentEvents, segmentEvents, ← splitOn_decode, ← splitOn_decode, h]
  rw [gist, gist, hsegments]

/-- One more line that says nothing, before the last one. -/
theorem gist_of_segmentEvents_insert {a b : Octets} {front rest : List Event} {event : Event}
    (hrest : rest ≠ []) (hevent : event.isHeeded = false)
    (ha : segmentEvents a = front ++ rest) (hb : segmentEvents b = front ++ event :: rest) :
    gist a = gist b := by
  have hheeded : ∀ events : List Event,
      (event :: events).filter Event.isHeeded = events.filter Event.isHeeded :=
    fun events => List.filter_cons_of_neg (by simp [hevent])
  rw [gist, gist, ha, hb, List.dropLast_append_of_ne_nil hrest,
    List.dropLast_append_of_ne_nil (List.cons_ne_nil event rest), List.dropLast_cons_of_ne_nil hrest]
  simp only [List.filter_append, hheeded]

/-! ## The beginnings of lines -/

/-- After these octets a line begins: there are none, or the last is a newline. -/
def AtLineStart (before : Octets) : Prop := before = [] ∨ ∃ a, before = a ++ [newline]

/-- The segments before the beginning of a line do not depend on what follows. -/
theorem AtLineStart.exists_splitOn {before : Octets} (h : AtLineStart before) :
    ∃ front, ∀ after, (before ++ after).splitOn newline = front ++ after.splitOn newline := by
  rcases h with rfl | ⟨a, rfl⟩
  · exact ⟨[], fun after => rfl⟩
  · refine ⟨a.splitOn newline, fun after => ?_⟩
    rw [List.append_assoc]
    exact List.splitOn_append_cons_self a after

/-- An octet that is no newline goes on with the last segment. -/
theorem splitOn_concat {b : UInt8} (hb : b ≠ newline) (bytes : Octets) :
    ∃ front, bytes.splitOn newline = front ++ [lastSegment bytes]
      ∧ (bytes ++ [b]).splitOn newline = front ++ [lastSegment bytes ++ [b]] := by
  have hrest : newline ∉ (cutLines bytes).2 ++ [b] := by
    rw [List.mem_append, not_or, List.mem_singleton]
    exact ⟨newline_not_mem_rest bytes, Ne.symm hb⟩
  refine ⟨(cutLines bytes).1, ?_, ?_⟩
  · rw [splitOn_newline, lastSegment_eq]
  · rw [splitOn_newline, cutLines_append, cutLines_of_not_mem hrest, lastSegment_eq, List.append_nil]

/-! ## Octets that belong to no character -/

/-- The spelling of a text, with octets that are read as nothing before, between and after the
characters. -/
inductive Riddled : Text → Octets → Prop where
  /-- No character is left. -/
  | nil {noise : Octets} (hnoise : decode noise = []) : Riddled [] noise
  /-- A character, with noise before it and the rest of the text after it. -/
  | cons {noise bytes : Octets} {c : Char} {s : Text} (hnoise : decode noise = [])
      (hrest : Riddled s bytes) : Riddled (c :: s) (noise ++ (encode [c] ++ bytes))

/-- No noise between characters swallows one of them or takes part in one. -/
theorem Riddled.decode_eq {s : Text} {bytes : Octets} (h : Riddled s bytes) : decode bytes = s := by
  induction h with
  | nil hnoise => exact hnoise
  | @cons noise bytes c s hnoise hrest ih =>
    have hhead : ∀ b ∈ (encode [c] ++ bytes).head?, isTail b = false := by
      intro b hb
      have hspelled : encode [c] = String.utf8EncodeChar c := List.append_nil _
      rw [hspelled, List.head?_append_of_ne_nil] at hb
      · exact isTail_head_encodeChar c b hb
      · exact String.utf8EncodeChar_ne_nil
    rw [decode_append noise hhead, hnoise, decode_encode_append, ih]
    rfl

/-- Nothing has to be inserted. -/
theorem Riddled.encode_append (s : Text) {t : Text} {bytes : Octets} (h : Riddled t bytes) :
    Riddled (s ++ t) (encode s ++ bytes) := by
  induction s with
  | nil => exact h
  | cons c s ih =>
    have hspelled : encode (c :: s) ++ bytes = [] ++ (encode [c] ++ (encode s ++ bytes)) := by
      simp [encode]
    rw [List.cons_append, hspelled]
    exact .cons rfl ih

theorem gist_riddled {s : Text} {bytes : Octets} (h : Riddled s bytes) :
    gist (encode s) = gist bytes :=
  gist_of_decode ((decode_encode s).trans h.decode_eq.symm)

/-! ## Lines that say nothing -/

/-- A line that says nothing is inserted where a line begins. -/
inductive InsertsLine : Octets → Octets → Prop where
  /-- The line comes between what stands before it and what stands after it. -/
  | intro {before line after : Octets} (hstart : AtLineStart before) (hline : newline ∉ line)
      (hidle : IsIdle (decode line)) :
      InsertsLine (before ++ after) (before ++ (line ++ newline :: after))

theorem gist_insertsLine (a b : Octets) (h : InsertsLine a b) : gist a = gist b := by
  obtain @⟨before, line, after, hstart, hline, hidle⟩ := h
  obtain ⟨front, hfront⟩ := hstart.exists_splitOn
  have hrest : eventsOf ((after.splitOn newline).map decode) ≠ [] := by
    simp [eventsOf, List.splitOn_ne_nil]
  have hwithout : segmentEvents (before ++ after)
      = eventsOf (front.map decode) ++ eventsOf ((after.splitOn newline).map decode) := by
    rw [segmentEvents, hfront, List.map_append, eventsOf_append]
  have hwith : segmentEvents (before ++ (line ++ newline :: after)) = eventsOf (front.map decode)
      ++ Event.ofLine (decode line) :: eventsOf ((after.splitOn newline).map decode) := by
    rw [segmentEvents, hfront, List.splitOn_append_cons_self, List.splitOn_eq_singleton hline,
      List.map_append, eventsOf_append]
    rfl
  exact gist_of_segmentEvents_insert hrest (not_isHeeded_of_isIdle hidle) hwithout hwith

/-! ## Blanks at the ends of lines -/

/-- The blanks that may surround a line: a space, a tab and a carriage return. -/
def isPadding (b : UInt8) : Bool := b == 0x20 || b == 0x09 || b == 0x0D

theorem isPadding_cases {b : UInt8} (h : isPadding b = true) : b = 0x20 ∨ b = 0x09 ∨ b = 0x0D := by
  simpa [isPadding, or_assoc] using h

theorem ne_newline_of_isPadding {b : UInt8} (h : isPadding b = true) : b ≠ newline := by
  rintro rfl
  cases h

/-- Such a blank is read as a blank character, before a line and after it. -/
theorem decode_of_isPadding {b : UInt8} (h : isPadding b = true) : ∃ c, isBlank c = true
    ∧ (∀ bytes, decode (b :: bytes) = c :: decode bytes)
    ∧ ∀ bytes, decode (bytes ++ [b]) = decode bytes ++ [c] := by
  have hfirst : decode [b] = [Char.ofNat b.toNat] ∧ isBlank (Char.ofNat b.toNat) = true
      ∧ isTail b = false ∧ ∀ bytes, decode (b :: bytes) = Char.ofNat b.toNat :: decode bytes := by
    rcases isPadding_cases h with rfl | rfl | rfl
    all_goals exact ⟨by decide, by decide, by decide, fun _ => rfl⟩
  obtain ⟨halone, hblank, htail, hcons⟩ := hfirst
  refine ⟨_, hblank, hcons, fun bytes => ?_⟩
  rw [decode_append bytes (by simpa using htail), halone]

theorem ofLine_decode_cons {b : UInt8} (h : isPadding b = true) (segment : Octets) :
    Event.ofLine (decode (b :: segment)) = Event.ofLine (decode segment) := by
  obtain ⟨c, hblank, hcons, -⟩ := decode_of_isPadding h
  rw [hcons, Event.ofLine, trim_cons_of_isBlank hblank]
  rfl

theorem ofLine_decode_concat {b : UInt8} (h : isPadding b = true) (segment : Octets) :
    Event.ofLine (decode (segment ++ [b])) = Event.ofLine (decode segment) := by
  obtain ⟨c, hblank, -, hconcat⟩ := decode_of_isPadding h
  rw [hconcat, Event.ofLine, trim_concat_of_isBlank hblank]
  rfl

/-- A blank is added where a line begins or before a newline. -/
inductive Pads : Octets → Octets → Prop where
  /-- The blank comes between what stands before it and what stands after it. -/
  | intro {before after : Octets} {b : UInt8} (hb : isPadding b = true)
      (hplace : AtLineStart before ∨ ∃ rest, after = newline :: rest) :
      Pads (before ++ after) (before ++ b :: after)

/-- A blank at the end of a line changes nothing of what any line says. -/
theorem segmentEvents_pads {x y : Octets} (h : Pads x y) : segmentEvents x = segmentEvents y := by
  obtain @⟨before, after, b, hb, hplace⟩ := h
  have hne := ne_newline_of_isPadding hb
  rcases hplace with hstart | ⟨rest, rfl⟩
  · obtain ⟨front, hfront⟩ := hstart.exists_splitOn
    obtain ⟨segment, segments, hafter⟩ :=
      List.exists_cons_of_ne_nil (List.splitOn_ne_nil newline after)
    have hpadded : (b :: after).splitOn newline = (b :: segment) :: segments := by
      rw [List.splitOn_cons_eq_if_modifyHead, if_neg (by simpa using hne), hafter]
      rfl
    rw [segmentEvents, segmentEvents, hfront, hfront, hafter, hpadded]
    simp only [eventsOf, List.map_append, List.map_cons, ofLine_decode_cons hb]
  · obtain ⟨front, hbefore, hpadded⟩ := splitOn_concat hne before
    have happend : before ++ b :: newline :: rest = (before ++ [b]) ++ newline :: rest := by simp
    rw [segmentEvents, segmentEvents, happend, List.splitOn_append_cons_self,
      List.splitOn_append_cons_self, hbefore, hpadded]
    simp only [eventsOf, List.map_append, List.map_cons, List.map_nil, ofLine_decode_concat hb]

theorem gist_pads (a b : Octets) (h : Pads a b) : gist a = gist b := by
  rw [gist, gist, segmentEvents_pads h]

/-- Every newline with a carriage return before it. -/
def withReturns (bytes : Octets) : Octets :=
  bytes.flatMap fun b => if b = newline then [0x0D, newline] else [b]

/-- Line ends of two octets are padding. -/
theorem pads_withReturns (bytes : Octets) :
    Relation.ReflTransGen Pads bytes (withReturns bytes) := by
  -- the lines before the one at hand are padded already
  suffices h : ∀ before,
      Relation.ReflTransGen Pads (before ++ bytes) (before ++ withReturns bytes) by
    exact h []
  induction bytes with
  | nil => exact fun before => .refl
  | cons b bytes ih =>
    intro before
    by_cases hb : b = newline
    · subst hb
      have hpad : Pads (before ++ newline :: bytes) (before ++ 0x0D :: newline :: bytes) :=
        .intro rfl (.inr ⟨bytes, rfl⟩)
      have hrest := ih (before ++ [0x0D, newline])
      simp only [List.append_assoc, List.cons_append, List.nil_append] at hrest
      exact .head hpad hrest
    · have hrest := ih (before ++ [b])
      simp only [List.append_assoc, List.cons_append, List.nil_append] at hrest
      rwa [withReturns, List.flatMap_cons, if_neg hb]

/-! ## All kinds together -/

/-- One log comes of another by noise: first octets that belong to no character between the
characters, if it spells a text, then any number of lines that say nothing, and then any number of
blanks at the ends of lines. -/
def Noisy (bytes noisy : Octets) : Prop :=
  ∃ riddled lined, (riddled = bytes ∨ ∃ s, bytes = encode s ∧ Riddled s riddled)
    ∧ Relation.ReflTransGen InsertsLine riddled lined ∧ Relation.ReflTransGen Pads lined noisy

/-- Any number of insertions, none of which changes what is told. -/
theorem gist_of_reflTransGen {r : Octets → Octets → Prop} (hstep : ∀ a b, r a b → gist a = gist b)
    {a b : Octets} (h : Relation.ReflTransGen r a b) : gist a = gist b := by
  induction h with
  | refl => rfl
  | tail _ hr ih => exact ih.trans (hstep _ _ hr)

/-- Noise does not change what is told by a log. -/
theorem gist_noisy {bytes noisy : Octets} (h : Noisy bytes noisy) : gist bytes = gist noisy := by
  obtain ⟨riddled, lined, hriddled, hlines, hpads⟩ := h
  have hfirst : gist bytes = gist riddled := by
    rcases hriddled with rfl | ⟨s, rfl, hriddled⟩
    · rfl
    · exact gist_riddled hriddled
  have hsecond : gist riddled = gist lined := gist_of_reflTransGen gist_insertsLine hlines
  have hthird : gist lined = gist noisy := gist_of_reflTransGen gist_pads hpads
  exact hfirst.trans (hsecond.trans hthird)

/-! ## Sessions -/

/-- A reader hands out some octets without a fault and then says that there are no more; what it may
hold after that is not read. -/
def LogReader.Delivers (reader : LogReader) (bytes : Octets) : Prop :=
  ∃ (captured : List Octets) (rest : List Read),
    reader = .items (captured.map .data ++ rest) ∧ [] ∉ captured
    ∧ captured.flatten = bytes ∧ (rest = [] ∨ ∃ more, rest = .data [] :: more)

/-- Nothing is read after the end of a log. -/
theorem Replay.readsOf_append (limit : Nat) (captured : List Octets) (hcaptured : [] ∉ captured)
    {rest : List Read} (hrest : rest = [] ∨ ∃ more, rest = .data [] :: more) :
    readsOf limit (captured.map .data ++ rest) = readsOf limit (captured.map .data) := by
  induction captured with
  | nil => rcases hrest with rfl | ⟨more, rfl⟩ <;> rfl
  | cons octets captured ih =>
    obtain ⟨hoctets, hcaptured⟩ := not_or.1 (mt List.mem_cons.2 hcaptured)
    have hdata : octets.isEmpty = false := by simpa using Ne.symm hoctets
    rw [List.map_cons, List.cons_append, readsOf, readsOf, hdata, ih hcaptured]

namespace Session

variable {timing : Timing}

/-- The verdict on a log is read off its gist. -/
theorem verdict_eq {a b : Octets} (h : gist a = gist b) : verdict a = verdict b := by
  rw [verdict, verdict, findTrigger_eq_gist, findTrigger_eq_gist, h]

/-- A session over what a reader hands out gives the verdict on it and counts all its lines. -/
theorem run_of_delivers (htimeout : 0 < timing.timeout.nanos) (hpoll : 0 < timing.pollInterval.nanos)
    {reader : LogReader} {bytes : Octets} (h : reader.Delivers bytes) (sink : Sink) (name : Text)
    (chunk : Nat) :
    let o := run timing sink ((Replay.start name reader).withChunk chunk).feed
    (o.phase, o.trigger) = verdict bytes ∧ o.tally = Tally.empty.applyAll (gist bytes).2 := by
  obtain ⟨captured, rest, rfl, hcaptured, rfl, hrest⟩ := h
  have hfeed : ((Replay.start name (.items (captured.map .data ++ rest))).withChunk chunk).feed
      = ((Replay.start name (.items (captured.map .data))).withChunk chunk).feed := by
    have hreads := Replay.readsOf_append (max chunk 1) captured hcaptured hrest
    exact congrArg (fun reads : List Read => Feed.mk name (reads.map Read.quietly)) hreads
  obtain ⟨hoctets, -, hverdict, -⟩ := run_log hpoll htimeout sink hcaptured name chunk
  rw [hfeed]
  refine ⟨hverdict, ?_⟩
  rw [lines_run hpoll, hoctets, applyAll_textLines]

/-- **A session is not disturbed by noise on the line.**  Two readers hand out a log and the same log
with noise of the three kinds, in whatever pieces: both sessions end in the same phase, by the same
trigger and with the same counts and records. -/
theorem run_noisy (htimeout : 0 < timing.timeout.nanos) (hpoll : 0 < timing.pollInterval.nanos)
    {bytes noisy : Octets} (hnoise : Noisy bytes noisy) {reader reader' : LogReader}
    (h : reader.Delivers bytes) (h' : reader'.Delivers noisy) (sink sink' : Sink) (name name' : Text)
    (chunk chunk' : Nat) :
    let o := run timing sink ((Replay.start name reader).withChunk chunk).feed
    let o' := run timing sink' ((Replay.start name' reader').withChunk chunk').feed
    o'.phase = o.phase ∧ o'.trigger = o.trigger ∧ o'.tally = o.tally := by
  intro o o'
  have hgist := gist_noisy hnoise
  obtain ⟨hends, htally⟩ := run_of_delivers htimeout hpoll h sink name chunk
  obtain ⟨hends', htally'⟩ := run_of_delivers htimeout hpoll h' sink' name' chunk'
  rw [← verdict_eq hgist] at hends'
  obtain ⟨hphase, htrigger⟩ := Prod.mk.inj (hends'.trans hends.symm)
  refine ⟨hphase, htrigger, ?_⟩
  rw [htally, htally', hgist]

/-- An octet of a character that never came stands before a newline, a line of the loader comes
first, and every line ends in two octets. -/
theorem run_noisy_truncated :
    let clean := [encode "t.c:1:a:PASS\nOK\n".toList]
    let noisy := [encode "boot\r\nt.c:1:a:PASS".toList ++ [0xC3], encode "\r\nOK\r\n".toList]
    let o := run brisk (.fresh none)
      ((Replay.start "log".toList (.items (clean.map .data))).withChunk 64).feed
    let o' := run brisk (.fresh none)
      ((Replay.start "log".toList (.items (noisy.map .data))).withChunk 3).feed
    o'.phase = o.phase ∧ o'.trigger = o.trigger ∧ o'.tally = o.tally := by
  intro clean noisy
  have hdelivers : LogReader.Delivers (.items (clean.map .data)) clean.flatten :=
    ⟨clean, [], by simp, by decide, rfl, .inl rfl⟩
  have hdelivers' : LogReader.Delivers (.items (noisy.map .data)) noisy.flatten :=
    ⟨noisy, [], by simp, by decide, rfl, .inl rfl⟩
  obtain ⟨riddled, hriddled, hspelled⟩ : ∃ riddled,
      Riddled ("t.c:1:a:PASS".toList ++ '\n' :: "OK\n".toList) riddled
        ∧ riddled = encode "t.c:1:a:PASS".toList ++ 0xC3 :: encode "\nOK\n".toList := by
    have hlast : Riddled [] [] := .nil rfl
    have hverdict : Riddled ("OK\n".toList ++ []) (encode "OK\n".toList ++ []) :=
      .encode_append _ hlast
    have htruncated : decode [0xC3] = [] := by decide
    exact ⟨_, .encode_append _ (.cons htruncated hverdict), by decide⟩
  have hboot : InsertsLine riddled (encode "boot".toList ++ newline :: riddled) :=
    @InsertsLine.intro [] (encode "boot".toList) riddled (.inl rfl) (by decide)
      (.inr (.inl (by decide +kernel)))
  have hreturns : Relation.ReflTransGen Pads (encode "boot".toList ++ newline :: riddled)
      noisy.flatten := by
    have hpads := pads_withReturns (encode "boot".toList ++ newline :: riddled)
    rw [hspelled] at hpads ⊢
    exact hpads
  have hnoisy : Noisy clean.flatten noisy.flatten :=
    ⟨riddled, _, .inr ⟨_, by decide, hriddled⟩, .single hboot, hreturns⟩
  exact run_noisy (by decide) (by decide) hnoisy hdelivers hdelivers' (.fresh none) (.fresh none)
    "log".toList "log".toList 64 3

end Session

end TestWatch
