import TestWatch.Proofs.Line.Rules

/-!
# Results of tests, field by field

Whether a line is a result is told by a search for `:PASS` and `:FAIL` in all of it; the record is
told by its fields, the pieces between its colons.  Both are the same matter: a mark stands in the
line exactly if a field other than the first begins with its word (`Status.heads_iff`).  So a word
that happens to begin the line number, the name or a piece of the message counts as much as the status
itself.

`read_result` gives the status and the record of every line by its fields, and reads back every line
that is written from a path, a number, a name, a status and a message.
-/

namespace TestWatch

open Text

/-- The fields of a line: the pieces of the trimmed line between its colons. -/
def fieldsOf (line : Text) : List Text := (trim line).splitOn ':'

/-- Some field of a line after the first begins with the word of a status. -/
def Status.Heads (status : Status) (line : Text) : Prop :=
  ∃ field ∈ (fieldsOf line).tail, status.word <+: field

/-- A line that gives the result of a test. -/
def resultLine (path number name : Text) (status : Status) (message : Text) : Text :=
  [':'].intercalate [path, number, name, status.word, message]

/-! ## File names -/

/-- The part of a path after its last slash: all of the path if it has none. -/
def IsFileName (path file : Text) : Prop :=
  '/' ∉ file ∧ (file = path ∨ ∃ directory, path = directory ++ '/' :: file)

theorem fileName_of_notMem {path : Text} (h : '/' ∉ path) : fileName path = path := by
  rw [fileName, split_eq_splitOn, List.splitOn_eq_singleton h]
  rfl

theorem fileName_append {file : Text} (h : '/' ∉ file) (directory : Text) :
    fileName (directory ++ '/' :: file) = file := by
  rw [fileName, split_eq_splitOn, List.splitOn_append_cons_self, List.splitOn_eq_singleton h,
    List.getLastD_concat]

/-- A path with a slash has a last one. -/
theorem exists_last_slash {path : Text} (h : '/' ∈ path) :
    ∃ directory file, path = directory ++ '/' :: file ∧ '/' ∉ file := by
  obtain ⟨before, after, hreverse, hbefore⟩ := List.eq_append_cons_of_mem (List.mem_reverse.2 h)
  refine ⟨after.reverse, before.reverse, ?_, by simpa using hbefore⟩
  rw [← List.reverse_reverse path, hreverse]
  simp

theorem isFileName_iff (path file : Text) : IsFileName path file ↔ fileName path = file := by
  constructor
  · rintro ⟨hfile, rfl | ⟨directory, rfl⟩⟩
    · exact fileName_of_notMem hfile
    · exact fileName_append hfile directory
  · rintro rfl
    by_cases hpath : '/' ∈ path
    · obtain ⟨directory, file, rfl, hfile⟩ := exists_last_slash hpath
      rw [fileName_append hfile]
      exact ⟨hfile, .inr ⟨directory, rfl⟩⟩
    · rw [fileName_of_notMem hpath]
      exact ⟨hpath, .inl rfl⟩

/-! ## Status -/

namespace Status

/-- No status has a colon in its word. -/
theorem colon_notMem_word (status : Status) : ':' ∉ status.word := by cases status <;> decide

/-- Neither status begins like the other. -/
theorem not_word_prefix_word {a b : Status} (h : a ≠ b) : ¬ a.word <+: b.word := by
  cases a <;> cases b <;> first | exact absurd rfl h | decide

/-- A mark stands in a line exactly if a field other than the first begins with its word. -/
theorem heads_iff (status : Status) (line : Text) :
    status.Heads line ↔ (':' :: status.word) <:+: line := by
  have hmark : ':' :: status.word ≠ [] ∧ Solid (':' :: status.word) := by
    cases status <;> decide
  rw [← infix_trim_iff hmark.1 hmark.2, cons_infix_iff status.colon_notMem_word]
  rfl

theorem ofLine?_eq_pass_iff (line : Text) : ofLine? (trim line) = some .pass ↔ pass.Heads line :=
  (ofLine?_trim_eq_pass_iff line).trans (heads_iff .pass line).symm

theorem ofLine?_eq_fail_iff (line : Text) :
    ofLine? (trim line) = some .fail ↔ fail.Heads line ∧ ¬ pass.Heads line := by
  rw [heads_iff, heads_iff]
  exact ofLine?_trim_eq_fail_iff line

theorem showsResult_iff (line : Text) : ShowsResult line ↔ ∃ status : Status, status.Heads line := by
  constructor
  · rintro (h | h)
    · exact ⟨.pass, (heads_iff .pass line).2 h⟩
    · exact ⟨.fail, (heads_iff .fail line).2 h⟩
  · rintro ⟨status, h⟩
    cases status with
    | pass => exact .inl ((heads_iff .pass line).1 h)
    | fail => exact .inr ((heads_iff .fail line).1 h)

/-- A line whose fourth field is `FAIL` fails unless another field after the first begins with
`PASS`. -/
theorem ofLine?_eq_fail_of_fields {line path number name : Text} {pieces : List Text}
    (h : fieldsOf line = path :: number :: name :: fail.word :: pieces) :
    ofLine? (trim line) = some .fail
      ↔ ∀ field ∈ number :: name :: pieces, ¬ pass.word <+: field := by
  have hfail : fail.Heads line := ⟨fail.word, by simp [h], List.prefix_rfl⟩
  have hword : ¬ pass.word <+: fail.word := not_word_prefix_word (by decide)
  rw [ofLine?_eq_fail_iff, Heads, Heads, h]
  constructor
  · rintro ⟨-, hpass⟩ field hfield hprefix
    refine hpass ⟨field, ?_, hprefix⟩
    simp only [List.mem_cons, List.tail_cons] at hfield ⊢
    tauto
  · intro hpass
    refine ⟨h ▸ hfail, ?_⟩
    rintro ⟨field, hfield, hprefix⟩
    simp only [List.mem_cons, List.tail_cons] at hfield hpass
    rcases hfield with rfl | rfl | rfl | hfield
    · exact hpass _ (.inl rfl) hprefix
    · exact hpass _ (.inr (.inl rfl)) hprefix
    · exact hword hprefix
    · exact hpass field (.inr (.inr hfield)) hprefix

end Status

/-! ## Records -/

namespace Record

/-- A record that holds what some fields say: the third is the name, the second the line number, the
first a path to the file, and those after the fourth are the message. -/
structure MatchesFields (record : Record) (fields : List Text) : Prop where
  /-- The third field is the name of the test. -/
  name_eq : fields[2]? = some record.name
  /-- The second field is the number of the line. -/
  line_eq : fields[1]? = some record.line
  /-- The first field is a path to the file. -/
  file_eq : ∃ path, fields[0]? = some path ∧ IsFileName path record.file
  /-- The fields after the fourth are the message, up to blanks at its ends. -/
  message_eq : record.message = trim ([':'].intercalate (fields.drop 4))

theorem isSome_ofLine?_iff (status : Status) (line : Text) :
    (ofLine? status (trim line)).isSome = true ↔ 4 ≤ (fieldsOf line).length := by
  rw [ofLine?, split_eq_splitOn]
  show _ ↔ 4 ≤ ((trim line).splitOn ':').length
  rcases (trim line).splitOn ':' with _ | ⟨path, _ | ⟨number, _ | ⟨name, _ | ⟨word, message⟩⟩⟩⟩
  all_goals simp

theorem matchesFields_of_ofLine? {status : Status} {line : Text} {record : Record}
    (h : ofLine? status (trim line) = some record) :
    record.status = status ∧ record.MatchesFields (fieldsOf line) := by
  rw [ofLine?, split_eq_splitOn] at h
  unfold fieldsOf
  split at h
  · rename_i path number name word message hfields
    cases h
    rw [hfields]
    exact ⟨rfl, rfl, rfl, ⟨path, rfl, (isFileName_iff path _).2 rfl⟩, rfl⟩
  · cases h

end Record

/-! ## Lines that are written from fields -/

/-- The fields from which a line is written are read off again; a message gives as many fields as it
has pieces between colons. -/
theorem fieldsOf_resultLine {path number name message : Text} (hpath : ':' ∉ path)
    (hnumber : ':' ∉ number) (hname : ':' ∉ name) (hfront : SolidFront path) (hne : message ≠ [])
    (hmessage : Solid message) (status : Status) :
    fieldsOf (resultLine path number name status message)
      = path :: number :: name :: status.word :: message.splitOn ':' := by
  have hwritten : resultLine path number name status message
      = path ++ ':' :: (number ++ ':' :: (name ++ ':' :: (status.word ++ ':' :: message))) := by
    simp [resultLine, List.intercalate]
  have hsolid : Solid (resultLine path number name status message) := by
    constructor
    · rw [hwritten]
      cases path with
      | nil =>
        rintro c ⟨⟩
        rfl
      | cons c path => exact hfront
    · intro c hc
      have hlast : resultLine path number name status message
          = (path ++ ':' :: (number ++ ':' :: (name ++ ':' :: (status.word ++ [':'])))) ++ message := by
        simp [hwritten]
      rw [hlast, List.getLast?_append_of_ne_nil _ hne] at hc
      exact hmessage.2 c hc
  rw [fieldsOf, trim_eq_self hsolid, hwritten, List.splitOn_append_cons_self_of_not_mem hpath,
    List.splitOn_append_cons_self_of_not_mem hnumber,
    List.splitOn_append_cons_self_of_not_mem hname,
    List.splitOn_append_cons_self_of_not_mem status.colon_notMem_word]

theorem ofLine_resultLine {path number name message file : Text} {status : Status}
    (hpath : ':' ∉ path) (hnumber : ':' ∉ number) (hname : ':' ∉ name) (hfront : SolidFront path)
    (hne : message ≠ []) (hmessage : Solid message) (hfile : IsFileName path file)
    (hstatus : status = .fail →
      ∀ field ∈ number :: name :: message.splitOn ':', ¬ Status.pass.word <+: field) :
    Event.ofLine (resultLine path number name status message)
      = .result status (some ⟨name, file, number, status, message⟩) := by
  have hfields := fieldsOf_resultLine hpath hnumber hname hfront hne hmessage status
  rw [Event.ofLine_eq_result_iff]
  constructor
  · cases status with
    | pass =>
      rw [Status.ofLine?_eq_pass_iff]
      exact ⟨Status.pass.word, by simp [hfields], List.prefix_rfl⟩
    | fail => exact (Status.ofLine?_eq_fail_of_fields hfields).2 (hstatus rfl)
  · unfold fieldsOf at hfields
    rw [Record.ofLine?, split_eq_splitOn, hfields]
    simp only [join, List.intercalate_splitOn, trim_eq_self hmessage,
      (isFileName_iff path file).1 hfile]

/-! ## Every result line -/

/-- **What a result line says, field by field.**  A line is a result exactly if a field after the first
begins with `PASS` or `FAIL`, and it passes exactly if one begins with `PASS`.  It comes with a record
exactly if it has four fields at least, and the record holds what they say.  So a line whose fourth
field is `FAIL` is a failure exactly if neither the number nor the name nor a piece of the message
begins with `PASS`, and a line that is written from a path, a number, a name, a status and a message is
read back, colons in the message included. -/
theorem read_result :
    (∀ line : Text,
      ((∃ status record, Event.ofLine line = .result status record)
        ↔ ∃ status : Status, status.Heads line)
      ∧ ∀ status record, Event.ofLine line = .result status record →
        (status = .pass ↔ Status.pass.Heads line)
          ∧ (record.isSome = true ↔ 4 ≤ (fieldsOf line).length)
          ∧ ∀ r, record = some r → r.status = status ∧ r.MatchesFields (fieldsOf line))
    ∧ (∀ line path number name pieces,
      fieldsOf line = path :: number :: name :: Status.fail.word :: pieces →
        ((∃ record, Event.ofLine line = .result .fail record)
          ↔ ∀ field ∈ number :: name :: pieces, ¬ Status.pass.word <+: field))
    ∧ ∀ path number name message file status,
      ':' ∉ path → ':' ∉ number → ':' ∉ name → SolidFront path → message ≠ [] → Solid message →
      IsFileName path file →
      (status = .fail →
        ∀ field ∈ number :: name :: message.splitOn ':', ¬ Status.pass.word <+: field) →
      Event.ofLine (resultLine path number name status message)
        = .result status (some ⟨name, file, number, status, message⟩) := by
  refine ⟨fun line => ⟨?_, ?_⟩, ?_, ?_⟩
  · rw [Event.exists_result_iff, Status.showsResult_iff]
  · intro status record h
    obtain ⟨hstatus, rfl⟩ := Event.ofLine_eq_result_iff.1 h
    refine ⟨?_, Record.isSome_ofLine?_iff status line, fun r hr =>
      Record.matchesFields_of_ofLine? hr⟩
    rw [← Status.ofLine?_eq_pass_iff, hstatus, Option.some.injEq]
  · intro line path number name pieces hfields
    rw [← Status.ofLine?_eq_fail_of_fields hfields]
    simp only [Event.ofLine_eq_result_iff, exists_and_left, exists_eq, and_true]
  · intro path number name message file status hpath hnumber hname hfront hne hmessage hfile hstatus
    exact ofLine_resultLine hpath hnumber hname hfront hne hmessage hfile hstatus

/-- A failure whose message holds a colon of its own. -/
theorem read_result_of_failure :
    let line := "main/ring.c:47:pop_of_empty:FAIL:Expected 0: Was 7".toList
    Event.ofLine line = .result .fail (some ⟨"pop_of_empty".toList, "ring.c".toList, "47".toList,
        .fail, "Expected 0: Was 7".toList⟩)
      ∧ ¬ Status.pass.Heads line ∧ 4 ≤ (fieldsOf line).length
      ∧ ∃ record, Event.ofLine line = .result .fail record := by
  intro line
  have hfile : IsFileName "main/ring.c".toList "ring.c".toList :=
    ⟨by decide, .inr ⟨"main".toList, rfl⟩⟩
  have hread : Event.ofLine line = .result .fail (some ⟨"pop_of_empty".toList, "ring.c".toList,
      "47".toList, .fail, "Expected 0: Was 7".toList⟩) :=
    read_result.2.2 "main/ring.c".toList "47".toList "pop_of_empty".toList
      "Expected 0: Was 7".toList "ring.c".toList .fail (by decide) (by decide) (by decide)
      (by decide : Solid "main/ring.c".toList).1 (by decide) (by decide) hfile fun _ => by decide
  obtain ⟨hstatus, hrecord, -⟩ := (read_result.1 line).2 _ _ hread
  refine ⟨hread, fun hpass => absurd (hstatus.2 hpass) (by decide), hrecord.1 rfl, ?_⟩
  have hfields : fieldsOf line = "main/ring.c".toList :: "47".toList :: "pop_of_empty".toList
      :: Status.fail.word :: ["Expected 0".toList, " Was 7".toList] := by decide
  exact (read_result.2.1 line _ _ _ _ hfields).2 (by decide)

/-- The name of a failing test makes its line pass. -/
example : Event.ofLine "t.c:3:PASS_through:FAIL".toList
    = .result .pass (some ⟨"PASS_through".toList, "t.c".toList, "3".toList, .pass, []⟩) := by
  decide

end TestWatch
