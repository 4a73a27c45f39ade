import TestWatch.Journal
import TestWatch.Settings.Field
import TestWatch.Text.Utf8

/-!
# Filters

What of the journal is shown is told by directives, separated by commas: a level for everything, or
a level for the topics whose path begins in some way, perhaps only for entries with some field.  Of
the directives that an entry falls under, the most particular one decides, and of equal ones the
last.
-/

namespace TestWatch

open Text

/-- A directive. -/
structure Directive where
  /-- How the path of a topic has to begin; if this is left out, any path will do. -/
  target : Option Text
  /-- A field that an entry has to have. -/
  field : Option Text
  /-- The detail that is shown, from nothing at zero to everything at five. -/
  detail : Nat
  deriving DecidableEq, Repr

namespace Directive

/-- The only field of an entry. -/
def textField : Text := "message".toList

/-- Whether an entry falls under the directive. -/
def covers (d : Directive) (entry : Entry) : Bool :=
  (match d.target with
    | none => true
    | some target => target.isPrefixOf entry.topic.path)
  && (match d.field with
    | none => true
    | some field => field == textField)

/-- How particular a directive is: a longer beginning is more particular than a shorter one, and with
equal beginnings a directive with a field is more particular than one without. -/
def rank (d : Directive) : Nat :=
  2 * (match d.target with
    | none => 0
    | some target => (encode target).length + 1)
  + if d.field.isSome then 1 else 0

/-- The words for levels, with their detail. -/
def levelWords : List (Text × Nat) :=
  [("off".toList, 0), ("error".toList, 1), ("warn".toList, 2), ("info".toList, 3),
    ("debug".toList, 4), ("trace".toList, 5)]

/-- The detail that a word or a number stands for; nothing stands for errors. -/
def readDetail (s : Text) : Option Nat :=
  match word64? s with
  | some n => if n ≤ 5 then some n else none
  | none => if s.isEmpty then some 1 else List.lookup (asciiLower s) levelWords

/-- What opens the field of a directive. -/
def fieldOpening : Text := ['[', '\x7b']

/-- What closes the field of a directive, written backwards. -/
def closingBackwards : Text := [']', '\x7d']

/-- A text without what closes a field at its end, however often that stands there; its letters are
in reverse order. -/
def withoutClosings : (fuel : Nat) → Text → Text
  | 0, s => s
  | fuel + 1, s =>
    match dropFront? closingBackwards s with
    | some rest => withoutClosings fuel rest
    | none => s

/-- The text before the first `mark` and the text after it, if it is there. -/
def cutAround (mark : Text) : Text → Option (Text × Text)
  | [] => none
  | c :: s =>
    match dropFront? mark (c :: s) with
    | some rest => some ([], rest)
    | none => (cutAround mark s).map fun (a, b) => (c :: a, b)

/-- The field of a directive, from what stands after its opening. -/
def readField (s : Text) : Option (Option Text) :=
  if (cutAround fieldOpening s).isSome then none
  else match dropFront? closingBackwards s.reverse with
    | none => none
    | some rest =>
      let name := (withoutClosings s.length rest).reverse
      some (if name.isEmpty then none else some name)

/-- What a directive is about: the beginning of a path, and perhaps a field. -/
def readTarget (s : Text) : Option (Text × Option Text) :=
  match cutAround fieldOpening s with
  | none => some (s, none)
  | some (target, rest) => (readField rest).map fun field => (target, field)

/-- Reads a directive. -/
def read (s : Text) : Option Directive :=
  match split '=' s with
  | [whole] =>
    match readDetail whole with
    | some detail => some ⟨none, none, detail⟩
    | none => some ⟨some whole, none, 5⟩
  | [about, level] => do
    let (target, field) ← readTarget about
    let detail ← readDetail level
    some ⟨some target, field, detail⟩
  | _ => none

end Directive

/-- A filter. -/
abbrev Filter := List Directive

namespace Filter

/-- The filter that shows everything up to a level. -/
def upTo (level : Level) : Filter := [⟨none, none, level.detail⟩]

/-- Reads a filter. -/
def read (s : Text) : Option Filter := (split ',' s).mapM Directive.read

/-- The more particular one of two directives, the second if they are equally particular. -/
def better (best : Option Directive) (d : Directive) : Option Directive :=
  match best with
  | none => some d
  | some b => if b.rank ≤ d.rank then some d else some b

/-- The directive that decides about an entry. -/
def decisive (filter : Filter) (entry : Entry) : Option Directive :=
  (List.filter (fun d : Directive => d.covers entry) filter).foldl better none

/-- Whether an entry is shown. -/
def shows (filter : Filter) (entry : Entry) : Bool :=
  match filter.decisive entry with
  | some d => entry.level.detail ≤ d.detail
  | none => false

/-- A chosen directive is the one it began with or one of those gone through. -/
theorem mem_of_foldl_better {d : Directive} (list : List Directive) (best : Option Directive)
    (h : list.foldl better best = some d) : best = some d ∨ d ∈ list := by
  induction list generalizing best with
  | nil => exact .inl h
  | cons e list ih =>
    rcases ih _ h with hbest | hmem
    · cases best with
      | none => cases hbest; exact .inr List.mem_cons_self
      | some b =>
        unfold better at hbest
        simp only at hbest
        split at hbest
        · cases hbest; exact .inr List.mem_cons_self
        · exact .inl hbest
    · exact .inr (List.mem_cons_of_mem _ hmem)

/-- The directive that decides about an entry is in the filter, and the entry falls under it. -/
theorem covers_of_decisive {filter : Filter} {entry : Entry} {d : Directive}
    (h : filter.decisive entry = some d) : d ∈ filter ∧ d.covers entry = true := by
  rcases mem_of_foldl_better _ _ h with hnone | hmem
  · cases hnone
  · exact List.mem_filter.1 hmem

/-- A filter up to a level shows exactly the entries up to that level. -/
theorem shows_upTo (level : Level) (entry : Entry) :
    (upTo level).shows entry = decide (entry.level.detail ≤ level.detail) := by
  simp [shows, decisive, upTo, Directive.covers, better]

end Filter

end TestWatch
