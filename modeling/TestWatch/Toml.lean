import TestWatch.Keyed
import TestWatch.Number.Binary64

/-!
# TOML values

What a TOML document holds, and how its tables come about.  A table remembers in which form it was
given, because that decides whether something may still be added to it: a table in braces is closed,
a table with a header of its own may not be extended by dotted keys, and a table that only the keys
of others imply may be given a header once.
-/

namespace TestWatch

namespace Toml

/-- The form in which a table was given. -/
inductive Form where
  /-- With a header, or as the whole document. -/
  | headed
  /-- Implied by the header of a table in it. -/
  | implied
  /-- Implied by a dotted key. -/
  | dotted
  /-- In braces. -/
  | closed
  deriving DecidableEq, Repr

/-- A value. -/
inductive Value where
  /-- A string. -/
  | text (text : Text)
  /-- An integer. -/
  | int (number : Int)
  /-- A floating-point number. -/
  | float (number : SignedBinary64)
  /-- A truth value. -/
  | bool (truth : Bool)
  /-- A date, a time, or both, as they are written in full. -/
  | moment (text : Text)
  /-- An array; one made by the headers of its tables can be added to. -/
  | list (headed : Bool) (items : List Value)
  /-- A table. -/
  | table (form : Form) (rows : List (Text × Value))

/-- A table by itself. -/
structure Table where
  /-- The form in which it was given. -/
  form : Form
  /-- What it holds. -/
  rows : Keyed Value

namespace Table

/-- A table that holds nothing. -/
def empty (form : Form) : Table := ⟨form, []⟩

/-- The table as a value. -/
def toValue (t : Table) : Value := .table t.form t.rows

/-- Whether a key may lead through the table. -/
def admits (dotted : Bool) (t : Table) : Bool :=
  match t.form with
  | .closed => false
  | .headed => !dotted
  | .implied | .dotted => true

/-- Changes the table that keys lead to from a table, making the tables on the way if they are
missing.  An array of headed tables is entered at its last one. -/
def change (dotted : Bool) (act : Table → Option Table) : List Text → Table → Option Table
  | [], t => act t
  | key :: path, t =>
    match List.lookup key t.rows with
    | none => do
      let made ← change dotted act path (empty (if dotted then .dotted else .implied))
      some { t with rows := t.rows ++ [(key, made.toValue)] }
    | some (.table form rows) =>
      if Table.admits dotted ⟨form, rows⟩ then do
        let inner ← change dotted act path ⟨form, rows⟩
        some { t with rows := Keyed.put key inner.toValue t.rows }
      else none
    | some (.list true items) =>
      match items.getLast? with
      | some (.table form rows) =>
        if Table.admits dotted ⟨form, rows⟩ then do
          let inner ← change dotted act path ⟨form, rows⟩
          some { t with rows := Keyed.put key (.list true (items.dropLast ++ [inner.toValue])) t.rows }
        else none
      | _ => none
    | some _ => none

/-- Adds a value under a key that the table does not hold yet. -/
def addNew (key : Text) (value : Value) (t : Table) : Option Table :=
  if (List.lookup key t.rows).isSome then none
  else some { t with rows := t.rows ++ [(key, value)] }

/-- Adds a value under a key with the path that leads to its table.  A dotted key can only add to a
table that dotted keys have made. -/
def addAt (path : List Text) (key : Text) (value : Value) (t : Table) : Option Table :=
  change (!path.isEmpty)
    (fun inner =>
      if (inner.form == .dotted) == !path.isEmpty then inner.addNew key value else none) path t

end Table

/-! ## Documents -/

/-- A header. -/
structure Header where
  /-- Whether it begins a further table of an array. -/
  again : Bool
  /-- The keys that lead to the table that holds the new one. -/
  path : List Text
  /-- The key of the new table. -/
  key : Text

/-- A document of which some lines have been read. -/
structure Draft where
  /-- The document up to the last header. -/
  root : Table
  /-- The last header, if there was one. -/
  header : Option Header
  /-- What has been read since then. -/
  current : Table

namespace Draft

/-- A document of which nothing has been read. -/
def start : Draft := ⟨.empty .headed, none, .empty .headed⟩

/-- Puts a finished table where its header says. -/
def place (header : Header) (finished : Table) (parent : Table) : Option Table :=
  if header.again then
    match List.lookup header.key parent.rows with
    | none =>
      some { parent with rows := parent.rows ++ [(header.key, .list true [finished.toValue])] }
    | some (.list true items) =>
      some { parent with
        rows := Keyed.put header.key (.list true (items ++ [finished.toValue])) parent.rows }
    | some _ => none
  else parent.addNew header.key finished.toValue

/-- The document up to the last line. -/
def finish (d : Draft) : Option Table :=
  match d.header with
  | none => some d.current
  | some header => d.root.change false (place header d.current) header.path

/-- What a header finds under its key: nothing, or a table that was only implied so far. -/
def reopened (key : Text) (parent : Table) : Option Table :=
  match List.lookup key parent.rows with
  | none => some (.empty .headed)
  | some (.table .implied rows) => some ⟨.headed, rows⟩
  | some _ => none

/-- The table that keys lead to, as far as it has been made. -/
def tableAt : List Text → Table → Option Table
  | [], t => some t
  | key :: path, t =>
    match List.lookup key t.rows with
    | none => some (.empty .implied)
    | some (.table form rows) => tableAt path ⟨form, rows⟩
    | some (.list true items) =>
      match items.getLast? with
      | some (.table form rows) => tableAt path ⟨form, rows⟩
      | _ => none
    | some _ => none

/-- Begins a new table. -/
def begin_ (header : Header) (d : Draft) : Option Draft := do
  let root ← d.finish
  if header.again then some ⟨root, some header, .empty .headed⟩
  else
    let parent ← tableAt header.path root
    let current ← reopened header.key parent
    let root ← root.change false
      (fun parent => some { parent with rows := Keyed.without header.key parent.rows }) header.path
    some ⟨root, some header, current⟩

/-- Adds a value to the table that is being read. -/
def add (path : List Text) (key : Text) (value : Value) (d : Draft) : Option Draft := do
  let current ← d.current.addAt path key value
  some { d with current := current }

end Draft

end Toml

end TestWatch
