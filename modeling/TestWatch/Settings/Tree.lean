import TestWatch.Text.Quoted
import TestWatch.Toml

/-!
# Trees of settings

Settings come in layers, each a tree: tables by key, lists by index, single values at the leaves.
A tree remembers the file that it was read from.  Laying one tree over another merges tables key by
key; everything else replaces what was there, and a merged table belongs to no file.
-/

namespace TestWatch

open Text

/-- A single value. -/
inductive Leaf where
  /-- Nothing. -/
  | nothing
  /-- A truth value. -/
  | bool (truth : Bool)
  /-- An integer. -/
  | int (number : Int)
  /-- A floating-point number. -/
  | float (number : SignedBinary64)
  /-- A text. -/
  | text (text : Text)
  deriving DecidableEq, Repr

/-- A tree of settings. -/
inductive Tree where
  /-- A single value. -/
  | leaf (origin : Option Text) (leaf : Leaf)
  /-- Trees by index. -/
  | list (origin : Option Text) (items : List Tree)
  /-- Trees by key. -/
  | table (origin : Option Text) (rows : List (Text × Tree))

namespace Tree

/-- A place at which nothing has been set. -/
def nothing : Tree := .leaf none .nothing

/-- A text of no file. -/
def ofText (text : Text) : Tree := .leaf none (.text text)

/-- What the tree holds by key. -/
def rows : Tree → Keyed Tree
  | .table _ rows => rows
  | .leaf _ _ | .list _ _ => []

/-- What the tree holds by index. -/
def items : Tree → List Tree
  | .list _ items => items
  | .leaf _ _ | .table _ _ => []

/-- The file of the tree if it is a table. -/
def tableOrigin : Tree → Option Text
  | .table origin _ => origin
  | .leaf _ _ | .list _ _ => none

/-- The file of the tree if it is a list. -/
def listOrigin : Tree → Option Text
  | .list origin _ => origin
  | .leaf _ _ | .table _ _ => none

/-! ## From TOML -/

mutual

/-- A value of a document as a tree. -/
def ofValue (origin : Option Text) : Toml.Value → Tree
  | .text s => .leaf origin (.text s)
  | .int n => .leaf origin (.int n)
  | .float x => .leaf origin (.float x)
  | .bool b => .leaf origin (.bool b)
  | .moment s => .leaf origin (.text s)
  | .list _ items => .list origin (ofValues origin items)
  | .table _ rows => .table origin (ofRows origin rows)

/-- The values of an array as trees. -/
def ofValues (origin : Option Text) : List Toml.Value → List Tree
  | [] => []
  | v :: values => ofValue origin v :: ofValues origin values

/-- The values of a table as trees. -/
def ofRows (origin : Option Text) : List (Text × Toml.Value) → List (Text × Tree)
  | [] => []
  | (key, v) :: rows => (key, ofValue origin v) :: ofRows origin rows

end

/-! ## Laying over -/

mutual

/-- Lays a tree over another. -/
def overlay (upper lower : Tree) : Tree :=
  match upper with
  | .table _ rows => .table lower.tableOrigin (overlayRows rows lower.rows)
  | upper => upper

/-- Lays the rows of a table over others, one after the other. -/
def overlayRows : List (Text × Tree) → Keyed Tree → Keyed Tree
  | [], rows => rows
  | (key, upper) :: more, rows =>
    overlayRows more (Keyed.put key (overlay upper ((List.lookup key rows).getD nothing)) rows)

end

/-! ## Changing at a place -/

/-- A step from a tree to one in it. -/
inductive Step where
  /-- The tree under a key. -/
  | key (key : Text)
  /-- The tree at an index; a negative one counts from the end. -/
  | index (index : Int)
  deriving DecidableEq, Repr

/-- The items with room for an index, and the place that it stands for: nothing is added after the
items, or before them if a negative index asks for it. -/
def room (index : Int) (items : List Tree) : List Tree × Nat :=
  if 0 ≤ index then
    (items ++ List.replicate (index.toNat + 1 - items.length) nothing, index.toNat)
  else
    (List.replicate (index.natAbs - items.length) nothing ++ items, items.length - index.natAbs)

/-- Changes the tree that some steps lead to.  What is in the way, being no table or no list where
one is needed, gives way to an empty one. -/
def change (act : Tree → Tree) : List Step → Tree → Tree
  | [], t => act t
  | .key key :: steps, t =>
    let inner := change act steps ((List.lookup key t.rows).getD nothing)
    .table t.tableOrigin (Keyed.put key inner t.rows)
  | .index index :: steps, t =>
    let made := room index t.items
    let inner := change act steps ((made.1[made.2]?).getD nothing)
    .list t.listOrigin (made.1.set made.2 inner)

/-- A tree laid over a table takes a key's value from the upper one if that is no table. -/
theorem overlay_leaf (origin : Option Text) (leaf : Leaf) (lower : Tree) :
    overlay (.leaf origin leaf) lower = .leaf origin leaf := by
  rw [overlay]; intro _ _ h; cases h

end Tree

end TestWatch
