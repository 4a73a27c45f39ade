import TestWatch.Settings.Tree
import TestWatch.TimeSpan.Reading

/-!
# Fields of settings

What the settings are made of is read from a tree: texts, spans of time, and rates.  A value need
not be written in the form that is wanted; every single value can be taken as a text, and many as a
number.  What cannot be taken is refused with the key that it stands under.
-/

namespace TestWatch

open Text

/-- Why a value was refused. -/
inductive ValueFault where
  /-- A value is not what is wanted; the file is named if the value itself belongs to one. -/
  | refused (wording : Text) (origin : Option Text)
  /-- There is no value. -/
  | absent
  deriving DecidableEq, Repr

/-- The refusal of the value under a key. -/
structure ValueError where
  /-- The key. -/
  key : Text
  /-- The reason. -/
  fault : ValueFault
  deriving DecidableEq, Repr

/-- The wording of a refusal. -/
def ValueError.message (e : ValueError) : Text :=
  match e.fault with
  | .absent => "missing configuration field ".toList ++ quoted e.key
  | .refused wording origin =>
    wording ++ " for key `".toList ++ e.key ++ "`".toList
      ++ match origin with
        | none => []
        | some file => " in ".toList ++ file

/-- The refusal under a key that a table or list holds, seen from where that stands itself. -/
def ValueError.under (outer : Text) (e : ValueError) : ValueError :=
  { e with
    key :=
      if e.key.isEmpty then outer
      else if e.key.head? = some '[' then outer ++ e.key
      else outer ++ '.' :: e.key }

/-! ## Single values -/

/-- A truth value in words. -/
def boolText (b : Bool) : Text := if b then "true".toList else "false".toList

/-- A value that was found, in the words of a refusal. -/
def foundTree : Tree → Text
  | .leaf _ .nothing => "unit value".toList
  | .leaf _ (.bool b) => "boolean `".toList ++ boolText b ++ "`".toList
  | .leaf _ (.int n) => "64-bit integer `".toList ++ decimalInt n ++ "`".toList
  | .leaf _ (.float x) => "floating point `".toList ++ x.written ++ "`".toList
  | .leaf _ (.text s) => "string ".toList ++ quoted s
  | .list _ _ => "sequence".toList
  | .table _ _ => "map".toList

/-- The file that a tree belongs to. -/
def Tree.origin : Tree → Option Text
  | .leaf origin _ | .list origin _ | .table origin _ => origin

/-- The refusal of a tree where something else is wanted. -/
def refuse (t : Tree) (wanted : String) : ValueFault :=
  .refused ("invalid type: ".toList ++ foundTree t ++ ", expected ".toList ++ wanted.toList) t.origin

/-- A value taken as a text. -/
def asText : Tree → Except ValueFault Text
  | .leaf _ (.text s) => .ok s
  | .leaf _ (.bool b) => .ok (boolText b)
  | .leaf _ (.int n) => .ok (decimalInt n)
  | .leaf _ (.float x) => .ok x.written
  | t => .error (refuse t "a string")

/-- A value taken as a span of time. -/
def asSpan (t : Tree) : Except ValueFault TimeSpan := do
  let text ← asText t
  match TimeSpan.read text with
  | .ok span => .ok span
  | .error _ =>
    .error (.refused
      ("invalid value: string ".toList ++ quoted text ++ ", expected a duration".toList) none)

/-- A text with its ASCII letters in lower case. -/
def asciiLower (s : Text) : Text :=
  s.map fun c => if 'A' ≤ c && c ≤ 'Z' then Char.ofNat (c.toNat + 32) else c

/-- The number that a word for a truth value stands for. -/
def truthNumber? (s : Text) : Option Nat :=
  let word := asciiLower s
  if word = "true".toList ∨ word = "on".toList ∨ word = "yes".toList then some 1
  else if word = "false".toList ∨ word = "off".toList ∨ word = "no".toList then some 0
  else none

/-- A value taken as a natural number below `2 ^ 64`. -/
def asWord64 (t : Tree) : Except ValueFault Nat :=
  match t with
  | .leaf _ (.int n) =>
    if 0 ≤ n then .ok n.toNat else .error (refuse t "an unsigned 64 bit or less integer")
  | .leaf _ (.bool b) => .ok (if b then 1 else 0)
  | .leaf _ (.float x) => .ok x.toWord64
  | .leaf _ (.text s) =>
    match (truthNumber? s).or (word64? s) with
    | some n => .ok n
    | none => .error (refuse t "an integer")
  | t => .error (refuse t "an integer")

/-- A value taken as a rate, which is below `2 ^ 32`. -/
def asRate (t : Tree) : Except ValueFault Nat := do
  let n ← asWord64 t
  if n < word32 then .ok n
  else
    .error (.refused ("invalid type: 64-bit unsigned integer `".toList ++ decimal n
      ++ "`, expected an unsigned 32 bit integer".toList) none)

/-! ## Fields -/

/-- A field: its key, and how its value is read. -/
structure Field (α : Type) where
  /-- The key. -/
  key : Text
  /-- The reading of a value. -/
  read : Tree → Except ValueFault α

/-- Reads the value of a field. -/
def Field.take {α : Type} (f : Field α) (key : Text) (t : Tree) : Except ValueError α :=
  (f.read t).mapError (ValueError.mk key)

/-- Whether the value of a field can be read. -/
def Field.check {α : Type} (f : Field α) (t : Tree) : Except ValueError Unit :=
  (f.take f.key t).map fun _ => ()

/-- What a section of settings is read from: values by key, or values in the order of its
fields. -/
inductive Source where
  /-- Values by key. -/
  | rows (rows : Keyed Tree)
  /-- Values in an order. -/
  | items (items : List Tree)

/-- A section of settings. -/
structure Section where
  /-- Its key. -/
  key : Text
  /-- Its name in refusals. -/
  title : String
  /-- The keys of its fields, and whether the value of each can be read. -/
  fields : Keyed (Tree → Except ValueError Unit)

namespace Section

/-- A leaf that was found in the place of a section, in the words of a refusal. -/
def foundLeaf : Leaf → Text
  | .int n => "integer `".toList ++ decimalInt n ++ "`".toList
  | .float x =>
    let plain := match x with
      | .finite _ _ => !x.written.contains '.'
      | .infinite _ | .notANumber => false
    "floating point `".toList ++ x.written ++ (if plain then ".0".toList else []) ++ "`".toList
  | leaf => foundTree (.leaf none leaf)

/-- Reads the rows of a section in their order, for the first one that is refused; rows of no field
are passed over. -/
def checkRows (s : Section) (rows : Keyed Tree) : Except ValueError Unit :=
  rows.forM fun row =>
    match List.lookup row.1 s.fields with
    | some check => check row.2
    | none => .ok ()

/-- What the section is read from. -/
def source (s : Section) : Tree → Except ValueError Source
  | .leaf _ leaf =>
    .error ⟨[], .refused ("invalid type: ".toList ++ foundLeaf leaf ++ ", expected struct ".toList
      ++ s.title.toList) none⟩
  | .list _ items => .ok (.items items)
  | .table _ rows => (s.checkRows rows).map fun _ => .rows rows

/-- Reads the field with a number out of a section. -/
def get {α : Type} (s : Section) (source : Source) (number : Nat) (f : Field α) :
    Except ValueError α :=
  match source with
  | .rows rows =>
    match List.lookup f.key rows with
    | some t => f.take f.key t
    | none => .error ⟨f.key, .absent⟩
  | .items items =>
    match items[number]? with
    | some t => f.take ('[' :: decimal number ++ [']']) t
    | none =>
      let size := s.fields.length
      .error ⟨[], .refused ("invalid length ".toList ++ decimal number ++ ", expected struct ".toList
        ++ s.title.toList ++ " with ".toList ++ decimal size
        ++ (if size = 1 then " element".toList else " elements".toList)) none⟩

/-- The rows of a tree that stand for no field, if the tree is a table. -/
def strangers (s : Section) (t : Tree) : List Text :=
  (Keyed.keys t.rows).filter fun key => (List.lookup key s.fields).isNone

end Section

end TestWatch
