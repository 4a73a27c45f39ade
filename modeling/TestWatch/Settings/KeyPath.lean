import TestWatch.Settings.Tree
import TestWatch.Text.Numeral

/-!
# Key paths

A key at the top of a file is read as a path into the settings: a name, then names after dots and
indices in brackets.  A key that is no such path stands for itself.
-/

namespace TestWatch

open Text

namespace KeyPath

/-- A character of a name. -/
def isNameChar (c : Char) : Bool :=
  isDigit c || ('a' ≤ c && c ≤ 'z') || ('A' ≤ c && c ≤ 'Z') || c == '_' || c == '-'

/-- A blank that can stand beside an index. -/
def isIndexBlank (c : Char) : Bool := c == ' ' || c == '\t'

/-- Reads a name. -/
def readName (s : Text) : Option (Text × Text) :=
  let name := s.takeWhile isNameChar
  if name.isEmpty then none else some (name, s.dropWhile isNameChar)

/-- The index that digits give, with a minus sign before them or without. -/
def indexOf (s : Text) : Option Int :=
  if s.head? = some '+' then none else (readInt64 s).toOption

/-- Reads an index, after its opening bracket. -/
def readIndex (s : Text) : Option (Int × Text) := do
  let (inner, rest) ← cutAt ']' s
  let bare := ((inner.dropWhile isIndexBlank).reverse.dropWhile isIndexBlank).reverse
  let index ← indexOf bare
  some (index, rest)

/-- Reads the steps after the first name; every step takes two characters at least. -/
def readSteps : (fuel : Nat) → Text → Option (List Tree.Step)
  | _, [] => some []
  | 0, _ => none
  | fuel + 1, '.' :: s => do
    let (name, rest) ← readName s
    let steps ← readSteps fuel rest
    some (.key name :: steps)
  | fuel + 1, '[' :: s => do
    let (index, rest) ← readIndex s
    let steps ← readSteps fuel rest
    some (.index index :: steps)
  | _ + 1, _ => none

/-- The steps that a key stands for. -/
def steps (key : Text) : List Tree.Step :=
  let read := do
    let (name, rest) ← readName key
    let steps ← readSteps rest.length rest
    some (Tree.Step.key name :: steps)
  read.getD [.key key]

example : steps "x[-1].y".toList = [.key "x".toList, .index (-1), .key "y".toList] := by rfl

example : steps "a b".toList = [.key "a b".toList] := by rfl

end KeyPath

/-- Sets what a file holds over the settings, key by key. -/
def Tree.setAll (rows : Keyed Tree) (settings : Tree) : Tree :=
  rows.foldl (fun settings row => settings.change row.2.overlay (KeyPath.steps row.1)) settings

end TestWatch
