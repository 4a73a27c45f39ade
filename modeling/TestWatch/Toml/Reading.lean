import TestWatch.Toml.Scalar

/-!
# Reading TOML

A document is read line by line: a header begins a table, a key with a value adds to the table that
is being read.  Each reader takes what it needs off the front of a text and says what is left.

Arrays and tables in braces may stand in each other to a depth of eighty; that depth is what the
reading of values recurs on.  Keys of a table in braces may be spread over lines, and a comma may
follow the last one.
-/

namespace TestWatch

namespace Toml

open Text

/-! ## Blanks, comments and line ends -/

/-- A blank within a line. -/
def isGap (c : Char) : Bool := c == ' ' || c == '\t'

/-- A blank or a line end. -/
def isLayout (c : Char) : Bool := isGap c || c == '\n' || c == '\r'

/-- A character that can stand in a comment, and in a string as it is. -/
def isPrintable (c : Char) : Bool := c == '\t' || (0x20 ≤ c.toNat && c.toNat ≠ 0x7F)

/-- The text after the blanks in front. -/
def skipGap (s : Text) : Text := s.dropWhile isGap

/-- The text after a comment, up to the line end; no control character can stand in a comment. -/
def skipComment : Text → Option Text
  | [] => some []
  | c :: s =>
    if c = '\n' || c = '\r' then some (c :: s) else if isPrintable c then skipComment s else none

/-- The text after the blanks, line ends and comments in front. -/
def skipLayout : (comment : Bool) → Text → Option Text
  | _, [] => some []
  | true, c :: s =>
    if c = '\n' then skipLayout false s
    else if isPrintable c || c = '\r' then skipLayout true s
    else none
  | false, c :: s =>
    if isLayout c then skipLayout false s
    else if c = '#' then skipLayout true s
    else some (c :: s)

/-- The text after the end of a line, blanks and a comment before it included. -/
def endLine (s : Text) : Option Text := do
  let rest ← match skipGap s with
    | '#' :: comment => skipComment comment
    | rest => some rest
  match rest with
  | [] => some []
  | '\n' :: rest => some rest
  | '\r' :: '\n' :: rest => some rest
  | _ => none

/-- Whether every carriage return stands before a newline. -/
def pairedReturns : Text → Bool
  | [] => true
  | '\r' :: s => s.head? == some '\n' && pairedReturns s
  | _ :: s => pairedReturns s

/-! ## Strings -/

/-- Where the reading of an escape in a string stands. -/
inductive Escape where
  /-- A backslash has been read. -/
  | begun
  /-- A number has been begun, of which so many digits are owed. -/
  | number (owed : Nat) (bits : Nat)
  /-- A line is being left out; `ended` tells whether its end has come. -/
  | omitted (ended : Bool)
  deriving DecidableEq, Repr

/-- The character with a number, if there is one. -/
def scalar? (n : Nat) : Option Char := if n.isValidChar then some (Char.ofNat n) else none

/-- Goes on leaving out blanks and line ends, as long as the text before `rest` and `rest` itself
begin with them; there must have been a line end among them. -/
def omitOn (ended : Bool) (rest : Text) : Option (Option Escape) :=
  if (rest.head?.map isLayout).getD false then some (some (.omitted ended))
  else if ended then some none
  else none

/-- Reads a character of an escape: the text that it completes, and where the reading stands.
`long` tells whether the string can have several lines. -/
def escapeStep (long : Bool) (rest : Text) : Escape → Char → Option (Text × Option Escape)
  | .begun, c =>
    if c = 'b' then some (['\x08'], none)
    else if c = 't' then some (['\t'], none)
    else if c = 'n' then some (['\n'], none)
    else if c = 'f' then some (['\x0c'], none)
    else if c = 'r' then some (['\r'], none)
    else if c = 'e' then some (['\x1b'], none)
    else if c = '"' then some (['"'], none)
    else if c = '\\' then some (['\\'], none)
    else if c = 'x' then some ([], some (.number 2 0))
    else if c = 'u' then some ([], some (.number 4 0))
    else if c = 'U' then some ([], some (.number 8 0))
    else if long && isLayout c then (omitOn (c == '\n') rest).map fun next => ([], next)
    else none
  | .number owed bits, c => do
    let digit ← baseDigit? c
    let bits := 16 * bits + digit
    if owed ≤ 1 then
      let made ← scalar? bits
      some ([made], none)
    else some ([], some (.number (owed - 1) bits))
  | .omitted ended, c => (omitOn (ended || c == '\n') rest).map fun next => ([], next)

/-- Reads a string on one line, after its opening quote. -/
def readQuoted : Option Escape → Text → Option (Text × Text)
  | _, [] => none
  | some escape, c :: s => do
    let (made, next) ← escapeStep false s escape c
    let (more, rest) ← readQuoted next s
    some (made ++ more, rest)
  | none, c :: s =>
    if c = '"' then some ([], s)
    else if c = '\\' then readQuoted (some .begun) s
    else if isPrintable c then (readQuoted none s).map fun (more, rest) => (c :: more, rest)
    else none

/-- The quotes that belong to a string of several lines although they stand after three others, and
the text after them. -/
def lastQuotes (quote : Char) (s : Text) : Text × Text :=
  let quotes := (s.takeWhile (· == quote)).take 2
  (quotes, s.drop quotes.length)

/-- A character that can stand in a string of several lines as it is. -/
def isLongPart (c : Char) : Bool := isPrintable c || c == '\n' || c == '\r'

/-- Reads a string of several lines, after its opening quotes. -/
def readLongQuoted : Option Escape → Text → Option (Text × Text)
  | _, [] => none
  | some escape, c :: s => do
    let (made, next) ← escapeStep true s escape c
    let (more, rest) ← readLongQuoted next s
    some (made ++ more, rest)
  | none, c :: s =>
    if ['"', '"', '"'].isPrefixOf (c :: s) then some (lastQuotes '"' (s.drop 2))
    else if c = '\\' then readLongQuoted (some .begun) s
    else if isLongPart c then (readLongQuoted none s).map fun (more, rest) => (c :: more, rest)
    else none

/-- Reads a literal string on one line, after its opening quote. -/
def readLiteral : Text → Option (Text × Text)
  | [] => none
  | c :: s =>
    if c = '\'' then some ([], s)
    else if isPrintable c then (readLiteral s).map fun (more, rest) => (c :: more, rest)
    else none

/-- Reads a literal string of several lines, after its opening quotes. -/
def readLongLiteral : Text → Option (Text × Text)
  | [] => none
  | c :: s =>
    if ['\'', '\'', '\''].isPrefixOf (c :: s) then some (lastQuotes '\'' (s.drop 2))
    else if isLongPart c then (readLongLiteral s).map fun (more, rest) => (c :: more, rest)
    else none

/-- The text without the line end that it starts with. -/
def dropLineEnd : Text → Text
  | '\n' :: s => s
  | '\r' :: '\n' :: s => s
  | s => s

/-- Reads a string of either kind, if one comes next. -/
def readString (s : Text) : Option (Text × Text) :=
  match dropFront? ['"', '"', '"'] s with
  | some rest => readLongQuoted none (dropLineEnd rest)
  | none =>
    match dropFront? ['\'', '\'', '\''] s with
    | some rest => readLongLiteral (dropLineEnd rest)
    | none =>
      match s with
      | '"' :: rest => readQuoted none rest
      | '\'' :: rest => readLiteral rest
      | _ => none

/-! ## Keys -/

/-- A character of a bare key. -/
def isKeyChar (c : Char) : Bool :=
  isDigit c || ('a' ≤ c && c ≤ 'z') || ('A' ≤ c && c ≤ 'Z') || c == '_' || c == '-'

/-- Reads a key without dots. -/
def readSimpleKey : Text → Option (Text × Text)
  | '"' :: rest => readQuoted none rest
  | '\'' :: rest => readLiteral rest
  | s =>
    let key := s.takeWhile isKeyChar
    if key.isEmpty then none else some (key, s.dropWhile isKeyChar)

/-- Reads the parts of a key, and the blanks around them. -/
def readKeyParts : (fuel : Nat) → Text → Option (List Text × Text)
  | 0, _ => none
  | fuel + 1, s => do
    let (part, rest) ← readSimpleKey (skipGap s)
    match skipGap rest with
    | '.' :: rest =>
      let (parts, rest) ← readKeyParts fuel rest
      some (part :: parts, rest)
    | rest => some ([part], rest)

/-- A key: the parts that lead to its table, and its last part. -/
structure Key where
  /-- The parts that lead to the table. -/
  path : List Text
  /-- The last part. -/
  last : Text

/-- Reads a key, and the blanks around it. -/
def readKey (s : Text) : Option (Key × Text) := do
  let (parts, rest) ← readKeyParts s.length s
  let last ← parts.getLast?
  some (⟨parts.dropLast, last⟩, rest)

/-! ## Values -/

/-- A reader of values. -/
abbrev ValueReader := Text → Option (Value × Text)

/-- Reads the items of an array, after its opening bracket.  Every item takes a character at least,
so that the length of the text is fuel enough. -/
def readItems (readItem : ValueReader) : (fuel : Nat) → Text → Option (List Value × Text)
  | 0, _ => none
  | fuel + 1, s => do
    match ← skipLayout false s with
    | ']' :: rest => some ([], rest)
    | s =>
      let (item, rest) ← readItem s
      match ← skipLayout false rest with
      | ',' :: rest =>
        let (items, rest) ← readItems readItem fuel rest
        some (item :: items, rest)
      | ']' :: rest => some ([item], rest)
      | _ => none

/-- Reads the rows of a table in braces into it, after its opening brace. -/
def readRows (readItem : ValueReader) : (fuel : Nat) → Table → Text → Option (Table × Text)
  | 0, _, _ => none
  | fuel + 1, t, s => do
    match ← skipLayout false s with
    | '\x7d' :: rest => some (t, rest)
    | s =>
      let (key, rest) ← readKey s
      match rest with
      | '=' :: rest =>
        let (value, rest) ← readItem (skipGap rest)
        let t ← t.addAt key.path key.last value
        match ← skipLayout false rest with
        | ',' :: rest => readRows readItem fuel t rest
        | '\x7d' :: rest => some (t, rest)
        | _ => none
      | _ => none

/-- A character of a bare value. -/
def isBareChar (c : Char) : Bool := !isLayout c && !"=,[]\x7b\x7d#\"'".toList.contains c

/-- Reads a bare value.  A date and the time after it may have a blank between them. -/
def readBareValue (s : Text) : Option (Value × Text) :=
  let bare := s.takeWhile isBareChar
  let rest := s.dropWhile isBareChar
  match readDate bare, rest with
  | some (_, []), ' ' :: c :: more =>
    if isDigit c then
      (readBare (bare ++ ' ' :: (c :: more).takeWhile isBareChar)).map fun value =>
        (value, (c :: more).dropWhile isBareChar)
    else (readBare bare).map fun value => (value, rest)
  | _, _ => (readBare bare).map fun value => (value, rest)

/-- Reads a string or a bare value. -/
def readFlat (s : Text) : Option (Value × Text) :=
  match s with
  | '"' :: _ | '\'' :: _ => (readString s).map fun (text, rest) => (.text text, rest)
  | _ => readBareValue s

/-- Reads a value in which arrays and tables in braces stand in each other to a depth at most. -/
def readValue : (depth : Nat) → ValueReader
  | 0, s => readFlat s
  | depth + 1, s =>
    match s with
    | '[' :: rest =>
      (readItems (readValue depth) s.length rest).map fun (items, rest) => (.list false items, rest)
    | '\x7b' :: rest =>
      (readRows (readValue depth) s.length (.empty .closed) rest).map fun (t, rest) =>
        (t.toValue, rest)
    | _ => readFlat s

/-- The depth to which arrays and tables in braces may stand in each other. -/
def depthLimit : Nat := 80

/-! ## Documents -/

/-- Reads a header, after its opening bracket, up to the end of its line. -/
def readHeader (s : Text) : Option (Header × Text) :=
  match s with
  | '[' :: s => do
    let (key, rest) ← readKey s
    match rest with
    | ']' :: ']' :: rest => some (⟨true, key.path, key.last⟩, ← endLine rest)
    | _ => none
  | s => do
    let (key, rest) ← readKey s
    match rest with
    | ']' :: rest => some (⟨false, key.path, key.last⟩, ← endLine rest)
    | _ => none

/-- Reads a line that is neither blank nor a comment. -/
def readLine (d : Draft) (s : Text) : Option (Draft × Text) :=
  match s with
  | '[' :: s => do
    let (header, rest) ← readHeader s
    some (← d.begin_ header, rest)
  | s => do
    let (key, rest) ← readKey s
    match rest with
    | '=' :: rest =>
      let (value, rest) ← readValue depthLimit (skipGap rest)
      let rest ← endLine rest
      some (← d.add key.path key.last value, rest)
    | _ => none

/-- Reads lines; every one of them takes a character at least. -/
def readLines : (fuel : Nat) → Draft → Text → Option Draft
  | 0, d, _ => some d
  | fuel + 1, d, s => do
    match ← skipLayout false s with
    | [] => some d
    | s =>
      let (d, rest) ← readLine d s
      readLines fuel d rest

/-- The rows of the document that a text is. -/
def read (s : Text) : Option (Keyed Value) := do
  let s := (dropFront? ['\uFEFF'] s).getD s
  if !pairedReturns s then none
  let d ← readLines s.length .start s
  let t ← d.finish
  some t.rows

end Toml

end TestWatch
