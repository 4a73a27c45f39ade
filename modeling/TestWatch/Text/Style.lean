import TestWatch.Text.Basic

/-!
# Styled text

Text in pieces, each with a style or without one.  Shown plainly the styles are left out; shown in
color a styled piece stands between the sequence that turns its style on and a reset.

`erase` takes such sequences out of a text again: what it leaves of a colored showing is the plain
one (`erase_colored`), as long as the pieces themselves hold no escape character.
-/

namespace TestWatch

namespace Text

/-- The styles in use. -/
inductive Style where
  /-- Bold magenta. -/
  | title
  /-- Blue. -/
  | count
  /-- Green. -/
  | pass
  /-- Red. -/
  | fail
  /-- Bold cyan. -/
  | heading
  /-- Bold red. -/
  | error
  /-- Bold yellow. -/
  | warning
  /-- Bold green. -/
  | info
  /-- Bold. -/
  | bold
  /-- Faint. -/
  | faint
  deriving DecidableEq, Repr

/-- The codes that turn a style on. -/
def Style.codes : Style → Text
  | .title => "35;1".toList
  | .count => "34".toList
  | .pass => "32".toList
  | .fail => "31".toList
  | .heading => "36;1".toList
  | .error => "31;1".toList
  | .warning => "33;1".toList
  | .info => "32;1".toList
  | .bold => "1".toList
  | .faint => "2".toList

/-- The escape character. -/
def esc : Char := '\x1b'

/-- The sequence that turns a style on. -/
def Style.opening (style : Style) : Text := esc :: '[' :: style.codes ++ ['m']

/-- The sequence that turns every style off. -/
def reset : Text := [esc, '[', '0', 'm']

/-- A piece of text, styled or not. -/
structure Piece where
  /-- The style, if there is one. -/
  style : Option Style
  /-- The text itself. -/
  text : Text
  deriving DecidableEq, Repr

/-- A text in pieces. -/
abbrev Styled := List Piece

/-- A piece without a style. -/
def plainly (text : Text) : Piece := ⟨none, text⟩

/-- A piece in a style. -/
def Style.of (style : Style) (text : Text) : Piece := ⟨some style, text⟩

/-- A piece as it is shown. -/
def Piece.shown (color : Bool) (piece : Piece) : Text :=
  match piece.style with
  | none => piece.text
  | some style => if color then style.opening ++ piece.text ++ reset else piece.text

/-- A styled text as it is shown, in color or plainly. -/
def Styled.shown (color : Bool) (s : Styled) : Text := s.flatMap (Piece.shown color)

/-! ## Taking the styles out again

A machine reads one character at a time and holds back what may turn out to be a styling sequence:
an escape character, an opening bracket, digits and semicolons, up to the `m` that ends it. -/

/-- What a character leads to when nothing is held back: what is let through, and what is held. -/
def eraseFirst (c : Char) : Text × Text := if c = esc then ([], [esc]) else ([c], [])

/-- What a character leads to when `held` is held back. -/
def eraseStep (held : Text) (c : Char) : Text × Text :=
  let giveUp := (held ++ (eraseFirst c).1, (eraseFirst c).2)
  match held with
  | [] => eraseFirst c
  | [_] => if c = '[' then ([], held ++ [c]) else giveUp
  | _ =>
    if c = 'm' then ([], [])
    else if ('0' ≤ c && c ≤ '9') || c = ';' then ([], held ++ [c])
    else giveUp

/-- The text without its styling sequences, when `held` stands before it. -/
def eraseFrom (held : Text) : Text → Text
  | [] => held
  | c :: s => (eraseStep held c).1 ++ eraseFrom (eraseStep held c).2 s

/-- The text without its styling sequences. -/
def erase (s : Text) : Text := eraseFrom [] s

/-- An ordinary beginning is left alone. -/
theorem erase_append {a : Text} (h : esc ∉ a) (b : Text) : erase (a ++ b) = a ++ erase b := by
  induction a with
  | nil => rfl
  | cons c a ih =>
    simp only [List.mem_cons, not_or] at h
    have : eraseStep [] c = ([c], []) := if_neg (Ne.symm h.1)
    have ih := ih h.2
    simp only [erase] at ih ⊢
    rw [List.cons_append, eraseFrom, this, ih]; rfl

/-- The sequence that opens a style is taken out. -/
theorem erase_opening (style : Style) (b : Text) : erase (style.opening ++ b) = erase b := by
  cases style <;> rfl

/-- A reset is taken out. -/
theorem erase_reset (b : Text) : erase (reset ++ b) = erase b := rfl

/-- Taking the styles out of the colored showing gives the plain one. -/
theorem erase_colored {s : Styled} (h : ∀ piece ∈ s, esc ∉ piece.text) :
    erase (s.shown true) = s.shown false := by
  induction s with
  | nil => rfl
  | cons piece s ih =>
    have hp := h piece List.mem_cons_self
    have hs := ih fun p hp => h p (List.mem_cons_of_mem _ hp)
    simp only [Styled.shown, List.flatMap_cons] at hs ⊢
    cases hstyle : piece.style with
    | none => simp only [Piece.shown, hstyle]; rw [erase_append hp, hs]
    | some style =>
      simp only [Piece.shown, hstyle, if_true, Bool.false_eq_true, if_false]
      rw [List.append_assoc, List.append_assoc, erase_opening, erase_append hp, erase_reset, hs]

end Text

end TestWatch
