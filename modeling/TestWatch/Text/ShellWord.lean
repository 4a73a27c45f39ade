import TestWatch.Text.Basic

/-!
# Shell words

A command shown so that it could be given to a shell: words between spaces, a word in single quotes
where the shell would read it otherwise.
-/

namespace TestWatch

namespace Text

/-- A character that a shell does not take for itself. -/
def isShellSpecial (c : Char) : Bool :=
  "|&;<>()$\x60\\\"' \t\n*?[#~=%".toList.contains c

/-- A word as a shell reads it back: in single quotes if it is empty or holds a special character,
a single quote itself standing outside of them after a backslash. -/
def shellWord (word : Text) : Text :=
  if word.isEmpty || word.any isShellSpecial then
    '\'' :: word.flatMap (fun c => if c = '\'' then "'\\''".toList else [c]) ++ ['\'']
  else word

/-- The words of a command, quoted where needed. -/
def shellCommand (words : List Text) : Text := join [' '] (words.map shellWord)

example : shellCommand ["a".toList, "b c".toList, "'".toList, [], "x!y".toList]
    = "a 'b c' ''\\''' '' x!y".toList := by decide

end Text

end TestWatch
