-- White space inside plain and quoted texts. Blanks within a line stay as
-- they are; one line break between two lines of text becomes a space, and of
-- more than one the first is dropped.
import Verdict.Yaml.Cursor

namespace Verdict.Yaml

/-- The white space read since the last character of text. -/
inductive Gap where
  | none
  /-- Blanks on the line of the text before. -/
  | blanks (blanks : List Char)
  /-- The first line break and those after it. Where a backslash escapes the
  break at the end of a line, there is no first one. -/
  | breaks (first : Option Char) (more : List Char)
  deriving DecidableEq, Repr

/-- The gap and one more blank. Blanks after a line break are indentation. -/
def Gap.blank (gap : Gap) (c : Char) : Gap :=
  match gap with
  | .none => .blanks [c]
  | .blanks cs => .blanks (cs ++ [c])
  | .breaks first more => .breaks first more

/-- The gap and one more line break. Blanks at the end of a line are dropped. -/
def Gap.newline (gap : Gap) (c : Char) : Gap :=
  match gap with
  | .none => .breaks (some (keptBreak c)) []
  | .blanks _ => .breaks (some (keptBreak c)) []
  | .breaks first more => .breaks first (more ++ [keptBreak c])

/-- A line break is part of the gap. -/
def Gap.hasBreak : Gap → Bool
  | .breaks _ _ => true
  | _ => false

/-- What a gap leaves between the texts around it. -/
def Gap.text : Gap → List Char
  | .none => []
  | .blanks cs => cs
  | .breaks (some '\n') [] => [' ']
  | .breaks (some '\n') more => more
  | .breaks first more => first.toList ++ more

end Verdict.Yaml
