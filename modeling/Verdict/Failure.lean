-- A failed assertion: what was checked, what the user wrote about it, and
-- what the probe of a query found. Main statement: the displayed text starts
-- with the trimmed body if there is one, and always holds the detail.
import Verdict.Text.Blank

namespace Verdict

/-- Which of the two kinds of expression an assertion checks. -/
inductive Mode where
  /-- A boolean expression. -/
  | test
  /-- A path query. -/
  | xpath
  deriving DecidableEq, Repr

/-- The name of a mode in scripts and messages. -/
def Mode.name : Mode → String
  | .test => "test"
  | .xpath => "xpath"

/-- What the probe of a failed query found. -/
inductive Diagnostic where
  /-- The probe has this value. -/
  | found (probe value : String)
  /-- The probe could not be compiled or has no value. -/
  | unavailable (probe : String)
  deriving DecidableEq, Repr

/-- The text that was probed. -/
def Diagnostic.probe : Diagnostic → String
  | .found probe _ => probe
  | .unavailable probe => probe

/-- The value found, if there is one. -/
def Diagnostic.value? : Diagnostic → Option String
  | .found _ value => some value
  | .unavailable _ => none

/-- An assertion whose expression is false. -/
structure Failure where
  mode : Mode
  /-- The text of the expression, word for word. -/
  expression : String
  /-- What the user wrote about a failure, untrimmed; may be empty. -/
  body : String
  /-- Only a query has one, and only if its probe is another text. -/
  diagnostic : Option Diagnostic
  deriving DecidableEq, Repr

/-! ## Texts of a failure -/

/-- Stands for the value of a probe without one. -/
def cannotEvaluate : String := "cannot evaluate as string"

/-- What the diagnostic adds to the detail. -/
def Failure.finding (f : Failure) : String :=
  match f.diagnostic with
  | some (.found _ value) => " => \"" ++ value ++ "\""
  | some (.unavailable _) => " (" ++ cannotEvaluate ++ ")"
  | none => ""

/-- The failure without the words of the user. -/
def Failure.detail (f : Failure) : String :=
  "evaluating " ++ f.mode.name ++ ": " ++ f.expression ++ f.finding

/-- The failure as it is shown: the trimmed body and the detail behind it, or
the detail alone. -/
def Failure.display (f : Failure) : String :=
  let body := Text.trim f.body
  if body = "" then f.detail else body ++ " (" ++ f.detail ++ ")"

/-- The line that a sink gets, if there is a diagnostic. It names the
expression if the probe has a value, and the probe if it has none. -/
def Failure.sinkLine? (f : Failure) : Option String :=
  f.diagnostic.map fun
    | .found _ value => "**test:assert failed " ++ f.expression ++ " => \"" ++ value ++ "\""
    | .unavailable probe => "**test:assert failed " ++ probe ++ " " ++ cannotEvaluate

theorem Failure.display_of_blank {f : Failure} (h : Text.trim f.body = "") :
    f.display = f.detail := by
  simp [Failure.display, h]

theorem Failure.display_of_body {f : Failure} (h : Text.trim f.body ≠ "") :
    f.display = Text.trim f.body ++ " (" ++ f.detail ++ ")" := by
  simp [Failure.display, h]

end Verdict
