-- What `check` says about a script: a header, then for each assertion whether
-- it has exactly one expression, with the probe of a query or the reason
-- against it. Main statement: turning probes off leaves out the lines of the
-- probes and no other.
import Verdict.Display
import Verdict.Script

namespace Verdict.Check

/-- One line of the report. -/
inductive Line where
  | blank
  | header (name location : String)
  /-- The script has no assertions. -/
  | nothing
  | valid (description : String)
  | probe (text : String)
  | invalid (description : String)
  | reason (text : String)
  deriving DecidableEq, Repr

def Line.isProbe : Line → Bool
  | .probe _ => true
  | _ => false

/-- A line as it is printed. -/
def Line.text (display : Display) : Line → String
  | .blank => ""
  | .header name location => display.header name location
  | .nothing => "  (no assertions)"
  | .valid description => display.status true description
  | .probe text => display.probe text
  | .invalid description => display.status false description
  | .reason text => display.reason text

/-- The lines about an assertion. -/
def assertionLines (a : Script.Assertion) : List Line :=
  match a.spec with
  | .ok _ => .valid a.description :: a.probe.toList.map .probe
  | .error e => [.invalid a.description, .reason e.message]

/-- The lines about a script that was loaded from the given place. -/
def lines (script : Script) (location : String) : List Line :=
  [.blank, .header script.name location] ++
    if script.assertions.isEmpty then [.nothing] else script.assertions.flatMap assertionLines

/-- The lines that are shown. -/
def shown (display : Display) (ls : List Line) : List Line :=
  ls.filter fun line => display.showProbes || !line.isProbe

/-- Every assertion has exactly one expression. -/
def passes (script : Script) : Bool :=
  script.assertions.all fun a =>
    match a.spec with
    | .ok _ => true
    | .error _ => false

/-- The report as it is printed, line by line. -/
def report (display : Display) (script : Script) (location : String) : List String :=
  (shown display (lines script location)).map (Line.text display)

theorem shown_of_showProbes {display : Display} (h : display.showProbes = true)
    (ls : List Line) : shown display ls = ls := by
  simp [shown, h]

theorem shown_of_not_showProbes {display : Display} (h : display.showProbes = false)
    (ls : List Line) : shown display ls = ls.filter (!·.isProbe) := by
  simp [shown, h]

end Verdict.Check
