-- The reporter turns a failure into the error of the assertion, and sends the
-- line of its diagnostic to a sink first. Main statement: there is one snapshot
-- of the lines in memory after each step.
import Verdict.Fault
import Verdict.Sink

namespace Verdict

/-- Raises failures; the lines of their diagnostics go to the sink. -/
structure Reporter where
  sink : Sink := .discard
  deriving DecidableEq, Repr

/-- How a reporter shows itself; its sink stays hidden. -/
def Reporter.shown (_ : Reporter) : String := "FailureReporter \x7b .. \x7d"

/-- The trail of raising a failure: its sink line, and the event that it
failed. -/
def Reporter.trail (r : Reporter) (f : Failure) : Trail :=
  let line :=
    match f.sinkLine? with
    | some line => r.sink.emit line
    | none => {}
  line ++ .ofEvents [.failed f.mode f.expression]

/-- Makes a failure the error of its assertion. -/
def Reporter.raise (r : Reporter) (f : Failure) : AssertError × Trail :=
  (.failed f, r.trail f)

/-! ## A reporter and a memory sink over time -/

/-- Something done with a reporter, or with the memory sink beside it. -/
inductive Reporter.Step where
  /-- A line handed to the memory sink. -/
  | emit (line : String)
  /-- The reporter is asked to show itself. -/
  | inspect
  /-- A failure is raised. -/
  | raise (failure : Failure)
  deriving DecidableEq, Repr

/-- The trail of one step. -/
def Reporter.stepTrail (r : Reporter) : Reporter.Step → Trail
  | .emit line => Sink.memory.emit line
  | .inspect => {}
  | .raise failure => r.trail failure

/-- The trails of a list of steps, one for each. -/
def Reporter.trails (r : Reporter) (steps : List Reporter.Step) : List Trail :=
  steps.map r.stepTrail

/-- The lines in memory after each of some steps that start with `lines` in
memory. -/
def Reporter.snapshots (r : Reporter) : List String → List Reporter.Step → List (List String)
  | _, [] => []
  | lines, step :: steps =>
    let lines := lines ++ (r.stepTrail step).kept
    lines :: r.snapshots lines steps

theorem Reporter.length_snapshots (r : Reporter) (lines : List String)
    (steps : List Reporter.Step) : (r.snapshots lines steps).length = steps.length := by
  induction steps generalizing lines with
  | nil => rfl
  | cons step steps ih => simp [Reporter.snapshots, ih]

end Verdict
