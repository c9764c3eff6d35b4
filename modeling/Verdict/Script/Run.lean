-- Running a script: each assertion is compiled by the host and evaluated on
-- its own, in order, and every one of them is reported.
import Verdict.Script

namespace Verdict

/-- How a host reads the texts of scripts. -/
structure Language (m : Type → Type) (C E Q V N : Type) extends Engine m C E Q V N where
  /-- An expression from its text. -/
  compileExpression : String → m (Except EvalError E)
  /-- A query from its text, with the bindings of the host attached. -/
  compileQuery : String → m (Except EvalError Q)

/-- How one assertion of a script came out. -/
inductive Outcome where
  | pass
  /-- The expression is false. -/
  | fail (reason : String)
  /-- The assertion could not be evaluated. -/
  | error (reason : String)
  deriving DecidableEq, Repr

/-- The outcome of an evaluation. -/
def Outcome.ofResult : Except AssertError Unit → Outcome
  | .ok () => .pass
  | .error (.failed failure) => .fail failure.display
  | .error e => .error e.message

def Outcome.name : Outcome → String
  | .pass => "pass"
  | .fail _ => "fail"
  | .error _ => "error"

/-- Why an assertion did not pass. -/
def Outcome.reason? : Outcome → Option String
  | .pass => none
  | .fail reason => some reason
  | .error reason => some reason

/-- The results of a run, each under the description of its assertion, and the
trail of the run. -/
structure Run where
  results : List (String × Outcome)
  trail : Trail
  deriving DecidableEq, Repr

namespace Language

variable {m : Type → Type} [Monad m] {C E Q V N : Type}

/-- The expression of an assertion, compiled. The error is the reason why it
cannot be. -/
def compileSpec (language : Language m C E Q V N) :
    Spec String String → m (Except String (Spec E Q))
  | .test text => do
    match ← language.compileExpression text with
    | .ok expression => return .ok (.test expression)
    | .error e => return .error ("cannot compile test '" ++ text ++ "': " ++ e.message)
  | .xpath text => do
    match ← language.compileQuery text with
    | .ok query => return .ok (.xpath query)
    | .error e => return .error ("cannot compile xpath '" ++ text ++ "': " ++ e.message)

/-- The outcome of one assertion, and its trail. -/
def runAssertion (language : Language m C E Q V N) (sink : Sink) (context : C)
    (assertion : Script.Assertion) : m (Outcome × Trail) := do
  match assertion.spec with
  | .error e => return (.error e.message, {})
  | .ok spec =>
    match ← language.compileSpec spec with
    | .error reason => return (.error reason, {})
    | .ok spec =>
      let evaluation ← language.evaluate ⟨sink⟩ (some spec) context assertion.message
      return (.ofResult evaluation.result, evaluation.trail)

/-- The results of a list of assertions, and the trails of all. -/
def runAll (language : Language m C E Q V N) (sink : Sink) (context : C) :
    List Script.Assertion → m Run
  | [] => return ⟨[], {}⟩
  | assertion :: assertions => do
    let (outcome, trail) ← language.runAssertion sink context assertion
    let others ← language.runAll sink context assertions
    return ⟨(assertion.description, outcome) :: others.results, trail ++ others.trail⟩

/-- The run of a script: one event for the whole, then the assertions. -/
def runScript (language : Language m C E Q V N) (sink : Sink) (context : C)
    (script : Script) : m Run := do
  let run ← language.runAll sink context script.assertions
  return { run with
    trail := .ofEvents [.running script.name script.assertions.length] ++ run.trail }

end Language

end Verdict
