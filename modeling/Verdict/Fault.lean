-- What can go wrong with an assertion besides that it fails: it is not
-- configured with exactly one expression, or the host cannot evaluate it.
-- Each error is a cause; its wording is in one function.
import Verdict.Failure

namespace Verdict

/-- An assertion without exactly one expression. -/
inductive ConfigError where
  | missing
  | conflicting
  deriving DecidableEq, Repr

def ConfigError.message : ConfigError → String
  | .missing => "missing test expression: set either 'test' or 'xpath'"
  | .conflicting =>
    "conflicting test expressions: 'test' and 'xpath' are mutually exclusive"

/-- An error of the host's evaluators, with the messages of the errors that
caused it, the nearest first. -/
structure EvalError where
  message : String
  sources : List String
  deriving DecidableEq, Repr

/-- An error without a further cause. -/
def EvalError.plain (message : String) : EvalError := ⟨message, []⟩

/-- What an evaluation ends with unless the assertion holds. -/
inductive AssertError where
  /-- There is not exactly one expression. -/
  | configuration (cause : ConfigError)
  /-- The host could not evaluate the expression. -/
  | evaluation (mode : Mode) (expression : String) (source : EvalError)
  /-- The expression is false. -/
  | failed (failure : Failure)
  deriving DecidableEq, Repr

def AssertError.message : AssertError → String
  | .configuration cause => cause.message
  | .evaluation mode expression source =>
    "error evaluating " ++ mode.name ++ " '" ++ expression ++ "': " ++ source.message
  | .failed failure => failure.display

/-- The messages of the errors behind an error, the nearest first. Only an
error of the host's evaluators has any. -/
def AssertError.chain : AssertError → List String
  | .configuration _ => []
  | .evaluation _ _ source => source.message :: source.sources
  | .failed _ => []

/-- The failure, if the expression is false. -/
def AssertError.failure? : AssertError → Option Failure
  | .configuration _ => none
  | .evaluation _ _ _ => none
  | .failed failure => some failure

def AssertError.isFailure (e : AssertError) : Bool := e.failure?.isSome

end Verdict
