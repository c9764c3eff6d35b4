-- The evaluation of one assertion. The host gives the boolean value; if a
-- query is false, its probe is evaluated for the value that was there, and the
-- failure is raised with what was found. An assertion without an expression is
-- an error, never a pass.
import Verdict.Engine
import Verdict.Probe
import Verdict.Reporter

namespace Verdict

/-! ## What an assertion checks -/

/-- The one expression that an assertion checks. -/
inductive Spec (E Q : Type) where
  /-- A boolean expression. -/
  | test (expression : E)
  /-- A path query. -/
  | xpath (query : Q)
  deriving DecidableEq, Repr

/-- Of the two kinds of expression, exactly one must be there. -/
def Spec.ofParts {E Q : Type} : Option E → Option Q → Except ConfigError (Spec E Q)
  | some expression, none => .ok (.test expression)
  | none, some query => .ok (.xpath query)
  | none, none => .error .missing
  | some _, some _ => .error .conflicting

def Spec.mode {E Q : Type} : Spec E Q → Mode
  | .test _ => .test
  | .xpath _ => .xpath

/-! ## Evaluation -/

/-- The outcome of evaluating an assertion once, and the trail it leaves. -/
structure Evaluation where
  result : Except AssertError Unit
  trail : Trail

/-- Ends before anything is evaluated or logged. -/
def Evaluation.error (e : AssertError) : Evaluation := ⟨.error e, {}⟩

namespace Engine

variable {m : Type → Type} [Monad m] {C E Q V N : Type}

/-- The string value of the query derived for a probe. -/
def probeValue (engine : Engine m C E Q V N) (query : Q) (probe : String) (context : C) :
    m (Except EvalError String) := do
  match ← engine.derive query probe with
  | .ok derived => engine.stringValue derived context
  | .error e => return .error e

/-- The diagnostic of a false query, and its trail: none if the text has no
trailing comparison. An error of the host makes the probe unavailable and is
logged, and goes no further. -/
def diagnose (engine : Engine m C E Q V N) (query : Q) (context : C) :
    m (Option Diagnostic × Trail) := do
  match Probe.ofQuery? (engine.text query) with
  | none => return (none, {})
  | some probe =>
    match ← engine.probeValue query probe context with
    | .ok value => return (some (.found probe value), {})
    | .error e => return (some (.unavailable probe), .ofEvents [.unprobed probe e.message])

/-- The evaluation of a boolean expression. -/
def evaluateTest (engine : Engine m C E Q V N) (reporter : Reporter) (expression : E)
    (context : C) (body : String) : m Evaluation := do
  let text := engine.expressionText expression
  match ← engine.holds expression context with
  | .error e => return .error (.evaluation .test text e)
  | .ok true => return ⟨.ok (), .ofEvents [.evaluated .test text true]⟩
  | .ok false =>
    let (error, raised) := reporter.raise ⟨.test, text, body, none⟩
    return ⟨.error error, .ofEvents [.evaluated .test text false] ++ raised⟩

/-- The evaluation of a query. -/
def evaluateQuery (engine : Engine m C E Q V N) (reporter : Reporter) (query : Q)
    (context : C) (body : String) : m Evaluation := do
  let text := engine.text query
  match ← engine.booleanValue query context with
  | .error e => return .error (.evaluation .xpath text e)
  | .ok true => return ⟨.ok (), .ofEvents [.evaluated .xpath text true]⟩
  | .ok false =>
    let (diagnostic, probed) ← engine.diagnose query context
    let (error, raised) := reporter.raise ⟨.xpath, text, body, diagnostic⟩
    return ⟨.error error, .ofEvents [.evaluated .xpath text false] ++ probed ++ raised⟩

/-- The evaluation of an assertion, whose expression may be unset. -/
def evaluate (engine : Engine m C E Q V N) (reporter : Reporter) (spec : Option (Spec E Q))
    (context : C) (body : String) : m Evaluation :=
  match spec with
  | none => return .error (.configuration .missing)
  | some (.test expression) => engine.evaluateTest reporter expression context body
  | some (.xpath query) => engine.evaluateQuery reporter query context body

end Engine

/-! ## Evaluators -/

/-- One assertion, and the reporter of its failures. -/
structure Evaluator (E Q : Type) where
  spec : Option (Spec E Q)
  reporter : Reporter := {}

/-- One use of an evaluator: a context and the body of the failure message. -/
structure Occasion (C : Type) where
  context : C
  body : String

namespace Evaluator

variable {m : Type → Type} [Monad m] {C E Q V N : Type}

/-- The evaluation of an evaluator's assertion on one occasion. -/
def evaluate (evaluator : Evaluator E Q) (engine : Engine m C E Q V N) (occasion : Occasion C) :
    m Evaluation :=
  engine.evaluate evaluator.reporter evaluator.spec occasion.context occasion.body

/-- The evaluations on a list of occasions, in order. -/
def evaluateAll (evaluator : Evaluator E Q) (engine : Engine m C E Q V N) :
    List (Occasion C) → m (List Evaluation)
  | [] => return []
  | occasion :: occasions => do
    let first ← evaluator.evaluate engine occasion
    return first :: (← evaluator.evaluateAll engine occasions)

end Evaluator

/-- The evaluation of an assertion for a caller who has no evaluator and no
sink: the diagnostic is forgotten. -/
def evaluate {m : Type → Type} [Monad m] {C E Q V N : Type} (engine : Engine m C E Q V N)
    (spec : Option (Spec E Q)) (occasion : Occasion C) : m Evaluation :=
  Evaluator.evaluate ⟨spec, {}⟩ engine occasion

end Verdict
