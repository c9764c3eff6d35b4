-- What a host brings: its expressions, its queries, and how both are
-- evaluated in a context of its own. The host may do more than answer, so its
-- operations run in a monad `m`: `Id` for a host of pure functions, a state
-- monad for one that keeps account of what it is asked.
import Verdict.Fault

namespace Verdict

/-- The operations of a host on contexts `C`, expressions `E` and queries `Q`
with variable bindings `V` and namespace bindings `N`. -/
structure Engine (m : Type → Type) (C E Q V N : Type) where
  /-- The boolean value of an expression. -/
  holds : E → C → m (Except EvalError Bool)
  /-- The source text of an expression. -/
  expressionText : E → String
  /-- A query from its text, without bindings. -/
  compile : String → m (Except EvalError Q)
  /-- The boolean value of a query. -/
  booleanValue : Q → C → m (Except EvalError Bool)
  /-- The string value of a query. -/
  stringValue : Q → C → m (Except EvalError String)
  /-- The canonical text of a query. -/
  text : Q → String
  /-- The variable bindings of a query, if it has any. -/
  variableBindings : Q → Option V
  /-- The namespace bindings of a query, if it has any. -/
  namespaceBindings : Q → Option N
  /-- The query with these variable bindings. -/
  setVariables : V → Q → m Q
  /-- The query with these namespace bindings. -/
  setNamespaces : N → Q → m Q

namespace Engine

variable {m : Type → Type} [Monad m] {C E Q V N : Type}

/-- The target with the bindings that the source has; an absent binding stays
absent. -/
def copyBindings (engine : Engine m C E Q V N) (source target : Q) : m Q := do
  let target ← match engine.variableBindings source with
    | some v => engine.setVariables v target
    | none => pure target
  match engine.namespaceBindings source with
  | some n => engine.setNamespaces n target
  | none => pure target

/-- A new query of the given text with the bindings of this query. -/
def derive (engine : Engine m C E Q V N) (query : Q) (text : String) :
    m (Except EvalError Q) := do
  match ← engine.compile text with
  | .ok derived => return .ok (← engine.copyBindings query derived)
  | .error e => return .error e

/-- The queries derived from one query by a list of texts, each from the latest
that compiled. -/
def deriveAll (engine : Engine m C E Q V N) : Q → List String → m (List (Except EvalError Q))
  | _, [] => return []
  | query, text :: texts => do
    match ← engine.derive query text with
    | .ok derived => return .ok derived :: (← engine.deriveAll derived texts)
    | .error e => return .error e :: (← engine.deriveAll query texts)

end Engine

end Verdict
