-- Scripts for the small host of documents and path queries.
import Verdict.PathQuery
import Verdict.Script.Run

namespace Verdict.PathQuery

/-- An expression from a list of known answers; `true` and `false` are known
anyway. -/
def compileExpression (answers : List (String × Except EvalError Bool)) (text : String) :
    Except EvalError Flag :=
  match answers.lookup text with
  | some answer => .ok ⟨text, answer⟩
  | none =>
    if text = "true" then .ok ⟨text, .ok true⟩
    else if text = "false" then .ok ⟨text, .ok false⟩
    else .error (.plain ("unknown expression '" ++ text ++ "'"))

/-- A query from its text, with the given bindings. -/
def compileBound (variableBindings namespaceBindings : Bindings) (text : String) :
    Except EvalError PathQuery :=
  match compile text with
  | .ok query => .ok ((query.withVariables variableBindings).withNamespaces namespaceBindings)
  | .error fault => .error fault.toEvalError

/-- The host's way of reading scripts. -/
def language (answers : List (String × Except EvalError Bool))
    (variableBindings namespaceBindings : Bindings) :
    Language Id Document Flag PathQuery Bindings Bindings where
  toEngine := engine
  compileExpression := compileExpression answers
  compileQuery := compileBound variableBindings namespaceBindings

end Verdict.PathQuery
