-- A small host: documents are maps of texts, expressions are fixed answers,
-- and queries are a path or a `$variable`, alone or compared with a quoted
-- literal by `=` or `!=`. A path with a `:` needs its part before the first
-- `:` bound as a namespace.
import Verdict.Engine
import Verdict.Probe
import Verdict.Text.Alphanumeric
import Verdict.Text.Blank

namespace Verdict

/-- Texts under names. -/
abbrev Bindings := List (String × String)

/-- A document: the text at each path. -/
abbrev Document := Bindings

/-- An expression with a fixed answer. -/
structure Flag where
  text : String
  answer : Except EvalError Bool

/-- What a query looks at. -/
inductive Term where
  | path (path : String)
  | variable (name : String)
  deriving DecidableEq, Repr

/-- What the term's value is compared with. -/
structure Comparison where
  /-- `!=` in place of `=`. -/
  negated : Bool
  literal : String
  deriving DecidableEq, Repr

/-- A compiled query. -/
structure PathQuery where
  /-- The text it was compiled from, word for word. -/
  text : String
  term : Term
  comparison : Option Comparison
  variableBindings : Option Bindings
  namespaceBindings : Option Bindings
  deriving DecidableEq, Repr

/-! ## Errors -/

/-- Why a query does not compile or has no value. -/
inductive PathQuery.Fault where
  /-- What follows the last `=` is no quoted literal. -/
  | expectedLiteral (found : String)
  /-- What is left is neither a path nor a variable. -/
  | unexpectedToken (found : String)
  | unboundVariable (name : String)
  | unboundNamespace (name : String)
  deriving DecidableEq, Repr

def PathQuery.Fault.message : PathQuery.Fault → String
  | .expectedLiteral found => "expected quoted literal, got '" ++ found ++ "'"
  | .unexpectedToken found => "unexpected token '" ++ found ++ "'"
  | .unboundVariable name => "unbound variable $" ++ name
  | .unboundNamespace name => "unbound prefix '" ++ name ++ "'"

/-- A fault as the host reports it. -/
def PathQuery.Fault.toEvalError (fault : PathQuery.Fault) : EvalError := .plain fault.message

namespace PathQuery

/-! ## Compiling -/

/-- A character of a variable's name. -/
def isNameChar (c : Char) : Bool := Text.isAlphanumeric c || c = '_'

/-- A character of a path. -/
def isPathChar (c : Char) : Bool :=
  Text.isAlphanumeric c || c = '/' || c = ':' || c = '_' || c = '@'

/-- A variable is a `$` and a name, a path is one path character or more. -/
def parseTerm (cs : List Char) : Except Fault Term :=
  match cs with
  | '$' :: name =>
    if name ≠ [] ∧ name.all isNameChar then .ok (.variable (String.ofList name))
    else .error (.unexpectedToken (String.ofList cs))
  | cs =>
    if cs ≠ [] ∧ cs.all isPathChar then .ok (.path (String.ofList cs))
    else .error (.unexpectedToken (String.ofList cs))

/-- The text between two equal quotes. -/
def parseLiteral (cs : List Char) : Except Fault String :=
  match cs with
  | opening :: rest =>
    if Probe.isQuote opening ∧ rest.getLast? = some opening then .ok (String.ofList rest.dropLast)
    else .error (.expectedLiteral (String.ofList cs))
  | [] => .error (.expectedLiteral "")

/-- The characters before and after the last `=`. -/
def splitLastEq (cs : List Char) : Option (List Char × List Char) :=
  match cs.reverse.dropWhile (· ≠ '=') with
  | _ :: before => some (before.reverse, (cs.reverse.takeWhile (· ≠ '=')).reverse)
  | [] => none

/-- The left side of a comparison without the `!` of a `!=`, and whether there
was one. -/
def splitNegation (cs : List Char) : List Char × Bool :=
  match (Text.trimRight cs).reverse with
  | '!' :: before => (Text.trimRight before.reverse, true)
  | _ => (Text.trimRight cs, false)

/-- The term and the comparison of a trimmed text. Of two faults, the one in
the literal is reported. -/
def parse (cs : List Char) : Except Fault (Term × Option Comparison) :=
  match splitLastEq cs with
  | none => do return (← parseTerm cs, none)
  | some (before, after) => do
    let (left, negated) := splitNegation before
    let literal ← parseLiteral (Text.trimChars after)
    return (← parseTerm left, some ⟨negated, literal⟩)

/-- A query from its text, without bindings. -/
def compile (text : String) : Except Fault PathQuery := do
  let (term, comparison) ← parse (Text.trimChars text.toList)
  return ⟨text, term, comparison, none, none⟩

/-- The query with variables bound; without any, nothing is bound. -/
def withVariables (bindings : Bindings) (query : PathQuery) : PathQuery :=
  if bindings.isEmpty then query else { query with variableBindings := some bindings }

/-- The query with namespaces bound; without any, nothing is bound. -/
def withNamespaces (bindings : Bindings) (query : PathQuery) : PathQuery :=
  if bindings.isEmpty then query else { query with namespaceBindings := some bindings }

/-! ## Values -/

/-- The namespace that a path needs: what stands before its first `:`. -/
def neededNamespace (path : String) : Option String :=
  if path.toList.contains ':' then some (String.ofList (path.toList.takeWhile (· ≠ ':')))
  else none

/-- What a term stands for in a document; a path may stand for nothing. -/
def resolve (query : PathQuery) (document : Document) : Except Fault (Option String) :=
  match query.term with
  | .variable name =>
    match (query.variableBindings.getD []).lookup name with
    | some value => .ok (some value)
    | none => .error (.unboundVariable name)
  | .path path =>
    match neededNamespace path with
    | some name =>
      if ((query.namespaceBindings.getD []).lookup name).isSome then .ok (document.lookup path)
      else .error (.unboundNamespace name)
    | none => .ok (document.lookup path)

/-- A comparison holds by its literal; a lone term holds if its text is not
empty. -/
def booleanValue (query : PathQuery) (document : Document) : Except Fault Bool := do
  let value ← query.resolve document
  match query.comparison with
  | none => return value.any (· ≠ "")
  | some comparison => return (value == some comparison.literal) != comparison.negated

/-- The text of a lone term, empty if there is none, or the truth of a
comparison. -/
def stringValue (query : PathQuery) (document : Document) : Except Fault String :=
  match query.comparison with
  | none => do return (← query.resolve document).getD ""
  | some _ => do return toString (← query.booleanValue document)

/-- The host of these documents, expressions and queries. -/
def engine : Engine Id Document Flag PathQuery Bindings Bindings where
  holds flag _ := flag.answer
  expressionText := Flag.text
  compile text := (compile text).mapError Fault.toEvalError
  booleanValue query document := (query.booleanValue document).mapError Fault.toEvalError
  stringValue query document := (query.stringValue document).mapError Fault.toEvalError
  text := PathQuery.text
  variableBindings := PathQuery.variableBindings
  namespaceBindings := PathQuery.namespaceBindings
  setVariables bindings query := { query with variableBindings := some bindings }
  setNamespaces bindings query := { query with namespaceBindings := some bindings }

end PathQuery

end Verdict
