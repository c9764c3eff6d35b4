-- A host that answers from a list and keeps account of what it is asked. Its
-- answers depend on the text alone, so the account shows exactly how an
-- evaluation uses a host.
import Verdict.Engine

namespace Verdict.Recorder

/-- A request made to the host, under the text that the query was compiled
from. -/
inductive Call where
  | expression (text : String)
  | compile (text : String)
  | boolean (source : String)
  | string (source : String)
  | setVariables (source bindings : String)
  | setNamespaces (source bindings : String)
  deriving DecidableEq, Repr

/-- A call in one line. -/
def Call.line : Call → String
  | .expression text => "expression " ++ text
  | .compile text => "compile " ++ text
  | .boolean source => "boolean " ++ source
  | .string source => "string " ++ source
  | .setVariables source bindings => "set_variables " ++ source ++ " " ++ bindings
  | .setNamespaces source bindings => "set_namespaces " ++ source ++ " " ++ bindings

/-- A computation that makes calls. -/
abbrev Recording := StateM (List Call)

/-- Adds one call to the account. -/
def record (call : Call) : Recording Unit := modify (· ++ [call])

/-- The answers to the questions about texts. -/
structure Answers where
  booleans : List (String × Except EvalError Bool)
  strings : List (String × Except EvalError String)

/-- How the host compiles: the texts it refuses, and the canonical texts of
those that have another. -/
structure Dialect where
  refused : List (String × EvalError)
  canonical : List (String × String)

/-- A compiled query: the text it came from, its canonical text, and its
bindings. -/
structure Query where
  source : String
  text : String
  variableBindings : Option String
  namespaceBindings : Option String
  deriving DecidableEq, Repr

/-- A boolean expression is its text. -/
abbrev Expression := String

/-- The boolean answer about a text. -/
def Answers.boolean (answers : Answers) (source : String) : Except EvalError Bool :=
  (answers.booleans.lookup source).getD (.error (.plain ("no boolean for '" ++ source ++ "'")))

/-- The string answer about a text. -/
def Answers.string (answers : Answers) (source : String) : Except EvalError String :=
  (answers.strings.lookup source).getD (.error (.plain ("no string for '" ++ source ++ "'")))

/-- The query that a text compiles to, unless it is refused. -/
def Dialect.compile (dialect : Dialect) (text : String) : Except EvalError Query :=
  match dialect.refused.lookup text with
  | some e => .error e
  | none => .ok ⟨text, (dialect.canonical.lookup text).getD text, none, none⟩

/-- The host that records. -/
def engine (dialect : Dialect) : Engine Recording Answers Expression Query String String where
  holds text answers := do
    record (.expression text)
    return answers.boolean text
  expressionText := id
  compile text := do
    record (.compile text)
    return dialect.compile text
  booleanValue query answers := do
    record (.boolean query.source)
    return answers.boolean query.source
  stringValue query answers := do
    record (.string query.source)
    return answers.string query.source
  text := Query.text
  variableBindings := Query.variableBindings
  namespaceBindings := Query.namespaceBindings
  setVariables bindings query := do
    record (.setVariables query.source bindings)
    return { query with variableBindings := some bindings }
  setNamespaces bindings query := do
    record (.setNamespaces query.source bindings)
    return { query with namespaceBindings := some bindings }

/-- The result of a recording, and the calls it makes. -/
def calls {α : Type} (recording : Recording α) : α × List Call := recording.run []

end Verdict.Recorder
