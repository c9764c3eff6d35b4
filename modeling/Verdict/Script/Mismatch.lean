-- How a document does not fit a script: something of the wrong kind, an unknown
-- field, a field that is given twice or not at all. The message names the way
-- to the place and its position.
import Verdict.Yaml.Content
import Verdict.Yaml.Scalar.Meaning

namespace Verdict.Script

/-- One step of the way from the root of a document to a node. -/
inductive Step where
  | key (name : String)
  | index (n : Nat)
  /-- The value of a key that is no scalar. -/
  | unnamed
  deriving DecidableEq, Repr

/-- A step as it is written behind others. -/
def Step.text : Step → String
  | .key name => "." ++ name
  | .index n => "[" ++ toString n ++ "]"
  | .unnamed => ".?"

/-- The way to a node. -/
abbrev Path := List Step

/-- A way as messages name it; the root has no name. -/
def Path.text : Path → String
  | [] => ""
  | .key name :: steps => name ++ String.join (steps.map Step.text)
  | .index n :: steps => (Step.index n).text ++ String.join (steps.map Step.text)
  | .unnamed :: steps => "?" ++ String.join (steps.map Step.text)

/-- What stands where something else should. -/
inductive Found where
  | scalar (meaning : Yaml.Meaning)
  | sequence
  | mapping
  deriving DecidableEq, Repr

def Found.text : Found → String
  | .scalar meaning => meaning.display
  | .sequence => "sequence"
  | .mapping => "map"

/-- What is wrong. -/
inductive Mismatch.Cause where
  | wrongKind (found : Found) (expected : String)
  /-- A scalar is not what its tag says. -/
  | wrongValue (found : String) (expected : String)
  | unknownField (name : String) (known : List String)
  | duplicateField (name : String)
  | missingField (name : String)
  deriving DecidableEq, Repr

def Mismatch.Cause.text : Mismatch.Cause → String
  | .wrongKind found expected => "invalid type: " ++ found.text ++ ", expected " ++ expected
  | .wrongValue found expected =>
    "invalid value: string " ++ Text.quoted found ++ ", expected " ++ expected
  | .unknownField name known =>
    "unknown field `" ++ name ++ "`, expected one of " ++
      String.intercalate ", " (known.map fun k => "`" ++ k ++ "`")
  | .duplicateField name => "duplicate field `" ++ name ++ "`"
  | .missingField name => "missing field `" ++ name ++ "`"

/-- What is wrong, and where. -/
structure Mismatch where
  cause : Mismatch.Cause
  path : Path
  mark : Yaml.Mark
  deriving DecidableEq, Repr

def Mismatch.message (m : Mismatch) : String :=
  (if m.path.isEmpty then "" else m.path.text ++ ": ") ++ m.cause.text ++ Yaml.located m.mark

end Verdict.Script
