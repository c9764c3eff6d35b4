-- Scripts from YAML documents. A script is a mapping with a name and a list of
-- assertions; other keys are passed over. An assertion is a mapping with no
-- keys but its three fields, none of which is given twice. Whether it has
-- exactly one expression does not matter here.
import Verdict.Script
import Verdict.Script.Mismatch

namespace Verdict.Script

open Yaml (Content Fault Mark Meaning Node)

/-- Why a document is not read as a script. -/
inductive Refusal where
  | mismatch (m : Mismatch)
  /-- The text breaks off. -/
  | fault (f : Fault)
  deriving DecidableEq, Repr

def Refusal.message : Refusal → String
  | .mismatch m => m.message
  | .fault f => f.message

/-- Something is wrong at a place. -/
def refuse {α : Type} (path : Path) (mark : Mark) (cause : Mismatch.Cause) :
    Except Refusal α :=
  .error (.mismatch ⟨cause, path, mark⟩)

/-! ## Single values -/

/-- Something else stands where a value of a kind is expected. -/
def refuseContent {α : Type} (path : Path) (expected : String) (content : Content) :
    Except Refusal α :=
  match content with
  | .scalar mark tag style text =>
    match Meaning.ofScalar tag style text with
    | .ok meaning => refuse path mark (.wrongKind (.scalar meaning) expected)
    | .error kind => refuse path mark (.wrongValue text kind)
  | .sequence mark _ => refuse path mark (.wrongKind .sequence expected)
  | .mapping mark _ => refuse path mark (.wrongKind .mapping expected)
  | .cut fault => .error (.fault fault)

/-- A text: every scalar is read as it is written. -/
def readText (d : Yaml.Document) (path : Path) (node : Node) : Except Refusal String :=
  match d.content node with
  | .scalar _ _ _ text => .ok text
  | content => refuseContent path "a string" content

/-- A text or nothing. A plain scalar is nothing if it is empty or a word for
nothing, and by its tag. `around` and `mark` say where a wrong tag is blamed. -/
def readOptional (d : Yaml.Document) (around : Path) (mark : Mark) (path : Path) (node : Node) :
    Except Refusal (Option String) :=
  match d.content node with
  | .scalar _ none .plain text =>
    if text.isEmpty || Meaning.isNull text.toList then .ok none else .ok (some text)
  | .scalar _ (some tag) .plain text =>
    if tag ≠ Meaning.coreTag "null" then .ok (some text)
    else if Meaning.isNull text.toList then .ok none
    else refuse around mark (.wrongValue text "null")
  | _ => some <$> readText d path node

/-- A value that does not matter has to be whole all the same. -/
def passOver (node : Node) : Except Refusal Unit :=
  match node.fault? with
  | some fault => .error (.fault fault)
  | none => .ok ()

/-! ## Mappings -/

/-- The name of a field, and where it stands. -/
def readKey (d : Yaml.Document) (path : Path) (key : Node) : Except Refusal (Mark × String) :=
  match d.content key with
  | .scalar mark _ _ name => .ok (mark, name)
  | content => refuseContent path "field identifier" content

/-- The way to the value of a key. -/
def Path.under (path : Path) (key : Node) : Path :=
  match key with
  | .scalar _ _ _ _ name => path ++ [.key name]
  | _ => path ++ [.unnamed]

/-- A field that is read now must not have been read before. -/
def once {α : Type} (field : Option α) (name : String) (path : Path) (mark : Mark) :
    Except Refusal Unit :=
  match field with
  | some _ => refuse path mark (.duplicateField name)
  | none => .ok ()

/-- The entries of a mapping. Where nothing is written, there are none. -/
def readMapping (d : Yaml.Document) (path : Path) (expected : String) (node : Node) :
    Except Refusal (Mark × List (Node × Node)) :=
  match d.content node with
  | .mapping mark entries => .ok (mark, entries)
  | .scalar mark tag style text =>
    if style = .plain && text.isEmpty then .ok (mark, [])
    else refuseContent path expected (.scalar mark tag style text)
  | content => refuseContent path expected content

/-- The items of a sequence. Where nothing is written, there are none. -/
def readSequence (d : Yaml.Document) (path : Path) (node : Node) : Except Refusal (List Node) :=
  match d.content node with
  | .sequence _ items => .ok items
  | .scalar mark tag style text =>
    if style = .plain && text.isEmpty then .ok []
    else refuseContent path "a sequence" (.scalar mark tag style text)
  | content => refuseContent path "a sequence" content

/-! ## Assertions -/

/-- The fields of an assertion that are read so far. -/
structure Assertion.Fields where
  test : Option (Option String) := none
  xpath : Option (Option String) := none
  message : Option String := none
  deriving DecidableEq, Repr

/-- The assertion with these fields. -/
def Assertion.Fields.assertion (fields : Assertion.Fields) : Assertion :=
  ⟨fields.test.join, fields.xpath.join, fields.message.getD ""⟩

/-- The fields with one more entry of their mapping. -/
def Assertion.readField (d : Yaml.Document) (path : Path) (mark : Mark)
    (fields : Assertion.Fields) (entry : Node × Node) : Except Refusal Assertion.Fields := do
  let (key, value) := entry
  let inner := path.under key
  let (keyMark, name) ← readKey d path key
  if name = "test" then
    once fields.test name path mark
    return { fields with test := some (← readOptional d path mark inner value) }
  else if name = "xpath" then
    once fields.xpath name path mark
    return { fields with xpath := some (← readOptional d path mark inner value) }
  else if name = "message" then
    once fields.message name path mark
    return { fields with message := some (← readText d inner value) }
  else refuse path keyMark (.unknownField name ["test", "xpath", "message"])

/-- An assertion. -/
def Assertion.read (d : Yaml.Document) (path : Path) (node : Node) : Except Refusal Assertion := do
  let (mark, entries) ← readMapping d path "struct ScriptAssertion" node
  let fields ← entries.foldlM (Assertion.readField d path mark) {}
  return fields.assertion

/-- The assertions of a list, the first of which has the given number. -/
def Assertion.readAll (d : Yaml.Document) (path : Path) :
    Nat → List Node → Except Refusal (List Assertion)
  | _, [] => .ok []
  | n, item :: items => do
    let assertion ← Assertion.read d (path ++ [.index n]) item
    let others ← Assertion.readAll d path (n + 1) items
    return assertion :: others

/-! ## Scripts -/

/-- The fields of a script that are read so far. -/
structure Fields where
  name : Option String := none
  assertions : Option (List Assertion) := none
  deriving DecidableEq, Repr

/-- The fields with one more entry of their mapping. -/
def readField (d : Yaml.Document) (mark : Mark) (fields : Fields) (entry : Node × Node) :
    Except Refusal Fields := do
  let (key, value) := entry
  let inner := Path.under [] key
  let (_, name) ← readKey d [] key
  if name = "name" then
    once fields.name name [] mark
    return { fields with name := some (← readText d inner value) }
  else if name = "assertions" then
    once fields.assertions name [] mark
    let items ← readSequence d inner value
    return { fields with assertions := some (← Assertion.readAll d inner 0 items) }
  else
    passOver value
    return fields

/-- The script of a root node. -/
def readRoot (d : Yaml.Document) : Except Refusal Script := do
  let (mark, entries) ← readMapping d [] "struct Script" d.root
  let fields ← entries.foldlM (readField d mark) {}
  match fields.name with
  | some name => return ⟨name, fields.assertions.getD []⟩
  | none => refuse [] mark (.missingField "name")

/-- The script of a document, which must be the only one of its text. -/
def ofDocument (d : Yaml.Document) : Except Refusal Script := do
  let script ← readRoot d
  match d.fault with
  | some fault => .error (.fault fault)
  | none => return script

/-- Why a text is not read as a script. -/
structure ParseError where
  refusal : Refusal
  /-- The text is one whole document all the same. -/
  wellFormed : Bool
  deriving DecidableEq, Repr

/-- The messages of the error, the outermost first. -/
def ParseError.chain (e : ParseError) : List String :=
  ["Failed to parse YAML", e.refusal.message]

/-- The script of a text. -/
def parse (text : String) : Except ParseError Script :=
  let d := Yaml.Document.ofText text.toList
  match ofDocument d with
  | .ok script => .ok script
  | .error refusal => .error ⟨refusal, d.fault.isNone⟩

end Verdict.Script
