-- Scripts as YAML in one plain form: block style, every text between double
-- quotes, and what is not printable ASCII as a code point. Which fields an
-- assertion is written with, and in which order, is free, and so is the layout.
import Verdict.Script

namespace Verdict.Script

/-- What is free about the lines of a script, whatever the script is. -/
structure Layout where
  /-- The columns before the dash of an assertion. -/
  indent : Nat := 2
  /-- The name stands before the assertions. -/
  nameFirst : Bool := true
  /-- The digits above nine are capital letters. -/
  capitals : Bool := true
  deriving DecidableEq, Repr

namespace Layout

/-! ## Texts -/

/-- A digit in base sixteen. -/
def hexDigit (layout : Layout) (n : Nat) : Char :=
  if layout.capitals then (Nat.digitChar n).toUpper else Nat.digitChar n

/-- The digits of a number in base sixteen, so many of them. -/
def hexDigits (layout : Layout) : Nat → Nat → List Char
  | 0, _ => []
  | count + 1, n => layout.hexDigits count (n / 16) ++ [layout.hexDigit (n % 16)]

/-- A character between double quotes. -/
def char (layout : Layout) (c : Char) : List Char :=
  if c = '"' || c = '\\' then ['\\', c]
  else if ' ' ≤ c && c ≤ '~' then [c]
  else '\\' :: 'U' :: layout.hexDigits 8 c.toNat

/-- A text between double quotes. -/
def text (layout : Layout) (s : String) : List Char :=
  '"' :: (s.toList.flatMap layout.char ++ ['"'])

end Layout

/-! ## Assertions -/

/-- A field of an assertion as it is written. -/
inductive Assertion.Field where
  | test (text : String)
  | xpath (text : String)
  | message (text : String)
  deriving DecidableEq, Repr

namespace Assertion

def Field.key : Field → String
  | .test _ => "test"
  | .xpath _ => "xpath"
  | .message _ => "message"

def Field.text : Field → String
  | .test text => text
  | .xpath text => text
  | .message text => text

/-- The assertion with one more field. -/
def set (a : Assertion) : Field → Assertion
  | .test text => { a with test := some text }
  | .xpath text => { a with xpath := some text }
  | .message text => { a with message := text }

/-- The assertion with some fields. -/
def ofWritten (fields : List Field) : Assertion := fields.foldl set {}

/-- The fields of an assertion in their usual order. An empty message is left
out. -/
def fields (a : Assertion) : List Field :=
  a.test.toList.map .test ++ a.xpath.toList.map .xpath ++
    if a.message = "" then [] else [.message a.message]

end Assertion

namespace Layout

/-! ## Lines -/

/-- A key and its text on a line. -/
def line (layout : Layout) (key text : String) : List Char :=
  key.toList ++ ':' :: ' ' :: layout.text text ++ ['\n']

/-- The start of a line so many columns further in. -/
def margin (columns : Nat) : List Char := List.replicate columns ' '

/-- The lines of an assertion. The first one stands behind the dash. -/
def mapping (layout : Layout) : List Assertion.Field → List Char
  | [] => "\x7b\x7d\n".toList
  | field :: fields =>
    layout.line field.key field.text ++
      fields.flatMap fun field => margin (layout.indent + 2) ++ layout.line field.key field.text

/-- The lines of an entry of the list. -/
def entry (layout : Layout) (fields : List Assertion.Field) : List Char :=
  margin layout.indent ++ '-' :: ' ' :: layout.mapping fields

/-- The lines of the list of assertions. -/
def entries (layout : Layout) : List (List Assertion.Field) → List Char
  | [] => "assertions: []\n".toList
  | entries => "assertions:\n".toList ++ entries.flatMap layout.entry

/-- The text of a script with a list of entries, or without one. -/
def document (layout : Layout) (name : String) (list : Option (List (List Assertion.Field))) :
    List Char :=
  let assertions := (list.map layout.entries).getD []
  if layout.nameFirst then layout.line "name" name ++ assertions
  else assertions ++ layout.line "name" name

end Layout

/-- The text of a script. -/
def write (script : Script) : String :=
  String.ofList
    (Layout.document {} script.name (some (script.assertions.map Assertion.fields)))

end Verdict.Script
