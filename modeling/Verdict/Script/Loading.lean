-- Scripts from files. What goes wrong is reported with one message for each
-- level it passes through. Main statement: loading is reading, then parsing.
import Verdict.Files
import Verdict.Script.Reading

namespace Verdict.Script

/-- Why a script is not loaded. -/
inductive LoadError where
  /-- The file cannot be read. -/
  | unreadable (path : String) (cause : ReadError)
  /-- The text of the file is no script. -/
  | unparsable (path : String) (cause : ParseError)
  deriving DecidableEq, Repr

/-- The messages of an error, the outermost first. -/
def LoadError.chain : LoadError → List String
  | .unreadable path cause =>
    ["Failed to read script file: " ++ Text.quoted path, cause.message]
  | .unparsable path cause =>
    ("Failed to parse script file: " ++ Text.quoted path) :: cause.chain

/-- The script in the file at a path. -/
def load (read : Reader) (path : String) : Except LoadError Script :=
  match read path with
  | .error cause => .error (.unreadable path cause)
  | .ok text =>
    match parse text with
    | .ok script => .ok script
    | .error cause => .error (.unparsable path cause)

theorem load_eq_ok_iff {read : Reader} {path : String} {script : Script} :
    load read path = .ok script ↔ ∃ text, read path = .ok text ∧ parse text = .ok script := by
  unfold load
  split
  · next h => simp [h]
  · next text h =>
    simp only [h, Except.ok.injEq, exists_eq_left']
    split <;> simp_all

end Verdict.Script
