-- The lines that `check` prints: how each one is laid out, and what of it a
-- reader may turn off. Main statement: a text within the limit is shown whole.

namespace Verdict

/-- What is shown, and how. -/
structure Display where
  /-- Whether the probe of each query is shown. -/
  showProbes : Bool := true
  /-- The most characters of a text that are shown. -/
  truncateAt : Nat := 100
  colors : Bool := false
  deriving DecidableEq, Repr

/-- Only the status of each assertion. -/
def Display.quiet : Display := { showProbes := false }

namespace Display

/-! ## Colours -/

def green : String := "\x1b[32m"
def red : String := "\x1b[31m"
def yellow : String := "\x1b[33m"
def cyan : String := "\x1b[36m"
def reset : String := "\x1b[0m"

/-- A text in a colour, if there are colours. -/
def paint (display : Display) (color text : String) : String :=
  if display.colors then color ++ text ++ reset else text

/-! ## Truncation -/

/-- A text of at most `limit` characters as it is; of a longer one the start
and three dots, which leaves `limit` characters if the dots fit. -/
def truncateChars (limit : Nat) (cs : List Char) : List Char :=
  if cs.length ≤ limit then cs else cs.take (limit - 3) ++ ['.', '.', '.']

def truncate (limit : Nat) (text : String) : String :=
  String.ofList (truncateChars limit text.toList)

theorem truncateChars_of_length_le {limit : Nat} {cs : List Char} (h : cs.length ≤ limit) :
    truncateChars limit cs = cs := by
  simp [truncateChars, h]

/-! ## Lines -/

/-- The line above the assertions of a script. -/
def header (display : Display) (name location : String) : String :=
  display.paint yellow name ++ " (" ++ location ++ ")"

/-- The line of an assertion, with a tick or a cross. -/
def status (display : Display) (ok : Bool) (description : String) : String :=
  "  " ++ (if ok then display.paint green "✓" else display.paint red "✗") ++ " " ++
    truncate display.truncateAt description

/-- The line under a cross. -/
def reason (_ : Display) (text : String) : String := "      " ++ text

/-- The line of a probe under a tick. -/
def probe (display : Display) (text : String) : String :=
  "      probe: " ++ display.paint cyan (truncate display.truncateAt text)

end Display

end Verdict
