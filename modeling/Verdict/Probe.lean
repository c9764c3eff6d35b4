-- The probe of a query: its text without the trailing comparison with a
-- quoted literal. A query such as `/order/status = 'shipped'` only says
-- "false" when it fails; `/order/status ` says what the value was. The text
-- is read backward from its end, and anything but one quoted literal after
-- the last `=` leaves it as it is.

namespace Verdict.Probe

/-- The white space that may stand around the literal: space, tab and the two
line break characters. -/
def isSpace (c : Char) : Bool := c = ' ' || c = '\t' || c = '\r' || c = '\n'

/-- A character that opens and closes a literal. -/
def isQuote (c : Char) : Bool := c = '\'' || c = '"'

/-! ## The backward scan -/

/-- How much of the literal the scan has seen. -/
inductive Scan where
  /-- No quote yet. -/
  | before
  /-- Inside the literal that the given quote closes. -/
  | inside (quote : Char)
  /-- The whole literal. -/
  | complete
  deriving DecidableEq, Repr

/-- What one character makes of a scan. -/
inductive Step where
  /-- Read on. -/
  | next (scan : Scan)
  /-- The character is the `=` of a comparison with a literal. -/
  | cut
  /-- The text does not end with such a comparison. -/
  | refuse
  deriving DecidableEq, Repr

/-- One step of the scan: white space never matters, a quote opens the literal
or closes it if it is the quote that opened it, and the `=` must follow a
complete literal. -/
def Scan.step (scan : Scan) (c : Char) : Step :=
  if isSpace c then .next scan
  else match scan with
    | .before => if isQuote c then .next (.inside c) else .refuse
    | .inside quote =>
      if c = quote then .next .complete
      else if c = '=' then .refuse
      else .next (.inside quote)
    | .complete => if c = '=' then .cut else .refuse

/-- Where a backward scan ends. -/
inductive Ending where
  /-- At the `=` of a comparison with a literal, before which stands `rest`,
  still in backward order. -/
  | cut (rest : List Char)
  /-- At a character that no such comparison has in its place. -/
  | refused
  /-- At the start of the text. -/
  | exhausted
  deriving DecidableEq, Repr

/-- The scan of a text given in backward order. -/
def Scan.run : Scan → List Char → Ending
  | _, [] => .exhausted
  | scan, c :: rest =>
    match scan.step c with
    | .next scan => scan.run rest
    | .cut => .cut rest
    | .refuse => .refused

/-! ## The probe -/

/-- The characters before the trailing comparison, if there is one. -/
def cut? (cs : List Char) : Option (List Char) :=
  match Scan.run .before cs.reverse with
  | .cut rest => some rest.reverse
  | .refused => none
  | .exhausted => none

/-- The text without its trailing comparison with a quoted literal, and the
text itself if it has none. -/
def strip (text : String) : String :=
  match cut? text.toList with
  | some cs => String.ofList cs
  | none => text

/-- The probe of a query: none where stripping changes nothing. -/
def ofQuery? (text : String) : Option String :=
  if strip text = text then none else some (strip text)

end Verdict.Probe
