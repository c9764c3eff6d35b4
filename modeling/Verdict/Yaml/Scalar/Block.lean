-- Block scalars: text set off by indentation, under a `|` that keeps its line
-- breaks or a `>` that folds them. A header may fix the indentation and say
-- what becomes of the line breaks at the end.
import Verdict.Yaml.Fault

namespace Verdict.Yaml.Block

/-- What becomes of the line breaks at the end. -/
inductive Chomping where
  /-- All are dropped. -/
  | strip
  /-- The first is kept. -/
  | clip
  /-- All are kept. -/
  | keep
  deriving DecidableEq, Repr

/-- What stands behind the `|` or `>`. -/
structure Header where
  chomping : Chomping := .clip
  /-- The indentation of the text, counted from that of its surroundings. -/
  increment : Option Nat := none
  deriving DecidableEq, Repr

/-! ## The header -/

def chomping? (c : Char) : Option Chomping :=
  if c = '+' then some .keep else if c = '-' then some .strip else none

/-- The signs of a header and how many they are: a chomping sign and a digit in
either order, each at most once. The digit is not zero. -/
def signs (start : Mark) (c : Cursor) : Except Fault (Header × Nat) :=
  let zero := Except.error (.within .block start .zeroIndentation c.mark)
  match c.rest with
  | a :: rest =>
    match chomping? a with
    | some chomping =>
      match rest with
      | b :: _ =>
        if b = '0' then .error (.within .block start .zeroIndentation (c.mark.advance 1))
        else if b.isDigit then .ok (⟨chomping, some (b.toNat - '0'.toNat)⟩, 2)
        else .ok (⟨chomping, none⟩, 1)
      | [] => .ok (⟨chomping, none⟩, 1)
    | none =>
      if a = '0' then zero
      else if a.isDigit then
        let increment := some (a.toNat - '0'.toNat)
        match rest with
        | b :: _ =>
          match chomping? b with
          | some chomping => .ok (⟨chomping, increment⟩, 2)
          | none => .ok (⟨.clip, increment⟩, 1)
        | [] => .ok (⟨.clip, increment⟩, 1)
      else .ok ({}, 0)
  | [] => .ok ({}, 0)

/-- The header, and the line after it. Only a comment may follow the signs. -/
def header (start : Mark) (c : Cursor) : Except Fault (Header × Cursor) := do
  let (header, n) ← signs start c
  let c := ((c.advance n).skip isBlank).skipComment
  if c.atLineEnd then return (header, c.skipBreak)
  else .error (.within .block start .missingCommentOrBreak c.mark)

/-! ## The indentation -/

/-- The empty lines before the text: the line breaks, what follows them, and
the widest indentation among them and the first line of text. -/
def leadingLines (start : Mark) :
    List Char → Mark → List Char → Nat → Except Fault (List Char × Cursor × Nat)
  | [], m, breaks, widest => .ok (breaks.reverse, ⟨[], m⟩, widest)
  | '\r' :: '\n' :: rest, m, breaks, widest =>
    leadingLines start rest (m.newline 2) ('\n' :: breaks) widest
  | c :: rest, m, breaks, widest =>
    if c = ' ' then leadingLines start rest (m.past c) breaks (max widest (m.column + 1))
    else if c = '\t' then .error (.within .block start .tabForIndentation m)
    else if isBreak c then
      leadingLines start rest (m.newline c.utf8Size) (keptBreak c :: breaks) widest
    else .ok (breaks.reverse, ⟨c :: rest, m⟩, widest)

/-! ## The text -/

/-- The lines read so far. -/
structure Lines where
  /-- The text, in backward order. -/
  out : List Char := []
  /-- The break at the end of the last line of text. -/
  ending : Option Char := none
  /-- The breaks of the empty lines since, in backward order. -/
  empty : List Char := []
  /-- The last line of text starts with a blank. -/
  startsBlank : Bool := false

/-- The lines with a new line of text begun, whose first character is `c`. In a
folded text a single line feed between two lines without a blank at their start
becomes a space, and is dropped before empty lines. -/
def Lines.begin (literal : Bool) (lines : Lines) (c : Char) : Lines :=
  let folds := !literal && lines.ending = some '\n' && !lines.startsBlank && !isBlank c
  let gap :=
    if folds then if lines.empty.isEmpty then [' '] else lines.empty
    else lines.empty ++ lines.ending.toList
  { out := c :: (gap ++ lines.out), startsBlank := isBlank c }

/-- The text of the lines, with what is kept of the breaks at the end. -/
def Lines.text (chomping : Chomping) (lines : Lines) : List Char :=
  match chomping with
  | .strip => lines.out.reverse
  | .clip => lines.out.reverse ++ lines.ending.toList
  | .keep => lines.out.reverse ++ lines.ending.toList ++ lines.empty.reverse

/-- The lines of a scalar with the given indentation, from within a line of text
or from the start of a line, and what follows them. -/
def readLines (literal : Bool) (indent : Nat) (start : Mark) :
    Bool → List Char → Mark → Lines → Except Fault (Lines × Cursor)
  | _, [], m, lines => .ok (lines, ⟨[], m⟩)
  | true, '\r' :: '\n' :: rest, m, lines =>
    readLines literal indent start false rest (m.newline 2) { lines with ending := some '\n' }
  | true, c :: rest, m, lines =>
    if isBreak c then
      readLines literal indent start false rest (m.newline c.utf8Size)
        { lines with ending := some (keptBreak c) }
    else
      readLines literal indent start true rest (m.past c) { lines with out := c :: lines.out }
  | false, '\r' :: '\n' :: rest, m, lines =>
    readLines literal indent start false rest (m.newline 2)
      { lines with empty := '\n' :: lines.empty }
  | false, c :: rest, m, lines =>
    if c = ' ' && m.column < indent then
      readLines literal indent start false rest (m.past c) lines
    else if c = '\t' && m.column < indent then
      .error (.within .block start .tabForIndentation m)
    else if isBreak c then
      readLines literal indent start false rest (m.newline c.utf8Size)
        { lines with empty := keptBreak c :: lines.empty }
    else if m.column = indent then
      readLines literal indent start true rest (m.past c) (lines.begin literal c)
    else .ok (lines, ⟨c :: rest, m⟩)

/-- A block scalar behind its `|` or `>`: its text, and what follows it. The
text must be indented more than `parent`, the indentation around it. -/
def read (literal : Bool) (parent : Option Nat) (start : Mark) (c : Cursor) :
    Except Fault (List Char × Cursor) := do
  let (header, c) ← header start c
  match header.increment with
  | some n =>
    let (lines, c) ←
      readLines literal (parent.getD 0 + n) start false c.rest c.mark {}
    return (lines.text header.chomping, c)
  | none =>
    let (breaks, c, widest) ← leadingLines start c.rest c.mark [] 0
    let least := (parent.map (· + 1)).getD 0
    let (lines, c) ←
      readLines literal (max (max widest least) 1) start false c.rest c.mark
        { empty := breaks.reverse }
    return (lines.text header.chomping, c)

/-! ## What is left is shorter -/

theorem length_leadingLines_le {start : Mark} {cs : List Char} {m : Mark} {breaks : List Char}
    {widest : Nat} {r : List Char × Cursor × Nat}
    (h : leadingLines start cs m breaks widest = .ok r) : r.2.1.rest.length ≤ cs.length := by
  fun_induction leadingLines start cs m breaks widest generalizing r
  all_goals first
    | (cases h; done)
    | (cases h; simp only [List.length_cons]; omega)
    | (next ih => have := ih h; simp only [List.length_cons]; omega)

theorem length_readLines_le {literal : Bool} {indent : Nat} {start : Mark} {inLine : Bool}
    {cs : List Char} {m : Mark} {lines : Lines} {r : Lines × Cursor}
    (h : readLines literal indent start inLine cs m lines = .ok r) :
    r.2.rest.length ≤ cs.length := by
  fun_induction readLines literal indent start inLine cs m lines generalizing r
  all_goals first
    | (cases h; done)
    | (cases h; simp only [List.length_cons]; omega)
    | (next ih => have := ih h; simp only [List.length_cons]; omega)

theorem length_header_le {start : Mark} {c : Cursor} {r : Header × Cursor}
    (h : header start c = .ok r) : r.2.rest.length ≤ c.rest.length := by
  unfold header at h
  simp only [bind, Except.bind, pure, Except.pure] at h
  split at h
  · cases h
  · next signs _ =>
    have h1 := c.length_advance_le signs.2
    have h2 := (c.advance signs.2).length_skip_le isBlank
    have h3 := ((c.advance signs.2).skip isBlank).length_skipComment_le
    have h4 := ((c.advance signs.2).skip isBlank).skipComment.length_skipBreak_le
    split at h <;> cases h
    simp only; omega

theorem length_read_le {literal : Bool} {parent : Option Nat} {start : Mark} {c : Cursor}
    {r : List Char × Cursor} (h : read literal parent start c = .ok r) :
    r.2.rest.length ≤ c.rest.length := by
  unfold read at h
  simp only [bind, Except.bind, pure, Except.pure] at h
  split at h
  · cases h
  · next header hheader =>
    have h1 := length_header_le hheader
    split at h
    · split at h
      · cases h
      · next hlines =>
        have h2 := length_readLines_le hlines
        cases h; simp only; omega
    · split at h
      · cases h
      · next hbreaks =>
        have h2 := length_leadingLines_le hbreaks
        split at h
        · cases h
        · next hlines =>
          have h3 := length_readLines_le hlines
          cases h; exact Nat.le_trans h3 (Nat.le_trans h2 h1)

end Verdict.Yaml.Block
