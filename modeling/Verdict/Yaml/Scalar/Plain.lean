-- Plain scalars: text without quotes. It ends at a `: `, at a ` #`, at a
-- document marker, in a block at a line that is not indented enough, and in a
-- flow collection at a bracket, brace or comma.
import Verdict.Yaml.Fault
import Verdict.Yaml.Folding

namespace Verdict.Yaml.Plain

/-- Where and in what surroundings a plain scalar stands. -/
structure Place where
  inFlow : Bool
  /-- The column that lines after the first must reach in a block. -/
  indent : Nat
  start : Mark

/-- A plain scalar, read: its text, the end of its text, and what follows it
and the white space behind it. -/
structure Read where
  text : List Char
  stop : Mark
  cursor : Cursor
  /-- A line break is part of the white space behind the scalar. -/
  brokeLine : Bool

/-- The scalar ends before this character, which follows the given gap. -/
def endsAt (place : Place) (gap : Gap) (m : Mark) (c : Char) (rest : List Char) : Bool :=
  (gap ≠ .none && !place.inFlow && m.column < place.indent) ||
    (gap.hasBreak && m.column = 0 && isDocumentMarker (c :: rest)) ||
    (gap ≠ .none && c = '#') ||
    (c = ':' && endsWord rest) ||
    (place.inFlow && isFlowIndicator c)

/-- A colon may not stand before a flow indicator or `?` in a flow
collection. -/
def badColon (place : Place) (c : Char) (rest : List Char) : Bool :=
  place.inFlow && c = ':' &&
    match rest with
    | next :: _ => isFlowIndicator next || next = '?'
    | [] => false

/-- The rest of a plain scalar, of which `out` holds the text so far in
backward order, `stop` its end, and `gap` the white space since. -/
def read (place : Place) : List Char → Mark → Gap → List Char → Mark → Except Fault Read
  | [], m, gap, out, stop => .ok ⟨out.reverse, stop, ⟨[], m⟩, gap.hasBreak⟩
  | '\r' :: '\n' :: rest, m, gap, out, stop =>
    read place rest (m.newline 2) (gap.newline '\n') out stop
  | c :: rest, m, gap, out, stop =>
    if isBreak c then read place rest (m.newline c.utf8Size) (gap.newline c) out stop
    else if isBlank c then
      if gap.hasBreak && m.column < place.indent && c = '\t' then
        .error (.within .plain place.start .tabBeforeText m)
      else read place rest (m.past c) (gap.blank c) out stop
    else if badColon place c rest && !endsAt place gap m c rest then
      .error (.within .plain place.start .unexpectedColon m)
    else if endsAt place gap m c rest then
      .ok ⟨out.reverse, stop, ⟨c :: rest, m⟩, gap.hasBreak⟩
    else read place rest (m.past c) .none (c :: (gap.text.reverse ++ out)) (m.past c)

theorem length_read_le {place : Place} {cs : List Char} {m : Mark} {gap : Gap} {out : List Char}
    {stop : Mark} {r : Read} (h : read place cs m gap out stop = .ok r) :
    r.cursor.rest.length ≤ cs.length := by
  fun_induction read place cs m gap out stop generalizing r with
  | case1 => cases h; simp
  | case2 m gap out stop rest ih =>
    have := ih h
    simp only [List.length_cons]; omega
  | case3 _ _ _ _ _ _ _ _ ih => have := ih h; simp only [List.length_cons]; omega
  | case4 => cases h
  | case5 _ _ _ _ _ _ _ _ _ _ ih => have := ih h; simp only [List.length_cons]; omega
  | case6 => cases h
  | case7 => cases h; simp
  | case8 _ _ _ _ _ _ _ _ _ _ _ ih => have := ih h; simp only [List.length_cons]; omega

end Verdict.Yaml.Plain
