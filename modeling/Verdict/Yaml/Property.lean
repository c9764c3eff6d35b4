-- The properties of nodes as they are written: the names of anchors and
-- aliases, and tags. A tag is a handle and a suffix; what the handle stands
-- for is settled per document.
import Verdict.Yaml.Fault

namespace Verdict.Yaml

/-! ## Anchors and aliases -/

namespace Anchor

/-- A character that may stand behind the name of an anchor. -/
def mayFollow : List Char → Bool
  | [] => true
  | c :: _ =>
    isBlank c || isBreak c || c = '?' || c = ':' || c = ',' || c = ']' || c = '\x7d' ||
      c = '%' || c = '@' || c = '`'

/-- The name behind a `&` or `*`, and what follows it. -/
def read (reading : Reading) (start : Mark) (c : Cursor) : Except Fault (List Char × Cursor) :=
  let name := c.run isWordChar
  let after := c.skip isWordChar
  if name.isEmpty || !mayFollow after.rest then
    .error (.within reading start .badAnchor after.mark)
  else .ok (name, after)

theorem length_read_le {reading : Reading} {start : Mark} {c : Cursor} {r : List Char × Cursor}
    (h : read reading start c = .ok r) : r.2.rest.length ≤ c.rest.length := by
  unfold read at h
  dsimp only at h
  split at h
  · cases h
  · cases h; exact c.length_skip_le _

end Anchor

/-! ## Tags -/

namespace Tag

/-- A character of a tag's suffix. Only between `<` and `>` and in directives may
it hold commas and brackets. -/
def isSuffixChar (verbatim : Bool) (c : Char) : Bool :=
  isWordChar c || ";/?:@&=+$.%!~*'()".toList.contains c ||
    (verbatim && (c = ',' || c = '[' || c = ']'))

/-- How many octets follow a leading octet. -/
def following (octet : Nat) : Option Nat :=
  if octet < 0x80 then some 0
  else if 0xC0 ≤ octet && octet < 0xE0 then some 1
  else if 0xE0 ≤ octet && octet < 0xF0 then some 2
  else if 0xF0 ≤ octet && octet < 0xF8 then some 3
  else none

/-- The character that some octets write in UTF-8. Octets that write none, such
as more than the character needs, stand for the replacement character. -/
def ofOctets (octets : List Nat) : Char :=
  ((String.fromUTF8? (octets.map UInt8.ofNat).toByteArray).bind (·.toList.head?)).getD '\ufffd'

/-- The text of a suffix that was read in backward order. A NUL ends it. -/
def suffixText (out : List Char) : List Char := out.reverse.takeWhile (· ≠ '\x00')

/-- The rest of a suffix, of which `out` holds the text so far in backward
order. Of a character written as octets, `left` are still to come, and `octets`
are those before them. -/
def readSuffix (verbatim : Bool) (reading : Reading) (start : Mark) :
    List Char → Mark → Nat → List Nat → List Char → Except Fault (List Char × Cursor)
  | '%' :: a :: b :: rest, m, left, octets, out =>
    match hexValue a, hexValue b with
    | some a, some b =>
      let octet := a * 16 + b
      match left with
      | 0 =>
        match following octet with
        | none => .error (.within reading start .badLeadingOctet m)
        | some 0 =>
          readSuffix verbatim reading start rest (m.advance 3) 0 [] (ofOctets [octet] :: out)
        | some more => readSuffix verbatim reading start rest (m.advance 3) more [octet] out
      | left + 1 =>
        if 0x80 ≤ octet && octet < 0xC0 then
          let octets := octets ++ [octet]
          let out := if left = 0 then ofOctets octets :: out else out
          readSuffix verbatim reading start rest (m.advance 3) left octets out
        else .error (.within reading start .badTrailingOctet m)
    | _, _ => .error (.within reading start .badTagEscape m)
  | c :: rest, m, 0, _, out =>
    if c = '%' then .error (.within reading start .badTagEscape m)
    else if isSuffixChar verbatim c then
      readSuffix verbatim reading start rest (m.advance 1) 0 [] (c :: out)
    else .ok (suffixText out, ⟨c :: rest, m⟩)
  | _ :: _, m, _ + 1, _, _ => .error (.within reading start .badTagEscape m)
  | [], m, 0, _, out => .ok (suffixText out, ⟨[], m⟩)
  | [], m, _ + 1, _, _ => .error (.within reading start .badTagEscape m)

/-- A suffix of at least one character. -/
def readSuffix1 (verbatim : Bool) (reading : Reading) (start : Mark) (c : Cursor) :
    Except Fault (List Char × Cursor) := do
  let (suffix, after) ← readSuffix verbatim reading start c.rest c.mark 0 [] []
  if after.mark.index = c.mark.index then
    .error (.within reading start .missingTagSuffix after.mark)
  else return (suffix, after)

/-- A handle: `!`, a word, and `!` again if it stands there. -/
def readHandle (reading : Reading) (start : Mark) (c : Cursor) :
    Except Fault (List Char × Cursor) :=
  match c.rest with
  | '!' :: _ =>
    let inner := c.advance 1
    let word := inner.run isWordChar
    let after := inner.skip isWordChar
    match after.rest with
    | '!' :: _ => .ok ('!' :: (word ++ ['!']), after.advance 1)
    | _ => .ok ('!' :: word, after)
  | _ => .error (.within reading start .missingBang c.mark)

/-- A tag is written between `<` and `>`, or as a handle and a suffix, or as `!`
and a suffix, or as `!` alone. The first and the last have no handle. -/
def read (start : Mark) (c : Cursor) : Except Fault (List Char × List Char × Cursor) := do
  match c.rest with
  | '!' :: '<' :: _ =>
    let (suffix, after) ← readSuffix1 true .tag start (c.advance 2)
    match after.rest with
    | '>' :: _ => return ([], suffix, after.advance 1)
    | _ => .error (.within .tag start .missingTagEnd after.mark)
  | _ =>
    let (handle, after) ← readHandle .tag start c
    if handle.length ≥ 2 && handle.getLast? = some '!' then
      let (suffix, after) ← readSuffix1 false .tag start after
      return (handle, suffix, after)
    else
      let (more, after) ← readSuffix false .tag start after.rest after.mark 0 [] []
      let suffix := handle.drop 1 ++ more
      if suffix.isEmpty then return ([], ['!'], after) else return (['!'], suffix, after)

/-- A tag, and a blank, a line break or the end of the text behind it; in a flow
collection also a comma. -/
def readWhole (inFlow : Bool) (start : Mark) (c : Cursor) :
    Except Fault (List Char × List Char × Cursor) := do
  let (handle, suffix, after) ← read start c
  let follows :=
    match after.rest with
    | ',' :: _ => inFlow
    | cs => endsWord cs
  if follows then return (handle, suffix, after)
  else .error (.within .tag start .missingBlankOrBreak after.mark)

/-! ## What is left is shorter -/

theorem length_readSuffix_le {verbatim : Bool} {reading : Reading} {start : Mark}
    {cs : List Char} {m : Mark} {left : Nat} {octets : List Nat} {out : List Char}
    {r : List Char × Cursor}
    (h : readSuffix verbatim reading start cs m left octets out = .ok r) :
    r.2.rest.length ≤ cs.length := by
  fun_induction readSuffix verbatim reading start cs m left octets out generalizing r
  all_goals first
    | (cases h; done)
    | (cases h; simp only [List.length_cons, List.length_nil]; omega)
    | (next ih => have := ih h; simp only [List.length_cons]; omega)

theorem length_readSuffix1_le {verbatim : Bool} {reading : Reading} {start : Mark} {c : Cursor}
    {r : List Char × Cursor} (h : readSuffix1 verbatim reading start c = .ok r) :
    r.2.rest.length ≤ c.rest.length := by
  unfold readSuffix1 at h
  simp only [bind, Except.bind, pure, Except.pure] at h
  repeat' split at h
  all_goals first
    | (cases h; done)
    | (next hr _ => cases h; exact length_readSuffix_le hr)

theorem length_readHandle_lt {reading : Reading} {start : Mark} {c : Cursor}
    {r : List Char × Cursor} (h : readHandle reading start c = .ok r) :
    r.2.rest.length < c.rest.length := by
  unfold readHandle at h
  split at h
  · next hc =>
    have h1 := c.length_advance_lt Nat.one_pos (by simp [hc])
    have h2 := (c.advance 1).length_skip_le isWordChar
    have h3 := ((c.advance 1).skip isWordChar).length_advance_le 1
    simp only at h
    split at h <;> cases h <;> simp only <;> omega
  · cases h

theorem length_read_lt {start : Mark} {c : Cursor} {r : List Char × List Char × Cursor}
    (h : read start c = .ok r) : r.2.2.rest.length < c.rest.length := by
  unfold read at h
  simp only [bind, Except.bind, pure, Except.pure] at h
  split at h
  · next hc =>
    split at h
    · cases h
    · next r hr =>
      have h1 := length_readSuffix1_le hr
      have h2 := c.length_advance_lt Nat.two_pos (by simp [hc])
      have h3 := r.2.length_advance_le 1
      split at h <;> cases h
      simp only; omega
  · split at h
    · cases h
    · next r hr =>
      have h1 := length_readHandle_lt hr
      split at h
      · split at h
        · cases h
        · next r' hr' =>
          have h2 := length_readSuffix1_le hr'
          cases h; simp only; omega
      · split at h
        · cases h
        · next r' hr' =>
          have h2 := length_readSuffix_le hr'
          split at h <;> cases h <;> simp only <;> omega

theorem length_readWhole_lt {inFlow : Bool} {start : Mark} {c : Cursor}
    {r : List Char × List Char × Cursor} (h : readWhole inFlow start c = .ok r) :
    r.2.2.rest.length < c.rest.length := by
  unfold readWhole at h
  simp only [bind, Except.bind, pure, Except.pure] at h
  split at h
  · cases h
  · next r hr =>
    have h1 := length_read_lt hr
    repeat' split at h
    all_goals first
      | (cases h; done)
      | (cases h; exact h1)

end Tag

end Verdict.Yaml
