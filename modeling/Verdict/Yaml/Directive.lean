-- Directives: lines before a document that start with a `%`. One names the
-- version of YAML, the other gives a tag handle a meaning.
import Verdict.Yaml.Property

namespace Verdict.Yaml

/-- A directive. -/
inductive Directive where
  | version (major minor : Nat)
  /-- What a tag handle stands for. -/
  | tag (handle stem : String)
  deriving DecidableEq, Repr

namespace Directive

/-- A number of one to nine digits. -/
def readNumber (start : Mark) (c : Cursor) : Except Fault (Nat × Cursor) :=
  let digits := c.run Char.isDigit
  if digits.isEmpty then .error (.within .versionDirective start .missingVersion c.mark)
  else if digits.length > 9 then
    .error (.within .versionDirective start .longVersion (c.mark.advance 9))
  else .ok (digits.foldl (fun n d => n * 10 + (d.toNat - '0'.toNat)) 0, c.skip Char.isDigit)

/-- Two numbers with a dot between them. -/
def readVersion (start : Mark) (c : Cursor) : Except Fault (Directive × Cursor) := do
  let (major, c) ← readNumber start (c.skip isBlank)
  match c.rest with
  | '.' :: _ =>
    let (minor, c) ← readNumber start (c.advance 1)
    return (.version major minor, c)
  | _ => .error (.within .versionDirective start .badVersion c.mark)

/-- A handle, blanks, and what the handle stands for. -/
def readTag (start : Mark) (c : Cursor) : Except Fault (Directive × Cursor) := do
  let c := c.skip isBlank
  let (handle, c) ← Tag.readHandle .tagDirective start c
  if handle.length ≥ 2 && handle.getLast? ≠ some '!' then
    .error (.within .tagDirective start .missingBang c.mark)
  match c.rest with
  | b :: _ =>
    if !isBlank b then .error (.within .tagDirective start .missingBlank c.mark)
  | [] => .error (.within .tagDirective start .missingBlank c.mark)
  let (stem, c) ← Tag.readSuffix1 true .tagDirective start (c.skip isBlank)
  if !endsWord c.rest then
    .error (.within .tagDirective start .missingBlankOrBreak c.mark)
  return (.tag (String.ofList handle) (String.ofList stem), c)

/-- What stands behind the name of a directive. -/
def readBody (name : List Char) (start : Mark) (c : Cursor) : Except Fault (Directive × Cursor) :=
  if name.isEmpty then .error (.within .directive start .missingDirectiveName c.mark)
  else if !endsWord c.rest then .error (.within .directive start .badDirectiveName c.mark)
  else if name = "YAML".toList then readVersion start c
  else if name = "TAG".toList then readTag start c
  else .error (.within .directive start .unknownDirective c.mark)

/-- A directive behind its `%`, up to the next line. -/
def read (start : Mark) (c : Cursor) : Except Fault (Directive × Cursor) := do
  let (directive, c) ← readBody (c.run isWordChar) start (c.skip isWordChar)
  let c := (c.skip isBlank).skipComment
  if c.atLineEnd then return (directive, c.skipBreak)
  else .error (.within .directive start .missingCommentOrBreak c.mark)

/-! ## What is left is shorter -/

theorem length_readNumber_le {start : Mark} {c : Cursor} {r : Nat × Cursor}
    (h : readNumber start c = .ok r) : r.2.rest.length ≤ c.rest.length := by
  unfold readNumber at h
  simp only at h
  repeat' split at h
  all_goals first
    | (cases h; done)
    | (cases h; exact c.length_skip_le _)

theorem length_readVersion_le {start : Mark} {c : Cursor} {r : Directive × Cursor}
    (h : readVersion start c = .ok r) : r.2.rest.length ≤ c.rest.length := by
  unfold readVersion at h
  simp only [bind, Except.bind, pure, Except.pure] at h
  have h0 := c.length_skip_le isBlank
  split at h
  · cases h
  · next major hmajor =>
    have h1 := length_readNumber_le hmajor
    have h2 := major.2.length_advance_le 1
    split at h
    · split at h
      · cases h
      · next minor hminor =>
        have h3 := length_readNumber_le hminor
        cases h; simp only; omega
    · cases h

theorem length_readTag_le {start : Mark} {c : Cursor} {r : Directive × Cursor}
    (h : readTag start c = .ok r) : r.2.rest.length ≤ c.rest.length := by
  unfold readTag at h
  simp only [bind, Except.bind, pure, Except.pure] at h
  have h0 := c.length_skip_le isBlank
  split at h
  · cases h
  · next handle hhandle =>
    have h1 := Tag.length_readHandle_lt hhandle
    have h2 := handle.2.length_skip_le isBlank
    repeat' split at h
    all_goals try (cases h; done)
    all_goals
      next hstem _ =>
      have h3 := Tag.length_readSuffix1_le hstem
      cases h; simp only; omega

theorem length_readBody_le {name : List Char} {start : Mark} {c : Cursor}
    {r : Directive × Cursor} (h : readBody name start c = .ok r) :
    r.2.rest.length ≤ c.rest.length := by
  unfold readBody at h
  repeat' split at h
  all_goals first
    | cases h
    | exact length_readVersion_le h
    | exact length_readTag_le h

theorem length_read_le {start : Mark} {c : Cursor} {r : Directive × Cursor}
    (h : read start c = .ok r) : r.2.rest.length ≤ c.rest.length := by
  unfold read at h
  simp only [bind, Except.bind, pure, Except.pure] at h
  split at h
  · cases h
  · next body hbody =>
    have h0 := c.length_skip_le isWordChar
    have h1 := length_readBody_le hbody
    have h2 := body.2.length_skip_le isBlank
    have h3 := (body.2.skip isBlank).length_skipComment_le
    have h4 := (body.2.skip isBlank).skipComment.length_skipBreak_le
    split at h <;> cases h
    simp only; omega

end Directive

end Verdict.Yaml
