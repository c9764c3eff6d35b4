-- Quoted scalars. Between single quotes a quote is written twice; between
-- double quotes a backslash starts an escape. Line breaks are folded in both.
import Verdict.Yaml.Fault
import Verdict.Yaml.Folding

namespace Verdict.Yaml.Quoted

/-- A document marker stands here, at the start of a line. -/
def atMarker (m : Mark) (cs : List Char) : Bool := m.column = 0 && isDocumentMarker cs

/-! ## Single quotes -/

/-- The rest of a scalar in single quotes that began at `start`: `out` holds
its text so far in backward order, and `gap` the white space since. -/
def readSingle (start : Mark) :
    List Char → Mark → Gap → List Char → Except Fault (List Char × Cursor)
  | [], m, _, _ => .error (.within .quoted start .unexpectedEnd m)
  | '\'' :: '\'' :: rest, m, gap, out =>
    readSingle start rest (m.advance 2) .none ('\'' :: (gap.text.reverse ++ out))
  | '\'' :: rest, m, gap, out =>
    .ok ((gap.text.reverse ++ out).reverse, ⟨rest, m.advance 1⟩)
  | '\r' :: '\n' :: rest, m, gap, out =>
    readSingle start rest (m.newline 2) (gap.newline '\n') out
  | c :: rest, m, gap, out =>
    if isBreak c then readSingle start rest (m.newline c.utf8Size) (gap.newline c) out
    else if isBlank c then readSingle start rest (m.past c) (gap.blank c) out
    else if atMarker m (c :: rest) then .error (.within .quoted start .unexpectedMarker m)
    else readSingle start rest (m.past c) .none (c :: (gap.text.reverse ++ out))

/-! ## Double quotes -/

/-- The character that a backslash and a letter stand for. -/
def escaped (c : Char) : Option Char :=
  match c with
  | '0' => some '\x00'
  | 'a' => some '\x07'
  | 'b' => some '\x08'
  | 't' => some '\t'
  | '\t' => some '\t'
  | 'n' => some '\n'
  | 'v' => some '\x0b'
  | 'f' => some '\x0c'
  | 'r' => some '\r'
  | 'e' => some '\x1b'
  | ' ' => some ' '
  | '"' => some '"'
  | '/' => some '/'
  | '\\' => some '\\'
  | 'N' => some '\x85'
  | '_' => some '\u00a0'
  | 'L' => some '\u2028'
  | 'P' => some '\u2029'
  | _ => none

/-- How many hexadecimal digits follow a backslash and a letter. -/
def codeLength (c : Char) : Option Nat :=
  match c with
  | 'x' => some 2
  | 'u' => some 4
  | 'U' => some 8
  | _ => none

/-- The character of a code point. -/
def ofCode (n : Nat) : Option Char := if n.isValidChar then some (Char.ofNat n) else none

/-- The code point that is being read, if one is: where its digits began, how
many are left, and the value of those read. -/
structure Code where
  start : Mark
  left : Nat
  value : Nat

/-- The rest of a scalar in double quotes that began at `start`: `out` holds
its text so far in backward order, and `gap` the white space since. -/
def readDouble (start : Mark) :
    List Char → Mark → Option Code → Gap → List Char → Except Fault (List Char × Cursor)
  | [], _, some code, _, _ => .error (.within .escape start .badHexadecimal code.start)
  | [], m, none, _, _ => .error (.within .quoted start .unexpectedEnd m)
  | c :: rest, m, some code, _, out =>
    match hexValue c with
    | none => .error (.within .escape start .badHexadecimal code.start)
    | some d =>
      let value := code.value * 16 + d
      if code.left = 1 then
        match ofCode value with
        | some c => readDouble start rest (m.advance 1) none .none (c :: out)
        | none => .error (.within .escape start .badCodePoint code.start)
      else
        readDouble start rest (m.advance 1) (some ⟨code.start, code.left - 1, value⟩) .none out
  | '"' :: rest, m, none, gap, out =>
    .ok ((gap.text.reverse ++ out).reverse, ⟨rest, m.advance 1⟩)
  | '\\' :: '\r' :: '\n' :: rest, m, none, gap, out =>
    readDouble start rest ((m.advance 1).newline 2) none (.breaks none [])
      (gap.text.reverse ++ out)
  | ['\\'], m, none, _, _ => .error (.within .escape start .unknownEscape m)
  | '\\' :: c :: rest, m, none, gap, out =>
    if isBreak c then
      readDouble start rest ((m.advance 1).newline c.utf8Size) none (.breaks none [])
        (gap.text.reverse ++ out)
    else
      match escaped c, codeLength c with
      | some c, _ =>
        readDouble start rest (m.advance 2) none .none (c :: (gap.text.reverse ++ out))
      | none, some left =>
        readDouble start rest (m.advance 2) (some ⟨m.advance 2, left, 0⟩) .none
          (gap.text.reverse ++ out)
      | none, none => .error (.within .escape start .unknownEscape m)
  | '\r' :: '\n' :: rest, m, none, gap, out =>
    readDouble start rest (m.newline 2) none (gap.newline '\n') out
  | c :: rest, m, none, gap, out =>
    if isBreak c then readDouble start rest (m.newline c.utf8Size) none (gap.newline c) out
    else if isBlank c then readDouble start rest (m.past c) none (gap.blank c) out
    else if atMarker m (c :: rest) then .error (.within .quoted start .unexpectedMarker m)
    else readDouble start rest (m.past c) none .none (c :: (gap.text.reverse ++ out))

/-- A scalar behind its opening quote: its text, and what follows it. -/
def read (single : Bool) (start : Mark) (c : Cursor) : Except Fault (List Char × Cursor) :=
  if single then readSingle start c.rest c.mark .none []
  else readDouble start c.rest c.mark none .none []

/-! ## What is left is shorter -/

theorem length_readSingle_le {start : Mark} {cs : List Char} {m : Mark} {gap : Gap}
    {out : List Char} {r : List Char × Cursor} (h : readSingle start cs m gap out = .ok r) :
    r.2.rest.length ≤ cs.length := by
  fun_induction readSingle start cs m gap out generalizing r
  all_goals first
    | (cases h; done)
    | (cases h; simp only [List.length_cons]; omega)
    | (next ih => have := ih h; simp only [List.length_cons]; omega)

theorem length_readDouble_le {start : Mark} {cs : List Char} {m : Mark} {code : Option Code}
    {gap : Gap} {out : List Char} {r : List Char × Cursor}
    (h : readDouble start cs m code gap out = .ok r) : r.2.rest.length ≤ cs.length := by
  fun_induction readDouble start cs m code gap out generalizing r
  all_goals first
    | (cases h; done)
    | (cases h; simp only [List.length_cons]; omega)
    | (next ih => have := ih h; simp only [List.length_cons]; omega)

theorem length_read_le {single : Bool} {start : Mark} {c : Cursor} {r : List Char × Cursor}
    (h : read single start c = .ok r) : r.2.rest.length ≤ c.rest.length := by
  unfold read at h
  split at h
  · exact length_readSingle_le h
  · exact length_readDouble_le h

end Verdict.Yaml.Quoted
