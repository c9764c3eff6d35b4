-- Colours. A line is read as a terminal reads it: a colour code takes no place, and
-- every other character is seen. Main statement: what is seen of a line with
-- colours is the line without them, at every limit, and each colour is closed.
import Verdict.Check
import Verdict.Proofs.Display.Truncation

namespace Verdict.Display

/-! ## A line on a terminal -/

/-- The number of the code at the start of a text, and what stands behind the
code. A code is ESC, a bracket, digits and an `m`. -/
def code? : List Char → Option (List Char × List Char)
  | '\x1b' :: '[' :: cs =>
    match cs.dropWhile Char.isDigit with
    | 'm' :: rest => some (cs.takeWhile Char.isDigit, rest)
    | _ => none
  | _ => none

/-- What a terminal makes of a piece of a line. -/
inductive Piece where
  /-- A character that is seen. -/
  | seen (c : Char)
  /-- A code, by its digits. -/
  | code (digits : List Char)
  deriving DecidableEq, Repr

theorem length_lt_of_code? {cs digits rest : List Char} (h : code? cs = some (digits, rest)) :
    rest.length < cs.length := by
  unfold code? at h
  split at h
  · rename_i tail
    split at h
    · rename_i hdrop
      have hle := (List.dropWhile_suffix (l := tail) Char.isDigit).length_le
      rw [hdrop, List.length_cons] at hle
      cases h
      simp only [List.length_cons]
      omega
    · cases h
  · cases h

/-- The pieces of a line, from left to right. -/
def pieces : List Char → List Piece
  | [] => []
  | c :: cs =>
    match _h : code? (c :: cs) with
    | some (digits, rest) => .code digits :: pieces rest
    | none => .seen c :: pieces cs
termination_by cs => cs.length
decreasing_by
  · exact length_lt_of_code? (by assumption)
  · simp

def Piece.char? : Piece → Option Char
  | .seen c => some c
  | .code _ => none

def Piece.digits? : Piece → Option String
  | .seen _ => none
  | .code digits => some (String.ofList digits)

/-- The line without its codes. -/
def visible (line : String) : String :=
  String.ofList ((pieces line.toList).filterMap Piece.char?)

/-- The numbers of the codes in a line. -/
def codes (line : String) : List String := (pieces line.toList).filterMap Piece.digits?

/-- Behind each code that is no reset there is a reset. -/
def Closed : List Piece → Prop
  | [] => True
  | .seen _ :: ps => Closed ps
  | .code digits :: ps => (digits = ['0'] ∨ .code ['0'] ∈ ps) ∧ Closed ps

/-! ## Reading pieces -/

theorem code?_of_ne {c : Char} (h : c ≠ '\x1b') (cs : List Char) : code? (c :: cs) = none := by
  unfold code?
  split
  · rename_i heq
    cases heq
    contradiction
  · rfl

theorem pieces_cons_of_none {c : Char} {cs : List Char} (h : code? (c :: cs) = none) :
    pieces (c :: cs) = .seen c :: pieces cs := by
  rw [pieces]
  split
  · simp_all
  · rfl

theorem pieces_of_code? {cs digits rest : List Char} (h : code? cs = some (digits, rest)) :
    pieces cs = .code digits :: pieces rest := by
  cases cs with
  | nil => cases h
  | cons c cs =>
    rw [pieces]
    split
    · simp_all
    · simp_all

/-- Where no ESC is, every character is seen. -/
theorem pieces_append {cs : List Char} (h : '\x1b' ∉ cs) (rest : List Char) :
    pieces (cs ++ rest) = cs.map .seen ++ pieces rest := by
  induction cs with
  | nil => rfl
  | cons c cs ih =>
    rw [List.mem_cons, not_or] at h
    rw [List.cons_append, pieces_cons_of_none (code?_of_ne (Ne.symm h.1) _), ih h.2]
    rfl

/-- A text that is a code and nothing else. -/
def IsCode (code : String) (digits : List Char) : Prop :=
  code.toList = '\x1b' :: '[' :: digits ++ ['m'] ∧ digits.all Char.isDigit

theorem IsCode.pieces_append {code : String} {digits : List Char} (h : IsCode code digits)
    (rest : List Char) : pieces (code.toList ++ rest) = .code digits :: pieces rest := by
  obtain ⟨hcode, hall⟩ := h
  have hdigits : ∀ c ∈ digits, c.isDigit := List.all_eq_true.mp hall
  apply pieces_of_code?
  have hdrop : (digits ++ 'm' :: rest).dropWhile Char.isDigit = 'm' :: rest := by
    rw [List.dropWhile_append_of_pos hdigits]
    rfl
  have htake : (digits ++ 'm' :: rest).takeWhile Char.isDigit = digits := by
    rw [List.takeWhile_append_of_pos hdigits]
    simp
  simp [hcode, code?, hdrop, htake]

theorem isCode_reset : IsCode reset ['0'] := by
  unfold IsCode
  decide

/-! ## A line with at most one colour -/

/-- The pieces of a line that shows a text without ESC, of which a part may stand in
the colour with these digits. -/
inductive Paints (text : List Char) : Option (List Char) → List Piece → Prop
  | plain : '\x1b' ∉ text → Paints text none (text.map .seen)
  | painted {digits before middle after : List Char} : '\x1b' ∉ text →
      text = before ++ middle ++ after →
      Paints text (some digits) (before.map .seen ++
        .code digits :: (middle.map .seen ++ .code ['0'] :: after.map .seen))

/-- The numbers of the codes of a line in a colour, or in none. -/
def codesOf : Option (List Char) → List String
  | some digits => [String.ofList digits, "0"]
  | none => []

theorem Paints.escape_notMem {text : List Char} {color : Option (List Char)} {ps : List Piece}
    (h : Paints text color ps) : '\x1b' ∉ text := by
  cases h with
  | plain h => exact h
  | painted h _ => exact h

theorem filterMap_char?_map_seen (cs : List Char) :
    (cs.map Piece.seen).filterMap Piece.char? = cs := by
  induction cs with
  | nil => rfl
  | cons c cs ih => simp [Piece.char?, ih]

theorem filterMap_digits?_map_seen (cs : List Char) :
    (cs.map Piece.seen).filterMap Piece.digits? = [] := by
  simp [Piece.digits?]

theorem Paints.filterMap_char? {text : List Char} {color : Option (List Char)} {ps : List Piece}
    (h : Paints text color ps) : ps.filterMap Piece.char? = text := by
  cases h with
  | plain _ => exact filterMap_char?_map_seen text
  | painted _ htext =>
    simp only [List.filterMap_append, List.filterMap_cons, Piece.char?, filterMap_char?_map_seen,
      htext, List.append_assoc]

theorem Paints.filterMap_digits? {text : List Char} {color : Option (List Char)} {ps : List Piece}
    (h : Paints text color ps) : ps.filterMap Piece.digits? = codesOf color := by
  cases h with
  | plain _ => exact filterMap_digits?_map_seen text
  | painted _ _ =>
    simp only [List.filterMap_append, List.filterMap_cons, Piece.digits?,
      filterMap_digits?_map_seen, List.nil_append]
    rfl

theorem closed_map_seen_append {cs : List Char} {ps : List Piece} (h : Closed ps) :
    Closed (cs.map .seen ++ ps) := by
  induction cs with
  | nil => exact h
  | cons c cs ih => exact ih

theorem closed_map_seen (cs : List Char) : Closed (cs.map .seen) := by
  have h : Closed (cs.map .seen ++ []) := closed_map_seen_append trivial
  rwa [List.append_nil] at h

theorem Paints.closed {text : List Char} {color : Option (List Char)} {ps : List Piece}
    (h : Paints text color ps) : Closed ps := by
  cases h with
  | plain _ => exact closed_map_seen text
  | painted _ _ =>
    refine closed_map_seen_append ⟨.inr ?_, closed_map_seen_append ⟨.inl rfl, closed_map_seen _⟩⟩
    simp

/-! ## The lines of a report -/

/-- No ESC in a text. -/
def Unescaped (text : String) : Prop := '\x1b' ∉ text.toList

instance (text : String) : Decidable (Unescaped text) :=
  inferInstanceAs (Decidable ('\x1b' ∉ text.toList))

theorem unescaped_append {text other : String} (h : Unescaped text) (h' : Unescaped other) :
    Unescaped (text ++ other) := by
  unfold Unescaped at *
  simp [h, h']

/-- A text that is cut short has no character but its own and the dots. -/
theorem unescaped_truncate {text : String} (h : Unescaped text) (limit : Nat) :
    Unescaped (truncate limit text) := by
  unfold Unescaped at *
  rw [toList_truncate]
  unfold truncateChars
  split
  · exact h
  · intro hmem
    rcases List.mem_append.mp hmem with hmem | hmem
    · exact h (List.mem_of_mem_take hmem)
    · simp at hmem

theorem paints_of_unescaped {text : String} (h : Unescaped text) :
    Paints text.toList none (pieces text.toList) := by
  have hpieces := pieces_append h []
  rw [List.append_nil] at hpieces
  rw [hpieces]
  simpa [pieces] using Paints.plain h

/-- One part of a line in a colour. -/
theorem paints_paint {color : String} {digits : List Char} (hcolor : IsCode color digits)
    {before middle after : String} (hbefore : Unescaped before) (hmiddle : Unescaped middle)
    (hafter : Unescaped after) :
    Paints (before ++ middle ++ after).toList (some digits)
      (pieces (before ++ (color ++ middle ++ reset) ++ after).toList) := by
  have htext := unescaped_append (unescaped_append hbefore hmiddle) hafter
  have hend := pieces_append hafter []
  rw [List.append_nil, pieces, List.append_nil] at hend
  have hpieces : pieces (before ++ (color ++ middle ++ reset) ++ after).toList =
      before.toList.map .seen ++ .code digits :: (middle.toList.map .seen ++
        .code ['0'] :: after.toList.map .seen) := by
    simp only [String.toList_append, List.append_assoc]
    rw [pieces_append hbefore, hcolor.pieces_append, pieces_append hmiddle,
      isCode_reset.pieces_append, hend]
  rw [hpieces]
  exact .painted htext (by simp only [String.toList_append])

end Verdict.Display

namespace Verdict

namespace Check

open Display

/-- The texts that a line is made of. -/
def Line.texts : Line → List String
  | .blank => []
  | .header name location => [name, location]
  | .nothing => []
  | .valid description => [description]
  | .probe text => [text]
  | .invalid description => [description]
  | .reason text => [text]

/-- The digits of the colour of a line, if it has one. -/
def Line.color? : Line → Option (List Char)
  | .header _ _ => some ['3', '3']
  | .valid _ => some ['3', '2']
  | .invalid _ => some ['3', '1']
  | .probe _ => some ['3', '6']
  | .blank => none
  | .nothing => none
  | .reason _ => none

/-- The numbers of the codes of a line with colours. -/
def Line.codes (line : Line) : List String := codesOf line.color?

theorem isCode_mark (ok : Bool) :
    IsCode (if ok then green else red) (if ok then ['3', '2'] else ['3', '1']) := by
  cases ok with
  | true => exact ⟨by decide, by decide⟩
  | false => exact ⟨by decide, by decide⟩

theorem paints_status (display : Display) (ok : Bool) {description : String}
    (h : Unescaped description) :
    Paints (Display.status { display with colors := false } ok description).toList
      (some (if ok then ['3', '2'] else ['3', '1']))
      (pieces (Display.status { display with colors := true } ok description).toList) := by
  have hshown := unescaped_truncate h display.truncateAt
  have hlead : Unescaped "  " := by decide
  have hmark : Unescaped (if ok then "✓" else "✗") := by cases ok <;> decide
  have hgap : Unescaped " " := by decide
  have hpaints := paints_paint (isCode_mark ok) hlead hmark (unescaped_append hgap hshown)
  cases ok with
  | true => simpa [Display.status, paint, String.append_assoc] using hpaints
  | false => simpa [Display.status, paint, String.append_assoc] using hpaints

theorem paints_header (display : Display) {name location : String} (hname : Unescaped name)
    (hlocation : Unescaped location) :
    Paints (Display.header { display with colors := false } name location).toList
      (some ['3', '3'])
      (pieces (Display.header { display with colors := true } name location).toList) := by
  have hcolor : IsCode yellow ['3', '3'] := ⟨by decide, by decide⟩
  have hempty : Unescaped "" := by decide
  have hopen : Unescaped " (" := by decide
  have hclose : Unescaped ")" := by decide
  have hpaints := paints_paint hcolor hempty hname
    (unescaped_append hopen (unescaped_append hlocation hclose))
  simpa [Display.header, paint, String.append_assoc] using hpaints

theorem paints_probe (display : Display) {text : String} (h : Unescaped text) :
    Paints (Display.probe { display with colors := false } text).toList (some ['3', '6'])
      (pieces (Display.probe { display with colors := true } text).toList) := by
  have hcolor : IsCode cyan ['3', '6'] := ⟨by decide, by decide⟩
  have hempty : Unescaped "" := by decide
  have hlead : Unescaped "      probe: " := by decide
  have hpaints := paints_paint hcolor hlead (unescaped_truncate h display.truncateAt) hempty
  simpa [Display.probe, paint, String.append_assoc] using hpaints

/-- The pieces of a line with colours show the line without them. -/
theorem Line.paints_text (display : Display) {line : Line}
    (h : ∀ text ∈ line.texts, Unescaped text) :
    Paints (line.text { display with colors := false }).toList line.color?
      (pieces (line.text { display with colors := true }).toList) := by
  cases line with
  | blank =>
    have hline : Unescaped "" := by decide
    exact paints_of_unescaped hline
  | nothing =>
    have hline : Unescaped "  (no assertions)" := by decide
    exact paints_of_unescaped hline
  | header name location =>
    have hname : Unescaped name := h name (by simp [texts])
    have hlocation : Unescaped location := h location (by simp [texts])
    exact paints_header display hname hlocation
  | valid description =>
    have hdescription : Unescaped description := h description (by simp [texts])
    exact paints_status display true hdescription
  | invalid description =>
    have hdescription : Unescaped description := h description (by simp [texts])
    exact paints_status display false hdescription
  | probe text =>
    have htext : Unescaped text := h text (by simp [texts])
    exact paints_probe display htext
  | reason text =>
    have hlead : Unescaped "      " := by decide
    have htext : Unescaped text := h text (by simp [texts])
    exact paints_of_unescaped (unescaped_append hlead htext)

/-- Of a line whose texts hold no ESC, what is seen with colours is the line without
colours, whatever the limit is. The codes in it are the one of its colour and the
reset, whole and whatever the limit is, and no part of a code is seen; each code
but a reset has a reset behind it. Without colours there are no codes. -/
theorem colours_never_change_the_visible_text (display : Display) {line : Line}
    (h : ∀ text ∈ line.texts, '\x1b' ∉ text.toList) :
    let colored := line.text { display with colors := true }
    let plain := line.text { display with colors := false }
    visible colored = plain ∧
    codes colored = line.codes ∧
    '\x1b' ∉ (visible colored).toList ∧
    Closed (pieces colored.toList) ∧
    codes plain = [] := by
  intro colored plain
  have hpaints : Paints plain.toList line.color? (pieces colored.toList) :=
    Line.paints_text display h
  have hplain : Unescaped plain := hpaints.escape_notMem
  have hvisible : visible colored = plain := by
    rw [visible, hpaints.filterMap_char?, String.ofList_toList]
  refine ⟨hvisible, hpaints.filterMap_digits?, ?_, hpaints.closed, ?_⟩
  · rw [hvisible]
    exact hplain
  · exact (paints_of_unescaped hplain).filterMap_digits?

/-- A probe that is cut short in colour: the cut is where it is without colours. -/
theorem a_coloured_probe_is_cut_where_a_plain_one_is :
    (∀ text ∈ (Line.probe "a/b = c ").texts, '\x1b' ∉ text.toList) ∧
    visible "      probe: \x1b[36ma/...\x1b[0m" = "      probe: a/..." ∧
    codes "      probe: \x1b[36ma/...\x1b[0m" = ["36", "0"] := by
  have htexts : ∀ text ∈ (Line.probe "a/b = c ").texts, '\x1b' ∉ text.toList := by decide
  have hline := colours_never_change_the_visible_text { truncateAt := 5 } htexts
  exact ⟨htexts, hline.1, hline.2.1⟩

end Check

end Verdict
