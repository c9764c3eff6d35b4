-- Texts between double quotes. Main statement: reading a text that was written
-- gives it back, whatever its characters are and whatever follows it.
import Mathlib.Algebra.Group.Nat.Defs
import Verdict.Script.Writing
import Verdict.Yaml.Scalar.Quoted

namespace Verdict

open Script (Layout)

/-! ## Code points -/

theorem Yaml.hexValue_hexDigit (layout : Layout) {n : Nat} (h : n < 16) :
    hexValue (layout.hexDigit n) = some n := by
  have hall : ∀ capitals : Bool, ∀ n < 16, hexValue
      (if capitals then (Nat.digitChar n).toUpper else Nat.digitChar n) = some n := by decide
  exact hall layout.capitals n h

theorem Yaml.Quoted.ofCode_toNat (c : Char) : ofCode c.toNat = some c := by
  have hvalid : c.toNat.isValidChar := c.valid
  rw [ofCode, if_pos hvalid, Char.ofNat_toNat]

namespace Yaml.Quoted

theorem readDouble_hexDigit (layout : Layout) (start first : Mark) (left value : Nat) {n : Nat}
    (hn : n < 16) (rest : List Char) (m : Mark) (gap : Gap) (out : List Char) :
    readDouble start (layout.hexDigit n :: rest) m (some ⟨first, left, value⟩) gap out =
      if left = 1 then
        match ofCode (value * 16 + n) with
        | some c => readDouble start rest (m.advance 1) none .none (c :: out)
        | none => .error (.within .escape start .badCodePoint first)
      else
        readDouble start rest (m.advance 1) (some ⟨first, left - 1, value * 16 + n⟩) .none out := by
  rewrite [readDouble, hexValue_hexDigit layout hn]
  rfl

/-- The first digits of a code point, with some left to read. -/
theorem readDouble_hexDigits (layout : Layout) (start first : Mark) (count left n value : Nat)
    (hleft : 0 < left) (hn : n < 16 ^ count) (rest : List Char) (m : Mark) (out : List Char) :
    readDouble start (layout.hexDigits count n ++ rest) m (some ⟨first, left + count, value⟩) .none
        out =
      readDouble start rest (m.advance count) (some ⟨first, left, value * 16 ^ count + n⟩) .none
        out := by
  induction count generalizing n left rest with
  | zero =>
    have hzero : n = 0 := by omega
    simp [Layout.hexDigits, Mark.advance, hzero]
  | succ count ih =>
    have hdiv : n / 16 < 16 ^ count := by
      rw [Nat.div_lt_iff_lt_mul (by decide), ← Nat.pow_succ]
      exact hn
    have hmod : n % 16 < 16 := Nat.mod_lt n (by decide)
    have hmore : left + 1 ≠ 1 := by omega
    have hvalue : (value * 16 ^ count + n / 16) * 16 + n % 16 = value * 16 ^ (count + 1) + n := by
      rw [Nat.pow_succ, Nat.add_mul, Nat.mul_assoc, Nat.add_assoc, Nat.div_add_mod']
    rw [Layout.hexDigits, List.append_assoc, Nat.add_comm count 1, ← Nat.add_assoc,
      ih (left + 1) (n / 16) (Nat.succ_pos _) hdiv, List.singleton_append,
      readDouble_hexDigit _ _ _ _ _ hmod, if_neg hmore, hvalue, Nat.add_comm 1 count]
    rfl

/-- Eight digits are enough for every character. -/
theorem readDouble_codePoint (layout : Layout) (start first : Mark) (c : Char) (rest : List Char)
    (m : Mark) (out : List Char) :
    readDouble start (layout.hexDigits 8 c.toNat ++ rest) m (some ⟨first, 8, 0⟩) .none out =
      readDouble start rest (m.advance 8) none .none (c :: out) := by
  have hdiv : c.toNat / 16 < 16 ^ 7 := by
    have hlt : c.toNat < 16 ^ 8 := c.val.toNat_lt
    rw [Nat.div_lt_iff_lt_mul (by decide)]
    exact hlt
  have hmod : c.toNat % 16 < 16 := Nat.mod_lt _ (by decide)
  rw [Layout.hexDigits, List.append_assoc,
    readDouble_hexDigits layout start first 7 1 _ 0 (by decide) hdiv, List.singleton_append,
    readDouble_hexDigit _ _ _ _ _ hmod, if_pos rfl, Nat.zero_mul, Nat.zero_add, Nat.div_add_mod',
    ofCode_toNat]
  rfl

/-! ## Characters and texts -/

theorem isBreak_eq_false_of_ascii {c : Char} (hlow : ' ' ≤ c) (hhigh : c ≤ '~') :
    isBreak c = false := by
  have hne : ∀ d : Char, d < ' ' ∨ '~' < d → c ≠ d := by
    rintro d hd rfl
    rcases hd with hd | hd
    · exact absurd hlow (Char.not_le.mpr hd)
    · exact absurd hhigh (Char.not_le.mpr hd)
  simp [isBreak, hne '\r' (by decide), hne '\n' (by decide), hne '\x85' (by decide),
    hne '\u2028' (by decide), hne '\u2029' (by decide)]

/-- A backslash and what it makes text of. -/
theorem readDouble_escape (start : Mark) {c d : Char} (hescaped : escaped c = some d)
    (hbreak : isBreak c = false) (rest : List Char) (m : Mark) (gap : Gap) (out : List Char) :
    readDouble start ('\\' :: c :: rest) m none gap out =
      readDouble start rest (m.advance 2) none .none (d :: (gap.text.reverse ++ out)) := by
  rw [readDouble]
  · simp only [hbreak, hescaped, Bool.false_eq_true, if_false]
  · rintro _ rfl _
    cases hescaped

/-- A printable character stands for itself. -/
theorem readDouble_ascii (start : Mark) {c : Char} (hquote : c ≠ '"') (hbackslash : c ≠ '\\')
    (hlow : ' ' ≤ c) (hhigh : c ≤ '~') (rest : List Char) {m : Mark} (hm : 0 < m.column)
    (gap : Gap) (out : List Char) :
    readDouble start (c :: rest) m none gap out =
      if c = ' ' then readDouble start rest (m.past c) none (gap.blank c) out
      else readDouble start rest (m.past c) none .none (c :: (gap.text.reverse ++ out)) := by
  have hbreak := isBreak_eq_false_of_ascii hlow hhigh
  have htab : c ≠ '\t' := by
    rintro rfl
    exact absurd hlow (by decide)
  have hmarker : atMarker m (c :: rest) = false := by
    simp [atMarker, Nat.ne_of_gt hm]
  rw [readDouble]
  · simp only [hbreak, hmarker, isBlank, htab, decide_false, Bool.or_false, decide_eq_true_eq,
      Bool.false_eq_true, if_false]
  · exact hquote
  · exact fun _ h _ => hbackslash h
  · exact fun h _ => hbackslash h
  · exact fun _ _ h _ => hbackslash h
  · rintro _ rfl _
    cases hbreak

theorem Gap.text_blank {gap : Gap} (h : gap.hasBreak = false) (c : Char) :
    (gap.blank c).text = gap.text ++ [c] := by
  cases gap with
  | none => rfl
  | blanks cs => rfl
  | breaks first more => cases h

theorem Gap.hasBreak_blank (gap : Gap) (c : Char) : (gap.blank c).hasBreak = gap.hasBreak := by
  cases gap <;> rfl

/-- The white space before a character is text once the character is read. -/
theorem Gap.read_char (gap : Gap) (out : List Char) (c : Char) :
    (c :: (gap.text.reverse ++ out)).reverse ++ Gap.none.text = out.reverse ++ gap.text ++ [c] := by
  simp [Gap.text]

theorem readDouble_char (layout : Layout) (start : Mark) (c : Char) (rest : List Char) {m : Mark}
    (hm : 0 < m.column) {gap : Gap} (hgap : gap.hasBreak = false) (out : List Char) :
    ∃ m' gap' out', 0 < m'.column ∧ gap'.hasBreak = false ∧
      out'.reverse ++ gap'.text = out.reverse ++ gap.text ++ [c] ∧
      readDouble start (layout.char c ++ rest) m none gap out =
        readDouble start rest m' none gap' out' := by
  have hread := Gap.read_char gap out c
  unfold Layout.char
  split
  · next h =>
    refine ⟨m.advance 2, .none, c :: (gap.text.reverse ++ out), Nat.succ_pos _, rfl, hread, ?_⟩
    have hquoted : c = '"' ∨ c = '\\' := by simpa using h
    rcases hquoted with rfl | rfl
    · exact readDouble_escape start rfl rfl rest m gap out
    · exact readDouble_escape start rfl rfl rest m gap out
  · next hplain =>
    simp only [Bool.or_eq_true, decide_eq_true_eq, not_or] at hplain
    split
    · next hascii =>
      simp only [Bool.and_eq_true, decide_eq_true_eq] at hascii
      rw [List.singleton_append,
        readDouble_ascii start hplain.1 hplain.2 hascii.1 hascii.2 rest hm gap out]
      split
      · refine ⟨m.past c, gap.blank c, out, Nat.succ_pos _, ?_, ?_, rfl⟩
        · rw [Gap.hasBreak_blank, hgap]
        · rw [Gap.text_blank hgap, List.append_assoc]
      · exact ⟨m.past c, .none, c :: (gap.text.reverse ++ out), Nat.succ_pos _, rfl, hread, rfl⟩
    · refine ⟨(m.advance 2).advance 8, .none, c :: (gap.text.reverse ++ out), Nat.succ_pos _, rfl,
        hread, ?_⟩
      rw [List.cons_append, List.cons_append, readDouble]
      · exact readDouble_codePoint layout start _ c rest _ _
      · rintro _ h _
        cases h

theorem readDouble_chars (layout : Layout) (start : Mark) (cs rest : List Char) {m : Mark}
    (hm : 0 < m.column) {gap : Gap} (hgap : gap.hasBreak = false) (out : List Char) :
    ∃ m', readDouble start (cs.flatMap layout.char ++ '"' :: rest) m none gap out =
      .ok (out.reverse ++ gap.text ++ cs, ⟨rest, m'⟩) := by
  induction cs generalizing m gap out with
  | nil =>
    refine ⟨m.advance 1, ?_⟩
    rw [List.flatMap_nil, List.nil_append, readDouble]
    simp
  | cons c cs ih =>
    obtain ⟨m₁, gap₁, out₁, hm₁, hgap₁, hout, hread⟩ :=
      readDouble_char layout start c (cs.flatMap layout.char ++ '"' :: rest) hm hgap out
    obtain ⟨m', hrest⟩ := ih hm₁ hgap₁ out₁
    refine ⟨m', ?_⟩
    rw [List.flatMap_cons, List.append_assoc, hread, hrest, hout, List.append_assoc _ [c],
      List.singleton_append]

/-- A text that was written, read behind its opening quote. -/
theorem read_text (layout : Layout) (start : Mark) (text : String) (rest : List Char) {m : Mark}
    (hm : 0 < m.column) :
    ∃ m', read false start ⟨text.toList.flatMap layout.char ++ '"' :: rest, m⟩ =
      .ok (text.toList, ⟨rest, m'⟩) := by
  obtain ⟨m', h⟩ := readDouble_chars layout start text.toList rest hm
    (rfl : Gap.none.hasBreak = false) []
  exact ⟨m', h⟩

end Yaml.Quoted

end Verdict
