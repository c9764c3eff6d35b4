-- One text under two readers, the scan for the probe and the compiler. Main
-- statements: where the scan takes something off, what is left compiles exactly if
-- the whole is an equality, and to the same term; and the comparisons that compile
-- and that the scan passes over are those whose literal holds its own quote or has
-- white space around it that the scan does not know.
import Verdict.Proofs.PathQuery.Grammar

namespace Verdict.PathQuery

open Text (trimChars isBlank IsWhite)

/-! ## What a text compiles to -/

/-- The text compiles, to this term and with this comparison. -/
def CompilesTo (text : String) (term : Term) (comparison : Option Comparison) : Prop :=
  ∃ query, compile text = .ok query ∧ query.term = term ∧ query.comparison = comparison

/-- The text does not compile. -/
def IsRefused (text : String) : Prop := ∃ fault, compile text = .error fault

theorem compilesTo_iff {text : String} {term : Term} {comparison : Option Comparison} :
    CompilesTo text term comparison ↔ parse (trimChars text.toList) = .ok (term, comparison) := by
  unfold CompilesTo
  rw [compile_eq]
  constructor
  · rintro ⟨query, hquery, rfl, rfl⟩
    obtain ⟨parsed, hparsed, rfl⟩ := map_eq_ok_iff.mp hquery
    exact hparsed
  · intro h
    rw [h]
    exact ⟨_, rfl, rfl, rfl⟩

theorem isRefused_iff {text : String} :
    IsRefused text ↔ ∃ fault, parse (trimChars text.toList) = .error fault := by
  unfold IsRefused
  rw [compile_eq]
  simp only [map_eq_error_iff]

/-! ## Literals of the compiler -/

/-- What follows the `=` of a comparison that compiles: a quoted literal that may
hold its own quote, with white space of any kind around it. -/
structure Operand where
  /-- The white space before the literal. -/
  gap : List Char
  quote : Char
  /-- What stands between the quotes. -/
  body : List Char
  /-- The white space after the literal. -/
  tail : List Char
  isWhite_gap : IsWhite gap
  isQuote_quote : Probe.isQuote quote
  eq_notMem : '=' ∉ body
  isWhite_tail : IsWhite tail

/-- The operand as it is written. -/
def Operand.chars (o : Operand) : List Char :=
  o.gap ++ o.quote :: (o.body ++ o.quote :: o.tail)

def Operand.text (o : Operand) : String := String.ofList o.chars

/-- The literal of the operand holds its own quote, or white space that is not
space, tab or line break stands around it. -/
def Operand.IsOdd (o : Operand) : Prop :=
  o.quote ∈ o.body ∨ ∃ c ∈ o.gap ++ o.tail, Probe.isSpace c = false

theorem isRight_iff {cs : List Char} {literal : String} :
    IsRight cs literal ↔ ∃ o : Operand, cs = o.chars ∧ literal = String.ofList o.body := by
  constructor
  · rintro ⟨w, quote, body, w', hw, hquote, hbody, hw', hcs, hliteral⟩
    exact ⟨⟨w, quote, body, w', hw, hquote, hbody, hw'⟩, hcs, hliteral⟩
  · rintro ⟨o, hcs, hliteral⟩
    exact ⟨o.gap, o.quote, o.body, o.tail, o.isWhite_gap, o.isQuote_quote, o.eq_notMem,
      o.isWhite_tail, hcs, hliteral⟩

theorem Operand.eq_notMem_chars (o : Operand) : '=' ∉ o.chars :=
  (isRight_iff.mpr ⟨o, rfl, rfl⟩).eq_notMem

theorem takeWhile_append_cons {w : List Char} (hw : IsWhite w) {c : Char}
    (hc : isBlank c = false) (rest : List Char) : (w ++ c :: rest).takeWhile isBlank = w := by
  rw [List.takeWhile_append_of_pos hw, List.takeWhile_cons_of_neg (by simp [hc]), List.append_nil]

theorem Operand.takeWhile_chars (o : Operand) : o.chars.takeWhile isBlank = o.gap :=
  takeWhile_append_cons o.isWhite_gap (isBlank_eq_false_of_isQuote o.isQuote_quote) _

theorem Operand.takeWhile_reverse_chars (o : Operand) :
    o.chars.reverse.takeWhile isBlank = o.tail.reverse := by
  have hrev : o.chars.reverse =
      o.tail.reverse ++ o.quote :: (o.gap ++ o.quote :: o.body).reverse := by
    simp [chars]
  have hwhite : IsWhite o.tail.reverse := fun c hc => o.isWhite_tail c (List.mem_reverse.mp hc)
  rw [hrev, takeWhile_append_cons hwhite (isBlank_eq_false_of_isQuote o.isQuote_quote)]

/-- What is written tells the literal from the white space around it. -/
theorem Operand.eq_of_chars_eq {o other : Operand} (h : o.chars = other.chars) : o = other := by
  have hgap : o.gap = other.gap := by
    rw [← o.takeWhile_chars, h, other.takeWhile_chars]
  have htail : o.tail = other.tail := by
    rw [← List.reverse_inj, ← o.takeWhile_reverse_chars, h, other.takeWhile_reverse_chars]
  obtain ⟨gap, quote, body, tail, _, _, _, _⟩ := o
  obtain ⟨gap', quote', body', tail', _, _, _, _⟩ := other
  cases hgap
  cases htail
  obtain ⟨rfl, hrest⟩ := List.cons.inj (List.append_cancel_left h)
  cases List.append_cancel_right hrest
  rfl

/-- A literal that the scan takes off is one of the compiler. -/
def Operand.ofLiteral (l : Probe.Literal) : Operand where
  gap := l.gap
  quote := l.quote
  body := l.body
  tail := l.tail
  isWhite_gap c hc := isBlank_of_isSpace (l.isSpace_gap c hc)
  isQuote_quote := l.isQuote_quote
  eq_notMem := l.eq_notMem
  isWhite_tail c hc := isBlank_of_isSpace (l.isSpace_tail c hc)

theorem Operand.chars_ofLiteral (l : Probe.Literal) : (ofLiteral l).chars = l.chars := rfl

/-- The scan knows every literal of the compiler that is not odd, and no other. -/
theorem Operand.exists_literal_iff {o : Operand} :
    (∃ l : Probe.Literal, o.chars = l.chars) ↔ ¬ o.IsOdd := by
  constructor
  · rintro ⟨l, hl⟩
    rw [eq_of_chars_eq (hl.trans (chars_ofLiteral l).symm)]
    rintro (hquote | ⟨c, hmem, hspace⟩)
    · exact l.quote_notMem hquote
    · have hc : Probe.isSpace c :=
        (List.mem_append.mp hmem).elim (l.isSpace_gap c) (l.isSpace_tail c)
      rw [hc] at hspace
      cases hspace
  · intro hplain
    rw [IsOdd, not_or] at hplain
    have hspaces : ∀ c ∈ o.gap ++ o.tail, Probe.isSpace c := by
      intro c hc
      exact Bool.of_not_eq_false fun hspace => hplain.2 ⟨c, hc, hspace⟩
    rw [List.forall_mem_append] at hspaces
    exact ⟨⟨o.gap, o.quote, o.body, o.tail, hspaces.1, o.isQuote_quote, hplain.1, o.eq_notMem,
      hspaces.2⟩, rfl⟩

/-! ## Both readers -/

/-- The last `=` splits a text in one way. -/
theorem append_eq_inj {before before' after after' : List Char} (h : '=' ∉ after)
    (h' : '=' ∉ after') (heq : before ++ '=' :: after = before' ++ '=' :: after') :
    before = before' ∧ after = after' := by
  have hsplit := splitLastEq_append h before
  rw [heq, splitLastEq_append h'] at hsplit
  cases hsplit
  exact ⟨rfl, rfl⟩

theorem toList_append_operand (left : String) (o : Operand) :
    (left ++ "=" ++ o.text).toList = left.toList ++ '=' :: o.chars := by
  simp [Operand.text]

theorem operand_unique {left left' : String} {o o' : Operand}
    (h : left ++ "=" ++ o.text = left' ++ "=" ++ o'.text) : left = left' ∧ o = o' := by
  rw [← String.toList_inj, toList_append_operand, toList_append_operand] at h
  obtain ⟨hleft, ho⟩ := append_eq_inj o.eq_notMem_chars o'.eq_notMem_chars h
  exact ⟨String.toList_inj.mp hleft, Operand.eq_of_chars_eq ho⟩

/-- The scan passes over exactly the odd operands. -/
theorem strip_eq_self_iff (left : String) (o : Operand) :
    Probe.strip (left ++ "=" ++ o.text) = left ++ "=" ++ o.text ↔ o.IsOdd := by
  rw [← not_iff_not, ← ne_eq (Probe.strip _), Probe.strip_ne_iff, ← Operand.exists_literal_iff]
  constructor
  · rintro ⟨before, l, h⟩
    rw [← String.toList_inj, toList_append_operand, Probe.toList_append_literal] at h
    exact ⟨l, (append_eq_inj o.eq_notMem_chars l.eq_notMem_chars h).2⟩
  · rintro ⟨l, hl⟩
    refine ⟨left, l, ?_⟩
    rw [Operand.text, hl]
    rfl

section

variable {before : String} {l : Probe.Literal} {term : Term}

/-- The left side of an equality with a literal is what it compares. -/
theorem compilesTo_append_literal_iff {literal : String} :
    CompilesTo (before ++ "=" ++ l.text) term (some ⟨false, literal⟩) ↔
      CompilesTo before term none ∧ literal = String.ofList l.body := by
  rw [compilesTo_iff, compilesTo_iff, Probe.toList_append_literal]
  rcases parse_cases before.toList l with ⟨found, hleft, hwhole⟩ | ⟨found, fault, hleft, hwhole⟩ |
    ⟨fault, hleft, hwhole⟩
  · rw [hleft, hwhole]
    simp [eq_comm]
  · rw [hleft, hwhole]
    simp
  · rw [hwhole]
    simp [hleft]

/-- The `!` of a `!=` is left behind, and no term holds one. -/
theorem isRefused_of_negated {literal : String}
    (h : CompilesTo (before ++ "=" ++ l.text) term (some ⟨true, literal⟩)) : IsRefused before := by
  rw [compilesTo_iff, Probe.toList_append_literal] at h
  rw [isRefused_iff]
  rcases parse_cases before.toList l with ⟨found, _, hwhole⟩ | ⟨_, fault, hleft, _⟩ |
    ⟨fault, _, hwhole⟩
  · rw [hwhole] at h
    cases h
  · exact ⟨fault, hleft⟩
  · rw [hwhole] at h
    cases h

/-- No query has two comparisons. -/
theorem isRefused_of_compared {comparison : Comparison}
    (h : CompilesTo before term (some comparison)) : IsRefused (before ++ "=" ++ l.text) := by
  rw [compilesTo_iff] at h
  rw [isRefused_iff, Probe.toList_append_literal]
  rcases parse_cases before.toList l with ⟨found, hleft, _⟩ | ⟨_, fault, hleft, _⟩ |
    ⟨fault, _, hwhole⟩
  · rw [hleft] at h
    cases h
  · rw [hleft] at h
    cases h
  · exact ⟨fault, hwhole⟩

end

/-- What follows the last `=` of a comparison that compiles is an operand. -/
theorem exists_operand {text : String} {term : Term} {comparison : Comparison}
    (h : CompilesTo text term (some comparison)) :
    ∃ left, ∃ o : Operand, text = left ++ "=" ++ o.text ∧
      comparison.literal = String.ofList o.body := by
  have hquery := parse_trimChars_eq_ok_iff.mp (compilesTo_iff.mp h)
  generalize hcs : text.toList = cs at hquery
  cases hquery with
  | compared _ hright =>
    rename_i left right _ _ _
    obtain ⟨o, rfl, hliteral⟩ := isRight_iff.mp hright
    refine ⟨String.ofList left, o, String.toList_inj.mp ?_, hliteral⟩
    rw [toList_append_operand, String.toList_ofList, hcs]

/-- Where the scan takes a literal off, the text compiles to an equality exactly if
what is left compiles to a term alone, which is then the term of the equality, and
its literal is the one taken off. What is left of a `!=` does not compile, and
where a comparison is left the whole does not. A comparison that compiles can be
read in one way, and the scan passes over it exactly if its operand is odd. -/
theorem the_scan_and_the_compiler_agree_on_comparisons (text : String) :
    (Probe.strip text ≠ text →
      ∃ l : Probe.Literal, text = Probe.strip text ++ "=" ++ l.text ∧
        (∀ term literal, CompilesTo text term (some ⟨false, literal⟩) ↔
          CompilesTo (Probe.strip text) term none ∧ literal = String.ofList l.body) ∧
        (∀ term literal, CompilesTo text term (some ⟨true, literal⟩) →
          IsRefused (Probe.strip text)) ∧
        (∀ term comparison, CompilesTo (Probe.strip text) term (some comparison) →
          IsRefused text)) ∧
    (∀ term comparison, CompilesTo text term (some comparison) →
      ∃ left, ∃ o : Operand, text = left ++ "=" ++ o.text ∧
        comparison.literal = String.ofList o.body ∧
        (∀ left' o', text = left' ++ "=" ++ Operand.text o' → left' = left ∧ o' = o) ∧
        (Probe.strip text = text ↔ o.IsOdd)) := by
  constructor
  · intro hcut
    obtain ⟨l, hl⟩ := Probe.compares_of_strip_ne hcut
    refine ⟨l, hl, ?_, ?_, ?_⟩
    · intro term literal
      conv => lhs; rw [hl]
      exact compilesTo_append_literal_iff
    · intro term literal h
      rw [hl] at h
      exact isRefused_of_negated h
    · intro term comparison h
      rw [hl]
      exact isRefused_of_compared h
  · intro term comparison h
    obtain ⟨left, o, rfl, hliteral⟩ := exists_operand h
    refine ⟨left, o, rfl, hliteral, ?_, strip_eq_self_iff left o⟩
    intro left' o' htext
    exact operand_unique htext.symm

/-- What is left of a `!=`, and an equality that ends with a no-break space, which
only the compiler takes for white space. -/
theorem a_no_break_space_keeps_a_comparison_from_the_scan :
    Probe.strip "a != 'x'" ≠ "a != 'x'" ∧ CompilesTo "a != 'x'" (.path "a") (some ⟨true, "x"⟩) ∧
    IsRefused (Probe.strip "a != 'x'") ∧
    CompilesTo "a = 'x'\u00a0" (.path "a") (some ⟨false, "x"⟩) ∧
    Probe.strip "a = 'x'\u00a0" = "a = 'x'\u00a0" := by
  have hcut : Probe.strip "a != 'x'" ≠ "a != 'x'" := by decide
  have hnegated : CompilesTo "a != 'x'" (.path "a") (some ⟨true, "x"⟩) := ⟨_, rfl, rfl, rfl⟩
  have hequality : CompilesTo "a = 'x'\u00a0" (.path "a") (some ⟨false, "x"⟩) :=
    ⟨_, rfl, rfl, rfl⟩
  obtain ⟨_, -, -, hrefused, -⟩ :=
    (the_scan_and_the_compiler_agree_on_comparisons "a != 'x'").1 hcut
  obtain ⟨left, o, -, -, honly, hkept⟩ :=
    (the_scan_and_the_compiler_agree_on_comparisons "a = 'x'\u00a0").2 _ _ hequality
  have hgap : IsWhite [' '] := List.forall_mem_singleton.mpr (by decide)
  have htail : IsWhite ['\u00a0'] := List.forall_mem_singleton.mpr (by decide)
  obtain ⟨-, ho⟩ :=
    honly "a " ⟨[' '], '\'', ['x'], ['\u00a0'], hgap, by decide, by decide, htail⟩ rfl
  have hodd : o.IsOdd := ho ▸ .inr ⟨'\u00a0', by simp, by decide⟩
  exact ⟨hcut, hnegated, hrefused _ _ hnegated, hequality, hkept.mpr hodd⟩

end Verdict.PathQuery
