-- Path queries without their trailing comparison. The probe and the compiler
-- read the same text by rules of their own: from the end and from both ends,
-- with four white characters and with all of Unicode. Main statement: what is
-- left of an equality compiles to its term alone, and what is left of a `!=`
-- does not compile.
import Verdict.PathQuery
import Verdict.Proofs.Probe.Comparison
import Verdict.Proofs.Text.Trim

namespace Verdict.PathQuery

open Text (trimLeft trimRight trimChars isBlank)

/-! ## Splitting -/

theorem ne_eq_of_mem_reverse {cs : List Char} (h : '=' ∉ cs) :
    ∀ c ∈ cs.reverse, decide (c ≠ '=') = true := by
  intro c hc
  rw [List.mem_reverse] at hc
  exact decide_eq_true fun heq => h (heq ▸ hc)

theorem splitLastEq_append {after : List Char} (h : '=' ∉ after) (before : List Char) :
    splitLastEq (before ++ '=' :: after) = some (before, after) := by
  have hrev : (before ++ '=' :: after).reverse = after.reverse ++ '=' :: before.reverse := by simp
  have hafter := ne_eq_of_mem_reverse h
  rw [splitLastEq, hrev, List.dropWhile_append_of_pos hafter, List.takeWhile_append_of_pos hafter]
  simp

theorem splitLastEq_of_notMem {cs : List Char} (h : '=' ∉ cs) : splitLastEq cs = none := by
  rw [splitLastEq, List.dropWhile_eq_nil_iff.mpr (ne_eq_of_mem_reverse h)]

theorem splitNegation_of_bang {cs left : List Char} (h : trimRight cs = left ++ ['!']) :
    splitNegation cs = (trimRight left, true) := by
  rw [splitNegation, h]
  simp

theorem splitNegation_of_not_bang {cs : List Char} (h : ∀ left, trimRight cs ≠ left ++ ['!']) :
    splitNegation cs = (trimRight cs, false) := by
  unfold splitNegation
  split
  · rename_i before hrev
    refine absurd ?_ (h before.reverse)
    rw [← List.reverse_reverse (trimRight cs), hrev, List.reverse_cons]
  · rfl

/-! ## Terms -/

/-- A term holds no character that neither a name nor a path can hold. -/
theorem notMem_of_parseTerm {cs : List Char} {term : Term} (h : parseTerm cs = .ok term)
    {c : Char} (hname : isNameChar c = false) (hpath : isPathChar c = false) (hc : c ≠ '$') :
    c ∉ cs := by
  unfold parseTerm at h
  split at h
  · rename_i name
    split at h
    · rename_i hall
      intro hmem
      rcases List.mem_cons.mp hmem with rfl | hmem
      · exact hc rfl
      · have := List.all_eq_true.mp hall.2 c hmem
        rw [hname] at this
        cases this
    · cases h
  · split at h
    · rename_i hall
      intro hmem
      have := List.all_eq_true.mp hall.2 c hmem
      rw [hpath] at this
      cases this
    · cases h

theorem eq_notMem_of_parseTerm {cs : List Char} {term : Term} (h : parseTerm cs = .ok term) :
    '=' ∉ cs :=
  notMem_of_parseTerm h (by decide) (by decide) (by decide)

theorem bang_notMem_of_parseTerm {cs : List Char} {term : Term} (h : parseTerm cs = .ok term) :
    '!' ∉ cs :=
  notMem_of_parseTerm h (by decide) (by decide) (by decide)

/-! ## Literals -/

theorem isBlank_of_isSpace {c : Char} (h : Probe.isSpace c) : isBlank c := by
  rcases Probe.eq_of_isSpace h with rfl | rfl | rfl | rfl <;> rfl

theorem isBlank_eq_false_of_isQuote {c : Char} (h : Probe.isQuote c) : isBlank c = false := by
  rcases Probe.eq_of_isQuote h with rfl | rfl <;> rfl

theorem parseLiteral_quoted {q : Char} (h : Probe.isQuote q) (body : List Char) :
    parseLiteral (q :: (body ++ [q])) = .ok (String.ofList body) := by
  simp [parseLiteral, h]

/-- Every literal that the probe takes off is a literal of a query. -/
theorem parseLiteral_chars (l : Probe.Literal) :
    parseLiteral (trimChars l.chars) = .ok (String.ofList l.body) := by
  have hquote := isBlank_eq_false_of_isQuote l.isQuote_quote
  have hgap : trimLeft l.gap = [] :=
    Text.trimLeft_of_blank fun c hc => isBlank_of_isSpace (l.isSpace_gap c hc)
  have htail : trimRight l.tail = [] :=
    Text.trimRight_of_blank fun c hc => isBlank_of_isSpace (l.isSpace_tail c hc)
  rw [Probe.Literal.chars, Text.trimChars_append_cons hquote, hgap,
    Text.trimRight_append_cons hquote, htail]
  exact parseLiteral_quoted l.isQuote_quote l.body

/-! ## Parsing -/

section

variable {ε α β : Type} {x : Except ε α} {e : ε} {b : β}

theorem map_eq_ok_iff {f : α → β} : x.map f = .ok b ↔ ∃ a, x = .ok a ∧ f a = b := by
  cases x <;> simp [Except.map]

theorem mapError_eq_ok_iff {ε' : Type} {f : ε → ε'} {a : α} :
    x.mapError f = .ok a ↔ x = .ok a := by
  cases x <;> simp [Except.mapError]

theorem map_eq_error_iff {f : α → β} : x.map f = .error e ↔ x = .error e := by
  cases x <;> simp [Except.map]

theorem bind_eq_ok_iff {f : α → Except ε β} :
    x.bind f = .ok b ↔ ∃ a, x = .ok a ∧ f a = .ok b := by
  cases x <;> simp [Except.bind]

theorem bind_eq_error_iff {f : α → Except ε β} :
    x.bind f = .error e ↔ x = .error e ∨ ∃ a, x = .ok a ∧ f a = .error e := by
  cases x <;> simp [Except.bind]

end

/-- A text without an `=` parses to a term alone or not at all. -/
theorem parse_of_eq_notMem {cs : List Char} (h : '=' ∉ cs) :
    parse cs = (parseTerm cs).map fun term => (term, none) := by
  rw [parse, splitLastEq_of_notMem h]
  cases parseTerm cs with
  | error fault => rfl
  | ok term => rfl

/-- A text with an `=` parses to a comparison or not at all. -/
theorem parse_of_splitLastEq {cs before after : List Char}
    (h : splitLastEq cs = some (before, after)) :
    parse cs = (parseLiteral (trimChars after)).bind fun literal =>
      (parseTerm (splitNegation before).1).map fun term =>
        (term, some ⟨(splitNegation before).2, literal⟩) := by
  rw [parse, h]
  simp only
  cases parseLiteral (trimChars after) with
  | error fault => rfl
  | ok literal =>
    cases parseTerm (splitNegation before).1 with
    | error fault => rfl
    | ok term => rfl

/-- A text that parses to a term alone is that term. -/
theorem parseTerm_of_parse {cs : List Char} {term : Term} (h : parse cs = .ok (term, none)) :
    parseTerm cs = .ok term := by
  by_cases heq : '=' ∈ cs
  · obtain ⟨before, after, rfl, hafter⟩ := Probe.exists_last_eq heq
    rw [parse_of_splitLastEq (splitLastEq_append hafter before)] at h
    obtain ⟨literal, -, hparsed⟩ := bind_eq_ok_iff.mp h
    obtain ⟨other, -, hother⟩ := map_eq_ok_iff.mp hparsed
    cases hother
  · rw [parse_of_eq_notMem heq] at h
    obtain ⟨other, hterm, hother⟩ := map_eq_ok_iff.mp h
    cases hother
    exact hterm

/-- A text with an `=` is parsed side by side of the last one. -/
theorem parse_trimChars_append {after : List Char} (h : '=' ∉ after) (before : List Char) :
    parse (trimChars (before ++ '=' :: after)) =
      (parseLiteral (trimChars after)).bind fun literal =>
        (parseTerm (splitNegation (trimLeft before)).1).map fun term =>
          (term, some ⟨(splitNegation (trimLeft before)).2, literal⟩) := by
  have heq : '=' ∉ trimRight after := fun hmem => h ((Text.mem_trimRight (by decide)).mp hmem)
  rw [Text.trimChars_append_cons (by decide), parse_of_splitLastEq (splitLastEq_append heq _),
    Text.trimChars_trimRight]

/-- The left side of a comparison with a literal decides how it parses. -/
theorem parse_append_literal (before : List Char) (l : Probe.Literal) :
    parse (trimChars (before ++ '=' :: l.chars)) =
      (parseTerm (splitNegation (trimLeft before)).1).map fun term =>
        (term, some ⟨(splitNegation (trimLeft before)).2, String.ofList l.body⟩) := by
  rw [parse_trimChars_append l.eq_notMem_chars, parseLiteral_chars]
  rfl

/-- Of a text that ends with a comparison with a literal, and of what stands
before it: either the text is an equality and its left side is a term alone, or
the text is a `!=` and its left side does not parse, or the text does not parse
and its left side is no term alone. -/
theorem parse_cases (before : List Char) (l : Probe.Literal) :
    (∃ term, parse (trimChars before) = .ok (term, none) ∧
      parse (trimChars (before ++ '=' :: l.chars)) =
        .ok (term, some ⟨false, String.ofList l.body⟩)) ∨
    (∃ term fault, parse (trimChars before) = .error fault ∧
      parse (trimChars (before ++ '=' :: l.chars)) =
        .ok (term, some ⟨true, String.ofList l.body⟩)) ∨
    (∃ fault, (∀ term, parse (trimChars before) ≠ .ok (term, none)) ∧
      parse (trimChars (before ++ '=' :: l.chars)) = .error fault) := by
  rw [parse_append_literal]
  by_cases hbang : ∃ left, trimChars before = left ++ ['!']
  · obtain ⟨left, hleft⟩ := hbang
    have hmem : '!' ∈ trimChars before := by simp [hleft]
    rw [splitNegation_of_bang hleft]
    cases hterm : parseTerm (trimRight left) with
    | error fault =>
      refine .inr (.inr ⟨fault, ?_, rfl⟩)
      intro term h
      exact bang_notMem_of_parseTerm (parseTerm_of_parse h) hmem
    | ok term =>
      have heq : '=' ∉ trimChars before := by
        intro h
        have hl : '=' ∈ left := by simpa [hleft] using h
        exact eq_notMem_of_parseTerm hterm ((Text.mem_trimRight (by decide)).mpr hl)
      rw [parse_of_eq_notMem heq]
      cases hwhole : parseTerm (trimChars before) with
      | error fault => exact .inr (.inl ⟨term, fault, rfl, rfl⟩)
      | ok term' => exact absurd hmem (bang_notMem_of_parseTerm hwhole)
  · rw [splitNegation_of_not_bang fun left h => hbang ⟨left, h⟩,
      show trimRight (trimLeft before) = trimChars before from rfl]
    cases hterm : parseTerm (trimChars before) with
    | error fault =>
      refine .inr (.inr ⟨fault, ?_, rfl⟩)
      intro term h
      rw [parseTerm_of_parse h] at hterm
      cases hterm
    | ok term =>
      refine .inl ⟨term, ?_, rfl⟩
      rw [parse_of_eq_notMem (eq_notMem_of_parseTerm hterm), hterm]
      rfl

theorem compile_eq (text : String) :
    compile text = (parse (Text.trimChars text.toList)).map fun parsed =>
      ⟨text, parsed.1, parsed.2, none, none⟩ := by
  unfold compile
  cases parse (Text.trimChars text.toList) with
  | error fault => rfl
  | ok parsed => rfl

end Verdict.PathQuery
