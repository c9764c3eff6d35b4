-- The grammar of path queries: a term, alone or before `=` or `!=` and a quoted
-- literal, with white space between the parts. Main statement: exactly the texts
-- of the grammar compile, each is read in one way, and of any other text it is
-- said which part is wrong.
import Verdict.Proofs.PathQuery.Stripping

namespace Verdict.PathQuery

open Text (trimLeft trimRight trimChars isBlank IsWhite)

/-! ## The grammar -/

/-- How a term is written. -/
inductive Spells : Term → List Char → Prop
  | name {name : List Char} : name ≠ [] → (∀ c ∈ name, isNameChar c) →
      Spells (.variable (String.ofList name)) ('$' :: name)
  | path {path : List Char} : path ≠ [] → (∀ c ∈ path, isPathChar c) →
      Spells (.path (String.ofList path)) path

/-- The sign of a negated comparison. -/
def bang (negated : Bool) : List Char := if negated then ['!'] else []

/-- The left side of a comparison, up to its `=`. -/
def IsLeft (cs : List Char) (term : Term) (negated : Bool) : Prop :=
  ∃ w word w₁ w₂, IsWhite w ∧ Spells term word ∧ IsWhite w₁ ∧ IsWhite w₂ ∧
    cs = w ++ word ++ w₁ ++ bang negated ++ w₂

/-- The right side of a comparison, from its `=` on. The literal may hold its own
quote, but no `=`. -/
def IsRight (cs : List Char) (literal : String) : Prop :=
  ∃ w quote body w', IsWhite w ∧ Probe.isQuote quote ∧ '=' ∉ body ∧ IsWhite w' ∧
    cs = w ++ quote :: (body ++ quote :: w') ∧ literal = String.ofList body

/-- A text, the term in it and the comparison. -/
inductive IsQuery : List Char → Term → Option Comparison → Prop
  | alone {w word w' : List Char} {term : Term} : IsWhite w → Spells term word → IsWhite w' →
      IsQuery (w ++ word ++ w') term none
  | compared {left right : List Char} {term : Term} {negated : Bool} {literal : String} :
      IsLeft left term negated → IsRight right literal →
      IsQuery (left ++ '=' :: right) term (some ⟨negated, literal⟩)

/-- What is said of a text that is no query: what follows its last `=` is no
literal, or else what stands before that `=` is no term, less one `!` at its end
and the white space before that. -/
inductive Blames : List Char → String → Prop
  | right {left right : List Char} : '=' ∉ right → (∀ literal, ¬ IsRight right literal) →
      Blames (left ++ '=' :: right)
        ("expected quoted literal, got '" ++ String.ofList (trimChars right) ++ "'")
  | left {left right : List Char} {literal : String} : IsRight right literal →
      (∀ before, trimChars left ≠ before ++ ['!']) →
      Blames (left ++ '=' :: right)
        ("unexpected token '" ++ String.ofList (trimChars left) ++ "'")
  | negated {left right before : List Char} {literal : String} : IsRight right literal →
      trimChars left = before ++ ['!'] →
      Blames (left ++ '=' :: right)
        ("unexpected token '" ++ String.ofList (trimRight before) ++ "'")
  | alone {cs : List Char} : '=' ∉ cs →
      Blames cs ("unexpected token '" ++ String.ofList (trimChars cs) ++ "'")

/-! ## Terms -/

theorem isBlank_eq_false_of_isAlphanumeric {c : Char} (h : Text.isAlphanumeric c) :
    isBlank c = false :=
  Text.Ranges.holds_eq_false_of_apart (by decide +kernel) h

theorem isBlank_eq_false_of_isNameChar {c : Char} (h : isNameChar c) : isBlank c = false := by
  simp only [isNameChar, Bool.or_eq_true, decide_eq_true_eq] at h
  rcases h with h | rfl
  · exact isBlank_eq_false_of_isAlphanumeric h
  · decide

theorem isBlank_eq_false_of_isPathChar {c : Char} (h : isPathChar c) : isBlank c = false := by
  simp only [isPathChar, Bool.or_eq_true, decide_eq_true_eq] at h
  rcases h with (((h | rfl) | rfl) | rfl) | rfl
  · exact isBlank_eq_false_of_isAlphanumeric h
  all_goals decide

theorem Spells.solid {term : Term} {word : List Char} (h : Spells term word) :
    ∀ c ∈ word, isBlank c = false := by
  intro c hc
  cases h with
  | name _ hname =>
    rcases List.mem_cons.mp hc with rfl | hc
    · decide
    · exact isBlank_eq_false_of_isNameChar (hname c hc)
  | path _ hpath => exact isBlank_eq_false_of_isPathChar (hpath c hc)

theorem Spells.ne_nil {term : Term} {word : List Char} (h : Spells term word) : word ≠ [] := by
  cases h with
  | name _ _ => exact List.cons_ne_nil _ _
  | path hne _ => exact hne

theorem parseTerm_eq_ok_iff {cs : List Char} {term : Term} :
    parseTerm cs = .ok term ↔ Spells term cs := by
  constructor
  · intro h
    unfold parseTerm at h
    split at h
    · split at h
      · rename_i hname
        cases h
        exact .name hname.1 (List.all_eq_true.mp hname.2)
      · cases h
    · split at h
      · rename_i hpath
        cases h
        exact .path hpath.1 (List.all_eq_true.mp hpath.2)
      · cases h
  · intro h
    cases h with
    | name hne hname => exact if_pos ⟨hne, List.all_eq_true.mpr hname⟩
    | path hne hpath =>
      unfold parseTerm
      split
      · exact absurd (hpath '$' List.mem_cons_self) (by decide)
      · exact if_pos ⟨hne, List.all_eq_true.mpr hpath⟩

theorem fault_of_parseTerm {cs : List Char} {fault : Fault} (h : parseTerm cs = .error fault) :
    fault = .unexpectedToken (String.ofList cs) := by
  unfold parseTerm at h
  split at h
  · split at h <;> cases h
    rfl
  · split at h <;> cases h
    rfl

/-! ## Literals -/

theorem parseLiteral_eq_ok_iff {cs : List Char} {literal : String} :
    parseLiteral cs = .ok literal ↔ ∃ quote body, Probe.isQuote quote ∧
      cs = quote :: (body ++ [quote]) ∧ literal = String.ofList body := by
  constructor
  · intro h
    unfold parseLiteral at h
    split at h
    · rename_i quote rest
      split at h
      · rename_i hquote
        cases h
        obtain ⟨body, rfl⟩ := List.getLast?_eq_some_iff.mp hquote.2
        exact ⟨quote, body, hquote.1, rfl, by rw [List.dropLast_concat]⟩
      · cases h
    · cases h
  · rintro ⟨quote, body, hquote, rfl, rfl⟩
    exact parseLiteral_quoted hquote body

theorem fault_of_parseLiteral {cs : List Char} {fault : Fault}
    (h : parseLiteral cs = .error fault) : fault = .expectedLiteral (String.ofList cs) := by
  unfold parseLiteral at h
  split at h
  · split at h <;> cases h
    rfl
  · cases h
    rfl

/-! ## The sides of a comparison -/

theorem ne_eq_of_isBlank {c : Char} (h : isBlank c) : c ≠ '=' := by
  rintro rfl
  exact absurd h (by decide)

theorem IsRight.eq_notMem {cs : List Char} {literal : String} (h : IsRight cs literal) :
    '=' ∉ cs := by
  obtain ⟨w, quote, body, w', hw, hquote, hbody, hw', rfl, -⟩ := h
  have hne : '=' ≠ quote := (Probe.ne_eq_of_isQuote hquote).symm
  intro hmem
  simp only [List.mem_append, List.mem_cons, hne, false_or] at hmem
  rcases hmem with hmem | hmem | hmem
  · exact ne_eq_of_isBlank (hw _ hmem) rfl
  · exact hbody hmem
  · exact ne_eq_of_isBlank (hw' _ hmem) rfl

theorem parseLiteral_trimChars_iff {cs : List Char} (h : '=' ∉ cs) {literal : String} :
    parseLiteral (trimChars cs) = .ok literal ↔ IsRight cs literal := by
  rw [parseLiteral_eq_ok_iff]
  constructor
  · rintro ⟨quote, body, hquote, htrim, rfl⟩
    obtain ⟨w, w', hw, hw', hcs⟩ := Text.exists_trimChars cs
    have hbody : '=' ∉ body := by
      intro hmem
      exact h ((Text.mem_trimChars (by decide)).mp (by simp [htrim, hmem]))
    refine ⟨w, quote, body, w', hw, hquote, hbody, hw', ?_, rfl⟩
    rw [hcs, htrim]
    simp
  · rintro ⟨w, quote, body, w', hw, hquote, -, hw', rfl, rfl⟩
    refine ⟨quote, body, hquote, ?_, rfl⟩
    have hblank := isBlank_eq_false_of_isQuote hquote
    rw [Text.trimChars_append_cons hblank, Text.trimLeft_of_blank hw,
      Text.trimRight_append_cons hblank, Text.trimRight_of_blank hw']
    rfl

/-- A `!` is taken for the sign of the comparison only if it ends the left side. -/
theorem splitNegation_iff {cs : List Char} {term : Term} {negated : Bool} :
    (parseTerm (splitNegation (trimLeft cs)).1 = .ok term ∧
      (splitNegation (trimLeft cs)).2 = negated) ↔ IsLeft cs term negated := by
  constructor
  · rintro ⟨hterm, rfl⟩
    obtain ⟨w, w', hw, hw', hcs⟩ := Text.exists_trimChars cs
    by_cases hbang : ∃ left, trimChars cs = left ++ ['!']
    · obtain ⟨left, hleft⟩ := hbang
      obtain ⟨w₁, hw₁, hword⟩ := Text.exists_trimRight left
      rw [splitNegation_of_bang hleft] at hterm ⊢
      refine ⟨w, trimRight left, w₁, w', hw, parseTerm_eq_ok_iff.mp hterm, hw₁, hw', ?_⟩
      rw [List.append_assoc w, ← hword, hcs, hleft]
      simp [bang]
    · rw [splitNegation_of_not_bang fun left h => hbang ⟨left, h⟩] at hterm ⊢
      refine ⟨w, trimChars cs, w', [], hw, parseTerm_eq_ok_iff.mp hterm, hw', Text.isWhite_nil, ?_⟩
      rw [hcs]
      simp [bang, ← hcs]
  · rintro ⟨w, word, w₁, w₂, hw, hspells, hw₁, hw₂, rfl⟩
    have hterm := parseTerm_eq_ok_iff.mpr hspells
    cases negated with
    | true =>
      have htrim : trimChars (w ++ word ++ w₁ ++ bang true ++ w₂) = word ++ w₁ ++ ['!'] := by
        rw [Text.trimChars_append_of_blank hw₂, bang, if_pos rfl,
          Text.trimChars_append_cons (by decide), List.append_assoc w,
          Text.trimLeft_append_of_blank hw,
          Text.trimLeft_append_of_solid hspells.ne_nil hspells.solid]
        rfl
      rw [splitNegation_of_bang htrim, Text.trimRight_append_of_blank hw₁,
        Text.trimRight_of_solid hspells.solid]
      exact ⟨hterm, rfl⟩
    | false =>
      have htrim : trimChars (w ++ word ++ w₁ ++ bang false ++ w₂) = word := by
        rw [Text.trimChars_append_of_blank hw₂, bang, if_neg Bool.false_ne_true, List.append_nil,
          Text.trimChars_surrounded hw hspells.solid hw₁]
      have hnone : ∀ left, trimChars (w ++ word ++ w₁ ++ bang false ++ w₂) ≠ left ++ ['!'] := by
        intro left h
        rw [htrim] at h
        exact bang_notMem_of_parseTerm hterm (by simp [h])
      rw [splitNegation_of_not_bang hnone]
      exact ⟨(congrArg parseTerm htrim).trans hterm, rfl⟩

/-! ## Whole texts -/

theorem eq_notMem_trimChars {cs : List Char} (h : '=' ∉ cs) : '=' ∉ trimChars cs :=
  fun hmem => h ((Text.mem_trimChars (by decide)).mp hmem)

theorem parse_trimChars_eq_ok_iff {cs : List Char} {term : Term}
    {comparison : Option Comparison} :
    parse (trimChars cs) = .ok (term, comparison) ↔ IsQuery cs term comparison := by
  constructor
  · intro h
    by_cases heq : '=' ∈ cs
    · obtain ⟨left, right, rfl, hright⟩ := Probe.exists_last_eq heq
      rw [parse_trimChars_append hright] at h
      obtain ⟨literal, hliteral, h⟩ := bind_eq_ok_iff.mp h
      obtain ⟨word, hterm, hparsed⟩ := map_eq_ok_iff.mp h
      cases hparsed
      apply IsQuery.compared
      · exact splitNegation_iff.mp ⟨hterm, rfl⟩
      · exact (parseLiteral_trimChars_iff hright).mp hliteral
    · obtain ⟨w, w', hw, hw', hcs⟩ := Text.exists_trimChars cs
      rw [parse_of_eq_notMem (eq_notMem_trimChars heq)] at h
      obtain ⟨word, hterm, hparsed⟩ := map_eq_ok_iff.mp h
      cases hparsed
      rw [hcs]
      exact .alone hw (parseTerm_eq_ok_iff.mp hterm) hw'
  · intro h
    cases h with
    | alone hw hspells hw' =>
      have hterm := parseTerm_eq_ok_iff.mpr hspells
      rw [Text.trimChars_surrounded hw hspells.solid hw',
        parse_of_eq_notMem (eq_notMem_of_parseTerm hterm), hterm]
      rfl
    | compared hleft hright =>
      obtain ⟨hterm, hnegated⟩ := splitNegation_iff.mpr hleft
      have hliteral := (parseLiteral_trimChars_iff hright.eq_notMem).mpr hright
      rw [parse_trimChars_append hright.eq_notMem, hliteral, hterm, hnegated]
      rfl

/-- The literal is looked at before the term. -/
theorem blames_of_parse {cs : List Char} {fault : Fault}
    (h : parse (trimChars cs) = .error fault) : Blames cs fault.message := by
  by_cases heq : '=' ∈ cs
  · obtain ⟨left, right, rfl, hright⟩ := Probe.exists_last_eq heq
    rw [parse_trimChars_append hright] at h
    rcases bind_eq_error_iff.mp h with hliteral | ⟨literal, hliteral, h⟩
    · rw [fault_of_parseLiteral hliteral]
      apply Blames.right hright
      intro literal hisRight
      rw [(parseLiteral_trimChars_iff hright).mpr hisRight] at hliteral
      cases hliteral
    · have hisRight := (parseLiteral_trimChars_iff hright).mp hliteral
      rw [fault_of_parseTerm (map_eq_error_iff.mp h)]
      by_cases hbang : ∃ before, trimChars left = before ++ ['!']
      · obtain ⟨before, hbefore⟩ := hbang
        rw [splitNegation_of_bang hbefore]
        exact .negated hisRight hbefore
      · have hnone : ∀ before, trimChars left ≠ before ++ ['!'] :=
          fun before hbefore => hbang ⟨before, hbefore⟩
        rw [splitNegation_of_not_bang hnone]
        exact .left hisRight hnone
  · rw [parse_of_eq_notMem (eq_notMem_trimChars heq)] at h
    rw [fault_of_parseTerm (map_eq_error_iff.mp h)]
    exact .alone heq

/-- A text compiles exactly if it is a query of the grammar. It then has its
text as it is, no bindings, and the term and the comparison that it is read
with, which are the same in every reading. Otherwise the error says what of it
is wrong. -/
theorem compile_accepts_exactly_its_grammar (text : String) :
    (∀ query, compile text = .ok query ↔ ∃ term comparison,
      IsQuery text.toList term comparison ∧ query = ⟨text, term, comparison, none, none⟩) ∧
    (∀ term comparison term' comparison', IsQuery text.toList term comparison →
      IsQuery text.toList term' comparison' → term' = term ∧ comparison' = comparison) ∧
    (∀ fault, compile text = .error fault → Blames text.toList fault.message) := by
  refine ⟨?_, ?_, ?_⟩
  · intro query
    rw [compile_eq]
    constructor
    · intro h
      obtain ⟨⟨term, comparison⟩, hparse, rfl⟩ := map_eq_ok_iff.mp h
      exact ⟨term, comparison, parse_trimChars_eq_ok_iff.mp hparse, rfl⟩
    · rintro ⟨term, comparison, hquery, rfl⟩
      rw [parse_trimChars_eq_ok_iff.mpr hquery]
      rfl
  · intro term comparison term' comparison' h h'
    have hparse := parse_trimChars_eq_ok_iff.mpr h
    rw [parse_trimChars_eq_ok_iff.mpr h'] at hparse
    cases hparse
    exact ⟨rfl, rfl⟩
  · intro fault h
    rw [compile_eq] at h
    exact blames_of_parse (map_eq_error_iff.mp h)

end Verdict.PathQuery
