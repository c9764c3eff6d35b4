-- A query read from left to right: literals, and brackets outside literals.
-- The probe knows neither of the two, as it is read from its end. Main
-- statement: what it takes off is one whole literal behind an `=` that stands
-- outside every literal and every bracket.
import Verdict.Proofs.Probe.Comparison

namespace Verdict.Probe

/-! ## Tokens -/

/-- A piece of a text in reading order. -/
inductive Token where
  /-- A character outside literals. -/
  | plain (c : Char)
  /-- A literal, up to the next quote of its kind. -/
  | literal (quote : Char) (body : List Char)
  /-- A literal that the end of the text leaves open. -/
  | unclosed (quote : Char) (body : List Char)
  deriving DecidableEq, Repr

def Token.isClosed : Token → Bool
  | .unclosed _ _ => false
  | _ => true

/-- Where a reader stands. -/
inductive Place where
  | outside
  /-- In a literal of which `body` has been read. -/
  | inside (quote : Char) (body : List Char)

/-- The tokens of what is left of a text. -/
def Place.tokens : Place → List Char → List Token
  | .outside, [] => []
  | .inside quote body, [] => [.unclosed quote body]
  | .outside, c :: cs =>
    if isQuote c then Place.tokens (.inside c []) cs else .plain c :: Place.tokens .outside cs
  | .inside quote body, c :: cs =>
    if c = quote then .literal quote body :: Place.tokens .outside cs
    else Place.tokens (.inside quote (body ++ [c])) cs

def tokens (text : String) : List Token := Place.outside.tokens text.toList

def LiteralsClosed (text : String) : Prop := (tokens text).all Token.isClosed

instance (text : String) : Decidable (LiteralsClosed text) :=
  inferInstanceAs (Decidable (_ = true))

/-! ## Brackets -/

/-- The brackets that have to be closed after one more token, given those that
have to be closed before it, the innermost first. None if the token closes a
bracket that is not the innermost. -/
def nest (closers : List Char) : Token → Option (List Char)
  | .plain c =>
    if c = '(' then some (')' :: closers)
    else if c = '[' then some (']' :: closers)
    else if c = ')' || c = ']' then
      match closers with
      | closer :: outer => if c = closer then some outer else none
      | [] => none
    else some closers
  | .literal _ _ => some closers
  | .unclosed _ _ => some closers

def openBrackets (ts : List Token) : Option (List Char) := ts.foldlM nest []

/-- Every literal is closed, and the brackets outside literals are nested and
closed. -/
structure WellFormed (text : String) : Prop where
  literals : LiteralsClosed text
  brackets : openBrackets (tokens text) = some []

instance (text : String) : Decidable (WellFormed text) :=
  decidable_of_iff (LiteralsClosed text ∧ openBrackets (tokens text) = some [])
    ⟨fun h => ⟨h.1, h.2⟩, fun h => ⟨h.literals, h.brackets⟩⟩

/-! ## Reading on -/

/-- Behind closed literals a text is read as if it started there. -/
theorem Place.tokens_append {place : Place} {cs : List Char}
    (h : (place.tokens cs).all Token.isClosed) (rest : List Char) :
    place.tokens (cs ++ rest) = place.tokens cs ++ Place.outside.tokens rest := by
  induction cs generalizing place with
  | nil =>
    cases place with
    | outside => rfl
    | inside quote body => simp [Place.tokens, Token.isClosed] at h
  | cons c cs ih =>
    cases place with
    | outside =>
      rw [List.cons_append, Place.tokens, Place.tokens]
      rw [Place.tokens] at h
      split
      · rename_i hc
        rw [if_pos hc] at h
        exact ih h
      · rename_i hc
        rw [if_neg hc, List.all_cons, Bool.and_eq_true] at h
        rw [ih h.2, List.cons_append]
    | inside quote body =>
      rw [List.cons_append, Place.tokens, Place.tokens]
      rw [Place.tokens] at h
      split
      · rename_i hc
        rw [if_pos hc, List.all_cons, Bool.and_eq_true] at h
        rw [ih h.2, List.cons_append]
      · rename_i hc
        rw [if_neg hc] at h
        exact ih h

/-- A literal goes on until its quote. -/
theorem Place.tokens_inside_append {quote : Char} {cs : List Char} (h : quote ∉ cs)
    (body rest : List Char) :
    (Place.inside quote body).tokens (cs ++ rest) =
      (Place.inside quote (body ++ cs)).tokens rest := by
  induction cs generalizing body with
  | nil => simp
  | cons c cs ih =>
    rw [List.mem_cons, not_or] at h
    rw [List.cons_append, Place.tokens, if_neg (Ne.symm h.1), ih h.2]
    simp

theorem Place.tokens_outside_append {cs : List Char} (h : ∀ c ∈ cs, isQuote c = false)
    (rest : List Char) :
    Place.outside.tokens (cs ++ rest) = cs.map .plain ++ Place.outside.tokens rest := by
  induction cs with
  | nil => rfl
  | cons c cs ih =>
    rw [List.forall_mem_cons] at h
    rw [List.cons_append, Place.tokens, h.1, ih h.2]
    rfl

theorem isQuote_eq_false_of_isSpace {c : Char} (h : isSpace c) : isQuote c = false := by
  rcases eq_of_isSpace h with rfl | rfl | rfl | rfl <;> rfl

theorem notMem_of_isSpace {q : Char} (hq : isQuote q) {w : List Char} (h : ∀ c ∈ w, isSpace c) :
    q ∉ w := by
  intro hmem
  rw [isQuote_eq_false_of_isSpace (h q hmem)] at hq
  cases hq

/-- The tokens of a literal that is read from outside: itself, and the white
space around it. -/
def Literal.tokens (l : Literal) : List Token :=
  l.gap.map .plain ++ .literal l.quote l.body :: l.tail.map .plain

theorem Literal.tokens_chars (l : Literal) :
    Place.outside.tokens ('=' :: l.chars) = .plain '=' :: l.tokens := by
  have hgap : ∀ c ∈ l.gap, isQuote c = false := fun c hc =>
    isQuote_eq_false_of_isSpace (l.isSpace_gap c hc)
  have htail : ∀ c ∈ l.tail, isQuote c = false := fun c hc =>
    isQuote_eq_false_of_isSpace (l.isSpace_tail c hc)
  have hbody : (Place.inside l.quote []).tokens (l.body ++ l.quote :: l.tail) =
      .literal l.quote l.body :: l.tail.map .plain := by
    rw [Place.tokens_inside_append l.quote_notMem, Place.tokens, if_pos rfl, List.nil_append]
    simpa [Place.tokens] using Place.tokens_outside_append htail []
  rw [Place.tokens, if_neg (by decide), Literal.chars, Place.tokens_outside_append hgap,
    Place.tokens, if_pos l.isQuote_quote, hbody]
  rfl

/-! ## A literal that is open stays open -/

/-- A reader stands in no literal of the given quote. -/
inductive Place.Avoids (q : Char) : Place → Prop
  | outside : Place.Avoids q .outside
  | inside {quote : Char} {body : List Char} :
      isQuote quote → quote ≠ q → Place.Avoids q (.inside quote body)

/-- The second quote of a comparison leaves a literal open for a reader who took
its first quote for the end of a literal or for a part of one: between the two the
reader may open and close literals of the other quote, and so the second opens one
or stands in one. -/
theorem Place.not_closed_of_avoids {q : Char} (hq : isQuote q) {body tail : List Char}
    (hbody : q ∉ body) (htail : ∀ c ∈ tail, isSpace c) {place : Place} (h : place.Avoids q) :
    (place.tokens (body ++ q :: tail)).all Token.isClosed = false := by
  have hopen : ∀ quote seen, isQuote quote →
      ((Place.inside quote seen).tokens tail).all Token.isClosed = false := by
    intro quote seen hquote
    have := Place.tokens_inside_append (notMem_of_isSpace hquote htail) seen []
    rw [List.append_nil] at this
    rw [this]
    rfl
  induction body generalizing place with
  | nil =>
    cases h with
    | outside =>
      rw [List.nil_append, Place.tokens, if_pos hq]
      exact hopen q [] hq
    | inside hquote hne =>
      rw [List.nil_append, Place.tokens, if_neg (Ne.symm hne)]
      exact hopen _ _ hquote
  | cons c body ih =>
    rw [List.mem_cons, not_or] at hbody
    cases h with
    | outside =>
      rw [List.cons_append, Place.tokens]
      split
      · rename_i hc
        exact ih hbody.2 (.inside hc (Ne.symm hbody.1))
      · rw [List.all_cons, ih hbody.2 .outside, Bool.and_false]
    | inside hquote hne =>
      rw [List.cons_append, Place.tokens]
      split
      · rw [List.all_cons, ih hbody.2 .outside, Bool.and_false]
      · exact ih hbody.2 (.inside hquote hne)

/-- A comparison with a literal closes no literal that is open before it. -/
theorem Literal.not_closed (l : Literal) {quote : Char} (hquote : isQuote quote)
    (seen : List Char) :
    ((Place.inside quote seen).tokens ('=' :: l.chars)).all Token.isClosed = false := by
  have hgap : quote ∉ '=' :: l.gap :=
    List.not_mem_cons_of_ne_of_not_mem (ne_eq_of_isQuote hquote)
      (notMem_of_isSpace hquote l.isSpace_gap)
  rw [Literal.chars, ← List.cons_append, Place.tokens_inside_append hgap, Place.tokens]
  split
  · rw [List.all_cons, Place.not_closed_of_avoids l.isQuote_quote l.quote_notMem l.isSpace_tail
      .outside, Bool.and_false]
  · rename_i hne
    exact Place.not_closed_of_avoids l.isQuote_quote l.quote_notMem l.isSpace_tail
      (.inside hquote (Ne.symm hne))

/-- The quote of the literal in which a reader stands is a quote. -/
inductive Place.Proper : Place → Prop
  | outside : Place.Proper .outside
  | inside {quote : Char} {body : List Char} : isQuote quote → Place.Proper (.inside quote body)

theorem Place.not_closed_append {rest : List Char}
    (hrest : ∀ quote seen, isQuote quote →
      ((Place.inside quote seen).tokens rest).all Token.isClosed = false)
    {place : Place} {cs : List Char} (hp : place.Proper)
    (h : (place.tokens cs).all Token.isClosed = false) :
    (place.tokens (cs ++ rest)).all Token.isClosed = false := by
  induction cs generalizing place with
  | nil =>
    cases hp with
    | outside => simp [Place.tokens] at h
    | inside hquote => exact hrest _ _ hquote
  | cons c cs ih =>
    cases hp with
    | outside =>
      rw [Place.tokens] at h
      rw [List.cons_append, Place.tokens]
      split
      · rename_i hc
        rw [if_pos hc] at h
        exact ih (.inside hc) h
      · rename_i hc
        rw [if_neg hc] at h
        exact ih .outside h
    | inside hquote =>
      rw [Place.tokens] at h
      rw [List.cons_append, Place.tokens]
      split
      · rename_i hc
        rw [if_pos hc] at h
        exact ih .outside h
      · rename_i hc
        rw [if_neg hc] at h
        exact ih (.inside hquote) h

/-! ## Brackets of a comparison -/

theorem nest_space {c : Char} (h : isSpace c) (closers : List Char) :
    nest closers (.plain c) = some closers := by
  rcases eq_of_isSpace h with rfl | rfl | rfl | rfl <;> rfl

theorem foldlM_nest_spaces {w : List Char} (h : ∀ c ∈ w, isSpace c) (closers : List Char) :
    (w.map Token.plain).foldlM nest closers = some closers := by
  induction w with
  | nil => rfl
  | cons c w ih =>
    rw [List.forall_mem_cons] at h
    rw [List.map_cons, List.foldlM_cons, nest_space h.1]
    exact ih h.2

/-- A comparison with a literal opens and closes no bracket. -/
theorem openBrackets_append_literal (ts : List Token) (l : Literal) :
    openBrackets (ts ++ .plain '=' :: l.tokens) = openBrackets ts := by
  have hl : ∀ closers, (Token.plain '=' :: l.tokens).foldlM nest closers = some closers := by
    intro closers
    have heq : nest closers (.plain '=') = some closers := rfl
    have hliteral : nest closers (.literal l.quote l.body) = some closers := rfl
    rw [List.foldlM_cons, heq, Literal.tokens, Option.bind_eq_bind, Option.bind_some,
      List.foldlM_append, foldlM_nest_spaces l.isSpace_gap, Option.bind_eq_bind,
      Option.bind_some, List.foldlM_cons, hliteral]
    exact foldlM_nest_spaces l.isSpace_tail closers
  rw [openBrackets, List.foldlM_append]
  cases h : List.foldlM nest [] ts with
  | none => simp [openBrackets, h]
  | some closers => simp [openBrackets, h, hl]

/-! ## The laws -/

/-- Before a comparison with a literal all literals are closed if they are in
the whole. -/
theorem literalsClosed_iff {text before : String} (h : Compares text before) :
    LiteralsClosed text ↔ LiteralsClosed before := by
  obtain ⟨l, rfl⟩ := h
  unfold LiteralsClosed tokens
  rw [toList_append_literal]
  constructor
  · intro hclosed
    by_cases hb : (Place.outside.tokens before.toList).all Token.isClosed
    · exact hb
    · rw [Bool.not_eq_true] at hb
      have hopen := Place.not_closed_append (fun _ seen hq => l.not_closed hq seen) .outside hb
      rw [hopen] at hclosed
      cases hclosed
  · intro hclosed
    rw [Place.tokens_append hclosed, l.tokens_chars, List.all_append, hclosed]
    simp [Literal.tokens, Token.isClosed]

/-- The tokens of a text that ends with a comparison, if its literals are
closed. -/
theorem tokens_append_literal {before : String} (l : Literal) (h : LiteralsClosed before) :
    tokens (before ++ "=" ++ l.text) = tokens before ++ .plain '=' :: l.tokens := by
  rw [tokens, toList_append_literal, Place.tokens_append h, l.tokens_chars]
  rfl

/-- What is taken off a text neither opens nor closes a literal of what is left.
Off a well-formed text it is an `=` outside literals and brackets and one whole
literal with white space around it, and a well-formed text is left. -/
theorem strip_never_cuts_inside_a_literal_or_a_bracket (text : String) (h : strip text ≠ text) :
    (LiteralsClosed text ↔ LiteralsClosed (strip text)) ∧
    (WellFormed text →
      WellFormed (strip text) ∧
      ∃ l : Literal, text = strip text ++ "=" ++ l.text ∧
        tokens text = tokens (strip text) ++ .plain '=' :: l.tokens ∧
        openBrackets (tokens (strip text)) = some []) := by
  have hcompares := compares_of_strip_ne h
  refine ⟨literalsClosed_iff hcompares, ?_⟩
  intro hw
  obtain ⟨l, hl⟩ := id hcompares
  have hclosed := (literalsClosed_iff hcompares).mp hw.literals
  have htokens : tokens text = tokens (strip text) ++ .plain '=' :: l.tokens := by
    rw [← tokens_append_literal l hclosed, ← hl]
  have hbrackets : openBrackets (tokens (strip text)) = some [] := by
    rw [← openBrackets_append_literal _ l, ← htokens]
    exact hw.brackets
  exact ⟨⟨hclosed, hbrackets⟩, l, hl, htokens, hbrackets⟩

/-- A predicate with a bracket in a literal, and a literal with the other
quote. -/
theorem strip_keeps_a_predicate :
    strip "a[b = ']'] = \"it's\" " ≠ "a[b = ']'] = \"it's\" " ∧
      WellFormed "a[b = ']'] = \"it's\" " ∧ WellFormed (strip "a[b = ']'] = \"it's\" ") := by
  have hne : strip "a[b = ']'] = \"it's\" " ≠ "a[b = ']'] = \"it's\" " := by decide +kernel
  have hw : WellFormed "a[b = ']'] = \"it's\" " := ⟨by decide +kernel, by decide +kernel⟩
  exact ⟨hne, hw, ((strip_never_cuts_inside_a_literal_or_a_bracket _ hne).2 hw).1⟩

end Verdict.Probe
