-- What the probe takes off, in reading order. Main statement: a text loses
-- something exactly if it ends with an `=`, white space, one quoted literal
-- without an `=`, and white space; then all before that `=` is kept.
import Verdict.Probe

namespace Verdict.Probe

/-! ## Literals in reading order -/

/-- What follows the `=` of a comparison: a quoted literal with white space
around it. -/
structure Literal where
  /-- The white space before the literal. -/
  gap : List Char
  quote : Char
  /-- What stands between the quotes. -/
  body : List Char
  /-- The white space after the literal. -/
  tail : List Char
  isSpace_gap : ∀ c ∈ gap, isSpace c
  isQuote_quote : isQuote quote
  quote_notMem : quote ∉ body
  eq_notMem : '=' ∉ body
  isSpace_tail : ∀ c ∈ tail, isSpace c

/-- The literal as it is written, with its white space. -/
def Literal.chars (l : Literal) : List Char :=
  l.gap ++ l.quote :: (l.body ++ l.quote :: l.tail)

def Literal.text (l : Literal) : String := String.ofList l.chars

/-- The text ends with a comparison with a literal, and `before` is what stands
before its `=`. -/
def Compares (text before : String) : Prop := ∃ l : Literal, text = before ++ "=" ++ l.text

theorem eq_of_isSpace {c : Char} (h : isSpace c) : c = ' ' ∨ c = '\t' ∨ c = '\r' ∨ c = '\n' := by
  simpa [isSpace, or_assoc] using h

theorem eq_of_isQuote {c : Char} (h : isQuote c) : c = '\'' ∨ c = '"' := by
  simpa [isQuote] using h

theorem isSpace_eq_false_of_isQuote {c : Char} (h : isQuote c) : isSpace c = false := by
  rcases eq_of_isQuote h with rfl | rfl <;> rfl

theorem ne_eq_of_isQuote {c : Char} (h : isQuote c) : c ≠ '=' := by
  rintro rfl
  exact absurd h (by decide)

theorem ne_eq_of_isSpace {c : Char} (h : isSpace c) : c ≠ '=' := by
  rintro rfl
  exact absurd h (by decide)

theorem exists_last_eq {cs : List Char} (h : '=' ∈ cs) :
    ∃ before after, cs = before ++ '=' :: after ∧ '=' ∉ after := by
  obtain ⟨after, before, hcs, hafter⟩ := List.eq_append_cons_of_mem (List.mem_reverse.mpr h)
  refine ⟨before.reverse, after.reverse, ?_, by simpa using hafter⟩
  rw [← List.reverse_reverse cs, hcs]
  simp

/-- The `=` before a literal is the last one of the text. -/
theorem Literal.eq_notMem_chars (l : Literal) : '=' ∉ l.chars := by
  have hquote : '=' ≠ l.quote := (ne_eq_of_isQuote l.isQuote_quote).symm
  intro h
  simp only [chars, List.mem_append, List.mem_cons, hquote, false_or] at h
  rcases h with h | h | h
  · exact ne_eq_of_isSpace (l.isSpace_gap _ h) rfl
  · exact l.eq_notMem h
  · exact ne_eq_of_isSpace (l.isSpace_tail _ h) rfl

/-! ## The scan of a literal -/

theorem Scan.run_spaces {w : List Char} (h : ∀ c ∈ w, isSpace c) (scan : Scan)
    (cs : List Char) : scan.run (w ++ cs) = scan.run cs := by
  induction w with
  | nil => rfl
  | cons c w ih =>
    have hc : scan.step c = .next scan := by simp [Scan.step, h c List.mem_cons_self]
    rw [List.cons_append, Scan.run, hc]
    exact ih fun d hd => h d (List.mem_cons_of_mem c hd)

theorem Scan.run_body {q : Char} {body : List Char} (hq : q ∉ body) (he : '=' ∉ body)
    (cs : List Char) : (Scan.inside q).run (body ++ cs) = (Scan.inside q).run cs := by
  induction body with
  | nil => rfl
  | cons c body ih =>
    rw [List.mem_cons, not_or] at hq he
    have hc : (Scan.inside q).step c = .next (.inside q) := by
      simp [Scan.step, Ne.symm hq.1, Ne.symm he.1]
    rw [List.cons_append, Scan.run, hc]
    exact ih hq.2 he.2

theorem Scan.run_before_quote {q : Char} (h : isQuote q) (cs : List Char) :
    Scan.before.run (q :: cs) = (Scan.inside q).run cs := by
  simp [Scan.run, Scan.step, isSpace_eq_false_of_isQuote h, h]

theorem Scan.run_inside_quote {q : Char} (h : isQuote q) (cs : List Char) :
    (Scan.inside q).run (q :: cs) = Scan.complete.run cs := by
  simp [Scan.run, Scan.step, isSpace_eq_false_of_isQuote h]

theorem Scan.run_complete_eq (cs : List Char) : Scan.complete.run ('=' :: cs) = .cut cs := rfl

/-- The scan of a comparison with a literal ends at its `=`. -/
theorem cut?_append_literal (before : List Char) (l : Literal) :
    cut? (before ++ '=' :: l.chars) = some before := by
  have hrev : (before ++ '=' :: l.chars).reverse =
      l.tail.reverse ++ l.quote :: (l.body.reverse ++
        l.quote :: (l.gap.reverse ++ '=' :: before.reverse)) := by
    simp [Literal.chars]
  have htail : ∀ c ∈ l.tail.reverse, isSpace c := by simpa using l.isSpace_tail
  have hgap : ∀ c ∈ l.gap.reverse, isSpace c := by simpa using l.isSpace_gap
  have hquote : l.quote ∉ l.body.reverse := by simpa using l.quote_notMem
  have heq : '=' ∉ l.body.reverse := by simpa using l.eq_notMem
  rw [cut?, hrev, Scan.run_spaces htail, Scan.run_before_quote l.isQuote_quote,
    Scan.run_body hquote heq, Scan.run_inside_quote l.isQuote_quote, Scan.run_spaces hgap,
    Scan.run_complete_eq]
  simp

/-! ## What a scan that cuts has seen -/

theorem Scan.seen_complete {cs rest : List Char} (h : Scan.complete.run cs = .cut rest) :
    ∃ gap, (∀ c ∈ gap, isSpace c) ∧ cs = gap ++ '=' :: rest := by
  induction cs with
  | nil => simp [Scan.run] at h
  | cons c cs ih =>
    by_cases hs : isSpace c
    · rw [Scan.run, show Scan.complete.step c = .next .complete by simp [Scan.step, hs]] at h
      obtain ⟨gap, hgap, rfl⟩ := ih h
      exact ⟨c :: gap, List.forall_mem_cons.mpr ⟨hs, hgap⟩, rfl⟩
    · by_cases he : c = '='
      · subst he
        cases h
        exact ⟨[], by simp, rfl⟩
      · simp [Scan.run, Scan.step, hs, he] at h

theorem Scan.seen_inside {q : Char} (hq : isQuote q) {cs rest : List Char}
    (h : (Scan.inside q).run cs = .cut rest) :
    ∃ body gap, q ∉ body ∧ '=' ∉ body ∧ (∀ c ∈ gap, isSpace c) ∧
      cs = body ++ q :: (gap ++ '=' :: rest) := by
  induction cs with
  | nil => simp [Scan.run] at h
  | cons c cs ih =>
    by_cases hcq : c = q
    · subst hcq
      rw [Scan.run_inside_quote hq] at h
      obtain ⟨gap, hgap, rfl⟩ := Scan.seen_complete h
      exact ⟨[], gap, by simp, by simp, hgap, rfl⟩
    · by_cases he : c = '='
      · subst he
        simp [Scan.run, Scan.step, hcq, show isSpace '=' = false from rfl] at h
      · have hc : (Scan.inside q).step c = .next (.inside q) := by simp [Scan.step, hcq, he]
        rw [Scan.run, hc] at h
        obtain ⟨body, gap, hb, hbe, hgap, rfl⟩ := ih h
        refine ⟨c :: body, gap, ?_, ?_, hgap, rfl⟩
        · exact List.not_mem_cons_of_ne_of_not_mem (Ne.symm hcq) hb
        · exact List.not_mem_cons_of_ne_of_not_mem (Ne.symm he) hbe

theorem Scan.seen_before {cs rest : List Char} (h : Scan.before.run cs = .cut rest) :
    ∃ tail q body gap, (∀ c ∈ tail, isSpace c) ∧ isQuote q ∧ q ∉ body ∧ '=' ∉ body ∧
      (∀ c ∈ gap, isSpace c) ∧ cs = tail ++ q :: (body ++ q :: (gap ++ '=' :: rest)) := by
  induction cs with
  | nil => simp [Scan.run] at h
  | cons c cs ih =>
    by_cases hs : isSpace c
    · rw [Scan.run, show Scan.before.step c = .next .before by simp [Scan.step, hs]] at h
      obtain ⟨tail, q, body, gap, htail, hq, hb, hbe, hgap, rfl⟩ := ih h
      exact ⟨c :: tail, q, body, gap, List.forall_mem_cons.mpr ⟨hs, htail⟩, hq, hb, hbe, hgap, rfl⟩
    · by_cases hq : isQuote c
      · rw [Scan.run_before_quote hq] at h
        obtain ⟨body, gap, hb, hbe, hgap, rfl⟩ := Scan.seen_inside hq h
        exact ⟨[], c, body, gap, by simp, hq, hb, hbe, hgap, rfl⟩
      · simp [Scan.run, Scan.step, hs, hq] at h

/-- A scan cuts exactly the texts that end with a comparison with a literal. -/
theorem cut?_eq_some_iff {cs before : List Char} :
    cut? cs = some before ↔ ∃ l : Literal, cs = before ++ '=' :: l.chars := by
  constructor
  · intro h
    obtain ⟨rest, hrun, rfl⟩ : ∃ rest, Scan.before.run cs.reverse = .cut rest ∧
        before = rest.reverse := by
      unfold cut? at h
      split at h
      · next rest hrun => exact ⟨rest, hrun, by simpa using h.symm⟩
      · simp at h
      · simp at h
    obtain ⟨tail, q, body, gap, htail, hq, hb, hbe, hgap, hcs⟩ := Scan.seen_before hrun
    refine ⟨⟨gap.reverse, q, body.reverse, tail.reverse, by simpa using hgap, hq,
      by simpa using hb, by simpa using hbe, by simpa using htail⟩, ?_⟩
    rw [← List.reverse_reverse cs, hcs]
    simp [Literal.chars]
  · rintro ⟨l, rfl⟩
    exact cut?_append_literal before l

/-! ## The text that is left -/

theorem toList_append_literal (before : String) (l : Literal) :
    (before ++ "=" ++ l.text).toList = before.toList ++ '=' :: l.chars := by
  simp [Literal.text]

theorem strip_of_compares {text before : String} (h : Compares text before) :
    strip text = before := by
  obtain ⟨l, rfl⟩ := h
  rw [strip, toList_append_literal, cut?_append_literal]
  exact String.ofList_toList

/-- A text is longer than what it keeps of itself. -/
theorem Compares.ne {text before : String} (h : Compares text before) : before ≠ text := by
  obtain ⟨l, rfl⟩ := h
  intro heq
  have hlen := congrArg (fun s => s.toList.length) heq
  simp only [toList_append_literal, List.length_append, List.length_cons] at hlen
  omega

/-- A text that loses something ends with a comparison. -/
theorem compares_of_strip_ne {text : String} (h : strip text ≠ text) :
    Compares text (strip text) := by
  unfold strip at h ⊢
  split at h
  · next before hcut =>
    obtain ⟨l, hl⟩ := cut?_eq_some_iff.mp hcut
    refine ⟨l, String.toList_inj.mp ?_⟩
    rw [toList_append_literal, hl, String.toList_ofList]
  · exact absurd rfl h

theorem strip_ne_iff {text : String} : strip text ≠ text ↔ ∃ before, Compares text before := by
  constructor
  · intro h
    exact ⟨strip text, compares_of_strip_ne h⟩
  · rintro ⟨before, h⟩
    rw [strip_of_compares h]
    exact h.ne

theorem ofQuery?_of_eq {text : String} (h : strip text = text) : ofQuery? text = none :=
  if_pos h

theorem ofQuery?_of_ne {text : String} (h : strip text ≠ text) :
    ofQuery? text = some (strip text) :=
  if_neg h

/-- A text loses something exactly if it ends with an `=` and a literal; it
then keeps what stands before that `=`, which can be read in one way only, and
else it keeps all. -/
theorem strip_takes_off_exactly_a_trailing_comparison (text : String) :
    (strip text ≠ text ↔ ∃ before, Compares text before) ∧
    (∀ before, Compares text before →
      strip text = before ∧ ∀ other, Compares text other → other = before) ∧
    ((¬ ∃ before, Compares text before) → strip text = text) := by
  refine ⟨strip_ne_iff, ?_, ?_⟩
  · intro before h
    refine ⟨strip_of_compares h, ?_⟩
    intro other hother
    exact (strip_of_compares hother).symm.trans (strip_of_compares h)
  · intro h
    exact Decidable.byContradiction fun hne => h (strip_ne_iff.mp hne)

end Verdict.Probe
