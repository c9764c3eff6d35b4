-- Stripping again and again. A text is a base and a chain of comparisons behind
-- it, and each stripping takes off the last of them. Main statement: a text has
-- one such chain, and it takes as many strippings as the chain is long to reach
-- the base, which is never more than the text has `=`.
import Mathlib.Data.List.Basic
import Mathlib.Data.List.Induction
import Mathlib.Logic.Function.Iterate
import Verdict.Proofs.Probe.Comparison

namespace Verdict.Probe

/-! ## Chains -/

/-- An `=` and a literal with white space around it. -/
def IsSegment (text : String) : Prop := ∃ l : Literal, text = "=" ++ l.text

/-- The text is a base that nothing is taken off, and segments behind it. -/
structure Chain (text base : String) (segments : List String) : Prop where
  isSegment : ∀ s ∈ segments, IsSegment s
  strip_base : strip base = base
  text_eq : text = base ++ String.join segments

theorem compares_append_segment {segment : String} (h : IsSegment segment) (before : String) :
    Compares (before ++ segment) before := by
  obtain ⟨l, rfl⟩ := h
  exact ⟨l, (String.append_assoc ..).symm⟩

theorem exists_segment_of_strip_ne {text : String} (h : strip text ≠ text) :
    ∃ segment, IsSegment segment ∧ text = strip text ++ segment := by
  obtain ⟨l, hl⟩ := compares_of_strip_ne h
  exact ⟨"=" ++ l.text, ⟨l, rfl⟩, hl.trans (String.append_assoc ..)⟩

/-- A segment holds one `=`, the one at its start. -/
theorem count_append_segment {segment : String} (h : IsSegment segment) (before : String) :
    (before ++ segment).toList.count '=' = before.toList.count '=' + 1 := by
  obtain ⟨l, rfl⟩ := h
  have hl : l.chars.count '=' = 0 := List.count_eq_zero.mpr l.eq_notMem_chars
  rw [← String.append_assoc, toList_append_literal, List.count_append, List.count_cons_self, hl]

theorem Chain.nil {text : String} (h : strip text = text) : Chain text text [] := by
  refine ⟨?_, h, ?_⟩
  · rintro _ ⟨⟩
  · rw [String.join_nil, String.append_empty]

theorem Chain.snoc {text base segment : String} {segments : List String}
    (h : Chain text base segments) (hsegment : IsSegment segment) :
    Chain (text ++ segment) base (segments ++ [segment]) := by
  refine ⟨?_, h.strip_base, ?_⟩
  · intro s hs
    rcases List.mem_append.mp hs with hs | hs
    · exact h.isSegment s hs
    · rw [List.mem_singleton.mp hs]
      exact hsegment
  · rw [String.join_append, ← String.append_assoc, ← h.text_eq, String.join_cons, String.join_nil,
      String.append_empty]

/-- What the last segment of a chain stands behind is a chain itself. -/
theorem Chain.exists_before {text base segment : String} {segments : List String}
    (h : Chain text base (segments ++ [segment])) :
    IsSegment segment ∧ ∃ before, text = before ++ segment ∧ Chain before base segments := by
  refine ⟨h.isSegment segment (by simp), base ++ String.join segments, ?_, ?_, h.strip_base, rfl⟩
  · rw [h.text_eq, String.join_append, String.join_cons, String.join_nil, String.append_empty,
      String.append_assoc]
  · intro s hs
    exact h.isSegment s (List.mem_append_left _ hs)

/-! ## Existence and uniqueness -/

/-- Each segment that is taken off has one of the `=` of the text. -/
theorem exists_chain (text : String) : ∃ base segments, Chain text base segments := by
  induction hcount : text.toList.count '=' generalizing text with
  | zero =>
    refine ⟨text, [], .nil ?_⟩
    by_contra hne
    obtain ⟨segment, hsegment, htext⟩ := exists_segment_of_strip_ne hne
    rw [htext, count_append_segment hsegment] at hcount
    omega
  | succ n ih =>
    by_cases hne : strip text = text
    · exact ⟨text, [], .nil hne⟩
    · obtain ⟨segment, hsegment, htext⟩ := exists_segment_of_strip_ne hne
      have hless : (strip text).toList.count '=' = n := by
        rw [htext, count_append_segment hsegment] at hcount
        omega
      obtain ⟨base, segments, hchain⟩ := ih (strip text) hless
      refine ⟨base, segments ++ [segment], ?_⟩
      rw [htext]
      exact hchain.snoc hsegment

theorem Chain.length_le_count {text base : String} {segments : List String}
    (h : Chain text base segments) : segments.length ≤ text.toList.count '=' := by
  induction segments using List.reverseRecOn generalizing text with
  | nil => exact Nat.zero_le _
  | append_singleton segments segment ih =>
    obtain ⟨hsegment, before, rfl, hbefore⟩ := h.exists_before
    have := ih hbefore
    rw [List.length_append, List.length_singleton, count_append_segment hsegment]
    omega

theorem Chain.strip_eq_self_iff {text base : String} {segments : List String}
    (h : Chain text base segments) : strip text = text ↔ segments = [] := by
  constructor
  · intro hfixed
    rcases List.eq_nil_or_concat' segments with hnil | ⟨segments, segment, rfl⟩
    · exact hnil
    · obtain ⟨hsegment, before, rfl, -⟩ := h.exists_before
      have hcompares := compares_append_segment hsegment before
      exact absurd ((strip_of_compares hcompares).symm.trans hfixed) hcompares.ne
  · rintro rfl
    rw [h.text_eq, String.join_nil, String.append_empty]
    exact h.strip_base

/-- Where one segment ends and the next starts is settled by the text. -/
theorem Chain.unique {text base base' : String} {segments segments' : List String}
    (h : Chain text base segments) (h' : Chain text base' segments') :
    base' = base ∧ segments' = segments := by
  induction segments using List.reverseRecOn generalizing text segments' with
  | nil =>
    have hnil : segments' = [] := h'.strip_eq_self_iff.mp (h.strip_eq_self_iff.mpr rfl)
    subst hnil
    have htext := h'.text_eq
    rw [h.text_eq] at htext
    exact ⟨((String.append_left_inj _).mp htext).symm, rfl⟩
  | append_singleton segments segment ih =>
    rcases List.eq_nil_or_concat' segments' with rfl | ⟨segments', segment', rfl⟩
    · have hnil := h.strip_eq_self_iff.mp (h'.strip_eq_self_iff.mpr rfl)
      exact absurd hnil (by simp)
    · obtain ⟨hsegment, before, rfl, hbefore⟩ := h.exists_before
      obtain ⟨hsegment', before', htext, hbefore'⟩ := h'.exists_before
      have hcompares' : Compares (before ++ segment) before' :=
        htext ▸ compares_append_segment hsegment' before'
      have hsame : before = before' :=
        (strip_of_compares (compares_append_segment hsegment before)).symm.trans
          (strip_of_compares hcompares')
      subst hsame
      obtain ⟨hbase, hsegments⟩ := ih hbefore hbefore'
      refine ⟨hbase, ?_⟩
      rw [hsegments, (String.append_right_inj before).mp htext]

/-! ## Stripping along a chain -/

/-- One stripping takes off the last segment. -/
theorem Chain.strip {text base : String} {segments : List String} (h : Chain text base segments) :
    Chain (strip text) base segments.dropLast := by
  rcases List.eq_nil_or_concat' segments with rfl | ⟨segments, segment, rfl⟩
  · rw [h.strip_eq_self_iff.mpr rfl]
    exact h
  · obtain ⟨hsegment, before, rfl, hbefore⟩ := h.exists_before
    rw [strip_of_compares (compares_append_segment hsegment before), List.dropLast_concat]
    exact hbefore

/-- Many strippings take off as many segments, as long as there are any. -/
theorem Chain.iterate {text base : String} {segments : List String} (h : Chain text base segments)
    (k : Nat) : Chain (Probe.strip^[k] text) base (segments.take (segments.length - k)) := by
  induction k with
  | zero =>
    rw [Nat.sub_zero, List.take_length]
    exact h
  | succ k ih =>
    have hlast : (segments.take (segments.length - k)).dropLast =
        segments.take (segments.length - (k + 1)) := by
      rw [List.dropLast_eq_take, List.take_take, List.length_take]
      congr 1
      omega
    rw [Function.iterate_succ_apply', ← hlast]
    exact ih.strip

theorem Chain.iterate_of_length_le {text base : String} {segments : List String}
    (h : Chain text base segments) {k : Nat} (hk : segments.length ≤ k) :
    Probe.strip^[k] text = base := by
  have htext := (h.iterate k).text_eq
  rwa [Nat.sub_eq_zero_of_le hk, List.take_zero, String.join_nil, String.append_empty] at htext

/-- A text is in one way a base that nothing is taken off and a chain of
segments. Stripping it `k` times takes off the last `k` segments, or all of them
if there are no more than `k`, so no more strippings than the text has `=` lead
to the base, where nothing changes any more. The second one changes nothing
exactly if there is at most one segment. -/
theorem repeated_stripping_takes_off_a_chain (text : String) :
    ∃ base segments, Chain text base segments ∧
      (∀ base' segments', Chain text base' segments' → base' = base ∧ segments' = segments) ∧
      (∀ k ≤ segments.length,
        strip^[k] text = base ++ String.join (segments.take (segments.length - k))) ∧
      (∀ k ≥ segments.length, strip^[k] text = base) ∧
      (∃ k ≤ text.toList.count '=', strip^[k] text = base ∧ strip base = base) ∧
      (strip (strip text) = strip text ↔ segments.length ≤ 1) := by
  obtain ⟨base, segments, h⟩ := exists_chain text
  refine ⟨base, segments, h, ?_, ?_, ?_, ?_, ?_⟩
  · intro base' segments' h'
    exact h.unique h'
  · intro k _
    exact (h.iterate k).text_eq
  · intro k hk
    exact h.iterate_of_length_le hk
  · exact ⟨segments.length, h.length_le_count, h.iterate_of_length_le (Nat.le_refl _), h.strip_base⟩
  · rw [h.strip.strip_eq_self_iff, ← List.length_eq_zero_iff, List.length_dropLast]
    omega

example : strip^[2] "a = 'x' =\"it's\" " = "a " := by decide

end Verdict.Probe
