-- Every token takes at least one character from the text. Main statement: what
-- is left after a token is shorter than what was left before it.
import Verdict.Yaml.Token.Scanner

namespace Verdict.Yaml.Scanner

/-! ## What reads no characters -/

theorem cursor_dropStaleKeys {s t : Scanner} (h : s.dropStaleKeys = .ok t) :
    t.cursor = s.cursor := by
  unfold dropStaleKeys at h
  simp only [bind, Except.bind, pure, Except.pure] at h
  repeat' split at h
  all_goals first
    | (cases h; done)
    | (cases h; rfl)

theorem cursor_forgetKey {s t : Scanner} (h : s.forgetKey = .ok t) : t.cursor = s.cursor := by
  unfold forgetKey at h
  simp only [bind, Except.bind, pure, Except.pure] at h
  split at h <;> cases h
  rfl

theorem cursor_rememberKey {s t : Scanner} (h : s.rememberKey = .ok t) :
    t.cursor = s.cursor := by
  unfold rememberKey at h
  simp only [bind, Except.bind, pure, Except.pure] at h
  split at h
  · split at h
    · cases h
    · next hu =>
      have hu := cursor_forgetKey hu
      cases h
      exact hu
  · cases h; rfl

theorem cursor_openBlock (s : Scanner) (kind : Token.Kind) (column index : Nat) (m : Mark) :
    (s.openBlock kind column index m).cursor = s.cursor := by
  unfold openBlock
  split <;> rfl

theorem cursor_closeBlocks (s : Scanner) (stays : Nat → Bool) :
    (s.closeBlocks stays).cursor = s.cursor := by
  unfold closeBlocks
  split <;> rfl

theorem cursor_endBlocks {s t : Scanner} (h : s.endBlocks = .ok t) : t.cursor = s.cursor := by
  unfold endBlocks at h
  simp only [bind, Except.bind, pure, Except.pure] at h
  split at h
  · cases h
  · next hs => cases h; exact (cursor_forgetKey hs).trans (s.cursor_closeBlocks _)

theorem cursor_enterBlock {s t : Scanner} {kind : Token.Kind} {problem : Problem}
    (h : s.enterBlock kind problem = .ok t) : t.cursor = s.cursor := by
  unfold enterBlock at h
  repeat' split at h
  all_goals first
    | (cases h; done)
    | (cases h; rfl)
    | (cases h; exact s.cursor_openBlock ..)

/-! ## What reads some -/

theorem length_sign_lt (s : Scanner) (kind : Token.Kind) {n : Nat} (hn : 0 < n)
    (hs : s.cursor.rest ≠ []) : (s.sign kind n).cursor.rest.length < s.cursor.rest.length :=
  s.cursor.length_advance_lt hn hs

theorem length_scanDirective_lt {s t : Scanner} (hs : s.cursor.rest ≠ [])
    (h : s.scanDirective = .ok t) : t.cursor.rest.length < s.cursor.rest.length := by
  unfold scanDirective at h
  simp only [bind, Except.bind, pure, Except.pure] at h
  split at h
  · cases h
  · next hu =>
    have hu := cursor_endBlocks hu
    split at h
    · cases h
    · next hr =>
      have hr := Directive.length_read_le hr
      cases h
      rw [hu] at hr
      exact Nat.lt_of_le_of_lt hr (s.cursor.length_advance_lt Nat.one_pos hs)

theorem length_scanDocumentMarker_lt {s t : Scanner} {kind : Token.Kind}
    (hs : s.cursor.rest ≠ []) (h : s.scanDocumentMarker kind = .ok t) :
    t.cursor.rest.length < s.cursor.rest.length := by
  unfold scanDocumentMarker at h
  simp only [bind, Except.bind, pure, Except.pure] at h
  split at h
  · cases h
  · next u hu =>
    have hu := cursor_endBlocks hu
    cases h
    rw [← hu] at hs ⊢
    exact u.length_sign_lt kind (by omega) hs

theorem length_openFlow_lt {s t : Scanner} {kind : Token.Kind} (hs : s.cursor.rest ≠ [])
    (h : s.openFlow kind = .ok t) : t.cursor.rest.length < s.cursor.rest.length := by
  unfold openFlow at h
  simp only [bind, Except.bind, pure, Except.pure] at h
  split at h
  · cases h
  · next u hu =>
    have hu := cursor_rememberKey hu
    cases h
    rw [← hu] at hs ⊢
    exact u.length_sign_lt kind Nat.one_pos hs

theorem length_closeFlow_lt {s t : Scanner} {kind : Token.Kind} (hs : s.cursor.rest ≠ [])
    (h : s.closeFlow kind = .ok t) : t.cursor.rest.length < s.cursor.rest.length := by
  unfold closeFlow at h
  simp only [bind, Except.bind, pure, Except.pure] at h
  split at h
  · cases h
  · next u hu =>
    have hu := cursor_forgetKey hu
    cases h
    rw [← hu] at hs ⊢
    split <;> exact u.cursor.length_advance_lt Nat.one_pos hs

theorem length_scanFlowEntry_lt {s t : Scanner} (hs : s.cursor.rest ≠ [])
    (h : s.scanFlowEntry = .ok t) : t.cursor.rest.length < s.cursor.rest.length := by
  unfold scanFlowEntry at h
  simp only [bind, Except.bind, pure, Except.pure] at h
  split at h
  · cases h
  · next u hu =>
    have hu := cursor_forgetKey hu
    cases h
    rw [← hu] at hs ⊢
    exact u.length_sign_lt .flowEntry Nat.one_pos hs

theorem length_scanBlockEntry_lt {s t : Scanner} (hs : s.cursor.rest ≠ [])
    (h : s.scanBlockEntry = .ok t) : t.cursor.rest.length < s.cursor.rest.length := by
  unfold scanBlockEntry at h
  simp only [bind, Except.bind, pure, Except.pure] at h
  split at h
  · cases h
  · next hu =>
    split at h
    · cases h
    · next v hv =>
      have hv := (cursor_forgetKey hv).trans (cursor_enterBlock hu)
      cases h
      rw [← hv] at hs ⊢
      exact v.length_sign_lt .blockEntry Nat.one_pos hs

theorem length_scanKey_lt {s t : Scanner} (hs : s.cursor.rest ≠ [])
    (h : s.scanKey = .ok t) : t.cursor.rest.length < s.cursor.rest.length := by
  unfold scanKey at h
  simp only [bind, Except.bind, pure, Except.pure] at h
  split at h
  · cases h
  · next hu =>
    split at h
    · cases h
    · next v hv =>
      have hv := (cursor_forgetKey hv).trans (cursor_enterBlock hu)
      cases h
      rw [← hv] at hs ⊢
      exact v.length_sign_lt .key Nat.one_pos hs

theorem length_scanValue_lt {s t : Scanner} (hs : s.cursor.rest ≠ [])
    (h : s.scanValue = .ok t) : t.cursor.rest.length < s.cursor.rest.length := by
  unfold scanValue at h
  simp only [bind, Except.bind, pure, Except.pure] at h
  split at h
  · next k _ =>
    cases h
    simp only [sign, push, cursor_openBlock]
    exact s.cursor.length_advance_lt Nat.one_pos hs
  · split at h
    · cases h
    · next u hu =>
      have hu := cursor_enterBlock hu
      cases h
      rw [← hu] at hs ⊢
      exact u.length_sign_lt .value Nat.one_pos hs

theorem length_scanAnchor_lt {s t : Scanner} {reading : Reading} {kind : String → Token.Kind}
    (hs : s.cursor.rest ≠ []) (h : s.scanAnchor reading kind = .ok t) :
    t.cursor.rest.length < s.cursor.rest.length := by
  unfold scanAnchor at h
  simp only [bind, Except.bind, pure, Except.pure] at h
  split at h
  · cases h
  · next hu =>
    have hu := cursor_rememberKey hu
    split at h
    · cases h
    · next hr =>
      have hr := Anchor.length_read_le hr
      cases h
      rw [hu] at hr
      exact Nat.lt_of_le_of_lt hr (s.cursor.length_advance_lt Nat.one_pos hs)

theorem length_scanTag_lt {s t : Scanner} (h : s.scanTag = .ok t) :
    t.cursor.rest.length < s.cursor.rest.length := by
  unfold scanTag at h
  simp only [bind, Except.bind, pure, Except.pure] at h
  split at h
  · cases h
  · next hu =>
    have hu := cursor_rememberKey hu
    split at h
    · cases h
    · next hr =>
      have hr := Tag.length_readWhole_lt hr
      cases h
      rw [hu] at hr
      exact hr

theorem length_scanBlockScalar_lt {s t : Scanner} {literal : Bool} (hs : s.cursor.rest ≠ [])
    (h : s.scanBlockScalar literal = .ok t) :
    t.cursor.rest.length < s.cursor.rest.length := by
  unfold scanBlockScalar at h
  simp only [bind, Except.bind, pure, Except.pure] at h
  split at h
  · cases h
  · next hu =>
    have hu := cursor_forgetKey hu
    split at h
    · cases h
    · next hr =>
      have hr := Block.length_read_le hr
      cases h
      rw [hu] at hr
      exact Nat.lt_of_le_of_lt hr (s.cursor.length_advance_lt Nat.one_pos hs)

theorem length_scanQuoted_lt {s t : Scanner} {single : Bool} (hs : s.cursor.rest ≠ [])
    (h : s.scanQuoted single = .ok t) : t.cursor.rest.length < s.cursor.rest.length := by
  unfold scanQuoted at h
  simp only [bind, Except.bind, pure, Except.pure] at h
  split at h
  · cases h
  · next hu =>
    have hu := cursor_rememberKey hu
    split at h
    · cases h
    · next hr =>
      have hr := Quoted.length_read_le hr
      cases h
      rw [hu] at hr
      exact Nat.lt_of_le_of_lt hr (s.cursor.length_advance_lt Nat.one_pos hs)

theorem length_scanPlain_lt {s t : Scanner} {c : Char} (hs : s.cursor.rest ≠ [])
    (h : s.scanPlain c = .ok t) : t.cursor.rest.length < s.cursor.rest.length := by
  unfold scanPlain at h
  simp only [bind, Except.bind, pure, Except.pure] at h
  split at h
  · cases h
  · next hu =>
    have hu := cursor_rememberKey hu
    split at h
    · cases h
    · next hr =>
      have hr := Plain.length_read_le hr
      cases h
      rw [hu] at hr
      exact Nat.lt_of_le_of_lt hr (s.cursor.length_advance_lt Nat.one_pos hs)

theorem length_scanContent_lt {s t : Scanner} {c : Char} {rest : List Char}
    (hs : s.cursor.rest ≠ []) (h : s.scanContent c rest = .ok t) :
    t.cursor.rest.length < s.cursor.rest.length := by
  unfold scanContent at h
  repeat' split at h
  all_goals first
    | exact length_scanAnchor_lt hs h
    | exact length_scanTag_lt h
    | exact length_scanBlockScalar_lt hs h
    | exact length_scanQuoted_lt hs h
    | exact length_scanPlain_lt hs h
    | cases h

theorem length_scanSign_lt {s t : Scanner} {c : Char} {rest : List Char}
    (hs : s.cursor.rest ≠ []) (h : s.scanSign c rest = .ok t) :
    t.cursor.rest.length < s.cursor.rest.length := by
  unfold scanSign at h
  repeat' split at h
  all_goals first
    | exact length_openFlow_lt hs h
    | exact length_closeFlow_lt hs h
    | exact length_scanFlowEntry_lt hs h
    | exact length_scanBlockEntry_lt hs h
    | exact length_scanKey_lt hs h
    | exact length_scanValue_lt hs h
    | exact length_scanContent_lt hs h

theorem length_scanToken_lt {s t : Scanner} {c : Char} {rest : List Char}
    (hs : s.cursor.rest ≠ []) (h : s.scanToken c rest = .ok t) :
    t.cursor.rest.length < s.cursor.rest.length := by
  unfold scanToken at h
  repeat' split at h
  all_goals first
    | exact length_scanDirective_lt hs h
    | exact length_scanDocumentMarker_lt hs h
    | exact length_scanSign_lt hs h

theorem length_next_lt {s t : Scanner} (h : s.next = .ok (.more t)) :
    t.cursor.rest.length < s.cursor.rest.length := by
  unfold next at h
  simp only [bind, Except.bind, pure, Except.pure] at h
  split at h
  · cases h
  · next u hu =>
    have hu : (u.closeBlocks (· ≤ u.mark.column)).cursor = s.toToken.cursor :=
      (u.cursor_closeBlocks _).trans (cursor_dropStaleKeys hu)
    have hle : s.toToken.cursor.rest.length ≤ s.cursor.rest.length :=
      length_skipSpace_le ..
    split at h
    · repeat' split at h
      all_goals cases h
    · next hc =>
      split at h
      · cases h
      · next hv =>
        split at h
        · cases h
        · next hw =>
          have hlt := length_scanToken_lt (by simp [hc]) hv
          have hw := cursor_dropStaleKeys hw
          cases h
          rw [hw]
          rw [hu] at hlt
          omega

end Verdict.Yaml.Scanner
