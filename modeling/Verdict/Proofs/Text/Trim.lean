-- Trimming. Main statements: what trimming leaves of a text is the one text
-- without white space at its ends that the whole is with white space around it,
-- and a character that is not white space splits the trimming of a text into one
-- of the left side and one of the right side.
import Mathlib.Data.List.DropRight
import Mathlib.Data.List.TakeWhile
import Verdict.Text.Blank

namespace Verdict.Text

/-- Nothing but white space. -/
def IsWhite (w : List Char) : Prop := ∀ c ∈ w, isBlank c

theorem isWhite_nil : IsWhite [] := by
  rintro _ ⟨⟩

/-! ## White space at the ends -/

theorem trimLeft_of_blank {w : List Char} (h : ∀ c ∈ w, isBlank c) : trimLeft w = [] :=
  List.dropWhile_eq_nil_iff.mpr h

theorem trimRight_eq_rdropWhile (cs : List Char) : trimRight cs = cs.rdropWhile isBlank := rfl

theorem trimRight_of_blank {w : List Char} (h : ∀ c ∈ w, isBlank c) : trimRight w = [] :=
  List.rdropWhile_eq_nil_iff.mpr h

theorem trimLeft_append_of_blank {w : List Char} (h : IsWhite w) (cs : List Char) :
    trimLeft (w ++ cs) = trimLeft cs :=
  List.dropWhile_append_of_pos h

theorem trimRight_append_of_blank {w : List Char} (h : IsWhite w) (cs : List Char) :
    trimRight (cs ++ w) = trimRight cs := by
  have hrev : IsWhite w.reverse := fun c hc => h c (List.mem_reverse.mp hc)
  rw [trimRight, List.reverse_append, List.dropWhile_append_of_pos hrev, trimRight]

theorem trimChars_append_of_blank {w : List Char} (h : IsWhite w) (cs : List Char) :
    trimChars (cs ++ w) = trimChars cs := by
  unfold trimChars
  by_cases hcs : IsWhite cs
  · have hall : IsWhite (cs ++ w) := fun c hc => (List.mem_append.mp hc).elim (hcs c) (h c)
    rw [trimLeft_of_blank hcs, trimLeft_of_blank hall]
  · have hne : trimLeft cs ≠ [] := fun hnil => hcs (List.dropWhile_eq_nil_iff.mp hnil)
    have hleft : trimLeft (cs ++ w) = trimLeft cs ++ w := by
      unfold trimLeft at hne ⊢
      rw [List.dropWhile_append, if_neg (by simpa using hne)]
    rw [hleft, trimRight_append_of_blank h]

theorem exists_trimLeft (cs : List Char) : ∃ w, IsWhite w ∧ cs = w ++ trimLeft cs := by
  refine ⟨cs.takeWhile isBlank, ?_, List.takeWhile_append_dropWhile.symm⟩
  intro c hc
  exact List.mem_takeWhile_imp hc

theorem exists_trimRight (cs : List Char) : ∃ w, IsWhite w ∧ cs = trimRight cs ++ w := by
  refine ⟨cs.rtakeWhile isBlank, ?_, ?_⟩
  · intro c hc
    exact List.mem_rtakeWhile_imp hc
  · rw [trimRight_eq_rdropWhile, List.rdropWhile_append_rtakeWhile]

/-- A text is what trimming leaves of it, with white space around it. -/
theorem exists_trimChars (cs : List Char) :
    ∃ w w', IsWhite w ∧ IsWhite w' ∧ cs = w ++ trimChars cs ++ w' := by
  obtain ⟨w, hw, hleft⟩ := exists_trimLeft cs
  obtain ⟨w', hw', hright⟩ := exists_trimRight (trimLeft cs)
  refine ⟨w, w', hw, hw', ?_⟩
  rw [List.append_assoc, trimChars, ← hright, ← hleft]

theorem trimChars_trimRight (cs : List Char) : trimChars (trimRight cs) = trimChars cs := by
  obtain ⟨w, hw, hcs⟩ := exists_trimRight cs
  calc trimChars (trimRight cs) = trimChars (trimRight cs ++ w) :=
        (trimChars_append_of_blank hw _).symm
    _ = trimChars cs := by rw [← hcs]

/-! ## Characters that are not white space -/

theorem trimLeft_append_of_solid {cs : List Char} (hne : cs ≠ [])
    (h : ∀ c ∈ cs, isBlank c = false) (rest : List Char) : trimLeft (cs ++ rest) = cs ++ rest := by
  cases cs with
  | nil => exact absurd rfl hne
  | cons c cs => exact List.dropWhile_cons_of_neg (by simp [h c List.mem_cons_self])

theorem trimLeft_of_solid {cs : List Char} (h : ∀ c ∈ cs, isBlank c = false) :
    trimLeft cs = cs := by
  by_cases hne : cs = []
  · rw [hne]
    rfl
  · simpa using trimLeft_append_of_solid hne h []

theorem trimRight_of_solid {cs : List Char} (h : ∀ c ∈ cs, isBlank c = false) :
    trimRight cs = cs := by
  refine List.rdropWhile_eq_self_iff.mpr fun hne => ?_
  rw [h _ (List.getLast_mem hne)]
  exact Bool.false_ne_true

/-- Around a text without white space, white space is all that trimming takes
off. -/
theorem trimChars_surrounded {w cs w' : List Char} (hw : IsWhite w)
    (h : ∀ c ∈ cs, isBlank c = false) (hw' : IsWhite w') : trimChars (w ++ cs ++ w') = cs := by
  rw [trimChars_append_of_blank hw', trimChars, trimLeft_append_of_blank hw, trimLeft_of_solid h,
    trimRight_of_solid h]

/-- A character that is not white space shields what stands behind it. -/
theorem trimLeft_append_cons {c : Char} (hc : isBlank c = false) (cs rest : List Char) :
    trimLeft (cs ++ c :: rest) = trimLeft cs ++ c :: rest := by
  unfold trimLeft
  rw [List.dropWhile_append]
  split
  · rename_i h
    rw [List.isEmpty_iff.mp h, List.nil_append, List.dropWhile_cons_of_neg (by simp [hc])]
  · rfl

/-- A character that is not white space shields what stands before it. -/
theorem trimRight_append_cons {c : Char} (hc : isBlank c = false) (cs rest : List Char) :
    trimRight (cs ++ c :: rest) = cs ++ c :: trimRight rest := by
  have hrev : (cs ++ c :: rest).reverse = rest.reverse ++ c :: cs.reverse := by simp
  have hleft : (rest.reverse ++ c :: cs.reverse).dropWhile isBlank =
      rest.reverse.dropWhile isBlank ++ c :: cs.reverse := trimLeft_append_cons hc _ _
  rw [trimRight, hrev, hleft]
  simp [trimRight]

theorem trimChars_append_cons {c : Char} (hc : isBlank c = false) (cs rest : List Char) :
    trimChars (cs ++ c :: rest) = trimLeft cs ++ c :: trimRight rest := by
  rw [trimChars, trimLeft_append_cons hc, trimRight_append_cons hc]

/-- A character that is not white space is never trimmed. -/
theorem mem_trimRight {c : Char} (hc : isBlank c = false) {cs : List Char} :
    c ∈ trimRight cs ↔ c ∈ cs := by
  constructor
  · intro h
    exact List.mem_reverse.mp (List.dropWhile_subset isBlank (List.mem_reverse.mp h))
  · intro h
    obtain ⟨before, after, rfl⟩ := List.append_of_mem h
    rw [trimRight_append_cons hc]
    simp

theorem mem_trimChars {c : Char} (hc : isBlank c = false) {cs : List Char} :
    c ∈ trimChars cs ↔ c ∈ cs := by
  rw [trimChars, mem_trimRight hc]
  obtain ⟨w, hw, hcs⟩ := exists_trimLeft cs
  constructor
  · intro h
    rw [hcs]
    exact List.mem_append_right w h
  · intro h
    rw [hcs] at h
    rcases List.mem_append.mp h with h | h
    · rw [hw c h] at hc
      cases hc
    · exact h

/-! ## What trimming leaves -/

/-- Neither the first nor the last character is white space. -/
structure IsTrimmed (cs : List Char) : Prop where
  head : ∀ c, cs.head? = some c → isBlank c = false
  last : ∀ c, cs.getLast? = some c → isBlank c = false

theorem isBlank_of_head?_trimLeft {cs : List Char} {c : Char} (h : (trimLeft cs).head? = some c) :
    isBlank c = false := by
  have hhead := List.head?_dropWhile_not isBlank cs
  rw [← trimLeft, h] at hhead
  exact hhead

/-- What is taken off at the end leaves the first character where it is. -/
theorem isTrimmed_trimChars (cs : List Char) : IsTrimmed (trimChars cs) := by
  constructor
  · intro c hc
    obtain ⟨rest, htrim⟩ := List.head?_eq_some_iff.mp hc
    obtain ⟨w, -, hleft⟩ := exists_trimRight (trimLeft cs)
    rw [← trimChars, htrim] at hleft
    exact isBlank_of_head?_trimLeft (by rw [hleft]; rfl)
  · intro c hc
    rw [trimChars, trimRight, List.getLast?_reverse] at hc
    exact isBlank_of_head?_trimLeft hc

theorem IsTrimmed.trimLeft_eq {cs : List Char} (h : IsTrimmed cs) : trimLeft cs = cs := by
  cases cs with
  | nil => rfl
  | cons c cs =>
    have hc : isBlank c = false := h.head c rfl
    exact List.dropWhile_cons_of_neg (by simp [hc])

theorem IsTrimmed.trimChars_eq {cs : List Char} (h : IsTrimmed cs) : trimChars cs = cs := by
  rw [trimChars, h.trimLeft_eq]
  refine List.rdropWhile_eq_self_iff.mpr fun hne => ?_
  rw [h.last _ (List.getLast?_eq_some_getLast hne)]
  exact Bool.false_ne_true

theorem trimChars_padded {w w' : List Char} (hw : IsWhite w) (hw' : IsWhite w') (cs : List Char) :
    trimChars (w ++ cs ++ w') = trimChars cs := by
  rw [trimChars_append_of_blank hw', trimChars, trimLeft_append_of_blank hw, trimChars]

theorem trimChars_eq_nil_iff {cs : List Char} : trimChars cs = [] ↔ IsWhite cs := by
  constructor
  · intro h
    obtain ⟨w, w', hw, hw', hcs⟩ := exists_trimChars cs
    rw [h, List.append_nil] at hcs
    rw [hcs]
    intro c hc
    exact (List.mem_append.mp hc).elim (hw c) (hw' c)
  · intro h
    rw [trimChars, trimLeft_of_blank h]
    rfl

/-- The one text without white space at its ends that the whole text is with white
space around it. -/
theorem trimChars_eq_iff {cs t : List Char} :
    trimChars cs = t ↔ IsTrimmed t ∧ ∃ w w', IsWhite w ∧ IsWhite w' ∧ cs = w ++ t ++ w' := by
  constructor
  · rintro rfl
    exact ⟨isTrimmed_trimChars cs, exists_trimChars cs⟩
  · rintro ⟨ht, w, w', hw, hw', rfl⟩
    rw [trimChars_padded hw hw', ht.trimChars_eq]

theorem toList_trim (s : String) : (trim s).toList = trimChars s.toList := String.toList_ofList

theorem trim_eq_empty_iff {s : String} : trim s = "" ↔ IsWhite s.toList := by
  rw [← trimChars_eq_nil_iff, ← toList_trim, String.toList_eq_nil_iff]

theorem trim_padded {w w' : String} (hw : IsWhite w.toList) (hw' : IsWhite w'.toList)
    (s : String) : trim (w ++ s ++ w') = trim s := by
  apply String.toList_inj.mp
  rw [toList_trim, toList_trim, String.toList_append, String.toList_append, trimChars_padded hw hw']

theorem trim_eq_iff {s t : String} :
    trim s = t ↔ IsTrimmed t.toList ∧
      ∃ w w' : String, IsWhite w.toList ∧ IsWhite w'.toList ∧ s = w ++ t ++ w' := by
  rw [← String.toList_inj, toList_trim, trimChars_eq_iff]
  refine and_congr_right fun _ => ?_
  constructor
  · rintro ⟨w, w', hw, hw', hs⟩
    refine ⟨String.ofList w, String.ofList w', ?_, ?_, ?_⟩
    · rwa [String.toList_ofList]
    · rwa [String.toList_ofList]
    · apply String.toList_inj.mp
      simp [hs]
  · rintro ⟨w, w', hw, hw', rfl⟩
    exact ⟨w.toList, w'.toList, hw, hw', by simp⟩

end Verdict.Text
