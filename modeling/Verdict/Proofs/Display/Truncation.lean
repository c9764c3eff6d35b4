-- How much of a text a line shows. Main statements: what is shown keeps the limit
-- exactly if the whole text does or the limit leaves room for the three dots, and
-- two limits one after the other do what the smaller one does alone.
import Verdict.Display

namespace Verdict.Display

/-! ## One limit -/

theorem truncateChars_of_lt {limit : Nat} {cs : List Char} (h : limit < cs.length) :
    truncateChars limit cs = cs.take (limit - 3) ++ ['.', '.', '.'] :=
  if_neg (Nat.not_le.mpr h)

/-- A text that is cut short fills the limit, or it is the dots alone. -/
theorem length_truncateChars_of_lt {limit : Nat} {cs : List Char} (h : limit < cs.length) :
    (truncateChars limit cs).length = max limit 3 := by
  rw [truncateChars_of_lt h, List.length_append, List.length_take]
  simp only [List.length_cons, List.length_nil]
  omega

theorem toList_truncate (limit : Nat) (text : String) :
    (truncate limit text).toList = truncateChars limit text.toList :=
  String.toList_ofList

theorem truncate_of_length_le {limit : Nat} {text : String} (h : text.length ≤ limit) :
    truncate limit text = text := by
  rw [← String.length_toList] at h
  rw [truncate, truncateChars_of_length_le h, String.ofList_toList]

theorem length_truncate_of_lt {limit : Nat} {text : String} (h : limit < text.length) :
    (truncate limit text).length = max limit 3 := by
  rw [← String.length_toList] at h ⊢
  rw [toList_truncate]
  exact length_truncateChars_of_lt h

/-- The limit is kept unless it has no room for the dots and they are needed. -/
theorem length_truncate_le_iff {limit : Nat} {text : String} :
    (truncate limit text).length ≤ limit ↔ text.length ≤ limit ∨ 3 ≤ limit := by
  by_cases h : text.length ≤ limit
  · rw [truncate_of_length_le h]
    exact ⟨.inl, fun _ => h⟩
  · rw [length_truncate_of_lt (Nat.lt_of_not_le h)]
    omega

/-! ## On a line -/

/-- What stands before the description on the line of an assertion. -/
def statusLead (display : Display) (ok : Bool) : String :=
  "  " ++ (if ok then display.paint green "✓" else display.paint red "✗") ++ " "

/-- Of a description and of a probe a line shows the same part, colours and fixed
words apart. A text within the limit is shown as it is. A longer one takes the
limit, but never less than the three characters of the dots. So the limit is
kept exactly if the text is within it or the limit is three or more. -/
theorem a_shown_text_keeps_a_limit_with_room_for_the_dots (display : Display) (text : String) :
    ∃ shown : String,
      (∀ ok, display.status ok text = display.statusLead ok ++ shown) ∧
      display.probe text = "      probe: " ++ display.paint cyan shown ∧
      (text.length ≤ display.truncateAt → shown = text) ∧
      (display.truncateAt < text.length → shown.length = max display.truncateAt 3) ∧
      (shown.length ≤ display.truncateAt ↔
        text.length ≤ display.truncateAt ∨ 3 ≤ display.truncateAt) := by
  refine ⟨truncate display.truncateAt text, ?_, rfl, ?_, ?_, length_truncate_le_iff⟩
  · intro ok
    rfl
  · exact truncate_of_length_le
  · exact length_truncate_of_lt

/-- Of a text of one character nothing may be shown at the limit zero, and three
dots are. -/
theorem the_dots_alone_exceed_a_limit_of_zero :
    let display : Display := { truncateAt := 0 }
    display.status true "a" = display.statusLead true ++ "..." ∧
    display.probe "a" = "      probe: " ++ display.paint cyan "..." ∧
    ¬ "...".length ≤ display.truncateAt := by
  decide +kernel

/-! ## Two limits -/

/-- A larger limit does nothing after a smaller one: if both are below three, the
dots are cut down to the dots. -/
theorem truncateChars_after_smaller {limit other : Nat} (h : limit ≤ other) (cs : List Char) :
    truncateChars other (truncateChars limit cs) = truncateChars limit cs := by
  by_cases hroom : (truncateChars limit cs).length ≤ other
  · exact truncateChars_of_length_le hroom
  · have hlong : limit < cs.length := by
      refine Nat.lt_of_not_le fun hfits => hroom ?_
      rw [truncateChars_of_length_le hfits]
      exact Nat.le_trans hfits h
    have hlength := length_truncateChars_of_lt hlong
    rw [truncateChars_of_lt (Nat.lt_of_not_le hroom), truncateChars_of_lt hlong,
      Nat.sub_eq_zero_of_le (by omega), Nat.sub_eq_zero_of_le (by omega), List.take_zero,
      List.take_zero]

/-- A smaller limit does after a larger one what it does alone, for the dots of the
first cut lie behind the second. -/
theorem truncateChars_after_larger {limit other : Nat} (h : other < limit) (cs : List Char) :
    truncateChars other (truncateChars limit cs) = truncateChars other cs := by
  by_cases hfits : cs.length ≤ limit
  · rw [truncateChars_of_length_le hfits]
  · have hlong : limit < cs.length := Nat.lt_of_not_le hfits
    have hcut : other < (truncateChars limit cs).length := by
      rw [length_truncateChars_of_lt hlong]
      omega
    have hkept : other - 3 ≤ (cs.take (limit - 3)).length := by
      rw [List.length_take]
      omega
    rw [truncateChars_of_lt hcut, truncateChars_of_lt hlong,
      List.take_append_of_le_length hkept, List.take_take, Nat.min_eq_left (by omega),
      truncateChars_of_lt (Nat.lt_trans h hlong)]

theorem truncateChars_truncateChars (limit other : Nat) (cs : List Char) :
    truncateChars other (truncateChars limit cs) = truncateChars (min other limit) cs := by
  rcases Nat.lt_or_ge other limit with hlt | hge
  · rw [truncateChars_after_larger hlt, Nat.min_eq_left (Nat.le_of_lt hlt)]
  · rw [truncateChars_after_smaller hge, Nat.min_eq_right hge]

/-- Two limits one after the other do what the smaller one does alone. So a limit
does nothing the second time, and of two limits either may come first. -/
theorem two_limits_do_what_the_smaller_one_does (limit other : Nat) (text : String) :
    truncate other (truncate limit text) = truncate (min other limit) text ∧
    truncate limit (truncate limit text) = truncate limit text ∧
    truncate other (truncate limit text) = truncate limit (truncate other text) := by
  have hmin : ∀ n k, truncate k (truncate n text) = truncate (min k n) text := by
    intro n k
    rw [truncate, toList_truncate, truncateChars_truncateChars]
    rfl
  refine ⟨hmin limit other, ?_, ?_⟩
  · rw [hmin, Nat.min_self]
  · rw [hmin, hmin, Nat.min_comm]

example : truncate 4 (truncate 2 "abcde") = "..." := by decide

example : truncate 4 (truncate 7 "abcdefgh") = "a..." := by decide

end Verdict.Display
