-- Sets of characters as rising lists of code point ranges. The tables of
-- character properties are written this way, and asked with `holds`.

namespace Verdict.Text

/-- A set of code points: inclusive ranges, in rising order. -/
abbrev Ranges := List (Nat × Nat)

/-- Whether a code point lies in one of the ranges. The search ends at the
first range that starts above it. -/
def Ranges.covers : Ranges → Nat → Bool
  | [], _ => false
  | (low, high) :: others, n =>
    if n < low then false else n ≤ high || Ranges.covers others n

/-- Whether a character is in the set. -/
def Ranges.holds (set : Ranges) (c : Char) : Bool := set.covers c.toNat

theorem Ranges.covers_cons (low high n : Nat) (others : Ranges) (h : low ≤ n) :
    Ranges.covers ((low, high) :: others) n = (decide (n ≤ high) || Ranges.covers others n) := by
  have : ¬ n < low := by omega
  simp [Ranges.covers, this]

theorem Ranges.exists_mem_of_covers {set : Ranges} {n : Nat} (h : set.covers n) :
    ∃ range ∈ set, range.1 ≤ n ∧ n ≤ range.2 := by
  induction set with
  | nil => simp [Ranges.covers] at h
  | cons range others ih =>
    obtain ⟨low, high⟩ := range
    by_cases hlow : n < low
    · simp [Ranges.covers, hlow] at h
    · rw [Ranges.covers_cons low high n others (by omega), Bool.or_eq_true] at h
      rcases h with h | h
      · exact ⟨(low, high), List.mem_cons_self, by omega, of_decide_eq_true h⟩
      · obtain ⟨range, hmem, hrange⟩ := ih h
        exact ⟨range, List.mem_cons_of_mem _ hmem, hrange⟩

/-- No range of the one set meets one of the other. -/
def Ranges.apart (set other : Ranges) : Bool :=
  set.all fun a => other.all fun b => a.2 < b.1 || b.2 < a.1

theorem Ranges.holds_eq_false_of_apart {set other : Ranges} (h : set.apart other) {c : Char}
    (hc : other.holds c) : set.holds c = false := by
  rw [← Bool.not_eq_true]
  intro hset
  obtain ⟨a, hmem, ha⟩ := Ranges.exists_mem_of_covers hset
  obtain ⟨b, hmem', hb⟩ := Ranges.exists_mem_of_covers hc
  have hapart := List.all_eq_true.mp (List.all_eq_true.mp h a hmem) b hmem'
  simp only [Bool.or_eq_true, decide_eq_true_eq] at hapart
  omega

end Verdict.Text
