-- The report of an error on standard error. Main statement: the messages of an
-- error can be read off its report, each once and in order, whatever is in them:
-- a message that goes over several lines is indented from its second line on.
import Verdict.Proofs.Script.Printing

namespace Verdict.CommandLine

/-! ## Reading a report -/

/-- The columns before the text of a line. -/
def indentation (line : List Char) : Nat := (line.takeWhile (· = ' ')).length

/-- A line that is indented by seven columns goes on with the message above it, and
any other starts the message of its number. The first part is what goes on with a
message further above. -/
def readCauses : List (List Char) → List Char × List (List Char)
  | [] => ([], [])
  | line :: lines =>
    let (more, causes) := readCauses lines
    if 7 ≤ indentation line then ('\n' :: line.drop 7 ++ more, causes)
    else ([], ((line.dropWhile (· ≠ ':')).drop 2 ++ more) :: causes)

/-- The messages in a report: that of the error behind the word for it, and below a
heading those of what caused it. -/
def reported (err : String) : List String :=
  match linesOf err.toList with
  | [] => []
  | [first] => [String.ofList (first.drop 7)]
  | first :: _ :: lines =>
    String.ofList (first.drop 7) :: ((readCauses (lines.drop 1)).2).map String.ofList

/-! ## Messages of several lines -/

theorem indentation_append {line : List Char} (spaces : Nat) :
    indentation (List.replicate spaces ' ' ++ line) = spaces + indentation line := by
  unfold indentation
  have hspaces : ∀ c ∈ List.replicate spaces ' ', decide (c = ' ') = true := by
    intro c hc
    simpa using List.eq_of_mem_replicate hc
  rw [List.takeWhile_append_of_pos hspaces, List.length_append, List.length_replicate]

theorem indentation_cons_of_ne {c : Char} (h : c ≠ ' ') (line : List Char) :
    indentation (c :: line) = 0 := by
  simp [indentation, h]

/-- A character of a message as it is written below a heading. -/
def indentedChar (c : Char) : List Char :=
  if c = '\n' then '\n' :: List.replicate 7 ' ' else [c]

theorem toList_indentFurther (text : String) :
    (indentFurther 7 text).toList = text.toList.flatMap indentedChar :=
  String.toList_ofList

/-- The first line of a message goes on with the line it stands on, and the others are
read as what goes on with that line. -/
theorem exists_lines_of_indented (cs : List Char) {rest : List Char} {causes : List (List Char)}
    (hrest : readCauses (linesOf rest) = ([], causes)) :
    ∃ first others more,
      (∀ start, '\n' ∉ start →
        linesOf (start ++ (cs.flatMap indentedChar ++ '\n' :: rest)) = (start ++ first) :: others) ∧
      readCauses others = (more, causes) ∧ first ++ more = cs := by
  induction cs with
  | nil =>
    refine ⟨[], linesOf rest, [], ?_, hrest, rfl⟩
    intro start hstart
    rw [List.append_nil]
    exact linesOf_append hstart rest
  | cons c cs ih =>
    obtain ⟨first, others, more, hlines, hothers, hcs⟩ := ih
    by_cases hc : c = '\n'
    · subst hc
      refine ⟨[], (List.replicate 7 ' ' ++ first) :: others, '\n' :: (first ++ more), ?_, ?_, ?_⟩
      · intro start hstart
        have hspaces := hlines (List.replicate 7 ' ') (by decide)
        rw [List.append_nil, ← hspaces, ← linesOf_append hstart]
        simp [indentedChar]
      · have hdeep : 7 ≤ indentation (List.replicate 7 ' ' ++ first) := by
          rw [indentation_append]
          omega
        rw [readCauses, hothers]
        simp only [hdeep, if_true]
        rw [List.drop_left' (List.length_replicate ..)]
        rfl
      · simp [hcs]
    · refine ⟨c :: first, others, more, ?_, hothers, by simp [hcs]⟩
      intro start hstart
      have hnext : '\n' ∉ start ++ [c] := by simp [hstart, Ne.symm hc]
      have hchar := hlines (start ++ [c]) hnext
      simpa [indentedChar, hc] using hchar

/-! ## Numbered messages -/

theorem notMem_toDigits {c : Char} (h : c.isDigit = false) (n : Nat) : c ∉ Nat.toDigits 10 n := by
  intro hc
  have hdigit : c.isDigit := Nat.isDigit_of_mem_toDigits (by decide) (by decide) hc
  rw [h] at hdigit
  cases hdigit

theorem toList_aligned (width n : Nat) :
    (aligned width n).toList =
      List.replicate (width - (Nat.toDigits 10 n).length) ' ' ++ Nat.toDigits 10 n := by
  simp [aligned, ← String.length_toList]

theorem notMem_aligned {c : Char} (h : c.isDigit = false) (hc : c ≠ ' ') (width n : Nat) :
    c ∉ (aligned width n).toList := by
  have hdigits := notMem_toDigits h n
  simp [toList_aligned, hdigits, hc]

/-- Before the number of a message there is less space than before its other lines. -/
theorem indentation_aligned_lt (n : Nat) (line : List Char) :
    indentation ((aligned 5 n).toList ++ line) < 7 := by
  have hspace := notMem_toDigits (c := ' ') (by decide) n
  rw [toList_aligned, List.append_assoc, indentation_append]
  cases hdigits : Nat.toDigits 10 n with
  | nil =>
    have hne : Nat.toDigits 10 n ≠ [] := Nat.toDigits_ne_nil
    contradiction
  | cons digit digits =>
    rw [hdigits, List.mem_cons, not_or] at hspace
    rw [List.cons_append, indentation_cons_of_ne (Ne.symm hspace.1), List.length_cons]
    omega

/-- The line of a message without its number. -/
theorem drop_dropWhile_numbered {number : List Char} (h : ':' ∉ number) (line : List Char) :
    ((number ++ ':' :: ' ' :: line).dropWhile (· ≠ ':')).drop 2 = line := by
  have hall : ∀ c ∈ number, decide (c ≠ ':') = true := by
    intro c hc
    simp only [decide_eq_true_eq]
    rintro rfl
    exact h hc
  rw [List.dropWhile_append_of_pos hall]
  simp

/-- One numbered message, whatever follows it. -/
theorem readCauses_numbered (n : Nat) (cause : String) {rest : List Char}
    {causes : List (List Char)} (hrest : readCauses (linesOf rest) = ([], causes)) :
    readCauses (linesOf ((aligned 5 n ++ ": " ++ indentFurther 7 cause).toList ++ '\n' :: rest)) =
      ([], cause.toList :: causes) := by
  obtain ⟨first, others, more, hlines, hothers, hcause⟩ :=
    exists_lines_of_indented cause.toList hrest
  have hcolon := notMem_aligned (c := ':') (by decide) (by decide) 5 n
  have hbreak := notMem_aligned (c := '\n') (by decide) (by decide) 5 n
  have hlabel : '\n' ∉ (aligned 5 n).toList ++ [':', ' '] := by simp [hbreak]
  have htext : (aligned 5 n ++ ": " ++ indentFurther 7 cause).toList ++ '\n' :: rest =
      (aligned 5 n).toList ++ [':', ' '] ++
        (cause.toList.flatMap indentedChar ++ '\n' :: rest) := by
    simp [toList_indentFurther]
  have hline : (aligned 5 n).toList ++ [':', ' '] ++ first =
      (aligned 5 n).toList ++ ':' :: ' ' :: first := by
    simp
  have hshallow := Nat.not_le.mpr (indentation_aligned_lt n (':' :: ' ' :: first))
  rw [htext, hlines _ hlabel, hline, readCauses, hothers]
  simp only [hshallow, if_false]
  rw [drop_dropWhile_numbered hcolon, hcause]

/-- The numbered messages of a list, from any number on. -/
theorem readCauses_mapIdx (causes : List String) (k : Nat) :
    readCauses (linesOf (unlines (causes.mapIdx fun n cause =>
      aligned 5 (n + k) ++ ": " ++ indentFurther 7 cause)).toList) =
        ([], causes.map String.toList) := by
  induction causes generalizing k with
  | nil => rfl
  | cons cause causes ih =>
    have hrest := ih (k + 1)
    have hnumber : ∀ n, n + (k + 1) = n + 1 + k := by omega
    simp only [hnumber] at hrest
    rw [List.mapIdx_cons, toList_unlines_cons, Nat.zero_add, readCauses_numbered k cause hrest]
    rfl

/-! ## The report -/

/-- An error with several causes is reported message by message: its own on the first
line, and below the heading each of the causes, in order and once. -/
theorem reported_errorReport {message : String} (h : '\n' ∉ message.toList) {causes : List String}
    (hcauses : 2 ≤ causes.length) : reported (errorReport message causes) = message :: causes := by
  have hwritten : errorReport message causes =
      unlines (("Error: " ++ message) :: "" :: "Caused by:" ::
        causes.mapIdx fun n cause => aligned 5 (n + 0) ++ ": " ++ indentFurther 7 cause) := by
    cases causes with
    | nil => simp at hcauses
    | cons first others =>
      cases others with
      | nil => simp at hcauses
      | cons second others => rfl
  have hfirst : '\n' ∉ ("Error: " ++ message).toList := by simp [h]
  have hempty : '\n' ∉ "".toList := by decide
  have hheading : '\n' ∉ "Caused by:".toList := by decide
  have hmessage : String.ofList (("Error: " ++ message).toList.drop 7) = message := by
    apply String.toList_inj.mp
    simp
  unfold reported
  rw [hwritten, toList_unlines_cons, linesOf_append hfirst, toList_unlines_cons,
    linesOf_append hempty, toList_unlines_cons, linesOf_append hheading]
  simp only [List.drop_succ_cons, List.drop_zero, readCauses_mapIdx, hmessage]
  simp

end Verdict.CommandLine
