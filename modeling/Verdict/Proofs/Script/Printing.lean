-- The lines that `check` prints. Texts are shown as they are, so a line break in
-- one of them ends a line. Main statement: each item of a report is on a line of
-- its own exactly if no text that is shown has a line break, and each line break
-- that is shown adds one line.
import Verdict.Proofs.Script.Checking

namespace Verdict

namespace CommandLine

/-! ## Lines of a printed text -/

/-- The lines of a text, without the line breaks that end them. -/
def linesOf : List Char → List (List Char)
  | [] => []
  | c :: cs =>
    if c = '\n' then [] :: linesOf cs
    else
      match linesOf cs with
      | [] => [[c]]
      | line :: lines => (c :: line) :: lines

def printedLines (out : String) : List String := (linesOf out.toList).map String.ofList

def lineBreaks (text : String) : Nat := text.toList.count '\n'

/-- The line breaks in some texts together. -/
def totalBreaks : List String → Nat
  | [] => 0
  | text :: texts => lineBreaks text + totalBreaks texts

theorem lineBreaks_append (text other : String) :
    lineBreaks (text ++ other) = lineBreaks text + lineBreaks other := by
  simp [lineBreaks]

theorem totalBreaks_cons (text : String) (texts : List String) :
    totalBreaks (text :: texts) = lineBreaks text + totalBreaks texts := rfl

theorem totalBreaks_append (texts others : List String) :
    totalBreaks (texts ++ others) = totalBreaks texts + totalBreaks others := by
  induction texts with
  | nil => exact (Nat.zero_add _).symm
  | cons text texts ih =>
    rw [List.cons_append, totalBreaks_cons, totalBreaks_cons, ih, Nat.add_assoc]

theorem linesOf_append {cs : List Char} (h : '\n' ∉ cs) (rest : List Char) :
    linesOf (cs ++ '\n' :: rest) = cs :: linesOf rest := by
  induction cs with
  | nil => rfl
  | cons c cs ih =>
    rw [List.mem_cons, not_or] at h
    rw [List.cons_append, linesOf, if_neg (Ne.symm h.1), ih h.2]

/-- Up to the line break that ends it, a text goes over one line more than it has
line breaks. -/
theorem length_linesOf_append (cs rest : List Char) :
    (linesOf (cs ++ '\n' :: rest)).length = cs.count '\n' + 1 + (linesOf rest).length := by
  induction cs with
  | nil => simp [linesOf, Nat.add_comm]
  | cons c cs ih =>
    rw [List.cons_append, linesOf, List.count_cons]
    by_cases hc : c = '\n'
    · rw [if_pos hc, List.length_cons, ih, if_pos (by simpa using hc)]
      omega
    · rw [if_neg hc, if_neg (by simpa using hc)]
      cases hlines : linesOf (cs ++ '\n' :: rest) with
      | nil =>
        rw [hlines, List.length_nil] at ih
        omega
      | cons line lines =>
        rw [hlines] at ih
        exact ih

theorem toList_unlines_cons (item : String) (items : List String) :
    (unlines (item :: items)).toList = item.toList ++ '\n' :: (unlines items).toList := by
  simp [unlines]

theorem length_printedLines_unlines (items : List String) :
    (printedLines (unlines items)).length = items.length + totalBreaks items := by
  unfold printedLines
  induction items with
  | nil => rfl
  | cons item items ih =>
    rw [List.length_map] at ih ⊢
    rw [toList_unlines_cons, length_linesOf_append, ih, List.length_cons, totalBreaks_cons,
      lineBreaks]
    omega

theorem printedLines_unlines {items : List String} (h : ∀ item ∈ items, '\n' ∉ item.toList) :
    printedLines (unlines items) = items := by
  unfold printedLines
  induction items with
  | nil => rfl
  | cons item items ih =>
    rw [List.forall_mem_cons] at h
    rw [toList_unlines_cons, linesOf_append h.1, List.map_cons, String.ofList_toList, ih h.2]

theorem totalBreaks_eq_zero_iff {texts : List String} :
    totalBreaks texts = 0 ↔ ∀ text ∈ texts, '\n' ∉ text.toList := by
  induction texts with
  | nil => simp [totalBreaks]
  | cons text texts ih =>
    rw [totalBreaks_cons, Nat.add_eq_zero_iff, ih, List.forall_mem_cons, lineBreaks,
      List.count_eq_zero]

/-- Items that are printed are read back as lines exactly if none has a line
break. -/
theorem printedLines_unlines_iff {items : List String} :
    printedLines (unlines items) = items ↔ totalBreaks items = 0 := by
  constructor
  · intro h
    have hlength := length_printedLines_unlines items
    rw [h] at hlength
    omega
  · intro h
    exact printedLines_unlines (totalBreaks_eq_zero_iff.mp h)

/-- What a check prints of a script that loads. -/
theorem out_run_check {read : Reader} {path : String} {script : Script}
    (hload : Script.load read path = .ok script) {arguments : List String} {quiet : Bool}
    (hparse : parse arguments = .ok (.check path quiet)) :
    (run read arguments).out =
      unlines (Check.printed quiet script path (script.assertions.map Check.assertionLines)) := by
  rw [run, hparse]
  simp only [Command.run, runCheck, hload, Check.report_eq_printed]

end CommandLine

namespace Check

open CommandLine (lineBreaks totalBreaks lineBreaks_append totalBreaks_append totalBreaks_cons)

/-! ## Items of a report -/

/-- The probe of an assertion, if it is shown. -/
def shownProbe (quiet : Bool) (a : Script.Assertion) : Option String :=
  if quiet then none else a.probe

/-- An empty line, the header and one item for each assertion, one more if it is
invalid and one more if its probe is shown. -/
def itemCount (quiet : Bool) (script : Script) : Nat :=
  if script.assertions = [] then 3
  else
    2 + script.assertions.length +
      script.assertions.countP (fun a => a.test.isSome = a.xpath.isSome) +
      script.assertions.countP fun a => (shownProbe quiet a).isSome

theorem probe_eq_none_of_error {a : Script.Assertion} {e : ConfigError} (h : a.spec = .error e) :
    a.probe = none := by
  rw [Script.Assertion.probe, h]

theorem spec_eq_error_iff {a : Script.Assertion} :
    (∃ e, a.spec = .error e) ↔ a.test.isSome = a.xpath.isSome := by
  rw [← not_iff_not, ← ne_eq a.test.isSome, ← a.spec_eq_ok_iff]
  cases a.spec <;> simp

theorem length_shownBlock (quiet : Bool) (a : Script.Assertion) :
    (shownBlock quiet (assertionLines a)).length =
      1 + (if a.test.isSome = a.xpath.isSome then 1 else 0) +
        if (shownProbe quiet a).isSome then 1 else 0 := by
  cases hspec : a.spec with
  | ok spec =>
    rw [assertionLines, hspec, if_neg (a.spec_eq_ok_iff.mp ⟨spec, hspec⟩), shownProbe]
    cases quiet <;> cases a.probe <;> rfl
  | error e =>
    rw [assertionLines, hspec, if_pos (spec_eq_error_iff.mp ⟨e, hspec⟩), shownProbe,
      probe_eq_none_of_error hspec]
    cases quiet <;> rfl

theorem length_shownBlocks (quiet : Bool) (assertions : List Script.Assertion) :
    ((assertions.map assertionLines).flatMap (shownBlock quiet)).length =
      assertions.length + assertions.countP (fun a => a.test.isSome = a.xpath.isSome) +
        assertions.countP fun a => (shownProbe quiet a).isSome := by
  induction assertions with
  | nil => rfl
  | cons a assertions ih =>
    rw [List.map_cons, List.flatMap_cons, List.length_append, length_shownBlock, ih,
      List.countP_cons, List.countP_cons, List.length_cons]
    simp only [decide_eq_true_eq]
    omega

theorem length_printed (quiet : Bool) (script : Script) (location : String) :
    (printed quiet script location (script.assertions.map assertionLines)).length =
      itemCount quiet script := by
  unfold printed itemCount
  rw [List.length_map, List.length_cons, List.length_cons]
  split
  · rfl
  · rw [length_shownBlocks]
    omega

/-! ## Texts of a report -/

/-- The texts about an assertion, each as much as is shown of it. -/
def assertionTexts (quiet : Bool) (a : Script.Assertion) : List String :=
  Display.truncate 100 a.description :: (shownProbe quiet a).toList.map (Display.truncate 100)

/-- The texts that a report shows. -/
def shownTexts (quiet : Bool) (script : Script) (location : String) : List String :=
  script.name :: location :: script.assertions.flatMap (assertionTexts quiet)

theorem lineBreaks_header (name location : String) :
    lineBreaks (name ++ " (" ++ location ++ ")") = lineBreaks name + lineBreaks location := by
  rw [lineBreaks_append, lineBreaks_append, lineBreaks_append]
  rfl

theorem lineBreaks_append_cut {lead : String} (h : lineBreaks lead = 0) (text : String) :
    lineBreaks (lead ++ cut text) = lineBreaks (Display.truncate 100 text) := by
  rw [lineBreaks_append, h, Nat.zero_add, truncate_eq_cut]

/-- No reason has a line break. -/
theorem lineBreaks_reason (e : ConfigError) : lineBreaks (reading (.reason e.message)) = 0 := by
  cases e with
  | missing => decide +kernel
  | conflicting => decide +kernel

theorem totalBreaks_probe (probe : Option String) :
    totalBreaks ((probe.toList.map Line.probe).map reading) =
      totalBreaks (probe.toList.map (Display.truncate 100)) := by
  cases probe with
  | none => rfl
  | some probe => exact congrArg (· + 0) (lineBreaks_append_cut rfl probe)

/-- What is shown about an assertion has the line breaks of its texts. -/
theorem totalBreaks_shownBlock (quiet : Bool) (a : Script.Assertion) :
    totalBreaks ((shownBlock quiet (assertionLines a)).map reading) =
      totalBreaks (assertionTexts quiet a) := by
  cases hspec : a.spec with
  | ok spec =>
    have hblock : shownBlock quiet (assertionLines a) =
        .valid a.description :: (shownProbe quiet a).toList.map .probe := by
      rw [assertionLines, hspec, shownProbe]
      cases quiet <;> cases a.probe <;> rfl
    rw [hblock, List.map_cons, totalBreaks_cons, totalBreaks_probe, reading,
      lineBreaks_append_cut rfl, assertionTexts, totalBreaks_cons]
  | error e =>
    have hblock : shownBlock quiet (assertionLines a) =
        [.invalid a.description, .reason e.message] := by
      rw [assertionLines, hspec]
      cases quiet <;> rfl
    have hnone : shownProbe quiet a = none := by
      rw [shownProbe, probe_eq_none_of_error hspec]
      cases quiet <;> rfl
    rw [hblock, assertionTexts, hnone, List.map_cons, List.map_cons, totalBreaks_cons,
      totalBreaks_cons, totalBreaks_cons, lineBreaks_reason, reading, lineBreaks_append_cut rfl]
    rfl

theorem totalBreaks_shownBlocks (quiet : Bool) (assertions : List Script.Assertion) :
    totalBreaks (((assertions.map assertionLines).flatMap (shownBlock quiet)).map reading) =
      totalBreaks (assertions.flatMap (assertionTexts quiet)) := by
  induction assertions with
  | nil => rfl
  | cons a assertions ih =>
    rw [List.map_cons, List.flatMap_cons, List.map_append, totalBreaks_append,
      totalBreaks_shownBlock, ih, List.flatMap_cons, totalBreaks_append]

theorem totalBreaks_printed (quiet : Bool) (script : Script) (location : String) :
    totalBreaks (printed quiet script location (script.assertions.map assertionLines)) =
      totalBreaks (shownTexts quiet script location) := by
  have hbody : totalBreaks ((if script.assertions = [] then [.nothing]
      else (script.assertions.map assertionLines).flatMap (shownBlock quiet)).map reading) =
        totalBreaks (script.assertions.flatMap (assertionTexts quiet)) := by
    split
    · rename_i hnil
      rw [hnil]
      rfl
    · exact totalBreaks_shownBlocks quiet script.assertions
  have hblank : lineBreaks (reading .blank) = 0 := rfl
  rw [printed, shownTexts, List.map_cons, List.map_cons, totalBreaks_cons, totalBreaks_cons, hblank,
    reading, lineBreaks_header, hbody, totalBreaks_cons, totalBreaks_cons]
  omega

end Check

open CommandLine (printedLines lineBreaks totalBreaks)

/-- Whatever the texts of a script are, a check prints as many lines as its
report has items and the shown parts of the texts have line breaks. So each item
is on one line, and no line is anything but one item, exactly if no text that is
shown has a line break. -/
theorem each_line_break_that_is_shown_adds_a_line {read : Reader} {path : String}
    {script : Script} (hload : Script.load read path = .ok script) {arguments : List String}
    {quiet : Bool} (hparse : CommandLine.parse arguments = .ok (.check path quiet)) :
    ∃ blocks : List (List Check.Line), List.Forall₂ Check.Block script.assertions blocks ∧
      let items := Check.printed quiet script path blocks
      let lines := printedLines (CommandLine.run read arguments).out
      items.length = Check.itemCount quiet script ∧
      lines.length = items.length + totalBreaks (Check.shownTexts quiet script path) ∧
      (lines = items ↔ ∀ text ∈ Check.shownTexts quiet script path, '\n' ∉ text.toList) := by
  refine ⟨script.assertions.map Check.assertionLines, ?_, Check.length_printed .., ?_, ?_⟩
  · exact Check.forall₂_block_iff.mpr rfl
  · rw [CommandLine.out_run_check hload hparse, CommandLine.length_printedLines_unlines,
      Check.totalBreaks_printed]
  · rw [CommandLine.out_run_check hload hparse, CommandLine.printedLines_unlines_iff,
      Check.totalBreaks_printed, CommandLine.totalBreaks_eq_zero_iff]

/-- A query with a line break before its `=`, which its probe keeps, and an
assertion without a text: eight lines for six items. -/
theorem a_line_break_before_a_comparison_is_shown_twice :
    let read : Reader := fun _ => .ok "name: n\nassertions:\n- xpath: \"a\\n= 'x'\"\n- \x7b\x7d\n"
    let script : Script := ⟨"n", [{ xpath := some "a\n= 'x'" }, {}]⟩
    Script.load read "s" = .ok script ∧
    CommandLine.parse ["check", "s"] = .ok (.check "s" false) ∧
    Check.itemCount false script = 6 ∧
    (printedLines (CommandLine.run read ["check", "s"]).out).length = 8 := by
  intro read script
  have hload : Script.load read "s" = .ok script := by decide +kernel
  have hparse : CommandLine.parse ["check", "s"] = .ok (.check "s" false) := by decide +kernel
  have hbreaks : totalBreaks (Check.shownTexts false script "s") = 2 := by decide +kernel
  obtain ⟨blocks, -, hcount, hlines, -⟩ := each_line_break_that_is_shown_adds_a_line hload hparse
  refine ⟨hload, hparse, by decide +kernel, ?_⟩
  rw [hlines, hcount, hbreaks]
  decide +kernel

/-- A text with a line break adds a line that says what the line of another
assertion says. -/
theorem a_line_break_forges_a_status_line :
    let read : Reader := fun _ => .ok "name: n\nassertions:\n- test: \"a\\n  ✓ test: b\"\n"
    let script : Script := ⟨"n", [{ test := some "a\n  ✓ test: b" }]⟩
    let other : Script.Assertion := { test := some "b" }
    Script.load read "s.yaml" = .ok script ∧
    printedLines (CommandLine.run read ["check", "s.yaml"]).out =
      ["", "n (s.yaml)", "  ✓ test: a", ({} : Display).status true other.description] ∧
    Check.itemCount false script = 3 := by
  decide +kernel

end Verdict
