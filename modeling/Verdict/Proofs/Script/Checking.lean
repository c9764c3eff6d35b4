-- What `check` says about a script that loads. Main statement: it finds fault
-- with the assertions that every run finds misconfigured, for the same reasons,
-- and with no others; and `--quiet` leaves out the lines of the probes alone.
import Verdict.Proofs.Display.Truncation
import Verdict.Proofs.Evaluation.Reuse
import Verdict.Proofs.Script.Preview

namespace Verdict

namespace Check

/-! ## The lines about one assertion -/

/-- The lines about an assertion, rule by rule. -/
inductive Block (a : Script.Assertion) : List Line → Prop
  | test {text : String} : a.Asks .test text →
      Block a (.valid ("test: " ++ text) :: a.probe.toList.map .probe)
  | xpath {text : String} : a.Asks .xpath text →
      Block a (.valid ("xpath: " ++ text) :: a.probe.toList.map .probe)
  | missing : (∀ mode, a.given mode = none) →
      Block a [.invalid "invalid assertion",
        .reason "missing test expression: set either 'test' or 'xpath'"]
  | conflicting : (∀ mode, a.given mode ≠ none) →
      Block a [.invalid "invalid assertion",
        .reason "conflicting test expressions: 'test' and 'xpath' are mutually exclusive"]

end Check

namespace Script.Assertion

/-- No assertion with an expression is described as an invalid one. -/
theorem description_eq_invalid_iff {a : Script.Assertion} :
    a.description = "invalid assertion" ↔ ∃ e, a.spec = .error e := by
  unfold description
  cases a.spec with
  | error e => simp
  | ok spec =>
    have hfirst : ∀ (mode : Mode) (text : String),
        mode.name ++ ": " ++ text ≠ "invalid assertion" := by
      intro mode text h
      have hhead := congrArg (fun s => s.toList.head?) h
      cases mode <;> simp [Mode.name] at hhead
    cases spec with
    | test text => simp [hfirst .test text]
    | xpath text => simp [hfirst .xpath text]

end Script.Assertion

namespace Check

/-- No two rules apply to one assertion. -/
theorem Block.eq_assertionLines {a : Script.Assertion} {block : List Line} (h : Block a block) :
    block = assertionLines a := by
  unfold assertionLines Script.Assertion.description
  cases h with
  | test hasks =>
    rw [Script.Assertion.spec_of_asks_test hasks]
    rfl
  | xpath hasks =>
    rw [Script.Assertion.spec_of_asks_xpath hasks]
    rfl
  | missing hnone =>
    rw [Script.Assertion.spec_of_missing hnone]
    rfl
  | conflicting hall =>
    rw [Script.Assertion.spec_of_conflicting hall]
    rfl

/-- Some rule applies to every assertion. -/
theorem exists_block (a : Script.Assertion) : ∃ block, Block a block := by
  rcases a.given_cases with hnone | hall | ⟨mode, text, hasks⟩
  · exact ⟨_, .missing hnone⟩
  · exact ⟨_, .conflicting hall⟩
  · cases mode with
    | test => exact ⟨_, .test hasks⟩
    | xpath => exact ⟨_, .xpath hasks⟩

theorem block_iff {a : Script.Assertion} {block : List Line} :
    Block a block ↔ block = assertionLines a := by
  constructor
  · exact Block.eq_assertionLines
  · rintro rfl
    obtain ⟨block, h⟩ := exists_block a
    rwa [h.eq_assertionLines] at h

theorem forall₂_block_iff {assertions : List Script.Assertion} {blocks : List (List Line)} :
    List.Forall₂ Block assertions blocks ↔ blocks = assertions.map assertionLines := by
  constructor
  · intro h
    induction h with
    | nil => rfl
    | cons hblock _ ih => rw [List.map_cons, ih, hblock.eq_assertionLines]
  · rintro rfl
    rw [List.forall₂_map_right_iff, List.forall₂_same]
    exact fun a _ => block_iff.mpr rfl

/-- The fault that is found with an assertion, if one is. -/
theorem block_invalid_iff {a : Script.Assertion} {reason : String} :
    Block a [.invalid "invalid assertion", .reason reason] ↔
      ∃ e, a.spec = .error e ∧ reason = e.message := by
  constructor
  · intro h
    cases h with
    | missing hnone => exact ⟨.missing, Script.Assertion.spec_of_missing hnone, rfl⟩
    | conflicting hall => exact ⟨.conflicting, Script.Assertion.spec_of_conflicting hall, rfl⟩
  · rintro ⟨e, hspec, rfl⟩
    rw [block_iff, assertionLines, hspec]
    simp only
    rw [Script.Assertion.description_eq_invalid_iff.mpr ⟨e, hspec⟩]

theorem passes_iff {script : Script} :
    passes script = true ↔ ∀ a ∈ script.assertions, a.test.isSome ≠ a.xpath.isSome := by
  unfold passes
  rw [List.all_eq_true]
  refine forall₂_congr fun a _ => ?_
  rw [← Script.Assertion.spec_eq_ok_iff]
  cases a.spec <;> simp

end Check

/-! ## Agreement with runs -/

/-- Whatever the host and its effects are, the result of a run for the assertion
of this number. -/
def Script.AlwaysGives (script : Script) (n : Nat) (result : String × Outcome) : Prop :=
  (∀ (C E Q V N : Type) (language : Language Id C E Q V N) (sink : Sink) (context : C),
    (language.run sink context script).results[n]? = some result) ∧
  (∀ (σ C E Q V N : Type) (language : Language (StateM σ) C E Q V N) (sink : Sink) (context : C)
    (s : σ), ((language.runScript sink context script).run s).1.results[n]? = some result)

namespace Language

/-- An assertion is run in the state that those before it leave. -/
theorem getElem?_results_runAll {m : Type → Type} [Monad m] {σ C E Q V N : Type}
    (runner : Runner m σ) (language : Language m C E Q V N) (sink : Sink) (context : C)
    {assertions : List Script.Assertion} {n : Nat} {a : Script.Assertion}
    (h : assertions[n]? = some a) (s : σ) :
    (runner.run (language.runAll sink context assertions) s).1.results[n]? =
      some (a.description, (runner.run (language.runAssertion sink context a)
        (runner.run (language.runAll sink context (assertions.take n)) s).2).1.1) := by
  induction assertions generalizing n s with
  | nil => cases h
  | cons first others ih =>
    simp only [runAll, runner.run_bind, runner.run_pure]
    cases n with
    | zero =>
      cases h
      simp only [List.take_zero, runAll, runner.run_pure]
      rfl
    | succ n =>
      simp only [List.take_succ_cons, runAll, runner.run_bind, runner.run_pure]
      exact ih h _

/-- A host is not asked about an assertion that is misconfigured. -/
theorem getElem?_results_of_error {m : Type → Type} [Monad m] {σ C E Q V N : Type}
    (runner : Runner m σ) (language : Language m C E Q V N) (sink : Sink) (context : C)
    {script : Script} {n : Nat} {a : Script.Assertion} (h : script.assertions[n]? = some a)
    {e : ConfigError} (hspec : a.spec = .error e) (s : σ) :
    (runner.run (language.runScript sink context script) s).1.results[n]? =
      some ("invalid assertion", .error e.message) := by
  have hresult := language.getElem?_results_runAll runner sink context h s
  rw [Script.Assertion.description_eq_invalid_iff.mpr ⟨e, hspec⟩, runAssertion, hspec,
    runner.run_pure] at hresult
  simp only [runScript, runner.run_bind, runner.run_pure]
  exact hresult

end Language

/-- A check finds fault with an assertion exactly if every run does, and for the
same reason. -/
theorem Check.block_invalid_iff_alwaysGives {script : Script} {n : Nat} {a : Script.Assertion}
    (h : script.assertions[n]? = some a) {reason : String} :
    Block a [.invalid "invalid assertion", .reason reason] ↔
      script.AlwaysGives n ("invalid assertion", .error reason) := by
  rw [block_invalid_iff]
  constructor
  · rintro ⟨e, hspec, rfl⟩
    constructor
    · intro C E Q V N language sink context
      exact language.getElem?_results_of_error .ofId sink context h hspec ()
    · intro σ C E Q V N language sink context s
      exact language.getElem?_results_of_error (.ofState σ) sink context h hspec s
  · rintro ⟨hpure, _⟩
    have hgives := hpure _ _ _ _ _ (PathQuery.language [] [] []) .discard []
    have hresult := (PathQuery.language [] [] []).getElem?_results_runAll .ofId .discard [] h ()
    have heq := Option.some.inj (hresult.symm.trans hgives)
    obtain ⟨e, hspec⟩ :=
      Script.Assertion.description_eq_invalid_iff.mp (congrArg Prod.fst heq)
    refine ⟨e, hspec, ?_⟩
    have hruns := (PathQuery.language [] [] []).getElem?_results_of_error .ofId .discard [] h
      hspec ()
    cases Option.some.inj (hruns.symm.trans hgives)
    rfl

/-! ## The command -/

namespace CommandLine

theorem takeOperand_check {path : String} (h : path ≠ "") :
    takeOperand .check none path = .ok path := by
  simp [takeOperand, h]

/-- A path behind a `--` is taken as it is. -/
theorem parse_check_separated {path : String} (h : path ≠ "") :
    parse ["check", "--", path] = .ok (.check path false) := by
  have hname : Word.ofArgument .top "check" = .operand "check" := by rfl
  have hdashes : Word.ofArgument .check "--" = .separator := by rfl
  have hne : "check" ≠ "strip" := by decide
  simp only [parse, parseTop, hname, parseCommand, hdashes, takeOperand_check h, Except.map,
    if_true, if_neg hne]
  rfl

theorem parse_check_quiet_separated {flag path : String} (hflag : flag = "-q" ∨ flag = "--quiet")
    (h : path ≠ "") : parse ["check", flag, "--", path] = .ok (.check path true) := by
  have hname : Word.ofArgument .top "check" = .operand "check" := by rfl
  have hquiet : Word.ofArgument .check flag = .flags [some .quiet] := by
    rcases hflag with rfl | rfl <;> rfl
  have hdashes : Word.ofArgument .check "--" = .separator := by rfl
  have hne : "check" ≠ "strip" := by decide
  simp only [parse, parseTop, hname, parseCommand, hquiet, hdashes, takeOperand_check h, Except.map,
    if_true, if_neg hne]
  rfl

end CommandLine

namespace Check

/-- At most a hundred characters of a text; the last three of them are dots if it
has more. -/
def cut (text : String) : String :=
  if text.length ≤ 100 then text else String.ofList (text.toList.take 97) ++ "..."

/-- How a line reads. -/
def reading : Line → String
  | .blank => ""
  | .header name location => name ++ " (" ++ location ++ ")"
  | .nothing => "  (no assertions)"
  | .valid description => "  ✓ " ++ cut description
  | .probe text => "      probe: " ++ cut text
  | .invalid description => "  ✗ " ++ cut description
  | .reason text => "      " ++ text

/-- What is shown of the lines about an assertion. -/
def shownBlock (quiet : Bool) (block : List Line) : List Line :=
  if quiet then
    block.filter fun
      | .probe _ => false
      | _ => true
  else block

/-- The lines on standard output, from those about each assertion. -/
def printed (quiet : Bool) (script : Script) (location : String) (blocks : List (List Line)) :
    List String :=
  (.blank :: .header script.name location ::
    if script.assertions = [] then [.nothing] else blocks.flatMap (shownBlock quiet)).map reading

theorem truncate_eq_cut (text : String) : Display.truncate 100 text = cut text := by
  unfold cut
  split
  · next h => exact Display.truncate_of_length_le h
  · next h =>
    rw [← String.length_toList] at h
    rw [Display.truncate, Display.truncateChars_of_lt (Nat.lt_of_not_le h)]
    exact String.ofList_append

/-- The lines are plain, whether the check is to be quiet or not. -/
theorem text_eq_reading (quiet : Bool) (line : Line) :
    line.text (if quiet then .quiet else {}) = reading line := by
  have hplain : line.text (if quiet then .quiet else {}) = line.text {} := by
    cases quiet <;> cases line <;> rfl
  rw [hplain]
  cases line with
  | valid description => exact congrArg ("  ✓ " ++ ·) (truncate_eq_cut description)
  | invalid description => exact congrArg ("  ✗ " ++ ·) (truncate_eq_cut description)
  | probe text => exact congrArg ("      probe: " ++ ·) (truncate_eq_cut text)
  | _ => rfl

theorem shown_eq_shownBlock (quiet : Bool) (ls : List Line) :
    shown (if quiet then .quiet else {}) ls = shownBlock quiet ls := by
  cases quiet with
  | false => exact shown_of_showProbes rfl ls
  | true =>
    refine (shown_of_not_showProbes rfl ls).trans (List.filter_congr fun line _ => ?_)
    cases line <;> rfl

theorem shownBlock_append (quiet : Bool) (ls ls' : List Line) :
    shownBlock quiet (ls ++ ls') = shownBlock quiet ls ++ shownBlock quiet ls' := by
  cases quiet with
  | false => rfl
  | true => exact List.filter_append ..

theorem shownBlock_flatten (quiet : Bool) (blocks : List (List Line)) :
    shownBlock quiet blocks.flatten = blocks.flatMap (shownBlock quiet) := by
  induction blocks with
  | nil => cases quiet <;> rfl
  | cons block blocks ih => rw [List.flatten_cons, shownBlock_append, ih, List.flatMap_cons]

theorem shownBlock_lines (quiet : Bool) (script : Script) (location : String) :
    shownBlock quiet (lines script location) =
      .blank :: .header script.name location ::
        if script.assertions = [] then [.nothing]
        else (script.assertions.map assertionLines).flatMap (shownBlock quiet) := by
  have hheader : shownBlock quiet [.blank, .header script.name location] =
      [.blank, .header script.name location] := by
    cases quiet <;> rfl
  unfold lines
  rw [shownBlock_append, hheader]
  cases script.assertions with
  | nil => cases quiet <;> rfl
  | cons a as =>
    rw [if_neg (by simp), if_neg (by simp), ← shownBlock_flatten, ← List.flatMap_def]
    rfl

theorem report_eq_printed (quiet : Bool) (script : Script) (location : String) :
    report (if quiet then .quiet else {}) script location =
      printed quiet script location (script.assertions.map assertionLines) := by
  rw [report, shown_eq_shownBlock, printed, ← shownBlock_lines]
  exact List.map_congr_left fun line _ => text_eq_reading quiet line

end Check

/-- For a script that loads, a check ends with code 0 exactly if each assertion
has one of the two texts and no other, and with code 1 otherwise, and says
nothing on standard error. It prints an empty line, a header and the lines about
each assertion, of which those of the probes are left out if it is to be quiet.
It finds fault with an assertion exactly if every run does, whatever the host is,
and for the same reason. -/
theorem a_check_finds_fault_as_every_run_does {read : Reader} {path : String} {script : Script}
    (hload : Script.load read path = .ok script) :
    (∃ blocks : List (List Check.Line), List.Forall₂ Check.Block script.assertions blocks) ∧
    (∀ blocks : List (List Check.Line), List.Forall₂ Check.Block script.assertions blocks →
      ∀ (arguments : List String) (quiet : Bool),
        CommandLine.parse arguments = .ok (.check path quiet) →
        CommandLine.run read arguments =
          ⟨if ∀ a ∈ script.assertions, a.test.isSome ≠ a.xpath.isSome then 0 else 1,
            String.join ((Check.printed quiet script path blocks).map (· ++ "\n")), ""⟩) ∧
    (∀ (n : Nat) (a : Script.Assertion) (reason : String), script.assertions[n]? = some a →
      (Check.Block a [.invalid "invalid assertion", .reason reason] ↔
        script.AlwaysGives n ("invalid assertion", .error reason))) ∧
    (path ≠ "" → CommandLine.parse ["check", "--", path] = .ok (.check path false) ∧
      ∀ flag, flag = "-q" ∨ flag = "--quiet" →
        CommandLine.parse ["check", flag, "--", path] = .ok (.check path true)) := by
  refine ⟨⟨_, Check.forall₂_block_iff.mpr rfl⟩, ?_, ?_, ?_⟩
  · intro blocks hblocks arguments quiet hparse
    rw [CommandLine.run, hparse, Check.forall₂_block_iff.mp hblocks]
    simp only [CommandLine.Command.run, CommandLine.runCheck, CommandLine.unlines, hload,
      Check.report_eq_printed, Check.passes_iff]
  · intro n a reason h
    exact Check.block_invalid_iff_alwaysGives h
  · intro hpath
    refine ⟨CommandLine.parse_check_separated hpath, fun flag hflag => ?_⟩
    exact CommandLine.parse_check_quiet_separated hflag hpath

/-- Of a query and an assertion without a text, every run refuses the second, and a
check shows the first with its probe, unless it is to be quiet. -/
theorem an_assertion_without_a_text_is_refused :
    let read : Reader := fun _ => .ok "name: n\nassertions:\n- xpath: a = 'x'\n- \x7b\x7d\n"
    let script : Script := ⟨"n", [{ xpath := some "a = 'x'" }, {}]⟩
    Script.load read "s" = .ok script ∧
    script.AlwaysGives 1 ("invalid assertion",
      .error "missing test expression: set either 'test' or 'xpath'") ∧
    CommandLine.run read ["check", "--", "s"] =
      ⟨1, "\nn (s)\n  ✓ xpath: a = 'x'\n      probe: a \n  ✗ invalid assertion\n" ++
        "      missing test expression: set either 'test' or 'xpath'\n", ""⟩ ∧
    CommandLine.run read ["check", "-q", "--", "s"] =
      ⟨1, "\nn (s)\n  ✓ xpath: a = 'x'\n  ✗ invalid assertion\n" ++
        "      missing test expression: set either 'test' or 'xpath'\n", ""⟩ := by
  intro read script
  have hload : Script.load read "s" = .ok script := by decide +kernel
  obtain ⟨-, hrun, hagree, hparse⟩ := a_check_finds_fault_as_every_run_does hload
  obtain ⟨hloud, hquiet⟩ := hparse (by decide)
  have hasks : Script.Assertion.Asks { xpath := some "a = 'x'" } .xpath "a = 'x'" := by
    refine ⟨rfl, fun other hother => ?_⟩
    cases other with
    | test => rfl
    | xpath => contradiction
  have hmissing : Check.Block {} [.invalid "invalid assertion",
      .reason "missing test expression: set either 'test' or 'xpath'"] :=
    .missing fun mode => by cases mode <;> rfl
  have hblocks := List.Forall₂.cons (Check.Block.xpath hasks) (.cons hmissing .nil)
  refine ⟨hload, (hagree 1 {} _ rfl).mp hmissing, ?_, ?_⟩
  · rw [hrun _ hblocks _ false hloud]
    decide +kernel
  · rw [hrun _ hblocks _ true (hquiet "-q" (.inl rfl))]
    decide +kernel

end Verdict
