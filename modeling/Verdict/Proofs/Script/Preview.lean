-- The probe that a script announces before it is run. Main statement: a run
-- sends one line to its sink for each assertion that fails and has such a
-- probe, in order, and the line tells what became of that very probe. The
-- command that shows the probe of a query shows the same one.
import Verdict.CommandLine
import Verdict.PathQuery.Language
import Verdict.Proofs.PathQuery.Probing
import Verdict.Proofs.Script.Running

namespace Verdict

/-- A text that stands somewhere in another. -/
def Text.Contains (text part : String) : Prop := ∃ before after, text = before ++ part ++ after

/-! ## What a failure shows of its probe -/

namespace Failure

theorem contains_finding (f : Failure) : Text.Contains f.display f.finding := by
  unfold display detail
  simp only
  split
  · exact ⟨_, "", by rw [String.append_empty]⟩
  · refine ⟨Text.trim f.body ++ " (" ++ ("evaluating " ++ f.mode.name ++ ": " ++ f.expression), ")",
      ?_⟩
    simp only [String.append_assoc]

theorem contains_of_found {f : Failure} {probe value : String}
    (h : f.diagnostic = some (.found probe value)) :
    Text.Contains f.display (" => \"" ++ value ++ "\"") := by
  have hcontains := f.contains_finding
  simpa only [finding, h] using hcontains

theorem contains_of_unavailable {f : Failure} {probe : String}
    (h : f.diagnostic = some (.unavailable probe)) :
    Text.Contains f.display " (cannot evaluate as string)" := by
  have hcontains := f.contains_finding
  simp only [finding, h] at hcontains
  exact hcontains

theorem sinkLine?_of_none {f : Failure} (h : f.diagnostic = none) : f.sinkLine? = none := by
  rw [sinkLine?, h]
  rfl

theorem sinkLine?_of_found {f : Failure} {probe value : String}
    (h : f.diagnostic = some (.found probe value)) :
    f.sinkLine? = some ("**test:assert failed " ++ f.expression ++ " => \"" ++ value ++ "\"") := by
  rw [sinkLine?, h]
  rfl

theorem sinkLine?_of_unavailable {f : Failure} {probe : String}
    (h : f.diagnostic = some (.unavailable probe)) :
    f.sinkLine? = some ("**test:assert failed " ++ probe ++ " cannot evaluate as string") := by
  rw [sinkLine?, h]
  simp only [Option.map_some, String.append_assoc]
  rfl

end Failure

/-- The assertion was evaluated and is false. -/
def Outcome.isFail : Outcome → Bool
  | .fail _ => true
  | _ => false

/-! ## The announced probe -/

namespace Script.Assertion

theorem probe_of_asks_test {a : Script.Assertion} {text : String} (h : a.Asks .test text) :
    a.probe = none := by
  rw [probe, spec_of_asks_test h]

theorem probe_of_asks_xpath {a : Script.Assertion} {text : String} (h : a.Asks .xpath text) :
    a.probe = Probe.ofQuery? text := by
  rw [probe, spec_of_asks_xpath h]

theorem probe_eq_some_iff {a : Script.Assertion} {probe : String} :
    a.probe = some probe ↔
      a.test = none ∧ ∃ text, a.xpath = some text ∧ Probe.strip text = probe ∧ probe ≠ text := by
  unfold Assertion.probe spec Spec.ofParts
  cases a.test with
  | some test => cases a.xpath <;> simp
  | none =>
    cases a.xpath with
    | none => simp
    | some text =>
      simp only [true_and, Option.some.injEq, exists_eq_left']
      unfold Probe.ofQuery?
      split
      · next heq => simp [heq, eq_comm]
      · next hne =>
        simp only [Option.some.injEq]
        constructor
        · rintro rfl
          exact ⟨rfl, hne⟩
        · rintro ⟨rfl, _⟩
          rfl

end Script.Assertion

/-! ## The lines of a run -/

namespace Language

variable {C E Q V N : Type}

/-- What a line tells of an assertion that failed with the probe it announces:
the value of the probe, or that it has none. -/
inductive Tells (language : Language Id C E Q V N) (context : C) (a : Script.Assertion) :
    Outcome → String → Prop
  | found {text probe value reason : String} {query : Q} :
      a.xpath = some text → a.probe = some probe →
      (language.compileQuery text).run = .ok query →
      (language.probeValue query probe context).run = .ok value →
      Text.Contains reason (" => \"" ++ value ++ "\"") →
      Tells language context a (.fail reason)
        ("**test:assert failed " ++ text ++ " => \"" ++ value ++ "\"")
  | unavailable {text probe reason : String} {query : Q} {e : EvalError} :
      a.xpath = some text → a.probe = some probe →
      (language.compileQuery text).run = .ok query →
      (language.probeValue query probe context).run = .error e →
      Text.Contains reason " (cannot evaluate as string)" →
      Tells language context a (.fail reason)
        ("**test:assert failed " ++ probe ++ " cannot evaluate as string")

/-- The texts of compiled queries are those that they were compiled from. -/
def KeepsTexts (language : Language Id C E Q V N) : Prop :=
  ∀ text query, (language.compileQuery text).run = .ok query → language.text query = text

/-- The assertion failed, and announces a probe. -/
def announced (judged : Script.Assertion × Outcome) : Bool :=
  judged.2.isFail && judged.1.probe.isSome

/-- The line of a failed query is about the probe that its assertion announces. -/
theorem tells_of_failure {language : Language Id C E Q V N} {context : C} {a : Script.Assertion}
    {text : String} (hasks : a.Asks .xpath text) {query : Q}
    (hquery : (language.compileQuery text).run = .ok query) {f : Failure}
    (hexpression : f.expression = text)
    (hdiagnostic : f.diagnostic = (Probe.ofQuery? text).map fun probe =>
      Diagnostic.ofValue probe (language.probeValue query probe context).run) :
    List.Forall₂ (fun judged line => language.Tells context judged.1 judged.2 line)
      ([(a, .fail f.display)].filter announced) f.sinkLine?.toList := by
  have hprobe := Script.Assertion.probe_of_asks_xpath hasks
  cases hq : Probe.ofQuery? text with
  | none =>
    rw [hq] at hprobe hdiagnostic
    rw [Failure.sinkLine?_of_none hdiagnostic,
      List.filter_cons_of_neg (by simp [announced, hprobe])]
    exact .nil
  | some probe =>
    rw [hq, Option.map_some] at hdiagnostic
    rw [hq] at hprobe
    rw [List.filter_cons_of_pos (by simp [announced, hprobe, Outcome.isFail])]
    cases hvalue : (language.probeValue query probe context).run with
    | ok value =>
      rw [hvalue] at hdiagnostic
      rw [Failure.sinkLine?_of_found hdiagnostic, hexpression]
      exact .cons (.found hasks.1 hprobe hquery hvalue (Failure.contains_of_found hdiagnostic)) .nil
    | error e =>
      rw [hvalue] at hdiagnostic
      rw [Failure.sinkLine?_of_unavailable hdiagnostic]
      exact .cons (.unavailable hasks.1 hprobe hquery hvalue
        (Failure.contains_of_unavailable hdiagnostic)) .nil

/-- One assertion sends on its line if it fails and announces a probe, and no
line otherwise. -/
theorem tells_of_judge {language : Language Id C E Q V N} (htexts : language.KeepsTexts)
    {sink : Sink} (hsink : sink.isMemory = true) (context : C) (a : Script.Assertion) :
    List.Forall₂ (fun judged line => language.Tells context judged.1 judged.2 line)
      ([(a, (language.judge sink context a).1)].filter announced)
      (language.judge sink context a).2.kept := by
  rcases language.judge_cases sink context a with
    ⟨reason, hjudge⟩ | ⟨mode, text, spec, hasks, hcompile, hjudge⟩
  · rw [hjudge]
    exact .nil
  · rw [hjudge]
    simp only [Engine.kept_settle, hsink, if_true]
    rcases language.answer context spec with e | passed
    · exact .nil
    · cases passed with
      | true => exact .nil
      | false =>
        simp only [Engine.settle, Outcome.ofResult]
        cases mode with
        | test =>
          obtain ⟨expression, rfl⟩ := exists_of_compileAs_test hcompile
          have hprobe := Script.Assertion.probe_of_asks_test hasks
          rw [List.filter_cons_of_neg (by simp [announced, hprobe]),
            Failure.sinkLine?_of_none rfl]
          exact .nil
        | xpath =>
          obtain ⟨query, hquery, rfl⟩ := exists_of_compileAs_xpath hcompile
          have htext : language.text query = text := htexts text query hquery
          refine tells_of_failure hasks hquery htext ?_
          rw [← htext]
          exact language.diagnosis_xpath context query

theorem tells_of_runAssertions {language : Language Id C E Q V N} (htexts : language.KeepsTexts)
    {sink : Sink} (hsink : sink.isMemory = true) (context : C)
    (assertions : List Script.Assertion) :
    List.Forall₂ (fun judged line => language.Tells context judged.1 judged.2 line)
      ((assertions.zip ((language.runAssertions sink context assertions).results.map
        Prod.snd)).filter announced)
      (language.runAssertions sink context assertions).trail.kept := by
  induction assertions with
  | nil => exact .nil
  | cons a as ih =>
    rw [runAssertions_cons, Run.results_append, Run.trail_append, Trail.kept_append]
    have hzip : (a :: as).zip (((Run.ofAssertion a (language.judge sink context a)).results ++
        (language.runAssertions sink context as).results).map Prod.snd) =
        [(a, (language.judge sink context a).1)] ++
          as.zip ((language.runAssertions sink context as).results.map Prod.snd) := rfl
    rw [hzip, List.filter_append]
    exact List.rel_append (tells_of_judge htexts hsink context a) ih

end Language

/-! ## The command -/

namespace CommandLine

theorem unlines_singleton (line : String) : unlines [line] = line ++ "\n" := by
  simp [unlines, String.join]

theorem takeOperand_strip (query : String) : takeOperand .strip none query = .ok query := by
  simp [takeOperand]

theorem ofArgument_of_no_dash {argument : String} (h : argument.toList.head? ≠ some '-')
    (level : Level) : Word.ofArgument level argument = .operand argument := by
  unfold Word.ofArgument
  split
  · next heq => simp [heq] at h
  · next heq => simp [heq] at h
  · next heq => simp [heq] at h
  · rfl

/-- A query behind a `--` is taken as it is. -/
theorem parse_strip_separated (query : String) :
    parse ["strip", "--", query] = .ok (.strip query) := by
  have hname : Word.ofArgument .top "strip" = .operand "strip" := by rfl
  have hdashes : Word.ofArgument .strip "--" = .separator := by rfl
  simp only [parse, parseTop, hname, parseCommand, hdashes, takeOperand_strip, Except.map, if_true]
  rfl

theorem parse_strip {query : String} (h : query.toList.head? ≠ some '-') :
    parse ["strip", query] = .ok (.strip query) := by
  have hname : Word.ofArgument .top "strip" = .operand "strip" := by rfl
  simp only [parse, parseTop, hname, parseCommand, ofArgument_of_no_dash h, takeOperand_strip,
    if_true]
  rfl

theorem run_of_parse {arguments : List String} {query : String}
    (h : parse arguments = .ok (.strip query)) (read : Reader) (message : String) :
    run read arguments =
      (let announced := (Script.Assertion.mk none (some query) message).probe
      ⟨0, announced.getD query ++ "\n",
        if announced = none then "(no trailing string comparison; query unchanged)\n"
        else ""⟩) := by
  have hprobe : (Script.Assertion.mk none (some query) message).probe = Probe.ofQuery? query := rfl
  rw [run, h, hprobe]
  simp only [Command.run, runStrip, unlines_singleton]
  by_cases hkept : Probe.strip query = query
  · rw [Probe.ofQuery?_of_eq hkept]
    simp [hkept]
  · rw [Probe.ofQuery?_of_ne hkept]
    simp [hkept]

end CommandLine

/-! ## The three places of the probe -/

/-- With a host that keeps the texts of its queries, the lines in memory after a
run are those of the assertions that failed and announce a probe, one for each,
in order: a line with the query and the value of the announced probe, or a line
with that probe if it has none, and the reason of the failure says the same. An
assertion announces a probe if it has a path query and nothing else, and the
query ends in a comparison with a literal. The command prints that probe, or the
query with a note if there is none. -/
theorem the_announced_probe_is_the_one_that_is_evaluated {C E Q V N : Type}
    {language : Language Id C E Q V N} (htexts : language.KeepsTexts) {sink : Sink}
    (hsink : sink.isMemory = true) (context : C) (script : Script) :
    List.Forall₂ (fun judged line => language.Tells context judged.1 judged.2 line)
      ((script.assertions.zip ((language.run sink context script).results.map Prod.snd)).filter
        Language.announced)
      (language.run sink context script).trail.kept ∧
    (∀ (a : Script.Assertion) (probe : String), a.probe = some probe ↔
      a.test = none ∧ ∃ text, a.xpath = some text ∧ Probe.strip text = probe ∧ probe ≠ text) ∧
    (∀ (read : Reader) (arguments : List String) (query message : String),
      CommandLine.parse arguments = .ok (.strip query) →
      CommandLine.run read arguments =
        (let announced := (Script.Assertion.mk none (some query) message).probe
        ⟨0, announced.getD query ++ "\n",
          if announced = none then "(no trailing string comparison; query unchanged)\n"
          else ""⟩)) ∧
    (∀ query : String, CommandLine.parse ["strip", "--", query] = .ok (.strip query) ∧
      (query.toList.head? ≠ some '-' →
        CommandLine.parse ["strip", query] = .ok (.strip query))) := by
  refine ⟨Language.tells_of_runAssertions htexts hsink context script.assertions, ?_, ?_, ?_⟩
  · intro a probe
    exact Script.Assertion.probe_eq_some_iff
  · intro read arguments query message hparse
    exact CommandLine.run_of_parse hparse read message
  · intro query
    exact ⟨CommandLine.parse_strip_separated query, CommandLine.parse_strip⟩

theorem PathQuery.keepsTexts_language (answers : List (String × Except EvalError Bool))
    (variableBindings namespaceBindings : Bindings) :
    (language answers variableBindings namespaceBindings).KeepsTexts := by
  intro text query h
  change compileBound variableBindings namespaceBindings text = .ok query at h
  unfold compileBound at h
  cases hcompile : compile text with
  | error fault =>
    rw [hcompile] at h
    cases h
  | ok bare =>
    rw [hcompile] at h
    cases h
    have hbare : bare.text = text := by rw [compile_eq_ok hcompile]
    change ((bare.withVariables variableBindings).withNamespaces namespaceBindings).text = text
    unfold withNamespaces withVariables
    split
    · split <;> exact hbare
    · split <;> exact hbare

/-- Of a query that is false, one that cannot be probed, an expression that is
false and an assertion with nothing to check, the first two send on a line. -/
theorem a_false_query_sends_on_the_value_of_its_probe :
    (PathQuery.language [] [] []).KeepsTexts ∧ (Sink.shared .memory).isMemory = true ∧
    List.Forall₂ (fun judged line => (PathQuery.language [] [] []).Tells [("a", "v")]
        judged.1 judged.2 line)
      [({ xpath := some "a = 'x'" }, .fail "evaluating xpath: a = 'x' => \"v\""),
        ({ xpath := some "a != 'v'", message := " m " },
          .fail "m (evaluating xpath: a != 'v' (cannot evaluate as string))")]
      ["**test:assert failed a = 'x' => \"v\"",
        "**test:assert failed a ! cannot evaluate as string"] := by
  have htexts := PathQuery.keepsTexts_language [] [] []
  have hsink : (Sink.shared .memory).isMemory = true := rfl
  have hlines := (the_announced_probe_is_the_one_that_is_evaluated htexts hsink [("a", "v")]
    ⟨"s", [{ xpath := some "a = 'x'" }, { test := some "false" },
      { xpath := some "a != 'v'", message := " m " }, {}]⟩).1
  exact ⟨htexts, hsink, hlines⟩

end Verdict
