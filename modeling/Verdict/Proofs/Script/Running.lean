-- Runs of scripts. Main statement: a run goes through its assertions one by
-- one. What it reports, sends to its sink and logs about a list of assertions
-- is what it does about the first part of the list, then what it does about
-- the rest, and how an assertion comes out depends on that assertion alone.
import Mathlib.Data.List.Forall2
import Verdict.Proofs.Evaluation.Trail
import Verdict.Script.Run

namespace Verdict

/-! ## Runs one behind the other -/

def Run.append (a b : Run) : Run := ⟨a.results ++ b.results, a.trail ++ b.trail⟩

instance : Append Run := ⟨Run.append⟩

@[simp] theorem Run.results_append (a b : Run) : (a ++ b).results = a.results ++ b.results := rfl

@[simp] theorem Run.trail_append (a b : Run) : (a ++ b).trail = a.trail ++ b.trail := rfl

theorem Run.empty_append (a : Run) : (⟨[], {}⟩ : Run) ++ a = a := by
  change Run.mk ([] ++ a.results) (({} : Trail) ++ a.trail) = a
  rw [List.nil_append, Trail.empty_append]

/-- The run of one assertion, from its outcome and its trail. -/
def Run.ofAssertion (a : Script.Assertion) (judged : Outcome × Trail) : Run :=
  ⟨[(a.description, judged.1)], judged.2⟩

theorem Run.ofAssertion_append (a : Script.Assertion) (judged : Outcome × Trail) (b c : Run) :
    Run.ofAssertion a judged ++ (b ++ c) = Run.ofAssertion a judged ++ b ++ c := by
  change Run.mk _ (judged.2 ++ (b.trail ++ c.trail)) = Run.mk _ (judged.2 ++ b.trail ++ c.trail)
  rw [Trail.append_assoc]
  rfl

namespace Language

section

variable {m : Type → Type} [Monad m] {C E Q V N : Type}

theorem runAll_cons (language : Language m C E Q V N) (sink : Sink) (context : C)
    (a : Script.Assertion) (as : List Script.Assertion) :
    language.runAll sink context (a :: as) = do
      let judged ← language.runAssertion sink context a
      let others ← language.runAll sink context as
      return Run.ofAssertion a judged ++ others := rfl

/-- Whatever effects the operations of the host have, those for the second list
come after those for the first. -/
theorem runAll_append [LawfulMonad m] (language : Language m C E Q V N) (sink : Sink)
    (context : C) (first second : List Script.Assertion) :
    language.runAll sink context (first ++ second) = do
      let run ← language.runAll sink context first
      let others ← language.runAll sink context second
      return run ++ others := by
  induction first with
  | nil =>
    change language.runAll sink context second = pure (⟨[], {}⟩ : Run) >>= _
    simp only [pure_bind, Run.empty_append, bind_pure]
  | cons a as ih =>
    simp only [List.cons_append, runAll_cons, ih, bind_assoc, pure_bind, Run.ofAssertion_append]

end

/-! ## Hosts of pure functions -/

variable {C E Q V N : Type}

/-- The run of a script with a host of pure functions. -/
def run (language : Language Id C E Q V N) (sink : Sink) (context : C) (script : Script) : Run :=
  (language.runScript sink context script).run

def runAssertions (language : Language Id C E Q V N) (sink : Sink) (context : C)
    (assertions : List Script.Assertion) : Run :=
  (language.runAll sink context assertions).run

/-- The outcome and the trail of one assertion. -/
def judge (language : Language Id C E Q V N) (sink : Sink) (context : C)
    (a : Script.Assertion) : Outcome × Trail :=
  (language.runAssertion sink context a).run

theorem runAssertions_cons (language : Language Id C E Q V N) (sink : Sink) (context : C)
    (a : Script.Assertion) (as : List Script.Assertion) :
    language.runAssertions sink context (a :: as) =
      Run.ofAssertion a (language.judge sink context a) ++
        language.runAssertions sink context as := rfl

theorem runAssertions_append (language : Language Id C E Q V N) (sink : Sink) (context : C)
    (first second : List Script.Assertion) :
    language.runAssertions sink context (first ++ second) =
      language.runAssertions sink context first ++ language.runAssertions sink context second :=
  congrArg Id.run (language.runAll_append sink context first second)

theorem results_run (language : Language Id C E Q V N) (sink : Sink) (context : C)
    (script : Script) :
    (language.run sink context script).results =
      (language.runAssertions sink context script.assertions).results := rfl

theorem kept_run (language : Language Id C E Q V N) (sink : Sink) (context : C)
    (script : Script) :
    (language.run sink context script).trail.kept =
      (language.runAssertions sink context script.assertions).trail.kept := rfl

theorem events_run (language : Language Id C E Q V N) (sink : Sink) (context : C)
    (script : Script) :
    (language.run sink context script).trail.events =
      .running script.name script.assertions.length ::
        (language.runAssertions sink context script.assertions).trail.events := rfl

/-! ## How one assertion comes out -/

/-- The compiled expression of an assertion, or the reason why it has none. -/
def prepare (language : Language Id C E Q V N) (a : Script.Assertion) :
    Except String (Spec E Q) :=
  match a.spec with
  | .error e => .error e.message
  | .ok spec => (language.compileSpec spec).run

theorem judge_of_error {language : Language Id C E Q V N} {a : Script.Assertion} {reason : String}
    (h : language.prepare a = .error reason) (sink : Sink) (context : C) :
    language.judge sink context a = (.error reason, {}) := by
  unfold prepare at h
  unfold judge runAssertion
  cases hspec : a.spec with
  | error e =>
    rw [hspec] at h
    cases h
    rfl
  | ok spec =>
    rw [hspec] at h
    change language.compileSpec spec = Except.error reason at h
    simp only [h]
    rfl

theorem judge_of_ok {language : Language Id C E Q V N} {a : Script.Assertion} {spec : Spec E Q}
    (h : language.prepare a = .ok spec) (sink : Sink) (context : C) :
    language.judge sink context a =
      (let settled := language.settle ⟨sink⟩ context a.message spec (language.answer context spec)
      (.ofResult settled.result, settled.trail)) := by
  unfold prepare at h
  unfold judge runAssertion
  cases hspec : a.spec with
  | error e =>
    rw [hspec] at h
    cases h
  | ok texts =>
    rw [hspec] at h
    change language.compileSpec texts = Except.ok spec at h
    simp only [h, ← Engine.evaluate_some]
    rfl

/-- The sink of the run has no say in the outcome. -/
theorem fst_judge_of_ok {language : Language Id C E Q V N} {a : Script.Assertion} {spec : Spec E Q}
    (h : language.prepare a = .ok spec) (sink : Sink) (context : C) :
    (language.judge sink context a).1 =
      .ofResult (evaluate language.toEngine (some spec) ⟨context, a.message⟩).run.result := by
  rw [judge_of_ok h, Engine.run_evaluate_some]
  rcases language.answer context spec with e | passed
  · rfl
  · cases passed <;> rfl

end Language

/-! ## The rules for one assertion -/

/-- The text that an assertion gives for a kind of expression. -/
def Script.Assertion.given (a : Script.Assertion) : Mode → Option String
  | .test => a.test
  | .xpath => a.xpath

/-- An assertion with this text and no other. -/
def Script.Assertion.Asks (a : Script.Assertion) (mode : Mode) (text : String) : Prop :=
  a.given mode = some text ∧ ∀ other, other ≠ mode → a.given other = none

/-- What the host makes of a text of this kind. -/
def Language.compileAs {C E Q V N : Type} (language : Language Id C E Q V N) :
    Mode → String → Except EvalError (Spec E Q)
  | .test, text => (language.compileExpression text).run.map .test
  | .xpath, text => (language.compileQuery text).run.map .xpath

/-- How an assertion comes out in a context, rule by rule. -/
inductive Language.ComesOut {C E Q V N : Type} (language : Language Id C E Q V N) (context : C)
    (a : Script.Assertion) : Outcome → Prop
  | missing : (∀ mode, a.given mode = none) →
      language.ComesOut context a (.error ConfigError.missing.message)
  | conflicting : (∀ mode, a.given mode ≠ none) →
      language.ComesOut context a (.error ConfigError.conflicting.message)
  | refused {mode : Mode} {text : String} {e : EvalError} : a.Asks mode text →
      language.compileAs mode text = .error e →
      language.ComesOut context a
        (.error ("cannot compile " ++ mode.name ++ " '" ++ text ++ "': " ++ e.message))
  | evaluated {mode : Mode} {text : String} {spec : Spec E Q} : a.Asks mode text →
      language.compileAs mode text = .ok spec →
      language.ComesOut context a
        (.ofResult (evaluate language.toEngine (some spec) ⟨context, a.message⟩).run.result)

theorem Script.Assertion.spec_of_missing {a : Script.Assertion}
    (h : ∀ mode, a.given mode = none) : a.spec = .error .missing := by
  have htest : a.test = none := h .test
  have hxpath : a.xpath = none := h .xpath
  rw [spec, htest, hxpath]
  rfl

theorem Script.Assertion.spec_of_conflicting {a : Script.Assertion}
    (h : ∀ mode, a.given mode ≠ none) : a.spec = .error .conflicting := by
  obtain ⟨test, htest⟩ := Option.ne_none_iff_exists'.mp (h .test)
  obtain ⟨xpath, hxpath⟩ := Option.ne_none_iff_exists'.mp (h .xpath)
  change a.test = some test at htest
  change a.xpath = some xpath at hxpath
  rw [spec, htest, hxpath]
  rfl

theorem Script.Assertion.spec_of_asks_test {a : Script.Assertion} {text : String}
    (h : a.Asks .test text) : a.spec = .ok (.test text) := by
  have htest : a.test = some text := h.1
  have hxpath : a.xpath = none := h.2 .xpath (by decide)
  rw [spec, htest, hxpath]
  rfl

theorem Script.Assertion.spec_of_asks_xpath {a : Script.Assertion} {text : String}
    (h : a.Asks .xpath text) : a.spec = .ok (.xpath text) := by
  have htest : a.test = none := h.2 .test (by decide)
  have hxpath : a.xpath = some text := h.1
  rw [spec, htest, hxpath]
  rfl

theorem Script.Assertion.given_cases (a : Script.Assertion) :
    (∀ mode, a.given mode = none) ∨ (∀ mode, a.given mode ≠ none) ∨
      ∃ mode text, a.Asks mode text := by
  cases htest : a.test with
  | none =>
    cases hxpath : a.xpath with
    | none =>
      refine .inl fun mode => ?_
      cases mode
      · exact htest
      · exact hxpath
    | some text =>
      refine .inr (.inr ⟨.xpath, text, hxpath, fun other hother => ?_⟩)
      cases other
      · exact htest
      · contradiction
  | some text =>
    cases hxpath : a.xpath with
    | none =>
      refine .inr (.inr ⟨.test, text, htest, fun other hother => ?_⟩)
      cases other
      · contradiction
      · exact hxpath
    | some xpath =>
      refine .inr (.inl fun mode => ?_)
      cases mode
      · simp [given, htest]
      · simp [given, hxpath]

namespace Language

variable {C E Q V N : Type}

theorem exists_of_compileAs_test {language : Language Id C E Q V N} {text : String}
    {spec : Spec E Q} (h : language.compileAs .test text = .ok spec) :
    ∃ expression, spec = .test expression := by
  rw [compileAs] at h
  cases hcompile : (language.compileExpression text).run with
  | error e =>
    rw [hcompile] at h
    cases h
  | ok expression =>
    rw [hcompile] at h
    cases h
    exact ⟨expression, rfl⟩

theorem exists_of_compileAs_xpath {language : Language Id C E Q V N} {text : String}
    {spec : Spec E Q} (h : language.compileAs .xpath text = .ok spec) :
    ∃ query, (language.compileQuery text).run = .ok query ∧ spec = .xpath query := by
  rw [compileAs] at h
  cases hcompile : (language.compileQuery text).run with
  | error e =>
    rw [hcompile] at h
    cases h
  | ok query =>
    rw [hcompile] at h
    cases h
    exact ⟨query, rfl, rfl⟩

theorem prepare_of_missing (language : Language Id C E Q V N) {a : Script.Assertion}
    (h : ∀ mode, a.given mode = none) :
    language.prepare a = .error ConfigError.missing.message := by
  rw [prepare, Script.Assertion.spec_of_missing h]

theorem prepare_of_conflicting (language : Language Id C E Q V N) {a : Script.Assertion}
    (h : ∀ mode, a.given mode ≠ none) :
    language.prepare a = .error ConfigError.conflicting.message := by
  rw [prepare, Script.Assertion.spec_of_conflicting h]

theorem prepare_of_asks (language : Language Id C E Q V N) {a : Script.Assertion} {mode : Mode}
    {text : String} (h : a.Asks mode text) :
    language.prepare a = (language.compileAs mode text).mapError fun e =>
      "cannot compile " ++ mode.name ++ " '" ++ text ++ "': " ++ e.message := by
  cases mode with
  | test =>
    simp only [prepare, Script.Assertion.spec_of_asks_test h, compileSpec, compileAs, Id.run]
    generalize language.compileExpression text = compiled
    rcases compiled with e | expression
    · rfl
    · rfl
  | xpath =>
    simp only [prepare, Script.Assertion.spec_of_asks_xpath h, compileSpec, compileAs, Id.run]
    generalize language.compileQuery text = compiled
    rcases compiled with e | query
    · rfl
    · rfl

/-- No two rules apply to one assertion. -/
theorem fst_judge_of_comesOut {language : Language Id C E Q V N} {context : C}
    {a : Script.Assertion} {outcome : Outcome} (h : language.ComesOut context a outcome)
    (sink : Sink) : (language.judge sink context a).1 = outcome := by
  cases h with
  | missing hnone => rw [judge_of_error (language.prepare_of_missing hnone)]
  | conflicting hall => rw [judge_of_error (language.prepare_of_conflicting hall)]
  | refused hasks hcompile =>
    have hprepare := language.prepare_of_asks hasks
    rw [hcompile] at hprepare
    rw [judge_of_error hprepare]
  | evaluated hasks hcompile =>
    have hprepare := language.prepare_of_asks hasks
    rw [hcompile] at hprepare
    rw [fst_judge_of_ok hprepare]

/-- Some rule applies to every assertion. -/
theorem exists_comesOut (language : Language Id C E Q V N) (context : C) (a : Script.Assertion) :
    ∃ outcome, language.ComesOut context a outcome := by
  rcases a.given_cases with hnone | hall | ⟨mode, text, hasks⟩
  · exact ⟨_, .missing hnone⟩
  · exact ⟨_, .conflicting hall⟩
  · cases hcompile : language.compileAs mode text with
    | error e => exact ⟨_, .refused hasks hcompile⟩
    | ok spec => exact ⟨_, .evaluated hasks hcompile⟩

theorem comesOut_iff {language : Language Id C E Q V N} {context : C} {a : Script.Assertion}
    {outcome : Outcome} (sink : Sink) :
    language.ComesOut context a outcome ↔ outcome = (language.judge sink context a).1 := by
  constructor
  · intro h
    exact (fst_judge_of_comesOut h sink).symm
  · rintro rfl
    obtain ⟨outcome, h⟩ := language.exists_comesOut context a
    rw [fst_judge_of_comesOut h sink]
    exact h

/-- The outcome of what is compiled, by the host's answer. -/
theorem ofResult_evaluate (language : Language Id C E Q V N) (context : C) (body : String)
    (spec : Spec E Q) :
    Outcome.ofResult (evaluate language.toEngine (some spec) ⟨context, body⟩).run.result =
      match language.answer context spec with
      | .ok true => .pass
      | .ok false => .fail (language.failure context body spec).display
      | .error e => .error ("error evaluating " ++ spec.mode.name ++ " '" ++
          language.textOf spec ++ "': " ++ e.message) := by
  rw [Engine.run_evaluate_some]
  rcases language.answer context spec with e | passed
  · rfl
  · cases passed <;> rfl

/-! ## Whole runs -/

/-- All that can happen to an assertion: it is not evaluated and leaves no
trail, or its one expression is compiled and evaluated. -/
theorem judge_cases (language : Language Id C E Q V N) (sink : Sink) (context : C)
    (a : Script.Assertion) :
    (∃ reason, language.judge sink context a = (.error reason, {})) ∨
      ∃ mode text spec, a.Asks mode text ∧ language.compileAs mode text = .ok spec ∧
        language.judge sink context a =
          (let settled := language.settle ⟨sink⟩ context a.message spec
            (language.answer context spec)
          (.ofResult settled.result, settled.trail)) := by
  rcases a.given_cases with hnone | hall | ⟨mode, text, hasks⟩
  · exact .inl ⟨_, judge_of_error (language.prepare_of_missing hnone) sink context⟩
  · exact .inl ⟨_, judge_of_error (language.prepare_of_conflicting hall) sink context⟩
  · have hprepare := language.prepare_of_asks hasks
    cases hcompile : language.compileAs mode text with
    | error e =>
      rw [hcompile] at hprepare
      exact .inl ⟨_, judge_of_error hprepare sink context⟩
    | ok spec =>
      rw [hcompile] at hprepare
      exact .inr ⟨mode, text, spec, hasks, hcompile, judge_of_ok hprepare sink context⟩

theorem running_notMem_judge (language : Language Id C E Q V N) (sink : Sink) (context : C)
    (a : Script.Assertion) (script : String) (count : Nat) :
    Event.running script count ∉ (language.judge sink context a).2.events := by
  rcases language.judge_cases sink context a with ⟨reason, hjudge⟩ | ⟨_, _, spec, _, _, hjudge⟩
  · simp [hjudge]
  · rw [hjudge]
    simp only [Engine.events_settle]
    rcases language.answer context spec with e | passed
    · exact List.not_mem_nil
    · cases passed with
      | true => simp
      | false =>
        have hcomplaints := language.running_notMem_complaints context spec script count
        split <;> simp [hcomplaints]

theorem running_notMem_runAssertions (language : Language Id C E Q V N) (sink : Sink)
    (context : C) (assertions : List Script.Assertion) (script : String) (count : Nat) :
    Event.running script count ∉
      (language.runAssertions sink context assertions).trail.events := by
  induction assertions with
  | nil => exact List.not_mem_nil
  | cons a as ih =>
    rw [runAssertions_cons, Run.trail_append, Trail.events_append, List.mem_append, not_or]
    exact ⟨language.running_notMem_judge sink context a script count, ih⟩

theorem results_singleton (language : Language Id C E Q V N) (sink : Sink) (context : C)
    (name : String) (a : Script.Assertion) :
    (language.run sink context ⟨name, [a]⟩).results =
      [(a.description, (language.judge sink context a).1)] := rfl

theorem results_runAssertions (language : Language Id C E Q V N) (sink : Sink) (context : C)
    (assertions : List Script.Assertion) :
    (language.runAssertions sink context assertions).results =
      assertions.map fun a => (a.description, (language.judge sink context a).1) := by
  induction assertions with
  | nil => rfl
  | cons a as ih =>
    rw [runAssertions_cons, Run.results_append, ih]
    rfl

theorem fst_judge_eq (language : Language Id C E Q V N) (sink sink' : Sink) (context : C)
    (a : Script.Assertion) :
    (language.judge sink context a).1 = (language.judge sink' context a).1 :=
  fst_judge_of_comesOut ((comesOut_iff sink').mpr rfl) sink

/-- Of two lists of assertions, one behind the other, a run reports the results
of the first and then those of the second, sends on the lines of both in that
order, and logs its start with the whole count and then the events of both.
There is one result for each assertion, under its description: what comes out of
that assertion by its own rule, and what a script of it alone reports, whatever
the sink. -/
theorem a_script_runs_its_assertions_one_by_one (language : Language Id C E Q V N) (sink : Sink)
    (context : C) :
    (∀ (name name₁ name₂ : String) (first second : List Script.Assertion),
      (language.run sink context ⟨name, first ++ second⟩).results =
        (language.run sink context ⟨name₁, first⟩).results ++
          (language.run sink context ⟨name₂, second⟩).results ∧
      (language.run sink context ⟨name, first ++ second⟩).trail.kept =
        (language.run sink context ⟨name₁, first⟩).trail.kept ++
          (language.run sink context ⟨name₂, second⟩).trail.kept ∧
      ∃ events₁ events₂,
        (language.run sink context ⟨name₁, first⟩).trail.events =
          .running name₁ first.length :: events₁ ∧
        (language.run sink context ⟨name₂, second⟩).trail.events =
          .running name₂ second.length :: events₂ ∧
        (language.run sink context ⟨name, first ++ second⟩).trail.events =
          .running name (first ++ second).length :: (events₁ ++ events₂) ∧
        ∀ script count, .running script count ∉ events₁ ++ events₂) ∧
    (∀ script : Script, List.Forall₂
      (fun a result => result.1 = a.description ∧
        (∀ outcome, language.ComesOut context a outcome ↔ outcome = result.2) ∧
        ∀ sink' name, (language.run sink' context ⟨name, [a]⟩).results = [result])
      script.assertions (language.run sink context script).results) ∧
    (∀ (body : String) (spec : Spec E Q),
      Outcome.ofResult (evaluate language.toEngine (some spec) ⟨context, body⟩).run.result =
        match language.answer context spec with
        | .ok true => .pass
        | .ok false => .fail (language.failure context body spec).display
        | .error e => .error ("error evaluating " ++ spec.mode.name ++ " '" ++
            language.textOf spec ++ "': " ++ e.message)) := by
  refine ⟨?_, ?_, language.ofResult_evaluate context⟩
  · intro name name₁ name₂ first second
    have happend := language.runAssertions_append sink context first second
    refine ⟨?_, ?_, _, _, language.events_run sink context ⟨name₁, first⟩,
      language.events_run sink context ⟨name₂, second⟩, ?_, ?_⟩
    · simp only [results_run, happend, Run.results_append]
    · simp only [kept_run, happend, Run.trail_append, Trail.kept_append]
    · simp only [events_run, happend, Run.trail_append, Trail.events_append]
    · intro script count hmem
      rcases List.mem_append.mp hmem with hmem | hmem
      · exact language.running_notMem_runAssertions sink context first script count hmem
      · exact language.running_notMem_runAssertions sink context second script count hmem
  · intro script
    rw [results_run, results_runAssertions, List.forall₂_map_right_iff, List.forall₂_same]
    intro a _
    refine ⟨rfl, fun outcome => comesOut_iff sink, fun sink' name => ?_⟩
    rw [results_singleton, language.fst_judge_eq sink' sink]

end Language

end Verdict
