-- What decides the outcome of an assertion: whether it has an expression, and
-- the host's boolean answer about it. Main statement: hosts that agree on that
-- answer and on the text of the expression give the same outcome, whatever
-- they do with the probe.
import Verdict.Evaluation

namespace Verdict

/-- The probe of an expression of the given kind and text: a boolean expression
has none. -/
def Mode.probe : Mode → String → Option String
  | .test, _ => none
  | .xpath, text => Probe.ofQuery? text

/-- What is reported of a probe with this value. -/
def Diagnostic.ofValue (probe : String) : Except EvalError String → Diagnostic
  | .ok value => .found probe value
  | .error _ => .unavailable probe

theorem Diagnostic.probe_ofValue (probe : String) (value : Except EvalError String) :
    (Diagnostic.ofValue probe value).probe = probe := by
  cases value <;> rfl

namespace Engine

variable {C E Q V N : Type}

/-! ## An evaluation as a function of the host's answer -/

def textOf (engine : Engine Id C E Q V N) : Spec E Q → String
  | .test expression => engine.expressionText expression
  | .xpath query => engine.text query

/-- The host's answer to whether the expression of an assertion is true. -/
def answer (engine : Engine Id C E Q V N) (context : C) : Spec E Q → Except EvalError Bool
  | .test expression => engine.holds expression context
  | .xpath query => engine.booleanValue query context

/-- What is found out about an expression that is false, and the trail of it. -/
def diagnosis (engine : Engine Id C E Q V N) (context : C) : Spec E Q → Option Diagnostic × Trail
  | .test _ => (none, {})
  | .xpath query => (engine.diagnose query context).run

def failure (engine : Engine Id C E Q V N) (context : C) (body : String) (spec : Spec E Q) :
    Failure :=
  ⟨spec.mode, engine.textOf spec, body, (engine.diagnosis context spec).1⟩

/-- The evaluation of an assertion with an expression, given the host's answer. -/
def settle (engine : Engine Id C E Q V N) (reporter : Reporter) (context : C) (body : String)
    (spec : Spec E Q) : Except EvalError Bool → Evaluation
  | .error e => .error (.evaluation spec.mode (engine.textOf spec) e)
  | .ok true => ⟨.ok (), .ofEvents [.evaluated spec.mode (engine.textOf spec) true]⟩
  | .ok false =>
    ⟨.error (.failed (engine.failure context body spec)),
      .ofEvents [.evaluated spec.mode (engine.textOf spec) false] ++
        (engine.diagnosis context spec).2 ++ reporter.trail (engine.failure context body spec)⟩

theorem evaluateTest_eq_settle (engine : Engine Id C E Q V N) (reporter : Reporter)
    (expression : E) (context : C) (body : String) :
    (engine.evaluateTest reporter expression context body).run =
      engine.settle reporter context body (.test expression)
        (engine.answer context (.test expression)) := by
  simp only [evaluateTest, answer]
  generalize engine.holds expression context = answer
  rcases answer with e | passed
  · rfl
  · cases passed with
    | true => rfl
    | false =>
      simp only [settle, diagnosis, Trail.append_empty]
      rfl

theorem evaluateQuery_eq_settle (engine : Engine Id C E Q V N) (reporter : Reporter)
    (query : Q) (context : C) (body : String) :
    (engine.evaluateQuery reporter query context body).run =
      engine.settle reporter context body (.xpath query)
        (engine.answer context (.xpath query)) := by
  simp only [evaluateQuery, answer]
  generalize engine.booleanValue query context = answer
  rcases answer with e | passed
  · rfl
  · cases passed with
    | true => rfl
    | false => rfl

theorem evaluate_some (engine : Engine Id C E Q V N) (reporter : Reporter) (spec : Spec E Q)
    (context : C) (body : String) :
    (engine.evaluate reporter (some spec) context body).run =
      engine.settle reporter context body spec (engine.answer context spec) := by
  cases spec with
  | test expression => exact engine.evaluateTest_eq_settle reporter expression context body
  | xpath query => exact engine.evaluateQuery_eq_settle reporter query context body

/-! ## The probe of a failure -/

/-- The warning that the value of a probe gives rise to. -/
def warning (probe : String) : Except EvalError String → List Event
  | .ok _ => []
  | .error e => [.unprobed probe e.message]

/-- A diagnosis is made of the value of the probe, if there is one. -/
theorem diagnose_eq_map {m : Type → Type} [Monad m] [LawfulMonad m] (engine : Engine m C E Q V N)
    (query : Q) (context : C) :
    engine.diagnose query context =
      match Probe.ofQuery? (engine.text query) with
      | none => pure (none, {})
      | some probe =>
        (fun value => (some (.ofValue probe value), .ofEvents (warning probe value))) <$>
          engine.probeValue query probe context := by
  unfold diagnose
  cases Probe.ofQuery? (engine.text query) with
  | none => rfl
  | some probe =>
    simp only [map_eq_pure_bind]
    refine bind_congr fun value => ?_
    cases value <;> rfl

/-- A false query is probed for a value if it has a probe. -/
theorem diagnosis_xpath (engine : Engine Id C E Q V N) (context : C) (query : Q) :
    (engine.diagnosis context (.xpath query)).1 =
      (Probe.ofQuery? (engine.text query)).map fun probe =>
        Diagnostic.ofValue probe (engine.probeValue query probe context).run := by
  rw [diagnosis, diagnose_eq_map]
  cases Probe.ofQuery? (engine.text query) with
  | none => rfl
  | some probe => rfl

/-- The host has no say in whether there is a diagnostic, nor in its probe. -/
theorem probe_diagnosis (engine : Engine Id C E Q V N) (context : C) (spec : Spec E Q) :
    (engine.diagnosis context spec).1.map Diagnostic.probe =
      spec.mode.probe (engine.textOf spec) := by
  cases spec with
  | test expression => rfl
  | xpath query =>
    rw [diagnosis_xpath, Option.map_map]
    have hid : Diagnostic.probe ∘ (fun probe =>
        Diagnostic.ofValue probe (engine.probeValue query probe context).run) = id := by
      funext probe
      exact Diagnostic.probe_ofValue probe _
    rw [hid, Option.map_id]
    rfl

end Engine

/-! ## The result of an evaluator -/

namespace Evaluator

variable {C E Q V N : Type}

/-- The result of one occasion with a host of pure functions. -/
def result (evaluator : Evaluator E Q) (engine : Engine Id C E Q V N) (occasion : Occasion C) :
    Except AssertError Unit :=
  (evaluator.evaluate engine occasion).run.result

theorem result_none {evaluator : Evaluator E Q} (h : evaluator.spec = none)
    (engine : Engine Id C E Q V N) (occasion : Occasion C) :
    evaluator.result engine occasion = .error (.configuration .missing) := by
  rw [result, evaluate, h]
  rfl

theorem result_some {evaluator : Evaluator E Q} {spec : Spec E Q}
    (h : evaluator.spec = some spec) (engine : Engine Id C E Q V N) (occasion : Occasion C) :
    evaluator.result engine occasion =
      (engine.settle evaluator.reporter occasion.context occasion.body spec
        (engine.answer occasion.context spec)).result := by
  rw [result, evaluate, h, Engine.evaluate_some]

/-- Only an assertion without an expression is a configuration error. -/
theorem result_eq_configuration_iff {evaluator : Evaluator E Q} {engine : Engine Id C E Q V N}
    {occasion : Occasion C} {cause : ConfigError} :
    evaluator.result engine occasion = .error (.configuration cause) ↔
      evaluator.spec = none ∧ cause = .missing := by
  cases h : evaluator.spec with
  | none => simp [result_none h, eq_comm]
  | some spec =>
    rw [result_some h]
    rcases engine.answer occasion.context spec with e | passed
    · simp [Engine.settle, Evaluation.error]
    · cases passed <;> simp [Engine.settle]

/-- Only an error of the host on the expression itself is an evaluation error. -/
theorem result_eq_evaluation_iff {evaluator : Evaluator E Q} {engine : Engine Id C E Q V N}
    {occasion : Occasion C} {mode : Mode} {text : String} {e : EvalError} :
    evaluator.result engine occasion = .error (.evaluation mode text e) ↔
      ∃ spec, evaluator.spec = some spec ∧ engine.answer occasion.context spec = .error e ∧
        mode = spec.mode ∧ text = engine.textOf spec := by
  cases h : evaluator.spec with
  | none => simp [result_none h]
  | some spec =>
    rw [result_some h]
    rcases ha : engine.answer occasion.context spec with e' | passed
    · simp only [Engine.settle, Evaluation.error, Except.error.injEq, AssertError.evaluation.injEq,
        Option.some.injEq, exists_eq_left', ha]
      constructor
      · rintro ⟨rfl, rfl, rfl⟩
        exact ⟨rfl, rfl, rfl⟩
      · rintro ⟨rfl, rfl, rfl⟩
        exact ⟨rfl, rfl, rfl⟩
    · cases passed <;> simp [Engine.settle, ha]

theorem result_eq_ok_iff {evaluator : Evaluator E Q} {engine : Engine Id C E Q V N}
    {occasion : Occasion C} :
    evaluator.result engine occasion = .ok () ↔
      ∃ spec, evaluator.spec = some spec ∧ engine.answer occasion.context spec = .ok true := by
  cases h : evaluator.spec with
  | none => simp [result_none h]
  | some spec =>
    rw [result_some h]
    rcases ha : engine.answer occasion.context spec with e | passed
    · simp [Engine.settle, Evaluation.error, ha]
    · cases passed <;> simp [Engine.settle, ha]

/-- Only what the host calls false fails, and there is one failure for it. -/
theorem result_eq_failed_iff {evaluator : Evaluator E Q} {engine : Engine Id C E Q V N}
    {occasion : Occasion C} {f : Failure} :
    evaluator.result engine occasion = .error (.failed f) ↔
      ∃ spec, evaluator.spec = some spec ∧ engine.answer occasion.context spec = .ok false ∧
        f = engine.failure occasion.context occasion.body spec := by
  cases h : evaluator.spec with
  | none => simp [result_none h]
  | some spec =>
    rw [result_some h]
    rcases ha : engine.answer occasion.context spec with e | passed
    · simp [Engine.settle, Evaluation.error, ha]
    · cases passed <;> simp [Engine.settle, ha, eq_comm]

end Evaluator

/-! ## Two hosts -/

/-- What a host says about the expression of an assertion before any probe. -/
structure Statement where
  mode : Mode
  text : String
  answer : Except EvalError Bool

def Engine.statement {C E Q V N : Type} (engine : Engine Id C E Q V N) (context : C)
    (spec : Spec E Q) : Statement :=
  ⟨spec.mode, engine.textOf spec, engine.answer context spec⟩

/-- Two results that differ at most in what the probe of a failure found. -/
inductive SameVerdict : Except AssertError Unit → Except AssertError Unit → Prop
  | ok : SameVerdict (.ok ()) (.ok ())
  | configuration (cause : ConfigError) :
      SameVerdict (.error (.configuration cause)) (.error (.configuration cause))
  | evaluation (mode : Mode) (text : String) (e : EvalError) :
      SameVerdict (.error (.evaluation mode text e)) (.error (.evaluation mode text e))
  | failed {f g : Failure} : f.mode = g.mode → f.expression = g.expression → f.body = g.body →
      f.diagnostic.map Diagnostic.probe = g.diagnostic.map Diagnostic.probe →
      SameVerdict (.error (.failed f)) (.error (.failed g))

/-- The probes of the two hosts come into play only for a false answer. -/
theorem Engine.sameVerdict_settle {C C' E E' Q Q' V V' N N' : Type}
    {engine : Engine Id C E Q V N} {other : Engine Id C' E' Q' V' N'} {context : C}
    {context' : C'} {spec : Spec E Q} {spec' : Spec E' Q'}
    (h : engine.statement context spec = other.statement context' spec')
    (reporter reporter' : Reporter) (body : String) :
    SameVerdict
      (engine.settle reporter context body spec (engine.answer context spec)).result
      (other.settle reporter' context' body spec' (other.answer context' spec')).result := by
  obtain ⟨hmode, htext, hanswer⟩ : spec.mode = spec'.mode ∧
      engine.textOf spec = other.textOf spec' ∧
      engine.answer context spec = other.answer context' spec' := by
    simpa [Engine.statement] using h
  rw [hanswer]
  rcases other.answer context' spec' with e | passed
  · rw [Engine.settle, Engine.settle, hmode, htext]
    exact .evaluation _ _ e
  · cases passed with
    | true => exact .ok
    | false =>
      refine .failed hmode htext rfl ?_
      simp only [Engine.failure, Engine.probe_diagnosis, hmode, htext]

/-- An assertion is misconfigured exactly if it has no expression, and else the
host's answer alone decides: an error is passed on with the mode and the text,
true passes, false fails with the mode, the text and the body as they are.
Another host that says the same about the expression gives the same result, but
for what its probe finds. -/
theorem diagnostics_never_decide_the_outcome {C E Q V N : Type} (engine : Engine Id C E Q V N)
    (evaluator : Evaluator E Q) (occasion : Occasion C) :
    (∀ cause, evaluator.result engine occasion = .error (.configuration cause) ↔
      evaluator.spec = none ∧ cause = .missing) ∧
    (∀ mode text e, evaluator.result engine occasion = .error (.evaluation mode text e) ↔
      ∃ spec, evaluator.spec = some spec ∧ engine.answer occasion.context spec = .error e ∧
        mode = spec.mode ∧ text = engine.textOf spec) ∧
    (evaluator.result engine occasion = .ok () ↔
      ∃ spec, evaluator.spec = some spec ∧ engine.answer occasion.context spec = .ok true) ∧
    ((∃ f, evaluator.result engine occasion = .error (.failed f)) ↔
      ∃ spec, evaluator.spec = some spec ∧ engine.answer occasion.context spec = .ok false) ∧
    (∀ f, evaluator.result engine occasion = .error (.failed f) →
      ∃ spec, evaluator.spec = some spec ∧ f.mode = spec.mode ∧
        f.expression = engine.textOf spec ∧ f.body = occasion.body) ∧
    (∀ (E' Q' V' N' : Type) (other : Engine Id C E' Q' V' N') (evaluator' : Evaluator E' Q'),
      evaluator.spec.map (engine.statement occasion.context) =
        evaluator'.spec.map (other.statement occasion.context) →
      SameVerdict (evaluator.result engine occasion) (evaluator'.result other occasion)) := by
  refine ⟨fun cause => Evaluator.result_eq_configuration_iff,
    fun mode text e => Evaluator.result_eq_evaluation_iff, Evaluator.result_eq_ok_iff, ?_, ?_, ?_⟩
  · constructor
    · rintro ⟨f, hf⟩
      obtain ⟨spec, hspec, hanswer, _⟩ := Evaluator.result_eq_failed_iff.mp hf
      exact ⟨spec, hspec, hanswer⟩
    · rintro ⟨spec, hspec, hanswer⟩
      exact ⟨_, Evaluator.result_eq_failed_iff.mpr ⟨spec, hspec, hanswer, rfl⟩⟩
  · intro f hf
    obtain ⟨spec, hspec, _, rfl⟩ := Evaluator.result_eq_failed_iff.mp hf
    exact ⟨spec, hspec, rfl, rfl, rfl⟩
  · intro E' Q' V' N' other evaluator' h
    cases hspec : evaluator.spec with
    | none =>
      have hspec' : evaluator'.spec = none := by simpa [hspec] using h.symm
      rw [Evaluator.result_none hspec, Evaluator.result_none hspec']
      exact .configuration .missing
    | some spec =>
      obtain ⟨spec', hspec', hsame⟩ : ∃ spec', evaluator'.spec = some spec' ∧
          other.statement occasion.context spec' = engine.statement occasion.context spec := by
        simpa [hspec] using h.symm
      rw [Evaluator.result_some hspec, Evaluator.result_some hspec']
      exact Engine.sameVerdict_settle hsame.symm _ _ _

end Verdict
