-- The errors behind an error. Main statement: behind the error of an evaluation stand
-- the error that the host had with the expression itself and all that is nested in
-- it, to any depth. Nothing stands behind any other, and no error of a probe is passed
-- on.
import Verdict.Proofs.Script.Checking
import Verdict.Proofs.Script.Events

namespace Verdict

/-! ## Following the sources -/

/-- An error of the host around another one. -/
def EvalError.wrap (message : String) (source : EvalError) : EvalError :=
  ⟨message, source.message :: source.sources⟩

/-- An error of the host with others nested in it, each in the one before. -/
def EvalError.nest (message : String) : List String → EvalError
  | [] => .plain message
  | source :: sources => .wrap message (.nest source sources)

/-- The error right behind an error of the host. -/
def EvalError.source? (e : EvalError) : Option EvalError :=
  match e.sources with
  | [] => none
  | message :: sources => some ⟨message, sources⟩

/-- The error right behind the error of an evaluation. -/
def AssertError.source? : AssertError → Option EvalError
  | .configuration _ => none
  | .evaluation _ _ source => some source
  | .failed _ => none

/-- The messages that are met from an error on when one source after the other is
followed, up to an error that has none. -/
inductive EvalError.Meets : Option EvalError → List String → Prop
  | nothing : Meets none []
  | next {e : EvalError} {messages : List String} : Meets e.source? messages →
      Meets (some e) (e.message :: messages)

namespace EvalError

theorem source?_wrap (message : String) (source : EvalError) :
    (wrap message source).source? = some source := rfl

theorem nest_eq (message : String) (sources : List String) :
    nest message sources = ⟨message, sources⟩ := by
  induction sources generalizing message with
  | nil => rfl
  | cons source sources ih => rw [nest, ih, wrap]

/-- However deep errors are nested, each is met in its turn. -/
theorem meets_nest (message : String) (sources : List String) :
    Meets (some (nest message sources)) (message :: sources) := by
  induction sources generalizing message with
  | nil => exact .next .nothing
  | cons source sources ih =>
    have hsource : (nest message (source :: sources)).source? = some (nest source sources) :=
      source?_wrap message _
    exact .next (by rw [hsource]; exact ih source)

theorem Meets.unique {e : Option EvalError} {messages others : List String}
    (h : Meets e messages) (h' : Meets e others) : others = messages := by
  induction h generalizing others with
  | nothing =>
    cases h'
    rfl
  | next _ ih =>
    cases h' with
    | next h' => rw [ih h']

end EvalError

open EvalError (Meets nest)

namespace AssertError

/-- The chain of an error holds what is met behind it. -/
theorem meets_chain (error : AssertError) : Meets error.source? error.chain := by
  cases error with
  | configuration cause => exact .nothing
  | evaluation mode text source =>
    have hmeets := EvalError.meets_nest source.message source.sources
    rw [EvalError.nest_eq] at hmeets
    exact hmeets
  | failed f => exact .nothing

theorem meets_iff (error : AssertError) {messages : List String} :
    Meets error.source? messages ↔ messages = error.chain := by
  constructor
  · intro h
    exact error.meets_chain.unique h
  · rintro rfl
    exact error.meets_chain

/-- An error that reads like this, and behind which these messages are met, in this
order, and then nothing. -/
structure Reads (error : AssertError) (message : String) (sources : List String) : Prop where
  message_eq : error.message = message
  meets_iff : ∀ messages, Meets error.source? messages ↔ messages = sources

theorem reads_evaluation (mode : Mode) (text message : String) (sources : List String) :
    (AssertError.evaluation mode text (nest message sources)).Reads
      ("error evaluating " ++ mode.name ++ " '" ++ text ++ "': " ++ message)
      (message :: sources) := by
  rw [EvalError.nest_eq]
  exact ⟨rfl, fun messages => AssertError.meets_iff _⟩

end AssertError

/-! ## The error of an evaluation -/

/-- The error of the host in a consultation that broke off. -/
def Consultation.source? : Consultation → Option EvalError
  | .error _ _ cause => some cause
  | _ => none

theorem Consultation.source?_evaluation {reporter : Reporter} {body : String} {c : Consultation}
    {error : AssertError} (h : (c.evaluation reporter body).result = .error error) :
    error.source? = c.source? := by
  cases c with
  | unset =>
    cases h
    rfl
  | error mode text cause =>
    cases h
    rfl
  | holds mode text => cases h
  | fails mode text diagnostic probed =>
    cases h
    rfl

/-- What the host has against an expression, if it does not say whether it is true. -/
def EvalError.ofAnswer? : Except EvalError Bool → Option EvalError
  | .ok _ => none
  | .error e => some e

namespace Engine

section Asking

variable {m : Type → Type} [Monad m] {C E Q V N : Type}

/-- The host is asked whether the expression of an assertion is true. -/
def ask (engine : Engine m C E Q V N) (context : C) : Spec E Q → m (Except EvalError Bool)
  | .test expression => engine.holds expression context
  | .xpath query => engine.booleanValue query context

/-- The rest of a consultation, once the host has answered. -/
def conclude (engine : Engine m C E Q V N) (context : C) :
    Spec E Q → Except EvalError Bool → m Consultation
  | .test expression, .error e => return .error .test (engine.expressionText expression) e
  | .test expression, .ok true => return .holds .test (engine.expressionText expression)
  | .test expression, .ok false => return .fails .test (engine.expressionText expression) none {}
  | .xpath query, .error e => return .error .xpath (engine.text query) e
  | .xpath query, .ok true => return .holds .xpath (engine.text query)
  | .xpath query, .ok false => do
    let (diagnostic, probed) ← engine.diagnose query context
    return .fails .xpath (engine.text query) diagnostic probed

theorem consult_some (engine : Engine m C E Q V N) (spec : Spec E Q) (context : C) :
    engine.consult (some spec) context =
      (do let answer ← engine.ask context spec; engine.conclude context spec answer) := by
  unfold consult ask
  cases spec with
  | test expression =>
    refine bind_congr fun answer => ?_
    rcases answer with e | passed
    · rfl
    · cases passed <;> rfl
  | xpath query =>
    refine bind_congr fun answer => ?_
    rcases answer with e | passed
    · rfl
    · cases passed <;> rfl

/-- A consultation breaks off at an error with the expression itself. -/
theorem conclude_error (engine : Engine m C E Q V N) (context : C) {spec : Spec E Q} {mode : Mode}
    {text : String} (h : engine.Asks (some spec) mode text) (e : EvalError) :
    engine.conclude context spec (.error e) = pure (.error mode text e) := by
  cases spec with
  | test expression =>
    obtain ⟨rfl, rfl⟩ := h
    rfl
  | xpath query =>
    obtain ⟨rfl, rfl⟩ := h
    rfl

end Asking

theorem run_ask {C E Q V N : Type} (engine : Engine Id C E Q V N) (context : C)
    (spec : Spec E Q) : (engine.ask context spec).run = engine.answer context spec := by
  cases spec <;> rfl

section Running

variable {m : Type → Type} [Monad m] {C E Q V N σ : Type} (runner : Runner m σ)

/-- Whatever comes after the answer, only an error in the answer is passed on. -/
theorem source?_conclude (engine : Engine m C E Q V N) (context : C) (spec : Spec E Q)
    (answer : Except EvalError Bool) (s : σ) :
    (runner.run (engine.conclude context spec answer) s).1.source? = EvalError.ofAnswer? answer := by
  rcases answer with e | passed
  · cases spec <;> simp only [conclude, runner.run_pure] <;> rfl
  · cases passed <;> cases spec <;> simp only [conclude, runner.run_bind, runner.run_pure] <;> rfl

theorem source?_consult (engine : Engine m C E Q V N) (spec : Option (Spec E Q)) (context : C)
    (s : σ) :
    (runner.run (engine.consult spec context) s).1.source? =
      spec.bind fun spec => EvalError.ofAnswer? (runner.run (engine.ask context spec) s).1 := by
  cases spec with
  | none =>
    rw [consult, runner.run_pure]
    rfl
  | some spec =>
    rw [consult_some, runner.run_bind]
    exact engine.source?_conclude runner context spec _ _

theorem consult_of_error {engine : Engine m C E Q V N} {spec : Spec E Q} {mode : Mode}
    {text : String} (hasks : engine.Asks (some spec) mode text) {context : C} {s : σ}
    {e : EvalError} (h : (runner.run (engine.ask context spec) s).1 = .error e) :
    (runner.run (engine.consult (some spec) context) s).1 = .error mode text e := by
  rw [consult_some, runner.run_bind, h, conclude_error engine context hasks, runner.run_pure]

/-- Of an error with the probe of a query nothing is kept but that there is one. -/
theorem diagnose_of_unprobed [LawfulMonad m] {engine : Engine m C E Q V N} {query : Q}
    {context : C} {probe : String} (hprobe : Probe.ofQuery? (engine.text query) = some probe)
    {s : σ} {e : EvalError}
    (h : (runner.run (engine.probeValue query probe context) s).1 = .error e) :
    (runner.run (engine.diagnose query context) s).1.1 = some (.unavailable probe) := by
  rw [diagnose_eq_map, hprobe]
  simp only [runner.run_map, h]
  rfl

/-- What is found out about a query starts in the state in which it is found false. -/
theorem consult_of_false {engine : Engine m C E Q V N} {query : Q} {context : C} {s s' : σ}
    (h : runner.run (engine.booleanValue query context) s = (.ok false, s')) :
    (runner.run (engine.consult (some (.xpath query)) context) s).1 =
      .fails .xpath (engine.text query) (runner.run (engine.diagnose query context) s').1.1
        (runner.run (engine.diagnose query context) s').1.2 := by
  unfold consult
  simp only [runner.run_bind, runner.run_pure, h]

end Running

end Engine

namespace Evaluator

/-- The result of one occasion with a host that starts in this state. -/
def resultFrom {C E Q V N σ : Type} (evaluator : Evaluator E Q)
    (engine : Engine (StateM σ) C E Q V N) (s : σ) (occasion : Occasion C) :
    Except AssertError Unit :=
  ((evaluator.evaluate engine occasion).run s).1.result

variable {m : Type → Type} [Monad m] [LawfulMonad m] {C E Q V N σ : Type} (runner : Runner m σ)
  {evaluator : Evaluator E Q} {engine : Engine m C E Q V N} (occasion : Occasion C) {s s' : σ}

theorem result_eq_consult :
    (runner.run (evaluator.evaluate engine occasion) s).1.result =
      (Consultation.evaluation evaluator.reporter occasion.body
        (runner.run (engine.consult evaluator.spec occasion.context) s).1).result := by
  rw [evaluate, Engine.evaluate_eq_consult, runner.run_map]

theorem result_of_error {spec : Spec E Q} (hspec : evaluator.spec = some spec) {mode : Mode}
    {text : String} (hasks : engine.Asks (some spec) mode text) {e : EvalError}
    (h : (runner.run (engine.ask occasion.context spec) s).1 = .error e) :
    (runner.run (evaluator.evaluate engine occasion) s).1.result =
      .error (.evaluation mode text e) := by
  rw [result_eq_consult, hspec, Engine.consult_of_error runner hasks h]
  rfl

theorem result_of_unprobed {query : Q} (hspec : evaluator.spec = some (.xpath query))
    (hfalse : runner.run (engine.booleanValue query occasion.context) s = (.ok false, s'))
    {probe : String} (hprobe : Probe.ofQuery? (engine.text query) = some probe) {e : EvalError}
    (h : (runner.run (engine.probeValue query probe occasion.context) s').1 = .error e) :
    (runner.run (evaluator.evaluate engine occasion) s).1.result =
      .error (.failed ⟨.xpath, engine.text query, occasion.body, some (.unavailable probe)⟩) := by
  rw [result_eq_consult, hspec, Engine.consult_of_false runner hfalse,
    Engine.diagnose_of_unprobed runner hprobe h]
  rfl

/-- Behind the error of an evaluation stands what the host has against the expression. -/
theorem source?_of_result {error : AssertError}
    (h : (runner.run (evaluator.evaluate engine occasion) s).1.result = .error error) :
    error.source? = evaluator.spec.bind fun spec =>
      EvalError.ofAnswer? (runner.run (engine.ask occasion.context spec) s).1 := by
  rw [result_eq_consult] at h
  rw [Consultation.source?_evaluation h, Engine.source?_consult]

end Evaluator

/-- The outcome of an assertion that a host compiles is that of what it is compiled to. -/
theorem Language.runAssertion_of_ok {m : Type → Type} [Monad m] {C E Q V N σ : Type}
    (runner : Runner m σ) {language : Language m C E Q V N} {sink : Sink} {context : C}
    {a : Script.Assertion} {given : Spec String String} (hgiven : a.spec = .ok given) {s s' : σ}
    {spec : Spec E Q} (hcompile : runner.run (language.compileSpec given) s = (.ok spec, s')) :
    (runner.run (language.runAssertion sink context a) s).1.1 =
      .ofResult (runner.run (Evaluator.evaluate ⟨some spec, ⟨sink⟩⟩ language.toEngine
        ⟨context, a.message⟩) s').1.result := by
  unfold runAssertion
  rw [hgiven]
  simp only [runner.run_bind, runner.run_pure, hcompile]
  rfl

/-- Let an error of the host have others nested in it, to any depth. If it is the
answer about the expression itself, the error of the evaluation reads like it, with
the kind and the text of the expression in front, and behind it the messages of all
of them are met in order, and then nothing. A script reports what that error reads
like, without a word of what is nested in it. If it is the error of a probe, the
evaluation fails with a probe that is not available, whatever its messages. Only what
the host answers about the expression is met behind an error, and what is met is the
chain of the error, which is empty behind a failure and behind a wrong configuration.
All that holds as well of a host with a state of its own. -/
theorem the_sources_of_an_error_are_met_behind_it_alone {C E Q V N : Type} (context : C)
    (body message : String) (sources : List String) :
    (∀ (engine : Engine Id C E Q V N) (evaluator : Evaluator E Q) (spec : Spec E Q),
      evaluator.spec = some spec → engine.answer context spec = .error (nest message sources) →
      ∃ error, evaluator.result engine ⟨context, body⟩ = .error error ∧
        error.Reads ("error evaluating " ++ spec.mode.name ++ " '" ++ engine.textOf spec ++
          "': " ++ message) (message :: sources)) ∧
    (∀ (language : Language Id C E Q V N) (sink : Sink) (script : Script) (n : Nat)
      (a : Script.Assertion) (mode : Mode) (text : String) (spec : Spec E Q),
      script.assertions[n]? = some a → a.Asks mode text →
      language.compileAs mode text = .ok spec →
      language.answer context spec = .error (nest message sources) →
      (language.run sink context script).results[n]? =
        some (a.description, .error ("error evaluating " ++ spec.mode.name ++ " '" ++
          language.textOf spec ++ "': " ++ message))) ∧
    (∀ (engine : Engine Id C E Q V N) (evaluator : Evaluator E Q) (query : Q) (probe : String),
      evaluator.spec = some (.xpath query) →
      (engine.booleanValue query context).run = .ok false →
      Probe.ofQuery? (engine.text query) = some probe →
      ((engine.compile probe).run = .error (nest message sources) ∨
        ∃ derived, (engine.derive query probe).run = .ok derived ∧
          (engine.stringValue derived context).run = .error (nest message sources)) →
      evaluator.result engine ⟨context, body⟩ =
        .error (.failed ⟨.xpath, engine.text query, body, some (.unavailable probe)⟩)) ∧
    (∀ (engine : Engine Id C E Q V N) (evaluator : Evaluator E Q) (error : AssertError),
      evaluator.result engine ⟨context, body⟩ = .error error →
      error.source? =
        evaluator.spec.bind fun spec => EvalError.ofAnswer? (engine.answer context spec)) ∧
    (∀ (error : AssertError) (messages : List String),
      Meets error.source? messages ↔ messages = error.chain) ∧
    (∀ f : Failure, (AssertError.failed f).Reads f.display []) ∧
    (∀ cause : ConfigError, (AssertError.configuration cause).Reads cause.message []) ∧
    (∀ (σ : Type) (s : σ),
      (∀ (engine : Engine (StateM σ) C E Q V N) (evaluator : Evaluator E Q) (spec : Spec E Q)
        (mode : Mode) (text : String),
        evaluator.spec = some spec → engine.Asks (some spec) mode text →
        ((engine.ask context spec).run s).1 = .error (nest message sources) →
        ∃ error, evaluator.resultFrom engine s ⟨context, body⟩ = .error error ∧
          error.Reads ("error evaluating " ++ mode.name ++ " '" ++ text ++ "': " ++ message)
            (message :: sources)) ∧
      (∀ (language : Language (StateM σ) C E Q V N) (sink : Sink) (script : Script) (n : Nat)
        (a : Script.Assertion) (given : Spec String String) (s' : σ) (spec : Spec E Q)
        (mode : Mode) (text : String),
        let left := ((language.runAll sink context (script.assertions.take n)).run s).2
        script.assertions[n]? = some a → a.spec = .ok given →
        (language.compileSpec given).run left = (.ok spec, s') →
        language.Asks (some spec) mode text →
        ((language.ask context spec).run s').1 = .error (nest message sources) →
        ((language.runScript sink context script).run s).1.results[n]? =
          some (a.description, .error ("error evaluating " ++ mode.name ++ " '" ++ text ++
            "': " ++ message))) ∧
      (∀ (engine : Engine (StateM σ) C E Q V N) (evaluator : Evaluator E Q) (query : Q)
        (probe : String) (s' : σ),
        evaluator.spec = some (.xpath query) →
        (engine.booleanValue query context).run s = (.ok false, s') →
        Probe.ofQuery? (engine.text query) = some probe →
        ((engine.probeValue query probe context).run s').1 = .error (nest message sources) →
        evaluator.resultFrom engine s ⟨context, body⟩ =
          .error (.failed ⟨.xpath, engine.text query, body, some (.unavailable probe)⟩)) ∧
      (∀ (engine : Engine (StateM σ) C E Q V N) (evaluator : Evaluator E Q)
        (error : AssertError), evaluator.resultFrom engine s ⟨context, body⟩ = .error error →
        error.source? = evaluator.spec.bind fun spec =>
          EvalError.ofAnswer? ((engine.ask context spec).run s).1)) := by
  refine ⟨?_, ?_, ?_, ?_, ?_, ?_, ?_, fun σ s => ⟨?_, ?_, ?_, ?_⟩⟩
  · intro engine evaluator spec hspec hanswer
    exact ⟨_, Evaluator.result_eq_evaluation_iff.mpr ⟨spec, hspec, hanswer, rfl, rfl⟩,
      AssertError.reads_evaluation _ _ message sources⟩
  · intro language sink script n a mode text spec hn hasks hcompile hanswer
    have hcomes : language.ComesOut context a _ := .evaluated hasks hcompile
    have hresult : (language.run sink context script).results[n]? =
        some (a.description, (language.judge sink context a).1) :=
      language.getElem?_results_runAll .ofId sink context hn ()
    rw [hresult, Language.fst_judge_of_comesOut hcomes, Language.ofResult_evaluate, hanswer,
      EvalError.nest_eq]
  · intro engine evaluator query probe hspec hfalse hprobe herror
    exact Evaluator.result_of_unprobed .ofId ⟨context, body⟩ (s := ()) hspec (congrArg (·, ()) hfalse) hprobe
      (Engine.probeValue_eq_error_iff.mpr herror)
  · intro engine evaluator error h
    simp only [← Engine.run_ask]
    exact Evaluator.source?_of_result .ofId ⟨context, body⟩ (s := ()) h
  · intro error messages
    exact error.meets_iff
  · intro f
    exact ⟨rfl, fun messages => AssertError.meets_iff _⟩
  · intro cause
    exact ⟨rfl, fun messages => AssertError.meets_iff _⟩
  · intro engine evaluator spec mode text hspec hasks hanswer
    refine ⟨_, ?_, AssertError.reads_evaluation mode text message sources⟩
    exact Evaluator.result_of_error (.ofState σ) ⟨context, body⟩ hspec hasks hanswer
  · intro language sink script n a given s' spec mode text left hn hgiven hcompile hasks hanswer
    have hresult : ((language.runScript sink context script).run s).1.results[n]? =
        some (a.description, ((language.runAssertion sink context a).run left).1.1) :=
      language.getElem?_results_runAll (.ofState σ) sink context hn s
    have houtcome : ((language.runAssertion sink context a).run left).1.1 =
        .ofResult (Evaluator.resultFrom ⟨some spec, ⟨sink⟩⟩ language.toEngine s'
          ⟨context, a.message⟩) :=
      Language.runAssertion_of_ok (.ofState σ) hgiven hcompile
    have herror : Evaluator.resultFrom ⟨some spec, ⟨sink⟩⟩ language.toEngine s'
        ⟨context, a.message⟩ = .error (.evaluation mode text (nest message sources)) :=
      Evaluator.result_of_error (.ofState σ) ⟨context, a.message⟩ rfl hasks hanswer
    rw [hresult, houtcome, herror, EvalError.nest_eq]
    rfl
  · intro engine evaluator query probe s' hspec hfalse hprobe herror
    exact Evaluator.result_of_unprobed (.ofState σ) ⟨context, body⟩ hspec hfalse hprobe herror
  · intro engine evaluator error h
    exact Evaluator.source?_of_result (.ofState σ) ⟨context, body⟩ h

end Verdict
