-- An evaluator that is used again and again. Main statement: each occasion
-- gives what it would give alone, whatever the sink, and neither the sink nor
-- the body of the failure message has a part in what the host is asked. That
-- is so because an evaluation is a consultation of the host, which knows
-- neither, and something made of it afterwards.
import Verdict.Proofs.Evaluation.Trail

namespace Verdict

/-! ## Consulting a host -/

/-- What a host says about the expression of an assertion. -/
inductive Consultation where
  /-- There is no expression. -/
  | unset
  | error (mode : Mode) (text : String) (cause : EvalError)
  | holds (mode : Mode) (text : String)
  /-- With what was found out about the probe, and the trail of that. -/
  | fails (mode : Mode) (text : String) (diagnostic : Option Diagnostic) (probed : Trail)

/-- What is made of a consultation. Only here do the reporter and the body come in. -/
def Consultation.evaluation (reporter : Reporter) (body : String) : Consultation → Evaluation
  | .unset => .error (.configuration .missing)
  | .error mode text cause => .error (.evaluation mode text cause)
  | .holds mode text => ⟨.ok (), .ofEvents [.evaluated mode text true]⟩
  | .fails mode text diagnostic probed =>
    ⟨.error (.failed ⟨mode, text, body, diagnostic⟩),
      .ofEvents [.evaluated mode text false] ++ probed ++
        reporter.trail ⟨mode, text, body, diagnostic⟩⟩

namespace Engine

variable {m : Type → Type} [Monad m] {C E Q V N : Type}

def consult (engine : Engine m C E Q V N) (spec : Option (Spec E Q)) (context : C) :
    m Consultation :=
  match spec with
  | none => return .unset
  | some (.test expression) => do
    let text := engine.expressionText expression
    match ← engine.holds expression context with
    | .error e => return .error .test text e
    | .ok true => return .holds .test text
    | .ok false => return .fails .test text none {}
  | some (.xpath query) => do
    let text := engine.text query
    match ← engine.booleanValue query context with
    | .error e => return .error .xpath text e
    | .ok true => return .holds .xpath text
    | .ok false =>
      let (diagnostic, probed) ← engine.diagnose query context
      return .fails .xpath text diagnostic probed

/-- An evaluation is a consultation, and nothing more is asked of the host. -/
theorem evaluate_eq_consult [LawfulMonad m] (engine : Engine m C E Q V N) (reporter : Reporter)
    (spec : Option (Spec E Q)) (context : C) (body : String) :
    engine.evaluate reporter spec context body =
      Consultation.evaluation reporter body <$> engine.consult spec context := by
  unfold evaluate consult
  rcases spec with _ | expression | query
  · simp only [map_pure]
    rfl
  · simp only [evaluateTest]
    rw [map_bind]
    refine bind_congr fun answer => ?_
    rcases answer with e | passed
    · simp only [map_pure]
      rfl
    · cases passed with
      | true => simp only [map_pure, Consultation.evaluation]
      | false => simp only [map_pure, Consultation.evaluation, Reporter.raise, Trail.append_empty]
  · simp only [evaluateQuery]
    rw [map_bind]
    refine bind_congr fun answer => ?_
    rcases answer with e | passed
    · simp only [map_pure]
      rfl
    · cases passed with
      | true => simp only [map_pure, Consultation.evaluation]
      | false =>
        simp only
        rw [map_bind]
        refine bind_congr fun diagnosed => ?_
        simp only [map_pure, Consultation.evaluation, Reporter.raise]

end Engine

/-! ## Running a host -/

/-- How the operations of a host are run from a state: each gives a value and
leaves a state, and the next one starts in it. -/
structure Runner (m : Type → Type) [Monad m] (σ : Type) where
  run : {α : Type} → m α → σ → α × σ
  run_pure : ∀ {α : Type} (a : α) (s : σ), run (pure a) s = (a, s)
  run_bind : ∀ {α β : Type} (x : m α) (f : α → m β) (s : σ),
    run (x >>= f) s = run (f (run x s).1) (run x s).2

namespace Runner

/-- Nothing is left of what a host of pure functions was asked. -/
def ofId : Runner Id Unit where
  run x _ := (x.run, ())
  run_pure _ _ := rfl
  run_bind _ _ _ := rfl

def ofState (σ : Type) : Runner (StateM σ) σ where
  run x s := x.run s
  run_pure _ _ := rfl
  run_bind _ _ _ := rfl

theorem run_map {m : Type → Type} [Monad m] [LawfulMonad m] {σ : Type} (runner : Runner m σ)
    {α β : Type} (f : α → β) (x : m α) (s : σ) :
    runner.run (f <$> x) s = (f (runner.run x s).1, (runner.run x s).2) := by
  rw [map_eq_pure_bind, runner.run_bind, runner.run_pure]

end Runner

namespace Evaluator

variable {C E Q V N : Type}

/-- The consultations of many occasions may all come first: what is made of each of
them moves behind the others. -/
theorem evaluateAll_eq_consult {m : Type → Type} [Monad m] [LawfulMonad m]
    (evaluator : Evaluator E Q) (engine : Engine m C E Q V N) (occasions : List (Occasion C)) :
    evaluator.evaluateAll engine occasions =
      List.zipWith (Consultation.evaluation evaluator.reporter) (occasions.map Occasion.body) <$>
        (occasions.map Occasion.context).mapM (engine.consult evaluator.spec) := by
  induction occasions with
  | nil => simp only [evaluateAll, List.map_nil, List.mapM_nil, map_pure, List.zipWith_nil_left]
  | cons occasion occasions ih =>
    simp only [evaluateAll, List.map_cons, List.mapM_cons, map_bind, map_pure,
      List.zipWith_cons_cons]
    rw [evaluate, Engine.evaluate_eq_consult, bind_map_left]
    refine bind_congr fun first => ?_
    rw [ih, bind_map_left]

theorem evaluateAll_run (evaluator : Evaluator E Q) (engine : Engine Id C E Q V N)
    (occasions : List (Occasion C)) :
    (evaluator.evaluateAll engine occasions).run =
      occasions.map fun occasion => (evaluator.evaluate engine occasion).run := by
  induction occasions with
  | nil => rfl
  | cons occasion occasions ih =>
    rw [List.map_cons, ← ih]
    rfl

end Evaluator

/-! ## The sink -/

/-- A line of the sink that went to the log. -/
def Event.isDiagnostic : Event → Bool
  | .diagnostic _ => true
  | _ => false

/-- The result of an evaluation, and the events that are no lines of the sink. -/
def Evaluation.besideSink (e : Evaluation) : Except AssertError Unit × List Event :=
  (e.result, e.trail.events.filter fun event => !event.isDiagnostic)

/-- Only a sink that logs adds events, and those are the ones left out. -/
theorem Reporter.filter_events_trail (r : Reporter) (f : Failure) :
    ((r.trail f).events.filter fun event => !event.isDiagnostic) =
      [.failed f.mode f.expression] := by
  rw [Reporter.events_trail, List.filter_append]
  have hnone : ((if r.sink.isLog then f.sinkLine?.toList.map Event.diagnostic else []).filter
      fun event => !event.isDiagnostic) = [] := by
    split
    · simp [Event.isDiagnostic]
    · rfl
  rw [hnone]
  rfl

theorem Consultation.besideSink_evaluation (reporter other : Reporter) (body : String)
    (c : Consultation) :
    (c.evaluation reporter body).besideSink = (c.evaluation other body).besideSink := by
  cases c with
  | fails mode text diagnostic probed =>
    simp only [Evaluation.besideSink, Consultation.evaluation, Trail.events_append,
      List.filter_append, Reporter.filter_events_trail]
  | _ => rfl

/-- The lines for the sink in a result: that of a failure with a diagnostic. -/
def sinkLines : Except AssertError Unit → List String
  | .error (.failed f) => f.sinkLine?.toList
  | _ => []

/-- The lines in memory after an evaluation that starts with `lines` in memory. -/
def Evaluation.remember (lines : List String) (e : Evaluation) : List String :=
  lines ++ e.trail.kept

theorem Evaluation.foldl_remember (lines : List String) (evaluations : List Evaluation) :
    evaluations.foldl Evaluation.remember lines =
      lines ++ evaluations.flatMap fun e => e.trail.kept := by
  induction evaluations generalizing lines with
  | nil => simp
  | cons e evaluations ih =>
    rw [List.foldl_cons, ih, remember, List.flatMap_cons, List.append_assoc]

namespace Evaluator

variable {C E Q V N : Type}

theorem kept_evaluate (evaluator : Evaluator E Q) (engine : Engine Id C E Q V N)
    (occasion : Occasion C) :
    (evaluator.evaluate engine occasion).run.trail.kept =
      if evaluator.reporter.sink.isMemory then sinkLines (evaluator.result engine occasion)
      else [] := by
  unfold result evaluate
  cases evaluator.spec with
  | none => exact (ite_self _).symm
  | some spec =>
    rw [Engine.evaluate_some, Engine.kept_settle]
    rcases engine.answer occasion.context spec with e | passed
    · exact (ite_self _).symm
    · cases passed with
      | true => exact (ite_self _).symm
      | false => rfl

/-- The results of an evaluator on a list of occasions, in order. -/
def results (evaluator : Evaluator E Q) (engine : Engine Id C E Q V N)
    (occasions : List (Occasion C)) : List (Except AssertError Unit) :=
  (evaluator.evaluateAll engine occasions).run.map Evaluation.result

theorem results_eq_map (evaluator : Evaluator E Q) (engine : Engine Id C E Q V N)
    (occasions : List (Occasion C)) :
    evaluator.results engine occasions = occasions.map (evaluator.result engine) := by
  rw [results, evaluateAll_run, List.map_map]
  rfl

theorem result_reporter (engine : Engine Id C E Q V N) (spec : Option (Spec E Q))
    (reporter other : Reporter) (occasion : Occasion C) :
    Evaluator.result ⟨spec, reporter⟩ engine occasion =
      Evaluator.result ⟨spec, other⟩ engine occasion := by
  have h := Consultation.besideSink_evaluation reporter other occasion.body
    (engine.consult spec occasion.context).run
  unfold result evaluate
  rw [Engine.evaluate_eq_consult, Engine.evaluate_eq_consult]
  exact congrArg Prod.fst h

/-- Whatever effects the operations of the host have, another sink has no effect
on them. -/
theorem besideSink_evaluateAll {m : Type → Type} [Monad m] [LawfulMonad m]
    (engine : Engine m C E Q V N) (spec : Option (Spec E Q)) (reporter other : Reporter)
    (occasions : List (Occasion C)) :
    List.map Evaluation.besideSink <$> Evaluator.evaluateAll ⟨spec, reporter⟩ engine occasions =
      List.map Evaluation.besideSink <$> Evaluator.evaluateAll ⟨spec, other⟩ engine occasions := by
  rw [evaluateAll_eq_consult, evaluateAll_eq_consult, Functor.map_map, Functor.map_map]
  congr 1
  funext consultations
  rw [List.map_zipWith, List.map_zipWith]
  congr 1
  funext body c
  exact c.besideSink_evaluation reporter other body

end Evaluator

/-! ## The body -/

def Failure.withBody (body : String) (f : Failure) : Failure := { f with body }

def AssertError.withBody (body : String) : AssertError → AssertError
  | .configuration cause => .configuration cause
  | .evaluation mode expression cause => .evaluation mode expression cause
  | .failed f => .failed (f.withBody body)

/-- The same evaluation, with another body in the failure if it is one. -/
def Evaluation.withBody (body : String) (e : Evaluation) : Evaluation :=
  { e with result := e.result.mapError (AssertError.withBody body) }

theorem Consultation.withBody_evaluation (reporter : Reporter) (body other : String)
    (c : Consultation) :
    (c.evaluation reporter body).withBody other = c.evaluation reporter other := by
  cases c <;> rfl

/-- Occasions, each with another body than its own. -/
def rebodied {C : Type} (changes : List (Occasion C × String)) : List (Occasion C) :=
  changes.map fun change => { change.1 with body := change.2 }

theorem zipWith_withBody {C : Type} (reporter : Reporter) (changes : List (Occasion C × String))
    (consultations : List Consultation) :
    List.zipWith Evaluation.withBody (changes.map Prod.snd)
        (List.zipWith (Consultation.evaluation reporter)
          ((changes.map Prod.fst).map Occasion.body) consultations) =
      List.zipWith (Consultation.evaluation reporter) (changes.map Prod.snd) consultations := by
  induction changes generalizing consultations with
  | nil => rfl
  | cons change changes ih =>
    cases consultations with
    | nil => rfl
    | cons c consultations =>
      simp only [List.map_cons, List.zipWith_cons_cons, ih, Consultation.withBody_evaluation]

/-- Whatever effects the operations of the host have, other bodies have no effect
on them. -/
theorem Evaluator.evaluateAll_rebodied {m : Type → Type} [Monad m] [LawfulMonad m]
    {C E Q V N : Type} (evaluator : Evaluator E Q) (engine : Engine m C E Q V N)
    (changes : List (Occasion C × String)) :
    evaluator.evaluateAll engine (rebodied changes) =
      List.zipWith Evaluation.withBody (changes.map Prod.snd) <$>
        evaluator.evaluateAll engine (changes.map Prod.fst) := by
  have hcontexts : (rebodied changes).map Occasion.context =
      (changes.map Prod.fst).map Occasion.context := by
    simp [rebodied]
  have hbodies : (rebodied changes).map Occasion.body = changes.map Prod.snd := by
    simp [rebodied]
  rw [evaluateAll_eq_consult, evaluateAll_eq_consult, Functor.map_map, hcontexts, hbodies]
  congr 1
  funext consultations
  exact (zipWith_withBody evaluator.reporter changes consultations).symm

/-! ## Many occasions -/

/-- Each occasion gives what a new evaluator gives on it alone, with any sink or
none, so that the results follow the occasions through any choice and order of
them. The lines in memory grow by those that each occasion gives alone. Another
sink is seen neither by the host nor in the log, its own lines apart, and other
bodies change the bodies in the failures and nothing else, not even what a host
is asked that keeps account of it. -/
theorem Evaluator.an_evaluator_keeps_nothing_between_occasions {C E Q V N : Type}
    (engine : Engine Id C E Q V N) (spec : Option (Spec E Q)) (sink : Sink)
    (occasions : List (Occasion C)) :
    (∀ other : Sink, Evaluator.results ⟨spec, ⟨sink⟩⟩ engine occasions =
      occasions.map (Evaluator.result ⟨spec, ⟨other⟩⟩ engine)) ∧
    (Evaluator.results ⟨spec, ⟨sink⟩⟩ engine occasions =
      occasions.map fun occasion => (Verdict.evaluate engine spec occasion).run.result) ∧
    (∀ order : List Nat,
      Evaluator.results ⟨spec, ⟨sink⟩⟩ engine (order.filterMap (occasions[·]?)) =
        order.filterMap ((Evaluator.results ⟨spec, ⟨sink⟩⟩ engine occasions)[·]?)) ∧
    (∀ lines : List String,
      (Evaluator.evaluateAll ⟨spec, ⟨sink⟩⟩ engine occasions).run.foldl Evaluation.remember lines =
        lines ++ occasions.flatMap fun occasion =>
          (Evaluator.evaluate ⟨spec, ⟨sink⟩⟩ engine occasion).run.trail.kept) ∧
    (∀ occasion : Occasion C,
      (Evaluator.evaluate ⟨spec, ⟨sink⟩⟩ engine occasion).run.trail.kept =
        if sink.isMemory then sinkLines (Verdict.evaluate engine spec occasion).run.result
        else []) ∧
    (∀ (σ : Type) (host : Engine (StateM σ) C E Q V N) (other : Sink) (s : σ),
      let run := (Evaluator.evaluateAll ⟨spec, ⟨sink⟩⟩ host occasions).run s
      let run' := (Evaluator.evaluateAll ⟨spec, ⟨other⟩⟩ host occasions).run s
      run'.1.map Evaluation.besideSink = run.1.map Evaluation.besideSink ∧ run'.2 = run.2) ∧
    (∀ changes : List (Occasion C × String),
      (Evaluator.evaluateAll ⟨spec, ⟨sink⟩⟩ engine (rebodied changes)).run =
        List.zipWith Evaluation.withBody (changes.map Prod.snd)
          (Evaluator.evaluateAll ⟨spec, ⟨sink⟩⟩ engine (changes.map Prod.fst)).run) ∧
    (∀ (σ : Type) (host : Engine (StateM σ) C E Q V N) (changes : List (Occasion C × String))
      (s : σ),
      let run := (Evaluator.evaluateAll ⟨spec, ⟨sink⟩⟩ host (changes.map Prod.fst)).run s
      let run' := (Evaluator.evaluateAll ⟨spec, ⟨sink⟩⟩ host (rebodied changes)).run s
      run'.1 = List.zipWith Evaluation.withBody (changes.map Prod.snd) run.1 ∧
        run'.2 = run.2) := by
  have halone : ∀ other : Sink, Evaluator.results ⟨spec, ⟨sink⟩⟩ engine occasions =
      occasions.map (Evaluator.result ⟨spec, ⟨other⟩⟩ engine) := by
    intro other
    rw [results_eq_map]
    refine List.map_congr_left fun occasion _ => ?_
    exact result_reporter engine spec _ _ occasion
  refine ⟨halone, halone .discard, ?_, ?_, ?_, ?_, ?_, ?_⟩
  · intro order
    simp only [results_eq_map, List.map_filterMap, List.getElem?_map]
  · intro lines
    rw [Evaluation.foldl_remember, evaluateAll_run, List.flatMap_map]
  · intro occasion
    rw [kept_evaluate, result_reporter engine spec _ {} occasion]
    rfl
  · intro σ host other s
    have h := congrArg (fun computation => StateT.run computation s)
      (besideSink_evaluateAll host spec ⟨other⟩ ⟨sink⟩ occasions)
    simp only [StateT.run_map] at h
    exact Prod.ext_iff.mp h
  · intro changes
    rw [evaluateAll_rebodied]
    rfl
  · intro σ host changes s
    have h := congrArg (fun computation => StateT.run computation s)
      (evaluateAll_rebodied ⟨spec, ⟨sink⟩⟩ host changes)
    simp only [StateT.run_map] at h
    exact Prod.ext_iff.mp h

end Verdict
