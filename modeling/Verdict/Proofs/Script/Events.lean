-- What the log says about evaluations and runs. Main statement: the log of an
-- evaluation can be read off its result. An error leaves nothing in it, a pass one
-- entry, and a failure its own in a fixed order, so that the entries of a run count
-- its outcomes. A host may keep a state of its own; the log does not see it.
import Verdict.Proofs.Evaluation.Reuse
import Verdict.Proofs.Script.Preview

namespace Verdict

/-! ## Entries of the log -/

/-- What is read of an event in the log. -/
structure Entry where
  level : String
  /-- The part of the program that it comes from. -/
  target : String
  message : String
  /-- The named values, in order. -/
  fields : List (String × String)
  deriving DecidableEq, Repr

def Event.entry (e : Event) : Entry := ⟨e.level.name, e.target, e.message, e.fields⟩

def Trail.entries (t : Trail) : List Entry := t.events.map Event.entry

namespace Entry

/-- A run of a script with this many assertions started. -/
def running (script : String) (count : Nat) : Entry :=
  ⟨"DEBUG", "probe_assert::script::runner", "running script",
    [("script", script), ("count", toString count)]⟩

def evaluated : Mode → String → Bool → Entry
  | .test, text, passed => ⟨"DEBUG", "probe_assert::eval", "evaluated test",
      [("expression", text), ("passed", if passed then "true" else "false")]⟩
  | .xpath, text, passed => ⟨"DEBUG", "probe_assert::eval", "evaluated xpath",
      [("query", text), ("passed", if passed then "true" else "false")]⟩

/-- A probe has no value, for the reason of the message. -/
def unprobed (probe message : String) : Entry :=
  ⟨"WARN", "probe_assert::eval", "cannot evaluate probe as string",
    [("probe", probe), ("error", message)]⟩

/-- A line of a sink. -/
def line (text : String) : Entry := ⟨"DEBUG", "probe_assert::diagnostic", text, []⟩

def failed : Mode → String → Entry
  | .test, expression => ⟨"DEBUG", "probe_assert::report", "assertion failed",
      [("mode", "test"), ("expression", expression)]⟩
  | .xpath, expression => ⟨"DEBUG", "probe_assert::report", "assertion failed",
      [("mode", "xpath"), ("expression", expression)]⟩

end Entry

theorem Event.entry_eq (e : Event) :
    e.entry =
      match e with
      | .running script count => .running script count
      | .evaluated mode text passed => .evaluated mode text passed
      | .unprobed probe message => .unprobed probe message
      | .diagnostic text => .line text
      | .failed mode expression => .failed mode expression := by
  cases e with
  | evaluated mode text passed => cases mode <;> cases passed <;> rfl
  | failed mode expression => cases mode <;> rfl
  | _ => rfl

theorem Trail.entries_append (a b : Trail) : (a ++ b).entries = a.entries ++ b.entries := by
  simp [entries]

theorem Trail.entries_ofEvents (events : List Event) :
    (Trail.ofEvents events).entries = events.map Event.entry := rfl

/-- Only a sink that logs leaves an entry of a line that it gets. -/
def Sink.logged (sink : Sink) (text : String) : List Entry :=
  if sink.isLog then [.line text] else []

theorem Reporter.entries_trail (r : Reporter) (f : Failure) :
    (r.trail f).entries =
      f.sinkLine?.toList.flatMap r.sink.logged ++ [.failed f.mode f.expression] := by
  rw [Trail.entries, Reporter.events_trail, List.map_append, List.map_singleton, Event.entry_eq]
  cases f.sinkLine? with
  | none => simp
  | some text =>
    unfold Sink.logged
    split <;> simp [Event.entry_eq, *]

/-! ## The log of one evaluation -/

/-- The log of an evaluation with this sink, by its result. `asked` holds of the
kind and the text of the expression, and `told` of what the host says when it is
asked for the value of a probe. -/
inductive Logs (sink : Sink) (asked : Mode → String → Prop)
    (told : String → Except EvalError String → Prop) :
    Except AssertError Unit → List Entry → Prop
  | configuration {cause : ConfigError} : Logs sink asked told (.error (.configuration cause)) []
  | evaluation {mode : Mode} {text : String} {e : EvalError} :
      Logs sink asked told (.error (.evaluation mode text e)) []
  | passed {mode : Mode} {text : String} : asked mode text →
      Logs sink asked told (.ok ()) [.evaluated mode text true]
  | unprobed {mode : Mode} {text body : String} : asked mode text →
      Logs sink asked told (.error (.failed ⟨mode, text, body, none⟩))
        [.evaluated mode text false, .failed mode text]
  | found {mode : Mode} {text body probe value : String} : asked mode text →
      told probe (.ok value) →
      Logs sink asked told (.error (.failed ⟨mode, text, body, some (.found probe value)⟩))
        (.evaluated mode text false ::
          sink.logged ("**test:assert failed " ++ text ++ " => \"" ++ value ++ "\"") ++
          [.failed mode text])
  | unavailable {mode : Mode} {text body probe : String} {e : EvalError} : asked mode text →
      told probe (.error e) →
      Logs sink asked told (.error (.failed ⟨mode, text, body, some (.unavailable probe)⟩))
        (.evaluated mode text false :: .unprobed probe e.message ::
          sink.logged ("**test:assert failed " ++ probe ++ " cannot evaluate as string") ++
          [.failed mode text])

/-- What became of the probe of a failure, and the entries about it. -/
inductive Probed (told : String → Except EvalError String → Prop) :
    Option Diagnostic → List Entry → Prop
  | unprobed : Probed told none []
  | found {probe value : String} : told probe (.ok value) →
      Probed told (some (.found probe value)) []
  | unavailable {probe : String} {e : EvalError} : told probe (.error e) →
      Probed told (some (.unavailable probe)) [.unprobed probe e.message]

theorem Consultation.entries_evaluation (sink : Sink) (body : String) (c : Consultation) :
    (c.evaluation ⟨sink⟩ body).trail.entries =
      match c with
      | .holds mode text => [.evaluated mode text true]
      | .fails mode text diagnostic probed =>
        .evaluated mode text false :: (probed.entries ++
          ((Failure.sinkLine? ⟨mode, text, body, diagnostic⟩).toList.flatMap sink.logged ++
          [.failed mode text]))
      | _ => [] := by
  cases c with
  | holds mode text =>
    simp only [evaluation, Trail.entries_ofEvents, List.map_cons, List.map_nil, Event.entry_eq]
  | fails mode text diagnostic probed =>
    simp only [evaluation, Trail.entries_append, Trail.entries_ofEvents, Reporter.entries_trail,
      List.map_cons, List.map_nil, Event.entry_eq, List.cons_append, List.nil_append]
  | _ => rfl

/-- What is made of a consultation leaves the log of its result, if the trail of
the probe tells what became of it. -/
theorem Consultation.logs_evaluation {sink : Sink} {asked : Mode → String → Prop}
    {told : String → Except EvalError String → Prop} {body : String} {c : Consultation}
    (h : match c with
      | .holds mode text => asked mode text
      | .fails mode text diagnostic probed =>
        asked mode text ∧ Probed told diagnostic probed.entries
      | _ => True) :
    Logs sink asked told (c.evaluation ⟨sink⟩ body).result
      (c.evaluation ⟨sink⟩ body).trail.entries := by
  rw [entries_evaluation]
  cases c with
  | unset => exact .configuration
  | error mode text cause => exact .evaluation
  | holds mode text => exact .passed h
  | fails mode text diagnostic probed =>
    obtain ⟨hasked, hprobed⟩ := h
    simp only
    generalize probed.entries = entries at hprobed
    cases hprobed with
    | unprobed =>
      rw [Failure.sinkLine?_of_none rfl]
      exact .unprobed hasked
    | found htold =>
      rw [Failure.sinkLine?_of_found rfl, Option.toList_some, List.flatMap_singleton]
      exact .found hasked htold
    | unavailable htold =>
      rw [Failure.sinkLine?_of_unavailable rfl, Option.toList_some, List.flatMap_singleton]
      exact .unavailable hasked htold

namespace Engine

variable {m : Type → Type} [Monad m] {C E Q V N σ : Type}

/-- The kind and the text of the expression of an assertion. -/
def Asks (engine : Engine m C E Q V N) : Option (Spec E Q) → Mode → String → Prop
  | none, _, _ => False
  | some (.test expression), mode, text => mode = .test ∧ text = engine.expressionText expression
  | some (.xpath query), mode, text => mode = .xpath ∧ text = engine.text query

/-- What a host of pure functions says of the value of a probe. -/
def Tells (engine : Engine Id C E Q V N) (context : C) : Option (Spec E Q) → String →
    Except EvalError String → Prop
  | some (.xpath query), probe, value => (engine.probeValue query probe context).run = value
  | _, _, _ => False

/-- A probe has no value because its text does not compile, or because the query
that it compiles to has none. -/
theorem probeValue_eq_error_iff {engine : Engine Id C E Q V N} {query : Q} {probe : String}
    {context : C} {e : EvalError} :
    (engine.probeValue query probe context).run = .error e ↔
      (engine.compile probe).run = .error e ∨
        ∃ derived, (engine.derive query probe).run = .ok derived ∧
          (engine.stringValue derived context).run = .error e := by
  cases hcompile : (engine.compile probe).run with
  | error cause =>
    have hderive : (engine.derive query probe).run = .error cause := by
      change engine.compile probe = .error cause at hcompile
      rw [derive, hcompile]
      rfl
    have hvalue : (engine.probeValue query probe context).run = .error cause := by
      change engine.derive query probe = .error cause at hderive
      rw [probeValue, hderive]
      rfl
    simp [hderive, hvalue]
  | ok target =>
    obtain ⟨derived, hderive⟩ : ∃ derived, (engine.derive query probe).run = .ok derived := by
      change engine.compile probe = .ok target at hcompile
      rw [derive, hcompile]
      exact ⟨_, rfl⟩
    have hvalue : (engine.probeValue query probe context).run =
        (engine.stringValue derived context).run := by
      change engine.derive query probe = .ok derived at hderive
      rw [probeValue, hderive]
      rfl
    simp [hderive, hvalue]

/-- What a host that starts in this state says of the value of a probe, once it
has said that the query is false. -/
def TellsFrom (engine : Engine (StateM σ) C E Q V N) (s : σ) (context : C) :
    Option (Spec E Q) → String → Except EvalError String → Prop
  | some (.xpath query), probe, value =>
    ((engine.probeValue query probe context).run
      ((engine.booleanValue query context).run s).2).1 = value
  | _, _, _ => False

theorem probed_ofValue {told : String → Except EvalError String → Prop} {probe : String}
    {value : Except EvalError String} (h : told probe value) :
    Probed told (some (.ofValue probe value)) (Trail.ofEvents (warning probe value)).entries := by
  cases value with
  | ok value => exact .found h
  | error e => exact .unavailable h

theorem probed_diagnose [LawfulMonad m] (runner : Runner m σ) (engine : Engine m C E Q V N)
    (query : Q) (context : C) (s : σ) {told : String → Except EvalError String → Prop}
    (htold : ∀ probe, told probe (runner.run (engine.probeValue query probe context) s).1) :
    let diagnosed := (runner.run (engine.diagnose query context) s).1
    Probed told diagnosed.1 diagnosed.2.entries := by
  rw [diagnose_eq_map]
  cases Probe.ofQuery? (engine.text query) with
  | none =>
    simp only [runner.run_pure]
    exact .unprobed
  | some probe =>
    simp only [runner.run_map]
    exact probed_ofValue (htold probe)

/-- The state after the first answer is the one in which the probe is asked for. -/
theorem logs_evaluate [LawfulMonad m] (runner : Runner m σ) (engine : Engine m C E Q V N)
    (sink : Sink) (spec : Option (Spec E Q)) (context : C) (body : String) (s : σ)
    (told : String → Except EvalError String → Prop)
    (htold : ∀ query probe, spec = some (.xpath query) →
      told probe (runner.run (engine.probeValue query probe context)
        (runner.run (engine.booleanValue query context) s).2).1) :
    let evaluation := (runner.run (engine.evaluate ⟨sink⟩ spec context body) s).1
    Logs sink (engine.Asks spec) told evaluation.result evaluation.trail.entries := by
  rw [evaluate_eq_consult, runner.run_map]
  refine Consultation.logs_evaluation ?_
  unfold consult
  rcases spec with _ | expression | query
  · rw [runner.run_pure]
    trivial
  · simp only [runner.run_bind]
    rcases (runner.run (engine.holds expression context) s).1 with e | passed
    · simp only [runner.run_pure]
    · cases passed with
      | true =>
        simp only [runner.run_pure]
        exact ⟨rfl, rfl⟩
      | false =>
        simp only [runner.run_pure]
        exact ⟨⟨rfl, rfl⟩, .unprobed⟩
  · simp only [runner.run_bind]
    rcases (runner.run (engine.booleanValue query context) s).1 with e | passed
    · simp only [runner.run_pure]
    · cases passed with
      | true =>
        simp only [runner.run_pure]
        exact ⟨rfl, rfl⟩
      | false =>
        simp only [runner.run_bind, runner.run_pure]
        exact ⟨⟨rfl, rfl⟩, engine.probed_diagnose runner query context _ fun probe =>
          htold query probe rfl⟩

end Engine

/-! ## Counting -/

def Outcome.isPass : Outcome → Bool
  | .pass => true
  | _ => false

namespace Entry

def isEvaluated (e : Entry) : Bool :=
  e.message == "evaluated test" || e.message == "evaluated xpath"

/-- An expression was evaluated and is false. -/
def isRefuted (e : Entry) : Bool := e.isEvaluated && e.fields.contains ("passed", "false")

def isFailed (e : Entry) : Bool := e.message == "assertion failed"

end Entry

/-- The entries count the outcomes. -/
structure Tallies (outcomes : List Outcome) (entries : List Entry) : Prop where
  evaluated : entries.countP Entry.isEvaluated = outcomes.countP fun o => o.isPass || o.isFail
  refuted : entries.countP Entry.isRefuted = outcomes.countP Outcome.isFail
  failed : entries.countP Entry.isFailed = outcomes.countP Outcome.isFail

namespace Tallies

theorem nil : Tallies [] [] := ⟨rfl, rfl, rfl⟩

theorem error (reason : String) : Tallies [.error reason] [] := ⟨rfl, rfl, rfl⟩

theorem pass (mode : Mode) (text : String) : Tallies [.pass] [.evaluated mode text true] := by
  cases mode <;> exact ⟨rfl, rfl, rfl⟩

theorem nil_running (script : String) (count : Nat) : Tallies [] [.running script count] :=
  ⟨rfl, rfl, rfl⟩

theorem nil_unprobed (probe message : String) : Tallies [] [.unprobed probe message] :=
  ⟨rfl, rfl, rfl⟩

theorem append {outcomes outcomes' : List Outcome} {entries entries' : List Entry}
    (h : Tallies outcomes entries) (h' : Tallies outcomes' entries') :
    Tallies (outcomes ++ outcomes') (entries ++ entries') := by
  constructor
  · rw [List.countP_append, List.countP_append, h.evaluated, h'.evaluated]
  · rw [List.countP_append, List.countP_append, h.refuted, h'.refuted]
  · rw [List.countP_append, List.countP_append, h.failed, h'.failed]

/-- A line of a sink is told from the other messages by its first character. -/
theorem nil_logged (sink : Sink) {text : String} (h : text.toList.head? = some '*') :
    Tallies [] (sink.logged text) := by
  have hne : ∀ message : String, message.toList.head? ≠ some '*' → (text == message) = false := by
    intro message hmessage
    refine beq_eq_false_iff_ne.mpr fun heq => hmessage ?_
    rw [← heq, h]
  have hevaluated : (Entry.line text).isEvaluated = false := by
    rw [Entry.isEvaluated, Entry.line, hne _ (by decide), hne _ (by decide), Bool.or_false]
  have hfailed : (Entry.line text).isFailed = false := hne _ (by decide)
  unfold Sink.logged
  split
  · constructor
    · simp [hevaluated]
    · simp [Entry.isRefuted, hevaluated]
    · simp [hfailed]
  · exact nil

/-- A failure counts by its first and its last entry. -/
theorem fail (mode : Mode) (text reason : String) {entries : List Entry}
    (h : Tallies [] entries) :
    Tallies [.fail reason] (.evaluated mode text false :: entries ++ [.failed mode text]) := by
  have hfirst : ∀ p, List.countP p entries = 0 →
      (Entry.evaluated mode text false :: entries ++ [Entry.failed mode text]).countP p =
        [Entry.evaluated mode text false, Entry.failed mode text].countP p := by
    intro p hp
    simp only [List.cons_append, List.countP_cons, List.countP_append, hp, Nat.zero_add]
  constructor
  · rw [hfirst _ h.evaluated]
    cases mode <;> rfl
  · rw [hfirst _ h.refuted]
    cases mode <;> rfl
  · rw [hfirst _ h.failed]
    cases mode <;> rfl

end Tallies

theorem Logs.tallies {sink : Sink} {asked : Mode → String → Prop}
    {told : String → Except EvalError String → Prop} {result : Except AssertError Unit}
    {entries : List Entry} (h : Logs sink asked told result entries) :
    Tallies [.ofResult result] entries := by
  have hlogged : ∀ text, Tallies [] (sink.logged ("**test:assert failed " ++ text)) := by
    intro text
    exact .nil_logged sink (by rw [String.toList_append]; rfl)
  cases h with
  | configuration => exact .error _
  | evaluation => exact .error _
  | passed _ => exact .pass _ _
  | unprobed _ => exact .fail _ _ _ .nil
  | found _ _ =>
    refine .fail _ _ _ ?_
    rw [String.append_assoc, String.append_assoc, String.append_assoc]
    exact hlogged _
  | unavailable _ _ =>
    refine .fail _ _ _ ((Tallies.nil_unprobed _ _).append ?_)
    rw [String.append_assoc]
    exact hlogged _

namespace Language

variable {m : Type → Type} [Monad m] [LawfulMonad m] {C E Q V N σ : Type}

theorem tallies_runAssertion (runner : Runner m σ) (language : Language m C E Q V N)
    (sink : Sink) (context : C) (a : Script.Assertion) (s : σ) :
    let judged := (runner.run (language.runAssertion sink context a) s).1
    Tallies [judged.1] judged.2.entries := by
  unfold runAssertion
  cases a.spec with
  | error e =>
    simp only [runner.run_pure]
    exact .error _
  | ok texts =>
    simp only [runner.run_bind]
    rcases (runner.run (language.compileSpec texts) s).1 with reason | spec
    · simp only [runner.run_pure]
      exact .error _
    · simp only [runner.run_bind, runner.run_pure]
      have hlogs := language.logs_evaluate runner sink (some spec) context a.message
        (runner.run (language.compileSpec texts) s).2 (fun _ _ => True) fun _ _ _ => trivial
      exact hlogs.tallies

/-- Each assertion is run in the state that those before it leave. -/
theorem tallies_runAll (runner : Runner m σ) (language : Language m C E Q V N) (sink : Sink)
    (context : C) (assertions : List Script.Assertion) (s : σ) :
    let run := (runner.run (language.runAll sink context assertions) s).1
    Tallies (run.results.map Prod.snd) run.trail.entries := by
  induction assertions generalizing s with
  | nil =>
    simp only [runAll, runner.run_pure]
    exact .nil
  | cons a as ih =>
    simp only [runAll, runner.run_bind, runner.run_pure, Trail.entries_append, List.map_cons]
    exact (language.tallies_runAssertion runner sink context a s).append (ih _)

end Language

/-! ## The log of a run -/

/-- The log of a run starts with the run itself, and counts its outcomes. -/
structure Run.IsLogged (run : Run) (script : Script) : Prop where
  starts : run.trail.entries.head? = some (.running script.name script.assertions.length)
  tallies : Tallies (run.results.map Prod.snd) run.trail.entries

theorem Language.isLogged_runScript {m : Type → Type} [Monad m] [LawfulMonad m]
    {C E Q V N σ : Type} (runner : Runner m σ) (language : Language m C E Q V N) (sink : Sink)
    (context : C) (script : Script) (s : σ) :
    (runner.run (language.runScript sink context script) s).1.IsLogged script := by
  have hcounts := language.tallies_runAll runner sink context script.assertions s
  simp only [runScript, runner.run_bind, runner.run_pure]
  constructor
  · rw [Trail.entries_append, Trail.entries_ofEvents, List.map_singleton, Event.entry_eq]
    rfl
  · rw [Trail.entries_append, Trail.entries_ofEvents, List.map_singleton, Event.entry_eq]
    exact (Tallies.nil_running _ _).append hcounts

/-- Of an evaluation with this sink the log holds nothing if the result is an
error; the passed expression if it is a pass; and if it is a failure, the refuted
expression, a warning if the diagnostic has no value, the line of the diagnostic
if the sink is the log, and the failure. The warning says why the host had no
value for the probe: it did not compile or has no text. So the log of a run,
which starts with the run and the number of its assertions, has an entry for each
pass or failure that an expression was evaluated, and entries for each failure
that it was false and that the assertion failed. All that holds as well of a host
with a state of its own. -/
theorem the_log_tells_the_outcomes {C E Q V N : Type} (sink : Sink) (context : C) :
    (∀ (engine : Engine Id C E Q V N) (spec : Option (Spec E Q)) (body : String),
      let evaluation := (Evaluator.evaluate ⟨spec, ⟨sink⟩⟩ engine ⟨context, body⟩).run
      Logs sink (engine.Asks spec) (engine.Tells context spec)
        evaluation.result evaluation.trail.entries) ∧
    (∀ (engine : Engine Id C E Q V N) (query : Q) (probe : String) (e : EvalError),
      engine.Tells context (some (.xpath query) : Option (Spec E Q)) probe (.error e) ↔
        (engine.compile probe).run = .error e ∨
          ∃ derived, (engine.derive query probe).run = .ok derived ∧
            (engine.stringValue derived context).run = .error e) ∧
    (∀ (language : Language Id C E Q V N) (script : Script),
      (language.run sink context script).IsLogged script) ∧
    (∀ (σ : Type) (s : σ),
      (∀ (engine : Engine (StateM σ) C E Q V N) (spec : Option (Spec E Q)) (body : String),
        let evaluation := ((Evaluator.evaluate ⟨spec, ⟨sink⟩⟩ engine ⟨context, body⟩).run s).1
        Logs sink (engine.Asks spec) (engine.TellsFrom s context spec)
          evaluation.result evaluation.trail.entries) ∧
      (∀ (language : Language (StateM σ) C E Q V N) (script : Script),
        ((language.runScript sink context script).run s).1.IsLogged script)) := by
  refine ⟨?_, ?_, ?_, fun σ s => ⟨?_, ?_⟩⟩
  · intro engine spec body
    refine engine.logs_evaluate .ofId sink spec context body () _ ?_
    rintro query probe rfl
    rfl
  · intro engine query probe e
    exact Engine.probeValue_eq_error_iff
  · intro language script
    exact language.isLogged_runScript .ofId sink context script ()
  · intro engine spec body
    refine engine.logs_evaluate (.ofState σ) sink spec context body s _ ?_
    rintro query probe rfl
    rfl
  · intro language script
    exact language.isLogged_runScript (.ofState σ) sink context script s

/-- Of a query whose probe does not compile the log tells why before it tells of
the failure, and of a script with a query whose probe has a value, a flag and an
assertion without a text it tells of the first two. -/
theorem a_probe_that_does_not_compile_is_warned_of :
    let query : PathQuery := ⟨"a != 'v'", .path "a", some ⟨true, "v"⟩, none, none⟩
    let evaluation := (Evaluator.evaluate ⟨some (.xpath query), ⟨.boxed .log⟩⟩ PathQuery.engine
      ⟨[("a", "v")], "m"⟩).run
    let script : Script := ⟨"s", [{ xpath := some "a = 'x'" }, { test := some "true" }, {}]⟩
    let run := (PathQuery.language [] [] []).run (.boxed .log) [("a", "v")] script
    evaluation.trail.entries =
      [⟨"DEBUG", "probe_assert::eval", "evaluated xpath",
          [("query", "a != 'v'"), ("passed", "false")]⟩,
        ⟨"WARN", "probe_assert::eval", "cannot evaluate probe as string",
          [("probe", "a !"), ("error", "unexpected token 'a !'")]⟩,
        ⟨"DEBUG", "probe_assert::diagnostic",
          "**test:assert failed a ! cannot evaluate as string", []⟩,
        ⟨"DEBUG", "probe_assert::report", "assertion failed",
          [("mode", "xpath"), ("expression", "a != 'v'")]⟩] ∧
    run.trail.entries =
      [⟨"DEBUG", "probe_assert::script::runner", "running script",
          [("script", "s"), ("count", "3")]⟩,
        ⟨"DEBUG", "probe_assert::eval", "evaluated xpath",
          [("query", "a = 'x'"), ("passed", "false")]⟩,
        ⟨"DEBUG", "probe_assert::diagnostic", "**test:assert failed a = 'x' => \"v\"", []⟩,
        ⟨"DEBUG", "probe_assert::report", "assertion failed",
          [("mode", "xpath"), ("expression", "a = 'x'")]⟩,
        ⟨"DEBUG", "probe_assert::eval", "evaluated test",
          [("expression", "true"), ("passed", "true")]⟩] ∧
    run.IsLogged script := by
  intro query evaluation script run
  obtain ⟨hlogs, -, hlogged, -⟩ := the_log_tells_the_outcomes (E := Flag) (Q := PathQuery)
    (V := Bindings) (N := Bindings) (.boxed .log) [("a", "v")]
  have hlog := hlogs PathQuery.engine (some (.xpath query)) "m"
  have hresult : evaluation.result =
      .error (.failed ⟨.xpath, "a != 'v'", "m", some (.unavailable "a !")⟩) := by
    decide +kernel
  have hvalue : (PathQuery.engine.probeValue query "a !" [("a", "v")]).run =
      .error (.plain "unexpected token 'a !'") := by
    decide +kernel
  refine ⟨?_, by decide +kernel, hlogged (PathQuery.language [] [] []) script⟩
  change Logs _ _ _ evaluation.result evaluation.trail.entries at hlog
  rw [hresult] at hlog
  generalize evaluation.trail.entries = entries at hlog ⊢
  cases hlog with
  | unavailable _ htold =>
    rw [Engine.Tells, hvalue] at htold
    cases htold
    rfl

end Verdict
