-- What a host is asked. Main statement: the account of the recording host over
-- any number of occasions is exactly the calls that the assertion needs, one
-- occasion after the other: a query is asked for its truth, and only if it is
-- false one probe of its canonical text is compiled, given the bindings that
-- the query has, and asked for its text.
import Verdict.Proofs.Evaluation.Outcome
import Verdict.Proofs.Probe.Comparison
import Verdict.Recorder

namespace Verdict.Recorder

/-! ## Recordings -/

/-- The recording gives this value and adds these calls to any account. -/
def Makes {α : Type} (recording : Recording α) (value : α) (calls : List Call) : Prop :=
  ∀ made, recording.run made = (value, made ++ calls)

theorem Makes.pure {α : Type} (value : α) : Makes (Pure.pure value) value [] := by
  intro made
  rw [List.append_nil]
  rfl

theorem Makes.bind {α β : Type} {recording : Recording α} {next : α → Recording β} {a : α} {b : β}
    {calls more : List Call} (h : Makes recording a calls) (hnext : Makes (next a) b more) :
    Makes (recording >>= next) b (calls ++ more) := by
  intro made
  rw [StateT.run_bind, h made]
  change (next a).run (made ++ calls) = _
  rw [hnext, List.append_assoc]

theorem Makes.bind_pure {α β : Type} {recording : Recording α} {a : α} {calls : List Call}
    (h : Makes recording a calls) (f : α → β) :
    Makes (recording >>= fun a => Pure.pure (f a)) (f a) calls := by
  rw [← List.append_nil calls]
  exact h.bind (Makes.pure _)

theorem Makes.record (call : Call) : Makes (Recorder.record call) () [call] := by
  intro made
  rfl

/-! ## The calls that an assertion needs -/

/-- The calls that hand on the bindings of a query, as far as it has any. -/
def bindingCalls (source : Query) (text : String) : List Call :=
  source.variableBindings.toList.map (.setVariables text) ++
    source.namespaceBindings.toList.map (.setNamespaces text)

/-- The calls for a probe of a query: nothing more once it does not compile. -/
def probeCalls (dialect : Dialect) (query : Query) (probe : String) : List Call :=
  .compile probe ::
    match dialect.compile probe with
    | .error _ => []
    | .ok _ => bindingCalls query probe ++ [.string probe]

/-- The calls for an assertion on one occasion. -/
def neededCalls (dialect : Dialect) (answers : Answers) : Option (Spec Expression Query) → List Call
  | none => []
  | some (.test text) => [.expression text]
  | some (.xpath query) =>
    .boolean query.source ::
      match answers.boolean query.source with
      | .error _ => []
      | .ok true => []
      | .ok false =>
        if Probe.strip query.text = query.text then []
        else probeCalls dialect query (Probe.strip query.text)

/-! ## The recording host and one that keeps no account -/

/-- The host with the same answers that keeps no account. -/
def silent (dialect : Dialect) : Engine Id Answers Expression Query String String where
  holds text answers := answers.boolean text
  expressionText := id
  compile text := dialect.compile text
  booleanValue query answers := answers.boolean query.source
  stringValue query answers := answers.string query.source
  text := Query.text
  variableBindings := Query.variableBindings
  namespaceBindings := Query.namespaceBindings
  setVariables bindings query := { query with variableBindings := some bindings }
  setNamespaces bindings query := { query with namespaceBindings := some bindings }

/-- The query with the bindings that another one has. -/
def Query.withBindingsOf (target source : Query) : Query :=
  { target with
    variableBindings := source.variableBindings.or target.variableBindings
    namespaceBindings := source.namespaceBindings.or target.namespaceBindings }

variable (dialect : Dialect)

theorem copyBindings_silent (source target : Query) :
    ((silent dialect).copyBindings source target).run = target.withBindingsOf source := by
  obtain ⟨_, _, variableBindings, namespaceBindings⟩ := source
  cases variableBindings <;> cases namespaceBindings <;> rfl

theorem makes_copyBindings (source target : Query) :
    Makes ((engine dialect).copyBindings source target) (target.withBindingsOf source)
      (bindingCalls source target.source) := by
  intro made
  obtain ⟨_, _, variableBindings, namespaceBindings⟩ := source
  cases variableBindings with
  | none =>
    cases namespaceBindings with
    | none => exact Prod.ext rfl (List.append_nil made).symm
    | some n => rfl
  | some v =>
    cases namespaceBindings with
    | none => rfl
    | some n => exact Prod.ext rfl (List.append_assoc made _ _)

theorem source_of_compile {dialect : Dialect} {text : String} {query : Query}
    (h : dialect.compile text = .ok query) : query.source = text := by
  unfold Dialect.compile at h
  split at h
  · cases h
  · cases h
    rfl

theorem makes_compile (text : String) :
    Makes ((engine dialect).compile text) (dialect.compile text) [.compile text] :=
  (Makes.record (.compile text)).bind (Makes.pure _)

theorem makes_stringValue (query : Query) (answers : Answers) :
    Makes ((engine dialect).stringValue query answers) (answers.string query.source)
      [.string query.source] :=
  (Makes.record (.string query.source)).bind (Makes.pure _)

theorem makes_booleanValue (query : Query) (answers : Answers) :
    Makes ((engine dialect).booleanValue query answers) (answers.boolean query.source)
      [.boolean query.source] :=
  (Makes.record (.boolean query.source)).bind (Makes.pure _)

theorem makes_holds (text : Expression) (answers : Answers) :
    Makes ((engine dialect).holds text answers) (answers.boolean text) [.expression text] :=
  (Makes.record (.expression text)).bind (Makes.pure _)

theorem makes_derive (query : Query) (text : String) :
    Makes ((engine dialect).derive query text)
      ((dialect.compile text).map (·.withBindingsOf query))
      (.compile text ::
        match dialect.compile text with
        | .error _ => []
        | .ok _ => bindingCalls query text) := by
  have hcompile := makes_compile dialect text
  unfold Engine.derive
  cases h : dialect.compile text with
  | error e =>
    rw [h] at hcompile
    exact hcompile.bind (Makes.pure _)
  | ok target =>
    have hcopy := makes_copyBindings dialect query target
    rw [h] at hcompile
    rw [source_of_compile h] at hcopy
    exact hcompile.bind (hcopy.bind_pure Except.ok)

theorem derive_silent (query : Query) (text : String) :
    ((silent dialect).derive query text).run =
      (dialect.compile text).map (·.withBindingsOf query) := by
  have hcompile : (silent dialect).compile text = dialect.compile text := rfl
  unfold Engine.derive
  rw [hcompile]
  cases dialect.compile text with
  | error e => rfl
  | ok target => exact congrArg Except.ok (copyBindings_silent dialect query target)

theorem makes_probeValue (query : Query) (probe : String) (answers : Answers) :
    Makes ((engine dialect).probeValue query probe answers)
      ((silent dialect).probeValue query probe answers).run (probeCalls dialect query probe) := by
  have hderive := makes_derive dialect query probe
  have hsilent : (silent dialect).derive query probe =
    (dialect.compile probe).map (·.withBindingsOf query) := derive_silent dialect query probe
  unfold Engine.probeValue probeCalls
  rw [hsilent]
  cases h : dialect.compile probe with
  | error e =>
    rw [h] at hderive
    exact hderive.bind (Makes.pure _)
  | ok target =>
    rw [h] at hderive
    obtain rfl : target.source = probe := source_of_compile h
    exact hderive.bind (makes_stringValue dialect (target.withBindingsOf query) answers)

theorem makes_diagnose (query : Query) (answers : Answers) :
    Makes ((engine dialect).diagnose query answers) ((silent dialect).diagnose query answers).run
      (if Probe.strip query.text = query.text then []
        else probeCalls dialect query (Probe.strip query.text)) := by
  have htext : (engine dialect).text query = query.text := rfl
  have hsilent : (silent dialect).text query = query.text := rfl
  unfold Engine.diagnose
  rw [htext, hsilent]
  by_cases hkept : Probe.strip query.text = query.text
  · rw [if_pos hkept, Probe.ofQuery?_of_eq hkept]
    exact Makes.pure _
  · rw [if_neg hkept, Probe.ofQuery?_of_ne hkept]
    generalize Probe.strip query.text = probe
    have hprobe := makes_probeValue dialect query probe answers
    simp only [Id.run] at hprobe ⊢
    generalize (silent dialect).probeValue query probe answers = value at hprobe ⊢
    rw [← List.append_nil (probeCalls _ _ _)]
    rcases value with e | value
    · exact hprobe.bind (Makes.pure _)
    · exact hprobe.bind (Makes.pure _)

theorem makes_evaluateTest (reporter : Reporter) (text : Expression) (answers : Answers)
    (body : String) :
    Makes ((engine dialect).evaluateTest reporter text answers body)
      ((silent dialect).evaluateTest reporter text answers body).run [.expression text] := by
  have hholds := makes_holds dialect text answers
  have hsilent : (silent dialect).holds text answers = answers.boolean text := rfl
  unfold Engine.evaluateTest
  rw [hsilent]
  generalize answers.boolean text = answer at hholds ⊢
  rcases answer with e | passed
  · exact hholds.bind (Makes.pure _)
  · cases passed with
    | true => exact hholds.bind (Makes.pure _)
    | false => exact hholds.bind (Makes.pure _)

theorem makes_evaluateQuery (reporter : Reporter) (query : Query) (answers : Answers)
    (body : String) :
    Makes ((engine dialect).evaluateQuery reporter query answers body)
      ((silent dialect).evaluateQuery reporter query answers body).run
      (neededCalls dialect answers (some (.xpath query))) := by
  have hboolean := makes_booleanValue dialect query answers
  have hsilent : (silent dialect).booleanValue query answers = answers.boolean query.source := rfl
  unfold Engine.evaluateQuery neededCalls
  rw [hsilent]
  simp only
  generalize answers.boolean query.source = answer at hboolean ⊢
  rcases answer with e | passed
  · exact hboolean.bind (Makes.pure _)
  · cases passed with
    | true => exact hboolean.bind (Makes.pure _)
    | false =>
      have hdiagnose := makes_diagnose dialect query answers
      exact hboolean.bind (hdiagnose.bind_pure _)

theorem makes_evaluate (evaluator : Evaluator Expression Query) (occasion : Occasion Answers) :
    Makes (evaluator.evaluate (engine dialect) occasion)
      (evaluator.evaluate (silent dialect) occasion).run
      (neededCalls dialect occasion.context evaluator.spec) := by
  unfold Evaluator.evaluate Engine.evaluate
  cases evaluator.spec with
  | none => exact Makes.pure _
  | some spec =>
    cases spec with
    | test text => exact makes_evaluateTest dialect _ text _ _
    | xpath query => exact makes_evaluateQuery dialect _ query _ _

/-- Occasion after occasion: the account grows by what each one needs. -/
theorem makes_evaluateAll (evaluator : Evaluator Expression Query)
    (occasions : List (Occasion Answers)) :
    Makes (evaluator.evaluateAll (engine dialect) occasions)
      (evaluator.evaluateAll (silent dialect) occasions).run
      (occasions.flatMap fun occasion =>
        neededCalls dialect occasion.context evaluator.spec) := by
  induction occasions with
  | nil => exact Makes.pure _
  | cons occasion occasions ih =>
    rw [List.flatMap_cons]
    exact (makes_evaluate dialect evaluator occasion).bind (ih.bind_pure _)

/-! ## What the calls for a query amount to -/

def Call.isCompile : Call → Bool
  | .compile _ => true
  | _ => false

def Call.isString : Call → Bool
  | .string _ => true
  | _ => false

/-- Calls that compile one probe of a query at most, and ask for no text but
that of the probe, with the bindings of the query and no others. -/
structure ProbesOnce (query : Query) (calls : List Call) : Prop where
  compile_once : calls.countP Call.isCompile ≤ 1
  string_once : calls.countP Call.isString ≤ calls.countP Call.isCompile
  compile_strip : ∀ text, .compile text ∈ calls →
    text = Probe.strip query.text ∧ text ≠ query.text
  string_compile : ∀ text, .string text ∈ calls → .compile text ∈ calls
  variables_iff : ∀ text bindings, .setVariables text bindings ∈ calls ↔
    .string text ∈ calls ∧ query.variableBindings = some bindings
  namespaces_iff : ∀ text bindings, .setNamespaces text bindings ∈ calls ↔
    .string text ∈ calls ∧ query.namespaceBindings = some bindings

theorem neededCalls_xpath_cases (dialect : Dialect) (answers : Answers) (query : Query) :
    neededCalls dialect answers (some (.xpath query)) = [.boolean query.source] ∨
      Probe.strip query.text ≠ query.text ∧
        (neededCalls dialect answers (some (.xpath query)) =
            [.boolean query.source, .compile (Probe.strip query.text)] ∨
          neededCalls dialect answers (some (.xpath query)) =
            .boolean query.source :: .compile (Probe.strip query.text) ::
              (bindingCalls query (Probe.strip query.text) ++
                [.string (Probe.strip query.text)])) := by
  simp only [neededCalls]
  split
  · exact .inl rfl
  · exact .inl rfl
  · by_cases hkept : Probe.strip query.text = query.text
    · rw [if_pos hkept]
      exact .inl rfl
    · rw [if_neg hkept]
      refine .inr ⟨hkept, ?_⟩
      unfold probeCalls
      split
      · exact .inl rfl
      · exact .inr rfl

theorem string_notMem_bindingCalls (query : Query) (text source : String) :
    .string source ∉ bindingCalls query text := by
  simp [bindingCalls]

theorem setVariables_mem_bindingCalls {query : Query} {text source v : String} :
    .setVariables source v ∈ bindingCalls query text ↔
      source = text ∧ query.variableBindings = some v := by
  simp only [bindingCalls, List.mem_append, List.mem_map, Option.mem_toList]
  constructor
  · rintro (⟨_, hv, hcall⟩ | ⟨_, _, hcall⟩)
    · cases hcall
      exact ⟨rfl, hv⟩
    · cases hcall
  · rintro ⟨rfl, hv⟩
    exact .inl ⟨v, hv, rfl⟩

theorem setNamespaces_mem_bindingCalls {query : Query} {text source n : String} :
    .setNamespaces source n ∈ bindingCalls query text ↔
      source = text ∧ query.namespaceBindings = some n := by
  simp only [bindingCalls, List.mem_append, List.mem_map, Option.mem_toList]
  constructor
  · rintro (⟨_, _, hcall⟩ | ⟨_, hn, hcall⟩)
    · cases hcall
    · cases hcall
      exact ⟨rfl, hn⟩
  · rintro ⟨rfl, hn⟩
    exact .inr ⟨n, hn, rfl⟩

theorem countP_bindingCalls {p : Call → Bool}
    (hvariables : ∀ text v, p (.setVariables text v) = false)
    (hnamespaces : ∀ text n, p (.setNamespaces text n) = false) (query : Query) (text : String) :
    (bindingCalls query text).countP p = 0 := by
  rw [List.countP_eq_zero]
  intro call hcall
  unfold bindingCalls at hcall
  rcases List.mem_append.mp hcall with hcall | hcall
  · obtain ⟨v, _, rfl⟩ := List.mem_map.mp hcall
    simp [hvariables]
  · obtain ⟨n, _, rfl⟩ := List.mem_map.mp hcall
    simp [hnamespaces]

theorem probesOnce_neededCalls (dialect : Dialect) (answers : Answers) (query : Query) :
    ProbesOnce query (neededCalls dialect answers (some (.xpath query))) := by
  rcases neededCalls_xpath_cases dialect answers query with h | ⟨hne, h | h⟩
  · rw [h]
    constructor <;> simp [Call.isCompile, Call.isString]
  · rw [h]
    constructor <;> simp [Call.isCompile, Call.isString, hne]
  · rw [h]
    have hcompile : (bindingCalls query (Probe.strip query.text)).countP Call.isCompile = 0 :=
      countP_bindingCalls (fun _ _ => rfl) (fun _ _ => rfl) _ _
    have hstring : (bindingCalls query (Probe.strip query.text)).countP Call.isString = 0 :=
      countP_bindingCalls (fun _ _ => rfl) (fun _ _ => rfl) _ _
    refine ⟨?_, ?_, ?_, ?_, ?_, ?_⟩
    · simp [List.countP_cons, hcompile, Call.isCompile]
    · simp [List.countP_cons, hcompile, hstring, Call.isCompile, Call.isString]
    · simp [bindingCalls, hne]
    · simp [bindingCalls]
    · intro text v
      simp [setVariables_mem_bindingCalls, string_notMem_bindingCalls]
    · intro text n
      simp [setNamespaces_mem_bindingCalls, string_notMem_bindingCalls]

/-- Over occasion after occasion the recording host hears exactly the needed
calls, and the evaluations are those with a host that keeps no account. An unset
assertion needs no call and an expression one. A query is asked for its truth;
if it is false and stripping changes its canonical text, that probe is compiled,
and if it compiles it is given the variables and then the namespaces of the
query, as far as there are any, and asked for its text. -/
theorem an_evaluation_asks_only_what_it_needs (dialect : Dialect)
    (evaluator : Evaluator Expression Query) :
    (∀ (occasion : Occasion Answers) (made : List Call),
      (evaluator.evaluate (engine dialect) occasion).run made =
        ((evaluator.evaluate (silent dialect) occasion).run,
          made ++ neededCalls dialect occasion.context evaluator.spec)) ∧
    (∀ (occasions : List (Occasion Answers)) (made : List Call),
      (evaluator.evaluateAll (engine dialect) occasions).run made =
        ((evaluator.evaluateAll (silent dialect) occasions).run,
          made ++ occasions.flatMap fun occasion =>
            neededCalls dialect occasion.context evaluator.spec)) ∧
    (∀ (answers : Answers) (query : Query),
      ProbesOnce query (neededCalls dialect answers (some (.xpath query)))) := by
  refine ⟨?_, ?_, ?_⟩
  · intro occasion
    exact makes_evaluate dialect evaluator occasion
  · intro occasions
    exact makes_evaluateAll dialect evaluator occasions
  · intro answers query
    exact probesOnce_neededCalls dialect answers query

/-- The source of a query is asked for its truth, its canonical text is probed. -/
theorem a_probe_is_asked_under_its_own_text :
    (calls ((Evaluator.mk (some (.xpath ⟨"q", "a = 'x'", some "v", none⟩)) {}).evaluateAll
      (engine ⟨[], []⟩) [⟨⟨[("q", .ok true)], []⟩, ""⟩, ⟨⟨[("q", .ok false)], []⟩, "m"⟩])).2 =
      [.boolean "q", .boolean "q", .compile "a ", .setVariables "a " "v", .string "a "] := by
  unfold calls
  rw [(an_evaluation_asks_only_what_it_needs _ _).2.1]
  rfl

end Verdict.Recorder
