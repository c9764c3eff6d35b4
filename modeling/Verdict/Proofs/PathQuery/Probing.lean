-- Failed path queries and their probes. Main statement: the value reported for
-- a failed equality is the value that its own left side has in the document;
-- what fails without an equality at its end reports no value.
import Verdict.Proofs.Evaluation.Outcome
import Verdict.Proofs.PathQuery.Stripping

namespace Verdict.PathQuery

/-! ## Compiled queries -/

/-- The query with these bindings, present or absent. -/
def attach (variableBindings namespaceBindings : Option Bindings) (query : PathQuery) :
    PathQuery :=
  { query with variableBindings, namespaceBindings }

theorem text_attach (variableBindings namespaceBindings : Option Bindings) (query : PathQuery) :
    (query.attach variableBindings namespaceBindings).text = query.text := rfl

theorem term_attach (variableBindings namespaceBindings : Option Bindings) (query : PathQuery) :
    (query.attach variableBindings namespaceBindings).term = query.term := rfl

/-- A text that compiles and ends with a comparison with a literal is an
equality, and its left side compiles to the same term alone, or it is a `!=`,
and its left side does not compile. -/
theorem compile_append_literal {before : String} {l : Probe.Literal} {query : PathQuery}
    (h : compile (before ++ "=" ++ l.text) = .ok query) :
    (query.comparison = some ⟨false, String.ofList l.body⟩ ∧
      compile before = .ok ⟨before, query.term, none, none, none⟩) ∨
    (query.comparison = some ⟨true, String.ofList l.body⟩ ∧
      ∃ fault, compile before = .error fault) := by
  rw [compile_eq, Probe.toList_append_literal] at h
  rw [compile_eq before]
  rcases parse_cases before.toList l with ⟨term, hleft, hwhole⟩ | ⟨term, fault, hleft, hwhole⟩ |
    ⟨fault, _, hwhole⟩
  · rw [hwhole] at h
    cases h
    exact .inl ⟨rfl, by rw [hleft]; rfl⟩
  · rw [hwhole] at h
    cases h
    exact .inr ⟨rfl, fault, by rw [hleft]; rfl⟩
  · rw [hwhole] at h
    cases h

/-- A compiled query keeps its text and has no bindings. -/
theorem compile_eq_ok {text : String} {query : PathQuery} (h : compile text = .ok query) :
    query = ⟨text, query.term, query.comparison, none, none⟩ := by
  rw [compile_eq] at h
  obtain ⟨parsed, -, rfl⟩ := map_eq_ok_iff.mp h
  rfl

/-! ## Derived queries -/

theorem engine_compile (text : String) :
    engine.compile text = (compile text).mapError Fault.toEvalError := rfl

theorem copyBindings_eq (source : PathQuery) {target : PathQuery}
    (hvariables : target.variableBindings = none) (hnamespaces : target.namespaceBindings = none) :
    (engine.copyBindings source target).run =
      target.attach source.variableBindings source.namespaceBindings := by
  obtain ⟨text, term, comparison, variableBindings, namespaceBindings⟩ := source
  obtain ⟨text', term', comparison', variableBindings', namespaceBindings'⟩ := target
  cases hvariables
  cases hnamespaces
  cases variableBindings <;> cases namespaceBindings <;> rfl

/-- A derived query is the compiled text with the bindings of the query that it
comes from. -/
theorem derive_of_compile {text : String} {derived : PathQuery}
    (h : compile text = .ok derived) (query : PathQuery) :
    (engine.derive query text).run =
      .ok (derived.attach query.variableBindings query.namespaceBindings) := by
  have hbare := compile_eq_ok h
  rw [Engine.derive, engine_compile, h, ← copyBindings_eq query (by rw [hbare]) (by rw [hbare])]
  rfl

theorem derive_of_fault {text : String} {fault : Fault} (h : compile text = .error fault)
    (query : PathQuery) : (engine.derive query text).run = .error fault.toEvalError := by
  rw [Engine.derive, engine_compile, h]
  rfl

/-! ## Values -/

theorem resolve_congr {query other : PathQuery} (hterm : query.term = other.term)
    (hvariables : query.variableBindings = other.variableBindings)
    (hnamespaces : query.namespaceBindings = other.namespaceBindings) (document : Document) :
    query.resolve document = other.resolve document := by
  rw [resolve, resolve, hterm, hvariables, hnamespaces]

/-- Only a path that is absent from the document stands for nothing. -/
theorem resolve_eq_none_iff {query : PathQuery} {document : Document} {value : Option String}
    (h : query.resolve document = .ok value) :
    value = none ↔ ∃ path, query.term = .path path ∧ document.lookup path = none := by
  unfold resolve at h
  split at h
  · rename_i name hterm
    split at h
    · cases h
      simp [hterm]
    · cases h
  · rename_i path hterm
    have hvalue : document.lookup path = value := by
      split at h
      · split at h
        · exact Except.ok.inj h
        · cases h
      · exact Except.ok.inj h
    rw [hterm, ← hvalue]
    constructor
    · intro habsent
      exact ⟨path, rfl, habsent⟩
    · rintro ⟨other, hother, habsent⟩
      cases hother
      exact habsent

/-- A comparison has a truth value if its left side has a value. -/
theorem resolve_of_booleanValue {query : PathQuery} {document : Document} {answer : Bool}
    (h : query.booleanValue document = .ok answer) {comparison : Comparison}
    (hc : query.comparison = some comparison) :
    ∃ value, query.resolve document = .ok value ∧
      answer = ((value == some comparison.literal) != comparison.negated) := by
  rw [booleanValue, hc] at h
  cases hr : query.resolve document with
  | error fault =>
    rw [hr] at h
    cases h
  | ok value =>
    rw [hr] at h
    exact ⟨value, rfl, (Except.ok.inj h).symm⟩

theorem engine_booleanValue_eq_ok_iff {query : PathQuery} {document : Document}
    {answer : Bool} :
    engine.booleanValue query document = Except.ok answer ↔
      query.booleanValue document = .ok answer :=
  mapError_eq_ok_iff

theorem stringValue_of_resolve {query : PathQuery} {document : Document} {value : Option String}
    (h : query.resolve document = .ok value) (hc : query.comparison = none) :
    query.stringValue document = .ok (value.getD "") := by
  rw [stringValue, hc, h]
  rfl

/-! ## Probes -/

/-- A probe that compiles to the term of a query alone has the value of that
term. -/
theorem probeValue_of_compile {query : PathQuery} {probe : String}
    (hp : compile probe = .ok ⟨probe, query.term, none, none, none⟩) {document : Document}
    {value : Option String} (hr : query.resolve document = .ok value) :
    (engine.probeValue query probe document).run = .ok (value.getD "") := by
  have hd : engine.derive query probe = Except.ok (attach query.variableBindings
      query.namespaceBindings ⟨probe, query.term, none, none, none⟩) := derive_of_compile hp query
  have hsame : (attach query.variableBindings query.namespaceBindings
      ⟨probe, query.term, none, none, none⟩).resolve document = .ok value :=
    (resolve_congr rfl rfl rfl document).trans hr
  have hs : engine.stringValue (attach query.variableBindings query.namespaceBindings
      ⟨probe, query.term, none, none, none⟩) document = Except.ok (value.getD "") :=
    congrArg (Except.mapError Fault.toEvalError) (stringValue_of_resolve hsame rfl)
  rw [Engine.probeValue, hd]
  exact hs

theorem probeValue_of_fault {query : PathQuery} {probe : String} {fault : Fault}
    (hp : compile probe = .error fault) (document : Document) :
    (engine.probeValue query probe document).run = .error fault.toEvalError := by
  have hd : engine.derive query probe = Except.error fault.toEvalError :=
    derive_of_fault hp query
  rw [Engine.probeValue, hd]
  rfl

/-! ## Failed queries -/

/-- A failed equality has another value than its literal, unless it was compared
with the empty text and has none. -/
theorem getD_eq_literal_iff {value : Option String} {literal : String}
    (hfalse : (value == some literal) = false) :
    value.getD "" = literal ↔ value = none ∧ literal = "" := by
  cases value with
  | none => simp [eq_comm]
  | some value => simpa using hfalse

/-- What makes a query fail, and what is reported of it. -/
theorem report_of_failed {query : PathQuery} {reporter : Reporter} {occasion : Occasion Document}
    {f : Failure}
    (hf : (Evaluator.mk (some (.xpath query)) reporter).result engine occasion =
      .error (.failed f)) :
    query.booleanValue occasion.context = .ok false ∧ f.expression = query.text ∧
    f.diagnostic = (Probe.ofQuery? query.text).map fun probe =>
      Diagnostic.ofValue probe (engine.probeValue query probe occasion.context).run := by
  obtain ⟨spec, hspec, hanswer, rfl⟩ := Evaluator.result_eq_failed_iff.mp hf
  cases hspec
  refine ⟨engine_booleanValue_eq_ok_iff.mp hanswer, rfl, ?_⟩
  exact engine.diagnosis_xpath occasion.context query

/-- A failed query is reported under its own text. Without a comparison with a
literal at its end nothing is probed. An equality reports what its left side,
which compiles to the same term alone, stands for under the bindings of the
query: another value than the literal, except that nothing is reported as the
empty text. The left side of a `!=` does not compile and has no value. -/
theorem a_failed_query_reports_the_value_of_its_left_side {text : String} {query : PathQuery}
    (hcompile : compile text = .ok query) (variableBindings namespaceBindings : Option Bindings)
    (reporter : Reporter) (occasion : Occasion Document) {f : Failure}
    (hf : (Evaluator.mk (some (.xpath (query.attach variableBindings namespaceBindings)))
      reporter).result engine occasion = .error (.failed f)) :
    f.expression = text ∧
    (Probe.strip text = text → f.diagnostic = none) ∧
    (Probe.strip text ≠ text →
      ∃ l : Probe.Literal, text = Probe.strip text ++ "=" ++ l.text ∧
        ((query.comparison = some ⟨false, String.ofList l.body⟩ ∧
          compile (Probe.strip text) = .ok ⟨Probe.strip text, query.term, none, none, none⟩ ∧
          ∃ value,
            (query.attach variableBindings namespaceBindings).resolve occasion.context =
              .ok value ∧
            f.diagnostic = some (.found (Probe.strip text) (value.getD "")) ∧
            (value = none ↔
              ∃ path, query.term = .path path ∧ occasion.context.lookup path = none) ∧
            (value.getD "" = String.ofList l.body ↔
              value = none ∧ String.ofList l.body = "")) ∨
        (query.comparison = some ⟨true, String.ofList l.body⟩ ∧
          f.diagnostic = some (.unavailable (Probe.strip text))))) := by
  obtain ⟨hfalse, hexpression, hdiagnostic⟩ := report_of_failed hf
  have htext : query.text = text := by rw [compile_eq_ok hcompile]
  rw [text_attach, htext] at hexpression hdiagnostic
  refine ⟨hexpression, ?_, ?_⟩
  · intro hkept
    rw [hdiagnostic, Probe.ofQuery?_of_eq hkept]
    rfl
  · intro hcut
    rw [Probe.ofQuery?_of_ne hcut, Option.map_some] at hdiagnostic
    obtain ⟨l, hl⟩ := Probe.compares_of_strip_ne hcut
    rw [hl] at hcompile
    refine ⟨l, hl, ?_⟩
    rcases compile_append_literal hcompile with ⟨hc, hleft⟩ | ⟨hc, fault, hleft⟩
    · obtain ⟨value, hvalue, hdiffers⟩ := resolve_of_booleanValue hfalse hc
      have habsent := resolve_eq_none_iff hvalue
      rw [← term_attach variableBindings namespaceBindings query] at hleft
      refine .inl ⟨hc, hleft, value, hvalue, ?_, habsent, ?_⟩
      · rw [hdiagnostic, probeValue_of_compile hleft hvalue]
        rfl
      · exact getD_eq_literal_iff (by simpa using hdiffers.symm)
    · refine .inr ⟨hc, ?_⟩
      rw [hdiagnostic, probeValue_of_fault hleft]
      rfl

/-- A bound prefix reaches the probe: `a:b` has the value `its`, and not `it's`. -/
theorem a_failed_equality_reports_its_path :
    ∃ query f, compile " a:b = \"it's\" " = .ok query ∧
      (Evaluator.mk (some (.xpath (query.attach none (some [("a", "urn:a")])))) {}).result
        engine ⟨[("a:b", "its")], ""⟩ = .error (.failed f) ∧
      f.expression = " a:b = \"it's\" " ∧ f.diagnostic = some (.found " a:b " "its") := by
  have hcompile : compile " a:b = \"it's\" " =
      .ok ⟨" a:b = \"it's\" ", .path "a:b", some ⟨false, "it's"⟩, none, none⟩ := by rfl
  have hcut : Probe.strip " a:b = \"it's\" " = " a:b " := by rfl
  have hf : (Evaluator.mk (some (.xpath (PathQuery.attach none (some [("a", "urn:a")])
      ⟨" a:b = \"it's\" ", .path "a:b", some ⟨false, "it's"⟩, none, none⟩))) {}).result
        engine ⟨[("a:b", "its")], ""⟩ =
      .error (.failed ⟨.xpath, " a:b = \"it's\" ", "", some (.found " a:b " "its")⟩) := by rfl
  obtain ⟨hexpression, _, hreport⟩ :=
    a_failed_query_reports_the_value_of_its_left_side hcompile _ _ _ _ hf
  obtain ⟨l, _, hcases⟩ := hreport (by rw [hcut]; decide)
  rcases hcases with ⟨_, _, value, hvalue, hdiagnostic, _⟩ | ⟨hnegated, _⟩
  · cases hvalue
    rw [hcut] at hdiagnostic
    exact ⟨_, _, hcompile, hf, hexpression, hdiagnostic⟩
  · cases hnegated

end Verdict.PathQuery
