-- Queries derived from queries. A derived query has the bindings of the query it
-- comes from, so along a chain of derivations they stay those of the first query.
-- Main statement: each text of a chain gives what it gives alone, and no text, bad
-- or good, has a part in what comes after it.
import Verdict.Proofs.PathQuery.Probing

namespace Verdict

namespace Engine

/-! ## Bindings -/

section

variable {m : Type → Type} [Monad m] {C E Q V N : Type}

/-- The query with these bindings set; one that is absent is not set. -/
def attach (engine : Engine m C E Q V N) (variableBindings : Option V)
    (namespaceBindings : Option N) (query : Q) : m Q := do
  let query ← match variableBindings with
    | some v => engine.setVariables v query
    | none => pure query
  match namespaceBindings with
  | some n => engine.setNamespaces n query
  | none => pure query

theorem copyBindings_eq_attach (engine : Engine m C E Q V N) (source target : Q) :
    engine.copyBindings source target =
      engine.attach (engine.variableBindings source) (engine.namespaceBindings source) target :=
  rfl

end

variable {C E Q V N : Type} {engine : Engine Id C E Q V N}

/-- A new query has no bindings, and those of either kind are what was last set,
whatever is set of the other kind. -/
structure KeepsBindings (engine : Engine Id C E Q V N) : Prop where
  variables_compile : ∀ {text query}, (engine.compile text).run = .ok query →
    engine.variableBindings query = none
  namespaces_compile : ∀ {text query}, (engine.compile text).run = .ok query →
    engine.namespaceBindings query = none
  variables_setVariables : ∀ v query,
    engine.variableBindings (engine.setVariables v query).run = some v
  namespaces_setVariables : ∀ v query,
    engine.namespaceBindings (engine.setVariables v query).run = engine.namespaceBindings query
  variables_setNamespaces : ∀ n query,
    engine.variableBindings (engine.setNamespaces n query).run = engine.variableBindings query
  namespaces_setNamespaces : ∀ n query,
    engine.namespaceBindings (engine.setNamespaces n query).run = some n

theorem KeepsBindings.variables_attach (h : engine.KeepsBindings) {query : Q}
    (hnone : engine.variableBindings query = none) (variableBindings : Option V)
    (namespaceBindings : Option N) :
    engine.variableBindings (engine.attach variableBindings namespaceBindings query).run =
      variableBindings := by
  cases variableBindings with
  | none =>
    cases namespaceBindings with
    | none => exact hnone
    | some n => exact (h.variables_setNamespaces n query).trans hnone
  | some v =>
    cases namespaceBindings with
    | none => exact h.variables_setVariables v query
    | some n =>
      exact (h.variables_setNamespaces n (engine.setVariables v query).run).trans
        (h.variables_setVariables v query)

theorem KeepsBindings.namespaces_attach (h : engine.KeepsBindings) {query : Q}
    (hnone : engine.namespaceBindings query = none) (variableBindings : Option V)
    (namespaceBindings : Option N) :
    engine.namespaceBindings (engine.attach variableBindings namespaceBindings query).run =
      namespaceBindings := by
  cases namespaceBindings with
  | none =>
    cases variableBindings with
    | none => exact hnone
    | some v => exact (h.namespaces_setVariables v query).trans hnone
  | some n =>
    cases variableBindings with
    | none => exact h.namespaces_setNamespaces n query
    | some v => exact h.namespaces_setNamespaces n (engine.setVariables v query).run

/-! ## One derivation -/

theorem derive_run (query : Q) (text : String) :
    (engine.derive query text).run = (engine.compile text).run.map fun compiled =>
      (engine.attach (engine.variableBindings query) (engine.namespaceBindings query)
        compiled).run := by
  rw [derive, Id.run_bind]
  simp only [copyBindings_eq_attach]
  cases (engine.compile text).run with
  | error e => rfl
  | ok compiled => rfl

theorem exists_derive (query : Q) {text : String} {compiled : Q}
    (h : (engine.compile text).run = .ok compiled) :
    ∃ derived, (engine.derive query text).run = .ok derived := by
  rw [derive_run, h]
  exact ⟨_, rfl⟩

/-- A derived query has the bindings of the query it comes from. -/
theorem KeepsBindings.of_derive (h : engine.KeepsBindings) {query derived : Q} {text : String}
    (hderived : (engine.derive query text).run = .ok derived) :
    engine.variableBindings derived = engine.variableBindings query ∧
      engine.namespaceBindings derived = engine.namespaceBindings query := by
  rw [derive_run] at hderived
  obtain ⟨compiled, hcompiled, rfl⟩ := PathQuery.map_eq_ok_iff.mp hderived
  exact ⟨h.variables_attach (h.variables_compile hcompiled) _ _,
    h.namespaces_attach (h.namespaces_compile hcompiled) _ _⟩

/-- Nothing but the bindings of a query has a part in what is derived from it. -/
theorem derive_congr {query other : Q}
    (hvariables : engine.variableBindings query = engine.variableBindings other)
    (hnamespaces : engine.namespaceBindings query = engine.namespaceBindings other)
    (text : String) : (engine.derive query text).run = (engine.derive other text).run := by
  rw [derive_run, derive_run, hvariables, hnamespaces]

theorem KeepsBindings.derive_derived (h : engine.KeepsBindings) {query derived : Q}
    {text : String} (hderived : (engine.derive query text).run = .ok derived) (other : String) :
    (engine.derive derived other).run = (engine.derive query other).run :=
  derive_congr (h.of_derive hderived).1 (h.of_derive hderived).2 other

/-! ## Chains of derivations -/

theorem deriveAll_cons_of_ok {query derived : Q} {text : String}
    (h : (engine.derive query text).run = .ok derived) (texts : List String) :
    (engine.deriveAll query (text :: texts)).run =
      .ok derived :: (engine.deriveAll derived texts).run := by
  rw [deriveAll, Id.run_bind, h]
  rfl

theorem deriveAll_cons_of_error {query : Q} {text : String} {e : EvalError}
    (h : (engine.derive query text).run = .error e) (texts : List String) :
    (engine.deriveAll query (text :: texts)).run =
      .error e :: (engine.deriveAll query texts).run := by
  rw [deriveAll, Id.run_bind, h]
  rfl

/-- Each text is as good as derived from the first query: along the chain the query
at hand changes, and its bindings do not. -/
theorem KeepsBindings.deriveAll_run (h : engine.KeepsBindings) (query : Q)
    (texts : List String) :
    (engine.deriveAll query texts).run =
      texts.map fun text => (engine.derive query text).run := by
  induction texts generalizing query with
  | nil => rfl
  | cons text texts ih =>
    rw [List.map_cons]
    cases hderived : (engine.derive query text).run with
    | error e => rw [deriveAll_cons_of_error hderived, ih query]
    | ok derived =>
      have hsame : ∀ other, (engine.derive derived other).run = (engine.derive query other).run :=
        h.derive_derived hderived
      simp only [deriveAll_cons_of_ok hderived, ih derived, hsame]

/-- Along a chain of derivations each text fails as it fails alone, or it gives the
query that it compiles to with the bindings of the first query attached to it,
present or absent as they are there. So every query of the chain is as good to
derive from as the first, and what comes after a text, be it good or bad, is what
it would be without it. -/
theorem a_chain_derives_each_text_from_the_first_query (h : engine.KeepsBindings) (root : Q) :
    (∀ texts, (engine.deriveAll root texts).run = texts.map fun text =>
      (engine.compile text).run.map fun compiled =>
        (engine.attach (engine.variableBindings root) (engine.namespaceBindings root)
          compiled).run) ∧
    (∀ texts derived, .ok derived ∈ (engine.deriveAll root texts).run →
      engine.variableBindings derived = engine.variableBindings root ∧
      engine.namespaceBindings derived = engine.namespaceBindings root) ∧
    (∀ text compiled, (engine.compile text).run = .ok compiled →
      ∃ derived, (engine.derive root text).run = .ok derived ∧
        ∀ other, (engine.derive derived other).run = (engine.derive root other).run) ∧
    (∀ before text after, (engine.deriveAll root (before ++ text :: after)).run =
      (engine.deriveAll root before).run ++
        (engine.derive root text).run :: (engine.deriveAll root after).run) := by
  refine ⟨?_, ?_, ?_, ?_⟩
  · intro texts
    rw [h.deriveAll_run]
    exact List.map_congr_left fun text _ => derive_run root text
  · intro texts derived hmem
    rw [h.deriveAll_run] at hmem
    obtain ⟨text, -, hderived⟩ := List.mem_map.mp hmem
    exact h.of_derive hderived
  · intro text compiled hcompiled
    obtain ⟨derived, hderived⟩ := exists_derive root hcompiled
    exact ⟨derived, hderived, h.derive_derived hderived⟩
  · intro before text after
    rw [h.deriveAll_run, h.deriveAll_run, h.deriveAll_run, List.map_append, List.map_cons]

end Engine

namespace PathQuery

theorem compile_eq_ok_of_engine {text : String} {query : PathQuery}
    (h : (engine.compile text).run = .ok query) :
    query = ⟨text, query.term, query.comparison, none, none⟩ :=
  compile_eq_ok (mapError_eq_ok_iff.mp h)

theorem keepsBindings_engine : engine.KeepsBindings where
  variables_compile h := by
    rw [compile_eq_ok_of_engine h]
    rfl
  namespaces_compile h := by
    rw [compile_eq_ok_of_engine h]
    rfl
  variables_setVariables _ _ := rfl
  namespaces_setVariables _ _ := rfl
  variables_setNamespaces _ _ := rfl
  namespaces_setNamespaces _ _ := rfl

/-- A path, a bad text and a comparison, derived one after the other from a query
with a variable and without namespaces. -/
theorem a_chain_passes_a_variable_over_a_bad_text :
    let root : PathQuery := ⟨"$v", .variable "v", none, some [("v", "x")], none⟩
    engine.KeepsBindings ∧
    (engine.deriveAll root ["a", "a b", "$v = 'x'"]).run =
      [.ok ⟨"a", .path "a", none, some [("v", "x")], none⟩,
        .error (.plain "unexpected token 'a b'"),
        .ok ⟨"$v = 'x'", .variable "v", some ⟨false, "x"⟩, some [("v", "x")], none⟩] := by
  intro root
  obtain ⟨hchain, -⟩ :=
    Engine.a_chain_derives_each_text_from_the_first_query keepsBindings_engine root
  refine ⟨keepsBindings_engine, ?_⟩
  rw [hchain]
  rfl

end PathQuery

end Verdict
