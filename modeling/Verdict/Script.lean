-- Scripts: named lists of assertions as they are written. Whether an
-- assertion has exactly one expression is asked of each one, so that a script
-- with a bad entry still reports the others.
import Verdict.Evaluation

namespace Verdict

/-- One assertion of a script. -/
structure Script.Assertion where
  /-- A boolean expression in the host's language. -/
  test : Option String := none
  /-- A path query. -/
  xpath : Option String := none
  /-- What is reported when the assertion fails. -/
  message : String := ""
  deriving DecidableEq, Repr, Inhabited

/-- A named list of assertions, checked in order. -/
structure Script where
  name : String
  assertions : List Script.Assertion
  deriving DecidableEq, Repr, Inhabited

namespace Script.Assertion

/-- The text to check, if exactly one is given. -/
def spec (a : Script.Assertion) : Except ConfigError (Spec String String) :=
  Spec.ofParts a.test a.xpath

/-- A short name of the assertion in results. -/
def description (a : Script.Assertion) : String :=
  match a.spec with
  | .ok (.test text) => Mode.test.name ++ ": " ++ text
  | .ok (.xpath text) => Mode.xpath.name ++ ": " ++ text
  | .error _ => "invalid assertion"

/-- The text that a failure would be probed with: only a valid `xpath`
assertion that ends in a comparison with a literal has one. -/
def probe (a : Script.Assertion) : Option String :=
  match a.spec with
  | .ok (.xpath text) => Probe.ofQuery? text
  | .ok (.test _) => none
  | .error _ => none

theorem spec_eq_ok_iff (a : Script.Assertion) :
    (∃ spec, a.spec = .ok spec) ↔ a.test.isSome ≠ a.xpath.isSome := by
  unfold spec Spec.ofParts
  cases a.test <;> cases a.xpath <;> simp

end Script.Assertion

end Verdict
