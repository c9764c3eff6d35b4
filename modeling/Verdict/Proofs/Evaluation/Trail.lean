-- The trail of an evaluation, part by part. Main statements: only a failure
-- with a diagnostic leaves a line with its sink, and the events are those of
-- one evaluation: none for an error, and for a failure the answer, then what
-- became of the probe, then the failure.
import Verdict.Proofs.Evaluation.Outcome

namespace Verdict

/-! ## Sinks and reporters -/

/-- A sink that logs, under whatever wrapping. -/
def Sink.isLog : Sink → Bool
  | .log => true
  | .boxed inner => inner.isLog
  | .shared inner => inner.isLog
  | _ => false

theorem Sink.events_emit (sink : Sink) (line : String) :
    (sink.emit line).events = if sink.isLog then [.diagnostic line] else [] := by
  induction sink with
  | boxed inner ih => exact ih
  | shared inner ih => exact ih
  | _ => simp [Sink.emit, Sink.isLog]

theorem Reporter.kept_trail (r : Reporter) (f : Failure) :
    (r.trail f).kept = if r.sink.isMemory then f.sinkLine?.toList else [] := by
  unfold Reporter.trail
  cases f.sinkLine? with
  | none => simp [Trail.ofEvents]
  | some line => simp [Trail.ofEvents, Sink.kept_emit]

theorem Reporter.events_trail (r : Reporter) (f : Failure) :
    (r.trail f).events = (if r.sink.isLog then f.sinkLine?.toList.map .diagnostic else []) ++
      [.failed f.mode f.expression] := by
  unfold Reporter.trail
  cases f.sinkLine? with
  | none => simp [Trail.ofEvents]
  | some line => simp [Trail.ofEvents, Sink.events_emit]

/-! ## Evaluations -/

namespace Engine

variable {C E Q V N : Type}

/-- The complaints in the log about the probe of an expression that is false. -/
def complaints (engine : Engine Id C E Q V N) (context : C) : Spec E Q → List Event
  | .test _ => []
  | .xpath query =>
    match Probe.ofQuery? (engine.text query) with
    | none => []
    | some probe => warning probe (engine.probeValue query probe context).run

theorem diagnosis_snd (engine : Engine Id C E Q V N) (context : C) (spec : Spec E Q) :
    (engine.diagnosis context spec).2 = .ofEvents (engine.complaints context spec) := by
  cases spec with
  | test expression => rfl
  | xpath query =>
    rw [diagnosis, diagnose_eq_map, complaints]
    cases Probe.ofQuery? (engine.text query) with
    | none => rfl
    | some probe => rfl

theorem running_notMem_complaints (engine : Engine Id C E Q V N) (context : C) (spec : Spec E Q)
    (script : String) (count : Nat) :
    Event.running script count ∉ engine.complaints context spec := by
  cases spec with
  | test expression => exact List.not_mem_nil
  | xpath query =>
    simp only [complaints]
    split
    · exact List.not_mem_nil
    · unfold warning
      split
      · exact List.not_mem_nil
      · simp

/-- Without an evaluator the reporter is the one that forgets every line. -/
theorem run_evaluate_some (engine : Engine Id C E Q V N) (spec : Spec E Q) (context : C)
    (body : String) :
    (Verdict.evaluate engine (some spec) ⟨context, body⟩).run =
      engine.settle {} context body spec (engine.answer context spec) :=
  engine.evaluate_some {} spec context body

theorem kept_settle (engine : Engine Id C E Q V N) (reporter : Reporter) (context : C)
    (body : String) (spec : Spec E Q) (answer : Except EvalError Bool) :
    (engine.settle reporter context body spec answer).trail.kept =
      match answer with
      | .ok false =>
        if reporter.sink.isMemory then (engine.failure context body spec).sinkLine?.toList else []
      | _ => [] := by
  rcases answer with e | passed
  · rfl
  · cases passed with
    | true => rfl
    | false =>
      simp [settle, diagnosis_snd, Reporter.kept_trail, Trail.ofEvents]

theorem events_settle (engine : Engine Id C E Q V N) (reporter : Reporter) (context : C)
    (body : String) (spec : Spec E Q) (answer : Except EvalError Bool) :
    (engine.settle reporter context body spec answer).trail.events =
      match answer with
      | .error _ => []
      | .ok true => [.evaluated spec.mode (engine.textOf spec) true]
      | .ok false =>
        .evaluated spec.mode (engine.textOf spec) false :: engine.complaints context spec ++
          (if reporter.sink.isLog then
            (engine.failure context body spec).sinkLine?.toList.map .diagnostic else []) ++
          [.failed spec.mode (engine.textOf spec)] := by
  rcases answer with e | passed
  · rfl
  · cases passed with
    | true => rfl
    | false =>
      simp only [settle, diagnosis_snd, Trail.events_append, Reporter.events_trail, Trail.ofEvents,
        List.cons_append, List.nil_append, List.append_assoc]
      rfl

end Engine

end Verdict
