-- A reporter and a memory sink over time. Main statement: the memory holds the
-- lines that were handed to it and those of the failures that were raised, in
-- the order of the steps, and nothing in it is ever changed or lost.
import Verdict.Proofs.Evaluation.Trail

namespace Verdict

/-- Whoever holds the memory, alone or with others, hands lines to the same place. -/
theorem Sink.emit_of_isMemory {sink : Sink} (h : sink.isMemory = true) (line : String) :
    sink.emit line = Sink.memory.emit line := by
  induction sink with
  | memory => rfl
  | boxed inner ih => exact ih h
  | shared inner ih => exact ih h
  | discard => cases h
  | stderr => cases h
  | log => cases h

namespace Reporter

/-- The lines that a step adds to the memory. -/
def Step.lines : Step → List String
  | .emit line => [line]
  | .inspect => []
  | .raise f =>
    match f.diagnostic with
    | none => []
    | some (.found _ value) =>
      ["**test:assert failed " ++ f.expression ++ " => \"" ++ value ++ "\""]
    | some (.unavailable probe) =>
      ["**test:assert failed " ++ probe ++ " cannot evaluate as string"]

theorem kept_stepTrail {r : Reporter} (h : r.sink.isMemory = true) (step : Step) :
    (r.stepTrail step).kept = step.lines := by
  cases step with
  | emit line => rfl
  | inspect => rfl
  | raise f =>
    rw [stepTrail, kept_trail, if_pos h, Step.lines, Failure.sinkLine?]
    rcases f.diagnostic with _ | ⟨probe, value⟩ | probe
    · rfl
    · rfl
    · simp only [Option.map_some, Option.toList_some, String.append_assoc]
      rfl

theorem snapshots_cons {r : Reporter} (h : r.sink.isMemory = true) (lines : List String)
    (step : Step) (steps : List Step) :
    r.snapshots lines (step :: steps) =
      (lines ++ step.lines) :: r.snapshots (lines ++ step.lines) steps := by
  rw [snapshots, kept_stepTrail h]

/-- The snapshot after the first `n + 1` steps. -/
theorem getElem?_snapshots {r : Reporter} (h : r.sink.isMemory = true) (lines : List String)
    {steps : List Step} {n : Nat} (hn : n < steps.length) :
    (r.snapshots lines steps)[n]? = some (lines ++ (steps.take (n + 1)).flatMap Step.lines) := by
  induction steps generalizing lines n with
  | nil => cases hn
  | cons step steps ih =>
    rw [snapshots_cons h]
    cases n with
    | zero => simp
    | succ n =>
      rw [List.getElem?_cons_succ, ih _ (Nat.lt_of_succ_lt_succ hn), List.take_succ_cons,
        List.flatMap_cons, List.append_assoc]

theorem prefix_of_mem_snapshots {r : Reporter} (lines : List String) (steps : List Step)
    {snapshot : List String} (h : snapshot ∈ r.snapshots lines steps) : lines <+: snapshot := by
  induction steps generalizing lines with
  | nil => cases h
  | cons step steps ih =>
    rcases List.mem_cons.mp h with rfl | h
    · exact List.prefix_append _ _
    · exact (List.prefix_append _ _).trans (ih _ h)

/-- Whatever the sink is, the memory only grows. -/
theorem pairwise_snapshots (r : Reporter) (lines : List String) (steps : List Step) :
    (r.snapshots lines steps).Pairwise (· <+: ·) := by
  induction steps generalizing lines with
  | nil => exact .nil
  | cons step steps ih =>
    exact .cons (fun _ h => prefix_of_mem_snapshots _ steps h) (ih _)

/-- A reporter whose sink is the memory, through whatever wrapping, and someone
who hands lines to the same memory take steps in any order. The memory after any
number of them holds the lines that each step adds, one behind the other: a line
that was handed over, or the one line of a failure with a diagnostic. What it
held before stays the first part of it. Raising gives back the failure itself,
and does so with any other sink. -/
theorem the_memory_holds_every_line_in_order {sink : Sink} (hsink : sink.isMemory = true)
    (steps : List Step) :
    (snapshots ⟨sink⟩ [] steps).length = steps.length ∧
    (∀ n, n < steps.length →
      (snapshots ⟨sink⟩ [] steps)[n]? = some ((steps.take (n + 1)).flatMap Step.lines)) ∧
    (snapshots ⟨sink⟩ [] steps).Pairwise (· <+: ·) ∧
    (∀ (handle : Sink) (line : String), handle.isMemory = true →
      handle.emit line = Sink.memory.emit line) ∧
    (∀ (reporter : Reporter) (f : Failure),
      reporter.raise f = (.failed f, reporter.stepTrail (.raise f))) := by
  refine ⟨length_snapshots _ _ _, ?_, pairwise_snapshots _ _ _, ?_, fun _ _ => rfl⟩
  · intro n hn
    exact getElem?_snapshots hsink [] hn
  · intro handle line h
    exact Sink.emit_of_isMemory h line

/-- A line from outside stands between those of two failures; a failure without
a diagnostic and a look at the reporter add none. -/
theorem a_line_from_outside_stands_between_failures :
    (Sink.boxed (.shared .memory)).isMemory = true ∧
    (snapshots ⟨.boxed (.shared .memory)⟩ []
      [.raise ⟨.xpath, "a = 'x'", "", some (.found "a " "v")⟩, .emit "outside",
        .raise ⟨.test, "t", "", none⟩, .inspect,
        .raise ⟨.xpath, "a != 'x'", "", some (.unavailable "a !")⟩])[4]? =
      some ["**test:assert failed a = 'x' => \"v\"", "outside",
        "**test:assert failed a ! cannot evaluate as string"] := by
  have hmemory : (Sink.boxed (.shared .memory)).isMemory = true := rfl
  have h := the_memory_holds_every_line_in_order hmemory
    [.raise ⟨.xpath, "a = 'x'", "", some (.found "a " "v")⟩, .emit "outside",
      .raise ⟨.test, "t", "", none⟩, .inspect,
      .raise ⟨.xpath, "a != 'x'", "", some (.unavailable "a !")⟩]
  exact ⟨hmemory, h.2.1 4 (by decide)⟩

end Reporter

end Verdict
