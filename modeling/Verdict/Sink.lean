-- Where diagnostic lines go. Emitting a line cannot fail, and leaves a trail:
-- events in the log, lines kept in memory, lines for standard error. Main
-- statements: wrapping a sink changes nothing, and each line goes to one
-- place at most.
import Verdict.Log

namespace Verdict

/-- What a step leaves behind: events in the log, lines kept in memory, and
lines for standard error, each in order. -/
structure Trail where
  events : List Event := []
  kept : List String := []
  printed : List String := []
  deriving DecidableEq, Repr

/-- One trail after the other. -/
def Trail.append (a b : Trail) : Trail :=
  ⟨a.events ++ b.events, a.kept ++ b.kept, a.printed ++ b.printed⟩

instance : Append Trail := ⟨Trail.append⟩

/-- The trail of events alone. -/
def Trail.ofEvents (events : List Event) : Trail := { events }

@[simp] theorem Trail.events_append (a b : Trail) : (a ++ b).events = a.events ++ b.events := rfl

@[simp] theorem Trail.kept_append (a b : Trail) : (a ++ b).kept = a.kept ++ b.kept := rfl

theorem Trail.append_assoc (a b c : Trail) : a ++ b ++ c = a ++ (b ++ c) := by
  cases a; cases b; cases c
  show Trail.append (Trail.append _ _) _ = Trail.append _ (Trail.append _ _)
  simp [Trail.append, List.append_assoc]

@[simp] theorem Trail.append_empty (a : Trail) : a ++ ({} : Trail) = a := by
  cases a
  show Trail.append _ _ = _
  simp [Trail.append]

@[simp] theorem Trail.empty_append (a : Trail) : ({} : Trail) ++ a = a := by
  cases a
  show Trail.append _ _ = _
  simp [Trail.append]

/-! ## Sinks -/

/-- A destination of diagnostic lines. -/
inductive Sink where
  /-- Forgets every line. -/
  | discard
  /-- Writes lines to standard error. -/
  | stderr
  /-- Logs lines as events. -/
  | log
  /-- Keeps lines in memory. -/
  | memory
  /-- A sink held alone by its owner. -/
  | boxed (inner : Sink)
  /-- A sink held together with others. -/
  | shared (inner : Sink)
  deriving DecidableEq, Repr

/-- The trail of one line sent to a sink. -/
def Sink.emit : Sink → String → Trail
  | .discard, _ => {}
  | .stderr, line => { printed := [line] }
  | .log, line => { events := [.diagnostic line] }
  | .memory, line => { kept := [line] }
  | .boxed inner, line => inner.emit line
  | .shared inner, line => inner.emit line

/-- A memory sink, under whatever wrapping. -/
def Sink.isMemory : Sink → Bool
  | .memory => true
  | .boxed inner => inner.isMemory
  | .shared inner => inner.isMemory
  | _ => false

theorem Sink.kept_emit (sink : Sink) (line : String) :
    (sink.emit line).kept = if sink.isMemory then [line] else [] := by
  induction sink with
  | boxed inner ih => exact ih
  | shared inner ih => exact ih
  | _ => simp [Sink.emit, Sink.isMemory]

end Verdict
