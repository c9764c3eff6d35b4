-- The log of evaluations and runs: the events in the order they happened,
-- and how each one reads.
import Verdict.Failure

namespace Verdict

/-- How much an event matters. -/
inductive Level where
  | debug
  | warn
  deriving DecidableEq, Repr

def Level.name : Level → String
  | .debug => "DEBUG"
  | .warn => "WARN"

/-- Something that happened. -/
inductive Event where
  /-- A run of a script with this many assertions started. -/
  | running (script : String) (count : Nat)
  /-- An expression was evaluated. -/
  | evaluated (mode : Mode) (text : String) (passed : Bool)
  /-- A probe has no value, for the reason of the message. -/
  | unprobed (probe message : String)
  /-- A diagnostic line was sent to the log. -/
  | diagnostic (line : String)
  /-- An assertion failed. -/
  | failed (mode : Mode) (expression : String)
  deriving DecidableEq, Repr

/-! ## How an event reads -/

def Event.level : Event → Level
  | .unprobed _ _ => .warn
  | _ => .debug

/-- The part of the program that an event comes from. -/
def Event.target : Event → String
  | .running _ _ => "probe_assert::script::runner"
  | .evaluated _ _ _ => "probe_assert::eval"
  | .unprobed _ _ => "probe_assert::eval"
  | .diagnostic _ => "probe_assert::diagnostic"
  | .failed _ _ => "probe_assert::report"

def Event.message : Event → String
  | .running _ _ => "running script"
  | .evaluated mode _ _ => "evaluated " ++ mode.name
  | .unprobed _ _ => "cannot evaluate probe as string"
  | .diagnostic line => line
  | .failed _ _ => "assertion failed"

/-- The named values of an event, in order. -/
def Event.fields : Event → List (String × String)
  | .running script count => [("script", script), ("count", toString count)]
  | .evaluated .test text passed => [("expression", text), ("passed", toString passed)]
  | .evaluated .xpath text passed => [("query", text), ("passed", toString passed)]
  | .unprobed probe message => [("probe", probe), ("error", message)]
  | .diagnostic _ => []
  | .failed mode expression => [("mode", mode.name), ("expression", expression)]

end Verdict
