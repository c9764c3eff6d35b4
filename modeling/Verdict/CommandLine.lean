-- The commands: `strip` prints the probe of a query, `check` reports on a
-- script. Both are functions of the arguments and of the files that can be
-- read. Arguments are read from left to right, and the first that does not fit
-- decides.
import Verdict.Check
import Verdict.Probe
import Verdict.Script.Loading

namespace Verdict.CommandLine

/-! ## Arguments -/

/-- What is asked for. -/
inductive Command where
  | strip (query : String)
  | check (path : String) (quiet : Bool)
  deriving DecidableEq, Repr

/-- Why nothing is run. -/
inductive Stop where
  /-- The arguments do not fit. -/
  | usage
  | help
  | version
  deriving DecidableEq, Repr

inductive Flag where
  | verbose
  | json
  | quiet
  | help
  | version
  deriving DecidableEq, Repr

/-- Where flags stand: before the name of a command or behind it. -/
inductive Level where
  | top
  | strip
  | check
  deriving DecidableEq, Repr

/-- The flag is known at a level. -/
def Flag.isKnown (level : Level) : Flag → Bool
  | .verbose | .json | .help => true
  | .quiet => level = .check
  | .version => level = .top

/-- A flag from its long name. -/
def Flag.ofName? : String → Option Flag
  | "verbose" => some .verbose
  | "json" => some .json
  | "quiet" => some .quiet
  | "help" => some .help
  | "version" => some .version
  | _ => none

/-- A flag from its letter. -/
def Flag.ofLetter? : Char → Option Flag
  | 'v' => some .verbose
  | 'q' => some .quiet
  | 'h' => some .help
  | 'V' => some .version
  | _ => none

/-- An argument before any `--`. -/
inductive Word where
  /-- The flags, as far as they are known. -/
  | flags (flags : List (Option Flag))
  /-- A `--`: no flags follow. -/
  | separator
  | operand (text : String)
  deriving DecidableEq, Repr

/-- An argument at a level. A single dash is no flag. -/
def Word.ofArgument (level : Level) (argument : String) : Word :=
  match argument.toList with
  | ['-', '-'] => .separator
  | '-' :: '-' :: name =>
    .flags [(Flag.ofName? (String.ofList name)).filter (Flag.isKnown level)]
  | '-' :: c :: letters =>
    .flags ((c :: letters).map fun c => (Flag.ofLetter? c).filter (Flag.isKnown level))
  | _ => .operand argument

/-- The flags of a level with some more, none of which may be given twice. -/
def takeFlags (seen : List Flag) : List (Option Flag) → Except Stop (List Flag)
  | [] => .ok seen
  | none :: _ => .error .usage
  | some .help :: _ => .error .help
  | some .version :: _ => .error .version
  | some flag :: flags =>
    if seen.contains flag then .error .usage else takeFlags (flag :: seen) flags

/-- The one operand of a command, behind others. A path is not empty. -/
def takeOperand (level : Level) (operand : Option String) (text : String) :
    Except Stop String :=
  match operand with
  | some _ => .error .usage
  | none => if level = .check && text = "" then .error .usage else .ok text

/-- The flags and the operand behind the name of a command. -/
def parseCommand (level : Level) (seen : List Flag) (operand : Option String) :
    List String → Except Stop (List Flag × String)
  | [] =>
    match operand with
    | some text => .ok (seen, text)
    | none => .error .usage
  | argument :: rest =>
    match Word.ofArgument level argument with
    | .flags flags => do parseCommand level (← takeFlags seen flags) operand rest
    | .operand text => do
      let text ← takeOperand level operand text
      parseCommand level seen (some text) rest
    | .separator =>
      match operand, rest with
      | some text, [] => .ok (seen, text)
      | none, [text] => (takeOperand level none text).map (seen, ·)
      | _, _ => .error .usage

/-- The command that the arguments name, and what it is given. -/
def parseTop (seen : List Flag) : List String → Except Stop Command
  | [] => .error .usage
  | argument :: rest =>
    match Word.ofArgument .top argument with
    | .flags flags => do parseTop (← takeFlags seen flags) rest
    | .separator => .error .usage
    | .operand name => do
      if name = "strip" then
        let (_, query) ← parseCommand .strip [] none rest
        return .strip query
      else if name = "check" then
        let (flags, path) ← parseCommand .check [] none rest
        return .check path (flags.contains .quiet)
      else if name = "help" && [[], ["strip"], ["check"], ["help"]].contains rest then
        .error .help
      else .error .usage

/-- The command that the arguments ask for. -/
def parse (arguments : List String) : Except Stop Command := parseTop [] arguments

/-! ## Results -/

/-- What a run of the program shows. -/
structure Result where
  code : Nat
  out : String
  err : String
  deriving DecidableEq, Repr

/-- Lines as they are printed. -/
def unlines (lines : List String) : String := String.join (lines.map (· ++ "\n"))

/-- A text with spaces before each line but the first. -/
def indentFurther (spaces : Nat) (text : String) : String :=
  String.ofList (text.toList.flatMap fun c =>
    if c = '\n' then '\n' :: List.replicate spaces ' ' else [c])

/-- A number, right-aligned. -/
def aligned (width n : Nat) : String :=
  let digits := toString n
  String.ofList (List.replicate (width - digits.length) ' ') ++ digits

/-- An error and what caused it, the nearest cause first. Several causes are
numbered. -/
def errorReport (message : String) (causes : List String) : String :=
  let written :=
    match causes with
    | [cause] => ["    " ++ indentFurther 4 cause]
    | causes => causes.mapIdx fun n cause => aligned 5 n ++ ": " ++ indentFurther 7 cause
  unlines (("Error: " ++ message) :: if causes.isEmpty then [] else "" :: "Caused by:" :: written)

def usageText : String :=
  "Usage: probe-assert [-v] [--json] (strip QUERY | check [-q] PATH)\n"

/-- The result of a command that is not run. -/
def Stop.result : Stop → Result
  | .usage => ⟨2, "", usageText⟩
  | .help => ⟨0, usageText, ""⟩
  | .version => ⟨0, "probe-assert 0.1.0\n", ""⟩

/-- The probe of a query, and a note if it is the query itself. -/
def runStrip (query : String) : Result :=
  let probe := Probe.strip query
  ⟨0, unlines [probe],
    if probe = query then unlines ["(no trailing string comparison; query unchanged)"] else ""⟩

/-- The report on the script at a path. -/
def runCheck (read : Reader) (path : String) (quiet : Bool) : Result :=
  match Script.load read path with
  | .error e => ⟨1, "", errorReport "Failed to load script file" e.chain⟩
  | .ok script =>
    let display : Display := if quiet then .quiet else {}
    ⟨if Check.passes script then 0 else 1, unlines (Check.report display script path), ""⟩

/-- The result of a command. -/
def Command.run (read : Reader) : Command → Result
  | .strip query => runStrip query
  | .check path quiet => runCheck read path quiet

/-- The result of the program. -/
def run (read : Reader) (arguments : List String) : Result :=
  match parse arguments with
  | .error stop => stop.result
  | .ok command => command.run read

end Verdict.CommandLine
