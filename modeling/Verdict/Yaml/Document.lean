-- The document of a text: its root node, which may break off, and why the text
-- is not one whole document if it is not. Only the first document is read; all
-- that matters of what follows is whether there is anything.
import Verdict.Yaml.Frame
import Verdict.Yaml.Tokens

namespace Verdict.Yaml

/-- What was read of a text. -/
structure Document where
  root : Node
  /-- Why the text is not exactly one well-formed document. -/
  fault : Option Fault

/-! ## Directives -/

/-- The directives before a document. -/
structure Directives where
  hasVersion : Bool := false
  /-- What the handles of tags stand for, the first first. -/
  handles : List (String × String) := []

namespace Directives

def isEmpty (d : Directives) : Bool := !d.hasVersion && d.handles.isEmpty

/-- One more directive. There may be one version, and it must be a version 1.1
or 1.2; a handle may be given a meaning once. -/
def add (d : Directives) (directive : Directive) (mark : Mark) : Except Fault Directives :=
  match directive with
  | .version major minor =>
    if d.hasVersion then .error (.malformed .duplicateVersion mark none)
    else if major = 1 && (minor = 1 || minor = 2) then .ok { d with hasVersion := true }
    else .error (.malformed .foreignVersion mark none)
  | .tag handle stem =>
    if (d.handles.lookup handle).isSome then .error (.malformed .duplicateHandle mark none)
    else .ok { d with handles := d.handles ++ [(handle, stem)] }

/-- The names at the start of a document: two handles have a meaning unless the
directives give them another. -/
def scope (d : Directives) : Scope :=
  { handles := d.handles ++ [("!", "!"), ("!!", "tag:yaml.org,2002:")] }

end Directives

/-! ## Reading on -/

/-- How far a text is read. -/
inductive Stage where
  /-- The document has not started. -/
  | opening (directives : Directives)
  /-- The innermost frame and the frames around it. -/
  | within (scope : Scope) (frame : Frame) (around : List Frame)
  /-- The root is complete. -/
  | complete (root : Node)
  /-- The document has ended. `more` says whether another one follows. -/
  | ended (root : Node) (more : Bool)
  /-- A token stands where it may not. -/
  | broken (root : Node) (fault : Fault)

/-- A token belongs to no document. -/
def Token.Kind.isBetween : Token.Kind → Bool
  | .documentEnd | .streamEnd => true
  | _ => false

namespace Stage

/-- A node that is complete goes to the frame around it. -/
def hand (scope : Scope) (node : Node) : List Frame → Stage
  | [] => .complete node
  | frame :: around => .within scope (frame.receive node) around

/-- The root of a document if the text breaks off within the frames. -/
def breakOff (fault : Fault) (frame : Frame) (around : List Frame) : Node :=
  (frame :: around).foldl (fun inner frame => frame.breakOff fault inner) (.cut fault)

/-- The frames at a token. -/
def feed (scope : Scope) (token : Token) (frame : Frame) (around : List Frame) : Stage :=
  match frame.accept scope token with
  | .take frame more => .within scope frame (more ++ around)
  | .done node => hand scope node around
  | .leave node =>
    match around with
    | [] => .ended (node.getD (.empty token.start)) (!token.kind.isBetween)
    | outer :: around => feed scope token ((node.map outer.receive).getD outer) around
  | .refuse fault frame => .broken (breakOff fault frame around) fault
termination_by structural around

/-- The names of a scope after a token. -/
def namesAfter (scope : Scope) (token : Token) : Scope :=
  match token.kind with
  | .anchor name => scope.define name
  | _ => scope

/-- The start of a document at a token. -/
def openAt (directives : Directives) (token : Token) : Stage :=
  match token.kind with
  | .directive directive =>
    match directives.add directive token.start with
    | .ok directives => .opening directives
    | .error fault => .broken (.cut fault) fault
  | .documentStart => .within directives.scope (.expect .content) []
  | kind =>
    if !directives.isEmpty then
      let fault := Fault.malformed .missingDocumentStart token.start none
      .broken (.cut fault) fault
    else if kind = .streamEnd then .ended (.empty token.start) false
    else feed (namesAfter directives.scope token) token (.expect .document) []

/-- The next token. -/
def next (stage : Stage) (token : Token) : Stage :=
  match stage with
  | .opening directives => openAt directives token
  | .within scope frame around => feed (namesAfter scope token) token frame around
  | .complete root => .ended root (!token.kind.isBetween)
  | .ended root more => .ended root (more || !token.kind.isBetween)
  | .broken root fault => .broken root fault

/-- The document when there are no more tokens, because of a fault or not. -/
def document (fault : Option Fault) : Stage → Document
  | .opening _ =>
    match fault with
    | some fault => ⟨.cut fault, fault⟩
    | none => ⟨.empty {}, none⟩
  | .within _ frame around =>
    let fault := fault.getD (.malformed .unexpectedEnd {} none)
    ⟨breakOff fault frame around, fault⟩
  | .complete root => ⟨root, fault⟩
  | .ended root more => ⟨root, if more || fault.isSome then some .manyDocuments else none⟩
  | .broken root fault => ⟨root, fault⟩

end Stage

namespace Document

/-- The document of some tokens. -/
def ofTokens (tokens : Tokens) : Document :=
  (tokens.list.foldl Stage.next (.opening {})).document tokens.fault

/-- The document of a text. -/
def ofText (cs : List Char) : Document := ofTokens (.ofText cs)

end Document

end Verdict.Yaml
