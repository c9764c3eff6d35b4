-- The tokens of a text, in one pass from its start to its end. Two things are
-- known only later than they stand: a scalar is a key if a `:` follows it, and
-- a block is entered with its first key. So the scanner remembers which token
-- may turn out to start a key, and puts the missing tokens before it.
import Verdict.Yaml.Scalar.Block
import Verdict.Yaml.Scalar.Plain
import Verdict.Yaml.Scalar.Quoted
import Verdict.Yaml.Token

namespace Verdict.Yaml

/-- A place where a key may have started, if a `:` follows on the same line and
not too far away. -/
structure KeyStart where
  /-- How many tokens stand before it. -/
  index : Nat
  mark : Mark
  /-- Nothing but a key may stand here: it begins a line of a block mapping. -/
  required : Bool
  deriving DecidableEq, Repr

/-- A text, partly read. -/
structure Scanner where
  cursor : Cursor
  /-- The tokens so far, the last first. -/
  tokens : List Token := []
  /-- How many they are. -/
  count : Nat := 0
  /-- The columns of the open blocks, the innermost first. -/
  indents : List Nat := []
  /-- Where a key may have started in the innermost collection. -/
  key : Option KeyStart := none
  /-- The same for the collections around each open flow collection. -/
  outerKeys : List (Option KeyStart) := []
  /-- A key may start here. -/
  keyAllowed : Bool := true

namespace Scanner

/-- Within a flow collection. -/
def inFlow (s : Scanner) : Bool := !s.outerKeys.isEmpty

def mark (s : Scanner) : Mark := s.cursor.mark

/-- One more token, before the one that so many tokens stand before. -/
def insert (s : Scanner) (index : Nat) (token : Token) : Scanner :=
  { s with tokens := s.tokens.insertIdx (s.count - index) token, count := s.count + 1 }

/-- One more token. -/
def push (s : Scanner) (token : Token) : Scanner :=
  { s with tokens := token :: s.tokens, count := s.count + 1 }

/-! ## White space and comments -/

/-- Past white space, line breaks and comments, and whether a key may start
there: a new line allows it in a block. A tab is white space only where no key
may start, or in a flow collection. -/
def skipSpace (inFlow : Bool) : Bool → Bool → List Char → Mark → Cursor × Bool
  | _, allowed, [], m => (⟨[], m⟩, allowed)
  | _, allowed, '\r' :: '\n' :: rest, m =>
    skipSpace inFlow false (allowed || !inFlow) rest (m.newline 2)
  | comment, allowed, c :: rest, m =>
    if isBreak c then skipSpace inFlow false (allowed || !inFlow) rest (m.newline c.utf8Size)
    else if comment then skipSpace inFlow true allowed rest (m.past c)
    else if c = ' ' || (c = '\t' && (inFlow || !allowed)) ||
        (c = '\ufeff' && m.column = 0) then
      skipSpace inFlow false allowed rest (m.past c)
    else if c = '#' then skipSpace inFlow true allowed rest (m.past c)
    else (⟨c :: rest, m⟩, allowed)

theorem length_skipSpace_le (inFlow comment allowed : Bool) (cs : List Char) (m : Mark) :
    (skipSpace inFlow comment allowed cs m).1.rest.length ≤ cs.length := by
  fun_induction skipSpace inFlow comment allowed cs m
  all_goals simp only [List.length_cons, List.length_nil] at *
  all_goals omega

/-- At the next token. -/
def toToken (s : Scanner) : Scanner :=
  let (cursor, allowed) :=
    skipSpace s.inFlow false s.keyAllowed s.cursor.rest s.cursor.mark
  { s with cursor, keyAllowed := allowed }

/-! ## Keys -/

/-- A key can no longer have started there. -/
def KeyStart.isStale (k : KeyStart) (m : Mark) : Bool :=
  k.mark.line < m.line || k.mark.index + 1024 < m.index

/-- A place is given up as the start of a key; a required one may not be. -/
def dropKey (m : Mark) : Option KeyStart → Except Fault (Option KeyStart)
  | none => .ok none
  | some k =>
    if k.required then .error (.within .simpleKey k.mark .missingColon m) else .ok none

/-- A place is given up if it is too far back. -/
def dropStaleKey (m : Mark) (key : Option KeyStart) : Except Fault (Option KeyStart) :=
  match key with
  | none => .ok none
  | some k => if KeyStart.isStale k m then dropKey m (some k) else .ok (some k)

/-- The places that are too far back are given up. -/
def dropStaleKeys (s : Scanner) : Except Fault Scanner := do
  let outerKeys ← s.outerKeys.mapM (dropStaleKey s.mark)
  let key ← dropStaleKey s.mark s.key
  return { s with outerKeys, key }

/-- The innermost place is given up. -/
def forgetKey (s : Scanner) : Except Fault Scanner := do
  return { s with key := ← dropKey s.mark s.key }

/-- A key may start with the next token. -/
def rememberKey (s : Scanner) : Except Fault Scanner := do
  if s.keyAllowed then
    let required := !s.inFlow && s.indents.head? = some s.mark.column
    return { ← s.forgetKey with key := some ⟨s.count, s.mark, required⟩ }
  else return s

/-- How many tokens are settled: none of them can still turn out to start a
key. -/
def settled (s : Scanner) : Nat :=
  (s.key :: s.outerKeys).foldl (fun n k => min n ((k.map KeyStart.index).getD n)) s.count

/-! ## Blocks -/

/-- A column lies further in than the innermost block. -/
def isDeeper (s : Scanner) (column : Nat) : Bool :=
  match s.indents with
  | [] => true
  | indent :: _ => indent < column

/-- A block starts in this column, unless one is open there. Its token goes
before the token of the given number. -/
def openBlock (s : Scanner) (kind : Token.Kind) (column index : Nat) (m : Mark) : Scanner :=
  if !s.inFlow && s.isDeeper column then
    { s.insert index (.at kind m) with indents := column :: s.indents }
  else s

/-- The blocks further in than a column end. -/
def closeBlocks (s : Scanner) (stays : Nat → Bool) : Scanner :=
  if s.inFlow then s
  else
    let closed := s.indents.takeWhile (!stays ·)
    let blockEnd := Token.at .blockEnd s.mark
    { s with
      indents := s.indents.drop closed.length
      tokens := List.replicate closed.length blockEnd ++ s.tokens
      count := s.count + closed.length }

/-! ## Tokens -/

/-- A sign of some characters. -/
def sign (s : Scanner) (kind : Token.Kind) (n : Nat) : Scanner :=
  { s.push ⟨kind, s.mark, s.mark.advance n⟩ with cursor := s.cursor.advance n }

/-- All blocks end before directives and document markers. -/
def endBlocks (s : Scanner) : Except Fault Scanner := do
  let s ← (s.closeBlocks fun _ => false).forgetKey
  return { s with keyAllowed := false }

def scanDirective (s : Scanner) : Except Fault Scanner := do
  let s ← s.endBlocks
  let (directive, cursor) ← Directive.read s.mark (s.cursor.advance 1)
  return { s.push ⟨.directive directive, s.mark, cursor.mark⟩ with cursor }

def scanDocumentMarker (s : Scanner) (kind : Token.Kind) : Except Fault Scanner := do
  return (← s.endBlocks).sign kind 3

def openFlow (s : Scanner) (kind : Token.Kind) : Except Fault Scanner := do
  let s ← s.rememberKey
  return { s.sign kind 1 with key := none, outerKeys := s.key :: s.outerKeys, keyAllowed := true }

def closeFlow (s : Scanner) (kind : Token.Kind) : Except Fault Scanner := do
  let s ← s.forgetKey
  let s :=
    match s.outerKeys with
    | key :: outerKeys => { s with key, outerKeys }
    | [] => s
  return { s.sign kind 1 with keyAllowed := false }

def scanFlowEntry (s : Scanner) : Except Fault Scanner := do
  return { (← s.forgetKey).sign .flowEntry 1 with keyAllowed := true }

/-- In a block, a sign that starts a line of it may stand only where a key may
start, and enters the block. -/
def enterBlock (s : Scanner) (kind : Token.Kind) (problem : Problem) : Except Fault Scanner :=
  if s.inFlow then .ok s
  else if s.keyAllowed then .ok (s.openBlock kind s.mark.column s.count s.mark)
  else .error (.malformed problem s.mark none)

def scanBlockEntry (s : Scanner) : Except Fault Scanner := do
  let s ← (← s.enterBlock .blockSequenceStart .misplacedEntry).forgetKey
  return { s.sign .blockEntry 1 with keyAllowed := true }

def scanKey (s : Scanner) : Except Fault Scanner := do
  let s ← (← s.enterBlock .blockMappingStart .misplacedKey).forgetKey
  return { s.sign .key 1 with keyAllowed := !s.inFlow }

/-- A `:` makes a key of what started at the remembered place. -/
def scanValue (s : Scanner) : Except Fault Scanner := do
  match s.key with
  | some k =>
    let s := s.insert k.index (.at .key k.mark)
    let s := s.openBlock .blockMappingStart k.mark.column k.index k.mark
    return { s.sign .value 1 with key := none, keyAllowed := false }
  | none =>
    let s ← s.enterBlock .blockMappingStart .misplacedValue
    return { s.sign .value 1 with keyAllowed := !s.inFlow }

def scanAnchor (s : Scanner) (reading : Reading) (kind : String → Token.Kind) :
    Except Fault Scanner := do
  let s ← s.rememberKey
  let (name, cursor) ← Anchor.read reading s.mark (s.cursor.advance 1)
  return { s.push ⟨kind (String.ofList name), s.mark, cursor.mark⟩ with
    cursor, keyAllowed := false }

def scanTag (s : Scanner) : Except Fault Scanner := do
  let s ← s.rememberKey
  let (handle, suffix, cursor) ← Tag.readWhole s.inFlow s.mark s.cursor
  return { s.push ⟨.tag (String.ofList handle) (String.ofList suffix), s.mark, cursor.mark⟩ with
    cursor, keyAllowed := false }

def scanBlockScalar (s : Scanner) (literal : Bool) : Except Fault Scanner := do
  let s ← s.forgetKey
  let (text, cursor) ← Block.read literal s.indents.head? s.mark (s.cursor.advance 1)
  let style := if literal then Style.literal else .folded
  return { s.push ⟨.scalar style (String.ofList text), s.mark, cursor.mark⟩ with
    cursor, keyAllowed := true }

def scanQuoted (s : Scanner) (single : Bool) : Except Fault Scanner := do
  let s ← s.rememberKey
  let (text, cursor) ← Quoted.read single s.mark (s.cursor.advance 1)
  let style := if single then Style.singleQuoted else .doubleQuoted
  return { s.push ⟨.scalar style (String.ofList text), s.mark, cursor.mark⟩ with
    cursor, keyAllowed := false }

/-- A plain scalar that starts with the given character. -/
def scanPlain (s : Scanner) (c : Char) : Except Fault Scanner := do
  let s ← s.rememberKey
  let place : Plain.Place := ⟨s.inFlow, (s.indents.head?.map (· + 1)).getD 0, s.mark⟩
  let after := s.cursor.advance 1
  let read ← Plain.read place after.rest after.mark .none [c] after.mark
  return { s.push ⟨.scalar .plain (String.ofList read.text), s.mark, read.stop⟩ with
    cursor := read.cursor, keyAllowed := read.brokeLine }

/-- A character that starts no plain scalar. -/
def isIndicator (c : Char) : Bool := "-?:,[]\x7b\x7d#&*!|>'\"%@`".toList.contains c

/-- A plain scalar starts here: at no indicator, at a dash before no blank, or
in a block at a `?` or `:` that a word goes on with. -/
def startsPlain (s : Scanner) (c : Char) (rest : List Char) : Bool :=
  let beforeBlank :=
    match rest with
    | next :: _ => isBlank next
    | [] => false
  !(isBlank c || isBreak c || isIndicator c) || (c = '-' && !beforeBlank) ||
    (!s.inFlow && (c = '?' || c = ':') && !endsWord rest)

/-- The scalar, alias, anchor or tag that starts with the given character. -/
def scanContent (s : Scanner) (c : Char) (rest : List Char) : Except Fault Scanner :=
  if c = '*' then s.scanAnchor .aliasName .aliasOf
  else if c = '&' then s.scanAnchor .anchor .anchor
  else if c = '!' then s.scanTag
  else if c = '|' && !s.inFlow then s.scanBlockScalar true
  else if c = '>' && !s.inFlow then s.scanBlockScalar false
  else if c = '\'' then s.scanQuoted true
  else if c = '"' then s.scanQuoted false
  else if s.startsPlain c rest then s.scanPlain c
  else .error (.within .token s.mark .strayCharacter s.mark)

/-- The sign of a collection that the given character is, or other content. -/
def scanSign (s : Scanner) (c : Char) (rest : List Char) : Except Fault Scanner :=
  if c = '[' then s.openFlow .flowSequenceStart
  else if c = '\x7b' then s.openFlow .flowMappingStart
  else if c = ']' then s.closeFlow .flowSequenceEnd
  else if c = '\x7d' then s.closeFlow .flowMappingEnd
  else if c = ',' then s.scanFlowEntry
  else if c = '-' && endsWord rest then s.scanBlockEntry
  else if c = '?' && (s.inFlow || endsWord rest) then s.scanKey
  else if c = ':' && (s.inFlow || endsWord rest) then s.scanValue
  else s.scanContent c rest

/-- The token that starts with the given character. Directives and document
markers stand at the start of a line only. -/
def scanToken (s : Scanner) (c : Char) (rest : List Char) : Except Fault Scanner :=
  if s.mark.column = 0 && c = '%' then s.scanDirective
  else if s.mark.column = 0 && isDocumentMarker (c :: rest) then
    s.scanDocumentMarker (if c = '-' then .documentStart else .documentEnd)
  else s.scanSign c rest

/-- The end of the text ends all blocks; it stands at the start of a line. -/
def scanEnd (s : Scanner) : Except Fault Scanner := do
  let m := s.mark
  let m := if m.column = 0 then m else ⟨m.index, m.line + 1, 0⟩
  let s := { s with cursor := ⟨[], m⟩ }
  let s ← (s.closeBlocks fun _ => false).forgetKey
  return { s.push (.at .streamEnd m) with keyAllowed := false }

/-- What reading a token comes to. -/
inductive Step where
  /-- There is more to read. -/
  | more (s : Scanner)
  /-- The text has ended; these are all its tokens, the last first. -/
  | last (tokens : List Token)

/-- The next token, with the tokens that the indentation brings before it. -/
def next (s : Scanner) : Except Fault Step := do
  let s ← s.toToken.dropStaleKeys
  let s := s.closeBlocks (· ≤ s.mark.column)
  match s.cursor.rest with
  | [] => return .last (← (← s.scanEnd).dropStaleKeys).tokens
  | c :: rest => return .more (← (← s.scanToken c rest).dropStaleKeys)

end Scanner

end Verdict.Yaml
