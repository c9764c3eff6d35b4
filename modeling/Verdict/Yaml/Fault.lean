-- Why a YAML text cannot be read. Each fault is a cause with the place where
-- it was noticed, and often what was being read and where that began.
import Verdict.Yaml.Cursor

namespace Verdict.Yaml

/-- What was noticed. -/
inductive Problem where
  | missingColon
  | misplacedEntry
  | misplacedKey
  | misplacedValue
  | strayCharacter
  | unknownDirective
  | missingDirectiveName
  | badDirectiveName
  | missingVersion
  | longVersion
  | badVersion
  | missingBlank
  | missingBlankOrBreak
  | missingCommentOrBreak
  | duplicateVersion
  | foreignVersion
  | duplicateHandle
  | badAnchor
  | missingBang
  | missingTagEnd
  | missingTagSuffix
  | badTagEscape
  | badLeadingOctet
  | badTrailingOctet
  | unknownHandle
  | zeroIndentation
  | tabForIndentation
  | unexpectedMarker
  | unexpectedEnd
  | unknownEscape
  | badHexadecimal
  | badCodePoint
  | unexpectedColon
  | tabBeforeText
  | missingDocumentStart
  | missingContent
  | missingDash
  | missingKey
  | missingSequenceEnd
  | missingMappingEnd
  deriving DecidableEq, Repr

def Problem.text : Problem → String
  | .missingColon => "could not find expected ':'"
  | .misplacedEntry => "block sequence entries are not allowed in this context"
  | .misplacedKey => "mapping keys are not allowed in this context"
  | .misplacedValue => "mapping values are not allowed in this context"
  | .strayCharacter => "found character that cannot start any token"
  | .unknownDirective => "found unknown directive name"
  | .missingDirectiveName => "could not find expected directive name"
  | .badDirectiveName => "found unexpected non-alphabetical character"
  | .missingVersion => "did not find expected version number"
  | .longVersion => "found extremely long version number"
  | .badVersion => "did not find expected digit or '.' character"
  | .missingBlank => "did not find expected whitespace"
  | .missingBlankOrBreak => "did not find expected whitespace or line break"
  | .missingCommentOrBreak => "did not find expected comment or line break"
  | .duplicateVersion => "found duplicate %YAML directive"
  | .foreignVersion => "found incompatible YAML document"
  | .duplicateHandle => "found duplicate %TAG directive"
  | .badAnchor => "did not find expected alphabetic or numeric character"
  | .missingBang => "did not find expected '!'"
  | .missingTagEnd => "did not find the expected '>'"
  | .missingTagSuffix => "did not find expected tag URI"
  | .badTagEscape => "did not find URI escaped octet"
  | .badLeadingOctet => "found an incorrect leading UTF-8 octet"
  | .badTrailingOctet => "found an incorrect trailing UTF-8 octet"
  | .unknownHandle => "found undefined tag handle"
  | .zeroIndentation => "found an indentation indicator equal to 0"
  | .tabForIndentation => "found a tab character where an indentation space is expected"
  | .unexpectedMarker => "found unexpected document indicator"
  | .unexpectedEnd => "found unexpected end of stream"
  | .unknownEscape => "found unknown escape character"
  | .badHexadecimal => "did not find expected hexdecimal number"
  | .badCodePoint => "found invalid Unicode character escape code"
  | .unexpectedColon => "found unexpected ':'"
  | .tabBeforeText => "found a tab character that violates indentation"
  | .missingDocumentStart => "did not find expected <document start>"
  | .missingContent => "did not find expected node content"
  | .missingDash => "did not find expected '-' indicator"
  | .missingKey => "did not find expected key"
  | .missingSequenceEnd => "did not find expected ',' or ']'"
  | .missingMappingEnd => "did not find expected ',' or '\x7d'"

/-- What was being read. -/
inductive Reading where
  | token
  | simpleKey
  | directive
  | versionDirective
  | tagDirective
  | anchor
  | aliasName
  | tag
  | block
  | quoted
  | escape
  | plain
  | node
  | blockNode
  | flowNode
  | blockSequence
  | blockMapping
  | flowSequence
  | flowMapping
  deriving DecidableEq, Repr

def Reading.text : Reading → String
  | .token => "while scanning for the next token"
  | .simpleKey => "while scanning a simple key"
  | .directive => "while scanning a directive"
  | .versionDirective => "while scanning a %YAML directive"
  | .tagDirective => "while scanning a %TAG directive"
  | .anchor => "while scanning an anchor"
  | .aliasName => "while scanning an alias"
  | .tag => "while scanning a tag"
  | .block => "while scanning a block scalar"
  | .quoted => "while scanning a quoted scalar"
  | .escape => "while parsing a quoted scalar"
  | .plain => "while scanning a plain scalar"
  | .node => "while parsing a node"
  | .blockNode => "while parsing a block node"
  | .flowNode => "while parsing a flow node"
  | .blockSequence => "while parsing a block collection"
  | .blockMapping => "while parsing a block mapping"
  | .flowSequence => "while parsing a flow sequence"
  | .flowMapping => "while parsing a flow mapping"

/-- Why a text cannot be read. -/
inductive Fault where
  /-- The text holds a character that no text may hold, so many bytes after its
  start. -/
  | control (offset : Nat)
  /-- The text does not follow the rules. -/
  | malformed (problem : Problem) (mark : Mark) (reading : Option (Reading × Mark))
  /-- An alias names nothing that stands before it. -/
  | unknownAnchor (mark : Mark)
  /-- Another document follows the first. -/
  | manyDocuments
  deriving DecidableEq, Repr

/-- A problem with the thing that is being read. -/
def Fault.within (reading : Reading) (start : Mark) (problem : Problem) (mark : Mark) : Fault :=
  .malformed problem mark (some (reading, start))

/-- A place behind a message; the start of the text is not named. -/
def located (m : Mark) : String := if m.isStart then "" else " at " ++ m.text

def Fault.message : Fault → String
  | .control offset =>
    "control characters are not allowed" ++
      if offset = 0 then "" else " at position " ++ toString offset
  | .malformed problem mark none => problem.text ++ located mark
  | .malformed problem mark (some (reading, start)) =>
    problem.text ++ located mark ++ ", " ++ reading.text ++
      if start.line = mark.line ∧ start.column = mark.column then "" else located start
  | .unknownAnchor mark => "unknown anchor" ++ located mark
  | .manyDocuments =>
    "deserializing from YAML containing more than one document is not supported"

end Verdict.Yaml
