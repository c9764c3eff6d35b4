-- The tokens of a whole text.
import Verdict.Yaml.Token.Progress

namespace Verdict.Yaml

/-- The tokens of a text, up to the fault that ends them if there is one. -/
structure Tokens where
  list : List Token
  fault : Option Fault

/-- All tokens from a scanner's place on. Of a text with a fault only the tokens
that were settled before it count. -/
def Scanner.scan (s : Scanner) : Tokens :=
  match _h : s.next with
  | .error fault => ⟨(s.tokens.drop (s.count - s.settled)).reverse, some fault⟩
  | .ok (.last tokens) => ⟨tokens.reverse, none⟩
  | .ok (.more s') => s'.scan
termination_by s.cursor.rest.length
decreasing_by exact Scanner.length_next_lt _h

/-- The byte offset of the first character that no text may hold. -/
def controlOffset? : List Char → Nat → Option Nat
  | [], _ => none
  | c :: rest, n => if isPrintable c then controlOffset? rest (n + c.utf8Size) else some n

/-- The tokens of a text. A character that no text may hold spoils all of it. -/
def Tokens.ofText (cs : List Char) : Tokens :=
  match controlOffset? cs 0 with
  | some n => ⟨[], some (.control n)⟩
  | none => Scanner.scan { cursor := ⟨cs, {}⟩ }

end Verdict.Yaml
