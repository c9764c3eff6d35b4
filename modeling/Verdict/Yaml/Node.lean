-- Nodes: the scalars, sequences and mappings of a document. A node that
-- aliases may stand for has a number, and an alias is the number of such a
-- node. Where a text cannot be read further, a node says why.
import Verdict.Yaml.Token

namespace Verdict.Yaml

/-- A node of a document, with the place where it starts. -/
inductive Node where
  | scalar (mark : Mark) (anchor : Option Nat) (tag : Option String) (style : Style)
    (text : String)
  | sequence (mark : Mark) (anchor : Option Nat) (items : List Node)
  | mapping (mark : Mark) (anchor : Option Nat) (entries : List (Node × Node))
  /-- The node that has this number. -/
  | aliasOf (anchor : Nat)
  /-- The text breaks off here. -/
  | cut (fault : Fault)
  deriving Inhabited

namespace Node

/-- What is understood where nothing is written. -/
def empty (mark : Mark) : Node := .scalar mark none none .plain ""

/-- A node if it has the given number. -/
def ifNumbered (n : Nat) (anchor : Option Nat) (node : Node) : Option Node :=
  if anchor = some n then some node else none

mutual

/-- The last node with the given number, in the order in which nodes start. -/
def find? (n : Nat) : Node → Option Node
  | scalar mark anchor tag style text => ifNumbered n anchor (.scalar mark anchor tag style text)
  | sequence mark anchor items =>
    (findInItems? n items).or (ifNumbered n anchor (.sequence mark anchor items))
  | mapping mark anchor entries =>
    (findInEntries? n entries).or (ifNumbered n anchor (.mapping mark anchor entries))
  | aliasOf _ => none
  | cut _ => none

/-- The last such node among the items of a sequence. -/
def findInItems? (n : Nat) : List Node → Option Node
  | [] => none
  | item :: items => (findInItems? n items).or (find? n item)

/-- The last such node among the keys and values of a mapping. -/
def findInEntries? (n : Nat) : List (Node × Node) → Option Node
  | [] => none
  | (key, value) :: entries =>
    (findInEntries? n entries).or ((find? n value).or (find? n key))

end

end Node

end Verdict.Yaml
