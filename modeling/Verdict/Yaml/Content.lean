-- What stands at a node of a document, once aliases are followed: a scalar, a
-- sequence, a mapping, or the place where the text breaks off.
import Verdict.Yaml.Document

namespace Verdict.Yaml

/-- What stands at a node. -/
inductive Content where
  | scalar (mark : Mark) (tag : Option String) (style : Style) (text : String)
  | sequence (mark : Mark) (items : List Node)
  | mapping (mark : Mark) (entries : List (Node × Node))
  | cut (fault : Fault)

namespace Node

/-- What stands at a node that is not an alias. -/
def content? : Node → Option Content
  | .scalar mark _ tag style text => some (.scalar mark tag style text)
  | .sequence mark _ items => some (.sequence mark items)
  | .mapping mark _ entries => some (.mapping mark entries)
  | .cut fault => some (.cut fault)
  | .aliasOf _ => none

mutual

/-- Why a node breaks off, if it does. -/
def fault? : Node → Option Fault
  | scalar _ _ _ _ _ => none
  | sequence _ _ items => itemFault? items
  | mapping _ _ entries => entryFault? entries
  | aliasOf _ => none
  | cut fault => some fault

/-- Why one of the items of a sequence breaks off, if one does. -/
def itemFault? : List Node → Option Fault
  | [] => none
  | item :: items => (fault? item).or (itemFault? items)

/-- Why a key or value of a mapping breaks off, if one does. -/
def entryFault? : List (Node × Node) → Option Fault
  | [] => none
  | (key, value) :: entries => ((fault? key).or (fault? value)).or (entryFault? entries)

end

end Node

/-- What stands at a node of a document; at an alias, what stands at the node
with its number. -/
def Document.content (d : Document) (node : Node) : Content :=
  let target :=
    match node with
    | .aliasOf n => d.root.find? n
    | node => some node
  (target.bind Node.content?).getD (.cut (.unknownAnchor {}))

end Verdict.Yaml
