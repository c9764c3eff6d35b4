-- Frames: the places and collections of a document that are being read. A
-- frame says what becomes of it at the next token. It takes the token, or it
-- is over with it, or it is over before it and the token is for the frame
-- around it. Where a node is missing an empty scalar is understood.
import Verdict.Yaml.Node

namespace Verdict.Yaml

/-! ## Places -/

/-- A place where a node is expected. Behind some signs a missing node stands
at the end of the sign. -/
inductive Slot where
  /-- A document without a `---`. -/
  | document
  /-- What follows a `---`. -/
  | content
  /-- An entry of a block sequence. -/
  | entry (after : Mark)
  /-- An entry of a block sequence that is not indented. -/
  | looseEntry (after : Mark)
  /-- A key or value of a block mapping. -/
  | part (after : Mark)
  /-- An item of a flow sequence. -/
  | item
  /-- The key of a pair in a flow sequence. -/
  | pairKey
  /-- The value of a pair in a flow sequence. -/
  | pairValue
  /-- A key of a flow mapping. -/
  | flowKey
  /-- A key of a flow mapping that is marked as one. -/
  | markedKey
  /-- A value of a flow mapping. -/
  | flowValue
  deriving DecidableEq, Repr

namespace Slot

/-- A block may start here. -/
def inBlock : Slot → Bool
  | .document | .content | .entry _ | .looseEntry _ | .part _ => true
  | .item | .pairKey | .pairValue | .flowKey | .markedKey | .flowValue => false

/-- A block sequence may start here without indentation. -/
def isLoose : Slot → Bool
  | .part _ => true
  | _ => false

/-- The place is left without a node at such a token. -/
def endsAt : Slot → Token.Kind → Bool
  | .document, _ => false
  | .content, .directive _ | .content, .documentStart | .content, .documentEnd
  | .content, .streamEnd => true
  | .entry _, .blockEntry | .entry _, .blockEnd => true
  | .looseEntry _, .blockEntry | .looseEntry _, .key | .looseEntry _, .value
  | .looseEntry _, .blockEnd => true
  | .part _, .key | .part _, .value | .part _, .blockEnd => true
  | .item, .key | .item, .flowSequenceEnd => true
  | .pairKey, .value | .pairKey, .flowEntry | .pairKey, .flowSequenceEnd => true
  | .pairValue, .flowEntry | .pairValue, .flowSequenceEnd => true
  | .flowKey, .key | .flowKey, .flowMappingEnd => true
  | .markedKey, .value | .markedKey, .flowEntry | .markedKey, .flowMappingEnd => true
  | .flowValue, .flowEntry | .flowValue, .flowMappingEnd => true
  | _, _ => false

end Slot

/-! ## Names -/

/-- What the names in a document stand for. -/
structure Scope where
  /-- The numbers of the anchors, each name once. -/
  anchors : List (String × Nat) := []
  /-- What the handles of tags stand for. -/
  handles : List (String × String) := []
  deriving DecidableEq, Repr

namespace Scope

/-- An anchor gets the number of names so far. A name that is there already
stands for the new anchor from now on, and still counts once. -/
def define (scope : Scope) (name : String) : Scope :=
  { scope with
    anchors := (name, scope.anchors.length) :: scope.anchors.filter fun a => a.1 ≠ name }

/-- The number that an anchor or alias of this name has. -/
def number? (scope : Scope) (name : String) : Option Nat := scope.anchors.lookup name

end Scope

/-- The properties of a node, as far as they are read. -/
structure Properties where
  /-- Where the first one stands. -/
  start : Option Mark := none
  anchor : Option Nat := none
  /-- A handle, a suffix, and where they stand. -/
  tag : Option (String × String × Mark) := none
  deriving DecidableEq, Repr

/-- The tag of a node at the given place. A tag without a handle is taken as it
is written. -/
def Properties.resolveTag (properties : Properties) (scope : Scope) (start : Mark) :
    Except Fault (Option String) :=
  match properties.tag with
  | none => .ok none
  | some (handle, suffix, mark) =>
    if handle = "" then .ok (some suffix)
    else
      match scope.handles.lookup handle with
      | some stem => .ok (some (stem ++ suffix))
      | none => .error (.within .node start .unknownHandle mark)

/-! ## Frames -/

/-- What is known of a collection from its start. -/
structure Head where
  /-- Where the node starts, with its properties. -/
  mark : Mark
  anchor : Option Nat
  /-- Where the first sign of the collection stands. -/
  opened : Mark
  deriving DecidableEq, Repr

/-- How far the next entry of a flow mapping is read. -/
inductive FlowEntry where
  /-- A key may follow. -/
  | awaited
  /-- A sign for a key is read. -/
  | marked
  /-- A key that no sign marks is read; it has no value. -/
  | lone (key : Node)
  /-- A key is read; a value may follow. -/
  | keyed (key : Node)
  /-- An entry is read; a comma may follow. -/
  | complete

/-- A place or collection that is being read. What is read of a collection is
kept in backward order. -/
inductive Frame where
  | place (slot : Slot) (properties : Properties)
  | blockSequence (head : Head) (items : List Node)
  | looseSequence (head : Head) (items : List Node)
  | blockMapping (head : Head) (entries : List (Node × Node)) (key : Option Node)
  /-- `awaited` says that an item may follow without a comma. -/
  | flowSequence (head : Head) (items : List Node) (awaited : Bool)
  /-- A mapping of one entry in a flow sequence, written without braces. -/
  | pair (head : Head) (key value : Option Node)
  | flowMapping (head : Head) (entries : List (Node × Node)) (next : FlowEntry)

/-- What becomes of a frame at a token. -/
inductive Reaction where
  /-- The token is taken; the frame goes on as this one, within others. -/
  | take (frame : Frame) (around : List Frame)
  /-- The token is taken, and the node is complete. -/
  | done (node : Node)
  /-- The node is complete, if there is one, and the token is not taken. -/
  | leave (node : Option Node)
  /-- The token may not stand here. The frame has come to be this one. -/
  | refuse (fault : Fault) (frame : Frame)

/-- The sequence of items that were read in backward order. -/
def Head.sequence (head : Head) (items : List Node) : Node :=
  .sequence head.mark head.anchor items.reverse

/-- The mapping of entries that were read in backward order. -/
def Head.mapping (head : Head) (entries : List (Node × Node)) : Node :=
  .mapping head.mark head.anchor entries.reverse

/-- An expected node, without properties so far. -/
def Frame.expect (slot : Slot) : Frame := .place slot {}

namespace Frame

/-- A place at the token that comes after all properties. -/
def acceptContent (scope : Scope) (slot : Slot) (properties : Properties) (token : Token) :
    Reaction :=
  let start := properties.start.getD token.start
  match properties.resolveTag scope start with
  | .error fault => .refuse fault (.place slot properties)
  | .ok tag =>
    let head : Head := ⟨start, properties.anchor, token.start⟩
    let missing :=
      match properties.start with
      | some _ => Reaction.leave (some (.scalar start properties.anchor tag .plain ""))
      | none =>
        .refuse
          (.within (if slot.inBlock then .blockNode else .flowNode) start .missingContent
            token.start)
          (.place slot properties)
    match token.kind with
    | .scalar style text => .done (.scalar start properties.anchor tag style text)
    | .flowSequenceStart => .take (expect .item) [.flowSequence head [] true]
    | .flowMappingStart => .take (expect .flowKey) [.flowMapping head [] .awaited]
    | .blockSequenceStart => if slot.inBlock then .take (.blockSequence head []) [] else missing
    | .blockMappingStart =>
      if slot.inBlock then .take (.blockMapping head [] none) [] else missing
    | .blockEntry =>
      if slot.isLoose then .take (expect (.looseEntry token.stop)) [.looseSequence head []]
      else missing
    | _ => missing

/-- A place where a node is expected. -/
def acceptNode (scope : Scope) (slot : Slot) (properties : Properties) (token : Token) :
    Reaction :=
  let start := properties.start.getD token.start
  match properties.start, token.kind with
  | none, .aliasOf name =>
    match scope.number? name with
    | some n => .done (.aliasOf n)
    | none => .refuse (.unknownAnchor token.start) (.place slot properties)
  | _, .anchor name =>
    match properties.anchor with
    | none =>
      .take (.place slot { properties with start := start, anchor := scope.number? name }) []
    | some _ => acceptContent scope slot properties token
  | _, .tag handle suffix =>
    match properties.tag with
    | none =>
      .take (.place slot { properties with start, tag := some (handle, suffix, token.start) }) []
    | some _ => acceptContent scope slot properties token
  | _, _ => acceptContent scope slot properties token

/-- A place that is left without a node. The key of a pair in a flow sequence
takes the token that shows that it is missing. -/
def acceptNothing (slot : Slot) (token : Token) : Reaction :=
  match slot with
  | .entry after | .looseEntry after | .part after => .leave (some (.empty after))
  | .item | .flowKey => .leave none
  | .pairKey => .done (.empty token.stop)
  | .document | .content | .pairValue | .markedKey | .flowValue =>
    .leave (some (.empty token.start))

/-- The entries of a block mapping with the last key, which has no value. -/
def withoutValue (key : Option Node) (entries : List (Node × Node)) (mark : Mark) :
    List (Node × Node) :=
  match key with
  | some key => (key, .empty mark) :: entries
  | none => entries

/-- A flow mapping between two entries. -/
def acceptSeparator (head : Head) (entries : List (Node × Node)) (token : Token) : Reaction :=
  match token.kind with
  | .flowEntry => .take (expect .flowKey) [.flowMapping head entries .awaited]
  | .flowMappingEnd => .done (head.mapping entries)
  | _ =>
    .refuse (.within .flowMapping head.opened .missingMappingEnd token.start)
      (.flowMapping head entries .complete)

/-- What becomes of a frame at a token. -/
def accept (scope : Scope) (frame : Frame) (token : Token) : Reaction :=
  match frame with
  | .place slot properties =>
    if properties.start.isNone && slot.endsAt token.kind then acceptNothing slot token
    else acceptNode scope slot properties token
  | .blockSequence head items =>
    match token.kind with
    | .blockEntry => .take (expect (.entry token.stop)) [frame]
    | .blockEnd => .done (head.sequence items)
    | _ => .refuse (.within .blockSequence head.opened .missingDash token.start) frame
  | .looseSequence head items =>
    match token.kind with
    | .blockEntry => .take (expect (.looseEntry token.stop)) [frame]
    | _ => .leave (some (head.sequence items))
  | .blockMapping head entries key =>
    match key, token.kind with
    | some _, .value => .take (expect (.part token.stop)) [frame]
    | _, kind =>
      let entries := withoutValue key entries token.start
      match kind with
      | .key => .take (expect (.part token.stop)) [.blockMapping head entries none]
      | .blockEnd => .done (head.mapping entries)
      | _ =>
        .refuse (.within .blockMapping head.opened .missingKey token.start)
          (.blockMapping head entries none)
  | .flowSequence head items awaited =>
    match awaited, token.kind with
    | _, .flowSequenceEnd => .done (head.sequence items)
    | true, .key =>
      .take (expect .pairKey) [.pair ⟨token.start, none, token.start⟩ none none, frame]
    | false, .flowEntry => .take (expect .item) [.flowSequence head items true]
    | _, _ => .refuse (.within .flowSequence head.opened .missingSequenceEnd token.start) frame
  | .pair head key value =>
    match key, value, token.kind with
    | some _, none, .value => .take (expect .pairValue) [frame]
    | some key, value, _ =>
      .leave (some (head.mapping [(key, value.getD (.empty token.start))]))
    | none, _, _ => .leave (some (head.mapping []))
  | .flowMapping head entries next =>
    match next, token.kind with
    | .awaited, .key => .take (expect .markedKey) [.flowMapping head entries .marked]
    | .keyed _, .value => .take (expect .flowValue) [frame]
    | .keyed key, _ | .lone key, _ =>
      acceptSeparator head (withoutValue (some key) entries token.start) token
    | .awaited, .flowMappingEnd => .done (head.mapping entries)
    | .complete, _ => acceptSeparator head entries token
    | .awaited, _ | .marked, _ =>
      .refuse (.within .flowMapping head.opened .missingMappingEnd token.start) frame

/-- A frame when a node within it is complete. -/
def receive (node : Node) : Frame → Frame
  | .place slot properties => .place slot properties
  | .blockSequence head items => .blockSequence head (node :: items)
  | .looseSequence head items => .looseSequence head (node :: items)
  | .blockMapping head entries none => .blockMapping head entries (some node)
  | .blockMapping head entries (some key) => .blockMapping head ((key, node) :: entries) none
  | .flowSequence head items _ => .flowSequence head (node :: items) false
  | .pair head none value => .pair head (some node) value
  | .pair head (some key) _ => .pair head (some key) (some node)
  | .flowMapping head entries .awaited => .flowMapping head entries (.lone node)
  | .flowMapping head entries .marked => .flowMapping head entries (.keyed node)
  | .flowMapping head entries (.lone key) =>
    .flowMapping head ((key, node) :: entries) .complete
  | .flowMapping head entries (.keyed key) =>
    .flowMapping head ((key, node) :: entries) .complete
  | .flowMapping head entries .complete => .flowMapping head entries (.lone node)

/-- The node of a frame if the text breaks off within it, and `inner` is as
much as was read of the node within the frame. -/
def breakOff (fault : Fault) (inner : Node) : Frame → Node
  | .place _ _ => inner
  | .blockSequence head items => head.sequence (inner :: items)
  | .looseSequence head items => head.sequence (inner :: items)
  | .blockMapping head entries none => head.mapping ((inner, .cut fault) :: entries)
  | .blockMapping head entries (some key) => head.mapping ((key, inner) :: entries)
  | .flowSequence head items _ => head.sequence (inner :: items)
  | .pair head none _ => head.mapping [(inner, .cut fault)]
  | .pair head (some key) none => head.mapping [(key, inner)]
  | .pair head (some key) (some value) => head.mapping [(inner, .cut fault), (key, value)]
  | .flowMapping head entries (.lone key) => head.mapping ((key, inner) :: entries)
  | .flowMapping head entries (.keyed key) => head.mapping ((key, inner) :: entries)
  | .flowMapping head entries _ => head.mapping ((inner, .cut fault) :: entries)

end Frame

end Verdict.Yaml
