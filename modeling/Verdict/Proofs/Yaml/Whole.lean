-- Documents without a fault. Frames hold only nodes that were read to their end;
-- a node that breaks off is made where the text is given up. Main statement: if
-- nothing is wrong with a document then no part of it breaks off.
import Verdict.Yaml.Content

namespace Verdict.Yaml

/-! ## Whole nodes -/

/-- No part of the node breaks off. -/
def Node.IsWhole (node : Node) : Prop := node.fault? = none

def AllWhole (nodes : List Node) : Prop := ∀ node ∈ nodes, node.IsWhole

/-- The keys and values of some entries. -/
def parts (entries : List (Node × Node)) : List Node :=
  entries.flatMap fun entry => [entry.1, entry.2]

theorem parts_cons (key value : Node) (entries : List (Node × Node)) :
    parts ((key, value) :: entries) = key :: value :: parts entries := rfl

theorem allWhole_nil : AllWhole [] := by
  rintro _ ⟨⟩

theorem allWhole_cons {node : Node} {nodes : List Node} :
    AllWhole (node :: nodes) ↔ node.IsWhole ∧ AllWhole nodes :=
  List.forall_mem_cons

theorem allWhole_append {nodes others : List Node} :
    AllWhole (nodes ++ others) ↔ AllWhole nodes ∧ AllWhole others :=
  List.forall_mem_append

theorem Node.itemFault?_eq_none_iff {items : List Node} :
    itemFault? items = none ↔ AllWhole items := by
  induction items with
  | nil => exact iff_of_true rfl allWhole_nil
  | cons item items ih => rw [itemFault?, Option.or_eq_none_iff, ih, allWhole_cons, IsWhole]

theorem Node.entryFault?_eq_none_iff {entries : List (Node × Node)} :
    entryFault? entries = none ↔ AllWhole (parts entries) := by
  induction entries with
  | nil => exact iff_of_true rfl allWhole_nil
  | cons entry entries ih =>
    obtain ⟨key, value⟩ := entry
    rw [entryFault?, Option.or_eq_none_iff, Option.or_eq_none_iff, ih, parts_cons, allWhole_cons,
      allWhole_cons, and_assoc, IsWhole, IsWhole]

theorem isWhole_sequence {head : Head} {items : List Node} (h : AllWhole items) :
    (head.sequence items).IsWhole :=
  Node.itemFault?_eq_none_iff.mpr fun node hmem => h node (List.mem_reverse.mp hmem)

theorem isWhole_mapping {head : Head} {entries : List (Node × Node)}
    (h : AllWhole (parts entries)) : (head.mapping entries).IsWhole := by
  refine Node.entryFault?_eq_none_iff.mpr fun node hmem => ?_
  obtain ⟨entry, hentry, hnode⟩ := List.mem_flatMap.mp hmem
  exact h node (List.mem_flatMap.mpr ⟨entry, List.mem_reverse.mp hentry, hnode⟩)

/-- What stands at the keys of a whole mapping is whole. -/
theorem isWhole_of_mem {mark : Mark} {anchor : Option Nat} {entries : List (Node × Node)}
    (h : (Node.mapping mark anchor entries).IsWhole) {entry : Node × Node}
    (hmem : entry ∈ entries) : entry.2.IsWhole := by
  have hparts : entry.2 ∈ parts entries :=
    List.mem_flatMap.mpr ⟨entry, hmem, List.mem_cons_of_mem _ List.mem_cons_self⟩
  exact Node.entryFault?_eq_none_iff.mp h _ hparts

theorem isWhole_empty (mark : Mark) : (Node.empty mark).IsWhole := rfl

theorem isWhole_getD_empty {node : Option Node} (h : AllWhole node.toList) (mark : Mark) :
    (node.getD (.empty mark)).IsWhole := by
  cases node with
  | none => exact isWhole_empty mark
  | some node => exact (allWhole_cons.mp h).1

/-! ## Whole frames -/

/-- The key that is read of the next entry of a flow mapping. -/
def FlowEntry.nodes : FlowEntry → List Node
  | .lone key | .keyed key => [key]
  | .awaited | .marked | .complete => []

/-- The nodes that are read within a frame. -/
def Frame.nodes : Frame → List Node
  | .place _ _ => []
  | .blockSequence _ items | .looseSequence _ items | .flowSequence _ items _ => items
  | .blockMapping _ entries key => key.toList ++ parts entries
  | .pair _ key value => key.toList ++ value.toList
  | .flowMapping _ entries next => next.nodes ++ parts entries

/-- What becomes of a frame is whole, unless the text is given up. -/
def Reaction.IsWhole : Reaction → Prop
  | .take frame around => ∀ f ∈ frame :: around, AllWhole f.nodes
  | .done node => node.IsWhole
  | .leave node => AllWhole node.toList
  | .refuse _ _ => True

namespace Frame

theorem allWhole_receive {frame : Frame} {node : Node} (h : AllWhole frame.nodes)
    (hnode : node.IsWhole) : AllWhole (frame.receive node).nodes := by
  cases frame with
  | place slot properties => exact h
  | blockSequence head items => exact allWhole_cons.mpr ⟨hnode, h⟩
  | looseSequence head items => exact allWhole_cons.mpr ⟨hnode, h⟩
  | flowSequence head items awaited => exact allWhole_cons.mpr ⟨hnode, h⟩
  | blockMapping head entries key =>
    cases key with
    | none => exact allWhole_cons.mpr ⟨hnode, h⟩
    | some key =>
      obtain ⟨hkey, hentries⟩ := allWhole_cons.mp h
      exact allWhole_cons.mpr ⟨hkey, allWhole_cons.mpr ⟨hnode, hentries⟩⟩
  | pair head key value =>
    cases key with
    | none => exact allWhole_cons.mpr ⟨hnode, h⟩
    | some key =>
      obtain ⟨hkey, -⟩ := allWhole_cons.mp h
      exact allWhole_cons.mpr ⟨hkey, allWhole_cons.mpr ⟨hnode, allWhole_nil⟩⟩
  | flowMapping head entries next =>
    cases next with
    | awaited => exact allWhole_cons.mpr ⟨hnode, h⟩
    | marked => exact allWhole_cons.mpr ⟨hnode, h⟩
    | complete => exact allWhole_cons.mpr ⟨hnode, h⟩
    | lone key =>
      obtain ⟨hkey, hentries⟩ := allWhole_cons.mp h
      exact allWhole_cons.mpr ⟨hkey, allWhole_cons.mpr ⟨hnode, hentries⟩⟩
    | keyed key =>
      obtain ⟨hkey, hentries⟩ := allWhole_cons.mp h
      exact allWhole_cons.mpr ⟨hkey, allWhole_cons.mpr ⟨hnode, hentries⟩⟩

/-- A frame without nodes that starts to be read. -/
theorem isWhole_take {frame : Frame} {around : List Frame}
    (h : ∀ f ∈ frame :: around, f.nodes = []) : (Reaction.take frame around).IsWhole := by
  intro f hf
  rw [h f hf]
  exact allWhole_nil

/-- A node is expected within a frame. -/
theorem isWhole_enter {slot : Slot} {outer : Frame} (h : AllWhole outer.nodes) :
    (Reaction.take (expect slot) [outer]).IsWhole := by
  refine List.forall_mem_cons.mpr ⟨allWhole_nil, List.forall_mem_cons.mpr ⟨h, ?_⟩⟩
  rintro _ ⟨⟩

theorem isWhole_leave {node : Node} (h : node.IsWhole) : (Reaction.leave (some node)).IsWhole :=
  allWhole_cons.mpr ⟨h, allWhole_nil⟩

theorem isWhole_acceptContent (scope : Scope) (slot : Slot) (properties : Properties)
    (token : Token) : (acceptContent scope slot properties token).IsWhole := by
  unfold acceptContent
  extract_lets start
  split
  · trivial
  · extract_lets missing
    have hmissing : missing.IsWhole := by
      unfold missing
      split
      · exact isWhole_leave rfl
      · trivial
    split
    · rfl
    · exact isWhole_take (by simp [nodes, expect])
    · exact isWhole_take (by simp [nodes, expect, FlowEntry.nodes, parts])
    · split
      · exact isWhole_take (by simp [nodes])
      · exact hmissing
    · split
      · exact isWhole_take (by simp [nodes, parts])
      · exact hmissing
    · split
      · exact isWhole_take (by simp [nodes, expect])
      · exact hmissing
    · exact hmissing

theorem isWhole_acceptNode (scope : Scope) (slot : Slot) (properties : Properties)
    (token : Token) : (acceptNode scope slot properties token).IsWhole := by
  unfold acceptNode
  dsimp only
  split
  · split
    · rfl
    · trivial
  · split
    · exact isWhole_take (by simp [nodes])
    · exact isWhole_acceptContent scope slot properties token
  · split
    · exact isWhole_take (by simp [nodes])
    · exact isWhole_acceptContent scope slot properties token
  · exact isWhole_acceptContent scope slot properties token

theorem isWhole_acceptNothing (slot : Slot) (token : Token) :
    (acceptNothing slot token).IsWhole := by
  cases slot with
  | item | flowKey => exact allWhole_nil
  | pairKey => rfl
  | entry after | looseEntry after | part after => exact isWhole_leave (isWhole_empty after)
  | document | content | pairValue | markedKey | flowValue =>
    exact isWhole_leave (isWhole_empty token.start)

theorem allWhole_withoutValue {entries : List (Node × Node)} (h : AllWhole (parts entries))
    (key : Option Node) (hkey : AllWhole key.toList) (mark : Mark) :
    AllWhole (parts (withoutValue key entries mark)) := by
  cases key with
  | none => exact h
  | some key =>
    exact allWhole_cons.mpr ⟨(allWhole_cons.mp hkey).1,
      allWhole_cons.mpr ⟨isWhole_empty mark, h⟩⟩

theorem isWhole_acceptSeparator {head : Head} {entries : List (Node × Node)}
    (h : AllWhole (parts entries)) (token : Token) :
    (acceptSeparator head entries token).IsWhole := by
  unfold acceptSeparator
  split
  · exact isWhole_enter h
  · exact isWhole_mapping h
  · trivial

/-- Only a text that is given up leaves a node that breaks off. -/
theorem isWhole_accept (scope : Scope) {frame : Frame} (h : AllWhole frame.nodes) (token : Token) :
    (frame.accept scope token).IsWhole := by
  cases frame with
  | place slot properties =>
    rw [accept]
    split
    · exact isWhole_acceptNothing slot token
    · exact isWhole_acceptNode scope slot properties token
  | blockSequence head items =>
    unfold accept
    dsimp only
    split
    · exact isWhole_enter h
    · exact isWhole_sequence h
    · trivial
  | looseSequence head items =>
    unfold accept
    dsimp only
    split
    · exact isWhole_enter h
    · exact isWhole_leave (isWhole_sequence h)
  | blockMapping head entries key =>
    obtain ⟨hkey, hentries⟩ := allWhole_append.mp h
    have hrest := allWhole_withoutValue hentries key hkey token.start
    unfold accept
    dsimp only
    split
    · exact isWhole_enter h
    · split
      · exact isWhole_enter hrest
      · exact isWhole_mapping hrest
      · trivial
  | flowSequence head items awaited =>
    unfold accept
    dsimp only
    split
    · exact isWhole_sequence h
    · refine List.forall_mem_cons.mpr ⟨allWhole_nil, List.forall_mem_cons.mpr ⟨allWhole_nil, ?_⟩⟩
      exact List.forall_mem_cons.mpr ⟨h, by rintro _ ⟨⟩⟩
    · exact isWhole_enter h
    · trivial
  | pair head key value =>
    obtain ⟨hkey, hvalue⟩ := allWhole_append.mp h
    unfold accept
    dsimp only
    split
    · exact isWhole_enter h
    · exact isWhole_leave (isWhole_mapping (allWhole_cons.mpr ⟨(allWhole_cons.mp hkey).1,
        allWhole_cons.mpr ⟨isWhole_getD_empty hvalue token.start, allWhole_nil⟩⟩))
    · exact isWhole_leave (isWhole_mapping allWhole_nil)
  | flowMapping head entries next =>
    obtain ⟨hnext, hentries⟩ := allWhole_append.mp h
    unfold accept
    dsimp only
    split
    · exact isWhole_enter hentries
    · exact isWhole_enter h
    · have hrest := allWhole_withoutValue hentries (some _) hnext token.start
      exact isWhole_acceptSeparator hrest token
    · have hrest := allWhole_withoutValue hentries (some _) hnext token.start
      exact isWhole_acceptSeparator hrest token
    · exact isWhole_mapping hentries
    · exact isWhole_acceptSeparator hentries token
    · trivial
    · trivial

end Frame

/-! ## Whole documents -/

/-- What is read so far is whole, unless the text is given up. -/
def Stage.IsWhole : Stage → Prop
  | .opening _ => True
  | .within _ frame around => ∀ f ∈ frame :: around, AllWhole f.nodes
  | .complete root => root.IsWhole
  | .ended root _ => root.IsWhole
  | .broken _ _ => True

namespace Stage

theorem isWhole_hand (scope : Scope) {node : Node} (hnode : node.IsWhole) {around : List Frame}
    (h : ∀ f ∈ around, AllWhole f.nodes) : (hand scope node around).IsWhole := by
  cases around with
  | nil => exact hnode
  | cons frame around =>
    rw [List.forall_mem_cons] at h
    exact List.forall_mem_cons.mpr ⟨Frame.allWhole_receive h.1 hnode, h.2⟩

theorem isWhole_feed (scope : Scope) (token : Token) {frame : Frame} {around : List Frame}
    (h : ∀ f ∈ frame :: around, AllWhole f.nodes) : (feed scope token frame around).IsWhole := by
  induction around generalizing frame with
  | nil =>
    have hreaction := Frame.isWhole_accept scope (List.forall_mem_cons.mp h).1 token
    unfold feed
    split
    · rename_i heq
      rw [heq] at hreaction
      rw [List.append_nil]
      exact hreaction
    · rename_i heq
      rw [heq] at hreaction
      exact hreaction
    · rename_i node heq
      rw [heq] at hreaction
      exact isWhole_getD_empty hreaction token.start
    · trivial
  | cons outer around ih =>
    obtain ⟨hframe, houter⟩ := List.forall_mem_cons.mp h
    have hreaction := Frame.isWhole_accept scope hframe token
    unfold feed
    split
    · rename_i heq
      rw [heq] at hreaction
      obtain ⟨hnew, hmore⟩ := List.forall_mem_cons.mp hreaction
      exact List.forall_mem_cons.mpr ⟨hnew, List.forall_mem_append.mpr ⟨hmore, houter⟩⟩
    · rename_i heq
      rw [heq] at hreaction
      exact isWhole_hand scope hreaction houter
    · rename_i node heq
      rw [heq] at hreaction
      obtain ⟨houter, haround⟩ := List.forall_mem_cons.mp houter
      refine ih (List.forall_mem_cons.mpr ⟨?_, haround⟩)
      cases node with
      | none => exact houter
      | some node => exact Frame.allWhole_receive houter (allWhole_cons.mp hreaction).1
    · trivial

theorem isWhole_openAt (directives : Directives) (token : Token) :
    (openAt directives token).IsWhole := by
  have hexpected : ∀ slot, ∀ f ∈ [Frame.expect slot], AllWhole f.nodes := fun slot =>
    List.forall_mem_singleton.mpr allWhole_nil
  unfold openAt
  split
  · split <;> trivial
  · exact hexpected .content
  · split
    · trivial
    · split
      · exact isWhole_empty token.start
      · exact isWhole_feed _ token (hexpected .document)

theorem isWhole_next {stage : Stage} (h : stage.IsWhole) (token : Token) :
    (stage.next token).IsWhole := by
  cases stage with
  | opening directives => exact isWhole_openAt directives token
  | within scope frame around => exact isWhole_feed _ token h
  | complete root => exact h
  | ended root more => exact h
  | broken root fault => trivial

theorem isWhole_foldl_next {stage : Stage} (h : stage.IsWhole) (tokens : List Token) :
    (tokens.foldl next stage).IsWhole := by
  induction tokens generalizing stage with
  | nil => exact h
  | cons token tokens ih => exact ih (isWhole_next h token)

theorem isWhole_document {stage : Stage} (h : stage.IsWhole) {fault : Option Fault}
    (hnone : (stage.document fault).fault = none) : (stage.document fault).root.IsWhole := by
  cases stage with
  | opening directives =>
    cases fault with
    | none => exact isWhole_empty {}
    | some fault => cases hnone
  | within scope frame around => cases hnone
  | complete root => exact h
  | ended root more => exact h
  | broken root fault => cases hnone

end Stage

/-- A document that nothing is wrong with breaks off nowhere. -/
theorem Document.isWhole_ofText {cs : List Char} (h : (ofText cs).fault = none) :
    (ofText cs).root.IsWhole :=
  have hstart : (Stage.opening {}).IsWhole := trivial
  Stage.isWhole_document (Stage.isWhole_foldl_next hstart _) h

end Verdict.Yaml
