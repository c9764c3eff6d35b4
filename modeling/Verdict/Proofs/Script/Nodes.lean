-- The nodes of a written script. Main statement: its document is a mapping with
-- its name and the list of its assertions, and nothing is wrong with it.
import Mathlib.Data.List.Forall2
import Verdict.Proofs.Script.Lines
import Verdict.Yaml.Document

namespace Verdict

open Yaml Script

/-! ## What is read of the lines -/

namespace Yaml

/-- A key without quotes and a text between double quotes. -/
def IsLine (key text : String) (entry : Node × Node) : Prop :=
  ∃ m n, entry = (.scalar m none none .plain key, .scalar n none none .doubleQuoted text)

/-- A mapping of the fields of an assertion. -/
def IsAssertion (fields : List Assertion.Field) (node : Node) : Prop :=
  ∃ m entries, node = .mapping m none entries ∧
    List.Forall₂ (fun field => IsLine field.key field.text) fields entries

/-- A list of assertions behind its key. -/
def IsList (entries : List (List Assertion.Field)) (entry : Node × Node) : Prop :=
  ∃ m n items, entry = (.scalar m none none .plain "assertions", .sequence n none items) ∧
    List.Forall₂ IsAssertion entries items

/-- The entries of a script in either order, with a list of assertions or
without one. -/
inductive IsScript (name : String) :
    Option (List (List Assertion.Field)) → List (Node × Node) → Prop
  | alone {entry : Node × Node} : IsLine "name" name entry → IsScript name none [entry]
  | nameFirst {entries : List (List Assertion.Field)} {entry list : Node × Node} :
      IsLine "name" name entry → IsList entries list → IsScript name (some entries) [entry, list]
  | listFirst {entries : List (List Assertion.Field)} {entry list : Node × Node} :
      IsLine "name" name entry → IsList entries list → IsScript name (some entries) [list, entry]

namespace Stage

open Script.Layout

variable {scope : Scope} {around : List Frame} {t : Token}

/-! ## Single tokens -/

theorem next_of_take {frame inner : Frame} (h : frame.accept scope t = .take inner [])
    (hnames : namesAfter scope t = scope) :
    (within scope frame around).next t = .within scope inner around := by
  change feed (namesAfter scope t) t frame around = _
  rw [hnames, feed, h]
  rfl

theorem next_of_enter {frame inner outer : Frame}
    (h : frame.accept scope t = .take inner [outer]) (hnames : namesAfter scope t = scope) :
    (within scope frame around).next t = .within scope inner (outer :: around) := by
  change feed (namesAfter scope t) t frame around = _
  rw [hnames, feed, h]
  rfl

theorem next_of_done {frame : Frame} {node : Node} (h : frame.accept scope t = .done node)
    (hnames : namesAfter scope t = scope) :
    (within scope frame around).next t = hand scope node around := by
  change feed (namesAfter scope t) t frame around = _
  rw [hnames, feed, h]

/-- A frame that is over before a token leaves the token to the frame around
it. -/
theorem next_of_leave {frame outer : Frame} {node : Node}
    (h : frame.accept scope t = .leave (some node)) (hnames : namesAfter scope t = scope) :
    (within scope frame (outer :: around)).next t =
      (within scope (outer.receive node) around).next t := by
  change feed (namesAfter scope t) t frame (outer :: around) = feed (namesAfter scope t) t _ around
  rw [hnames, feed, h]
  rfl

theorem next_of_pass {frame outer : Frame} (h : frame.accept scope t = .leave none)
    (hnames : namesAfter scope t = scope) :
    (within scope frame (outer :: around)).next t = (within scope outer around).next t := by
  change feed (namesAfter scope t) t frame (outer :: around) = feed (namesAfter scope t) t _ around
  rw [hnames, feed, h]
  rfl

theorem next_scalar {style : Style} {text : String} (h : t.kind = .scalar style text)
    (slot : Slot) :
    (within scope (.expect slot) around).next t =
      hand scope (.scalar t.start none none style text) around := by
  obtain ⟨_, start, stop⟩ := t
  cases h
  refine next_of_done ?_ rfl
  cases slot <;> rfl

theorem next_key (h : t.kind = .key) (head : Head) (entries : List (Node × Node)) :
    (within scope (.blockMapping head entries none) around).next t =
      .within scope (.expect (.part t.stop)) (.blockMapping head entries none :: around) := by
  obtain ⟨_, start, stop⟩ := t
  cases h
  exact next_of_enter rfl rfl

theorem next_value (h : t.kind = .value) (head : Head) (entries : List (Node × Node))
    (key : Node) :
    (within scope (.blockMapping head entries (some key)) around).next t =
      .within scope (.expect (.part t.stop)) (.blockMapping head entries (some key) :: around) := by
  obtain ⟨_, start, stop⟩ := t
  cases h
  exact next_of_enter rfl rfl

theorem next_mapping_start (h : t.kind = .blockMappingStart) {slot : Slot}
    (hslot : slot.inBlock = true) :
    (within scope (.expect slot) around).next t =
      .within scope (.blockMapping ⟨t.start, none, t.start⟩ [] none) around := by
  obtain ⟨_, start, stop⟩ := t
  cases h
  refine next_of_take ?_ rfl
  cases slot with
  | document | content | entry _ | looseEntry _ | part _ => rfl
  | item | pairKey | pairValue | flowKey | markedKey | flowValue => cases hslot

theorem next_mapping_end (h : t.kind = .blockEnd) (head : Head) (entries : List (Node × Node)) :
    (within scope (.blockMapping head entries none) around).next t =
      hand scope (head.mapping entries) around := by
  obtain ⟨_, start, stop⟩ := t
  cases h
  exact next_of_done rfl rfl

theorem next_brace (h : t.kind = .flowMappingStart) (slot : Slot) :
    (within scope (.expect slot) around).next t =
      .within scope (.expect .flowKey)
        (.flowMapping ⟨t.start, none, t.start⟩ [] .awaited :: around) := by
  obtain ⟨_, start, stop⟩ := t
  cases h
  refine next_of_enter ?_ rfl
  cases slot <;> rfl

theorem next_closing_brace (h : t.kind = .flowMappingEnd) (head : Head) :
    (within scope (.expect .flowKey) (.flowMapping head [] .awaited :: around)).next t =
      hand scope (head.mapping []) around := by
  obtain ⟨_, start, stop⟩ := t
  cases h
  exact (next_of_pass rfl rfl).trans (next_of_done rfl rfl)

theorem next_bracket (h : t.kind = .flowSequenceStart) (slot : Slot) :
    (within scope (.expect slot) around).next t =
      .within scope (.expect .item) (.flowSequence ⟨t.start, none, t.start⟩ [] true :: around) := by
  obtain ⟨_, start, stop⟩ := t
  cases h
  refine next_of_enter ?_ rfl
  cases slot <;> rfl

theorem next_closing_bracket (h : t.kind = .flowSequenceEnd) (head : Head) :
    (within scope (.expect .item) (.flowSequence head [] true :: around)).next t =
      hand scope (head.sequence []) around := by
  obtain ⟨_, start, stop⟩ := t
  cases h
  exact (next_of_pass rfl rfl).trans (next_of_done rfl rfl)

theorem next_sequence_start (h : t.kind = .blockSequenceStart) (after : Mark) :
    (within scope (.expect (.part after)) around).next t =
      .within scope (.blockSequence ⟨t.start, none, t.start⟩ []) around := by
  obtain ⟨_, start, stop⟩ := t
  cases h
  exact next_of_take rfl rfl

theorem next_sequence_end (h : t.kind = .blockEnd) (head : Head) (items : List Node) :
    (within scope (.blockSequence head items) around).next t =
      hand scope (head.sequence items) around := by
  obtain ⟨_, start, stop⟩ := t
  cases h
  exact next_of_done rfl rfl

theorem next_entry (h : t.kind = .blockEntry) (head : Head) (items : List Node) :
    (within scope (.blockSequence head items) around).next t =
      .within scope (.expect (.entry t.stop)) (.blockSequence head items :: around) := by
  obtain ⟨_, start, stop⟩ := t
  cases h
  exact next_of_enter rfl rfl

theorem next_loose_entry (h : t.kind = .blockEntry) (head : Head) (items : List Node) :
    (within scope (.looseSequence head items) around).next t =
      .within scope (.expect (.looseEntry t.stop)) (.looseSequence head items :: around) := by
  obtain ⟨_, start, stop⟩ := t
  cases h
  exact next_of_enter rfl rfl

/-- The first entry of a list without indentation starts the list as well. -/
theorem next_loose_start (h : t.kind = .blockEntry) (after : Mark) :
    (within scope (.expect (.part after)) around).next t =
      (within scope (.looseSequence ⟨t.start, none, t.start⟩ []) around).next t := by
  rw [next_loose_entry h]
  obtain ⟨_, start, stop⟩ := t
  cases h
  exact next_of_enter rfl rfl

/-- A token that may follow a value of a block mapping. -/
def MayFollow (t : Token) : Prop := t.kind = .key ∨ t.kind = .blockEnd

/-- A list without indentation ends where the mapping around it goes on. -/
theorem next_loose_end (h : MayFollow t) (head : Head) (items : List Node) (outer : Frame) :
    (within scope (.looseSequence head items) (outer :: around)).next t =
      (hand scope (head.sequence items) (outer :: around)).next t := by
  obtain ⟨_, start, stop⟩ := t
  rcases h with h | h
  · cases h
    exact next_of_leave rfl rfl
  · cases h
    exact next_of_leave rfl rfl

theorem next_opening (h : t.kind = .blockMappingStart) :
    (opening {}).next t =
      .within (Directives.scope {}) (.blockMapping ⟨t.start, none, t.start⟩ [] none) [] := by
  obtain ⟨_, start, stop⟩ := t
  cases h
  change (within (Directives.scope {}) (.expect .document) []).next _ = _
  exact next_of_take rfl rfl

/-! ## Lines and assertions -/

/-- A key and its text are one more entry of a mapping. -/
theorem next_line {key text : String} {tokens : List Token}
    (h : tokens.map Token.kind = lineKinds key text) (head : Head)
    (entries : List (Node × Node)) :
    ∃ entry, IsLine key text entry ∧
      tokens.foldl next (.within scope (.blockMapping head entries none) around) =
        .within scope (.blockMapping head (entry :: entries) none) around := by
  simp only [lineKinds, List.map_eq_cons_iff, List.map_eq_nil_iff] at h
  obtain ⟨t₁, _, rfl, h₁, t₂, _, rfl, h₂, t₃, _, rfl, h₃, t₄, _, rfl, h₄, rfl⟩ := h
  refine ⟨(.scalar t₂.start none none .plain key, .scalar t₄.start none none .doubleQuoted text),
    ⟨t₂.start, t₄.start, rfl⟩, ?_⟩
  simp only [List.foldl_cons, List.foldl_nil]
  rw [next_key h₁, next_scalar h₂, hand, Frame.receive, next_value h₃, next_scalar h₄, hand,
    Frame.receive]

theorem next_fields {fields : List Assertion.Field} {tokens : List Token}
    (h : tokens.map Token.kind = fieldKinds fields) (head : Head)
    (entries : List (Node × Node)) :
    ∃ more, List.Forall₂ (fun field => IsLine field.key field.text) fields more ∧
      tokens.foldl next (.within scope (.blockMapping head entries none) around) =
        .within scope (.blockMapping head (more.reverse ++ entries) none) around := by
  induction fields generalizing tokens entries with
  | nil =>
    have hnil : tokens = [] := List.map_eq_nil_iff.mp h
    subst hnil
    exact ⟨[], .nil, rfl⟩
  | cons field fields ih =>
    obtain ⟨first, rest, rfl, hfirst, hrest⟩ := List.map_eq_append_iff.mp h
    obtain ⟨entry, hentry, hline⟩ := next_line hfirst head entries
    obtain ⟨more, hmore, hfields⟩ := ih hrest (entry :: entries)
    refine ⟨entry :: more, .cons hentry hmore, ?_⟩
    rw [List.foldl_append, hline, hfields]
    simp

/-- An assertion is one node. -/
theorem next_assertion {fields : List Assertion.Field} {tokens : List Token}
    (h : tokens.map Token.kind = mappingKinds fields) {slot : Slot} (hslot : slot.inBlock = true) :
    ∃ node, IsAssertion fields node ∧
      tokens.foldl next (.within scope (.expect slot) around) = hand scope node around := by
  cases fields with
  | nil =>
    simp only [mappingKinds, List.map_eq_cons_iff, List.map_eq_nil_iff] at h
    obtain ⟨t₁, _, rfl, h₁, t₂, _, rfl, h₂, rfl⟩ := h
    refine ⟨.mapping t₁.start none [], ⟨t₁.start, [], rfl, .nil⟩, ?_⟩
    simp only [List.foldl_cons, List.foldl_nil]
    rw [next_brace h₁, next_closing_brace h₂]
    rfl
  | cons field fields =>
    obtain ⟨_, last, rfl, h, hlast⟩ := List.map_eq_append_iff.mp h
    obtain ⟨t₁, tokens, rfl, h₁, htokens⟩ := List.map_eq_cons_iff.mp h
    simp only [List.map_eq_cons_iff, List.map_eq_nil_iff] at hlast
    obtain ⟨t₂, _, rfl, h₂, rfl⟩ := hlast
    obtain ⟨more, hmore, hfields⟩ := next_fields htokens ⟨t₁.start, none, t₁.start⟩ []
    refine ⟨.mapping t₁.start none more, ⟨t₁.start, more, rfl, hmore⟩, ?_⟩
    simp only [List.foldl_append, List.foldl_cons, List.foldl_nil]
    rw [next_mapping_start h₁ hslot, hfields, next_mapping_end h₂, Head.mapping]
    simp

/-! ## Lists -/

/-- The entries of a list, in any frame that takes them. -/
theorem next_items {frame : List Node → Frame}
    (hentry : ∀ items t, t.kind = .blockEntry → ∃ slot : Slot, slot.inBlock = true ∧
      (within scope (frame items) around).next t =
        .within scope (.expect slot) (frame items :: around))
    (hreceive : ∀ items node, (frame items).receive node = frame (node :: items))
    {entries : List (List Assertion.Field)} {tokens : List Token}
    (h : tokens.map Token.kind = entryKinds entries) (items : List Node) :
    ∃ more, List.Forall₂ IsAssertion entries more ∧
      tokens.foldl next (.within scope (frame items) around) =
        .within scope (frame (more.reverse ++ items)) around := by
  induction entries generalizing tokens items with
  | nil =>
    have hnil : tokens = [] := List.map_eq_nil_iff.mp h
    subst hnil
    exact ⟨[], .nil, rfl⟩
  | cons fields entries ih =>
    obtain ⟨_, rest, rfl, hfirst, hrest⟩ := List.map_eq_append_iff.mp h
    obtain ⟨t₁, first, rfl, h₁, hfirst⟩ := List.map_eq_cons_iff.mp hfirst
    obtain ⟨slot, hslot, hnext⟩ := hentry items t₁ h₁
    obtain ⟨node, hnode, hassertion⟩ := next_assertion hfirst hslot
    obtain ⟨more, hmore, hitems⟩ := ih hrest (node :: items)
    refine ⟨node :: more, .cons hnode hmore, ?_⟩
    simp only [List.foldl_append, List.foldl_cons]
    rw [hnext, hassertion, hand, hreceive, hitems]
    simp

/-- The list of assertions behind its key. What follows it may show where it
ends. -/
theorem next_list (layout : Layout) {entries : List (List Assertion.Field)} {tokens : List Token}
    (h : tokens.map Token.kind = layout.listKinds entries) (after : Mark) (outer : Frame) :
    ∃ m items, List.Forall₂ IsAssertion entries items ∧ ∀ t, MayFollow t →
      (tokens.foldl next (.within scope (.expect (.part after)) (outer :: around))).next t =
        (hand scope (.sequence m none items) (outer :: around)).next t := by
  cases entries with
  | nil =>
    simp only [listKinds, List.map_eq_cons_iff, List.map_eq_nil_iff] at h
    obtain ⟨t₁, _, rfl, h₁, t₂, _, rfl, h₂, rfl⟩ := h
    refine ⟨t₁.start, [], .nil, fun t _ => ?_⟩
    simp only [List.foldl_cons, List.foldl_nil]
    rw [next_bracket h₁, next_closing_bracket h₂]
    rfl
  | cons fields entries =>
    rw [listKinds_cons] at h
    split at h
    · obtain ⟨t₁, rest, rfl, h₁, -⟩ := List.map_eq_cons_iff.mp h
      let head : Head := ⟨t₁.start, none, t₁.start⟩
      have hentry : ∀ items t, t.kind = .blockEntry → ∃ slot : Slot, slot.inBlock = true ∧
          (within scope (.looseSequence head items) (outer :: around)).next t =
            .within scope (.expect slot) (.looseSequence head items :: outer :: around) :=
        fun items t ht => ⟨.looseEntry t.stop, rfl, next_loose_entry ht head items⟩
      obtain ⟨items, hitems, hrest⟩ := next_items hentry (fun _ _ => rfl) h []
      refine ⟨t₁.start, items, hitems, fun t ht => ?_⟩
      rw [List.foldl_cons] at hrest ⊢
      rw [next_loose_start h₁, hrest, next_loose_end ht, Head.sequence]
      simp [head]
    · obtain ⟨_, last, rfl, h, hlast⟩ := List.map_eq_append_iff.mp h
      obtain ⟨t₁, tokens, rfl, h₁, htokens⟩ := List.map_eq_cons_iff.mp h
      simp only [List.map_eq_cons_iff, List.map_eq_nil_iff] at hlast
      obtain ⟨t₂, _, rfl, h₂, rfl⟩ := hlast
      let head : Head := ⟨t₁.start, none, t₁.start⟩
      have hentry : ∀ items t, t.kind = .blockEntry → ∃ slot : Slot, slot.inBlock = true ∧
          (within scope (.blockSequence head items) (outer :: around)).next t =
            .within scope (.expect slot) (.blockSequence head items :: outer :: around) :=
        fun items t ht => ⟨.entry t.stop, rfl, next_entry ht head items⟩
      obtain ⟨items, hitems, hrest⟩ := next_items hentry (fun _ _ => rfl) htokens []
      refine ⟨t₁.start, items, hitems, fun t _ => ?_⟩
      simp only [List.foldl_append, List.foldl_cons, List.foldl_nil]
      rw [next_sequence_start h₁, hrest, next_sequence_end h₂, Head.sequence]
      simp [head]

/-- The list of assertions is one more entry of a mapping. -/
theorem next_assertions (layout : Layout) {entries : List (List Assertion.Field)}
    {tokens : List Token} (h : tokens.map Token.kind = layout.assertionsKinds entries) (head : Head)
    (others : List (Node × Node)) :
    ∃ entry, IsList entries entry ∧ ∀ t, MayFollow t →
      (tokens.foldl next (.within scope (.blockMapping head others none) around)).next t =
        (within scope (.blockMapping head (entry :: others) none) around).next t := by
  simp only [assertionsKinds, List.cons_append, List.nil_append, List.map_eq_cons_iff] at h
  obtain ⟨t₁, _, rfl, h₁, t₂, _, rfl, h₂, t₃, tokens, rfl, h₃, htokens⟩ := h
  let key : Node := .scalar t₂.start none none .plain "assertions"
  obtain ⟨m, items, hitems, hlist⟩ :=
    next_list layout htokens t₃.stop (.blockMapping head others (some key))
  refine ⟨(key, .sequence m none items), ⟨t₂.start, m, items, rfl, hitems⟩, fun t ht => ?_⟩
  simp only [List.foldl_cons]
  rw [next_key h₁, next_scalar h₂, hand, Frame.receive, next_value h₃]
  exact hlist t ht

/-! ## Scripts -/

theorem next_ending {t₁ t₂ : Token} (h₁ : t₁.kind = .blockEnd) (h₂ : t₂.kind = .streamEnd)
    {stage : Stage} {head : Head} {entries : List (Node × Node)}
    (h : stage.next t₁ = (within scope (.blockMapping head entries none) []).next t₁) :
    [t₁, t₂].foldl next stage = .ended (head.mapping entries) false := by
  simp only [List.foldl_cons, List.foldl_nil]
  rw [h, next_mapping_end h₁, hand, next, h₂]
  rfl

/-- The root of a script is complete with the end of its mapping. -/
theorem next_script (layout : Layout) (name : String)
    (list : Option (List (List Assertion.Field))) {tokens : List Token}
    (h : tokens.map Token.kind = layout.documentKinds name list) :
    ∃ m entries, IsScript name list entries ∧
      tokens.foldl next (.opening {}) = .ended (.mapping m none entries) false := by
  obtain ⟨_, last, rfl, h, hlast⟩ := List.map_eq_append_iff.mp h
  obtain ⟨t₀, tokens, rfl, h₀, htokens⟩ := List.map_eq_cons_iff.mp h
  simp only [List.map_eq_cons_iff, List.map_eq_nil_iff] at hlast
  obtain ⟨t₁, _, rfl, h₁, t₂, _, rfl, h₂, rfl⟩ := hlast
  let head : Head := ⟨t₀.start, none, t₀.start⟩
  suffices hbody : ∃ entries, IsScript name list entries.reverse ∧ ∀ t, t.kind = .blockEnd →
      (tokens.foldl next (.within (Directives.scope {}) (.blockMapping head [] none) [])).next t =
        (within (Directives.scope {}) (.blockMapping head entries none) []).next t by
    obtain ⟨entries, hscript, hbody⟩ := hbody
    refine ⟨t₀.start, entries.reverse, hscript, ?_⟩
    have hstart : (t₀ :: tokens).foldl next (.opening {}) =
        tokens.foldl next (.within (Directives.scope {}) (.blockMapping head [] none) []) := by
      rw [List.foldl_cons, next_opening h₀]
    rw [List.foldl_append, hstart, next_ending h₁ h₂ (hbody t₁ h₁)]
    rfl
  cases list with
  | none =>
    have hkinds : tokens.map Token.kind = lineKinds "name" name := by
      rw [htokens]
      simp
    obtain ⟨entry, hentry, hline⟩ := next_line hkinds head []
    exact ⟨[entry], .alone hentry, fun t _ => by rw [hline]⟩
  | some entries =>
    cases hfirst : layout.nameFirst with
    | true =>
      rw [hfirst, if_pos rfl] at htokens
      obtain ⟨first, rest, rfl, hname, hrest⟩ := List.map_eq_append_iff.mp htokens
      obtain ⟨entry, hentry, hline⟩ := next_line hname head []
      obtain ⟨list, hlist, hassertions⟩ := next_assertions layout hrest head [entry]
      refine ⟨[list, entry], .nameFirst hentry hlist, fun t ht => ?_⟩
      rw [List.foldl_append, hline]
      exact hassertions t (.inr ht)
    | false =>
      rw [hfirst, if_neg Bool.false_ne_true] at htokens
      obtain ⟨first, rest, rfl, hlist, hrest⟩ := List.map_eq_append_iff.mp htokens
      obtain ⟨list, hlist, hassertions⟩ := next_assertions layout hlist head []
      obtain ⟨entry, hentry, hline⟩ := next_line hrest head [list]
      refine ⟨[entry, list], .listFirst hentry hlist, fun t _ => ?_⟩
      obtain ⟨t₃, rest, rfl, h₃, -⟩ := List.map_eq_cons_iff.mp hrest
      rw [List.foldl_append, List.foldl_cons, hassertions t₃ (.inl h₃), ← List.foldl_cons, hline]

end Stage

/-- The document of a script. -/
theorem Document.ofText_document (layout : Layout) (name : String)
    (list : Option (List (List Assertion.Field))) :
    ∃ m entries, IsScript name list entries ∧
      Document.ofText (layout.document name list) = ⟨.mapping m none entries, none⟩ := by
  obtain ⟨tokens, htokens, hkinds⟩ := layout.tokens_document name list
  obtain ⟨m, entries, hscript, hstage⟩ := Stage.next_script layout name list hkinds
  refine ⟨m, entries, hscript, ?_⟩
  rw [ofText, htokens, ofTokens, hstage]
  rfl

end Yaml

end Verdict
