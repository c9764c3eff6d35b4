-- Which documents are read as scripts. Unknown keys of the root are passed over,
-- but an assertion is strict about its keys. Main statement: where the root is in
-- order the assertions decide, and one that does not fit spoils the whole script.
import Mathlib.Data.List.Forall2
import Verdict.Proofs.Yaml.Whole
import Verdict.Script.Reading

namespace Verdict.Script

open Yaml (Mark Meaning Node)

/-! ## All or nothing -/

/-- The result is this one if the condition holds, and otherwise a mismatch. -/
structure AllOrNothing {α : Type} (result : Except Refusal α) (condition : Prop) (a : α) :
    Prop where
  all : condition → result = .ok a
  nothing : ¬condition → ∃ m, result = .error (.mismatch m)

namespace AllOrNothing

variable {α β : Type} {x : Except Refusal α} {p q : Prop} {a : α}

theorem of_ok (h : x = .ok a) (hp : p) : AllOrNothing x p a :=
  ⟨fun _ => h, fun hn => absurd hp hn⟩

theorem of_refuse {path : Path} {mark : Mark} {cause : Mismatch.Cause}
    (h : x = refuse path mark cause) (hp : ¬p) : AllOrNothing x p a :=
  ⟨fun hholds => absurd hholds hp, fun _ => ⟨_, h⟩⟩

theorem congr {b : α} (h : AllOrNothing x p a) (hiff : p ↔ q) (hb : q → a = b) :
    AllOrNothing x q b := by
  constructor
  · intro hq
    rw [← hb hq]
    exact h.all (hiff.mpr hq)
  · intro hq
    exact h.nothing fun hp => hq (hiff.mp hp)

/-- Two steps, the second of which asks for all that the first one does. -/
theorem bind {f : α → Except Refusal β} {b : β} (h : AllOrNothing x p a)
    (hf : p → AllOrNothing (f a) q b) (hqp : q → p) : AllOrNothing (x >>= f) q b := by
  constructor
  · intro hq
    rw [h.all (hqp hq)]
    exact (hf (hqp hq)).all hq
  · intro hq
    by_cases hp : p
    · rw [h.all hp]
      exact (hf hp).nothing hq
    · obtain ⟨m, hm⟩ := h.nothing hp
      rw [hm]
      exact ⟨m, rfl⟩

theorem bind_pure (f : α → β) (h : AllOrNothing x p a) :
    AllOrNothing (x >>= fun a => pure (f a)) p (f a) :=
  h.bind (fun hp => of_ok rfl hp) id

end AllOrNothing

/-! ## Values -/

/-- What stands at a key. -/
inductive Value where
  | text (s : String)
  /-- A plain scalar that stands for nothing. -/
  | nothing
  | collection
  | other
  deriving DecidableEq, Repr

/-- What a node is. Quoted scalars are texts, and so are blocks. -/
def Value.ofNode : Node → Value
  | .scalar _ _ (some _) _ _ => .other
  | .scalar _ _ none .plain s =>
    if s.isEmpty || Meaning.isNull s.toList then .nothing else .other
  | .scalar _ _ none _ s => .text s
  | .sequence _ _ _ | .mapping _ _ _ => .collection
  | .aliasOf _ | .cut _ => .other

/-- The text of a value. -/
def Value.text? : Value → Option String
  | .text s => some s
  | .nothing | .collection | .other => none

variable (d : Yaml.Document)

theorem allOrNothing_readText (path : Path) {node : Node} {value : Value}
    (hnode : Value.ofNode node = value) (hnothing : value ≠ .nothing)
    (hother : value ≠ .other) :
    AllOrNothing (readText d path node) (value ≠ .collection) (value.text?.getD "") := by
  subst hnode
  cases node with
  | scalar mark anchor tag style s =>
    cases tag with
    | some tag => exact absurd rfl hother
    | none =>
      cases style with
      | plain =>
        by_cases hnull : (s.isEmpty || Meaning.isNull s.toList) = true
        · exact absurd (if_pos hnull) hnothing
        · exact absurd (if_neg hnull) hother
      | singleQuoted | doubleQuoted | literal | folded => exact .of_ok rfl (by simp [Value.ofNode])
  | sequence | mapping => exact .of_refuse rfl (absurd rfl)
  | aliasOf | cut => exact absurd rfl hother

theorem readText_of_text (path : Path) {node : Node} {s : String}
    (h : Value.ofNode node = .text s) : readText d path node = .ok s :=
  (allOrNothing_readText d path h (by simp) (by simp)).all (by simp)

theorem allOrNothing_readOptional (around : Path) (mark : Mark) (path : Path) {node : Node}
    {value : Value} (hnode : Value.ofNode node = value) (hother : value ≠ .other) :
    AllOrNothing (readOptional d around mark path node) (value ≠ .collection) value.text? := by
  subst hnode
  cases node with
  | scalar start anchor tag style s =>
    cases tag with
    | some tag => exact absurd rfl hother
    | none =>
      cases style with
      | plain =>
        by_cases hnull : (s.isEmpty || Meaning.isNull s.toList) = true
        · rw [Value.ofNode, if_pos hnull]
          exact .of_ok (if_pos hnull) (by simp)
        · exact absurd (if_neg hnull) hother
      | singleQuoted | doubleQuoted | literal | folded => exact .of_ok rfl (by simp [Value.ofNode])
  | sequence | mapping => exact .of_refuse rfl (absurd rfl)
  | aliasOf | cut => exact absurd rfl hother

theorem forall₂_of_mapM_eq_some {α β : Type} {f : α → Option β} {as : List α}
    {bs : List β} (h : as.mapM f = some bs) : List.Forall₂ (fun a b => f a = some b) as bs := by
  induction as generalizing bs with
  | nil =>
    cases h
    exact .nil
  | cons a as ih =>
    rw [List.mapM_cons] at h
    obtain ⟨b, hb, hrest⟩ := Option.bind_eq_some_iff.mp h
    obtain ⟨bs, hbs, hcons⟩ := Option.bind_eq_some_iff.mp hrest
    cases hcons
    exact .cons hb (ih hbs)

/-! ## Assertions -/

namespace Assertion

/-- The keys that an assertion may have. -/
def fieldNames : List String := ["test", "xpath", "message"]

/-- A key of the mapping of an assertion and what stands at it. -/
abbrev Entry := String × Value

/-- At a field stands a text or a collection, or nothing instead of an
expression; at other keys anything may stand. -/
def Entry.isRegular (entry : Entry) : Bool :=
  match entry.2 with
  | .text _ | .collection => true
  | .nothing => entry.1 ≠ "message"
  | .other => entry.1 ∉ fieldNames

/-- The entry of a key, if this is a scalar, and a value. -/
def Entry.ofNodes? : Node × Node → Option Entry
  | (.scalar _ _ _ _ name, node) =>
    if Entry.isRegular (name, Value.ofNode node) then some (name, Value.ofNode node) else none
  | _ => none

/-- The entries of a mapping. -/
def entries? : Node → Option (List Entry)
  | .mapping _ _ entries => entries.mapM Entry.ofNodes?
  | _ => none

/-- The entries fit an assertion: they are fields, none is given twice, and a
single value stands at each. -/
structure Fits (entries : List Entry) : Prop where
  known : ∀ entry ∈ entries, entry.1 ∈ fieldNames
  once : (entries.map Prod.fst).Nodup
  single : ∀ entry ∈ entries, entry.2 ≠ .collection

instance (entries : List Entry) : Decidable (Fits entries) :=
  decidable_of_iff
    ((∀ entry ∈ entries, entry.1 ∈ fieldNames) ∧ (entries.map Prod.fst).Nodup ∧
      ∀ entry ∈ entries, entry.2 ≠ .collection)
    ⟨fun h => ⟨h.1, h.2.1, h.2.2⟩, fun h => ⟨h.known, h.once, h.single⟩⟩

/-- The assertion of some entries. -/
def ofEntries (entries : List Entry) : Assertion where
  test := (entries.lookup "test").bind Value.text?
  xpath := (entries.lookup "xpath").bind Value.text?
  message := ((entries.lookup "message").bind Value.text?).getD ""

/-- The fields that are read when some entries are. -/
def Fields.ofEntries (entries : List Entry) : Fields where
  test := (entries.lookup "test").map Value.text?
  xpath := (entries.lookup "xpath").map Value.text?
  message := (entries.lookup "message").map fun value => value.text?.getD ""

theorem Fields.assertion_ofEntries (entries : List Entry) :
    (Fields.ofEntries entries).assertion = Assertion.ofEntries entries := by
  unfold assertion Fields.ofEntries Assertion.ofEntries
  cases entries.lookup "test" <;> cases entries.lookup "xpath" <;>
    cases entries.lookup "message" <;> rfl

theorem lookup_eq_none_iff {entries : List Entry} {name : String} :
    entries.lookup name = none ↔ name ∉ entries.map Prod.fst := by
  rw [List.lookup_eq_none_iff, List.mem_map]
  constructor
  · rintro h ⟨entry, hmem, rfl⟩
    exact bne_iff_ne.mp (h entry hmem) rfl
  · intro h entry hmem
    exact bne_iff_ne.mpr fun heq => h ⟨entry, hmem, heq.symm⟩

theorem lookup_append_singleton {done : List Entry} {name : String}
    (hnew : done.lookup name = none) (value : Value) (key : String) :
    (done ++ [(name, value)]).lookup key = if key = name then some value else done.lookup key := by
  rw [List.lookup_append]
  by_cases hkey : key = name
  · subst hkey
    simp [hnew]
  · have hbeq : (key == name) = false := beq_eq_false_iff_ne.mpr hkey
    rw [if_neg hkey, List.lookup_cons, hbeq]
    exact Option.or_none

theorem fits_append_singleton {done : List Entry} (hdone : Fits done) {entry : Entry} :
    Fits (done ++ [entry]) ↔
      entry.1 ∈ fieldNames ∧ done.lookup entry.1 = none ∧ entry.2 ≠ .collection := by
  rw [lookup_eq_none_iff]
  constructor
  · rintro ⟨hknown, honce, hsingle⟩
    have hlast : entry ∈ done ++ [entry] := List.mem_append_right done List.mem_cons_self
    refine ⟨hknown entry hlast, ?_, hsingle entry hlast⟩
    rw [List.map_append, List.nodup_append] at honce
    intro hmem
    exact honce.2.2 _ hmem _ List.mem_cons_self rfl
  · rintro ⟨hknown, hnew, hsingle⟩
    refine ⟨?_, ?_, ?_⟩
    · exact List.forall_mem_append.mpr ⟨hdone.known, List.forall_mem_singleton.mpr hknown⟩
    · rw [List.map_append]
      refine List.nodup_append.mpr ⟨hdone.once, List.pairwise_singleton _ _, ?_⟩
      intro name hmem other hother heq
      rw [heq, List.mem_singleton.mp hother] at hmem
      exact hnew hmem
    · exact List.forall_mem_append.mpr ⟨hdone.single, List.forall_mem_singleton.mpr hsingle⟩

theorem Fits.of_append {entries others : List Entry} (h : Fits (entries ++ others)) :
    Fits entries := by
  refine ⟨?_, ?_, ?_⟩
  · exact (List.forall_mem_append.mp h.known).1
  · have honce := h.once
    rw [List.map_append] at honce
    exact (List.nodup_append.mp honce).1
  · exact (List.forall_mem_append.mp h.single).1

theorem exists_of_ofNodes? {nodes : Node × Node} {entry : Entry}
    (h : Entry.ofNodes? nodes = some entry) :
    ∃ mark anchor tag style node,
      nodes = (.scalar mark anchor tag style entry.1, node) ∧
        Value.ofNode node = entry.2 ∧ entry.isRegular = true := by
  obtain ⟨key, node⟩ := nodes
  cases key with
  | scalar mark anchor tag style name =>
    by_cases hregular : Entry.isRegular (name, Value.ofNode node) = true
    · rw [Entry.ofNodes?, if_pos hregular] at h
      cases h
      exact ⟨mark, anchor, tag, style, node, rfl, rfl, hregular⟩
    · rw [Entry.ofNodes?, if_neg hregular] at h
      cases h
  | sequence | mapping | aliasOf | cut => cases h

/-- A field that must not have been read so far, and its value. -/
theorem allOrNothing_once {α β γ : Type} {field : Option α} {name : String} {path : Path}
    {mark : Mark} {x : Except Refusal β} {p : Prop} {b : β} (h : AllOrNothing x p b)
    (put : β → γ) :
    AllOrNothing (once field name path mark >>= fun _ => x >>= fun b => pure (put b))
      (field = none ∧ p) (put b) := by
  cases field with
  | none => exact (h.bind_pure put).congr (by simp) fun _ => rfl
  | some a => exact .of_refuse rfl (by simp)

/-- One more entry is read if the entries fit with it. -/
theorem allOrNothing_readField {path : Path} {mark : Mark} {done : List Entry} (hdone : Fits done)
    {nodes : Node × Node} {entry : Entry} (hentry : Entry.ofNodes? nodes = some entry) :
    AllOrNothing (readField d path mark (Fields.ofEntries done) nodes) (Fits (done ++ [entry]))
      (Fields.ofEntries (done ++ [entry])) := by
  obtain ⟨start, anchor, tag, style, node, rfl, hvalue, hregular⟩ := exists_of_ofNodes? hentry
  obtain ⟨name, value⟩ := entry
  dsimp only at hvalue hregular ⊢
  rw [fits_append_singleton hdone]
  by_cases hname : name ∈ fieldNames
  · have hother : value ≠ .other := by
      rintro rfl
      simp [Entry.isRegular, hname] at hregular
    have hname' : name = "test" ∨ name = "xpath" ∨ name = "message" := by
      simpa [fieldNames] using hname
    rcases hname' with rfl | rfl | rfl
    · have hread := allOrNothing_readOptional d path mark (path ++ [.key "test"]) hvalue hother
      refine (allOrNothing_once hread fun text =>
        { Fields.ofEntries done with test := some text }).congr ?_ ?_
      · simp [Fields.ofEntries, hname]
      · rintro ⟨-, hnew, -⟩
        simp [Fields.ofEntries, lookup_append_singleton hnew]
    · have hread := allOrNothing_readOptional d path mark (path ++ [.key "xpath"]) hvalue hother
      refine (allOrNothing_once hread fun text =>
        { Fields.ofEntries done with xpath := some text }).congr ?_ ?_
      · simp [Fields.ofEntries, hname]
      · rintro ⟨-, hnew, -⟩
        simp [Fields.ofEntries, lookup_append_singleton hnew]
    · have hnothing : value ≠ .nothing := by
        rintro rfl
        simp [Entry.isRegular] at hregular
      have hread := allOrNothing_readText d (path ++ [.key "message"]) hvalue hnothing hother
      refine (allOrNothing_once hread fun text =>
        { Fields.ofEntries done with message := some text }).congr ?_ ?_
      · simp [Fields.ofEntries, hname]
      · rintro ⟨-, hnew, -⟩
        simp [Fields.ofEntries, lookup_append_singleton hnew]
  · have hunknown : name ≠ "test" ∧ name ≠ "xpath" ∧ name ≠ "message" := by
      simpa [fieldNames] using hname
    obtain ⟨htest, hxpath, hmessage⟩ := hunknown
    refine .of_refuse ((if_neg htest).trans ((if_neg hxpath).trans (if_neg hmessage))) ?_
    rintro ⟨hknown, -⟩
    exact hname hknown

/-- The entries of an assertion are read one after the other, and what is read
so far fits. -/
theorem allOrNothing_foldlM_readField {path : Path} {mark : Mark} {nodes : List (Node × Node)}
    {entries : List Entry}
    (hentries : List.Forall₂ (fun node entry => Entry.ofNodes? node = some entry) nodes entries)
    {done : List Entry} (hdone : Fits done) :
    AllOrNothing (nodes.foldlM (readField d path mark) (Fields.ofEntries done))
      (Fits (done ++ entries)) (Fields.ofEntries (done ++ entries)) := by
  induction hentries generalizing done with
  | nil =>
    rw [List.append_nil]
    exact .of_ok rfl hdone
  | @cons node entry nodes entries hentry _ ih =>
    rw [List.foldlM_cons, List.append_cons]
    exact (allOrNothing_readField d hdone hentry).bind ih Fits.of_append

theorem allOrNothing_read (path : Path) {node : Node} {entries : List Entry}
    (h : entries? node = some entries) :
    AllOrNothing (Assertion.read d path node) (Fits entries) (Assertion.ofEntries entries) := by
  cases node with
  | mapping mark anchor nodes =>
    have hentries := forall₂_of_mapM_eq_some h
    have hempty : Fits [] := by decide
    rw [← Fields.assertion_ofEntries]
    exact (allOrNothing_foldlM_readField d hentries hempty).bind_pure Fields.assertion
  | scalar | sequence | aliasOf | cut => cases h

/-- A list of assertions is read to its end, or not at all. -/
theorem allOrNothing_readAll (path : Path) (n : Nat) {nodes : List Node} {items : List (List Entry)}
    (h : List.Forall₂ (fun node entries => entries? node = some entries) nodes items) :
    AllOrNothing (readAll d path n nodes) (∀ entries ∈ items, Fits entries)
      (items.map Assertion.ofEntries) := by
  induction h generalizing n with
  | nil => exact .of_ok rfl (by simp)
  | @cons node entries nodes items hnode _ ih =>
    rw [readAll, List.map_cons]
    refine (allOrNothing_read d (path ++ [.index n]) hnode).bind ?_ ?_
    · intro hfits
      refine ((ih (n + 1)).bind_pure (Assertion.ofEntries entries :: ·)).congr ?_ fun _ => rfl
      simp [hfits]
    · intro hall
      exact hall entries List.mem_cons_self

end Assertion

/-! ## Roots -/

/-- The text of a key that is a scalar. -/
def keyText? : Node → Option String
  | .scalar _ _ _ _ name => some name
  | _ => none

/-- The nodes that stand at a key. -/
def nodesAt (name : String) (entries : List (Node × Node)) : List Node :=
  (entries.filter fun entry => keyText? entry.1 = some name).map Prod.snd

theorem nodesAt_cons_self {name : String} {key : Node} (h : keyText? key = some name) (node : Node)
    (entries : List (Node × Node)) :
    nodesAt name ((key, node) :: entries) = node :: nodesAt name entries := by
  simp [nodesAt, h]

theorem nodesAt_cons_of_ne {name other : String} {key : Node} (h : keyText? key = some other)
    (hne : other ≠ name) (node : Node) (entries : List (Node × Node)) :
    nodesAt name ((key, node) :: entries) = nodesAt name entries := by
  simp [nodesAt, h, hne]

/-- One node at a key, with what stands before and behind it. -/
theorem exists_of_nodesAt_eq_singleton {name : String} {entries : List (Node × Node)} {node : Node}
    (h : nodesAt name entries = [node]) :
    ∃ before key after, entries = before ++ (key, node) :: after ∧ keyText? key = some name ∧
      nodesAt name before = [] ∧ nodesAt name after = [] := by
  obtain ⟨⟨key, _⟩, _, hfilter, rfl, hrest⟩ := List.map_eq_cons_iff.mp h
  cases List.map_eq_nil_iff.mp hrest
  obtain ⟨before, after, rfl, hbefore, hkey, hafter⟩ := List.filter_eq_cons_iff.mp hfilter
  refine ⟨before, key, after, rfl, of_decide_eq_true hkey, ?_, ?_⟩
  · exact List.map_eq_nil_iff.mpr (List.filter_eq_nil_iff.mpr hbefore)
  · exact List.map_eq_nil_iff.mpr hafter

/-- What decides about a document: the name of the script, and the entries of
its assertions. -/
structure Outline where
  name : String
  items : List (List Assertion.Entry)
  deriving DecidableEq, Repr

namespace Outline

/-- The text at the key for the name, which has to stand there once. -/
def name? (nodes : List Node) : Option String :=
  match nodes.map Value.ofNode with
  | [.text name] => some name
  | _ => none

/-- The assertions at the key for the list, which may be missing. -/
def items? : List Node → Option (List (List Assertion.Entry))
  | [] => some []
  | [.sequence _ _ items] => items.mapM Assertion.entries?
  | _ => none

theorem map_eq_of_name? {nodes : List Node} {name : String} (h : name? nodes = some name) :
    nodes.map Value.ofNode = [.text name] := by
  unfold name? at h
  split at h
  · next heq =>
    cases h
    exact heq
  · cases h

theorem cases_of_items? {nodes : List Node} {items : List (List Assertion.Entry)}
    (h : items? nodes = some items) :
    nodes = [] ∧ items = [] ∨
      ∃ mark anchor list, nodes = [.sequence mark anchor list] ∧
        list.mapM Assertion.entries? = some items := by
  unfold items? at h
  split at h
  · cases h
    exact .inl ⟨rfl, rfl⟩
  · exact .inr ⟨_, _, _, rfl, h⟩
  · cases h

/-- The outline of a mapping with scalars as keys. At other keys than the two
anything may stand. -/
def ofRoot? : Node → Option Outline
  | .mapping _ _ entries =>
    if entries.all fun entry => (keyText? entry.1).isSome then do
      let name ← name? (nodesAt "name" entries)
      let items ← items? (nodesAt "assertions" entries)
      return ⟨name, items⟩
    else none
  | _ => none

/-- The outline of a text that is one whole document. -/
def ofText? (text : String) : Option Outline :=
  let d := Yaml.Document.ofText text.toList
  if d.fault.isSome then none else ofRoot? d.root

end Outline

/-- The name is read already, or it stands once at its key in the entries that
follow, and not both. -/
def Fields.Awaits (fields : Fields) (name : String) (entries : List (Node × Node)) : Prop :=
  fields.name.toList.map Value.text ++ (nodesAt "name" entries).map Value.ofNode = [.text name]

theorem Fields.Awaits.name_eq {fields : Fields} {name : String} (h : fields.Awaits name []) :
    fields.name = some name := by
  obtain ⟨_ | given, assertions⟩ := fields
  · cases h
  · cases h
    rfl

/-- An entry of the root that is not the list. -/
theorem exists_readField_of_ne {mark : Mark} {fields : Fields} {name other : String}
    {key node : Node} {entries : List (Node × Node)} (hkey : keyText? key = some other)
    (hne : other ≠ "assertions") (hwhole : node.IsWhole)
    (hname : fields.Awaits name ((key, node) :: entries)) :
    ∃ fields', readField d mark fields (key, node) = .ok fields' ∧
      fields'.assertions = fields.assertions ∧ fields'.Awaits name entries := by
  cases key with
  | scalar start anchor tag style text =>
    cases hkey
    by_cases hother : other = "name"
    · subst hother
      obtain ⟨given, assertions⟩ := fields
      rw [Fields.Awaits, nodesAt_cons_self rfl] at hname
      cases given with
      | none =>
        obtain ⟨hnode, hrest⟩ := List.cons.inj hname
        refine ⟨⟨some name, assertions⟩, ?_, rfl, congrArg (Value.text name :: ·) hrest⟩
        have hread := readText_of_text d [.key "name"] hnode
        change (readText d [.key "name"] node >>= fun text =>
          pure (⟨some text, assertions⟩ : Fields)) = _
        rw [hread]
        rfl
      | some given => simp at hname
    · rw [Fields.Awaits, nodesAt_cons_of_ne rfl hother] at hname
      refine ⟨fields, ?_, rfl, hname⟩
      have hpass : passOver node = .ok () := by
        unfold passOver
        rw [hwhole]
      refine (if_neg hother).trans ((if_neg hne).trans ?_)
      rw [hpass]
      rfl
  | sequence | mapping | aliasOf | cut => cases hkey

/-- Entries without a list. -/
theorem exists_foldlM_readField {mark : Mark} {name : String} {entries rest : List (Node × Node)}
    (hkeys : ∀ entry ∈ entries, (keyText? entry.1).isSome)
    (hwhole : ∀ entry ∈ entries, entry.2.IsWhole) (hlist : nodesAt "assertions" entries = [])
    {fields : Fields} (hname : fields.Awaits name (entries ++ rest)) :
    ∃ fields', entries.foldlM (readField d mark) fields = .ok fields' ∧
      fields'.assertions = fields.assertions ∧ fields'.Awaits name rest := by
  induction entries generalizing fields with
  | nil => exact ⟨fields, rfl, rfl, hname⟩
  | cons entry entries ih =>
    obtain ⟨key, node⟩ := entry
    obtain ⟨hkey, hkeys⟩ := List.forall_mem_cons.mp hkeys
    obtain ⟨hnode, hwhole⟩ := List.forall_mem_cons.mp hwhole
    obtain ⟨other, hother⟩ := Option.isSome_iff_exists.mp hkey
    have hne : other ≠ "assertions" := by
      rintro rfl
      rw [nodesAt_cons_self hother] at hlist
      cases hlist
    rw [nodesAt_cons_of_ne hother hne] at hlist
    obtain ⟨fields₁, hfirst, hsame₁, hname₁⟩ := exists_readField_of_ne d hother hne hnode hname
    obtain ⟨fields₂, hothers, hsame₂, hname₂⟩ := ih hkeys hwhole hlist hname₁
    refine ⟨fields₂, ?_, hsame₂.trans hsame₁, hname₂⟩
    rw [List.foldlM_cons, hfirst]
    exact hothers

/-- The entry with the list. -/
theorem allOrNothing_readField_list {mark : Mark} {key : Node}
    (hkey : keyText? key = some "assertions") {start : Mark} {anchor : Option Nat}
    {nodes : List Node} {items : List (List Assertion.Entry)}
    (hitems : nodes.mapM Assertion.entries? = some items)
    {fields : Fields} (hnone : fields.assertions = none) :
    AllOrNothing (readField d mark fields (key, .sequence start anchor nodes))
      (∀ item ∈ items, Assertion.Fits item)
      { fields with assertions := some (items.map Assertion.ofEntries) } := by
  obtain ⟨given, _⟩ := fields
  cases hnone
  cases key with
  | scalar keyMark keyAnchor tag style text =>
    cases hkey
    have hread := Assertion.allOrNothing_readAll d [.key "assertions"] 0
      (forall₂_of_mapM_eq_some hitems)
    exact hread.bind_pure fun list => (⟨given, some list⟩ : Fields)
  | sequence | mapping | aliasOf | cut => cases hkey

/-- Of the entries of the root the list decides, if there is one. -/
theorem allOrNothing_foldlM_readField_root (mark : Mark) {name : String}
    {entries : List (Node × Node)} (hkeys : ∀ entry ∈ entries, (keyText? entry.1).isSome)
    (hwhole : ∀ entry ∈ entries, entry.2.IsWhole) (hname : ({} : Fields).Awaits name entries)
    {items : List (List Assertion.Entry)}
    (hitems : Outline.items? (nodesAt "assertions" entries) = some items) :
    ∃ list : Option (List Assertion), list.getD [] = items.map Assertion.ofEntries ∧
      AllOrNothing (entries.foldlM (readField d mark) {}) (∀ item ∈ items, Assertion.Fits item)
        ⟨some name, list⟩ := by
  obtain ⟨hlist, rfl⟩ | ⟨start, anchor, nodes, hlist, hnodes⟩ := Outline.cases_of_items? hitems
  · rw [← List.append_nil entries] at hname
    obtain ⟨fields, hread, hsame, hname⟩ := exists_foldlM_readField d hkeys hwhole hlist hname
    obtain ⟨given, list⟩ := fields
    cases hname.name_eq
    cases hsame
    exact ⟨none, rfl, .of_ok hread (by simp)⟩
  · obtain ⟨before, key, after, rfl, hkey, hbefore, hafter⟩ := exists_of_nodesAt_eq_singleton hlist
    obtain ⟨hkeysBefore, hkeys⟩ := List.forall_mem_append.mp hkeys
    obtain ⟨-, hkeysAfter⟩ := List.forall_mem_cons.mp hkeys
    obtain ⟨hwholeBefore, hwhole⟩ := List.forall_mem_append.mp hwhole
    obtain ⟨-, hwholeAfter⟩ := List.forall_mem_cons.mp hwhole
    obtain ⟨fields, hread, hnone, hname⟩ :=
      exists_foldlM_readField d hkeysBefore hwholeBefore hbefore hname
    rw [Fields.Awaits, nodesAt_cons_of_ne hkey (by decide), ← List.append_nil after] at hname
    let listed : Fields := { fields with assertions := some (items.map Assertion.ofEntries) }
    have hlisted : listed.Awaits name (after ++ []) := hname
    obtain ⟨⟨given, list⟩, hrest, hsame, hname⟩ :=
      exists_foldlM_readField d hkeysAfter hwholeAfter hafter hlisted
    cases hname.name_eq
    cases hsame
    refine ⟨some (items.map Assertion.ofEntries), rfl, ?_⟩
    rw [List.foldlM_append, hread]
    change AllOrNothing (List.foldlM (readField d mark) fields (_ :: after)) _ _
    rw [List.foldlM_cons]
    exact (allOrNothing_readField_list d hkey hnodes hnone).bind (.of_ok hrest) id

theorem allOrNothing_ofDocument {outline : Outline} (hfault : d.fault = none)
    (hwhole : d.root.IsWhole) (h : Outline.ofRoot? d.root = some outline) :
    AllOrNothing (ofDocument d) (∀ item ∈ outline.items, Assertion.Fits item)
      ⟨outline.name, outline.items.map Assertion.ofEntries⟩ := by
  obtain ⟨root, fault⟩ := d
  cases hfault
  cases root with
  | mapping mark anchor entries =>
    by_cases hkeys : entries.all (fun entry => (keyText? entry.1).isSome) = true
    · rw [Outline.ofRoot?, if_pos hkeys] at h
      obtain ⟨name, hname, h⟩ := Option.bind_eq_some_iff.mp h
      obtain ⟨items, hitems, h⟩ := Option.bind_eq_some_iff.mp h
      cases h
      obtain ⟨list, hlist, hread⟩ := allOrNothing_foldlM_readField_root
        ⟨.mapping mark anchor entries, none⟩ mark (List.all_eq_true.mp hkeys)
        (fun _ hmem => Yaml.isWhole_of_mem hwhole hmem) (Outline.map_eq_of_name? hname) hitems
      rw [← hlist]
      have hroot : AllOrNothing (readRoot ⟨.mapping mark anchor entries, none⟩)
          (∀ item ∈ items, Assertion.Fits item) ⟨name, list.getD []⟩ :=
        hread.bind (.of_ok rfl) id
      exact hroot.bind_pure id
    · rw [Outline.ofRoot?, if_neg hkeys] at h
      cases h
  | scalar | sequence | aliasOf | cut => cases h

theorem parse_of_ok {text : String} {script : Script}
    (h : ofDocument (Yaml.Document.ofText text.toList) = .ok script) : parse text = .ok script := by
  unfold parse
  dsimp only
  rw [h]

theorem parse_of_error {text : String} {refusal : Refusal}
    (h : ofDocument (Yaml.Document.ofText text.toList) = .error refusal) :
    parse text = .error ⟨refusal, (Yaml.Document.ofText text.toList).fault.isNone⟩ := by
  unfold parse
  dsimp only
  rw [h]

/-- Reading a text with an outline is all or nothing. A script is read if and
only if every assertion has no keys but its fields, none of them twice, and no
collection at any; whether it has one expression, two or none does not matter.
The script has the name, and for each item of the list, in order, the assertion
with its texts: an expression without a text is absent, and a message that is
not given is empty. One item that does not fit, wherever it stands, leaves no
script at all: what is wrong is that the text, a whole document, is no script. -/
theorem parsing_is_all_or_nothing {text : String} {outline : Outline}
    (h : Outline.ofText? text = some outline) :
    ((∃ script, parse text = .ok script) ↔ ∀ item ∈ outline.items, Assertion.Fits item) ∧
    ((∀ item ∈ outline.items, Assertion.Fits item) →
      parse text = .ok ⟨outline.name, outline.items.map Assertion.ofEntries⟩) ∧
    ((∃ item ∈ outline.items, ¬Assertion.Fits item) →
      ∃ m, parse text = .error ⟨.mismatch m, true⟩) := by
  obtain ⟨hfault, hroot⟩ : (Yaml.Document.ofText text.toList).fault = none ∧
      Outline.ofRoot? (Yaml.Document.ofText text.toList).root = some outline := by
    simpa [Outline.ofText?] using h
  have hread := allOrNothing_ofDocument _ hfault (Yaml.Document.isWhole_ofText hfault) hroot
  have hall : (∀ item ∈ outline.items, Assertion.Fits item) →
      parse text = .ok ⟨outline.name, outline.items.map Assertion.ofEntries⟩ :=
    fun hfits => parse_of_ok (hread.all hfits)
  have hnothing : ¬(∀ item ∈ outline.items, Assertion.Fits item) →
      ∃ m, parse text = .error ⟨.mismatch m, true⟩ := by
    intro hmisfit
    obtain ⟨m, hm⟩ := hread.nothing hmisfit
    refine ⟨m, ?_⟩
    rw [parse_of_error hm, hfault]
    rfl
  refine ⟨?_, hall, ?_⟩
  · constructor
    · rintro ⟨script, hscript⟩
      by_contra hmisfit
      obtain ⟨m, hm⟩ := hnothing hmisfit
      rw [hscript] at hm
      cases hm
    · exact fun hfits => ⟨_, hall hfits⟩
  · rintro ⟨item, hmem, hmisfit⟩
    exact hnothing fun hfits => hmisfit (hfits item hmem)

/-- Assertions without an expression and with two are read, and a key of the
root that is not known does no harm; behind them, one of an assertion does. -/
theorem one_misfit_spoils_the_script :
    let text := "x: [1]\nname: 'n'\nassertions:\n- \x7b\x7d\n- test: 'a'\n  xpath: \"b\"\n- test:\n"
    let outline : Outline :=
      ⟨"n", [[], [("test", .text "a"), ("xpath", .text "b")], [("test", .nothing)]]⟩
    let longer : Outline := ⟨"n", outline.items ++ [[("test", .text "a"), ("xpth", .other)]]⟩
    Outline.ofText? text = some outline ∧
    parse text = .ok ⟨"n", [{}, { test := some "a", xpath := some "b" }, {}]⟩ ∧
    Outline.ofText? (text ++ "- test: 'a'\n  xpth: 1\n") = some longer ∧
    ∃ m, parse (text ++ "- test: 'a'\n  xpth: 1\n") = .error ⟨.mismatch m, true⟩ := by
  intro text outline longer
  have hfirst : Outline.ofText? text = some outline := by decide +kernel
  have hsecond : Outline.ofText? (text ++ "- test: 'a'\n  xpth: 1\n") = some longer := by
    decide +kernel
  refine ⟨hfirst, ?_, hsecond, ?_⟩
  · exact (parsing_is_all_or_nothing hfirst).2.1 (by decide)
  · have hmisfit : ∃ item ∈ longer.items, ¬Assertion.Fits item :=
      ⟨[("test", .text "a"), ("xpth", .other)], by decide, by decide⟩
    exact (parsing_is_all_or_nothing hsecond).2.2 hmisfit

end Verdict.Script
