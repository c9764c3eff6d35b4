-- Reading a script that was written. Main statement: it comes back as it was,
-- in every layout and with the fields of its assertions in any order.
import Verdict.Proofs.Script.Nodes
import Verdict.Script.Reading

namespace Verdict.Script

open Yaml

/-! ## Fields of an assertion -/

namespace Assertion

/-- The assertion has this field. Every assertion has a message. -/
def Has (a : Assertion) : Field → Prop
  | .test text => a.test = some text
  | .xpath text => a.xpath = some text
  | .message text => a.message = text

/-- The fields that an assertion may be written with, in any order. An empty
message may be left out. -/
structure IsWrittenAs (a : Assertion) (fields : List Field) : Prop where
  once : (fields.map Field.key).Nodup
  has : ∀ field ∈ fields, a.Has field
  complete : ∀ field, a.Has field → field ≠ .message "" → field ∈ fields

theorem eq_of_has {a b : Assertion} (h : ∀ field, a.Has field ↔ b.Has field) : a = b := by
  obtain ⟨test, xpath, message⟩ := a
  obtain ⟨test', xpath', message'⟩ := b
  have htest : test = test' := Option.ext fun text => h (.test text)
  have hxpath : xpath = xpath' := Option.ext fun text => h (.xpath text)
  have hmessage : message' = message := (h (.message message)).mp rfl
  rw [htest, hxpath, hmessage]

theorem has_set (a : Assertion) (field other : Field) :
    (a.set field).Has other ↔ if field.key = other.key then field = other else a.Has other := by
  cases field <;> cases other <;> simp [set, Has, Field.key]

/-- An assertion that is given some fields has these, and keeps the others. -/
theorem has_foldl_set {fields : List Field} (h : (fields.map Field.key).Nodup) (a : Assertion)
    (other : Field) :
    (fields.foldl set a).Has other ↔
      other ∈ fields ∨ (∀ field ∈ fields, field.key ≠ other.key) ∧ a.Has other := by
  induction fields generalizing a with
  | nil => simp
  | cons field fields ih =>
    rw [List.map_cons, List.nodup_cons] at h
    obtain ⟨hnew, honce⟩ := h
    rw [List.foldl_cons, ih honce, has_set]
    by_cases hkey : field.key = other.key
    · have hfree : ∀ field ∈ fields, field.key ≠ other.key := by
        intro field' hmem heq
        exact hnew (List.mem_map.mpr ⟨field', hmem, heq.trans hkey.symm⟩)
      rw [if_pos hkey]
      constructor
      · rintro (hmem | ⟨-, rfl⟩)
        · exact .inl (List.mem_cons_of_mem _ hmem)
        · exact .inl List.mem_cons_self
      · rintro (hmem | ⟨hnone, -⟩)
        · rcases List.mem_cons.mp hmem with rfl | hmem
          · exact .inr ⟨hfree, rfl⟩
          · exact .inl hmem
        · exact absurd hkey (hnone field List.mem_cons_self)
    · have hne : other ≠ field := by
        rintro rfl
        exact hkey rfl
      simp [hkey, hne]

/-- The fields that an assertion is written with make it up. -/
theorem IsWrittenAs.ofWritten_eq {a : Assertion} {fields : List Field} (h : a.IsWrittenAs fields) :
    ofWritten fields = a := by
  apply eq_of_has
  intro field
  rw [ofWritten, has_foldl_set h.once]
  constructor
  · rintro (hmem | ⟨hfree, hempty⟩)
    · exact h.has field hmem
    · cases field with
      | test text => cases hempty
      | xpath text => cases hempty
      | message text =>
        cases hempty
        change a.message = ""
        by_contra hmessage
        have hmem : .message a.message ∈ fields :=
          h.complete (.message a.message) rfl fun heq => hmessage (Field.message.inj heq)
        exact hfree _ hmem rfl
  · intro hhas
    by_cases hempty : field = .message ""
    · subst hempty
      by_cases hwritten : ∃ text, .message text ∈ fields
      · obtain ⟨text, hmem⟩ := hwritten
        have htext : a.message = text := h.has _ hmem
        rw [← htext, show a.message = "" from hhas] at hmem
        exact .inl hmem
      · refine .inr ⟨?_, rfl⟩
        intro field hmem hkey
        cases field with
        | test text => exact absurd hkey (by decide : "test" ≠ "message")
        | xpath text => exact absurd hkey (by decide : "xpath" ≠ "message")
        | message text => exact hwritten ⟨text, hmem⟩
    · exact .inl (h.complete field hhas hempty)

theorem isWrittenAs_fields (a : Assertion) : a.IsWrittenAs a.fields := by
  obtain ⟨test, xpath, message⟩ := a
  refine ⟨?_, ?_, ?_⟩
  · cases test <;> cases xpath <;> by_cases h : message = "" <;> simp [fields, Field.key, h]
  · intro field hmem
    cases field <;> by_cases h : message = "" <;> simp_all [fields, Has]
  · intro field hhas hne
    cases field <;> by_cases h : message = "" <;> simp_all [fields, Has]

/-! ## Reading assertions -/

/-- The fields read so far and one more. -/
def Fields.put (fields : Fields) : Field → Fields
  | .test text => { fields with test := some (some text) }
  | .xpath text => { fields with xpath := some (some text) }
  | .message text => { fields with message := some text }

/-- No field of this kind is read so far. -/
def Fields.Lacks (fields : Fields) : Field → Prop
  | .test _ => fields.test = none
  | .xpath _ => fields.xpath = none
  | .message _ => fields.message = none

theorem Fields.assertion_put (fields : Fields) (field : Field) :
    (fields.put field).assertion = fields.assertion.set field := by
  cases field <;> rfl

theorem Fields.lacks_put {fields : Fields} {field other : Field} (h : fields.Lacks other)
    (hkey : field.key ≠ other.key) : (fields.put field).Lacks other := by
  cases field <;> cases other <;> first | exact h | exact absurd rfl hkey

variable (d : Yaml.Document)

theorem readField_line {path : Path} {mark : Mark} {fields : Fields} {field : Field}
    {entry : Node × Node} (hline : IsLine field.key field.text entry) (hlacks : fields.Lacks field) :
    readField d path mark fields entry = .ok (fields.put field) := by
  obtain ⟨m, n, rfl⟩ := hline
  obtain ⟨test, xpath, message⟩ := fields
  cases field with
  | test text =>
    cases hlacks
    rfl
  | xpath text =>
    cases hlacks
    rfl
  | message text =>
    cases hlacks
    rfl

theorem foldlM_readField {path : Path} {mark : Mark} {written : List Field}
    {entries : List (Node × Node)}
    (hlines : List.Forall₂ (fun field => IsLine field.key field.text) written entries)
    (honce : (written.map Field.key).Nodup) {fields : Fields}
    (hlacks : ∀ field ∈ written, fields.Lacks field) :
    entries.foldlM (readField d path mark) fields = .ok (written.foldl Fields.put fields) := by
  induction hlines generalizing fields with
  | nil => rfl
  | @cons field entry written entries hline _ ih =>
    rw [List.map_cons, List.nodup_cons] at honce
    have hrest : ∀ other ∈ written, (fields.put field).Lacks other := by
      intro other hmem
      apply Fields.lacks_put (hlacks other (List.mem_cons_of_mem _ hmem))
      intro hkey
      exact honce.1 (List.mem_map.mpr ⟨other, hmem, hkey.symm⟩)
    rw [List.foldlM_cons, readField_line d hline (hlacks field List.mem_cons_self)]
    exact ih honce.2 hrest

theorem foldl_put_assertion (written : List Field) (fields : Fields) :
    (written.foldl Fields.put fields).assertion = written.foldl set fields.assertion := by
  induction written generalizing fields with
  | nil => rfl
  | cons field written ih =>
    rw [List.foldl_cons, List.foldl_cons, ih, Fields.assertion_put]

/-- An assertion is read with the fields that it was written with. -/
theorem read_written {path : Path} {written : List Field} {node : Node}
    (h : IsAssertion written node) (honce : (written.map Field.key).Nodup) :
    Assertion.read d path node = .ok (ofWritten written) := by
  obtain ⟨m, entries, rfl, hlines⟩ := h
  have hlacks : ∀ field ∈ written, ({} : Fields).Lacks field := by
    intro field _
    cases field <;> rfl
  have hfields : entries.foldlM (readField d path m) {} = .ok (written.foldl Fields.put {}) :=
    foldlM_readField d hlines honce hlacks
  change (entries.foldlM (readField d path m) {} >>= fun fields => pure fields.assertion) = _
  rw [hfields]
  exact congrArg Except.ok (foldl_put_assertion written {})

theorem readAll_written {path : Path} {n : Nat} {entries : List (List Field)} {items : List Node}
    (h : List.Forall₂ IsAssertion entries items)
    (honce : ∀ written ∈ entries, (written.map Field.key).Nodup) :
    readAll d path n items = .ok (entries.map ofWritten) := by
  induction h generalizing n with
  | nil => rfl
  | @cons written node entries items hnode _ ih =>
    have hfirst := honce written List.mem_cons_self
    have hrest := fun other hmem => honce other (List.mem_cons_of_mem _ hmem)
    rw [readAll, read_written d hnode hfirst]
    change (readAll d path (n + 1) items >>= fun others => pure (ofWritten written :: others)) = _
    rw [ih hrest]
    rfl

end Assertion

/-! ## Reading scripts -/

theorem readField_name {d : Yaml.Document} {mark : Mark} {fields : Fields} {name : String}
    {entry : Node × Node} (h : IsLine "name" name entry) (hlacks : fields.name = none) :
    readField d mark fields entry = .ok { fields with name := some name } := by
  obtain ⟨m, n, rfl⟩ := h
  obtain ⟨_, assertions⟩ := fields
  cases hlacks
  rfl

theorem readField_list {d : Yaml.Document} {mark : Mark} {fields : Fields}
    {entries : List (List Assertion.Field)} {entry : Node × Node} (h : IsList entries entry)
    (honce : ∀ written ∈ entries, (written.map Assertion.Field.key).Nodup)
    (hlacks : fields.assertions = none) :
    readField d mark fields entry =
      .ok { fields with assertions := some (entries.map Assertion.ofWritten) } := by
  obtain ⟨m, n, items, rfl, hitems⟩ := h
  obtain ⟨name, _⟩ := fields
  cases hlacks
  have hread : Assertion.readAll d [.key "assertions"] 0 items = .ok (entries.map .ofWritten) :=
    Assertion.readAll_written d hitems honce
  change (Assertion.readAll d [.key "assertions"] 0 items >>= fun list =>
    pure (⟨name, some list⟩ : Fields)) = _
  rw [hread]
  rfl

/-- A script is read with the name and the assertions that it was written with. -/
theorem readRoot_written {m : Mark} {name : String} {list : Option (List (List Assertion.Field))}
    {entries : List (Node × Node)} (h : IsScript name list entries)
    (honce : ∀ written ∈ list.getD [], (written.map Assertion.Field.key).Nodup) :
    readRoot ⟨.mapping m none entries, none⟩ =
      .ok ⟨name, (list.getD []).map Assertion.ofWritten⟩ := by
  suffices hfields : entries.foldlM (readField ⟨.mapping m none entries, none⟩ m) {} =
      .ok ⟨some name, list.map (List.map Assertion.ofWritten)⟩ by
    change (entries.foldlM (readField ⟨.mapping m none entries, none⟩ m) {} >>= fun _ => _) = _
    rw [hfields]
    cases list <;> rfl
  generalize (⟨.mapping m none entries, none⟩ : Yaml.Document) = d
  cases h with
  | alone hname =>
    rw [List.foldlM_cons, readField_name hname rfl]
    rfl
  | nameFirst hname hlist =>
    rw [List.foldlM_cons, readField_name hname rfl]
    change [_].foldlM (readField d m) _ = _
    rw [List.foldlM_cons, readField_list hlist honce rfl]
    rfl
  | listFirst hname hlist =>
    rw [List.foldlM_cons, readField_list hlist honce rfl]
    change [_].foldlM (readField d m) _ = _
    rw [List.foldlM_cons, readField_name hname rfl]
    rfl

theorem parse_document (layout : Layout) (name : String)
    {list : Option (List (List Assertion.Field))}
    (honce : ∀ written ∈ list.getD [], (written.map Assertion.Field.key).Nodup) :
    parse (String.ofList (layout.document name list)) =
      .ok ⟨name, (list.getD []).map Assertion.ofWritten⟩ := by
  obtain ⟨m, entries, hscript, hdocument⟩ := Yaml.Document.ofText_document layout name list
  have hread : ofDocument ⟨.mapping m none entries, none⟩ =
      .ok ⟨name, (list.getD []).map Assertion.ofWritten⟩ := by
    rw [ofDocument, readRoot_written hscript honce]
    rfl
  unfold parse
  rw [String.toList_ofList, hdocument]
  dsimp only
  rw [hread]

/-! ## Round trips -/

/-- What stands in the list of a script that is written: each assertion with its
fields, or no list where there is no assertion. -/
def IsWrittenAs (script : Script) : Option (List (List Assertion.Field)) → Prop
  | none => script.assertions = []
  | some entries => List.Forall₂ Assertion.IsWrittenAs script.assertions entries

theorem IsWrittenAs.map_ofWritten {script : Script} {list : Option (List (List Assertion.Field))}
    (h : script.IsWrittenAs list) :
    (list.getD []).map Assertion.ofWritten = script.assertions ∧
      ∀ written ∈ list.getD [], (written.map Assertion.Field.key).Nodup := by
  cases list with
  | none =>
    refine ⟨Eq.symm h, ?_⟩
    rintro _ ⟨⟩
  | some entries =>
    change List.Forall₂ _ script.assertions entries at h
    generalize script.assertions = assertions at h ⊢
    simp only [Option.getD_some]
    induction h with
    | nil =>
      refine ⟨rfl, ?_⟩
      rintro _ ⟨⟩
    | @cons a written assertions entries hfirst _ ih =>
      refine ⟨?_, ?_⟩
      · rw [List.map_cons, hfirst.ofWritten_eq, ih.1]
      · intro other hmem
        rcases List.mem_cons.mp hmem with rfl | hmem
        · exact hfirst.once
        · exact ih.2 other hmem

/-- Parsing undoes writing. A script that is written in any layout, with the
fields of each assertion in any order, with an empty message or without it, and
with or without a list where there is no assertion, is read as it was: the same
name and the same assertions in the same order, whatever characters are in their
texts, and an absent field is absent and an empty one is there. So the text that
a script is usually written as gives it back. -/
theorem parsing_undoes_writing (script : Script) :
    (∀ (layout : Layout) (list : Option (List (List Assertion.Field))), script.IsWrittenAs list →
      parse (String.ofList (layout.document script.name list)) = .ok script) ∧
    parse script.write = .ok script := by
  have hany : ∀ (layout : Layout) (list : Option (List (List Assertion.Field))),
      script.IsWrittenAs list →
        parse (String.ofList (layout.document script.name list)) = .ok script := by
    intro layout list h
    obtain ⟨hwritten, honce⟩ := h.map_ofWritten
    rw [parse_document layout script.name honce, hwritten]
  have husual : script.IsWrittenAs (some (script.assertions.map Assertion.fields)) := by
    change List.Forall₂ _ _ _
    rw [List.forall₂_map_right_iff, List.forall₂_same]
    exact fun a _ => a.isWrittenAs_fields
  exact ⟨hany, hany {} _ husual⟩

/-- A script of awkward texts, its fields in another order, without indentation
and with the list before the name. -/
theorem awkward_texts_are_read_back :
    let script : Script :=
      ⟨"null", [⟨some "a: #", none, ""⟩, {}, ⟨some "", some "\n\"\\", "true"⟩]⟩
    let list : Option (List (List Assertion.Field)) :=
      some [[.message "", .test "a: #"], [], [.message "true", .xpath "\n\"\\", .test ""]]
    script.IsWrittenAs list ∧
      parse (String.ofList (Layout.document ⟨0, false, false⟩ script.name list)) = .ok script := by
  intro script list
  have h : script.IsWrittenAs list := by
    refine .cons ⟨by decide, ?_, ?_⟩
      (.cons ⟨by decide, ?_, ?_⟩ (.cons ⟨by decide, ?_, ?_⟩ .nil))
    all_goals
      rintro (text | text | text)
      all_goals simp [Assertion.Has, eq_comm]
    exact fun h _ => h
  exact ⟨h, (parsing_undoes_writing script).1 ⟨0, false, false⟩ list h⟩

example :
    write ⟨"\"é\"", [⟨some "a = b", none, ""⟩, {}]⟩ =
      "name: \"\\\"\\U000000E9\\\"\"\nassertions:\n  - test: \"a = b\"\n  - \x7b\x7d\n" := by
  decide

end Verdict.Script
