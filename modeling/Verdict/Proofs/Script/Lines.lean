-- The tokens of a written script. Main statement: they are those that its name
-- and fields call for, and the layout decides only whether the list of
-- assertions is a block of its own.
import Verdict.Proofs.Yaml.Line

namespace Verdict

open Yaml Script

/-! ## What the lines call for -/

namespace Script.Layout

/-- The tokens of a key and its text. -/
def lineKinds (key text : String) : List Token.Kind :=
  [.key, .scalar .plain key, .value, .scalar .doubleQuoted text]

/-- The tokens of the fields of an assertion. -/
def fieldKinds (fields : List Assertion.Field) : List Token.Kind :=
  fields.flatMap fun field => lineKinds field.key field.text

/-- The tokens of an assertion. -/
def mappingKinds : List Assertion.Field → List Token.Kind
  | [] => [.flowMappingStart, .flowMappingEnd]
  | fields => .blockMappingStart :: fieldKinds fields ++ [.blockEnd]

/-- The tokens of the entries of the list. -/
def entryKinds (entries : List (List Assertion.Field)) : List Token.Kind :=
  entries.flatMap fun fields => .blockEntry :: mappingKinds fields

/-- The tokens of the list. Without indentation it is no block of its own. -/
def listKinds (layout : Layout) : List (List Assertion.Field) → List Token.Kind
  | [] => [.flowSequenceStart, .flowSequenceEnd]
  | entries =>
    if layout.indent = 0 then entryKinds entries
    else .blockSequenceStart :: entryKinds entries ++ [.blockEnd]

theorem listKinds_cons (layout : Layout) (fields : List Assertion.Field)
    (entries : List (List Assertion.Field)) :
    layout.listKinds (fields :: entries) =
      if layout.indent = 0 then entryKinds (fields :: entries)
      else .blockSequenceStart :: entryKinds (fields :: entries) ++ [.blockEnd] :=
  rfl

/-- The tokens of the list and its key. -/
def assertionsKinds (layout : Layout) (entries : List (List Assertion.Field)) : List Token.Kind :=
  [.key, .scalar .plain "assertions", .value] ++ layout.listKinds entries

/-- The tokens of a script. -/
def documentKinds (layout : Layout) (name : String) (list : Option (List (List Assertion.Field))) :
    List Token.Kind :=
  let assertions := (list.map layout.assertionsKinds).getD []
  .blockMappingStart ::
    (if layout.nameFirst then lineKinds "name" name ++ assertions
      else assertions ++ lineKinds "name" name) ++
    [.blockEnd, .streamEnd]

end Script.Layout

namespace Yaml.Scanner

open Script.Layout

variable {s : Scanner} (layout : Layout)

/-! ## Lines -/

theorem Stands.reads_line {indents : List Nat} {column : Nat} {rest : List Char} {key : String}
    (hkey : IsWord key.toList) (text : String)
    (h : s.Stands true indents column (layout.line key text ++ rest)) :
    ∃ t, s.Reads (opening .blockMappingStart indents column ++ lineKinds key text) t ∧
      t.Ends (opened indents column) ('\n' :: rest) := by
  have hline : layout.line key text ++ rest =
      key.toList ++ ':' :: (margin 1 ++ (layout.text text ++ '\n' :: rest)) := by
    simp [line, margin]
  rw [hline] at h
  obtain ⟨t, hword, ht⟩ := h.reads_key hkey rfl
  obtain ⟨u, hspace, hu⟩ := ht.reads_margin rfl
  obtain ⟨v, htext, hv⟩ := hu.reads_text layout text
  refine ⟨v, ?_, hv⟩
  have hreads := (hword.trans hspace).trans htext
  rw [String.ofList_toList] at hreads
  simpa [lineKinds] using hreads

theorem isWord_key (field : Assertion.Field) : IsWord field.key.toList := by
  unfold Assertion.Field.key
  split <;> decide

theorem begins_of_isWord {word : List Char} (h : IsWord word) (rest : List Char) :
    Begins (word ++ rest) := by
  obtain ⟨c, word, rfl⟩ := List.exists_cons_of_ne_nil h.1
  have hall := h.2.1
  simp only [List.all_cons, Bool.and_eq_true] at hall
  exact startsToken_of_isLower hall.1

theorem begins_line {key : String} (hkey : IsWord key.toList) (text : String) (rest : List Char) :
    Begins (layout.line key text ++ rest) := by
  simp only [line, List.append_assoc]
  exact begins_of_isWord hkey _

/-- The lines after the first one of an assertion. -/
theorem Ends.reads_fields {column : Nat} {outer : List Nat} (fields : List Assertion.Field)
    {rest : List Char}
    (h : s.Ends (column :: outer) ('\n' :: ((fields.flatMap fun field =>
      margin column ++ layout.line field.key field.text) ++ rest))) :
    ∃ t, s.Reads (fieldKinds fields) t ∧ t.Ends (column :: outer) ('\n' :: rest) := by
  induction fields generalizing s with
  | nil => exact ⟨s, fun _ hmore => hmore, h⟩
  | cons field fields ih =>
    have hword := isWord_key field
    rw [List.flatMap_cons, List.append_assoc, List.append_assoc] at h
    obtain ⟨t, hbreak, ht⟩ := h.reads_newline (begins_line layout hword _ _)
    rw [endings_cons_self] at hbreak
    rw [staying_cons_self] at ht
    obtain ⟨u, hline, hu⟩ := ht.reads_line layout hword field.text
    rw [opening_cons_self] at hline
    rw [opened_cons_self] at hu
    obtain ⟨v, hfields, hv⟩ := ih hu
    refine ⟨v, ?_, hv⟩
    have hreads := (hbreak.trans hline).trans hfields
    simpa [fieldKinds] using hreads

/-! ## Entries -/

/-- A scanner at the end of an entry of a list, which stands in blocks with
these columns. The tokens that are owed come before the next line. -/
def Rests (s : Scanner) (column : Nat) (indents : List Nat) (owed : List Token.Kind)
    (rest : List Char) : Prop :=
  (owed = [] ∧ s.Ends indents ('\n' :: rest)) ∨
    (owed = [.blockEnd] ∧ s.Ends ((column + 2) :: indents) ('\n' :: rest))

/-- The next line is a line of the list or stands further out. -/
theorem Rests.reads_newline {column n : Nat} {indents : List Nat} {owed : List Token.Kind}
    {rest : List Char} (h : s.Rests column indents owed (margin n ++ rest)) (hn : n ≤ column)
    (hrest : Begins rest) :
    ∃ t, s.Reads (owed ++ endings indents n) t ∧ t.Stands true (staying indents n) n rest := by
  rcases h with ⟨rfl, h⟩ | ⟨rfl, h⟩
  · exact h.reads_newline hrest
  · have hlt : n < column + 2 := by omega
    obtain ⟨t, hbreak, ht⟩ := h.reads_newline hrest
    refine ⟨t, ?_, ?_⟩
    · simpa [endings, hlt, List.replicate_succ] using hbreak
    · simpa [staying, hlt] using ht

/-- An entry, from its dash to the end of its last line. -/
theorem Stands.reads_entry {indents : List Nat} {rest : List Char} (fields : List Assertion.Field)
    (h : s.Stands true indents layout.indent ('-' :: ' ' :: (layout.mapping fields ++ rest))) :
    ∃ t kinds owed, s.Reads (opening .blockSequenceStart indents layout.indent ++ kinds) t ∧
      kinds ++ owed = .blockEntry :: mappingKinds fields ∧
      t.Rests layout.indent (opened indents layout.indent) owed rest := by
  have hwithin := head?_opened_le h.within
  obtain ⟨t, hdash, ht⟩ := h.reads_dash
  change t.Stands true (opened indents layout.indent) (layout.indent + 1)
    (margin 1 ++ (layout.mapping fields ++ rest)) at ht
  cases fields with
  | nil =>
    obtain ⟨u, hspace, hu⟩ := ht.reads_margin rfl
    have hoptional : (opened indents layout.indent).head? ≠ some (layout.indent + 1 + 1) := by
      intro hhead
      have hle := hwithin _ hhead
      omega
    obtain ⟨v, hbraces, hv⟩ := hu.reads_braces fun _ => hoptional
    refine ⟨v, [.blockEntry, .flowMappingStart, .flowMappingEnd], [], ?_, rfl, .inl ⟨rfl, hv⟩⟩
    simpa using (hdash.trans hspace).trans hbraces
  | cons field fields =>
    have hword := isWord_key field
    simp only [mapping, List.append_assoc] at ht
    obtain ⟨u, hspace, hu⟩ := ht.reads_margin (begins_line layout hword _ _)
    obtain ⟨v, hline, hv⟩ := hu.reads_line layout hword field.text
    have hlt : ∀ indent ∈ (opened indents layout.indent).head?, indent < layout.indent + 2 := by
      intro indent hmem
      have hle := hwithin indent hmem
      omega
    rw [opening_of_lt _ hlt] at hline
    rw [opened_of_lt hlt] at hv
    obtain ⟨w, hfields, hw⟩ := hv.reads_fields layout fields
    refine ⟨w, .blockEntry :: .blockMappingStart :: fieldKinds (field :: fields), [.blockEnd], ?_, rfl,
      .inr ⟨rfl, hw⟩⟩
    simpa [fieldKinds] using ((hdash.trans hspace).trans hline).trans hfields

/-- The entries after the first one. -/
theorem Rests.reads_entries {outer : List Nat} (entries : List (List Assertion.Field))
    {owed : List Token.Kind} {rest : List Char}
    (h : s.Rests layout.indent (layout.indent :: outer) owed
      (entries.flatMap layout.entry ++ rest)) :
    ∃ t kinds owed', s.Reads kinds t ∧ kinds ++ owed' = owed ++ entryKinds entries ∧
      t.Rests layout.indent (layout.indent :: outer) owed' rest := by
  induction entries generalizing s owed with
  | nil => exact ⟨s, [], owed, fun _ hmore => hmore, (List.append_nil _).symm, h⟩
  | cons fields entries ih =>
    simp only [List.flatMap_cons, entry, List.append_assoc, List.cons_append] at h
    obtain ⟨t, hbreak, ht⟩ := h.reads_newline (Nat.le_refl _) rfl
    rw [endings_cons_self] at hbreak
    rw [staying_cons_self] at ht
    obtain ⟨u, kinds, owed₁, hentry, hkinds, hu⟩ := ht.reads_entry layout fields
    rw [opening_cons_self] at hentry
    rw [opened_cons_self] at hu
    obtain ⟨v, more, owed₂, hentries, hmore, hv⟩ := ih hu
    refine ⟨v, owed ++ kinds ++ more, owed₂, ?_, ?_, hv⟩
    · simpa using (hbreak.trans hentry).trans hentries
    · have hcons : entryKinds (fields :: entries) = kinds ++ owed₁ ++ entryKinds entries := by
        rw [hkinds]
        rfl
      rw [List.append_assoc, hmore, hcons]
      simp only [List.append_assoc]

/-! ## Documents -/

/-- The columns of a list within the mapping of a script, and the tokens around
its entries. -/
theorem exists_outer (n : Nat) :
    ∃ outer, opened [0] n = n :: outer ∧ staying (n :: outer) 0 = [0] ∧
      ∀ kinds, opening .blockSequenceStart [0] n ++ kinds ++ endings (n :: outer) 0 =
        if n = 0 then kinds else .blockSequenceStart :: kinds ++ [.blockEnd] := by
  by_cases hn : n = 0
  · subst hn
    exact ⟨[], rfl, rfl, fun kinds => List.append_nil kinds⟩
  · have hpos : 0 < n := Nat.pos_of_ne_zero hn
    have hlt : ∀ indent ∈ [0].head?, indent < n := by
      rintro _ ⟨⟩
      exact hpos
    refine ⟨[0], opened_of_lt hlt, by simp [staying, hpos], fun kinds => ?_⟩
    rw [opening_of_lt _ hlt, if_neg hn]
    simp [endings, hpos]

/-- A list of entries, from the dash of the first one to the line behind it. -/
theorem Stands.reads_list {fields : List Assertion.Field} {entries : List (List Assertion.Field)}
    {rest : List Char} (hrest : Begins rest)
    (h : s.Stands true [0] layout.indent
      ('-' :: ' ' :: (layout.mapping fields ++ (entries.flatMap layout.entry ++ rest)))) :
    ∃ t, s.Reads (layout.listKinds (fields :: entries)) t ∧ t.Stands true [0] 0 rest := by
  obtain ⟨outer, hopened, hstaying, haround⟩ := exists_outer layout.indent
  obtain ⟨t, kinds, owed, hentry, hkinds, ht⟩ := h.reads_entry layout fields
  rw [hopened] at ht
  obtain ⟨u, more, owed', hentries, hmore, hu⟩ := ht.reads_entries layout entries
  obtain ⟨v, hbreak, hv⟩ := Rests.reads_newline (n := 0) hu (Nat.zero_le _) hrest
  rw [hstaying] at hv
  refine ⟨v, ?_, hv⟩
  have hcons : entryKinds (fields :: entries) = kinds ++ (more ++ owed') := by
    rw [hmore, ← List.append_assoc, hkinds]
    rfl
  rw [listKinds_cons, ← haround, hcons]
  simpa using (hentry.trans hentries).trans hbreak

theorem entries_cons (fields : List Assertion.Field) (entries : List (List Assertion.Field)) :
    layout.entries (fields :: entries) = "assertions".toList ++ [':', '\n'] ++
      (layout.entry fields ++ entries.flatMap layout.entry) := by
  have hkey : "assertions:\n".toList = "assertions".toList ++ [':', '\n'] := by decide
  rw [← hkey]
  rfl

theorem Stands.reads_assertions {indents : List Nat} (hindents : opened indents 0 = [0])
    (entries : List (List Assertion.Field)) {rest : List Char} (hrest : Begins rest)
    (h : s.Stands true indents 0 (layout.entries entries ++ rest)) :
    ∃ t, s.Reads (opening .blockMappingStart indents 0 ++ layout.assertionsKinds entries) t ∧
      t.Stands true [0] 0 rest := by
  have hword : IsWord "assertions".toList := by decide
  cases entries with
  | nil =>
    have htext : layout.entries [] ++ rest =
        "assertions".toList ++ ':' :: (margin 1 ++ ('[' :: ']' :: '\n' :: rest)) := rfl
    rw [htext] at h
    obtain ⟨t, hkey, ht⟩ := h.reads_key hword rfl
    obtain ⟨u, hspace, hu⟩ := ht.reads_margin rfl
    obtain ⟨v, hbrackets, hv⟩ := hu.reads_brackets (fun hfalse => by cases hfalse)
    rw [hindents] at hv
    obtain ⟨w, hbreak, hw⟩ := Ends.reads_newline (n := 0) hv hrest
    refine ⟨w, ?_, hw⟩
    have hreads := ((hkey.trans hspace).trans hbrackets).trans hbreak
    simpa [assertionsKinds, listKinds] using hreads
  | cons fields entries =>
    have htext : layout.entries (fields :: entries) ++ rest = "assertions".toList ++
        ':' :: '\n' :: (margin layout.indent ++ ('-' :: ' ' :: (layout.mapping fields ++
          (entries.flatMap layout.entry ++ rest)))) := by
      rw [entries_cons, entry]
      simp only [List.append_assoc, List.cons_append, List.nil_append]
    rw [htext] at h
    obtain ⟨t, hkey, ht⟩ := h.reads_key hword rfl
    rw [hindents] at ht
    obtain ⟨u, hbreak, hu⟩ := ht.ends.reads_newline rfl
    have hle : ∀ indent ∈ [0].head?, indent ≤ layout.indent := by
      rintro _ ⟨⟩
      exact Nat.zero_le _
    rw [endings_of_le hle] at hbreak
    rw [staying_of_le hle] at hu
    obtain ⟨v, hlist, hv⟩ := hu.reads_list layout hrest
    refine ⟨v, ?_, hv⟩
    simpa [assertionsKinds] using (hkey.trans hbreak).trans hlist

theorem Stands.reads_name {indents : List Nat} (hindents : opened indents 0 = [0]) (name : String)
    {rest : List Char} (hrest : Begins rest)
    (h : s.Stands true indents 0 (layout.line "name" name ++ rest)) :
    ∃ t, s.Reads (opening .blockMappingStart indents 0 ++ lineKinds "name" name) t ∧
      t.Stands true [0] 0 rest := by
  obtain ⟨t, hline, ht⟩ := h.reads_line layout (by decide) name
  rw [hindents] at ht
  obtain ⟨u, hbreak, hu⟩ := Ends.reads_newline (n := 0) ht hrest
  refine ⟨u, ?_, hu⟩
  simpa using hline.trans hbreak

theorem begins_assertions (entries : List (List Assertion.Field)) :
    Begins (layout.entries entries) := by
  cases entries with
  | nil => exact rfl
  | cons fields entries => exact rfl

theorem stands_at_start (text : List Char) :
    Stands { cursor := ⟨text, {}⟩ } true [] 0 text :=
  ⟨rfl, rfl, rfl, by rintro _ ⟨⟩, rfl, rfl, rfl⟩

/-- The tokens of a whole script. -/
theorem scans_document (name : String) (list : Option (List (List Assertion.Field))) :
    Scans { cursor := ⟨layout.document name list, {}⟩ } (layout.documentKinds name list) := by
  have h := stands_at_start (layout.document name list)
  have hnil : Begins [] := trivial
  have hname : Begins (layout.line "name" name ++ []) := begins_line layout (by decide) name []
  cases list with
  | none =>
    have htext : layout.document name none = layout.line "name" name ++ [] := by
      simp [document]
    have hkinds : layout.documentKinds name none =
        [.blockMappingStart] ++ lineKinds "name" name ++ [.blockEnd, .streamEnd] := by
      simp [documentKinds]
    rw [hkinds]
    rw [htext] at h ⊢
    obtain ⟨t, hline, ht⟩ := h.reads_name layout rfl name hnil
    exact hline _ ht.scans_end
  | some entries =>
    have hentries : Begins (layout.entries entries ++ []) := by
      rw [List.append_nil]
      exact begins_assertions layout entries
    cases hfirst : layout.nameFirst with
    | true =>
      have htext : layout.document name (some entries) =
          layout.line "name" name ++ (layout.entries entries ++ []) := by
        simp [document, hfirst]
      have hkinds : layout.documentKinds name (some entries) =
          [.blockMappingStart] ++ lineKinds "name" name ++ ([] ++ layout.assertionsKinds entries) ++
            [.blockEnd, .streamEnd] := by
        simp [documentKinds, hfirst]
      rw [hkinds]
      rw [htext] at h ⊢
      obtain ⟨t, hline, ht⟩ := h.reads_name layout rfl name hentries
      obtain ⟨u, hlist, hu⟩ := ht.reads_assertions layout rfl entries hnil
      exact hline.trans hlist _ hu.scans_end
    | false =>
      have htext : layout.document name (some entries) =
          layout.entries entries ++ (layout.line "name" name ++ []) := by
        simp [document, hfirst]
      have hkinds : layout.documentKinds name (some entries) =
          [.blockMappingStart] ++ layout.assertionsKinds entries ++ ([] ++ lineKinds "name" name) ++
            [.blockEnd, .streamEnd] := by
        simp [documentKinds, hfirst]
      rw [hkinds]
      rw [htext] at h ⊢
      obtain ⟨t, hlist, ht⟩ := h.reads_assertions layout rfl entries hname
      obtain ⟨u, hline, hu⟩ := ht.reads_name layout rfl name hnil
      exact hlist.trans hline _ hu.scans_end

end Yaml.Scanner

/-! ## Printable characters -/

theorem Yaml.controlOffset?_eq_none {cs : List Char} (h : cs.all isPrintable) (n : Nat) :
    controlOffset? cs n = none := by
  induction cs generalizing n with
  | nil => rfl
  | cons c cs ih =>
    rw [List.all_cons, Bool.and_eq_true] at h
    rw [controlOffset?, if_pos h.1, ih h.2]

namespace Script.Layout

variable (layout : Layout)

theorem isPrintable_hexDigit {n : Nat} (h : n < 16) : isPrintable (layout.hexDigit n) = true := by
  have hall : ∀ capitals : Bool, ∀ n < 16,
      isPrintable (if capitals then (Nat.digitChar n).toUpper else Nat.digitChar n) = true := by
    decide
  exact hall layout.capitals n h

theorem all_hexDigits (count n : Nat) : (layout.hexDigits count n).all isPrintable = true := by
  induction count generalizing n with
  | zero => rfl
  | succ count ih =>
    have hdigit := layout.isPrintable_hexDigit (Nat.mod_lt n (by decide : 16 > 0))
    rw [hexDigits, List.all_append, ih, List.all_cons, hdigit]
    rfl

theorem all_char (c : Char) : (layout.char c).all isPrintable = true := by
  unfold char
  split
  · next h =>
    simp only [Bool.or_eq_true, decide_eq_true_eq] at h
    rcases h with rfl | rfl <;> rfl
  · split
    · next h => simp [isPrintable, h]
    · rw [List.all_cons, List.all_cons, all_hexDigits]
      rfl

theorem all_text (s : String) : (layout.text s).all isPrintable = true := by
  have hchars : (s.toList.flatMap layout.char).all isPrintable = true := by
    rw [List.all_flatMap, List.all_eq_true]
    exact fun c _ => layout.all_char c
  rw [text, List.all_cons, List.all_append, hchars]
  rfl

theorem all_margin (n : Nat) : (margin n).all isPrintable = true := by
  rw [margin, List.all_replicate]
  split <;> rfl

theorem all_line {key : String} (hkey : key.toList.all isPrintable = true) (text : String) :
    (layout.line key text).all isPrintable = true := by
  rw [line, List.all_append, List.all_append, List.all_cons, List.all_cons, hkey, all_text]
  rfl

theorem all_key (field : Assertion.Field) : field.key.toList.all isPrintable = true := by
  unfold Assertion.Field.key
  split <;> decide

theorem all_mapping (fields : List Assertion.Field) :
    (layout.mapping fields).all isPrintable = true := by
  cases fields with
  | nil => rfl
  | cons field fields =>
    rw [mapping, List.all_append, all_line layout (all_key field), List.all_flatMap, Bool.true_and,
      List.all_eq_true]
    intro field _
    rw [List.all_append, all_margin, all_line layout (all_key field)]
    rfl

theorem all_entries (entries : List (List Assertion.Field)) :
    (layout.entries entries).all isPrintable = true := by
  have hentry : ∀ fields, (layout.entry fields).all isPrintable = true := by
    intro fields
    rw [entry, List.all_append, List.all_cons, List.all_cons, all_margin, all_mapping]
    rfl
  cases entries with
  | nil => rfl
  | cons fields entries =>
    have hkey : ("assertions:\n".toList).all isPrintable = true := by decide
    have hall : ((fields :: entries).flatMap layout.entry).all isPrintable = true := by
      rw [List.all_flatMap, List.all_eq_true]
      exact fun fields _ => hentry fields
    change ("assertions:\n".toList ++ (fields :: entries).flatMap layout.entry).all isPrintable = _
    rw [List.all_append, hkey, hall]
    rfl

theorem all_document (name : String) (list : Option (List (List Assertion.Field))) :
    (layout.document name list).all isPrintable = true := by
  have hname : (layout.line "name" name).all isPrintable = true := layout.all_line (by decide) name
  have hlist : ((list.map layout.entries).getD []).all isPrintable = true := by
    cases list with
    | none => rfl
    | some entries => exact layout.all_entries entries
  unfold document
  split <;> rw [List.all_append, hname, hlist] <;> rfl

/-- The tokens of the text of a script. -/
theorem tokens_document (name : String) (list : Option (List (List Assertion.Field))) :
    ∃ tokens, Tokens.ofText (layout.document name list) = ⟨tokens, none⟩ ∧
      tokens.map Token.kind = layout.documentKinds name list := by
  obtain ⟨tokens, hscan, hkinds⟩ := Scanner.scans_document layout name list
  refine ⟨tokens, ?_, hkinds⟩
  rw [Tokens.ofText, controlOffset?_eq_none (layout.all_document name list)]
  exact hscan

end Script.Layout

end Verdict
