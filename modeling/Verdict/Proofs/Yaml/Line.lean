-- The scanner, line by line. Main statements: what it makes of a dash, of a key,
-- of a text, of an empty collection and of the end, and where it stands then.
import Verdict.Proofs.Yaml.Quoted
import Verdict.Proofs.Yaml.Scan

namespace Verdict.Yaml.Scanner

/-! ## Entries -/

/-- A dash before a space starts an entry, and before the first entry the
sequence. -/
theorem Stands.reads_dash {s : Scanner} {indents : List Nat} {column : Nat} {rest : List Char}
    (h : s.Stands true indents column ('-' :: ' ' :: rest)) :
    ∃ t, s.Reads (opening .blockSequenceStart indents column ++ [.blockEntry]) t ∧
      t.Stands true (opened indents column) (column + 1) (' ' :: rest) := by
  have hsettle := h.settle_eq rfl
  obtain ⟨hrest, rfl, rfl, hwithin, hkey, hblock, hallowed⟩ := h
  obtain ⟨tokens, count, hkinds, hopen⟩ :=
    openBlock_eq hblock .blockSequenceStart s.cursor.mark.column s.count s.cursor.mark
      (List.nil_append _).symm (Nat.sub_self _)
  let u : Scanner := { s with tokens, count, indents := opened s.indents s.cursor.mark.column }
  let t : Scanner := { u.sign .blockEntry 1 with keyAllowed := true }
  have hentry : s.scanBlockEntry = .ok t := by
    have henter : s.enterBlock .blockSequenceStart .misplacedEntry = .ok u := by
      simp [enterBlock, inFlow, hblock, hallowed, mark, hopen, u]
    rw [scanBlockEntry, henter]
    change (u.forgetKey >>= fun s => pure _) = _
    rw [forgetKey_self (s := u) hkey]
    rfl
  have hscan : s.scanToken '-' (' ' :: rest) = .ok t := by
    simp [scanToken, isDocumentMarker, scanSign, endsWord, isBlank, hentry]
  have hkeys := dropStaleKeys_eq (s := t) hblock (dropStaleKey_none _ hkey)
  refine ⟨_, reads_of_scan (scan_of_token hsettle hrest hscan hkeys) ?_, ?_⟩
  · change ((⟨.blockEntry, _, _⟩ :: tokens : List Token).map Token.kind).reverse = _
    rw [List.map_cons, List.reverse_cons, hkinds, List.map_nil, List.reverse_nil, List.append_nil,
      List.append_assoc]
    rfl
  · have hrest' : (s.cursor.advance 1).rest = ' ' :: rest := by simp [Cursor.advance, hrest]
    have hcolumn : (s.cursor.advance 1).mark.column = s.cursor.mark.column + 1 := by
      simp [Cursor.advance, hrest, Mark.past]
    refine ⟨hrest', hcolumn, rfl, ?_, rfl, hblock, rfl⟩
    intro indent hmem
    exact Nat.le_succ_of_le (head?_opened_le hwithin indent hmem)

/-! ## Keys -/

/-- A word of small letters that may be a key. -/
def IsWord (word : List Char) : Prop :=
  word ≠ [] ∧ word.all Char.isLower ∧ word.length ≤ 256

instance (word : List Char) : Decidable (IsWord word) :=
  inferInstanceAs (Decidable (_ ∧ _ ∧ _))

theorem ne_of_isLower {c : Char} (h : c.isLower) {d : Char} (hd : d.isLower = false) : c ≠ d := by
  rintro rfl
  rw [h] at hd
  cases hd

theorem isBreak_eq_false_of_isLower {c : Char} (h : c.isLower) : isBreak c = false := by
  simp [isBreak, ne_of_isLower h (d := '\r') (by decide), ne_of_isLower h (d := '\n') (by decide),
    ne_of_isLower h (d := '\x85') (by decide), ne_of_isLower h (d := '\u2028') (by decide),
    ne_of_isLower h (d := '\u2029') (by decide)]

theorem isBlank_eq_false_of_isLower {c : Char} (h : c.isLower) : isBlank c = false := by
  simp [isBlank, ne_of_isLower h (d := ' ') (by decide), ne_of_isLower h (d := '\t') (by decide)]

theorem startsToken_of_isLower {c : Char} (h : c.isLower) : startsToken c = true := by
  simp [startsToken, isBreak_eq_false_of_isLower h, isBlank_eq_false_of_isLower h,
    ne_of_isLower h (d := '#') (by decide), ne_of_isLower h (d := '\ufeff') (by decide)]

theorem isIndicator_eq_false_of_isLower {c : Char} (h : c.isLower) : isIndicator c = false := by
  have hall : "-?:,[]\x7b\x7d#&*!|>'\"%@`".toList.all (fun d => !d.isLower) = true := by decide
  rw [isIndicator, Bool.eq_false_iff]
  intro hmem
  have hc := List.all_eq_true.mp hall c (List.contains_iff_mem.mp hmem)
  rw [h] at hc
  cases hc

/-- The rest of a word that a colon ends. -/
theorem read_word {place : Plain.Place} (hplace : place.inFlow = false) {word rest : List Char}
    (hword : ∀ c ∈ word, c.isLower) (hrest : endsWord rest) (m : Mark) (out : List Char)
    (stop : Mark) :
    ∃ stop', Plain.read place (word ++ ':' :: rest) m .none out stop =
      .ok ⟨out.reverse ++ word, stop', ⟨':' :: rest, word.foldl Mark.past m⟩, false⟩ := by
  induction word generalizing m out stop with
  | nil =>
    refine ⟨stop, ?_⟩
    rw [List.nil_append, Plain.read]
    · simp [isBreak, isBlank, Plain.endsAt, hrest, Plain.badColon, hplace, Gap.hasBreak]
    · rintro _ h _
      cases h
  | cons c word ih =>
    have hc : c.isLower := hword c List.mem_cons_self
    have hcolon : c ≠ ':' := ne_of_isLower hc (by decide)
    obtain ⟨stop', hread⟩ := ih (fun d hd => hword d (List.mem_cons_of_mem _ hd)) (m.past c)
      (c :: out) (m.past c)
    refine ⟨stop', ?_⟩
    rw [List.cons_append, Plain.read]
    · simp [isBreak_eq_false_of_isLower hc, isBlank_eq_false_of_isLower hc, Plain.badColon, hplace,
        Plain.endsAt, Gap.hasBreak, hcolon, Gap.text, hread]
    · rintro _ rfl _
      cases hc

/-- A token that starts with a small letter is a plain scalar. -/
theorem scanToken_of_isLower {s : Scanner} {c : Char} (h : c.isLower) (rest : List Char) :
    s.scanToken c rest = s.scanPlain c := by
  have hne : ∀ d : Char, d.isLower = false → c ≠ d := fun d hd => ne_of_isLower h hd
  have hmarker : isDocumentMarker (c :: rest) = false := by
    rw [isDocumentMarker]
    · rintro _ ⟨⟩
      cases h
    · rintro _ ⟨⟩
      cases h
  have hplain : s.startsPlain c rest = true := by
    simp [startsPlain, isBlank_eq_false_of_isLower h, isBreak_eq_false_of_isLower h,
      isIndicator_eq_false_of_isLower h]
  simp [scanToken, scanSign, scanContent, hmarker, hplain, hne '%' (by decide),
    hne '[' (by decide), hne '\x7b' (by decide), hne ']' (by decide), hne '\x7d' (by decide),
    hne ',' (by decide), hne '-' (by decide), hne '?' (by decide), hne ':' (by decide),
    hne '*' (by decide), hne '&' (by decide), hne '!' (by decide), hne '|' (by decide),
    hne '>' (by decide), hne '\'' (by decide), hne '"' (by decide)]

/-- A colon makes a key of the last token, and of its place the start of a
mapping where none is open. -/
theorem scanValue_of_key {s : Scanner} {k : KeyStart} {scalar : Token} {before : List Token}
    (hkey : s.key = some k) (htokens : s.tokens = scalar :: before) (hcount : s.count = k.index + 1)
    (hblock : s.outerKeys = []) :
    ∃ tokens count, (tokens.map Token.kind).reverse = (before.map Token.kind).reverse ++
        (opening .blockMappingStart s.indents k.mark.column ++ [.key, scalar.kind, .value]) ∧
      s.scanValue = .ok { s with
        cursor := s.cursor.advance 1, tokens, count, indents := opened s.indents k.mark.column,
        key := none, keyAllowed := false } := by
  have hkeyed : s.insert k.index (.at .key k.mark) =
      { s with tokens := scalar :: .at .key k.mark :: before, count := k.index + 2 } := by
    simp [insert, htokens, hcount]
  obtain ⟨tokens, count, hkinds, hopen⟩ := openBlock_eq
    (s := { s with tokens := [scalar, .at .key k.mark] ++ before, count := k.index + 2 }) hblock
    .blockMappingStart k.mark.column k.index k.mark rfl (Nat.add_sub_cancel_left _ _)
  refine ⟨⟨.value, s.mark, s.mark.advance 1⟩ :: tokens, count + 1, ?_, ?_⟩
  · rw [List.map_cons, List.reverse_cons, hkinds]
    simp [Token.at]
  · rw [scanValue, hkey]
    simp only [hkeyed]
    rw [List.cons_append, List.singleton_append] at hopen
    simp only [hopen]
    rfl

theorem foldl_past (word : List Char) (m : Mark) :
    (word.foldl Mark.past m).line = m.line ∧
      (word.foldl Mark.past m).column = m.column + word.length ∧
      (word.foldl Mark.past m).index ≤ m.index + 4 * word.length := by
  induction word generalizing m with
  | nil => exact ⟨rfl, rfl, Nat.le_refl _⟩
  | cons c word ih =>
    obtain ⟨hline, hcolumn, hindex⟩ := ih (m.past c)
    have hsize : c.utf8Size ≤ 4 := c.utf8Size_le_four
    have hpast : (m.past c).column = m.column + 1 := rfl
    have hpast' : (m.past c).index = m.index + c.utf8Size := rfl
    rw [List.foldl_cons, List.length_cons]
    exact ⟨hline, by omega, by omega⟩

/-- A word is read as a plain scalar that may be a key. -/
theorem scanPlain_word {s : Scanner} {c : Char} {word rest : List Char} (hkey : s.key = none)
    (hblock : s.outerKeys = []) (hallowed : s.keyAllowed = true)
    (hword : ∀ d ∈ word, d.isLower) (hrest : endsWord rest)
    (hs : s.cursor.rest = c :: (word ++ ':' :: rest)) :
    ∃ stop required, s.scanPlain c = .ok { s with
      cursor := ⟨':' :: rest, (c :: word).foldl Mark.past s.cursor.mark⟩
      tokens := ⟨.scalar .plain (String.ofList (c :: word)), s.cursor.mark, stop⟩ :: s.tokens
      count := s.count + 1
      key := some ⟨s.count, s.cursor.mark, required⟩
      keyAllowed := false } := by
  let place : Plain.Place := ⟨false, (s.indents.head?.map (· + 1)).getD 0, s.cursor.mark⟩
  have hplace : place.inFlow = false := rfl
  obtain ⟨stop, hread⟩ := read_word hplace hword hrest (s.cursor.mark.past c) [c]
    (s.cursor.mark.past c)
  refine ⟨stop, s.indents.head? = some s.cursor.mark.column, ?_⟩
  have hafter : s.cursor.advance 1 = ⟨word ++ ':' :: rest, s.cursor.mark.past c⟩ := by
    simp [Cursor.advance, hs]
  have hremember : s.rememberKey = .ok { s with
      key := some ⟨s.count, s.cursor.mark, s.indents.head? = some s.cursor.mark.column⟩ } := by
    have hflow : s.inFlow = false := by simp [inFlow, hblock]
    rw [rememberKey, if_pos hallowed, forgetKey_self hkey, hflow]
    rfl
  simp only [place] at hread
  simp only [scanPlain, hremember, bind, Except.bind, pure, Except.pure, hafter, inFlow, hblock,
    mark, List.isEmpty_nil, Bool.not_true]
  rw [hread]
  rfl

/-- A word and a colon, which makes a key of it. -/
theorem Stands.reads_key {s : Scanner} {indents : List Nat} {column : Nat} {word rest : List Char}
    (hword : IsWord word) (hrest : endsWord rest)
    (h : s.Stands true indents column (word ++ ':' :: rest)) :
    ∃ t, s.Reads (opening .blockMappingStart indents column ++
        [.key, .scalar .plain (String.ofList word), .value]) t ∧
      t.Stands false (opened indents column) (column + word.length + 1) rest := by
  obtain ⟨hne, hlower, hlength⟩ := hword
  obtain ⟨c, word, rfl⟩ := List.exists_cons_of_ne_nil hne
  simp only [List.all_cons, Bool.and_eq_true, List.all_eq_true] at hlower
  obtain ⟨hc, hword⟩ := hlower
  have hsettle := h.settle_eq (startsToken_of_isLower hc)
  obtain ⟨hs, rfl, rfl, hwithin, hkey, hblock, hallowed⟩ := h
  obtain ⟨stop, required, hplain⟩ := scanPlain_word hkey hblock hallowed hword hrest hs
  obtain ⟨hline, hcolumn, hindex⟩ := foldl_past (c :: word) s.cursor.mark
  generalize (c :: word).foldl Mark.past s.cursor.mark = m at hplain hline hcolumn hindex
  have hfresh : dropStaleKey m (some ⟨s.count, s.cursor.mark, required⟩) =
      .ok (some ⟨s.count, s.cursor.mark, required⟩) := by
    have hnear : ¬s.cursor.mark.index + 1024 < m.index := by omega
    simp [dropStaleKey, KeyStart.isStale, hline, hnear]
  rw [← scanToken_of_isLower hc] at hplain
  have hfirst := scan_of_token hsettle hs hplain (dropStaleKeys_eq hblock hfresh)
  let u : Scanner := { s with
    cursor := ⟨':' :: rest, m⟩
    tokens := ⟨.scalar .plain (String.ofList (c :: word)), s.cursor.mark, stop⟩ :: s.tokens
    count := s.count + 1
    key := some ⟨s.count, s.cursor.mark, required⟩
    keyAllowed := false }
  have hu : u.settle = .ok u := by
    apply settle_self (s := u) hblock rfl hfresh
    intro indent hmem
    have hle := hwithin indent hmem
    change indent ≤ m.column
    omega
  obtain ⟨tokens, count, hkinds, hvalue⟩ := scanValue_of_key (s := u) rfl rfl rfl hblock
  have hcolon : u.scanToken ':' rest = u.scanValue := by
    simp [scanToken, isDocumentMarker, scanSign, hrest]
  rw [← hcolon] at hvalue
  have hsecond := scan_of_token hu rfl hvalue (dropStaleKeys_eq hblock rfl)
  refine ⟨_, reads_of_scan (hfirst.trans hsecond) hkinds, rfl, ?_, rfl, ?_, rfl, hblock, rfl⟩
  · change m.column + 1 = _
    rw [hcolumn]
  · intro indent hmem
    have hle := head?_opened_le hwithin indent hmem
    omega

/-! ## Texts and empty collections -/

/-- A text between double quotes, behind a key. -/
theorem Stands.reads_text {s : Scanner} {indents : List Nat} {column : Nat} {rest : List Char}
    (layout : Script.Layout) (text : String)
    (h : s.Stands false indents column (layout.text text ++ rest)) :
    ∃ t, s.Reads [.scalar .doubleQuoted text] t ∧ t.Ends indents rest := by
  have hsettle := h.settle_eq rfl
  obtain ⟨hrest, -, hindents, -, hkey, hblock, hallowed⟩ := h
  rw [Script.Layout.text, List.cons_append, List.append_assoc, List.singleton_append] at hrest
  obtain ⟨m, hread⟩ := Quoted.read_text layout s.cursor.mark text rest
    (m := s.cursor.mark.past '"') (Nat.succ_pos _)
  let t : Scanner := { s with
    cursor := ⟨rest, m⟩
    tokens := ⟨.scalar .doubleQuoted text, s.cursor.mark, m⟩ :: s.tokens
    count := s.count + 1 }
  have hquoted : s.scanQuoted false = .ok t := by
    have hremember : s.rememberKey = .ok s := by
      rw [rememberKey, if_neg (by rw [hallowed]; decide)]
      rfl
    have hafter : s.cursor.advance 1 =
        ⟨text.toList.flatMap layout.char ++ '"' :: rest, s.cursor.mark.past '"'⟩ := by
      simp [Cursor.advance, hrest]
    simp only [scanQuoted, hremember, bind, Except.bind, pure, Except.pure, mark, hafter, hread,
      String.ofList_toList]
    simp [push, t, hallowed]
  have hscan : s.scanToken '"' (text.toList.flatMap layout.char ++ '"' :: rest) = .ok t := by
    rw [← hquoted]
    simp [scanToken, isDocumentMarker, scanSign, scanContent]
  have hkeys := dropStaleKeys_eq (s := t) hblock (dropStaleKey_none _ hkey)
  refine ⟨_, reads_of_scan (scan_of_token hsettle hrest hscan hkeys) ?_, rfl, hindents, ?_, hblock⟩
  · simp [kinds, t]
  · rintro _ ⟨⟩

/-- A place where a key may but need not start: nothing is required there. -/
theorem Stands.rememberKey_eq {s : Scanner} {allowed : Bool} {indents : List Nat} {column : Nat}
    {rest : List Char} (h : s.Stands allowed indents column rest)
    (hoptional : allowed = true → indents.head? ≠ some column) :
    ∃ key, s.rememberKey = .ok { s with key } ∧
      ∀ k ∈ key, k.required = false ∧ k.mark = s.cursor.mark := by
  obtain ⟨-, rfl, rfl, -, hkey, hblock, hallowed⟩ := h
  cases allowed with
  | false =>
    refine ⟨s.key, ?_, by rw [hkey]; rintro _ ⟨⟩⟩
    rw [rememberKey, if_neg (by rw [hallowed]; decide)]
    rfl
  | true =>
    have hrequired : (!s.inFlow && decide (s.indents.head? = some s.mark.column)) = false := by
      rw [mark, decide_eq_false (hoptional rfl), Bool.and_false]
    refine ⟨some ⟨s.count, s.cursor.mark, false⟩, ?_, ?_⟩
    · rw [rememberKey, if_pos hallowed, forgetKey_self hkey, hrequired]
      rfl
    · rintro _ ⟨⟩
      exact ⟨rfl, rfl⟩

/-- An empty collection in brackets or braces. Between its signs the place of a key
is kept outside. -/
theorem Stands.reads_flow {s : Scanner} {allowed : Bool} {indents : List Nat} {column : Nat}
    {c d : Char} {rest : List Char} {start stop : Token.Kind}
    (h : s.Stands allowed indents column (c :: d :: rest))
    (hoptional : allowed = true → indents.head? ≠ some column)
    (hc : Begins [c]) (hopen : ∀ (s : Scanner) rest, s.scanToken c rest = s.openFlow start)
    (hd : Begins [d]) (hclose : ∀ (s : Scanner) rest, s.scanToken d rest = s.closeFlow stop) :
    ∃ t, s.Reads [start, stop] t ∧ t.Ends indents rest := by
  have hsettle := h.settle_eq hc
  obtain ⟨key, hremember, hkey⟩ := h.rememberKey_eq hoptional
  obtain ⟨hrest, rfl, rfl, -, -, hblock, -⟩ := h
  let m := s.cursor.mark.past c
  let u : Scanner := { s with
    cursor := ⟨d :: rest, m⟩
    tokens := ⟨start, s.cursor.mark, s.cursor.mark.advance 1⟩ :: s.tokens
    count := s.count + 1
    key := none
    outerKeys := [key]
    keyAllowed := true }
  have hu : s.scanToken c (d :: rest) = .ok u := by
    have hadvance : s.cursor.advance 1 = ⟨d :: rest, m⟩ := by simp [Cursor.advance, hrest, m]
    rw [hopen, openFlow, hremember]
    simp only [bind, Except.bind, pure, Except.pure, sign, push, mark, hadvance, hblock, u]
  have hfresh : dropStaleKey m key = .ok key := by
    apply dropStaleKey_self
    intro k hk
    have hsize := c.utf8Size_le_four
    rw [(hkey k hk).2]
    exact ⟨Nat.le_refl _, Nat.add_le_add_left (by omega) _⟩
  have hkeys : u.dropStaleKeys = .ok u := by
    simp only [dropStaleKeys, u, mark, List.mapM_cons, List.mapM_nil, hfresh]
    rfl
  have hstays : u.settle = .ok u := by
    have hskip : skipSpace u.inFlow false true (d :: rest) m = (⟨d :: rest, m⟩, true) :=
      skipSpace_of_begins _ _ (show Begins (d :: rest) from hd) m
    have htoken : u.toToken = u := by
      exact congrArg (fun p : Cursor × Bool => { u with cursor := p.1, keyAllowed := p.2 }) hskip
    rw [settle, htoken, hkeys]
    rfl
  let n := m.past d
  let t : Scanner := { s with
    cursor := ⟨rest, n⟩
    tokens := ⟨stop, m, m.advance 1⟩ :: u.tokens
    count := s.count + 2
    key
    outerKeys := []
    keyAllowed := false }
  have ht : u.scanToken d rest = .ok t := by
    rw [hclose, closeFlow]
    rfl
  have hfresh' : dropStaleKey n key = .ok key := by
    apply dropStaleKey_self
    intro k hk
    have hsize := c.utf8Size_le_four
    have hsize' := d.utf8Size_le_four
    rw [(hkey k hk).2]
    exact ⟨Nat.le_refl _, by simp [n, m, Mark.past]; omega⟩
  have hkeys' := dropStaleKeys_eq (s := t) rfl hfresh'
  have hscan := (scan_of_token hsettle hrest hu hkeys).trans (scan_of_token hstays rfl ht hkeys')
  refine ⟨_, reads_of_scan hscan ?_, rfl, rfl, ?_, rfl⟩
  · simp [kinds, t, u]
  · intro k hk
    rw [(hkey k hk).1, (hkey k hk).2]
    exact ⟨rfl, Nat.le_refl _⟩

theorem Stands.reads_braces {s : Scanner} {allowed : Bool} {indents : List Nat} {column : Nat}
    {rest : List Char} (h : s.Stands allowed indents column ('\x7b' :: '\x7d' :: rest))
    (hoptional : allowed = true → indents.head? ≠ some column) :
    ∃ t, s.Reads [.flowMappingStart, .flowMappingEnd] t ∧ t.Ends indents rest := by
  apply h.reads_flow hoptional rfl _ rfl
  · intro s rest
    simp [scanToken, isDocumentMarker, scanSign]
  · intro s rest
    simp [scanToken, isDocumentMarker, scanSign]

theorem Stands.reads_brackets {s : Scanner} {allowed : Bool} {indents : List Nat} {column : Nat}
    {rest : List Char} (h : s.Stands allowed indents column ('[' :: ']' :: rest))
    (hoptional : allowed = true → indents.head? ≠ some column) :
    ∃ t, s.Reads [.flowSequenceStart, .flowSequenceEnd] t ∧ t.Ends indents rest := by
  apply h.reads_flow hoptional rfl _ rfl
  · intro s rest
    simp [scanToken, isDocumentMarker, scanSign]
  · intro s rest
    simp [scanToken, isDocumentMarker, scanSign]

/-! ## The end -/

theorem closeBlocks_all {s : Scanner} (hblock : s.outerKeys = []) :
    s.closeBlocks (fun _ => false) = { s with
      tokens := List.replicate s.indents.length (.at .blockEnd s.cursor.mark) ++ s.tokens
      count := s.count + s.indents.length
      indents := [] } := by
  have hall : ∀ l : List Nat, l.takeWhile (fun _ => true) = l := by
    intro l
    induction l with
    | nil => rfl
    | cons indent l ih => rw [List.takeWhile_cons_of_pos rfl, ih]
  simp [closeBlocks, inFlow, hblock, hall, mark]

theorem scanEnd_eq {m : Mark} (hm : m.column = 0) (tokens : List Token) (count : Nat)
    (indents : List Nat) (allowed : Bool) :
    scanEnd ⟨⟨[], m⟩, tokens, count, indents, none, [], allowed⟩ =
      .ok ⟨⟨[], m⟩, .at .streamEnd m :: (List.replicate indents.length (.at .blockEnd m) ++ tokens),
        count + indents.length + 1, [], none, [], false⟩ := by
  simp only [scanEnd, mark, hm, if_pos, closeBlocks_all]
  rfl

/-- The end of the text ends all blocks. -/
theorem Stands.scans_end {s : Scanner} {allowed : Bool} {indents : List Nat}
    (h : s.Stands allowed indents 0 []) :
    s.Scans (List.replicate indents.length .blockEnd ++ [.streamEnd]) := by
  have hsettle := h.settle_eq trivial
  have hend : ∃ t, s.scanEnd = .ok t ∧ t.key = none ∧ t.outerKeys = [] ∧
      t.kinds = s.kinds ++ (List.replicate indents.length .blockEnd ++ [.streamEnd]) := by
    obtain ⟨⟨_, m⟩, tokens, count, _, _, _, _⟩ := s
    obtain ⟨rfl, hcolumn, rfl, -, rfl, rfl, rfl⟩ := h
    exact ⟨_, scanEnd_eq hcolumn _ _ _ _, rfl, rfl, by simp [kinds, Token.at]⟩
  obtain ⟨t, hend, hkey, hblock, hkinds⟩ := hend
  have hkeys := dropStaleKeys_eq (s := t) hblock (dropStaleKey_none _ hkey)
  have hnext : s.next = .ok (.last t.tokens) := by
    rw [next_eq, hsettle]
    simp only [bind, Except.bind, h.rest_eq, hend]
    change (t.dropStaleKeys >>= fun s => pure (Step.last s.tokens)) = _
    rw [hkeys]
    rfl
  refine ⟨_, scan_of_last hnext, ?_⟩
  rw [List.map_reverse]
  exact hkinds

end Verdict.Yaml.Scanner
