-- The scanner in a block, from token to token. Main statements: what lies
-- between two tokens, on one line or across the end of a line.
import Verdict.Script.Writing
import Verdict.Yaml.Tokens

namespace Verdict.Yaml.Scanner

/-! ## Steps -/

theorem scan_of_more {s t : Scanner} (h : s.next = .ok (.more t)) : s.scan = t.scan := by
  rw [scan]
  split
  · next hnext => rw [h] at hnext; cases hnext
  · next hnext => rw [h] at hnext; cases hnext
  · next hnext => rw [h] at hnext; cases hnext; rfl

theorem scan_of_last {s : Scanner} {tokens : List Token} (h : s.next = .ok (.last tokens)) :
    s.scan = ⟨tokens.reverse, none⟩ := by
  rw [scan]
  split
  · next hnext => rw [h] at hnext; cases hnext
  · next hnext => rw [h] at hnext; cases hnext; rfl
  · next hnext => rw [h] at hnext; cases hnext

theorem fault_scan_of_error {s : Scanner} {fault : Fault} (h : s.next = .error fault) :
    s.scan.fault = some fault := by
  rw [scan]
  split
  · next hnext => rw [h] at hnext; cases hnext; rfl
  · next hnext => rw [h] at hnext; cases hnext
  · next hnext => rw [h] at hnext; cases hnext

/-- Where two scanners take the same step, they scan the same. -/
theorem scan_congr {s t : Scanner} (h : s.next = t.next) {list : List Token}
    (ht : t.scan = ⟨list, none⟩) : s.scan = ⟨list, none⟩ := by
  cases hnext : t.next with
  | error fault =>
    have hfault := fault_scan_of_error hnext
    rw [ht] at hfault
    cases hfault
  | ok step =>
    cases step with
    | last tokens => rw [scan_of_last (h.trans hnext), ← ht, scan_of_last hnext]
    | more u => rw [scan_of_more (h.trans hnext), ← ht, scan_of_more hnext]

/-- What the tokens so far are, the first first. -/
def kinds (s : Scanner) : List Token.Kind := (s.tokens.map Token.kind).reverse

/-- The rest of the text is read as tokens of these kinds. -/
def Scans (s : Scanner) (kinds : List Token.Kind) : Prop :=
  ∃ list, s.scan = ⟨list, none⟩ ∧ list.map Token.kind = s.kinds ++ kinds

/-- Tokens of these kinds lie between two places of the text. -/
def Reads (s : Scanner) (kinds : List Token.Kind) (t : Scanner) : Prop :=
  ∀ more, t.Scans more → s.Scans (kinds ++ more)

theorem Reads.trans {s t u : Scanner} {first second : List Token.Kind} (h : s.Reads first t)
    (h' : t.Reads second u) : s.Reads (first ++ second) u := by
  intro more hmore
  rw [List.append_assoc]
  exact h _ (h' _ hmore)

theorem reads_of_scan {s t : Scanner} {kinds : List Token.Kind} (h : s.scan = t.scan)
    (hkinds : t.kinds = s.kinds ++ kinds) : s.Reads kinds t := by
  rintro more ⟨list, hscan, hlist⟩
  refine ⟨list, h.trans hscan, ?_⟩
  rw [hlist, hkinds, List.append_assoc]

/-- The scanner at its next token, with the blocks closed that end before it. -/
def settle (s : Scanner) : Except Fault Scanner := do
  let s ← s.toToken.dropStaleKeys
  return s.closeBlocks (· ≤ s.mark.column)

theorem next_eq (s : Scanner) :
    s.next = s.settle >>= fun s =>
      match s.cursor.rest with
      | [] => return .last (← (← s.scanEnd).dropStaleKeys).tokens
      | c :: rest => return .more (← (← s.scanToken c rest).dropStaleKeys) := by
  unfold next settle
  cases s.toToken.dropStaleKeys <;> rfl

/-- A scanner that has settled stays there. -/
theorem reads_of_settle {s t : Scanner} {kinds : List Token.Kind} (h : s.settle = .ok t)
    (ht : t.settle = .ok t) (hkinds : t.kinds = s.kinds ++ kinds) : s.Reads kinds t := by
  rintro more ⟨list, hscan, hlist⟩
  have hnext : s.next = t.next := by rw [next_eq, next_eq, h, ht]
  refine ⟨list, scan_congr hnext hscan, ?_⟩
  rw [hlist, hkinds, List.append_assoc]

theorem scan_of_token {s t u : Scanner} {c : Char} {rest : List Char} (hs : s.settle = .ok s)
    (hrest : s.cursor.rest = c :: rest) (hscan : s.scanToken c rest = .ok t)
    (hkeys : t.dropStaleKeys = .ok u) : s.scan = u.scan := by
  apply scan_of_more
  rw [next_eq, hs]
  change (match s.cursor.rest with
    | [] => _
    | c :: rest => _) = _
  rw [hrest]
  simp only [hscan]
  change (t.dropStaleKeys >>= fun s => pure (Step.more s)) = _
  rw [hkeys]
  rfl

/-! ## White space -/

/-- A token may start with this character: it is no white space and starts no
comment. -/
def startsToken (c : Char) : Bool := !(isBreak c || isBlank c || c = '#' || c = '\ufeff')

/-- A token or the end of the text stands here. -/
def Begins : List Char → Prop
  | [] => True
  | c :: _ => startsToken c = true

theorem skipSpace_of_begins (inFlow allowed : Bool) {rest : List Char} (h : Begins rest)
    (m : Mark) : skipSpace inFlow false allowed rest m = (⟨rest, m⟩, allowed) := by
  cases rest with
  | nil => rfl
  | cons c rest =>
    have hstarts : startsToken c = true := h
    simp only [startsToken, isBlank, Bool.not_eq_true', Bool.or_eq_false_iff,
      decide_eq_false_iff_not] at hstarts
    obtain ⟨⟨⟨hbreak, hspace, htab⟩, hcomment⟩, hmark⟩ := hstarts
    rw [skipSpace]
    · simp [hbreak, hspace, htab, hcomment, hmark]
    · rintro _ rfl _
      cases hbreak

theorem skipSpace_margin (inFlow allowed : Bool) (n : Nat) {rest : List Char} (h : Begins rest)
    (m : Mark) :
    ∃ m', m'.column = m.column + n ∧ m'.line = m.line ∧
      skipSpace inFlow false allowed (Script.Layout.margin n ++ rest) m =
        (⟨rest, m'⟩, allowed) := by
  induction n generalizing m with
  | zero => exact ⟨m, rfl, rfl, skipSpace_of_begins inFlow allowed h m⟩
  | succ n ih =>
    obtain ⟨m', hcolumn, hline, hskip⟩ := ih (m.past ' ')
    refine ⟨m', ?_, hline, ?_⟩
    · change m'.column = m.column + 1 + n at hcolumn
      omega
    · rw [← hskip]
      rfl

/-! ## Blocks -/

/-- The columns of the blocks that go on in a column. -/
def staying (indents : List Nat) (column : Nat) : List Nat := indents.dropWhile (column < ·)

/-- The ends of the blocks that do not. -/
def endings (indents : List Nat) (column : Nat) : List Token.Kind :=
  List.replicate (indents.takeWhile (column < ·)).length .blockEnd

theorem head?_staying (indents : List Nat) (column : Nat) :
    ∀ indent ∈ (staying indents column).head?, indent ≤ column := by
  intro indent hmem
  have h := List.head?_dropWhile_not (fun indent => decide (column < indent)) indents
  rw [staying] at hmem
  rw [Option.mem_def.mp hmem] at h
  simpa using h

theorem staying_of_le {indents : List Nat} {column : Nat}
    (h : ∀ indent ∈ indents.head?, indent ≤ column) : staying indents column = indents := by
  cases indents with
  | nil => rfl
  | cons indent outer =>
    have hle : indent ≤ column := h indent rfl
    simp [staying, Nat.not_lt.mpr hle]

theorem endings_of_le {indents : List Nat} {column : Nat}
    (h : ∀ indent ∈ indents.head?, indent ≤ column) : endings indents column = [] := by
  cases indents with
  | nil => rfl
  | cons indent outer =>
    have hle : indent ≤ column := h indent rfl
    simp [endings, Nat.not_lt.mpr hle]

theorem drop_takeWhile_length {α : Type} (p : α → Bool) (l : List α) :
    l.drop (l.takeWhile p).length = l.dropWhile p := by
  conv => lhs; arg 2; rw [← List.takeWhile_append_dropWhile (p := p) (l := l)]
  exact List.drop_left

/-- The blocks further in than a column end there. -/
theorem closeBlocks_eq {s : Scanner} (h : s.outerKeys = []) (column : Nat) :
    ∃ tokens count, (tokens.map Token.kind).reverse = s.kinds ++ endings s.indents column ∧
      s.closeBlocks (· ≤ column) =
        { s with tokens, count, indents := staying s.indents column } := by
  have hstays :
      (fun indent => !decide (indent ≤ column)) = fun indent => decide (column < indent) := by
    funext indent
    by_cases hle : indent ≤ column
    · simp [hle, Nat.not_lt.mpr hle]
    · simp [hle, Nat.lt_of_not_le hle]
  let closed := (s.indents.takeWhile (column < ·)).length
  refine ⟨List.replicate closed (.at .blockEnd s.mark) ++ s.tokens, s.count + closed, ?_, ?_⟩
  · simp [kinds, endings, closed, Token.at]
  · simp [closeBlocks, inFlow, h, hstays, drop_takeWhile_length, staying, closed]

theorem closeBlocks_self {s : Scanner} {column : Nat}
    (h : ∀ indent ∈ s.indents.head?, indent ≤ column) : s.closeBlocks (· ≤ column) = s := by
  have hnone : s.indents.takeWhile (fun indent => !decide (indent ≤ column)) = [] := by
    cases hindents : s.indents with
    | nil => rfl
    | cons indent outer =>
      have hle : indent ≤ column := h indent (by rw [hindents]; rfl)
      simp [hle]
  simp [closeBlocks, hnone]

/-- A column lies further in than the blocks. -/
def isFurtherIn (indents : List Nat) (column : Nat) : Bool := indents.head?.all (· < column)

/-- The columns of the blocks once one has started in a column. -/
def opened (indents : List Nat) (column : Nat) : List Nat :=
  if isFurtherIn indents column then column :: indents else indents

/-- The start of a block in a column, if one starts there. -/
def opening (kind : Token.Kind) (indents : List Nat) (column : Nat) : List Token.Kind :=
  if isFurtherIn indents column then [kind] else []

theorem head?_opened_le {indents : List Nat} {column : Nat}
    (h : ∀ indent ∈ indents.head?, indent ≤ column) :
    ∀ indent ∈ (opened indents column).head?, indent ≤ column := by
  unfold opened
  split
  · rintro _ ⟨⟩
    exact Nat.le_refl _
  · exact h

theorem opened_of_lt {indents : List Nat} {column : Nat}
    (h : ∀ indent ∈ indents.head?, indent < column) : opened indents column = column :: indents := by
  cases indents with
  | nil => rfl
  | cons indent outer =>
    have hlt : indent < column := h indent rfl
    simp [opened, isFurtherIn, hlt]

theorem opening_of_lt (kind : Token.Kind) {indents : List Nat} {column : Nat}
    (h : ∀ indent ∈ indents.head?, indent < column) : opening kind indents column = [kind] := by
  cases indents with
  | nil => rfl
  | cons indent outer =>
    have hlt : indent < column := h indent rfl
    simp [opening, isFurtherIn, hlt]

@[simp] theorem opened_cons_self (column : Nat) (outer : List Nat) :
    opened (column :: outer) column = column :: outer := by
  simp [opened, isFurtherIn]

@[simp] theorem opening_cons_self (kind : Token.Kind) (column : Nat) (outer : List Nat) :
    opening kind (column :: outer) column = [] := by
  simp [opening, isFurtherIn]

@[simp] theorem staying_cons_self (column : Nat) (outer : List Nat) :
    staying (column :: outer) column = column :: outer := by
  simp [staying]

@[simp] theorem endings_cons_self (column : Nat) (outer : List Nat) :
    endings (column :: outer) column = [] := by
  simp [endings]

theorem isDeeper_eq (s : Scanner) (column : Nat) :
    s.isDeeper column = isFurtherIn s.indents column := by
  unfold isDeeper isFurtherIn
  cases s.indents <;> rfl

theorem insertIdx_length_append {α : Type} (after before : List α) (a : α) :
    (after ++ before).insertIdx after.length a = after ++ a :: before := by
  induction after with
  | nil => rfl
  | cons b after ih => simp [ih]

/-- A block starts before the tokens at its end that belong to it. -/
theorem openBlock_eq {s : Scanner} (hblock : s.outerKeys = []) (kind : Token.Kind)
    (column index : Nat) (m : Mark) {after before : List Token}
    (htokens : s.tokens = after ++ before) (hindex : s.count - index = after.length) :
    ∃ tokens count, (tokens.map Token.kind).reverse = (before.map Token.kind).reverse ++
        (opening kind s.indents column ++ (after.map Token.kind).reverse) ∧
      s.openBlock kind column index m =
        { s with tokens, count, indents := opened s.indents column } := by
  unfold openBlock opening opened
  rw [isDeeper_eq]
  cases hdeeper : isFurtherIn s.indents column with
  | false => exact ⟨s.tokens, s.count, by simp [htokens], by simp⟩
  | true =>
    refine ⟨after ++ .at kind m :: before, s.count + 1, by simp [Token.at], ?_⟩
    simp [inFlow, hblock, insert, htokens, hindex, insertIdx_length_append]

/-! ## Places -/

/-- A scanner in a block, before its next token or at it. -/
structure Stands (s : Scanner) (allowed : Bool) (indents : List Nat) (column : Nat)
    (rest : List Char) : Prop where
  rest_eq : s.cursor.rest = rest
  column_eq : s.cursor.mark.column = column
  indents_eq : s.indents = indents
  within : ∀ indent ∈ indents.head?, indent ≤ column
  noKey : s.key = none
  inBlock : s.outerKeys = []
  allowed_eq : s.keyAllowed = allowed

/-- A scanner at the end of a line of a block. Nothing on the line must still
turn out to be a key. -/
structure Ends (s : Scanner) (indents : List Nat) (rest : List Char) : Prop where
  rest_eq : s.cursor.rest = rest
  indents_eq : s.indents = indents
  optional : ∀ k ∈ s.key, k.required = false ∧ k.mark.line ≤ s.cursor.mark.line
  inBlock : s.outerKeys = []

theorem dropStaleKey_none (m : Mark) {key : Option KeyStart} (h : key = none) :
    dropStaleKey m key = .ok none := by
  rw [h]
  rfl

theorem forgetKey_self {s : Scanner} (h : s.key = none) : s.forgetKey = .ok s := by
  rw [forgetKey, h]
  change Except.ok { s with key := none } = _
  rw [← h]

theorem dropStaleKey_self {m : Mark} {key : Option KeyStart}
    (h : ∀ k ∈ key, m.line ≤ k.mark.line ∧ m.index ≤ k.mark.index + 1024) :
    dropStaleKey m key = .ok key := by
  cases key with
  | none => rfl
  | some k =>
    obtain ⟨hline, hindex⟩ := h k rfl
    simp [dropStaleKey, KeyStart.isStale, Nat.not_lt.mpr hline, Nat.not_lt.mpr hindex]

theorem dropStaleKeys_eq {s : Scanner} {key : Option KeyStart} (hblock : s.outerKeys = [])
    (hkey : dropStaleKey s.cursor.mark s.key = .ok key) :
    s.dropStaleKeys = .ok { s with key } := by
  rw [dropStaleKeys]
  simp only [hblock, mark, hkey]
  rfl

theorem settle_eq {s : Scanner} {cursor : Cursor} {key : Option KeyStart} {allowed : Bool}
    (hblock : s.outerKeys = [])
    (hskip : skipSpace false false s.keyAllowed s.cursor.rest s.cursor.mark = (cursor, allowed))
    (hkey : dropStaleKey cursor.mark s.key = .ok key) :
    s.settle = .ok ({ s with cursor, key, keyAllowed := allowed }.closeBlocks
      (· ≤ cursor.mark.column)) := by
  have htoken : s.toToken = { s with cursor, keyAllowed := allowed } := by
    simp [toToken, inFlow, hblock, hskip]
  have hdrop : s.toToken.dropStaleKeys = .ok { s with cursor, key, keyAllowed := allowed } := by
    rw [htoken, dropStaleKeys]
    simp only [hblock, mark, hkey]
    rfl
  rw [settle, hdrop]
  rfl

theorem Stands.ends {s : Scanner} {allowed : Bool} {indents : List Nat} {column : Nat}
    {rest : List Char} (h : s.Stands allowed indents column rest) : s.Ends indents rest := by
  refine ⟨h.rest_eq, h.indents_eq, ?_, h.inBlock⟩
  rw [h.noKey]
  rintro _ ⟨⟩

/-- A scanner at its next token has nothing left to settle. -/
theorem settle_self {s : Scanner} (hblock : s.outerKeys = []) (hrest : Begins s.cursor.rest)
    (hkey : dropStaleKey s.cursor.mark s.key = .ok s.key)
    (hwithin : ∀ indent ∈ s.indents.head?, indent ≤ s.cursor.mark.column) : s.settle = .ok s := by
  rw [settle_eq hblock (skipSpace_of_begins _ _ hrest _) hkey]
  exact congrArg Except.ok (closeBlocks_self hwithin)

theorem Stands.settle_eq {s : Scanner} {allowed : Bool} {indents : List Nat} {column : Nat}
    {rest : List Char} (h : s.Stands allowed indents column rest) (hrest : Begins rest) :
    s.settle = .ok s := by
  obtain ⟨rfl, rfl, rfl, hwithin, hkey, hblock, rfl⟩ := h
  apply settle_self hblock hrest _ hwithin
  rw [hkey]
  exact dropStaleKey_none _ rfl

/-- Past white space the scanner stands at its next token, and the blocks have
ended that are further in. -/
theorem reads_space {s : Scanner} {rest : List Char} {m : Mark} {allowed : Bool}
    (hblock : s.outerKeys = [])
    (hskip : skipSpace false false s.keyAllowed s.cursor.rest s.cursor.mark = (⟨rest, m⟩, allowed))
    (hkey : dropStaleKey m s.key = .ok none) (hrest : Begins rest) :
    ∃ t, s.Reads (endings s.indents m.column) t ∧
      t.Stands allowed (staying s.indents m.column) m.column rest := by
  let u : Scanner := { s with cursor := ⟨rest, m⟩, key := none, keyAllowed := allowed }
  obtain ⟨tokens, count, hkinds, hclose⟩ := closeBlocks_eq (s := u) hblock m.column
  have hsettle : s.settle = .ok (u.closeBlocks (· ≤ m.column)) := settle_eq hblock hskip hkey
  rw [hclose] at hsettle
  have hstands : { u with tokens, count, indents := staying u.indents m.column }.Stands allowed
      (staying s.indents m.column) m.column rest :=
    ⟨rfl, rfl, rfl, head?_staying _ _, rfl, hblock, rfl⟩
  exact ⟨_, reads_of_settle hsettle (hstands.settle_eq hrest) hkinds, hstands⟩

/-- White space on a line leads to the next token. -/
theorem Stands.reads_margin {s : Scanner} {allowed : Bool} {indents : List Nat} {column n : Nat}
    {rest : List Char} (h : s.Stands allowed indents column (Script.Layout.margin n ++ rest))
    (hrest : Begins rest) :
    ∃ t, s.Reads [] t ∧ t.Stands allowed indents (column + n) rest := by
  obtain ⟨m, hcolumn, -, hskip⟩ := skipSpace_margin false s.keyAllowed n hrest s.cursor.mark
  have hkey := dropStaleKey_none m h.noKey
  have hwithin : ∀ indent ∈ indents.head?, indent ≤ column + n := by
    intro indent hmem
    exact Nat.le_add_right_of_le (h.within indent hmem)
  rw [h.column_eq] at hcolumn
  rw [← h.rest_eq] at hskip
  obtain ⟨t, hreads, hstands⟩ := reads_space h.inBlock hskip hkey hrest
  rw [h.indents_eq, hcolumn, endings_of_le hwithin] at hreads
  rw [h.allowed_eq, h.indents_eq, hcolumn, staying_of_le hwithin] at hstands
  exact ⟨t, hreads, hstands⟩

/-- A line break ends the line, and the blocks that the next line is not in. -/
theorem Ends.reads_newline {s : Scanner} {indents : List Nat} {n : Nat} {rest : List Char}
    (h : s.Ends indents ('\n' :: (Script.Layout.margin n ++ rest))) (hrest : Begins rest) :
    ∃ t, s.Reads (endings indents n) t ∧ t.Stands true (staying indents n) n rest := by
  obtain ⟨m, hcolumn, hline, hskip⟩ := skipSpace_margin false true n hrest
    (s.cursor.mark.newline 1)
  have hcolumn : m.column = n := by simpa [Mark.newline] using hcolumn
  have hbreak :
      skipSpace false false s.keyAllowed s.cursor.rest s.cursor.mark = (⟨rest, m⟩, true) := by
    rw [h.rest_eq, skipSpace, ← hskip]
    · simp [isBreak]
      rfl
    · rintro _ h _
      cases h
  have hkey : dropStaleKey m s.key = .ok none := by
    cases hkey : s.key with
    | none => rfl
    | some k =>
      obtain ⟨hrequired, hle⟩ := h.optional k hkey
      have hlt : k.mark.line < m.line := by
        rw [hline]
        exact Nat.lt_succ_of_le hle
      simp [dropStaleKey, KeyStart.isStale, hlt, dropKey, hrequired]
  obtain ⟨t, hreads, hstands⟩ := reads_space h.inBlock hbreak hkey hrest
  rw [h.indents_eq, hcolumn] at hreads hstands
  exact ⟨t, hreads, hstands⟩

end Verdict.Yaml.Scanner
