-- Stripping on the octets of a text: the last `=` is looked up, what starts there
-- is scanned backward, and the text is cut at an octet that was counted, where a
-- text can be cut between two of its characters only. Main statement: the scan
-- halts at that `=` or behind it and cuts at that `=` alone, so no slice fails.
import Verdict.Proofs.Probe.Comparison

namespace Verdict.Probe

/-! ## Octets of a text -/

/-- Characters with the octets at which they start, the first one at `start`. -/
def withOffsets (start : Nat) : List Char → List (Nat × Char)
  | [] => []
  | c :: cs => (start, c) :: withOffsets (start + c.utf8Size) cs

/-- The characters of a text from its end, with the octets at which they start. -/
def backward (text : String) : List (Nat × Char) := (withOffsets 0 text.toList).reverse

/-- The octet at which the last `=` of a text starts. -/
def lastEq? (text : String) : Option Nat :=
  ((backward text).find? fun place => place.2 = '=').map (·.1)

/-- The text from an octet on. None if the octet is within a character or past
the end. -/
def sliceFrom? (text : String) (offset : Nat) : Option String :=
  (text.pos? ⟨offset⟩).map fun pos => (text.sliceFrom pos).copy

/-- The text up to an octet, and none where `sliceFrom?` has none. -/
def sliceUpTo? (text : String) (offset : Nat) : Option String :=
  (text.pos? ⟨offset⟩).map fun pos => (text.sliceTo pos).copy

theorem map_snd_withOffsets (start : Nat) (cs : List Char) :
    (withOffsets start cs).map Prod.snd = cs := by
  induction cs generalizing start with
  | nil => rfl
  | cons c cs ih => rw [withOffsets, List.map_cons, ih]

theorem withOffsets_append (start : Nat) (cs ds : List Char) :
    withOffsets start (cs ++ ds) =
      withOffsets start cs ++ withOffsets (start + (String.ofList cs).utf8ByteSize) ds := by
  induction cs generalizing start with
  | nil => rfl
  | cons c cs ih =>
    have hsize : (String.ofList (c :: cs)).utf8ByteSize =
        c.utf8Size + (String.ofList cs).utf8ByteSize := by
      rw [String.ofList_cons, String.utf8ByteSize_append, String.utf8ByteSize_singleton]
    rw [List.cons_append, withOffsets, withOffsets, ih, hsize, Nat.add_assoc, List.cons_append]

theorem backward_append (before after : String) :
    backward (before ++ after) =
      (withOffsets before.utf8ByteSize after.toList).reverse ++ backward before := by
  rw [backward, String.toList_append, withOffsets_append, String.ofList_toList, Nat.zero_add,
    List.reverse_append]
  rfl

theorem map_snd_reverse_withOffsets (start : Nat) (cs : List Char) :
    (withOffsets start cs).reverse.map Prod.snd = cs.reverse := by
  rw [List.map_reverse, map_snd_withOffsets]

theorem ne_eq_of_mem_withOffsets {cs : List Char} (h : '=' ∉ cs) {start : Nat} :
    ∀ place ∈ (withOffsets start cs).reverse, place.2 ≠ '=' := by
  intro place hplace heq
  have hmem := List.mem_map_of_mem (f := Prod.snd) hplace
  rw [map_snd_reverse_withOffsets, heq, List.mem_reverse] at hmem
  exact h hmem

/-! ## Slices -/

theorem pos?_offset {text : String} (pos : text.Pos) : text.pos? pos.offset = some pos := by
  have hvalid : pos.offset.isValidForSlice text.toSlice = true :=
    String.Pos.Raw.isValidForSlice_eq_true_iff.mpr pos.isValid.toSlice
  rw [String.pos?, String.Slice.pos?, dif_pos hvalid]
  rfl

/-- Where one text ends and the next starts the whole can be cut. -/
theorem exists_pos_between (before after : String) :
    ∃ pos : (before ++ after).Pos,
      (before ++ after).pos? ⟨before.utf8ByteSize⟩ = some pos ∧ pos.Splits before after := by
  refine ⟨_, ?_, String.Pos.splits_append_rawEndPos⟩
  exact pos?_offset ((before ++ after).pos before.rawEndPos _)

theorem sliceFrom?_append (before after : String) :
    sliceFrom? (before ++ after) before.utf8ByteSize = some after := by
  obtain ⟨pos, hpos, hsplits⟩ := exists_pos_between before after
  rw [sliceFrom?, hpos, Option.map_some, hsplits.copy_sliceFrom_eq]

theorem sliceUpTo?_append (before after : String) :
    sliceUpTo? (before ++ after) before.utf8ByteSize = some before := by
  obtain ⟨pos, hpos, hsplits⟩ := exists_pos_between before after
  rw [sliceUpTo?, hpos, Option.map_some, hsplits.copy_sliceTo_eq]

/-- A slice fails exactly where a text has no boundary of characters. -/
theorem isSome_sliceUpTo?_iff {text : String} {offset : Nat} :
    (sliceUpTo? text offset).isSome ↔ (String.Pos.Raw.mk offset).IsValid text := by
  rw [sliceUpTo?, Option.isSome_map]
  constructor
  · intro h
    obtain ⟨pos, hpos⟩ := Option.isSome_iff_exists.mp h
    rw [String.pos?, String.Slice.pos?] at hpos
    split at hpos
    · rename_i hvalid
      exact (String.Pos.Raw.isValidForSlice_eq_true_iff.mp hvalid).ofSlice
    · cases hpos
  · intro h
    rw [pos?_offset ⟨⟨offset⟩, h⟩]
    rfl

example : sliceUpTo? "añb" 2 = none := by decide

theorem sliceFrom?_last_eq (before after : String) :
    sliceFrom? (before ++ "=" ++ after) before.utf8ByteSize = some ("=" ++ after) := by
  rw [String.append_assoc, sliceFrom?_append]

theorem sliceUpTo?_last_eq (before after : String) :
    sliceUpTo? (before ++ "=" ++ after) before.utf8ByteSize = some before := by
  rw [String.append_assoc, sliceUpTo?_append]

/-! ## The last `=` -/

theorem exists_text_last_eq {text : String} (h : '=' ∈ text.toList) :
    ∃ before after, text = before ++ "=" ++ after ∧ '=' ∉ after.toList := by
  obtain ⟨before, after, htext, hafter⟩ := exists_last_eq h
  refine ⟨String.ofList before, String.ofList after, ?_, by rwa [String.toList_ofList]⟩
  apply String.toList_inj.mp
  simp [htext]

theorem find?_eq_of_notMem {cs : List Char} (h : '=' ∉ cs) (start : Nat) :
    (withOffsets start cs).reverse.find? (fun place => place.2 = '=') = none := by
  apply List.find?_eq_none.mpr
  intro place hplace
  simpa using ne_eq_of_mem_withOffsets h place hplace

theorem lastEq?_of_notMem {text : String} (h : '=' ∉ text.toList) : lastEq? text = none := by
  rw [lastEq?, backward, find?_eq_of_notMem h, Option.map_none]

theorem lastEq?_append {after : String} (h : '=' ∉ after.toList) (before : String) :
    lastEq? (before ++ "=" ++ after) = some before.utf8ByteSize := by
  rw [lastEq?, backward_append, List.find?_append, find?_eq_of_notMem h, Option.none_or,
    backward_append]
  rfl

/-! ## The scan in place -/

/-- How a scan of characters with their octets ends. -/
inductive Halt where
  /-- With a cut at the character that starts at this octet. -/
  | cut (offset : Nat)
  | refused
  /-- Past the last character it was given. -/
  | exhausted
  deriving DecidableEq, Repr

def Scan.walk : Scan → List (Nat × Char) → Halt
  | _, [] => .exhausted
  | scan, (offset, c) :: rest =>
    match scan.step c with
    | .next scan => scan.walk rest
    | .cut => .cut offset
    | .refuse => .refused

/-- The characters that a scan takes for the quotes of the literal: those after
which it goes on in another state. -/
def Scan.delimiters : Scan → List Char → List Char
  | _, [] => []
  | scan, c :: rest =>
    match scan.step c with
    | .next next => if next = scan then next.delimiters rest else c :: next.delimiters rest
    | .cut => []
    | .refuse => []

/-- What is left of a text after the scan of what starts at an octet of it. -/
def Halt.leaves? (text : String) (start : Nat) : Halt → Option String
  | .cut offset => sliceUpTo? text (start + offset)
  | .refused => some text
  | .exhausted => some text

/-- Stripping on the octets of a text. None if a slice fails. -/
def stripInPlace? (text : String) : Option String :=
  match lastEq? text with
  | none => some text
  | some start => (sliceFrom? text start).bind fun target =>
      (Scan.before.walk (backward target)).leaves? text start

/-! ## One step -/

/-- The quote that a scan waits for is one. -/
inductive Scan.Proper : Scan → Prop
  | before : Scan.Proper .before
  | inside {quote : Char} : isQuote quote → Scan.Proper (.inside quote)
  | complete : Scan.Proper .complete

/-- All that a step can do. It never goes on after an `=`. -/
inductive Scan.Moves : Scan → Char → Step → Prop
  | passes {scan : Scan} {c : Char} : c ≠ '=' → Scan.Moves scan c (.next scan)
  | opens {c : Char} : isQuote c → Scan.Moves .before c (.next (.inside c))
  | closes {c : Char} : isQuote c → Scan.Moves (.inside c) c (.next .complete)
  | cuts : Scan.Moves .complete '=' .cut
  | refuses {scan : Scan} {c : Char} : Scan.Moves scan c .refuse

theorem Scan.Proper.moves {scan : Scan} (h : scan.Proper) (c : Char) :
    scan.Moves c (scan.step c) := by
  unfold Scan.step
  by_cases hs : isSpace c
  · rw [if_pos hs]
    exact .passes (ne_eq_of_isSpace hs)
  · rw [if_neg hs]
    cases h with
    | before =>
      dsimp only
      split
      · rename_i hq
        exact .opens hq
      · exact .refuses
    | inside hquote =>
      dsimp only
      split
      · rename_i hc
        subst hc
        exact .closes hquote
      · split
        · exact .refuses
        · rename_i he
          exact .passes he
    | complete =>
      dsimp only
      split
      · rename_i he
        subst he
        exact .cuts
      · exact .refuses

/-! ## The whole scan -/

/-- A scan that comes to an `=` after other characters halts at it or at one of
them, for no quote that it awaits is an `=`, and whatever would come next makes
no difference. -/
theorem Scan.Proper.walk_cases {scan : Scan} (h : scan.Proper) {places : List (Nat × Char)}
    (hplaces : ∀ place ∈ places, place.2 ≠ '=') (offset : Nat) (rest : List Char) :
    (scan.walk (places ++ [(offset, '=')]) = .cut offset ∧
      scan.run (places.map Prod.snd ++ '=' :: rest) = .cut rest) ∨
    (scan.walk (places ++ [(offset, '=')]) = .refused ∧
      scan.run (places.map Prod.snd ++ '=' :: rest) = .refused) := by
  induction places generalizing scan with
  | nil =>
    rw [List.map_nil, List.nil_append, List.nil_append, Scan.walk, Scan.run]
    have hmoves := h.moves '='
    generalize scan.step '=' = step at hmoves
    cases hmoves with
    | passes he => exact absurd rfl he
    | opens hq => exact absurd hq (by decide)
    | closes hq => exact absurd hq (by decide)
    | cuts => exact .inl ⟨rfl, rfl⟩
    | refuses => exact .inr ⟨rfl, rfl⟩
  | cons place places ih =>
    obtain ⟨start, c⟩ := place
    rw [List.forall_mem_cons] at hplaces
    rw [List.map_cons, List.cons_append, List.cons_append, Scan.walk, Scan.run]
    have hmoves := h.moves c
    generalize scan.step c = step at hmoves
    cases hmoves with
    | passes => exact ih h hplaces.2
    | opens hq => exact ih (.inside hq) hplaces.2
    | closes => exact ih .complete hplaces.2
    | cuts => exact absurd rfl hplaces.1
    | refuses => exact .inr ⟨rfl, rfl⟩

/-- The quotes that a scan has yet to take before it can cut. -/
def Scan.Awaits (quotes : List Char) : Scan → Prop
  | .before => ∃ quote, isQuote quote ∧ quotes = [quote, quote]
  | .inside quote => quotes = [quote]
  | .complete => quotes = []

/-- A step that takes a quote leads to a state that awaits one quote less. -/
theorem Scan.Proper.awaits_delimiters {scan : Scan} (h : scan.Proper)
    {places : List (Nat × Char)} {offset : Nat} (hcut : scan.walk places = .cut offset) :
    scan.Awaits (scan.delimiters (places.map Prod.snd)) := by
  induction places generalizing scan with
  | nil => cases hcut
  | cons place places ih =>
    obtain ⟨start, c⟩ := place
    rw [Scan.walk] at hcut
    rw [List.map_cons, Scan.delimiters]
    have hmoves := h.moves c
    generalize scan.step c = step at hmoves hcut
    cases hmoves with
    | passes =>
      simp only [if_true]
      exact ih h hcut
    | opens hq =>
      have hrest : (Scan.inside c).delimiters (places.map Prod.snd) = [c] := ih (.inside hq) hcut
      simp only [reduceCtorEq, if_false, hrest]
      exact ⟨c, hq, rfl⟩
    | closes =>
      have hrest : Scan.complete.delimiters (places.map Prod.snd) = [] := ih .complete hcut
      simp only [reduceCtorEq, if_false, hrest]
      rfl
    | cuts => rfl
    | refuses => cases hcut

/-! ## The scan from the last `=` -/

theorem backward_from_eq (after : String) :
    backward ("=" ++ after) = (withOffsets 1 after.toList).reverse ++ [(0, '=')] :=
  backward_append "=" after

/-- The scan in place and the scan of the whole text end alike. -/
theorem walk_from_last_eq {after : String} (h : '=' ∉ after.toList) (before : String) :
    (Scan.before.walk (backward ("=" ++ after)) = .cut 0 ∧
      Scan.before.run (before ++ "=" ++ after).toList.reverse = .cut before.toList.reverse) ∨
    (Scan.before.walk (backward ("=" ++ after)) = .refused ∧
      Scan.before.run (before ++ "=" ++ after).toList.reverse = .refused) := by
  have hwhole : (before ++ "=" ++ after).toList.reverse =
      (withOffsets 1 after.toList).reverse.map Prod.snd ++ '=' :: before.toList.reverse := by
    rw [map_snd_reverse_withOffsets]
    simp
  rw [hwhole, backward_from_eq]
  exact Scan.Proper.before.walk_cases (ne_eq_of_mem_withOffsets h) 0 before.toList.reverse

theorem eq_zero_of_walk_cut {after : String} (h : '=' ∉ after.toList) {offset : Nat}
    (hcut : Scan.before.walk (backward ("=" ++ after)) = .cut offset) : offset = 0 := by
  rcases walk_from_last_eq h "" with ⟨hwalk, -⟩ | ⟨hwalk, -⟩
  · rw [hwalk] at hcut
    cases hcut
    rfl
  · rw [hwalk] at hcut
    cases hcut

theorem strip_of_run_cut {text before : String}
    (h : Scan.before.run text.toList.reverse = .cut before.toList.reverse) :
    strip text = before := by
  rw [strip, cut?, h]
  simp

theorem strip_of_run_refused {text : String}
    (h : Scan.before.run text.toList.reverse = .refused) : strip text = text := by
  rw [strip, cut?, h]

/-- Stripping on the octets of a text always succeeds, and takes off the same. -/
theorem stripInPlace?_eq (text : String) : stripInPlace? text = some (strip text) := by
  by_cases hmem : '=' ∈ text.toList
  · obtain ⟨before, after, rfl, hafter⟩ := exists_text_last_eq hmem
    rw [stripInPlace?, lastEq?_append hafter]
    dsimp only
    rw [sliceFrom?_last_eq, Option.bind_some]
    rcases walk_from_last_eq hafter before with ⟨hwalk, hrun⟩ | ⟨hwalk, hrun⟩
    · rw [hwalk, strip_of_run_cut hrun, Halt.leaves?, Nat.add_zero, sliceUpTo?_last_eq]
    · rw [hwalk, strip_of_run_refused hrun, Halt.leaves?]
  · have hfixed : strip text = text := Decidable.byContradiction fun hne => by
      obtain ⟨l, hl⟩ := compares_of_strip_ne hne
      rw [hl, toList_append_literal] at hmem
      simp at hmem
    rw [stripInPlace?, lastEq?_of_notMem hmem, hfixed]

/-- In a text with an `=` the backward scan of what starts at the last one halts
there or behind it, and never runs out of characters. It cuts at that `=` alone,
at octet 0 of what it scans, after it has taken two quotes of one kind. So the
octet that is counted for the cut is the one at which the last `=` starts, the
text can be cut there, and stripping gives a result. -/
theorem the_scan_cuts_at_the_last_eq_alone {text : String} (h : '=' ∈ text.toList) :
    ∃ before after, text = before ++ "=" ++ after ∧ '=' ∉ after.toList ∧
      lastEq? text = some before.utf8ByteSize ∧
      sliceFrom? text before.utf8ByteSize = some ("=" ++ after) ∧
      (Scan.before.walk (backward ("=" ++ after)) = .refused ∨
        ∃ offset, Scan.before.walk (backward ("=" ++ after)) = .cut offset) ∧
      (∀ offset, Scan.before.walk (backward ("=" ++ after)) = .cut offset →
        offset = 0 ∧
        (∃ quote, isQuote quote ∧
          Scan.before.delimiters ("=" ++ after).toList.reverse = [quote, quote]) ∧
        (String.Pos.Raw.mk (before.utf8ByteSize + offset)).IsValid text ∧
        sliceUpTo? text (before.utf8ByteSize + offset) = some before) ∧
      Scan.before.run text.toList.reverse ≠ .exhausted ∧
      stripInPlace? text = some (strip text) := by
  obtain ⟨before, after, rfl, hafter⟩ := exists_text_last_eq h
  have hends := walk_from_last_eq hafter before
  refine ⟨before, after, rfl, hafter, lastEq?_append hafter before, sliceFrom?_last_eq before after,
    ?_, ?_, ?_, stripInPlace?_eq _⟩
  · rcases hends with ⟨hwalk, -⟩ | ⟨hwalk, -⟩
    · exact .inr ⟨0, hwalk⟩
    · exact .inl hwalk
  · intro offset hcut
    obtain rfl : offset = 0 := eq_zero_of_walk_cut hafter hcut
    have hquotes := Scan.Proper.before.awaits_delimiters hcut
    rw [backward, map_snd_reverse_withOffsets] at hquotes
    have hslice := sliceUpTo?_last_eq before after
    have hvalid := isSome_sliceUpTo?_iff.mp (Option.isSome_of_eq_some hslice)
    exact ⟨rfl, hquotes, hvalid, hslice⟩
  · rcases hends with ⟨-, hrun⟩ | ⟨-, hrun⟩
    · rw [hrun]
      nofun
    · rw [hrun]
      nofun

/-- Characters of two octets before the `=` and within the literal. -/
theorem a_text_of_wide_characters_is_cut_at_an_octet :
    '=' ∈ "/título = 'ñandú'".toList ∧
      (∃ quote, isQuote quote ∧
        Scan.before.delimiters "= 'ñandú'".toList.reverse = [quote, quote]) ∧
      (String.Pos.Raw.mk 9).IsValid "/título = 'ñandú'" ∧
      stripInPlace? "/título = 'ñandú'" = some "/título " := by
  have hmem : '=' ∈ "/título = 'ñandú'".toList := by decide
  obtain ⟨before, after, -, -, hlast, htarget, -, hcut, -, hstrip⟩ :=
    the_scan_cuts_at_the_last_eq_alone hmem
  have hsize : before.utf8ByteSize = 9 := Option.some.inj (hlast.symm.trans (by decide))
  rw [hsize] at htarget hcut
  have htext : "=" ++ after = "= 'ñandú'" :=
    Option.some.inj (htarget.symm.trans (by decide +kernel))
  rw [htext] at hcut
  obtain ⟨-, hquotes, hvalid, -⟩ := hcut 0 (by decide +kernel)
  exact ⟨hmem, hquotes, hvalid, hstrip.trans (by decide +kernel)⟩

end Verdict.Probe
