import LexGen.Proofs.ScanState.LineCount
import LexGen.Proofs.ScanState.Reachable
import LexGen.Proofs.ScanState.Shortened

/-!
# Matches that are taken in parts

A match may be taken at once or in two parts. If no part ends within a line break, it makes no
difference but for where the location begins, which is where the second part does (`commit_commit`).
So a match that goes on with a kept one has the texts, the counters and the range of the match of
both, and ends where it ends, but begins where it begins only if the kept one is empty
(`keep_commit_iff`).

Characters that are taken one by one leave the location where it begins. Here a break may be cut,
except that one that has been begun before the match counts for the match, and not for a character
that is taken alone (`inputs_commit_iff`).
-/

namespace LexGen

open Text (breaks columnAfter isBreak)

/-- The same end, with another beginning. -/
def Location.beginAt (line column : ℕ) (l : Location) : Location :=
  { l with firstLine := line, firstColumn := column }

namespace ScanState

variable {s : ScanState} {text rest : List Char}

/-! ## The fields after a match -/

section Commit

variable (hr : s.remaining = text ++ rest)

include hr

theorem current_commit_append : (s.commit text.length).current = s.current ++ text := by
  show s.current ++ s.remaining.take text.length = _
  rw [hr, List.take_left]

theorem remaining_commit_append : (s.commit text.length).remaining = rest := by
  show s.remaining.drop text.length = _
  rw [hr, List.drop_left]

theorem offset_commit_append : (s.commit text.length).offset = s.offset + text.length := by
  show s.offset + (s.remaining.take text.length).length = _
  rw [hr, List.take_left]

theorem length_commit_append : (s.commit text.length).length = s.length + text.length := by
  show s.length + (s.remaining.take text.length).length = _
  rw [hr, List.take_left]

theorem line_commit_append : (s.commit text.length).line = s.line + breaks text := by
  rw [line_commit, hr, List.take_left]

theorem lastColumn_commit_append :
    (s.commit text.length).location.lastColumn = columnAfter s.location.lastColumn text := by
  show columnAfter s.location.lastColumn (s.remaining.take text.length) = _
  rw [hr, List.take_left]

theorem range_commit_append : (s.commit text.length).location.range =
    if s.flags.ranges then some (s.offset - s.length, s.offset + text.length) else none := by
  show (if s.flags.ranges then some ((s.commit text.length).offset -
    (s.commit text.length).length, (s.commit text.length).offset) else none) = _
  rw [offset_commit_append hr, length_commit_append hr, Nat.add_sub_add_right]

end Commit

/-! ## Two matches in a row -/

theorem commit_commit {a b : List Char} (h : a ++ b <+: s.remaining)
    (hcut : ¬(a.getLast? = some '\r' ∧ b.head? = some '\n')) :
    (s.commit a.length).commit b.length =
      { s.commit (a ++ b).length with
        location := (s.commit (a ++ b).length).location.beginAt
          (s.commit a.length).location.lastLine (s.commit a.length).location.lastColumn } := by
  obtain ⟨rest, hr⟩ := h
  have hfirst : s.remaining = a ++ (b ++ rest) := by rw [← hr, List.append_assoc]
  have hsecond := remaining_commit_append hfirst
  have hline : ((s.commit a.length).commit b.length).line = (s.commit (a ++ b).length).line := by
    rw [line_commit_append hsecond, line_commit_append hfirst, line_commit_append hr.symm,
      Text.breaks_append hcut, Nat.add_assoc]
  refine ScanState.ext rfl ?_ ?_ ?_ ?_ hline (Location.ext rfl rfl (congrArg (· + 1) hline) ?_ ?_)
    rfl rfl rfl rfl rfl
  · rw [current_commit_append hsecond, current_commit_append hfirst, current_commit_append hr.symm,
      List.append_assoc]
  · rw [remaining_commit_append hsecond, remaining_commit_append hr.symm]
  · rw [offset_commit_append hsecond, offset_commit_append hfirst, offset_commit_append hr.symm,
      List.length_append, Nat.add_assoc]
  · rw [length_commit_append hsecond, length_commit_append hfirst, length_commit_append hr.symm,
      List.length_append, Nat.add_assoc]
  · rw [lastColumn_commit_append hsecond, lastColumn_commit_append hfirst,
      ← Text.columnAfter_append hcut]
    exact (lastColumn_commit_append hr.symm).symm
  · rw [range_commit_append hsecond, offset_commit_append hfirst, length_commit_append hfirst,
      Nat.add_sub_add_right, Nat.add_assoc, ← List.length_append]
    exact (range_commit_append hr.symm).symm

/-- A match that is kept is gone on with where it ends. -/
theorem commit_prepare_keep (n : ℕ) (s : ScanState) : s.keep.prepare.commit n = s.commit n := rfl

/-- A match ends where it begins if and only if it is empty. -/
theorem commit_ends_at_iff (hlast : s.location.lastLine = s.line + 1)
    (hr : s.remaining = text ++ rest) :
    (s.commit text.length).location.lastLine = s.location.lastLine ∧
      (s.commit text.length).location.lastColumn = s.location.lastColumn ↔ text = [] := by
  have hline : (s.commit text.length).location.lastLine = s.line + breaks text + 1 :=
    congrArg (· + 1) (line_commit_append hr)
  rw [hline, hlast, lastColumn_commit_append hr]
  constructor
  · rintro ⟨hsame, hcolumn⟩
    rw [Text.columnAfter_of_breaks_eq_zero (by omega)] at hcolumn
    exact List.length_eq_zero_iff.1 (by omega)
  · rintro rfl
    exact ⟨rfl, rfl⟩

/-- A match that goes on with a kept one is the match of both, but for where the location begins,
which is where the kept one ends. So it is the match of both altogether if and only if the kept one
is empty. -/
theorem keep_commit_iff (hs : s.Reachable) {a b : List Char} (h : a ++ b <+: s.prepare.remaining)
    (hcut : ¬(a.getLast? = some '\r' ∧ b.head? = some '\n')) :
    let kept := s.prepare.commit a.length
    let whole := s.prepare.commit (a ++ b).length
    kept.keep.prepare.commit b.length =
        { whole with
          location := whole.location.beginAt kept.location.lastLine kept.location.lastColumn } ∧
      (kept.keep.prepare.commit b.length = whole ↔ a = []) := by
  intro kept whole
  have hjoined := (commit_prepare_keep b.length kept).trans (commit_commit h hcut)
  refine ⟨hjoined, ?_⟩
  obtain ⟨rest, hr⟩ := h
  rw [List.append_assoc] at hr
  rw [hjoined, ← commit_ends_at_iff hs.prepare.sound.lastLine_eq hr.symm]
  constructor
  · intro hsame
    have hlocation := congrArg ScanState.location hsame
    exact ⟨congrArg Location.firstLine hlocation, congrArg Location.firstColumn hlocation⟩
  · rintro ⟨hline, hcolumn⟩
    have hbegin : whole.location.beginAt kept.location.lastLine kept.location.lastColumn =
        whole.location := Location.ext hline hcolumn rfl rfl rfl
    rw [hbegin]

/-- A word that goes on after its first letter, over a line break. -/
theorem keep_commit_iff_accents : ∃ (s : ScanState) (a b : List Char),
    s = (ScanState.start { ranges := true } ['ß', 'é', '\r', '\n', 'ä', '!']).commit 1 ∧
    s.Reachable ∧ s.more = false ∧ a = ['é'] ∧ b = ['\r', '\n', 'ä'] ∧
    a ++ b <+: s.prepare.remaining ∧ ¬(a.getLast? = some '\r' ∧ b.head? = some '\n') ∧
    (s.prepare.commit (a ++ b).length).location = ⟨1, 1, 2, 1, some (1, 5)⟩ ∧
    (s.prepare.commit a.length).keep.prepare.commit b.length =
      { s.prepare.commit (a ++ b).length with location := ⟨1, 2, 2, 1, some (1, 5)⟩ } ∧
    (s.prepare.commit ([] : List Char).length).keep.prepare.commit (a ++ b).length =
      s.prepare.commit (a ++ b).length := by
  have hs : ((ScanState.start { ranges := true }
      ['ß', 'é', '\r', '\n', 'ä', '!']).commit 1).Reachable := (Reachable.start _ _).commit 1
  refine ⟨_, _, _, rfl, hs, rfl, rfl, rfl, by decide, by decide, rfl, ?_, ?_⟩
  · exact (keep_commit_iff hs (by decide) (by decide)).1
  · exact (keep_commit_iff hs (a := []) (by decide) (by decide)).2.2 rfl

/-- Of a word that goes on after its first letter the location begins at the second one, although
the range has both. -/
theorem location_of_kept_letter : ∃ (s : ScanState) (a b : List Char), s.Reachable ∧
    s.more = false ∧ a ++ b <+: s.prepare.remaining ∧
    ¬(a.getLast? = some '\r' ∧ b.head? = some '\n') ∧
    ((s.prepare.commit a.length).keep.prepare.commit b.length).current = ['a', 'b'] ∧
    ((s.prepare.commit a.length).keep.prepare.commit b.length).location =
      ⟨1, 1, 1, 2, some (0, 2)⟩ ∧
    (s.prepare.commit (a ++ b).length).location = ⟨1, 0, 1, 2, some (0, 2)⟩ ∧
    (s.prepare.commit a.length).keep.prepare.commit b.length ≠
      s.prepare.commit (a ++ b).length := by
  refine ⟨.start { ranges := true } ['a', 'b'], ['a'], ['b'], .start _ _, rfl, by decide, by decide,
    rfl, rfl, rfl, fun hsame => ?_⟩
  have hcolumn := congrArg (fun s => s.location.firstColumn) hsame
  cases hcolumn

/-! ## Characters one by one -/

/-- Takes `n` characters one by one, and tells what each time is given. -/
def inputs : ℕ → ScanState → List (Option Char) × ScanState
  | 0, s => ([], s)
  | n + 1, s => (s.input.1 :: (inputs n s.input.2).1, (inputs n s.input.2).2)

theorem input_of_cons {c : Char} (h : s.remaining = c :: rest) : s.input.1 = some c := by
  rw [input, h]

theorem inputs_fst : ∀ {cs : List Char} {s : ScanState}, cs <+: s.remaining →
    (s.inputs cs.length).1 = cs.map some
  | [], _, _ => rfl
  | c :: cs, s, h => by
    obtain ⟨rest, hr⟩ := h
    have hnext : s.input.2.remaining = cs ++ rest := remaining_input hr.symm
    rw [List.length_cons, inputs, input_of_cons hr.symm, inputs_fst ⟨rest, hnext.symm⟩,
      List.map_cons]

/-- Characters that are taken one by one count a break that has been begun as one. -/
theorem counts_inputs : ∀ (n : ℕ) (s : ScanState), Counts s (s.inputs n).2
  | 0, _ => rfl
  | n + 1, s => s.counts_input.trans (counts_inputs n s.input.2)

/-- One character more makes a match longer by it, unless the match is empty and it completes a
break that has been begun before. -/
theorem input_commit {c : Char} (h : text ++ [c] <+: s.remaining)
    (hcut : ¬(text = [] ∧ s.matched.getLast? = some '\r' ∧ c = '\n')) :
    (s.commit text.length).input.2 = s.commit (text ++ [c]).length := by
  obtain ⟨rest, hr⟩ := h
  have htext : s.remaining = text ++ c :: rest := by
    rw [← hr, List.append_assoc, List.singleton_append]
  have hnext := remaining_commit_append htext
  have hmatched : (s.commit text.length).matched = s.matched ++ text := by
    rw [matched_commit, htext, List.take_left]
  -- the last character before `c` is that of the match, or does not matter
  have hgoes : c = '\n' ∧ (s.matched ++ text).getLast? = some '\r' ↔
      c = '\n' ∧ text.getLast? = some '\r' := by
    rcases List.eq_nil_or_concat text with rfl | ⟨front, last, rfl⟩
    · simpa using fun hc hlast => hcut ⟨rfl, hlast, hc⟩
    · simp [← List.append_assoc]
  have hline : (s.commit text.length).input.2.line = (s.commit (text ++ [c]).length).line := by
    rw [line_input hnext, hmatched, line_commit_append htext, line_commit_append hr.symm,
      Text.breaks_concat]
    simp only [hgoes, Text.isBreak_iff]
    split_ifs <;> rfl
  have hlocation : (s.commit text.length).input.2.location =
      (s.commit (text ++ [c]).length).location := by
    refine Location.ext ?_ ?_ ?_ ?_ ?_
    · exact firstLine_input _
    · exact firstColumn_input _
    · exact (lastLine_input rfl).trans (congrArg (· + 1) hline)
    · rw [lastColumn_input hnext, lastColumn_commit_append htext, lastColumn_commit_append hr.symm,
        Text.columnAfter_concat]
      simp only [Text.isBreak_iff]
    · rw [range_input hnext, range_commit_append htext, range_commit_append hr.symm,
        List.length_append, List.length_singleton]
      split_ifs <;> rfl
  refine ScanState.ext (before_input _) ?_ ?_ ?_ ?_ hline hlocation ?_ ?_ ?_ ?_ ?_
  · rw [current_input hnext, current_commit_append htext, current_commit_append hr.symm,
      List.append_assoc]
  · rw [remaining_input hnext, remaining_commit_append hr.symm]
  · rw [offset_input hnext, offset_commit_append htext, offset_commit_append hr.symm,
      List.length_append, List.length_singleton, Nat.add_assoc]
  · rw [length_input hnext, length_commit_append htext, length_commit_append hr.symm,
      List.length_append, List.length_singleton, Nat.add_assoc]
  all_goals
    rw [input, hnext]
    rfl

theorem inputs_commit (s : ScanState) : ∀ {more text : List Char}, text ++ more <+: s.remaining →
    ¬(text = [] ∧ s.matched.getLast? = some '\r' ∧ more.head? = some '\n') →
      ((s.commit text.length).inputs more.length).2 = s.commit (text ++ more).length
  | [], text, _, _ => by
    rw [List.append_nil]
    rfl
  | c :: cs, text, h, hcut => by
    have hassoc : text ++ c :: cs = text ++ [c] ++ cs := by
      rw [List.append_assoc, List.singleton_append]
    rw [hassoc] at h
    have hfirst := input_commit ((List.prefix_append _ cs).trans h)
      fun hc => hcut ⟨hc.1, hc.2.1, congrArg some hc.2.2⟩
    rw [List.length_cons, inputs, hfirst, hassoc]
    -- the match now has a character of its own
    exact inputs_commit s h (by simp)

/-- Characters that are taken one by one after a match are given in their order. The state is that
of the longer match, unless the match is empty and the first of them completes a break that has been
begun before: that break counts again for a match, and does not for a single character. At the end
of the input there is nothing more to take. -/
theorem inputs_commit_iff {more : List Char} (h : text ++ more <+: s.remaining) :
    ((s.commit text.length).inputs more.length).1 = more.map some ∧
    (((s.commit text.length).inputs more.length).2 = s.commit (text ++ more).length ↔
      ¬(text = [] ∧ s.matched.getLast? = some '\r' ∧ more.head? = some '\n')) ∧
    ∀ t : ScanState, t.remaining = [] → t.input = (none, t) := by
  refine ⟨?_, ⟨?_, inputs_commit s h⟩, fun t ht => by rw [input, ht]⟩
  · obtain ⟨rest, hr⟩ := h
    rw [List.append_assoc] at hr
    refine inputs_fst ?_
    rw [remaining_commit_append hr.symm]
    exact List.prefix_append _ _
  · rintro hsame ⟨rfl, hreturn, hfeed⟩
    obtain ⟨rest, hr⟩ := h
    have hcounts := counts_inputs more.length (s.commit ([] : List Char).length)
    have hseam := Text.breaks_append_of_seam hreturn hfeed
    rw [List.nil_append] at hr hsame
    rw [hsame, Counts, line_commit_append hr.symm, line_commit_append (List.nil_append _).symm,
      matched_commit, matched_commit, List.length_nil, List.take_zero, List.append_nil, ← hr,
      List.take_left] at hcounts
    have hnone : breaks [] = 0 := rfl
    omega

/-- Both characters of a break are taken after the first letter, the second one alone. -/
theorem inputs_commit_iff_accents : ∃ (s t : ScanState) (text more : List Char),
    s = ScanState.start { ranges := true } ['é', '\r', '\n', 'ß', '!'] ∧ t = s.commit 2 ∧
    text = ['é', '\r'] ∧ more = ['\n', 'ß'] ∧ text ++ more <+: s.remaining ∧
    ((s.commit text.length).inputs more.length).1 = [some '\n', some 'ß'] ∧
    ((s.commit text.length).inputs more.length).2 = s.commit (text ++ more).length ∧
    (s.commit (text ++ more).length).location = ⟨1, 0, 2, 1, some (0, 4)⟩ ∧
    t.matched.getLast? = some '\r' ∧ more <+: t.remaining ∧
    ((t.commit 0).inputs more.length).2 ≠ t.commit more.length := by
  refine ⟨_, _, _, _, rfl, rfl, rfl, rfl, by decide, ?_, ?_, rfl, rfl, by decide, ?_⟩
  · exact (inputs_commit_iff (by decide)).1
  · exact (inputs_commit_iff (by decide)).2.1.2 (by decide)
  · intro hsame
    exact (@inputs_commit_iff _ [] _ (by decide)).2.1.1 hsame (by decide)

end ScanState
end LexGen
