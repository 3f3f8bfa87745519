import LexGen.Proofs.ScanState.Texts
import LexGen.Proofs.Text.Lines

/-!
# The cursor

The line number is the number of line breaks that have been taken (`Lined`), and the location ends
where the text that has been taken ends (`Aligned`). Matching keeps both. Text that is put back
where it was taken from keeps the first (`Lined.unput`). The second it keeps if and only if what it
leaves of the match has a line break or begins where the location begins (`lastColumn_unput_iff`),
since the column is counted from there.
-/

namespace LexGen

open Text (Unpaired column isBreak)

namespace ScanState

/-- The input is the given one, and the line number is that of the breaks that have been taken. -/
structure Lined (source : List Char) (s : ScanState) : Prop where
  whole_eq : s.whole = source
  line_eq : s.line = s.matched.countP isBreak

/-- Besides, the location ends where what has been taken ends. -/
structure Aligned (source : List Char) (s : ScanState) : Prop extends Lined source s where
  lastColumn_eq : s.location.lastColumn = column s.matched

/-- The match has a line break, or the location begins where the match begins. -/
def Anchored (s : ScanState) : Prop :=
  s.current.countP isBreak = 0 → s.location.firstColumn = column s.before

instance (s : ScanState) : Decidable s.Anchored := inferInstanceAs (Decidable (_ → _))

/-! ## Columns of what is left -/

/-- Where a match ends whose end is put back is told by the last line of what is left of it. -/
theorem columnBefore_drop {s : ScanState} {n : Nat}
    (h : ¬((s.current.take n).getLast? = some '\r' ∧ (s.current.drop n).head? = some '\n')) :
    s.columnBefore (s.current.drop n) =
      (if Text.breaks (s.current.take n) = 0 then s.location.firstColumn else 0) +
        ((Text.lines (s.current.take n)).getLastD []).length := by
  have hlines : Text.lines s.current =
      Text.joinLines (Text.lines (s.current.take n)) (Text.lines (s.current.drop n)) := by
    rw [← Text.lines_append h, List.take_append_drop]
  have hlen := Text.length_joinLines (Text.lines_ne_nil (s.current.take n))
    (Text.lines_ne_nil (s.current.drop n))
  have hleft := Text.length_lines_eq (s.current.take n)
  have hindex : (Text.lines s.current).length - (Text.lines (s.current.drop n)).length =
      (Text.lines (s.current.take n)).length - 1 := by
    rw [hlines]
    omega
  -- the last line of what is kept is the beginning of the line at the cut
  rw [columnBefore, if_pos (by rw [hlines]; omega), hindex, hlines, Text.getD_joinLines,
    List.length_append, Nat.add_sub_cancel]
  congr 2
  exact propext (by omega)

theorem columnBefore_drop_of_unpaired {s : ScanState} (h : Unpaired s.current) (n : Nat) :
    s.columnBefore (s.current.drop n) =
      if (s.current.take n).countP isBreak = 0
      then s.location.firstColumn + (s.current.take n).length
      else column (s.current.take n) := by
  have hleft : Unpaired (s.current.take n) := h.mono (List.take_prefix n _).isInfix
  rw [columnBefore_drop (Unpaired.seam (by rwa [List.take_append_drop])),
    Text.length_getLast_lines hleft, Text.breaks_eq_countP hleft]
  split_ifs with hzero
  · have hcolumn := Text.column_append [] (s.current.take n)
    rw [if_pos hzero, List.nil_append] at hcolumn
    rw [hcolumn]
    exact congrArg _ (Nat.zero_add _)
  · rw [Nat.zero_add]

/-- Text that goes back beyond the match leaves nothing after the beginning of the location. -/
theorem columnBefore_append {s : ScanState} {text : List Char} (h : Unpaired (text ++ s.current)) :
    s.columnBefore (text ++ s.current) = s.location.firstColumn := by
  have hlines := Text.lines_append h.seam
  have hlen := Text.length_joinLines (Text.lines_ne_nil text) (Text.lines_ne_nil s.current)
  rw [← hlines] at hlen
  rw [columnBefore]
  split_ifs with hle heq
  · -- the first line of the text ends with that of the match
    obtain ⟨line, hline⟩ : ∃ line, Text.lines text = [line] :=
      List.length_eq_one_iff.1 (by omega)
    rcases hold : Text.lines s.current with _ | ⟨first, rest⟩
    · exact absurd hold (Text.lines_ne_nil _)
    have hhead :
        ((Text.lines (text ++ s.current)).headD []).length = line.length + first.length := by
      rw [hlines, hline, hold]
      exact List.length_append
    rw [hold] at heq
    rw [hhead, heq, Nat.sub_self, List.getD_cons_zero]
    omega
  · have hpos := List.length_pos_iff.2 (Text.lines_ne_nil text)
    omega
  · rfl

/-- Where the match ends after its end has been put back is told by what is left of it. -/
theorem columnBefore_of_suffix {s : ScanState} {text : List Char} (h : Unpaired s.matched)
    (ht : text <:+ s.matched) : s.columnBefore text =
      if (s.unput text).current.countP isBreak = 0
      then s.location.firstColumn + (s.unput text).current.length
      else column (s.unput text).current := by
  have hcurrent : s.current <:+ s.matched := List.suffix_append _ _
  rcases List.suffix_or_suffix_of_suffix ht hcurrent with hin | ⟨front, rfl⟩
  · have hdrop := columnBefore_drop_of_unpaired (h.mono hcurrent.isInfix) (s.current.length - text.length)
    rwa [← List.suffix_iff_eq_drop.1 hin, ← current_unput] at hdrop
  · have hnil : (s.unput (front ++ s.current)).current = [] := by
      rw [current_unput, List.length_append, Nat.sub_eq_zero_of_le (Nat.le_add_left _ _),
        List.take_zero]
    rw [columnBefore_append (h.mono ht.isInfix), hnil]
    rfl

/-- Whether the location still ends where the text that has been taken ends. -/
theorem lastColumn_unput_iff {s : ScanState} {text : List Char} (h : Unpaired s.matched)
    (ht : text <:+ s.matched) :
    (s.unput text).location.lastColumn = column (s.unput text).matched ↔
      (s.unput text).Anchored := by
  have hcolumn : (s.unput text).location.lastColumn = _ := columnBefore_of_suffix h ht
  have hfirst : (s.unput text).location.firstColumn = s.location.firstColumn := rfl
  rw [hcolumn, matched, Text.column_append, Anchored, hfirst]
  split_ifs with hbreak
  · rw [Nat.add_right_cancel_iff]
    exact ⟨fun heq _ => heq, fun heq => heq hbreak⟩
  · exact ⟨fun _ hzero => absurd hzero hbreak, fun _ => rfl⟩

/-! ## Changes -/

namespace Lined

variable {source : List Char} {s t : ScanState}

theorem start (flags : ScanFlags) (input : List Char) : Lined input (.start flags input) :=
  ⟨rfl, rfl⟩

theorem unpaired_matched (h : Lined source s) (hin : Unpaired source) : Unpaired s.matched := by
  rw [← h.whole_eq] at hin
  exact hin.mono (List.prefix_append _ _).isInfix

theorem of_samePlace (h : Lined source s) (hst : SamePlace s t) : Lined source t where
  whole_eq := hst.whole_eq.trans h.whole_eq
  line_eq := by rw [hst.line_eq, hst.matched_eq, h.line_eq]

theorem unpaired_take (h : Lined source s) (hin : Unpaired source) (n : ℕ) :
    Unpaired (s.remaining.take n) := by
  rw [← h.whole_eq] at hin
  exact hin.mono ((List.take_prefix n _).isInfix.trans (List.suffix_append s.matched _).isInfix)

theorem commit (h : Lined source s) (hin : Unpaired source) (n : ℕ) :
    Lined source (s.commit n) where
  whole_eq := by rw [whole_commit, h.whole_eq]
  line_eq := by
    have hlines := Text.length_lines (h.unpaired_take hin n)
    rw [matched_commit, List.countP_append, ← h.line_eq]
    show s.line + ((Text.lines (s.remaining.take n)).length - 1) = _
    omega

/-- A line feed that is taken alone does not go on with a line break. -/
theorem not_goesOn (h : Lined source s) (hin : Unpaired source) {c : Char} {rest : List Char}
    (hr : s.remaining = c :: rest) : ¬(c = '\n' ∧ s.matched.getLast? = some '\r') := by
  rw [← h.whole_eq, whole, hr] at hin
  rintro ⟨rfl, hlast⟩
  exact hin.seam ⟨hlast, rfl⟩

theorem input (h : Lined source s) (hin : Unpaired source) : Lined source s.input.2 := by
  rcases hr : s.remaining with _ | ⟨c, rest⟩
  · rw [input_of_nil hr]
    exact h
  refine ⟨by rw [whole_input, h.whole_eq], ?_⟩
  have hnext := h.not_goesOn hin hr
  rw [matched_input hr, List.countP_append, ← h.line_eq, List.countP_singleton, line_input hr]
  by_cases hb : c = '\n' ∨ c = '\r'
  · rw [if_pos ⟨hb, hnext⟩, if_pos (Text.isBreak_iff.2 hb)]
  · rw [if_neg (mt And.left hb), if_neg (mt Text.isBreak_iff.1 hb), Nat.add_zero]

theorem unput (h : Lined source s) (hin : Unpaired source) {text : List Char}
    (ht : text <:+ s.matched) : Lined source (s.unput text) where
  whole_eq := by rw [whole_unput ht, h.whole_eq]
  line_eq := by
    have hcount : s.line =
        (s.unput text).matched.countP isBreak + text.countP isBreak := by
      rw [← List.countP_append, matched_unput_append ht, h.line_eq]
    show s.line - (Text.lines text).length.pred = _
    rw [Text.length_lines ((h.unpaired_matched hin).mono ht.isInfix), hcount, Nat.pred_succ,
      Nat.add_sub_cancel]

end Lined

namespace Aligned

variable {source : List Char} {s t : ScanState}

theorem start (flags : ScanFlags) (input : List Char) : Aligned input (.start flags input) :=
  ⟨.start flags input, rfl⟩

theorem of_samePlace (h : Aligned source s) (hst : SamePlace s t) : Aligned source t where
  toLined := h.toLined.of_samePlace hst
  lastColumn_eq := by rw [hst.location_eq, hst.matched_eq, h.lastColumn_eq]

theorem commit (h : Aligned source s) (hin : Unpaired source) (n : ℕ) :
    Aligned source (s.commit n) where
  toLined := h.toLined.commit hin n
  lastColumn_eq := by
    have htext := h.unpaired_take hin n
    rw [matched_commit, Text.column_append, ← h.lastColumn_eq]
    show (if (Text.lines (s.remaining.take n)).length = 1 then _ else _) = _
    rw [Text.length_getLast_lines htext, Text.length_lines htext]
    simp only [Nat.add_eq_right]

theorem input (h : Aligned source s) (hin : Unpaired source) : Aligned source s.input.2 := by
  refine ⟨h.toLined.input hin, ?_⟩
  rcases hr : s.remaining with _ | ⟨c, rest⟩
  · rw [input_of_nil hr]
    exact h.lastColumn_eq
  rw [matched_input hr, Text.column_append, ← h.lastColumn_eq, Text.column_singleton,
    List.countP_singleton, lastColumn_input hr]
  by_cases hb : c = '\n' ∨ c = '\r'
  · simp only [if_pos hb, if_pos (Text.isBreak_iff.2 hb), Nat.one_ne_zero, if_false]
  · simp only [if_neg hb, if_neg (mt Text.isBreak_iff.1 hb), if_true, List.length_singleton]

/-- Where the location ended before does not matter. -/
theorem unput (h : Lined source s) (hin : Unpaired source) {text : List Char}
    (ht : text <:+ s.matched) (hanchored : (s.unput text).Anchored) :
    Aligned source (s.unput text) :=
  ⟨h.unput hin ht, (lastColumn_unput_iff (h.unpaired_matched hin) ht).2 hanchored⟩

end Aligned
end ScanState
end LexGen
