import LexGen.Proofs.ScanState.Cursor

/-!
# Matches that are made shorter

A match whose end is put back is the match that ends there: the state is the same in each of its
fields, whatever lines the match has (`less_took`). The one exception is an end between a carriage
return and the line feed after it. There the two parts have one break more than the match, and the
break is put back although what is kept still has it, so the line number is one less
(`line_less_took`).
-/

namespace LexGen

open Text (breaks)

attribute [ext] Location ScanState

namespace ScanState

/-- The state after a match of `text` that begins where `s` is, with `rest` after it. -/
def took (text rest : List Char) (s : ScanState) : ScanState :=
  { s with
    current := text
    remaining := rest
    offset := s.offset + text.length
    length := text.length
    line := s.line + breaks text
    location := {
      firstLine := s.location.lastLine
      firstColumn := s.location.lastColumn
      lastLine := s.line + breaks text + 1
      lastColumn := (if breaks text = 0 then s.location.lastColumn else 0) +
        ((Text.lines text).getLastD []).length
      range := if s.flags.ranges then some (s.offset, s.offset + text.length) else none }
    more := false
    rejected := false }

variable {s : ScanState} {text rest : List Char} {n : ℕ}

theorem commit_prepare (hmore : s.more = false) (hr : s.prepare.remaining = text ++ rest) :
    s.prepare.commit text.length = s.prepare.took text rest := by
  have hcurrent : s.prepare.current = [] := by rw [prepare_of_not_more hmore]
  have hlength : s.prepare.length = 0 := by rw [prepare_of_not_more hmore]
  have hcolumn : (if (Text.lines text).length = 1
      then s.prepare.location.lastColumn + text.length
      else ((Text.lines text).getLastD []).length) =
      (if breaks text = 0 then s.prepare.location.lastColumn else 0) +
        ((Text.lines text).getLastD []).length := by
    simp only [Text.length_lines_eq, Nat.add_eq_right]
    split_ifs with hbreaks
    · rw [Text.lines_of_breaks_eq_zero hbreaks]
      rfl
    · rw [Nat.zero_add]
  simp only [commit, took, hr, List.take_left, List.drop_left, hcurrent, hlength, hcolumn,
    List.nil_append, Nat.zero_add, Nat.add_sub_cancel, breaks]

theorem less_took (hcut : ¬((text.take n).getLast? = some '\r' ∧ (text.drop n).head? = some '\n')) :
    (s.took text rest).less n = s.took (text.take n) (text.drop n ++ rest) := by
  have hlength : text.length = (text.take n).length + (text.drop n).length := by
    rw [← List.length_append, List.take_append_drop]
  have hoffset : s.offset + text.length - (text.drop n).length =
      s.offset + (text.take n).length := by
    omega
  have hline : ((s.took text rest).less n).line = s.line + breaks (text.take n) := by
    have hbreaks := Text.breaks_append hcut
    rw [List.take_append_drop] at hbreaks
    show s.line + breaks text - breaks (text.drop n) = _
    omega
  have hrange : (if s.flags.ranges then some (s.offset, s.offset + text.length) else none).map
      (fun r => (r.1, max (r.2 - (text.drop n).length) r.1)) =
      if s.flags.ranges then some (s.offset, s.offset + (text.take n).length) else none := by
    split_ifs
    · rw [Option.map_some, hoffset, Nat.max_eq_left (Nat.le_add_right _ _)]
    · rfl
  have hcurrent := (s.took text rest).current_less n
  have hlocation : ((s.took text rest).less n).location =
      (s.took (text.take n) (text.drop n ++ rest)).location :=
    Location.ext rfl rfl (congrArg (· + 1) hline) (columnBefore_drop hcut) hrange
  exact ScanState.ext (before_less n _) hcurrent rfl hoffset (congrArg List.length hcurrent) hline
    hlocation rfl rfl rfl rfl rfl

/-- An end between a carriage return and its line feed puts the break back that is kept. -/
theorem line_less_took (hreturn : (text.take n).getLast? = some '\r')
    (hfeed : (text.drop n).head? = some '\n') :
    ((s.took text rest).less n).line + 1 = s.line + breaks (text.take n) := by
  have hbreaks := Text.breaks_append_of_seam hreturn hfeed
  rw [List.take_append_drop] at hbreaks
  obtain ⟨kept, hkept⟩ := List.getLast?_eq_some_iff.1 hreturn
  have hreturned := Text.breaks_concat_return kept
  rw [← hkept] at hreturned
  show s.line + breaks text - breaks (text.drop n) + 1 = _
  omega

/-- Keeping the first `n` characters of a match is the same as having matched only these, if and
only if the match is not cut within a line break. -/
theorem less_commit_iff (hmore : s.more = false) {text : List Char}
    (ht : text <+: s.prepare.remaining) (n : ℕ) :
    (s.prepare.commit text.length).less n = s.prepare.commit (text.take n).length ↔
      ¬((text.take n).getLast? = some '\r' ∧ (text.drop n).head? = some '\n') := by
  obtain ⟨rest, hr⟩ := ht
  have hsplit : s.prepare.remaining = text.take n ++ (text.drop n ++ rest) := by
    rw [← List.append_assoc, List.take_append_drop, hr]
  rw [commit_prepare hmore hr.symm, commit_prepare hmore hsplit]
  refine ⟨?_, less_took⟩
  rintro heq ⟨hreturn, hfeed⟩
  have hline : ((s.prepare.took text rest).less n).line + 1 =
      s.prepare.line + breaks (text.take n) := line_less_took hreturn hfeed
  rw [heq] at hline
  exact Nat.succ_ne_self _ hline

/-- Of the five characters of the match, four end after its line break and two within it. -/
theorem less_commit_iff_accents : ∃ (s : ScanState) (text : List Char),
    s = (ScanState.start { ranges := true } ['ß', '\n', 'é', '\r', '\n', 'ä', 'ö', '!']).commit 2 ∧
    s.more = false ∧ text = ['é', '\r', '\n', 'ä', 'ö'] ∧ text <+: s.prepare.remaining ∧
    (s.prepare.commit text.length).less 4 = s.prepare.commit (text.take 4).length ∧
    ((s.prepare.commit text.length).less 4).location =
      ⟨2, 0, 3, 1, some (2, 6)⟩ ∧
    (s.prepare.commit text.length).less 2 ≠ s.prepare.commit (text.take 2).length := by
  refine ⟨_, _, rfl, rfl, rfl, by decide, (less_commit_iff rfl (by decide) 4).2 (by decide), ?_, ?_⟩
  · decide
  · intro heq
    exact (less_commit_iff rfl (by decide) 2).1 heq (by decide)

end ScanState
end LexGen
