import LexGen.ScanState.Basic
import Mathlib.Tactic.SplitIfs

/-!
# What operations do to the texts

Getting ready for a match changes neither what has been taken nor what remains. A match moves
characters from what remains to the current match, `input` moves one, and what is put back where it
was taken from moves back (`whole_unput`). None of these changes the input as a whole. Other changes
leave the place as it is (`SamePlace`).
-/

namespace LexGen.ScanState

/-! ## Before and after a match -/

@[simp] theorem matched_prepare (s : ScanState) : s.prepare.matched = s.matched := by
  unfold prepare
  split_ifs
  · rfl
  · exact List.append_nil _

@[simp] theorem remaining_prepare (s : ScanState) : s.prepare.remaining = s.remaining := by
  unfold prepare
  split_ifs <;> rfl

theorem matched_prepared (s : ScanState) : s.checkEnd.prepare.matched = s.matched := by
  rw [matched_prepare]
  unfold checkEnd
  split_ifs <;> rfl

theorem remaining_prepared (s : ScanState) : s.checkEnd.prepare.remaining = s.remaining := by
  rw [remaining_prepare]
  unfold checkEnd
  split_ifs <;> rfl

theorem prepare_of_not_more {s : ScanState} (h : s.more = false) :
    s.prepare = { s with before := s.matched, current := [], length := 0 } := by
  rw [prepare, h]
  rfl

@[simp] theorem more_checkEnd (s : ScanState) : s.checkEnd.more = s.more := by
  unfold checkEnd
  split_ifs <;> rfl

theorem prepared_of_not_more {s : ScanState} (h : s.more = false) :
    s.checkEnd.prepare = { s.checkEnd with before := s.matched, current := [], length := 0 } := by
  rw [prepare_of_not_more (s.more_checkEnd.trans h)]
  unfold checkEnd
  split_ifs <;> rfl

@[simp] theorem matched_commit (n : Nat) (s : ScanState) :
    (s.commit n).matched = s.matched ++ s.remaining.take n := by
  show s.before ++ (s.current ++ s.remaining.take n) = _
  rw [matched, List.append_assoc]

@[simp] theorem whole_commit (n : Nat) (s : ScanState) : (s.commit n).whole = s.whole := by
  rw [whole, matched_commit, List.append_assoc, whole]
  exact congrArg (s.matched ++ ·) (List.take_append_drop n _)

theorem line_commit (n : Nat) (s : ScanState) :
    (s.commit n).line = s.line + Text.breaks (s.remaining.take n) := rfl

/-! ## The same place -/

/-- The texts, the line and the location are the same. -/
structure SamePlace (s t : ScanState) : Prop where
  matched_eq : t.matched = s.matched
  remaining_eq : t.remaining = s.remaining
  line_eq : t.line = s.line
  location_eq : t.location = s.location

theorem SamePlace.refl (s : ScanState) : SamePlace s s := ⟨rfl, rfl, rfl, rfl⟩

theorem SamePlace.whole_eq {s t : ScanState} (h : SamePlace s t) : t.whole = s.whole := by
  rw [whole, h.matched_eq, h.remaining_eq, whole]

theorem samePlace_prepared (s : ScanState) : SamePlace s s.checkEnd.prepare := by
  refine ⟨s.matched_prepared, s.remaining_prepared, ?_, ?_⟩
  · unfold prepare checkEnd
    split_ifs <;> rfl
  · unfold prepare checkEnd
    split_ifs <;> rfl

theorem samePlace_checkResumed (s : ScanState) : SamePlace s s.checkResumed := by
  unfold checkResumed
  split_ifs
  · exact ⟨rfl, rfl, rfl, rfl⟩
  · exact .refl s

/-! ## Single characters -/

theorem input_of_nil {s : ScanState} (h : s.remaining = []) : s.input.2 = s := by
  rw [input, h]

section Input

variable {s : ScanState} {c : Char} {rest : List Char} (h : s.remaining = c :: rest)

include h

theorem matched_input : s.input.2.matched = s.matched ++ [c] := by
  rw [input, h]
  show s.before ++ (s.current ++ [c]) = _
  rw [matched, List.append_assoc]

theorem remaining_input : s.input.2.remaining = rest := by
  rw [input, h]

theorem current_input : s.input.2.current = s.current ++ [c] := by
  rw [input, h]

theorem offset_input : s.input.2.offset = s.offset + 1 := by
  rw [input, h]

theorem length_input : s.input.2.length = s.length + 1 := by
  rw [input, h]

theorem range_input :
    s.input.2.location.range = s.location.range.map fun r => (r.1, r.2 + 1) := by
  rw [input, h]

theorem line_input : s.input.2.line =
    if (c = '\n' ∨ c = '\r') ∧ ¬(c = '\n' ∧ s.matched.getLast? = some '\r') then s.line + 1
    else s.line := by
  rw [input, h]

theorem lastColumn_input : s.input.2.location.lastColumn =
    if c = '\n' ∨ c = '\r' then 0 else s.location.lastColumn + 1 := by
  rw [input, h]

end Input

@[simp] theorem before_input (s : ScanState) : s.input.2.before = s.before := by
  rcases h : s.remaining with _ | ⟨c, rest⟩ <;> rw [input, h]

@[simp] theorem more_input (s : ScanState) : s.input.2.more = s.more := by
  rcases h : s.remaining with _ | ⟨c, rest⟩ <;> rw [input, h]

theorem firstLine_input (s : ScanState) :
    s.input.2.location.firstLine = s.location.firstLine := by
  rcases h : s.remaining with _ | ⟨c, rest⟩ <;> rw [input, h]

theorem firstColumn_input (s : ScanState) :
    s.input.2.location.firstColumn = s.location.firstColumn := by
  rcases h : s.remaining with _ | ⟨c, rest⟩ <;> rw [input, h]

theorem lastLine_input {s : ScanState} (hlast : s.location.lastLine = s.line + 1) :
    s.input.2.location.lastLine = s.input.2.line + 1 := by
  rcases h : s.remaining with _ | ⟨c, rest⟩
  · rwa [input_of_nil h]
  · rw [input, h]
    by_cases hb : c = '\n' ∨ c = '\r'
    · simp only [hb, if_true]
    · simp only [hb, false_and, if_false]
      exact hlast

@[simp] theorem whole_input (s : ScanState) : s.input.2.whole = s.whole := by
  rcases h : s.remaining with _ | ⟨c, rest⟩
  · rw [input_of_nil h]
  · rw [whole, matched_input h, remaining_input h, whole, h, List.append_assoc,
      List.singleton_append]

/-! ## Text put back -/

theorem matched_unput (text : List Char) (s : ScanState) :
    (s.unput text).matched = s.matched.take (s.matched.length - text.length) := by
  show s.before.take _ ++ s.current.take (_ - s.before.length) = _
  rw [← List.take_append, matched]

theorem matched_unput_append {s : ScanState} {text : List Char} (h : text <:+ s.matched) :
    (s.unput text).matched ++ text = s.matched := by
  rw [matched_unput]
  exact List.suffix_iff_eq_append.1 h

theorem whole_unput {s : ScanState} {text : List Char} (h : text <:+ s.matched) :
    (s.unput text).whole = s.whole := by
  show (s.unput text).matched ++ (text ++ s.remaining) = _
  rw [← List.append_assoc, matched_unput_append h, whole]

/-- Text that is no longer than the match is put back from the match. -/
theorem before_unput {s : ScanState} {text : List Char} (h : text.length ≤ s.current.length) :
    (s.unput text).before = s.before := by
  refine List.take_of_length_le ?_
  rw [matched, List.length_append]
  omega

theorem current_unput {s : ScanState} {text : List Char} :
    (s.unput text).current = s.current.take (s.current.length - text.length) := by
  show s.current.take (s.matched.length - text.length - s.before.length) = _
  rw [matched, List.length_append]
  congr 1
  omega

/-! ## The end of the match -/

@[simp] theorem before_less (n : Nat) (s : ScanState) : (s.less n).before = s.before :=
  before_unput (List.drop_suffix n _).length_le

@[simp] theorem current_less (n : Nat) (s : ScanState) :
    (s.less n).current = s.current.take n := by
  rw [less, current_unput, List.length_drop, List.take_eq_take_iff]
  omega

end LexGen.ScanState
