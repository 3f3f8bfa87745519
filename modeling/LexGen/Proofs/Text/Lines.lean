import LexGen.Text.Lines
import Mathlib.Data.List.GetD
import Mathlib.Data.List.Infix
import Mathlib.Data.List.TakeWhile
import Mathlib.Tactic.SplitIfs

/-!
# Lines of a text in parts

Where a text is cut in two, the line at the cut is the last one of the first part with the first one
of the second part (`lines_append`), unless the cut goes through a line break. So the breaks of the
parts add up to those of the text, or are one more (`breaks_append_of_seam`), and columns are
counted on from one part to the next (`columnAfter_append`).

In a text without line breaks of two characters the breaks can be counted one by one
(`length_lines`), and the place in the last line is the number of characters after the last break
(`length_getLast_lines`).
-/

namespace LexGen.Text

theorem lines_ne_nil (cs : List Char) : lines cs ≠ [] := by
  fun_induction lines cs <;> simp

/-- The line breaks are taken one by one, unless the text begins with one of two characters. -/
theorem lines_cons {c : Char} {cs : List Char} (h : ¬(c = '\r' ∧ cs.head? = some '\n')) :
    lines (c :: cs) = if c = '\n' ∨ c = '\r' then [] :: lines cs
      else (c :: (lines cs).headD []) :: (lines cs).tail := by
  rw [lines]
  · split_ifs
    · rfl
    · rcases hl : lines cs with _ | ⟨l, ls⟩
      · exact absurd hl (lines_ne_nil cs)
      · rfl
  · rintro ds rfl rfl
    exact h ⟨rfl, rfl⟩

/-- Lines that are joined: the last one goes on with the first one of the others. -/
def joinLines (u v : List (List Char)) : List (List Char) :=
  u.dropLast ++ (u.getLastD [] ++ v.headD []) :: v.tail

theorem joinLines_cons {u : List (List Char)} (hu : u ≠ []) (l : List Char)
    (v : List (List Char)) : joinLines (l :: u) v = l :: joinLines u v := by
  rcases u with _ | ⟨m, u⟩
  · exact absurd rfl hu
  · rfl

theorem joinLines_singleton_cons (c : Char) (l : List Char) (u v : List (List Char)) :
    joinLines ((c :: l) :: u) v =
      (c :: (joinLines (l :: u) v).headD []) :: (joinLines (l :: u) v).tail := by
  rcases u with _ | ⟨m, u⟩ <;> rfl

theorem joinLines_nil_cons {u : List (List Char)} (hu : u ≠ []) (v : List (List Char)) :
    joinLines u ([] :: v) = u ++ v := by
  rw [joinLines, List.headD_cons, List.append_nil, List.tail_cons, List.getLastD_eq_getLast?,
    List.getLast?_eq_some_getLast hu, Option.getD_some, List.append_cons,
    List.dropLast_append_getLast hu]

theorem length_joinLines {u v : List (List Char)} (hu : u ≠ []) (hv : v ≠ []) :
    (joinLines u v).length + 1 = u.length + v.length := by
  have hu' := List.length_pos_iff.2 hu
  have hv' := List.length_pos_iff.2 hv
  rw [joinLines, List.length_append, List.length_dropLast, List.length_cons, List.length_tail]
  omega

/-- The line at the cut. -/
theorem getD_joinLines (u v : List (List Char)) :
    (joinLines u v).getD (u.length - 1) [] = u.getLastD [] ++ v.headD [] := by
  rw [joinLines, List.getD_append_right _ _ _ _ List.length_dropLast.le, List.length_dropLast,
    Nat.sub_self, List.getD_cons_zero]

theorem seam_of_cons {c : Char} {a b : List Char}
    (h : ¬((c :: a).getLast? = some '\r' ∧ b.head? = some '\n')) :
    ¬(a.getLast? = some '\r' ∧ b.head? = some '\n') := by
  rintro ⟨ha, hb⟩
  refine h ⟨?_, hb⟩
  rw [List.getLast?_cons, ha, Option.getD_some]

theorem lines_append {a b : List Char} (h : ¬(a.getLast? = some '\r' ∧ b.head? = some '\n')) :
    lines (a ++ b) = joinLines (lines a) (lines b) := by
  -- a line feed at the head of `b` does not complete a carriage return that ends `c :: cs`
  have hcut {c : Char} {cs : List Char} (hne : ∀ ds, c = '\r' → cs = '\n' :: ds → False)
      (h : ¬((c :: cs).getLast? = some '\r' ∧ b.head? = some '\n')) :
      ¬(c = '\r' ∧ (cs ++ b).head? = some '\n') := by
    rintro ⟨rfl, hb⟩
    rcases cs with _ | ⟨d, ds⟩
    · exact h ⟨rfl, hb⟩
    · simp only [List.cons_append, List.head?_cons, Option.some.injEq] at hb
      exact hne ds rfl (hb ▸ rfl)
  fun_induction lines a with
  | case1 =>
    rcases hb : lines b with _ | ⟨l, ls⟩
    · exact absurd hb (lines_ne_nil b)
    · rw [List.nil_append, hb]
      rfl
  | case2 cs ih =>
    rw [List.cons_append, List.cons_append, lines, ih (seam_of_cons (seam_of_cons h)),
      joinLines_cons (lines_ne_nil cs)]
  | case3 c cs hne hbreak ih =>
    rw [List.cons_append, lines_cons (hcut hne h), if_pos hbreak, ih (seam_of_cons h),
      joinLines_cons (lines_ne_nil cs)]
  | case4 c cs hne hbreak l ls hl ih =>
    rw [List.cons_append, lines_cons (hcut hne h), if_neg hbreak, ih (seam_of_cons h), hl,
      joinLines_singleton_cons]
  | case5 c cs hne hbreak hl ih => exact absurd hl (lines_ne_nil cs)

/-! ## Counting breaks -/

theorem length_lines_eq (cs : List Char) : (lines cs).length = breaks cs + 1 := by
  have hpos := List.length_pos_iff.2 (lines_ne_nil cs)
  rw [breaks]
  omega

theorem lines_of_breaks_eq_zero {cs : List Char} (h : breaks cs = 0) : lines cs = [cs] := by
  have hone : (lines cs).length = 1 := by rw [length_lines_eq, h]
  clear h
  fun_induction lines cs with
  | case1 => rfl
  | case2 cs ih | case3 c cs hne hbreak ih =>
    simp [lines_ne_nil] at hone
  | case4 c cs hne hbreak l ls hl ih =>
    obtain rfl : ls = [] := by simpa using hone
    obtain rfl : l = cs := by simpa using hl.symm.trans (ih (by rw [hl]; rfl))
    rfl
  | case5 c cs hne hbreak hl ih => exact absurd hl (lines_ne_nil cs)

theorem breaks_append {a b : List Char} (h : ¬(a.getLast? = some '\r' ∧ b.head? = some '\n')) :
    breaks (a ++ b) = breaks a + breaks b := by
  have hlen := length_joinLines (lines_ne_nil a) (lines_ne_nil b)
  rw [← lines_append h, length_lines_eq, length_lines_eq, length_lines_eq] at hlen
  omega

theorem breaks_concat_return (cs : List Char) : breaks (cs ++ ['\r']) = breaks cs + 1 :=
  breaks_append (by simp)

/-- A cut through a break makes two of it. -/
theorem breaks_append_of_seam {a b : List Char} (ha : a.getLast? = some '\r')
    (hb : b.head? = some '\n') : breaks (a ++ b) + 1 = breaks a + breaks b := by
  obtain ⟨l, rfl⟩ := List.getLast?_eq_some_iff.1 ha
  obtain ⟨r, rfl⟩ := List.head?_eq_some_iff.1 hb
  have hright : breaks ('\n' :: r) = breaks r + 1 := length_lines_eq r
  have hwhole : breaks (l ++ '\r' :: '\n' :: r) = breaks l + (breaks r + 1) := by
    rw [breaks_append (by simp)]
    exact congrArg _ (length_lines_eq r)
  rw [List.append_assoc, List.singleton_append, hwhole, breaks_concat_return, hright]
  omega

theorem breaks_append_le (a b : List Char) : breaks (a ++ b) ≤ breaks a + breaks b := by
  by_cases h : a.getLast? = some '\r' ∧ b.head? = some '\n'
  · have hseam := breaks_append_of_seam h.1 h.2
    omega
  · exact (breaks_append h).le

/-! ## Columns -/

/-- The column after a text that begins at column `n`. -/
def columnAfter (n : ℕ) (text : List Char) : ℕ :=
  if (lines text).length = 1 then n + text.length else ((lines text).getLastD []).length

theorem columnAfter_of_breaks_eq_zero {text : List Char} (h : breaks text = 0) (n : ℕ) :
    columnAfter n text = n + text.length := by
  rw [columnAfter, if_pos (by rw [length_lines_eq, h])]

theorem columnAfter_of_breaks_ne_zero {text : List Char} (h : breaks text ≠ 0) (n : ℕ) :
    columnAfter n text = ((lines text).getLastD []).length := by
  rw [columnAfter, if_neg (by rw [length_lines_eq]; omega)]

/-- The line after a break stays the last one. -/
theorem getLastD_joinLines (u : List (List Char)) (l m : List Char) (v : List (List Char)) :
    (joinLines u (l :: m :: v)).getLastD [] = (l :: m :: v).getLastD [] := by
  simp only [joinLines, List.tail_cons, List.getLastD_eq_getLast?, List.getLast?_append,
    List.getLast?_cons, Option.some_or, Option.getD_some]

/-- Columns are counted on from one part of a text to the next. -/
theorem columnAfter_append {a b : List Char}
    (h : ¬(a.getLast? = some '\r' ∧ b.head? = some '\n')) (n : ℕ) :
    columnAfter n (a ++ b) = columnAfter (columnAfter n a) b := by
  have hbreaks := breaks_append h
  by_cases hb : breaks b = 0
  · rw [columnAfter_of_breaks_eq_zero hb]
    by_cases ha : breaks a = 0
    · rw [columnAfter_of_breaks_eq_zero ha, columnAfter_of_breaks_eq_zero (by omega),
        List.length_append, Nat.add_assoc]
    · have hlast : (lines (a ++ b)).getLastD [] = (lines a).getLastD [] ++ b := by
        rw [lines_append h, lines_of_breaks_eq_zero hb, joinLines]
        simp
      rw [columnAfter_of_breaks_ne_zero ha, columnAfter_of_breaks_ne_zero (by omega), hlast,
        List.length_append]
  · rw [columnAfter_of_breaks_ne_zero hb, columnAfter_of_breaks_ne_zero (by omega), lines_append h]
    have hlen := length_lines_eq b
    rcases hl : lines b with _ | ⟨l, _ | ⟨m, v⟩⟩
    · exact absurd hl (lines_ne_nil b)
    · rw [hl, List.length_singleton] at hlen
      omega
    · rw [getLastD_joinLines]

/-! ## Breaks of one character -/

/-- Whether a character breaks a line. -/
def isBreak (c : Char) : Bool := c = '\n' || c = '\r'

theorem isBreak_iff {c : Char} : isBreak c = true ↔ c = '\n' ∨ c = '\r' := by
  rw [isBreak, Bool.or_eq_true, decide_eq_true_eq, decide_eq_true_eq]

/-- The number of characters after the last line break. -/
def column (cs : List Char) : Nat := (cs.reverse.takeWhile fun c => !isBreak c).length

theorem column_singleton (c : Char) : column [c] = if isBreak c then 0 else 1 := by
  rcases hc : isBreak c with _ | _ <;> simp [column, hc]

theorem column_append (a b : List Char) :
    column (a ++ b) = if b.countP isBreak = 0 then column a + b.length else column b := by
  have hall : b.countP isBreak = 0 ↔
      (b.reverse.takeWhile fun c => !isBreak c).length = b.reverse.length := by
    have hself : b.countP isBreak = 0 ↔
        (b.reverse.takeWhile fun c => !isBreak c) = b.reverse := by
      simp [List.takeWhile_eq_self_iff]
    rw [hself]
    exact ⟨congrArg List.length, (List.takeWhile_prefix _).eq_of_length⟩
  rw [column, List.reverse_append, List.takeWhile_append]
  split_ifs with h1 h2 h2
  · rw [List.length_append, List.length_reverse, Nat.add_comm]
    rfl
  · exact absurd (hall.2 h1) h2
  · exact absurd (hall.1 h2) h1
  · rfl

/-- No line break has two characters. -/
def Unpaired (cs : List Char) : Prop := ¬['\r', '\n'] <:+: cs

namespace Unpaired

theorem mono {a b : List Char} (h : Unpaired b) (hab : a <:+: b) : Unpaired a :=
  fun ha => h (ha.trans hab)

theorem seam {a b : List Char} (h : Unpaired (a ++ b)) :
    ¬(a.getLast? = some '\r' ∧ b.head? = some '\n') := by
  rintro ⟨ha, hb⟩
  obtain ⟨l, rfl⟩ := List.getLast?_eq_some_iff.1 ha
  obtain ⟨r, rfl⟩ := List.head?_eq_some_iff.1 hb
  exact h ⟨l, r, by simp⟩

theorem tail {c : Char} {cs : List Char} (h : Unpaired (c :: cs)) : Unpaired cs :=
  h.mono (List.suffix_cons c cs).isInfix

theorem lines_cons {c : Char} {cs : List Char} (h : Unpaired (c :: cs)) :
    lines (c :: cs) = if isBreak c then [] :: lines cs
      else (c :: (lines cs).headD []) :: (lines cs).tail := by
  have hseam : ¬(c = '\r' ∧ cs.head? = some '\n') :=
    fun hc => seam (a := [c]) h ⟨congrArg some hc.1, hc.2⟩
  simp only [Text.lines_cons hseam, isBreak_iff]

end Unpaired

theorem length_lines : ∀ {cs : List Char}, Unpaired cs →
    (lines cs).length = cs.countP isBreak + 1
  | [], _ => rfl
  | c :: cs, h => by
    have ih : (lines cs).length = cs.countP isBreak + 1 := length_lines h.tail
    rw [h.lines_cons, List.countP_cons]
    split_ifs
    · rw [List.length_cons, ih]
    · rw [List.length_cons, List.length_tail, ih]
      omega

theorem breaks_eq_countP {cs : List Char} (h : Unpaired cs) : breaks cs = cs.countP isBreak := by
  have hlen := length_lines h
  rw [length_lines_eq] at hlen
  omega

theorem breaks_singleton (c : Char) : breaks [c] = if isBreak c then 1 else 0 := by
  rw [breaks_eq_countP, List.countP_singleton]
  intro h
  simpa using h.length_le

/-- One character more is one break more, unless it completes a break. -/
theorem breaks_concat (cs : List Char) (c : Char) : breaks (cs ++ [c]) =
    if isBreak c ∧ ¬(c = '\n' ∧ cs.getLast? = some '\r') then breaks cs + 1 else breaks cs := by
  by_cases hseam : cs.getLast? = some '\r' ∧ c = '\n'
  · obtain ⟨hlast, rfl⟩ := hseam
    have hbreaks := breaks_append_of_seam hlast (b := ['\n']) rfl
    rw [breaks_singleton, if_pos (isBreak_iff.2 (.inl rfl))] at hbreaks
    rw [if_neg fun h => h.2 ⟨rfl, hlast⟩]
    omega
  · have hbreaks : breaks (cs ++ [c]) = breaks cs + breaks [c] :=
      breaks_append (by simpa using hseam)
    have hgoes : ¬(c = '\n' ∧ cs.getLast? = some '\r') := fun h => hseam h.symm
    simp only [hbreaks, breaks_singleton, hgoes, not_false_eq_true, and_true]
    split_ifs <;> rfl

theorem columnAfter_singleton (n : ℕ) (c : Char) :
    columnAfter n [c] = if isBreak c then 0 else n + 1 := by
  have hlines : lines [c] = if isBreak c then [[], []] else [[c]] := by
    rw [lines_cons (by simp)]
    simp only [isBreak_iff]
    rfl
  rw [columnAfter, hlines]
  cases isBreak c <;> rfl

/-- After a break the column is zero, also where the break has two characters. -/
theorem columnAfter_concat (n : ℕ) (cs : List Char) (c : Char) :
    columnAfter n (cs ++ [c]) = if isBreak c then 0 else columnAfter n cs + 1 := by
  by_cases hseam : cs.getLast? = some '\r' ∧ c = '\n'
  · obtain ⟨hlast, rfl⟩ := hseam
    obtain ⟨front, rfl⟩ := List.getLast?_eq_some_iff.1 hlast
    have hbreak : columnAfter (columnAfter n front) ['\r', '\n'] = 0 := rfl
    rw [List.append_assoc, List.singleton_append, columnAfter_append (by simp), hbreak,
      if_pos (isBreak_iff.2 (.inl rfl))]
  · rw [columnAfter_append (by simpa using hseam), columnAfter_singleton]

theorem breaks_le_countP : ∀ cs : List Char, breaks cs ≤ cs.countP isBreak
  | [] => le_rfl
  | c :: cs => by
    have ih := breaks_le_countP cs
    have hcons := breaks_append_le [c] cs
    rw [breaks_singleton, List.singleton_append] at hcons
    rw [List.countP_cons]
    omega

theorem length_getLast_lines : ∀ {cs : List Char}, Unpaired cs →
    ((lines cs).getLastD []).length = column cs
  | [], _ => rfl
  | c :: cs, h => by
    have ih : ((lines cs).getLastD []).length = column cs := length_getLast_lines h.tail
    have hlen := length_lines h.tail
    have hnil : column cs = if cs.countP isBreak = 0 then 0 + cs.length else column cs :=
      column_append [] cs
    have hcons : column (c :: cs) =
        if cs.countP isBreak = 0 then column [c] + cs.length else column cs := column_append [c] cs
    rw [h.lines_cons, hcons]
    rcases hl : lines cs with _ | ⟨l, _ | ⟨m, ls⟩⟩
    · exact absurd hl (lines_ne_nil cs)
    · simp only [hl, List.length_singleton] at hlen
      have hzero : cs.countP isBreak = 0 := by omega
      rw [hl, hnil, if_pos hzero] at ih
      rw [if_pos hzero, column_singleton]
      split_ifs
      · exact ih
      · have hlast : l.length = 0 + cs.length := ih
        show l.length + 1 = 1 + cs.length
        omega
    · simp only [hl, List.length_cons] at hlen
      have hpos : cs.countP isBreak ≠ 0 := by omega
      rw [if_neg hpos, ← ih, hl]
      split_ifs <;> rfl

end LexGen.Text
