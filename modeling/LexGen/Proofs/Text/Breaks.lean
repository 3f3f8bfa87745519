import LexGen.Proofs.Text.Lines

/-!
# Lines and the breaks between them

A text is its lines with its line breaks between them. A break is a carriage return with the line
feed after it, or one of the two alone (`lineBreaks`), so a cut of the text at all of its breaks can
be told by counting characters (`IsCut`).

Texts in a row have the lines of both, the two at the cut in one, if and only if the cut does not go
through a break (`isCut_lines_append`).
-/

namespace LexGen.Text

/-- The line breaks of a text in their order. -/
def lineBreaks : List Char → List (List Char)
  | [] => []
  | '\r' :: '\n' :: cs => ['\r', '\n'] :: lineBreaks cs
  | c :: cs => if c = '\n' ∨ c = '\r' then [c] :: lineBreaks cs else lineBreaks cs

/-- How many line feeds come right after a carriage return. -/
def pairs (cs : List Char) : ℕ := (cs.zip cs.tail).count ('\r', '\n')

theorem pairs_cons (c : Char) (cs : List Char) :
    pairs (c :: cs) = pairs cs + if c = '\r' ∧ cs.head? = some '\n' then 1 else 0 := by
  rcases cs with _ | ⟨d, ds⟩
  · simp [pairs]
  · simp [pairs, List.count_cons]

/-- The text is cut into the lines `ls` at the breaks `bs`: it is the lines with the breaks between
them, and no line has a character of a break. There are as many breaks as such characters, where two
that make a pair count once. -/
structure IsCut (cs : List Char) (ls bs : List (List Char)) : Prop where
  joined : (List.zipWith (· ++ ·) ls (bs ++ [[]])).flatten = cs
  length_eq : ls.length = 1 + bs.length
  not_mem : ∀ l ∈ ls, '\r' ∉ l ∧ '\n' ∉ l
  mem_breaks : ∀ b ∈ bs, b = ['\r', '\n'] ∨ b = ['\r'] ∨ b = ['\n']
  count_eq : bs.length + pairs cs = cs.count '\r' + cs.count '\n'

namespace IsCut

variable {c : Char} {cs l : List Char} {ls bs : List (List Char)}

theorem nil : IsCut [] [[]] [] where
  joined := rfl
  length_eq := rfl
  not_mem := by simp
  mem_breaks := by simp
  count_eq := rfl

/-- A break in front of a cut text. -/
theorem joined_break (h : IsCut cs ls bs) (b : List Char) :
    (List.zipWith (· ++ ·) ([] :: ls) (b :: bs ++ [[]])).flatten = b ++ cs := by
  rw [List.cons_append, List.zipWith_cons_cons, List.flatten_cons, h.joined, List.nil_append]

theorem pair (h : IsCut cs ls bs) :
    IsCut ('\r' :: '\n' :: cs) ([] :: ls) (['\r', '\n'] :: bs) where
  joined := h.joined_break _
  length_eq := congrArg (· + 1) h.length_eq
  not_mem := List.forall_mem_cons.2 ⟨by simp, h.not_mem⟩
  mem_breaks := List.forall_mem_cons.2 ⟨.inl rfl, h.mem_breaks⟩
  count_eq := by
    have hcount := h.count_eq
    have hpairs : pairs ('\r' :: '\n' :: cs) = pairs cs + 1 := by simp [pairs_cons]
    rw [hpairs, List.length_cons, List.count_cons_self, List.count_cons_of_ne (by decide),
      List.count_cons_of_ne (by decide), List.count_cons_self]
    omega

/-- No line feed after it makes the break longer. -/
theorem single (hc : c = '\n' ∨ c = '\r') (hcut : ¬(c = '\r' ∧ cs.head? = some '\n'))
    (h : IsCut cs ls bs) : IsCut (c :: cs) ([] :: ls) ([c] :: bs) where
  joined := h.joined_break _
  length_eq := congrArg (· + 1) h.length_eq
  not_mem := List.forall_mem_cons.2 ⟨by simp, h.not_mem⟩
  mem_breaks := by
    refine List.forall_mem_cons.2 ⟨?_, h.mem_breaks⟩
    rcases hc with rfl | rfl
    · exact .inr (.inr rfl)
    · exact .inr (.inl rfl)
  count_eq := by
    have hcount := h.count_eq
    rw [pairs_cons, if_neg hcut, List.length_cons]
    rcases hc with rfl | rfl
    · rw [List.count_cons_self, List.count_cons_of_ne (by decide)]
      omega
    · rw [List.count_cons_self, List.count_cons_of_ne (by decide)]
      omega

theorem char (hc : ¬(c = '\n' ∨ c = '\r')) (h : IsCut cs (l :: ls) bs) :
    IsCut (c :: cs) ((c :: l) :: ls) bs where
  joined := by
    obtain ⟨b, rest, hb⟩ := List.exists_cons_of_ne_nil (List.append_ne_nil_of_right_ne_nil bs
      (List.cons_ne_nil ([] : List Char) []))
    have hjoined := h.joined
    rw [hb, List.zipWith_cons_cons, List.flatten_cons] at hjoined ⊢
    exact congrArg (c :: ·) hjoined
  length_eq := h.length_eq
  not_mem := by
    rw [not_or] at hc
    obtain ⟨hfirst, hrest⟩ := List.forall_mem_cons.1 h.not_mem
    refine List.forall_mem_cons.2 ⟨⟨?_, ?_⟩, hrest⟩
    · exact List.not_mem_cons_of_ne_of_not_mem (Ne.symm hc.2) hfirst.1
    · exact List.not_mem_cons_of_ne_of_not_mem (Ne.symm hc.1) hfirst.2
  mem_breaks := h.mem_breaks
  count_eq := by
    rw [not_or] at hc
    rw [pairs_cons, if_neg fun hcut => hc.2 hcut.1, List.count_cons_of_ne hc.2,
      List.count_cons_of_ne hc.1]
    exact h.count_eq

end IsCut

theorem lineBreaks_cons {c : Char} {cs : List Char} (h : ¬(c = '\r' ∧ cs.head? = some '\n')) :
    lineBreaks (c :: cs) =
      if c = '\n' ∨ c = '\r' then [c] :: lineBreaks cs else lineBreaks cs := by
  rw [lineBreaks]
  rintro ds rfl rfl
  exact h ⟨rfl, rfl⟩

theorem isCut_lines (cs : List Char) : IsCut cs (lines cs) (lineBreaks cs) := by
  fun_induction lines cs with
  | case1 => exact .nil
  | case2 cs ih => exact ih.pair
  | case3 c cs hne hbreak ih =>
    have hcut : ¬(c = '\r' ∧ cs.head? = some '\n') := by
      rintro ⟨rfl, hhead⟩
      obtain ⟨ds, rfl⟩ := List.head?_eq_some_iff.1 hhead
      exact hne ds rfl rfl
    rw [lineBreaks_cons hcut, if_pos hbreak]
    exact ih.single hbreak hcut
  | case4 c cs hne hbreak l ls hl ih =>
    rw [lineBreaks_cons fun hcut => hbreak (.inr hcut.1), if_neg hbreak]
    rw [hl] at ih
    exact ih.char hbreak
  | case5 c cs hne hbreak hl ih => exact absurd hl (lines_ne_nil cs)

/-- A text is its lines with its breaks between them. Of two texts in a row the last line goes on
with the first line of the other one, unless the two have a break in common. -/
theorem isCut_lines_append :
    (∀ t : List Char, lines t ≠ [] ∧ IsCut t (lines t) (lineBreaks t)) ∧
    ∀ p r : List Char,
      lines (p ++ r) = (lines p).dropLast ++
          ((lines p).getLastD [] ++ (lines r).headD []) :: (lines r).tail ↔
        ¬(p.getLast? = some '\r' ∧ r.head? = some '\n') := by
  refine ⟨fun t => ⟨lines_ne_nil t, isCut_lines t⟩, fun p r => ⟨fun h hcut => ?_, lines_append⟩⟩
  -- cut in two, the break counts for both texts
  have hseam := breaks_append_of_seam hcut.1 hcut.2
  have hlength := length_joinLines (lines_ne_nil p) (lines_ne_nil r)
  rw [joinLines, ← h, length_lines_eq, length_lines_eq, length_lines_eq] at hlength
  omega

/-- Breaks of each kind. -/
example : lines ['a', '\r', '\n', 'b', '\r', 'c', '\n'] = [['a'], ['b'], ['c'], []] ∧
    lineBreaks ['a', '\r', '\n', 'b', '\r', 'c', '\n'] = [['\r', '\n'], ['\r'], ['\n']] := by
  decide

end LexGen.Text
