import LexGen.Proofs.Text.Lines
import LexGen.Proofs.Text.Search
import LexGen.Text.Escaped

/-!
# Texts on one line

A number and a literal stand on one line, whatever the literal says (`unbroken_literal`). Where such
texts are put together with line feeds between them, they are the lines of the whole
(`lines_intercalate`), and a margin can be given to all but the first one by replacing the line feeds
(`replaceAll_intercalate`).
-/

namespace LexGen.Text

/-- No character breaks the line. -/
def Unbroken (cs : List Char) : Prop := ∀ c ∈ cs, isBreak c = false

instance (cs : List Char) : Decidable (Unbroken cs) := List.decidableBAll _ cs

theorem unbroken_append {a b : List Char} : Unbroken (a ++ b) ↔ Unbroken a ∧ Unbroken b :=
  List.forall_mem_append

theorem Unbroken.not_mem {cs : List Char} (h : Unbroken cs) {c : Char} (hc : isBreak c = true) :
    c ∉ cs := by
  intro hmem
  rw [h c hmem] at hc
  exact Bool.false_ne_true hc

theorem Unbroken.intercalate {sep : List Char} (hsep : Unbroken sep) :
    ∀ {ls : List (List Char)}, (∀ l ∈ ls, Unbroken l) → Unbroken (sep.intercalate ls)
  | [], _ => List.forall_mem_nil _
  | [l], h => by
    rw [List.intercalate_singleton]
    exact h l List.mem_cons_self
  | l :: m :: ls, h => by
    rw [List.intercalate_cons_cons, unbroken_append, unbroken_append]
    exact ⟨⟨h l List.mem_cons_self, hsep⟩,
      hsep.intercalate fun k hk => h k (List.mem_cons_of_mem l hk)⟩

/-! ## Numbers and literals -/

theorem unbroken_toDigits {base : ℕ} (hbase : 1 < base) (hle : base ≤ 16) (n : ℕ) :
    Unbroken (Nat.toDigits base n) := by
  have hdigit : ∀ d < 16, Unbroken [d.digitChar] := by decide
  induction n using Nat.strongRecOn with
  | ind n ih =>
    by_cases hn : n < base
    · rw [Nat.toDigits_of_lt_base hn]
      exact hdigit n (by omega)
    · have hlast := Nat.mod_lt n (by omega : 0 < base)
      rw [Nat.toDigits_of_base_le hbase (Nat.le_of_not_lt hn), unbroken_append]
      exact ⟨ih _ (Nat.div_lt_self (by omega) hbase), hdigit _ (by omega)⟩

theorem unbroken_literalChar (c : Char) : Unbroken (literalChar c) := by
  unfold literalChar
  split_ifs with h0 h1 hreturn hfeed h4 h5
  · decide
  · decide
  · decide
  · decide
  · rcases h4 with rfl | rfl <;> decide
  · rw [codePointEscape, unbroken_append, unbroken_append]
    exact ⟨⟨by decide, unbroken_toDigits (by decide) (by decide) _⟩, by decide⟩
  · simpa [Unbroken, isBreak] using ⟨hfeed, hreturn⟩

/-- A literal stands on one line, whatever it says. -/
theorem unbroken_literal (cs : List Char) : Unbroken (literal cs) := by
  have htext : Unbroken (cs.flatMap literalChar) := by
    intro d hd
    obtain ⟨c, -, hc⟩ := List.mem_flatMap.1 hd
    exact unbroken_literalChar c d hc
  rw [literal, List.cons_append, ← List.singleton_append, unbroken_append, unbroken_append]
  exact ⟨by decide, htext, by decide⟩

/-! ## Lines -/

theorem Unbroken.lines_eq {cs : List Char} (h : Unbroken cs) : lines cs = [cs] := by
  have hcount : cs.countP isBreak = 0 := by
    rw [List.countP_eq_zero]
    intro c hc
    rw [h c hc]
    exact Bool.false_ne_true
  exact lines_of_breaks_eq_zero (Nat.eq_zero_of_le_zero (hcount ▸ breaks_le_countP cs))

theorem lines_intercalate : ∀ {ls : List (List Char)}, ls ≠ [] → (∀ l ∈ ls, Unbroken l) →
    lines (['\n'].intercalate ls) = ls
  | [], hne, _ => absurd rfl hne
  | [l], _, h => by
    rw [List.intercalate_singleton]
    exact (h l List.mem_cons_self).lines_eq
  | l :: m :: ls, _, h => by
    have hfirst : Unbroken l := h l List.mem_cons_self
    have hseam : l.getLast? ≠ some '\r' :=
      fun hlast => hfirst.not_mem (by decide) (List.mem_of_getLast? hlast)
    have hrest : lines (['\n'].intercalate (m :: ls)) = m :: ls :=
      lines_intercalate (List.cons_ne_nil m ls) fun k hk => h k (List.mem_cons_of_mem l hk)
    rw [List.intercalate_cons_cons, List.append_assoc, lines_append fun hcut => hseam hcut.1,
      hfirst.lines_eq, List.singleton_append]
    show joinLines [l] ([] :: lines (['\n'].intercalate (m :: ls))) = _
    rw [hrest]
    simp [joinLines]

theorem Unbroken.replaceAll_eq {cs : List Char} (h : Unbroken cs) (replacement : List Char) :
    replaceAll ['\n'] replacement cs = cs := by
  have hkeep : ∀ c ∈ cs, (if c = '\n' then replacement else [c]) = [c] := by
    intro c hc
    refine if_neg ?_
    rintro rfl
    exact h.not_mem (by decide) hc
  rw [replaceAll_singleton, List.flatMap_congr hkeep, List.flatMap_singleton']

theorem replaceAll_intercalate (replacement : List Char) : ∀ {ls : List (List Char)},
    (∀ l ∈ ls, Unbroken l) →
      replaceAll ['\n'] replacement (['\n'].intercalate ls) = replacement.intercalate ls
  | [], _ => rfl
  | [l], h => by
    rw [List.intercalate_singleton, List.intercalate_singleton]
    exact (h l List.mem_cons_self).replaceAll_eq replacement
  | l :: m :: ls, h => by
    have hfirst := (h l List.mem_cons_self).replaceAll_eq replacement
    have hrest : replaceAll ['\n'] replacement (['\n'].intercalate (m :: ls)) =
        replacement.intercalate (m :: ls) :=
      replaceAll_intercalate replacement fun k hk => h k (List.mem_cons_of_mem l hk)
    simp only [replaceAll_singleton] at hfirst hrest ⊢
    rw [List.intercalate_cons_cons, List.intercalate_cons_cons, List.flatMap_append,
      List.flatMap_append, hfirst, hrest, List.flatMap_singleton, if_pos rfl]

end LexGen.Text
