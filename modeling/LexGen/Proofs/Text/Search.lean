import LexGen.Text.Search
import Mathlib.Data.List.Infix
import Mathlib.Tactic.SplitIfs

/-!
# Occurrences

What is cut off a text is a part of it (`append_of_after?`, `append_of_cut?`).

An occurrence is a part of the text (`occursIn_iff`). Where a character does not belong to the
pattern, no occurrence goes across it (`infix_append_cons`).
-/

namespace LexGen.Text

theorem append_of_after? : ∀ {p cs rest : List Char}, after? p cs = some rest → cs = p ++ rest
  | [], _, _, h => Option.some.inj h
  | _ :: _, [], _, h => by cases h
  | p :: ps, c :: cs, rest, h => by
    rw [after?] at h
    split_ifs at h with hc
    rw [append_of_after? h, hc, List.cons_append]

theorem append_of_cut? {c : Char} : ∀ {cs a b : List Char}, cut? c cs = some (a, b) →
    cs = a ++ c :: b ∧ c ∉ a
  | [], _, _, h => by cases h
  | d :: ds, a, b, h => by
    rw [cut?] at h
    split_ifs at h with hd
    · obtain ⟨rfl, rfl⟩ : [] = a ∧ ds = b := Prod.ext_iff.1 (Option.some.inj h)
      exact ⟨by rw [hd, List.nil_append], List.not_mem_nil⟩
    · obtain ⟨⟨a', b'⟩, hcut, hpair⟩ := Option.map_eq_some_iff.1 h
      obtain ⟨rfl, rfl⟩ : d :: a' = a ∧ b' = b := Prod.ext_iff.1 hpair
      obtain ⟨rfl, hnot⟩ := append_of_cut? hcut
      exact ⟨List.cons_append.symm, by simp [Ne.symm hd, hnot]⟩

theorem occursIn_iff (pattern : List Char) :
    ∀ cs : List Char, occursIn pattern cs = true ↔ pattern <:+: cs
  | [] => by simp [occursIn]
  | c :: cs => by
    rw [occursIn, Bool.or_eq_true, List.isPrefixOf_iff_prefix, occursIn_iff pattern cs,
      List.infix_cons_iff]

theorem replaceAll_singleton (c : Char) (replacement : List Char) : ∀ cs : List Char,
    replaceAll [c] replacement cs = cs.flatMap fun d => if d = c then replacement else [d]
  | [] => rfl
  | d :: ds => by
    have ih := replaceAll_singleton c replacement ds
    rw [replaceAll] at ih
    rw [replaceAll, replaceFrom, List.flatMap_cons, ← ih]
    by_cases hd : d = c
    · rw [if_pos hd, if_pos (by simp [hd])]
      rfl
    · rw [if_neg hd, if_neg (by simpa using Ne.symm hd)]
      rfl

/-- A text is kept where the pattern does not occur. -/
theorem replaceAll_of_not_infix {pattern : List Char} (replacement : List Char) :
    ∀ {cs : List Char}, ¬pattern <:+: cs → replaceAll pattern replacement cs = cs
  | [], _ => rfl
  | c :: cs, h => by
    rw [List.infix_cons_iff, not_or] at h
    have ih := replaceAll_of_not_infix replacement h.2
    rw [replaceAll] at ih
    rw [replaceAll, replaceFrom, if_neg (by rw [List.isPrefixOf_iff_prefix]; exact h.1), ih]

variable {p : List Char} {d : Char}

theorem starts_append_cons (hd : d ∉ p) (b : List Char) :
    ∀ {a : List Char}, p <+: a ++ d :: b → p <+: a := by
  intro a
  induction p generalizing a with
  | nil => intro _; exact List.nil_prefix
  | cons c p ih =>
    intro h
    simp only [List.mem_cons, not_or] at hd
    rcases a with _ | ⟨e, a⟩
    · rw [List.nil_append, List.cons_prefix_cons] at h
      exact absurd h.1.symm hd.1
    · rw [List.cons_append, List.cons_prefix_cons] at h
      rw [List.cons_prefix_cons]
      exact ⟨h.1, ih hd.2 h.2⟩

theorem infix_append_cons (hd : d ∉ p) (a b : List Char) :
    p <:+: a ++ d :: b ↔ p <:+: a ∨ p <:+: b := by
  constructor
  · intro h
    induction a with
    | nil =>
      rw [List.nil_append, List.infix_cons_iff] at h
      rcases h with h | h
      · have hp : p <+: [] := starts_append_cons hd b (by simpa using h)
        exact .inl hp.isInfix
      · exact .inr h
    | cons c a ih =>
      rw [List.cons_append, List.infix_cons_iff, ← List.cons_append] at h
      rcases h with h | h
      · exact .inl (starts_append_cons hd b h).isInfix
      · rcases ih h with h | h
        · exact .inl (h.trans (List.suffix_cons c a).isInfix)
        · exact .inr h
  · rintro (h | h)
    · exact h.trans (List.prefix_append a _).isInfix
    · exact h.trans ((List.suffix_cons d b).trans (List.suffix_append a _)).isInfix

end LexGen.Text
