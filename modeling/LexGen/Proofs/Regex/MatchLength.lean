import LexGen.Regex.Match
import Mathlib.Tactic.SplitIfs

/-!
# Lengths of matches

A match is a part of the text that it is found in, so it is no longer than the text
(`matchLength?_le`), and the empty text is matched only where an attempt accepts before the first
character (`accepted_of_matchLength?`).
-/

namespace LexGen.Regex.Automaton

/-- What is accepted later is longer, up to the end of the text. -/
theorem follow_eq_some {a : Automaton} {cs : List Char} {n m : Nat} {best : Option Nat}
    {t : Attempts} (h : a.follow cs n best t = some m) :
    best = some m ∨ n ≤ m ∧ m ≤ n + cs.length ∧ (m = n → t.accepted = true) := by
  have hhere {cs : List Char} {n : Nat} {best : Option Nat} {t : Attempts}
      (h : (if t.accepted then some n else best) = some m) :
      best = some m ∨ n ≤ m ∧ m ≤ n + cs.length ∧ (m = n → t.accepted = true) := by
    split_ifs at h with ht
    · obtain rfl := Option.some.inj h
      exact .inr ⟨Nat.le_refl _, Nat.le_add_right _ _, fun _ => ht⟩
    · exact .inl h
  induction cs generalizing n best t with
  | nil => exact hhere h
  | cons c cs ih =>
    rw [follow] at h
    by_cases hw : t.waiting.isEmpty
    · rw [if_pos hw] at h
      exact hhere h
    · rw [if_neg hw] at h
      obtain hb | ⟨hle, hlen, -⟩ := ih h
      · exact hhere hb
      · exact .inr ⟨by omega, by rw [List.length_cons]; omega, by omega⟩

theorem matchLength?_le {a : Automaton} {cs : List Char} {n : Nat} (h : a.matchLength? cs = some n) :
    n ≤ cs.length := by
  obtain hnone | ⟨-, hle, -⟩ := follow_eq_some h
  · cases hnone
  · omega

/-- The empty text is matched only where an attempt accepts before the first character. -/
theorem accepted_of_matchLength? {a : Automaton} {cs : List Char}
    (h : a.matchLength? cs = some 0) :
    (a.reach none cs.head? (a.states.size + 1) 0 a.noAttempts).accepted = true := by
  obtain hnone | ⟨-, -, haccepted⟩ := follow_eq_some h
  · cases hnone
  · exact haccepted rfl

end LexGen.Regex.Automaton
