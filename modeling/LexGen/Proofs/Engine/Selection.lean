import LexGen.Proofs.Regex.MatchLength
import LexGen.Scanner.Basic

/-!
# Which match is selected

Without the search for the longest match the first rule that matches is selected
(`firstMatch?_eq_some`). With it a rule is selected whose match is longer than those of the rules
before it and no shorter than those of the rules after it (`longestMatch?_eq_some`). It makes no
difference whether matches are compared by their characters or by their bytes, since they all begin
at one place (`Text.utf8Length_take_lt`).
-/

namespace LexGen

namespace Text

theorem length_le_utf8Length : ∀ cs : List Char, cs.length ≤ utf8Length cs
  | [] => Nat.le_refl _
  | c :: cs => by
    have ih := length_le_utf8Length cs
    have hc := c.utf8Size_pos
    rw [List.length_cons, utf8Length_cons]
    omega

/-- Of two beginnings of a text the one with more characters has more bytes. -/
theorem utf8Length_take_lt {cs : List Char} {m n : Nat} (hmn : m < n) (hn : n ≤ cs.length) :
    utf8Length (cs.take m) < utf8Length (cs.take n) := by
  have hsplit : cs.take n = cs.take m ++ (cs.drop m).take (n - m) := by
    rw [← List.take_add]
    congr 1
    omega
  have hrest := length_le_utf8Length ((cs.drop m).take (n - m))
  rw [List.length_take, List.length_drop] at hrest
  rw [hsplit, utf8Length_append]
  omega

end Text

namespace Engine

variable {e : Engine} {text : List Char} {rules : List Nat} {m : Candidate}

theorem matchLength?_le {rule n : Nat} (h : e.matchLength? rule text = some n) :
    n ≤ text.length := by
  obtain ⟨r, -, hr⟩ := Option.bind_eq_some_iff.1 h
  exact Regex.Automaton.matchLength?_le hr

/-- The length in bytes of the match of a rule at the start of a text. -/
def matchSize? (e : Engine) (rule : Nat) (text : List Char) : Option Nat :=
  (e.matchLength? rule text).map fun n => Text.utf8Length (text.take n)

/-- The bytes of two matches compare as their characters do. -/
theorem matchSize_le_iff {q r k n : Nat} (hq : e.matchLength? q text = some k)
    (hr : e.matchLength? r text = some n) :
    Text.utf8Length (text.take k) ≤ Text.utf8Length (text.take n) ↔ k ≤ n := by
  have hk := matchLength?_le hq
  have hn := matchLength?_le hr
  rcases Nat.lt_trichotomy k n with hlt | rfl | hgt
  · have hsize := Text.utf8Length_take_lt hlt hn
    omega
  · omega
  · have hsize := Text.utf8Length_take_lt hgt hk
    omega

theorem firstMatch?_eq_none :
    ∀ {rules : List Nat}, e.firstMatch? text rules = none →
      ∀ r ∈ rules, e.matchLength? r text = none
  | [], _ => by simp
  | r :: rs, h => by
    rw [firstMatch?] at h
    rcases hr : e.matchLength? r text with _ | n
    · simp only [hr] at h
      exact List.forall_mem_cons.2 ⟨hr, firstMatch?_eq_none h⟩
    · simp [hr] at h

/-- The rules before the selected one do not match. -/
theorem firstMatch?_eq_some : ∀ {rules : List Nat}, e.firstMatch? text rules = some m →
    ∃ before after, rules = before ++ m.rule :: after ∧
      e.matchLength? m.rule text = some m.length ∧ ∀ r ∈ before, e.matchLength? r text = none
  | [], h => by simp [firstMatch?] at h
  | r :: rs, h => by
    rw [firstMatch?] at h
    rcases hr : e.matchLength? r text with _ | n
    · simp only [hr] at h
      obtain ⟨before, after, rfl, hm, hbefore⟩ := firstMatch?_eq_some h
      exact ⟨r :: before, after, rfl, hm, List.forall_mem_cons.2 ⟨hr, hbefore⟩⟩
    · simp only [hr, Option.some.injEq] at h
      subst h
      exact ⟨[], rs, rfl, hr, by simp⟩

theorem longestMatch?_eq_none : ∀ {rules : List Nat} {best : Option Candidate},
    e.longestMatch? text rules best = none →
      best = none ∧ ∀ r ∈ rules, e.matchLength? r text = none
  | [], best, h => ⟨h, by simp⟩
  | r :: rs, best, h => by
    rw [longestMatch?] at h
    rcases hr : e.matchLength? r text with _ | n
    · simp only [hr] at h
      obtain ⟨hbest, hrs⟩ := longestMatch?_eq_none h
      exact ⟨hbest, List.forall_mem_cons.2 ⟨hr, hrs⟩⟩
    · simp only [hr] at h
      split_ifs at h with hlonger
      · cases (longestMatch?_eq_none h).1
      · rw [(longestMatch?_eq_none h).1] at hlonger
        simp at hlonger

/-- The match found before stays unless a longer one comes. Otherwise the selected match is longer
than it and than those of the rules before, and no shorter than those of the rules after. -/
theorem longestMatch?_eq_some : ∀ {rules : List Nat} {best : Option Candidate},
    e.longestMatch? text rules best = some m →
      (best = some m ∧ ∀ r ∈ rules, ∀ n ∈ e.matchLength? r text, n ≤ m.length) ∨
      ∃ before after, rules = before ++ m.rule :: after ∧
        e.matchLength? m.rule text = some m.length ∧ (∀ b ∈ best, b.length < m.length) ∧
        (∀ r ∈ before, ∀ n ∈ e.matchLength? r text, n < m.length) ∧
        ∀ r ∈ after, ∀ n ∈ e.matchLength? r text, n ≤ m.length
  | [], best, h => .inl ⟨h, by simp⟩
  | r :: rs, best, h => by
    rw [longestMatch?] at h
    rcases hr : e.matchLength? r text with _ | n
    · simp only [hr] at h
      obtain ⟨hbest, hrs⟩ | ⟨before, after, rfl, hm, hbest, hbefore, hafter⟩ :=
        longestMatch?_eq_some h
      · exact .inl ⟨hbest, List.forall_mem_cons.2 ⟨by simp [hr], hrs⟩⟩
      · exact .inr ⟨r :: before, after, rfl, hm, hbest,
          List.forall_mem_cons.2 ⟨by simp [hr], hbefore⟩, hafter⟩
    · simp only [hr] at h
      split_ifs at h with hlonger
      · -- the match of `r` is the best one so far
        simp only [Option.all_eq_true, decide_eq_true_eq] at hlonger
        obtain ⟨hbest, hrs⟩ | ⟨before, after, rfl, hm, hbest, hbefore, hafter⟩ :=
          longestMatch?_eq_some h
        · obtain rfl := Option.some.inj hbest
          exact .inr ⟨[], rs, rfl, hr, hlonger, by simp, hrs⟩
        · have hn : n < m.length := hbest _ rfl
          refine .inr ⟨r :: before, after, rfl, hm, fun b hb => Nat.lt_trans (hlonger b hb) hn,
            List.forall_mem_cons.2 ⟨?_, hbefore⟩, hafter⟩
          simpa [hr] using hn
      · obtain ⟨b, hb, hle⟩ : ∃ b, best = some b ∧ n ≤ b.length := by
          rcases best with _ | b
          · simp at hlonger
          · exact ⟨b, rfl, by simpa using hlonger⟩
        obtain ⟨hbest, hrs⟩ | ⟨before, after, rfl, hm, hbest, hbefore, hafter⟩ :=
          longestMatch?_eq_some h
        · obtain rfl := Option.some.inj (hb.symm.trans hbest)
          exact .inl ⟨hbest, List.forall_mem_cons.2 ⟨by simpa [hr] using hle, hrs⟩⟩
        · have hn : n < m.length := Nat.lt_of_le_of_lt hle (hbest b hb)
          refine .inr ⟨r :: before, after, rfl, hm, hbest,
            List.forall_mem_cons.2 ⟨?_, hbefore⟩, hafter⟩
          simpa [hr] using hn

theorem select?_eq_none (h : e.select? text rules = none) :
    ∀ r ∈ rules, e.matchLength? r text = none := by
  unfold select? at h
  split_ifs at h
  · exact (longestMatch?_eq_none h).2
  · exact firstMatch?_eq_none h

/-- Where the selected match stands among those of the rules. -/
theorem select?_eq_some (h : e.select? text rules = some m) :
    ∃ before after, rules = before ++ m.rule :: after ∧
      e.matchLength? m.rule text = some m.length ∧
      (e.flags.flex = false → ∀ r ∈ before, e.matchLength? r text = none) ∧
      (e.flags.flex = true → (∀ r ∈ before, ∀ n ∈ e.matchLength? r text, n < m.length) ∧
        ∀ r ∈ after, ∀ n ∈ e.matchLength? r text, n ≤ m.length) := by
  unfold select? at h
  split_ifs at h with hflex
  · obtain ⟨hnone, -⟩ | ⟨before, after, hrules, hm, -, hbefore, hafter⟩ := longestMatch?_eq_some h
    · cases hnone
    · exact ⟨before, after, hrules, hm, by simp [hflex], fun _ => ⟨hbefore, hafter⟩⟩
  · obtain ⟨before, after, hrules, hm, hbefore⟩ := firstMatch?_eq_some h
    exact ⟨before, after, hrules, hm, fun _ => hbefore, fun h => absurd h hflex⟩

theorem matchLength?_of_select? (h : e.select? text rules = some m) :
    e.matchLength? m.rule text = some m.length := by
  obtain ⟨-, -, -, hm, -⟩ := select?_eq_some h
  exact hm

end Engine
end LexGen
