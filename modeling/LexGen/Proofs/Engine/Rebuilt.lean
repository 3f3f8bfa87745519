import LexGen.Engine.Basic
import LexGen.Proofs.Regex.Anchored
import LexGen.Proofs.Regex.Joined

/-!
# Matchers that are built again

A matcher that is taken as it is keeps the text of its pattern, with a group around it where case
does not matter otherwise. The matcher that is built from this text has to be anchored, which puts
one more group around it. It is built if the pattern does not hide the parenthesis of the group in a
comment and leaves room for the groups in the two limits, and then it matches as the given one does.
-/

namespace LexGen.CompiledRule

open Regex (Automaton Expr Flags HidesEnd OpenComment Tree groupText nestLimit sensitiveText)

/-- The number of groups and concatenations that are put around a pattern. -/
def levels (caseless : Bool) : Nat := if caseless then 3 else 2

/-- What the pattern of a given matcher needs in order that the matcher can be built again. -/
structure Rebuilds (caseless : Bool) (p : List Char) : Prop where
  /-- The parenthesis that is put at its end closes a group. -/
  closes : ¬ HidesEnd p
  /-- Its tree may stand below others. -/
  nests : ∃ t, Tree.read? false p = some t ∧ t.depth + levels caseless ≤ nestLimit
  /-- There is room for the state of the anchor. -/
  fits : ∃ e, Expr.read? {} p = some e ∧ e.width + 1 ≤ Automaton.limit

/-! ## Patterns of given matchers -/

theorem anchor_toList (pattern : String) :
    (anchor pattern).toList = '^' :: groupText pattern.toList := by
  simp [anchor, groupText]

theorem ofRegex_pattern_toList (caseless : Bool) (r : Regex) :
    (ofRegex caseless r).pattern.toList =
      if caseless then sensitiveText r.source.toList else r.source.toList := by
  cases caseless <;> simp [ofRegex, sensitiveText]

/-- A matcher that is read from a pattern comes from a tree and from what the tree means. -/
theorem ofString?_eq_some {f : Flags} {p : String} {r : Regex} : Regex.ofString? f p = some r ↔
    ∃ e, Expr.read? f p.toList = some e ∧ e.width ≤ Automaton.limit ∧ r = ⟨p, .ofExpr e⟩ := by
  simp only [Regex.ofString?, Regex.ofExpr?, Option.bind_eq_bind, Option.bind_eq_some_iff]
  refine exists_congr fun e => and_congr_right fun _ => ?_
  constructor
  · intro h
    split_ifs at h with hwidth
    exact ⟨hwidth, (Option.some.inj h).symm⟩
  · rintro ⟨hwidth, rfl⟩
    exact if_pos hwidth

theorem read?_eq_some {f : Flags} {cs : List Char} {e : Expr} : Expr.read? f cs = some e ↔
    ∃ t g, Tree.read? f.verbose cs = some t ∧ t.expr? f = some (e, g) := by
  simp [Expr.read?, Option.bind_eq_some_iff]

/-! ## The anchored pattern -/

theorem read?_of_tree {f k : Flags} {cs : List Char} {t : Tree} {d e : Expr} {hides nests : Prop}
    [Decidable hides] [Decidable nests]
    (ht : Tree.read? f.verbose cs = if hides then none else if nests then some t else none)
    (he : t.expr? f = some (e, k)) :
    Expr.read? f cs = some d ↔ (¬ hides ∧ nests) ∧ d = e := by
  rw [read?_eq_some, ht]
  split_ifs with hhides hnests
  · simp [hhides]
  · simp [hhides, hnests, he, eq_comm]
  · simp [hnests]

section Given

variable {p : List Char} {t : Tree} {e d : Expr} {g : Flags}

/-- What the anchored pattern means. -/
theorem read?_rebuilt (ht : Tree.read? false p = some t) (he : t.expr? {} = some (e, g))
    (caseless : Bool) :
    Expr.read? { caseless } ('^' :: groupText (if caseless then sensitiveText p else p)) = some d ↔
      (¬ HidesEnd p ∧ t.depth + levels caseless ≤ nestLimit) ∧
        d = .ofConcat [.look .textStart, e] := by
  cases caseless with
  | false => exact read?_of_tree (Regex.read?_anchored ht) (Regex.expr?_anchored he)
  | true =>
    exact read?_of_tree (Regex.read?_anchored_sensitive ht) (Regex.expr?_anchored_sensitive he)

theorem width_rebuilt (he : t.expr? {} = some (e, g)) :
    (Expr.ofConcat [.look .textStart, e]).width ≤ Automaton.limit ↔
      e.width + 1 ≤ Automaton.limit := by
  by_cases h : e.factors = []
  · obtain rfl | rfl := Expr.eq_of_factors_nil h <;> decide
  · rw [Expr.width_ofConcat_look _ (Tree.expr?_full he) h]

theorem rebuilds_iff (ht : Tree.read? false p = some t) (he : t.expr? {} = some (e, g))
    (caseless : Bool) : Rebuilds caseless p ↔
      (¬ HidesEnd p ∧ t.depth + levels caseless ≤ nestLimit) ∧ e.width + 1 ≤ Automaton.limit := by
  have hexpr : Expr.read? {} p = some e := read?_eq_some.2 ⟨t, g, ht, he⟩
  constructor
  · rintro ⟨hcloses, ⟨u, hu, hnests⟩, d, hd, hfits⟩
    obtain rfl := Option.some.inj (ht.symm.trans hu)
    obtain rfl := Option.some.inj (hexpr.symm.trans hd)
    exact ⟨⟨hcloses, hnests⟩, hfits⟩
  · rintro ⟨⟨hcloses, hnests⟩, hfits⟩
    exact ⟨hcloses, ⟨t, ht, hnests⟩, e, hexpr, hfits⟩

end Given

theorem ofPattern_eq_ok {caseless : Bool} {pattern : String} {q : CompiledRule} :
    ofPattern caseless pattern = .ok q ↔
      ∃ e, Expr.read? { caseless } ('^' :: groupText pattern.toList) = some e ∧
        e.width ≤ Automaton.limit ∧ q = ⟨pattern, anchor pattern, .ofExpr e⟩ := by
  rw [← anchor_toList]
  unfold ofPattern
  constructor
  · intro h
    split at h
    · rename_i matcher hmatcher
      obtain ⟨e, he, hwidth, rfl⟩ := ofString?_eq_some.1 hmatcher
      cases h
      exact ⟨e, he, hwidth, rfl⟩
    · cases h
  · rintro ⟨e, he, hwidth, rfl⟩
    rw [ofString?_eq_some.2 ⟨e, he, hwidth, rfl⟩]

/-- The matcher that is built from the text of a given one matches as that one does. It is built if
the pattern hides no parenthesis, for which it needs a comment whose line does not end, and if there
is room for what is put around it. -/
theorem ofPattern_ofRegex {p : String} {r : Regex} (h : Regex.ofString? {} p = some r)
    (caseless : Bool) :
    ((∃ q, ofPattern caseless (ofRegex caseless r).pattern = .ok q) ↔ Rebuilds caseless p.toList) ∧
      (HidesEnd p.toList → OpenComment p.toList) ∧
      ∀ q, ofPattern caseless (ofRegex caseless r).pattern = .ok q →
        ∀ cs, q.matcher.matchLength? cs = (ofRegex caseless r).matcher.matchLength? cs := by
  obtain ⟨e, hread, -, rfl⟩ := ofString?_eq_some.1 h
  obtain ⟨t, g, ht, he⟩ := read?_eq_some.1 hread
  have hfull := Tree.expr?_full he
  simp only [ofPattern_eq_ok, ofRegex_pattern_toList, read?_rebuilt ht he, rebuilds_iff ht he]
  refine ⟨⟨?_, ?_⟩, HidesEnd.openComment ht, ?_⟩
  · rintro ⟨q, d, ⟨hopens, rfl⟩, hwidth, -⟩
    exact ⟨hopens, (width_rebuilt he).1 hwidth⟩
  · rintro ⟨hopens, hfits⟩
    exact ⟨_, _, ⟨hopens, rfl⟩, (width_rebuilt he).2 hfits, rfl⟩
  · rintro q ⟨d, ⟨-, rfl⟩, -, rfl⟩ cs
    exact Automaton.matchLength?_ofConcat_textStart hfull cs

/-- A comment that ends with its line does not hide the parenthesis. -/
theorem ofPattern_ofRegex_line : ∃ r q, Regex.ofString? {} "(?x)a # c\n" = some r ∧
    ofPattern true (ofRegex true r).pattern = .ok q ∧
      ∀ cs, q.matcher.matchLength? cs = (ofRegex true r).matcher.matchLength? cs := by
  have h : Regex.ofString? {} "(?x)a # c\n" =
      some ⟨"(?x)a # c\n", .ofExpr (.literal ['a'])⟩ := by decide +kernel
  have hcloses : ¬ HidesEnd "(?x)a # c\n".toList := by decide +kernel
  have hrebuilds : Rebuilds true "(?x)a # c\n".toList :=
    ⟨hcloses, ⟨_, rfl, by decide⟩, ⟨_, rfl, by decide⟩⟩
  obtain ⟨hbuilt, -, hmatches⟩ := ofPattern_ofRegex h true
  obtain ⟨q, hq⟩ := hbuilt.2 hrebuilds
  exact ⟨_, q, h, hq, hmatches q hq⟩

/-- A comment at the end of the pattern hides the parenthesis, and the matcher is not built. -/
theorem not_ofPattern_ofRegex_comment :
    ¬ ∀ (p : String) (r : Regex) (caseless : Bool), Regex.ofString? {} p = some r →
      ∃ q, ofPattern caseless (ofRegex caseless r).pattern = .ok q ∧
        ∀ cs, q.matcher.matchLength? cs = (ofRegex caseless r).matcher.matchLength? cs := by
  intro h
  have hread : Regex.ofString? {} "(?x)a # c" =
      some ⟨"(?x)a # c", .ofExpr (.literal ['a'])⟩ := by decide +kernel
  obtain ⟨q, hq, -⟩ := h _ _ false hread
  have hnone : Regex.ofString? {} (anchor "(?x)a # c") = none := by decide +kernel
  have hfails : ofPattern false "(?x)a # c" = .error .patternBuild := by rw [ofPattern, hnone]
  cases hfails.symm.trans hq

end LexGen.CompiledRule
