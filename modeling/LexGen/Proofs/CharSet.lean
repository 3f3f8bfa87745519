import LexGen.CharSet.Derived
import Mathlib.Data.List.Chain
import Mathlib.Data.List.TakeWhile
import Mathlib.Tactic.SplitIfs

/-!
# Unions of sets of characters

The ranges of two sets are merged in the order of their starts, and those that overlap or touch are
joined. Where the ranges of both sets are in order, those of the union are as well
(`Ordered.union`), and it has the members of both sets (`contains_union`).
-/

namespace LexGen.CharSet

/-- The ranges are in the order of their starts. -/
def InOrder (rs : List (ℕ × ℕ)) : Prop := rs.Pairwise fun a b => a.1 ≤ b.1

/-- One of the ranges has the code point. -/
def Within (rs : List (ℕ × ℕ)) (n : ℕ) : Prop := ∃ r ∈ rs, r.1 ≤ n ∧ n ≤ r.2

theorem holds_iff {s : CharSet} {n : ℕ} : s.holds n = true ↔ Within s.ranges n := by
  simp [holds, Within]

theorem within_cons {r : ℕ × ℕ} {rs : List (ℕ × ℕ)} {n : ℕ} :
    Within (r :: rs) n ↔ r.1 ≤ n ∧ n ≤ r.2 ∨ Within rs n := by
  simp only [Within, List.exists_mem_cons_iff]

/-! ## Merging -/

theorem mem_merge {r : ℕ × ℕ} : ∀ {xs ys : List (ℕ × ℕ)}, r ∈ merge xs ys ↔ r ∈ xs ∨ r ∈ ys
  | [], ys => by simp [merge]
  | x :: xs, ys => by
    have hsplit : r ∈ ys ↔ r ∈ ys.takeWhile (fun y => decide (y.1 < x.1)) ∨
        r ∈ ys.dropWhile fun y => decide (y.1 < x.1) := by
      rw [← List.mem_append, List.takeWhile_append_dropWhile]
    rw [merge, List.mem_append, List.mem_cons, mem_merge, List.mem_cons, hsplit]
    tauto

/-- The ranges that are left begin with one that does not start before `n`. -/
theorem le_of_mem_dropWhile {n : ℕ} {r : ℕ × ℕ} {ys : List (ℕ × ℕ)} (hy : InOrder ys)
    (h : r ∈ ys.dropWhile fun y => y.1 < n) : n ≤ r.1 := by
  have hdrop : InOrder (ys.dropWhile fun y => y.1 < n) := hy.sublist (List.dropWhile_sublist _)
  rcases hd : ys.dropWhile fun y => decide (y.1 < n) with _ | ⟨z, zs⟩
  · simp [hd] at h
  have hz : ¬z.1 < n := by
    have hhead := List.head_dropWhile_not (fun y => decide (y.1 < n)) (l := ys) (by simp [hd])
    simpa [hd] using hhead
  rw [hd] at h hdrop
  rcases List.mem_cons.1 h with rfl | h
  · exact Nat.le_of_not_lt hz
  · exact (Nat.le_of_not_lt hz).trans (List.rel_of_pairwise_cons hdrop h)

theorem inOrder_merge : ∀ {xs ys : List (ℕ × ℕ)}, InOrder xs → InOrder ys → InOrder (merge xs ys)
  | [], ys, _, hy => by rwa [merge]
  | x :: xs, ys, hx, hy => by
    obtain ⟨hfirst, hxs⟩ := List.pairwise_cons.1 hx
    have hbefore : ∀ y ∈ ys.takeWhile (fun y => decide (y.1 < x.1)), y.1 < x.1 := by
      intro y h
      simpa using List.mem_takeWhile_imp h
    have hafter : ∀ y ∈ merge xs (ys.dropWhile fun y => y.1 < x.1), x.1 ≤ y.1 := by
      intro y h
      rcases mem_merge.1 h with h | h
      · exact hfirst y h
      · exact le_of_mem_dropWhile hy h
    rw [merge, InOrder, List.pairwise_append]
    refine ⟨hy.sublist (List.takeWhile_sublist _), List.pairwise_cons.2
      ⟨hafter, inOrder_merge hxs (hy.sublist (List.dropWhile_sublist _))⟩, fun y h z hz => ?_⟩
    rcases List.mem_cons.1 hz with rfl | hz
    · exact (hbefore y h).le
    · exact (hbefore y h).le.trans (hafter z hz)

/-! ## Joining -/

theorem le_of_mem_absorb {lo : ℕ} {r : ℕ × ℕ} : ∀ {hi : ℕ} {rs : List (ℕ × ℕ)},
    InOrder ((lo, hi) :: rs) → r ∈ absorb lo hi rs → lo ≤ r.1
  | hi, [], _, h => by
    rw [absorb, List.mem_singleton] at h
    rw [h]
  | hi, (a, b) :: rs, ho, h => by
    obtain ⟨hlo, hrs⟩ := List.pairwise_cons.1 ho
    rw [absorb] at h
    split_ifs at h
    · refine le_of_mem_absorb (List.pairwise_cons.2 ⟨fun q hq => ?_, hrs.of_cons⟩) h
      exact hlo q (List.mem_cons_of_mem _ hq)
    rcases List.mem_cons.1 h with rfl | h
    · exact Nat.le_refl _
    · exact (hlo (a, b) List.mem_cons_self).trans (le_of_mem_absorb hrs h)

theorem inOrder_absorb : ∀ {lo hi : ℕ} {rs : List (ℕ × ℕ)},
    InOrder ((lo, hi) :: rs) → InOrder (absorb lo hi rs)
  | lo, hi, [], _ => List.pairwise_singleton _ _
  | lo, hi, (a, b) :: rs, ho => by
    obtain ⟨hlo, hrs⟩ := List.pairwise_cons.1 ho
    have hskip : InOrder ((lo, max hi b) :: rs) :=
      List.pairwise_cons.2 ⟨fun q hq => hlo q (List.mem_cons_of_mem _ hq), hrs.of_cons⟩
    rw [absorb]
    split_ifs
    · exact inOrder_absorb hskip
    · refine List.pairwise_cons.2 ⟨fun q hq => ?_, inOrder_absorb hrs⟩
      exact (hlo (a, b) List.mem_cons_self).trans (le_of_mem_absorb hrs hq)

theorem within_absorb {n : ℕ} : ∀ {lo hi : ℕ} {rs : List (ℕ × ℕ)}, InOrder ((lo, hi) :: rs) →
    (Within (absorb lo hi rs) n ↔ Within ((lo, hi) :: rs) n)
  | lo, hi, [], _ => Iff.rfl
  | lo, hi, (a, b) :: rs, ho => by
    obtain ⟨hlo, hrs⟩ := List.pairwise_cons.1 ho
    have hskip : InOrder ((lo, max hi b) :: rs) :=
      List.pairwise_cons.2 ⟨fun q hq => hlo q (List.mem_cons_of_mem _ hq), hrs.of_cons⟩
    have hle : lo ≤ a := hlo (a, b) List.mem_cons_self
    rw [absorb]
    split_ifs with htouch
    · have hjoin : lo ≤ n ∧ n ≤ max hi b ↔ (lo ≤ n ∧ n ≤ hi) ∨ (a ≤ n ∧ n ≤ b) := by omega
      rw [within_absorb hskip, within_cons, within_cons, within_cons, hjoin, or_assoc]
    · rw [within_cons, within_cons, within_absorb hrs]

/-! ## Unions -/

/-- The ranges of the set are in the order of their starts. -/
def Ordered (s : CharSet) : Prop := s.ranges.IsChain fun a b => a.1 ≤ b.1

instance : DecidablePred Ordered := fun s =>
  inferInstanceAs (Decidable (s.ranges.IsChain fun a b => a.1 ≤ b.1))

theorem ordered_iff {s : CharSet} : s.Ordered ↔ InOrder s.ranges := by
  have : IsTrans (ℕ × ℕ) fun a b => a.1 ≤ b.1 := ⟨fun _ _ _ hab hbc => hab.trans hbc⟩
  exact List.isChain_iff_pairwise

variable {s t : CharSet}

theorem Ordered.union (hs : s.Ordered) (ht : t.Ordered) : (s.union t).Ordered := by
  have hmerge := inOrder_merge (ordered_iff.1 hs) (ordered_iff.1 ht)
  rw [ordered_iff, CharSet.union]
  rcases hm : merge s.ranges t.ranges with _ | ⟨⟨a, b⟩, rest⟩
  · exact List.Pairwise.nil
  · exact inOrder_absorb (hm ▸ hmerge)

theorem holds_union (hs : s.Ordered) (ht : t.Ordered) (n : ℕ) :
    (s.union t).holds n = true ↔ s.holds n = true ∨ t.holds n = true := by
  have hmerge := inOrder_merge (ordered_iff.1 hs) (ordered_iff.1 ht)
  have hboth : Within (merge s.ranges t.ranges) n ↔ Within s.ranges n ∨ Within t.ranges n := by
    simp only [Within, mem_merge, or_and_right, exists_or]
  rw [holds_iff, holds_iff, holds_iff, ← hboth, CharSet.union]
  rcases hm : merge s.ranges t.ranges with _ | ⟨⟨a, b⟩, rest⟩
  · rfl
  · exact within_absorb (hm ▸ hmerge)

theorem contains_union (hs : s.Ordered) (ht : t.Ordered) (c : Char) :
    (s.union t).contains c = true ↔ s.contains c = true ∨ t.contains c = true :=
  holds_union hs ht c.toNat

theorem ordered_unions {ss : List CharSet} (h : ∀ s ∈ ss, s.Ordered) : (unions ss).Ordered := by
  have hfold : ∀ (ss : List CharSet) (t : CharSet), t.Ordered → (∀ s ∈ ss, s.Ordered) →
      (ss.foldl CharSet.union t).Ordered := by
    intro ss
    induction ss with
    | nil => exact fun t ht _ => ht
    | cons s ss ih =>
      intro t ht hss
      exact ih _ (ht.union (hss s List.mem_cons_self)) fun q hq => hss q (List.mem_cons_of_mem _ hq)
  exact hfold ss empty (by decide) h

theorem contains_unions {ss : List CharSet} (h : ∀ s ∈ ss, s.Ordered) (c : Char) :
    (unions ss).contains c = true ↔ ∃ s ∈ ss, s.contains c = true := by
  have hfold : ∀ (ss : List CharSet) (t : CharSet), t.Ordered → (∀ s ∈ ss, s.Ordered) →
      ((ss.foldl CharSet.union t).contains c = true ↔
        t.contains c = true ∨ ∃ s ∈ ss, s.contains c = true) := by
    intro ss
    induction ss with
    | nil => simp
    | cons s ss ih =>
      intro t ht hss
      have hs := hss s List.mem_cons_self
      rw [List.foldl_cons, ih _ (ht.union hs) fun q hq => hss q (List.mem_cons_of_mem _ hq),
        contains_union ht hs, List.exists_mem_cons_iff, or_assoc]
  have hempty : empty.contains c = false := rfl
  rw [unions, hfold ss empty (by decide) h, hempty]
  simp

end LexGen.CharSet
