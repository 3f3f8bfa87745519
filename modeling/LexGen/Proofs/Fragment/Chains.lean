import Mathlib.Data.Fintype.Card
import Mathlib.Data.Set.Finite.Basic
import Mathlib.Logic.Relation

/-!
# Chains

A relation leads from one name to others. That all chains from a name end (`Ends`) is, among finitely
many names, that no name that it leads to leads back to itself (`ends_iff`). A name is clear if the
chains from all others that it leads to end.

To let a name lead past another one to what that one leads to (`Bypass`) changes nothing about which
chains end (`Bypass.ends_iff`). It keeps names clear, and although a cycle may shrink to one name that
leads to itself, it never makes the last name clear that was not (`Bypass.clear_of_forall`).
-/

namespace LexGen.Fragments

open Relation

variable {α : Type} {r s : α → α → Prop} {u v x : α}

/-- All chains from `x` end. -/
def Ends (r : α → α → Prop) (x : α) : Prop := Acc (fun a b => r b a) x

/-- The chains from all others that `x` leads to end. -/
def Clear (r : α → α → Prop) (x : α) : Prop := ∀ w, r x w → w ≠ x → Ends r w

/-- `x` leads to no other one. -/
def Settled (r : α → α → Prop) (x : α) : Prop := ∀ w, r x w → w = x

theorem Ends.step (h : Ends r x) {w : α} (hw : r x w) : Ends r w := Acc.inv h hw

theorem Ends.not_transGen (h : Ends r x) : ¬TransGen r x x := by
  induction h with
  | intro x _ ih =>
    intro hx
    obtain ⟨y, hxy, hyx⟩ := TransGen.head'_iff.1 hx
    exact ih y hxy (TransGen.tail' hyx hxy)

theorem Ends.clear (h : Ends r x) : Clear r x := fun _ hw _ => h.step hw

/-- Among finitely many, a chain that does not end comes to one that leads back to itself. -/
theorem ends_iff {names : List α} (hr : ∀ x w, r x w → w ∈ names) :
    Ends r x ↔ ∀ w, ReflTransGen r x w → ¬TransGen r w w := by
  constructor
  · intro h w hw
    have hends : Ends r w := by
      induction hw with
      | refl => exact h
      | tail _ hstep ih => exact ih.step hstep
    exact hends.not_transGen
  · intro h
    let Reached := {w : α // w ∈ x :: names ∧ ReflTransGen r x w}
    have : Finite Reached := ((x :: names).finite_toSet.subset fun w hw => hw.1).to_subtype
    have : IsTrans Reached fun a b => TransGen r b.1 a.1 := ⟨fun _ _ _ hab hbc => hbc.trans hab⟩
    have : Std.Irrefl fun a b : Reached => TransGen r b.1 a.1 := ⟨fun a => h a.1 a.2.2⟩
    have hwf := Finite.wellFounded_of_trans_of_irrefl fun a b : Reached => TransGen r b.1 a.1
    have hends (w : Reached) : Ends r w.1 := by
      induction w using hwf.induction with
      | _ w ih =>
        refine Acc.intro _ fun y hy => ?_
        exact ih ⟨y, List.mem_cons_of_mem _ (hr _ _ hy), w.2.2.tail hy⟩ (.single hy)
    exact hends ⟨x, List.mem_cons_self, .refl⟩

/-- All are clear if and only if no other one leads to one that leads back to itself. -/
theorem forall_clear_iff {names : List α} (hr : ∀ x w, r x w → w ∈ names) :
    (∀ x, Clear r x) ↔ ∀ u v, r u v → u ≠ v → ¬TransGen r v v := by
  constructor
  · intro h u v huv hne
    exact (h u v huv (Ne.symm hne)).not_transGen
  · intro h x w hxw hne
    refine (ends_iff hr).2 fun z hwz => ?_
    -- the last step to `z` from another one, if `w` is not `z` itself
    induction hwz with
    | refl => exact h x w hxw (Ne.symm hne)
    | @tail b c _ hbc ih =>
      by_cases hb : b = c
      · exact hb ▸ ih
      · exact h b c hbc hb

/-! ## Leading past a name -/

/-- What `u` leads to in `s` is what it leads to in `r`, but in place of `v` what `v` leads to. -/
structure Bypass (r s : α → α → Prop) (u v : α) : Prop where
  ne : u ≠ v
  edge : r u v
  self_iff : ∀ w, s u w ↔ (r u w ∧ w ≠ v) ∨ r v w
  other_iff : ∀ x w, x ≠ u → (s x w ↔ r x w)

namespace Bypass

variable (h : Bypass r s u v)

include h

theorem transGen_of {w : α} (hw : s x w) : TransGen r x w := by
  by_cases hx : x = u
  · subst hx
    rcases (h.self_iff w).1 hw with hw | hw
    · exact .single hw.1
    · exact .tail (.single h.edge) hw
  · exact .single ((h.other_iff x w hx).1 hw)

theorem ends_iff : Ends s x ↔ Ends r x := by
  constructor
  · intro hx
    induction hx with
    | intro x _ ih =>
      refine Acc.intro x fun y hy => ?_
      by_cases hx : x = u
      · subst hx
        by_cases hyv : y = v
        · subst hyv
          exact Acc.intro y fun z hz => ih z ((h.self_iff z).2 (.inr hz))
        · exact ih y ((h.self_iff y).2 (.inl ⟨hy, hyv⟩))
      · exact ih y ((h.other_iff x y hx).2 hy)
  · intro hx
    have htrans : Acc (TransGen fun a b => r b a) x := hx.transGen
    refine Subrelation.accessible (fun {a b} hab => ?_) htrans
    exact transGen_swap.1 (h.transGen_of hab)

theorem clear (hx : Clear r x) : Clear s x := by
  intro w hw hne
  rw [h.ends_iff]
  by_cases hxu : x = u
  · subst hxu
    rcases (h.self_iff w).1 hw with hw | hw
    · exact hx w hw.1 hne
    · exact (hx v h.edge (Ne.symm h.ne)).step hw
  · exact hx w ((h.other_iff x w hxu).1 hw) hne

/-- If `u` is clear after it was not, then `v` leads to it, and is not clear either. -/
theorem clear_of_forall (hs : ∀ x, Clear s x) (x : α) : Clear r x := by
  intro w hw hne
  by_cases hxu : x = u
  · subst hxu
    by_cases hwv : w = v
    · subst hwv
      refine Acc.intro w fun z hz => ?_
      rw [← Ends, ← h.ends_iff]
      by_cases hzx : z = x
      · subst hzx
        exact hs w z ((h.other_iff w z hne).2 hz) h.ne
      · exact hs x z ((h.self_iff z).2 (.inr hz)) hzx
    · rw [← h.ends_iff]
      exact hs x w ((h.self_iff w).2 (.inl ⟨hw, hwv⟩)) hne
  · rw [← h.ends_iff]
    exact hs x w ((h.other_iff x w hxu).2 hw) hne

end Bypass

/-! ## Names that can be settled next -/

/-- `x` leads to another one, and all others that it leads to lead nowhere. -/
def Ready (r : α → α → Prop) (x : α) : Prop :=
  ¬Settled r x ∧ ∀ w, r x w → w ≠ x → ∀ z, ¬r w z

theorem Ends.not_rel (h : Ends r x) (hx : Settled r x) (w : α) : ¬r x w := by
  intro hw
  have hself := hx w hw
  subst hself
  exact h.not_transGen (.single hw)

theorem Ends.exists_ready (h : Ends r x) (hx : ¬Settled r x) : ∃ y, Ends r y ∧ Ready r y := by
  induction h with
  | intro x hacc ih =>
    by_cases hall : ∀ w, r x w → w ≠ x → Settled r w
    · have hends : Ends r x := Acc.intro x hacc
      exact ⟨x, hends, hx, fun w hw hne => (hends.step hw).not_rel (hall w hw hne)⟩
    · push Not at hall
      obtain ⟨w, hw, -, hw'⟩ := hall
      exact ih w hw hw'

/-- Where a clear name leads to another one, it can be settled, or one whose chains end can. -/
theorem Clear.exists_ready (h : Clear r x) (hx : ¬Settled r x) :
    ∃ y, (y = x ∨ Ends r y) ∧ Ready r y := by
  by_cases hall : ∀ w, r x w → w ≠ x → Settled r w
  · exact ⟨x, .inl rfl, hx, fun w hw hne => (h w hw hne).not_rel (hall w hw hne)⟩
  · push Not at hall
    obtain ⟨w, hw, hne, hw'⟩ := hall
    obtain ⟨y, hy, hready⟩ := (h w hw hne).exists_ready hw'
    exact ⟨y, .inr hy, hready⟩

end LexGen.Fragments
