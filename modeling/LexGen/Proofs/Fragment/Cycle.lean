import LexGen.Proofs.Fragment.Rounds

/-!
# Cycles are found exactly

Where names are plain, the expansion fails if and only if a fragment refers to another one that
refers back to itself, and the fragments that it reports lead to such ones (`expand_cyclic_iff`).
-/

namespace LexGen.Fragments

open Relation

/-- A fragment that is not clear leads over another one to one that leads back to itself. -/
theorem exists_cycle_of_not_clear {t : Fragments} {u : String} (h : ¬Clear t.Refers u) :
    ∃ v w, v ≠ u ∧ t.Refers u v ∧ ReflTransGen t.Refers v w ∧ TransGen t.Refers w w := by
  simp only [Clear, not_forall] at h
  obtain ⟨v, huv, hne, hv⟩ := h
  rw [ends_iff t.mem_keys_of_refers] at hv
  push Not at hv
  obtain ⟨w, hvw, hww⟩ := hv
  exact ⟨v, w, hne, huv, hvw, hww⟩

/-- The expansion succeeds if and only if no fragment refers to another one that refers back to
itself, be it over others. Otherwise the error names fragments that lead to such ones. -/
theorem expand_cyclic_iff (t : Fragments) (hplain : ∀ n ∈ t.keys, Plain n) :
    ((∃ m, t.expand = .ok m) ↔
      ∀ u v, t.Refers u v → u ≠ v → ¬TransGen t.Refers v v) ∧
    ∀ e, t.expand = .error e → ∃ names, e = .cyclicFragments names ∧ names ≠ [] ∧
      ∀ u ∈ names, u ∈ t.keys ∧ ∃ v w, v ≠ u ∧ t.Refers u v ∧ ReflTransGen t.Refers v w ∧
        TransGen t.Refers w w := by
  refine ⟨?_, fun e he => ?_⟩
  · rw [← forall_clear_iff t.mem_keys_of_refers]
    constructor
    · rintro ⟨m, hm⟩
      obtain ⟨hsteps, hsettled⟩ := settled_of_expand hplain hm
      exact forall_clear_of_steps hsteps hplain fun x w hw hne => absurd (hsettled x w hw) hne
    · intro hclear
      rcases hx : t.expand with e | m
      · obtain ⟨names, -, hne, hnot⟩ := not_clear_of_expand hplain hx
        obtain ⟨x, hx⟩ := List.exists_mem_of_ne_nil names hne
        exact absurd (hclear x) (hnot x hx).2
      · exact ⟨m, rfl⟩
  · obtain ⟨names, rfl, hne, hnot⟩ := not_clear_of_expand hplain he
    exact ⟨names, rfl, hne, fun u hu => ⟨(hnot u hu).1, exists_cycle_of_not_clear (hnot u hu).2⟩⟩

/-- Fragments of which two refer to each other and one to itself. -/
def knot : Fragments := .ofList [("a", "{b}x"), ("b", "{a}y"), ("c", "{c}z")]

/-- The reference of `c` to itself is none. At the end `a` too refers to itself only, and `b` is left. -/
theorem expand_cyclic_iff_knot :
    (∀ n ∈ knot.keys, Plain n) ∧ knot.expand = .error (.cyclicFragments ["b"]) ∧
    ∃ v w, v ≠ "b" ∧ knot.Refers "b" v ∧ ReflTransGen knot.Refers v w ∧
      TransGen knot.Refers w w := by
  have hplain : ∀ n ∈ knot.keys, Plain n := by decide +kernel
  have herror : knot.expand = .error (.cyclicFragments ["b"]) := by
    have h : (match knot.expand with
        | .error e => some e
        | .ok _ => none) = some (.cyclicFragments ["b"]) := by decide +kernel
    rcases he : knot.expand with e | m
    · rw [he] at h
      exact congrArg _ (Option.some.inj h)
    · rw [he] at h
      cases h
  obtain ⟨names, hnames, -, hcycle⟩ := (expand_cyclic_iff knot hplain).2 _ herror
  obtain rfl : ["b"] = names := by simpa using hnames
  exact ⟨hplain, herror, (hcycle "b" (by simp)).2⟩

end LexGen.Fragments
