import LexGen.Proofs.Fragment.Rounds

/-!
# What is expanded stays as it is

The expansion ends with a round that finds no reference to another fragment. So whatever the names
are made of, and although what stands in place of a reference may then be a part of another one, to
expand what has been expanded changes nothing (`expand_expand`). Where no fragment refers to another
one, all of them are expanded already (`expand_eq_self_iff`).
-/

namespace LexGen.Fragments

open Relation

theorem settled_iff {t : Fragments} {a body : String} (h : t.find? a = some body) :
    Settled t.Refers a ↔ ∀ b ∈ t.keys, b ≠ a → ¬reference b <:+: body.toList := by
  refine forall_congr' fun b => ?_
  rw [refers_iff h]
  tauto

/-- No step changes a fragment that refers to no other one. -/
theorem find?_of_step {t t' : Fragments} (h : Step t t') {x : String} (hx : Settled t.Refers x) :
    t'.find? x = t.find? x := by
  cases h with
  | @replace u v body other hne hu hv href =>
    have hxu : x ≠ u := by
      rintro rfl
      exact hne (hx v ((refers_iff hu).2 ⟨mem_keys_of_find? hv, href⟩)).symm
    rw [Table.find?_insert, if_neg hxu]

theorem find?_of_steps {t t' : Fragments} (h : ReflTransGen Step t t') {x : String}
    (hx : Settled t.Refers x) : t'.find? x = t.find? x := by
  induction h with
  | refl => rfl
  | @tail u v hsteps hstep ih =>
    have hux : Settled u.Refers x :=
      fun w hw => hx w ((refers_congr (keys_of_steps hsteps) ih w).1 hw)
    rw [find?_of_step hstep hux, ih]

theorem expand_eq_self_iff {t : Fragments} : t.expand = .ok t ↔ ∀ x, Settled t.Refers x := by
  constructor
  · intro h
    obtain ⟨left, hr⟩ := exists_rounds_of_expand h
    exact (settled_of_rounds .refl hr).2
  · intro h
    have hnone := round_eq_nil_iff.2 h
    rw [expand, rounds]
    simp only [hnone, List.isEmpty_nil, if_true, round_eq_self hnone]

/-- Of what the expansion gives, no fragment refers to another one, so that to expand it again
changes nothing. The names are as before, and so are the fragments that refer to no other one. -/
theorem expand_expand {t m : Fragments} (h : t.expand = .ok m) :
    m.keys = t.keys ∧
    (∀ a body, m.find? a = some body → ∀ b ∈ m.keys, b ≠ a → ¬reference b <:+: body.toList) ∧
    (∀ a body, t.find? a = some body →
      (∀ b ∈ t.keys, b ≠ a → ¬reference b <:+: body.toList) → m.find? a = some body) ∧
    m.expand = .ok m := by
  obtain ⟨left, hr⟩ := exists_rounds_of_expand h
  obtain ⟨hsteps, hsettled⟩ := settled_of_rounds .refl hr
  refine ⟨keys_of_steps hsteps, fun a body ha => (settled_iff ha).1 (hsettled a),
    fun a body ha hnone => ?_, expand_eq_self_iff.2 hsettled⟩
  rw [find?_of_steps hsteps ((settled_iff ha).2 hnone), ha]

/-- Fragments of which one has a name in parentheses. -/
def parenthesized : Fragments := .ofList [("(b)", "c+"), ("a", "b"), ("x", "{{a}}|{x}")]

/-- What stands in place of the reference to `a` makes a reference to `(b)`, which is replaced too. -/
theorem expand_expand_parenthesized : ∃ m,
    parenthesized.expand = .ok m ∧ m.entries = [("(b)", "c+"), ("a", "b"), ("x", "(c+)|{x}")] ∧
    m.keys = parenthesized.keys ∧
    (∀ b ∈ m.keys, b ≠ "x" → ¬reference b <:+: "(c+)|{x}".toList) ∧ m.expand = .ok m := by
  have hentries : parenthesized.expand.toOption.map Table.entries =
      some [("(b)", "c+"), ("a", "b"), ("x", "(c+)|{x}")] := by
    decide +kernel
  rcases hm : parenthesized.expand with e | m
  · rw [hm] at hentries
    cases hentries
  rw [hm] at hentries
  have hentries : m.entries = [("(b)", "c+"), ("a", "b"), ("x", "(c+)|{x}")] :=
    Option.some.inj hentries
  have hx : m.find? "x" = some "(c+)|{x}" := by
    rw [Table.find?_eq_some_iff, hentries]
    simp
  obtain ⟨hkeys, hnone, -, hagain⟩ := expand_expand hm
  exact ⟨m, rfl, hentries, hkeys, hnone "x" _ hx, hagain⟩

end LexGen.Fragments
