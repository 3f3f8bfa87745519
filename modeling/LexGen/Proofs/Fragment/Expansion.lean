import LexGen.Proofs.Fragment.Rounds

/-!
# The expansion replaces all references

What a fragment stands for is its body with all references to fragments replaced at once by what they
stand for (`Solves`). Where names are plain and no fragment leads back to itself, there is one such
text for each fragment, and it is what the expansion gives, whatever the order of the names
(`expand_eq_of_acyclic`): no step changes what fragments stand for (`solves_iff_of_steps`), and where
no reference is left they stand for their bodies.
-/

namespace LexGen.Fragments

open Relation

/-- Every fragment stands for its body, with what the others stand for in place of the references. -/
def Solves (t : Fragments) (names : List String) (f : String → String) : Prop :=
  ∀ n body, t.find? n = some body → f n = String.ofList (substituteAll names f body.toList)

section Solves

variable {t t' : Fragments} {names : List String} {f : String → String}
  (hplain : ∀ n ∈ names, Plain n)

include hplain

theorem solves_iff_of_step (hnames : ∀ n ∈ t.keys, n ∈ names) (h : Step t t') :
    t'.Solves names f ↔ t.Solves names f := by
  cases h with
  | @replace u v body other hne hu hv _ =>
    have hmem : v ∈ names := hnames v (mem_keys_of_find? hv)
    have hv' : (t.insert u (String.ofList (substitute v other body.toList))).find? v =
        some other := by
      rw [Table.find?_insert, if_neg (Ne.symm hne), hv]
    have hu' : (t.insert u (String.ofList (substitute v other body.toList))).find? u =
        some (String.ofList (substitute v other body.toList)) := by
      rw [Table.find?_insert, if_pos rfl]
    have hsame (hf : f v = String.ofList (substituteAll names f other.toList)) :
        substituteAll names f (substitute v other body.toList) =
          substituteAll names f body.toList :=
      substituteAll_substitute (hplain v hmem) other f hplain hmem hf _
    constructor
    · intro h n b hn
      by_cases hnu : n = u
      · subst hnu
        have hfu := h n _ hu'
        rw [String.toList_ofList, hsame (h v other hv')] at hfu
        rw [hu, Option.some.injEq] at hn
        rw [hfu, hn]
      · exact h n b (by rw [Table.find?_insert, if_neg hnu, hn])
    · intro h n b hn
      by_cases hnu : n = u
      · subst hnu
        rw [hu', Option.some.injEq] at hn
        rw [← hn, String.toList_ofList, hsame (h v other hv), h n body hu]
      · rw [Table.find?_insert, if_neg hnu] at hn
        exact h n b hn

theorem solves_iff_of_steps (hnames : ∀ n ∈ t.keys, n ∈ names) (h : ReflTransGen Step t t') :
    t'.Solves names f ↔ t.Solves names f := by
  induction h with
  | refl => rfl
  | tail hsteps hstep ih =>
    rw [solves_iff_of_step hplain (keys_of_steps hsteps ▸ hnames) hstep, ih]

end Solves

/-! ## Where no reference is left -/

section Expanded

variable {m : Fragments} {names : List String} {f : String → String}
  (hnone : ∀ n body, m.find? n = some body → ∀ k ∈ names, ¬reference k <:+: body.toList)

include hnone

theorem solves_iff_of_no_reference :
    m.Solves names f ↔ ∀ n body, m.find? n = some body → f n = body := by
  refine forall_congr' fun n => forall_congr' fun body => forall_congr' fun hbody => ?_
  rw [substituteAll_of_no_reference f (hnone n body hbody), String.ofList_toList]

variable (hplain : ∀ n ∈ names, Plain n)

include hplain

theorem not_infix_foldl_substitute :
    ∀ {es : List (String × String)} {text : List Char},
      (∀ e ∈ es, e.1 ∈ names ∧ m.find? e.1 = some e.2) →
      (∀ k ∈ names, reference k <:+: text → k ∈ es.map (·.1)) →
      ∀ k ∈ names, ¬reference k <:+: es.foldl (fun text e => substitute e.1 e.2 text) text
  | [], text, _, h, k, hk => fun hin => by simpa using h k hk hin
  | (n, b) :: es, text, hes, h, k, hk => by
    obtain ⟨hn, hb⟩ := hes (n, b) List.mem_cons_self
    refine not_infix_foldl_substitute (fun e he => hes e (List.mem_cons_of_mem _ he))
      (fun w hw hin => ?_) k hk
    rcases (infix_substitute (hplain n hn) b (hplain w hw) text).1 hin with ⟨hin, hne⟩ | ⟨-, hin⟩
    · simpa [hne] using h w hw hin
    · exact absurd hin (hnone n b hb w hw)

omit hnone in
theorem substituteAll_foldl_substitute (hf : m.Solves names f) :
    ∀ {es : List (String × String)} {text : List Char},
      (∀ e ∈ es, e.1 ∈ names ∧ m.find? e.1 = some e.2) →
      substituteAll names f (es.foldl (fun text e => substitute e.1 e.2 text) text) =
        substituteAll names f text
  | [], _, _ => rfl
  | (n, b) :: es, text, hes => by
    obtain ⟨hn, hb⟩ := hes (n, b) List.mem_cons_self
    rw [List.foldl_cons,
      substituteAll_foldl_substitute hf fun e he => hes e (List.mem_cons_of_mem _ he)]
    exact substituteAll_substitute (hplain n hn) b f hplain hn (hf n b hb) text

/-- To replace the references one fragment after the other is to replace them all at once. -/
theorem expandPattern_eq (hnames : ∀ n, n ∈ names ↔ n ∈ m.keys) (hf : m.Solves names f)
    (p : String) : m.expandPattern p = String.ofList (substituteAll names f p.toList) := by
  have hes : ∀ e ∈ m.entries, e.1 ∈ names ∧ m.find? e.1 = some e.2 := by
    intro e he
    have hfind : m.find? e.1 = some e.2 := Table.find?_eq_some_iff.2 he
    exact ⟨(hnames _).2 (mem_keys_of_find? hfind), hfind⟩
  have hleft : ∀ k ∈ names, ¬reference k <:+:
      m.entries.foldl (fun text e => substitute e.1 e.2 text) p.toList :=
    not_infix_foldl_substitute hnone hplain hes fun k hk _ => (hnames k).1 hk
  rw [expandPattern, ← substituteAll_foldl_substitute hplain hf hes,
    substituteAll_of_no_reference f hleft]

end Expanded

/-- Without cycles, what the fragments stand for is determined, and it is what the expansion gives
for them and puts in place of the references in a pattern. -/
theorem expand_eq_of_acyclic (t : Fragments) (hplain : ∀ n ∈ t.keys, Plain n)
    (hacyclic : ∀ n, ¬TransGen t.Refers n n) {names : List String}
    (hnames : ∀ n, n ∈ names ↔ n ∈ t.keys) :
    ∃ f : String → String, t.Solves names f ∧
      (∀ g, t.Solves names g → ∀ n ∈ t.keys, g n = f n) ∧
      ∃ m, t.expand = .ok m ∧ m.keys = t.keys ∧ (∀ n ∈ t.keys, m.find? n = some (f n)) ∧
        ∀ p, m.expandPattern p = String.ofList (substituteAll names f p.toList) := by
  have hends : ∀ n, Ends t.Refers n :=
    fun n => (ends_iff t.mem_keys_of_refers).2 fun w _ => hacyclic w
  have hplain' : ∀ n ∈ names, Plain n := fun n hn => hplain n ((hnames n).1 hn)
  have hsub : ∀ n ∈ t.keys, n ∈ names := fun n hn => (hnames n).2 hn
  rcases hm : t.expand with e | m
  · obtain ⟨ns, -, hne, hnot⟩ := not_clear_of_expand hplain hm
    obtain ⟨n, hn⟩ := List.exists_mem_of_ne_nil ns hne
    exact absurd (hends n).clear (hnot n hn).2
  obtain ⟨hsteps, hsettled⟩ := settled_of_expand hplain hm
  have hkeys := keys_of_steps hsteps
  have hnone : ∀ n body, m.find? n = some body → ∀ k ∈ names, ¬reference k <:+: body.toList := by
    intro n body hbody k hk hin
    have hn : Ends m.Refers n := (ends_iff_of_steps hsteps hplain n).2 (hends n)
    refine hn.not_rel (hsettled n) k ((refers_iff hbody).2 ⟨?_, hin⟩)
    exact hkeys ▸ (hnames k).1 hk
  -- what fragments stand for is told by the expanded ones, whose bodies have no references
  have hsolves (g : String → String) :
      t.Solves names g ↔ ∀ n body, m.find? n = some body → g n = body := by
    rw [← solves_iff_of_steps hplain' hsub hsteps, solves_iff_of_no_reference hnone]
  have hf : t.Solves names fun n => (m.find? n).getD "" :=
    (hsolves _).2 fun n body hbody => by rw [hbody, Option.getD_some]
  refine ⟨_, hf, fun g hg n hn => ?_, m, rfl, hkeys, fun n hn => ?_, fun p => ?_⟩
  · obtain ⟨body, hbody⟩ := Table.mem_keys_iff.1 (hkeys ▸ hn)
    rw [(hsolves g).1 hg n body hbody, hbody, Option.getD_some]
  · obtain ⟨body, hbody⟩ := Table.mem_keys_iff.1 (hkeys ▸ hn)
    rw [hbody, Option.getD_some]
  · exact expandPattern_eq hnone hplain' (fun n => hkeys ▸ hnames n)
      ((solves_iff_of_steps hplain' hsub hsteps).2 hf) p

/-- Fragments for numbers. In the order of the names, `float` comes before `int`, to which it refers. -/
def numbers : Fragments :=
  .ofList [("d", "[0-9]"), ("float", "{int}\\.{int}"), ("int", "{d}{d}*")]

/-- In `numbers`, every reference leads to a shorter name. -/
theorem numbers_acyclic (n : String) : ¬TransGen numbers.Refers n n := by
  have hshorter : ∀ u ∈ numbers.keys, ∀ v ∈ numbers.keys,
      Text.occursIn (reference v) ((numbers.find? u).getD "").toList = true →
        v.length < u.length := by
    decide +kernel
  have hone {u v : String} (h : numbers.Refers u v) : v.length < u.length := by
    obtain ⟨hv, body, hu, hin⟩ := h
    refine hshorter u (mem_keys_of_find? hu) v hv ?_
    rw [hu, Option.getD_some, Text.occursIn_iff]
    exact hin
  have hlt {u v : String} (h : TransGen numbers.Refers u v) : v.length < u.length := by
    induction h with
    | single h => exact hone h
    | tail _ h ih => exact (hone h).trans ih
  exact fun h => Nat.lt_irrefl _ (hlt h)

/-- What `float` stands for does not depend on the order in which the names are listed. -/
theorem expand_eq_of_acyclic_numbers :
    (∀ n ∈ numbers.keys, Plain n) ∧ (∀ n, ¬TransGen numbers.Refers n n) ∧
    (∀ n, n ∈ ["int", "d", "float"] ↔ n ∈ numbers.keys) ∧
    ∃ f, numbers.Solves ["int", "d", "float"] f ∧
      f "float" = "(([0-9])([0-9])*)\\.(([0-9])([0-9])*)" ∧
      ∃ m, numbers.expand = .ok m ∧ m.find? "float" = some (f "float") ∧
        m.expandPattern "{float}|-" =
          String.ofList (substituteAll ["int", "d", "float"] f "{float}|-".toList) := by
  have hplain : ∀ n ∈ numbers.keys, Plain n := by decide +kernel
  have hkeys : numbers.keys = ["d", "float", "int"] := by decide +kernel
  have hnames : ∀ n, n ∈ ["int", "d", "float"] ↔ n ∈ numbers.keys := by
    intro n
    have hperm : ["int", "d", "float"].Perm ["d", "float", "int"] := by decide
    rw [hkeys, hperm.mem_iff]
  have hfloat : numbers.expand.toOption.bind (·.find? "float") =
      some "(([0-9])([0-9])*)\\.(([0-9])([0-9])*)" := by
    decide +kernel
  obtain ⟨f, hf, -, m, hm, -, hfind, hpattern⟩ :=
    expand_eq_of_acyclic numbers hplain numbers_acyclic hnames
  rw [hm] at hfloat
  have hvalue := hfind "float" (by simp [hkeys])
  exact ⟨hplain, numbers_acyclic, hnames, f, hf, Option.some.inj (hvalue.symm.trans hfloat), m, hm,
    hvalue, hpattern _⟩

end LexGen.Fragments
