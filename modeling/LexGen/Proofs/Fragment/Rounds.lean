import LexGen.Proofs.Fragment.Chains
import LexGen.Proofs.Fragment.Reference
import LexGen.Proofs.Table
import Mathlib.Data.Finset.Card

/-!
# Rounds of expansion

The expansion changes one body at a time, by steps that replace the references to one other fragment
(`Step`). So it keeps what each step keeps: the names, and which chains of references end
(`ends_iff_of_steps`).

A round changes the fragments that refer to another one (`mem_round`), and where all others that a
fragment refers to have no references left, it settles it (`settled_round`). In this way each round
settles a clear fragment that is left, so that there are rounds enough to settle them all
(`not_clear_of_rounds`).
-/

namespace LexGen.Fragments

open Relation

/-- The body of `u` has a reference to the fragment `v`. -/
def Refers (t : Fragments) (u v : String) : Prop :=
  v ∈ t.keys ∧ ∃ body, t.find? u = some body ∧ reference v <:+: body.toList

/-- The references to one fragment are replaced in the body of another one. -/
inductive Step (t : Fragments) : Fragments → Prop
  | replace {u v body other : String} : u ≠ v → t.find? u = some body → t.find? v = some other →
    reference v <:+: body.toList →
    Step t (t.insert u (String.ofList (substitute v other body.toList)))

theorem mem_keys_of_find? {t : Fragments} {u body : String} (h : t.find? u = some body) :
    u ∈ t.keys :=
  Table.mem_keys_iff.2 ⟨body, h⟩

theorem refers_iff {t : Fragments} {u v body : String} (h : t.find? u = some body) :
    t.Refers u v ↔ v ∈ t.keys ∧ reference v <:+: body.toList := by
  simp only [Refers, h, Option.some.injEq, exists_eq_left']

theorem mem_keys_of_refers (t : Fragments) (u v : String) (h : t.Refers u v) : v ∈ t.keys := h.1

theorem Refers.mem_keys {t : Fragments} {u v : String} (h : t.Refers u v) : u ∈ t.keys :=
  let ⟨_, _, hbody, _⟩ := h
  mem_keys_of_find? hbody

/-- What a fragment refers to is told by its body and the names. -/
theorem refers_congr {t t' : Fragments} (hkeys : t'.keys = t.keys) {u : String}
    (hu : t'.find? u = t.find? u) (v : String) : t'.Refers u v ↔ t.Refers u v := by
  rw [Refers, Refers, hkeys, hu]

/-! ## Steps -/

namespace Step

variable {t t' : Fragments}

theorem keys_eq (h : Step t t') : t'.keys = t.keys := by
  cases h with
  | replace _ hu _ _ => exact Table.keys_insert (mem_keys_of_find? hu) _

theorem bypass (h : Step t t') (hplain : ∀ n ∈ t.keys, Plain n) :
    ∃ u v, Bypass t.Refers t'.Refers u v := by
  have hkeys := h.keys_eq
  cases h with
  | @replace u v body other hne hu hv href =>
    have hvmem := mem_keys_of_find? hv
    have hself : (t.insert u (String.ofList (substitute v other body.toList))).find? u =
        some (String.ofList (substitute v other body.toList)) := by
      rw [Table.find?_insert, if_pos rfl]
    refine ⟨u, v, hne, (refers_iff hu).2 ⟨hvmem, href⟩, fun w => ?_, fun x w hx => ?_⟩
    · rw [refers_iff hself, refers_iff hu, refers_iff hv, hkeys, String.toList_ofList]
      constructor
      · rintro ⟨hw, hin⟩
        rcases (infix_substitute (hplain v hvmem) other (hplain w hw) _).1 hin with h | h
        · exact .inl ⟨⟨hw, h.1⟩, h.2⟩
        · exact .inr ⟨hw, h.2⟩
      · rintro (⟨⟨hw, hin⟩, hwv⟩ | ⟨hw, hin⟩)
        · exact ⟨hw, (infix_substitute (hplain v hvmem) other (hplain w hw) _).2 (.inl ⟨hin, hwv⟩)⟩
        · exact ⟨hw, (infix_substitute (hplain v hvmem) other (hplain w hw) _).2 (.inr ⟨href, hin⟩)⟩
    · exact refers_congr hkeys (by rw [Table.find?_insert, if_neg hx]) w

end Step

section Steps

variable {t t' : Fragments} (h : ReflTransGen Step t t')

include h

theorem keys_of_steps : t'.keys = t.keys := by
  induction h with
  | refl => rfl
  | tail _ hstep ih => rw [hstep.keys_eq, ih]

variable (hplain : ∀ n ∈ t.keys, Plain n)

include hplain

theorem ends_iff_of_steps (x : String) : Ends t'.Refers x ↔ Ends t.Refers x := by
  induction h with
  | refl => rfl
  | tail hsteps hstep ih =>
    obtain ⟨u, v, hb⟩ := hstep.bypass (keys_of_steps hsteps ▸ hplain)
    rw [hb.ends_iff, ih]

theorem clear_of_steps {x : String} (hx : Clear t.Refers x) : Clear t'.Refers x := by
  induction h with
  | refl => exact hx
  | tail hsteps hstep ih =>
    obtain ⟨u, v, hb⟩ := hstep.bypass (keys_of_steps hsteps ▸ hplain)
    exact hb.clear ih

theorem forall_clear_of_steps (hclear : ∀ x, Clear t'.Refers x) : ∀ x, Clear t.Refers x := by
  induction h with
  | refl => exact hclear
  | tail hsteps hstep ih =>
    obtain ⟨u, v, hb⟩ := hstep.bypass (keys_of_steps hsteps ▸ hplain)
    exact ih (hb.clear_of_forall hclear)

end Steps

/-! ## The turn of one fragment -/

theorem expandBody_snd (u : String) :
    ∀ (es : List (String × String)) (text : List Char),
      (expandBody u es text).2 = true ↔ ∃ e ∈ es, e.1 ≠ u ∧ reference e.1 <:+: text
  | [], text => by simp [expandBody]
  | (v, b) :: es, text => by
    simp only [expandBody, Text.occursIn_iff, List.exists_mem_cons_iff]
    split_ifs with h
    · simp [h]
    · rw [expandBody_snd u es text]
      simp only [h, false_or]

/-- The turn of a fragment takes one step after the other. -/
theorem steps_expandBody {u : String} :
    ∀ {es : List (String × String)} {t : Fragments} {body : String},
      (∀ e ∈ es, e.1 ≠ u → t.find? e.1 = some e.2) → t.find? u = some body →
        ReflTransGen Step t (t.insert u (String.ofList (expandBody u es body.toList).1))
  | [], t, body, _, hu => by
    rw [expandBody, String.ofList_toList, Table.insert_of_find? hu]
  | (v, b) :: es, t, body, hes, hu => by
    have hrest : ∀ e ∈ es, e.1 ≠ u → t.find? e.1 = some e.2 :=
      fun e he => hes e (List.mem_cons_of_mem _ he)
    rw [expandBody]
    split_ifs with h
    · rw [Text.occursIn_iff] at h
      have hstep := Step.replace (Ne.symm h.1) hu (hes _ List.mem_cons_self h.1) h.2
      have hes' : ∀ e ∈ es, e.1 ≠ u →
          (t.insert u (String.ofList (substitute v b body.toList))).find? e.1 = some e.2 := by
        intro e he hne
        rw [Table.find?_insert, if_neg hne, hrest e he hne]
      have ih := steps_expandBody hes' (by rw [Table.find?_insert, if_pos rfl])
      rw [Table.insert_insert, String.toList_ofList] at ih
      exact .head hstep ih
    · exact steps_expandBody hrest hu

/-- If all others that the text refers to are still to come and have no references, none is left. -/
theorem not_infix_expandBody {t : Fragments} (hplain : ∀ n ∈ t.keys, Plain n) {u : String} :
    ∀ {es : List (String × String)} {text : List Char}, (∀ e ∈ es, t.find? e.1 = some e.2) →
      (∀ w ∈ t.keys, w ≠ u → reference w <:+: text →
        (∃ b, (w, b) ∈ es) ∧ ∀ z, ¬t.Refers w z) →
      ∀ w ∈ t.keys, w ≠ u → ¬reference w <:+: (expandBody u es text).1
  | [], text, _, h, w, hw, hne => fun hin => by
    obtain ⟨⟨b, hb⟩, -⟩ := h w hw hne hin
    cases hb
  | (v, b) :: es, text, hes, h, w, hw, hne => by
    have hrest : ∀ e ∈ es, t.find? e.1 = some e.2 := fun e he => hes e (List.mem_cons_of_mem _ he)
    have hv : t.find? v = some b := hes _ List.mem_cons_self
    have hvmem := mem_keys_of_find? hv
    rw [expandBody]
    split_ifs with hc
    · rw [Text.occursIn_iff] at hc
      refine not_infix_expandBody hplain hrest (fun z hz hzu hin => ?_) w hw hne
      rcases (infix_substitute (hplain v hvmem) b (hplain z hz) _).1 hin with ⟨hin, hzv⟩ | ⟨-, hin⟩
      · obtain ⟨⟨c, hc⟩, hnone⟩ := h z hz hzu hin
        refine ⟨⟨c, ?_⟩, hnone⟩
        simpa [hzv] using hc
      · exact absurd ((refers_iff hv).2 ⟨hz, hin⟩) ((h v hvmem hc.1 hc.2).2 z)
    · rw [Text.occursIn_iff] at hc
      refine not_infix_expandBody hplain hrest (fun z hz hzu hin => ?_) w hw hne
      obtain ⟨⟨c, hcmem⟩, hnone⟩ := h z hz hzu hin
      rcases List.mem_cons.1 hcmem with heq | hcmem
      · rw [Prod.mk.injEq] at heq
        exact absurd ⟨heq.1 ▸ hzu, heq.1 ▸ hin⟩ hc
      · exact ⟨⟨c, hcmem⟩, hnone⟩

/-- What the turn of a fragment does to the others and to itself. -/
structure Turn (t t' : Fragments) (n : String) : Prop where
  steps : ReflTransGen Step t t'
  other : ∀ x, x ≠ n → t'.find? x = t.find? x
  same : Settled t.Refers n → t' = t
  settled : (∀ k ∈ t.keys, Plain k) → (∀ w, t.Refers n w → w ≠ n → ∀ z, ¬t.Refers w z) →
    Settled t'.Refers n

theorem round_cons {t : Fragments} {n : String} (hn : n ∈ t.keys) (names : List String) :
    ∃ t', Turn t t' n ∧ (round (n :: names) t).1 = (round names t').1 ∧
      ∀ x, x ∈ (round (n :: names) t).2 ↔
        (x = n ∧ ¬Settled t.Refers n) ∨ x ∈ (round names t').2 := by
  obtain ⟨body, hbody⟩ := Table.mem_keys_iff.1 hn
  have hes : ∀ e ∈ t.entries, t.find? e.1 = some e.2 := fun e he => Table.find?_eq_some_iff.2 he
  have hsettled : (expandBody n t.entries body.toList).2 = true ↔ ¬Settled t.Refers n := by
    rw [expandBody_snd]
    simp only [Settled, refers_iff hbody, not_forall]
    constructor
    · rintro ⟨e, he, hne, hin⟩
      exact ⟨e.1, ⟨mem_keys_of_find? (hes e he), hin⟩, hne⟩
    · rintro ⟨w, ⟨hw, hin⟩, hne⟩
      obtain ⟨b, hb⟩ := Table.mem_keys_iff.1 hw
      exact ⟨(w, b), Table.find?_eq_some_iff.1 hb, hne, hin⟩
  rw [round]
  simp only [hbody, Option.getD_some]
  by_cases hc : (expandBody n t.entries body.toList).2 = true
  · have hsteps := steps_expandBody (fun e he _ => hes e he) hbody
    refine ⟨_, ⟨hsteps, fun x hx => ?_, fun hs => absurd hs (hsettled.1 hc),
        fun hplain hready w hw => ?_⟩,
      by rw [if_pos hc], fun x => ?_⟩
    · rw [Table.find?_insert, if_neg hx]
    · by_contra hne
      rw [refers_iff (by rw [Table.find?_insert, if_pos rfl]), keys_of_steps hsteps,
        String.toList_ofList] at hw
      refine not_infix_expandBody hplain hes (fun z hz hzn hin => ?_) w hw.1 hne hw.2
      obtain ⟨b, hb⟩ := Table.mem_keys_iff.1 hz
      exact ⟨⟨b, Table.find?_eq_some_iff.1 hb⟩, hready z ((refers_iff hbody).2 ⟨hz, hin⟩) hzn⟩
    · simp [hc, hsettled.1 hc]
  · have hs : Settled t.Refers n := not_not.1 (mt hsettled.2 hc)
    exact ⟨t, ⟨.refl, fun _ _ => rfl, fun _ => rfl, fun _ _ => hs⟩, by rw [if_neg hc],
      fun x => by simp [hc, hs]⟩

/-! ## Rounds -/

section Round

variable {t : Fragments}

theorem steps_round {names : List String} (hnames : ∀ n ∈ names, n ∈ t.keys) :
    ReflTransGen Step t (round names t).1 := by
  induction names generalizing t with
  | nil => exact .refl
  | cons n names ih =>
    obtain ⟨t', hturn, hround, -⟩ := round_cons (hnames n List.mem_cons_self) names
    have hkeys := keys_of_steps hturn.steps
    rw [hround]
    refine hturn.steps.trans (ih fun k hk => ?_)
    exact hkeys ▸ hnames k (List.mem_cons_of_mem _ hk)

/-- A round changes the fragments that refer to another one. -/
theorem mem_round {names : List String} (hnames : ∀ n ∈ names, n ∈ t.keys) (hnodup : names.Nodup)
    (x : String) : x ∈ (round names t).2 ↔ x ∈ names ∧ ¬Settled t.Refers x := by
  induction names generalizing t with
  | nil => simp [round]
  | cons n names ih =>
    obtain ⟨t', hturn, -, hmem⟩ := round_cons (hnames n List.mem_cons_self) names
    have hkeys := keys_of_steps hturn.steps
    rw [List.nodup_cons] at hnodup
    rw [hmem, ih (fun k hk => hkeys ▸ hnames k (List.mem_cons_of_mem _ hk)) hnodup.2,
      List.mem_cons]
    have hsame : x ∈ names → (Settled t'.Refers x ↔ Settled t.Refers x) := by
      intro hx
      have hne : x ≠ n := fun hxn => hnodup.1 (hxn ▸ hx)
      exact forall_congr' fun w => imp_congr_left (refers_congr hkeys (hturn.other x hne) w)
    by_cases hxn : x = n
    · subst hxn
      simp [hnodup.1]
    · by_cases hx : x ∈ names <;> simp [hxn, hx, hsame]

theorem find?_round {x : String} :
    ∀ {names : List String} {t : Fragments}, x ∉ (round names t).2 →
      (round names t).1.find? x = t.find? x
  | [], _, _ => rfl
  | n :: names, t, h => by
    rw [round] at h ⊢
    dsimp only at h ⊢
    split_ifs at h ⊢
    · simp only [List.mem_cons, not_or] at h
      rw [find?_round h.2, Table.find?_insert, if_neg h.1]
    · exact find?_round h

theorem settled_of_settled {names : List String} (hnames : ∀ n ∈ names, n ∈ t.keys)
    (hnodup : names.Nodup) {x : String} (hx : Settled t.Refers x) :
    Settled (round names t).1.Refers x := by
  have hfind : (round names t).1.find? x = t.find? x :=
    find?_round fun hmem => ((mem_round hnames hnodup x).1 hmem).2 hx
  intro w hw
  exact hx w ((refers_congr (keys_of_steps (steps_round hnames)) hfind w).1 hw)

/-- A round settles a fragment if the others that it refers to have no references. -/
theorem settled_round (hplain : ∀ n ∈ t.keys, Plain n) {names : List String}
    (hnames : ∀ n ∈ names, n ∈ t.keys) (hnodup : names.Nodup) {x : String} (hx : x ∈ names)
    (hready : ∀ w, t.Refers x w → w ≠ x → ∀ z, ¬t.Refers w z) :
    Settled (round names t).1.Refers x := by
  induction names generalizing t with
  | nil => cases hx
  | cons n names ih =>
    obtain ⟨t', hturn, hround, -⟩ := round_cons (hnames n List.mem_cons_self) names
    have hkeys := keys_of_steps hturn.steps
    have hnames' : ∀ k ∈ names, k ∈ t'.keys :=
      fun k hk => hkeys ▸ hnames k (List.mem_cons_of_mem _ hk)
    rw [List.nodup_cons] at hnodup
    rw [hround]
    rcases List.mem_cons.1 hx with rfl | hx
    · exact settled_of_settled hnames' hnodup.2 (hturn.settled hplain hready)
    · have hxn : x ≠ n := fun h => hnodup.1 (h ▸ hx)
      refine ih (hkeys ▸ hplain) hnames' hnodup.2 hx fun w hw hwx z hz => ?_
      have hnone := hready w ((refers_congr hkeys (hturn.other x hxn) w).1 hw) hwx
      -- what has no references is as before, also if its turn has been
      by_cases hwn : w = n
      · subst hwn
        have hs : Settled t.Refers w := fun y hy => absurd hy (hnone y)
        exact hnone z (hturn.same hs ▸ hz)
      · exact hnone z ((refers_congr hkeys (hturn.other w hwn) z).1 hz)

/-- A round changes nothing if and only if all fragments are settled. -/
theorem round_eq_nil_iff : (round t.keys t).2 = [] ↔ ∀ x, Settled t.Refers x := by
  rw [List.eq_nil_iff_forall_not_mem]
  refine forall_congr' fun x => ?_
  rw [mem_round (fun _ hk => hk) t.nodup_keys, not_and_not_right]
  exact ⟨fun h w hw => h hw.mem_keys w hw, fun h _ => h⟩

theorem round_eq_self (h : (round t.keys t).2 = []) : (round t.keys t).1 = t :=
  Table.ext_find? fun _ => find?_round (h ▸ List.not_mem_nil)

end Round

/-! ## All rounds -/

open scoped Classical in
/-- The fragments that are clear in `t₀` and that `t` has not settled. -/
noncomputable def pending (t₀ t : Fragments) : Finset String :=
  t.keys.toFinset.filter fun x => Clear t₀.Refers x ∧ ¬Settled t.Refers x

theorem mem_pending {t₀ t : Fragments} {x : String} :
    x ∈ pending t₀ t ↔ x ∈ t.keys ∧ Clear t₀.Refers x ∧ ¬Settled t.Refers x := by
  simp [pending]

theorem pending_round_subset (t₀ t : Fragments) :
    pending t₀ (round t.keys t).1 ⊆ pending t₀ t := by
  intro x hx
  rw [mem_pending, keys_of_steps (steps_round fun _ hn => hn)] at hx
  refine mem_pending.2 ⟨hx.1, hx.2.1, fun hs => hx.2.2 ?_⟩
  exact settled_of_settled (fun _ hn => hn) t.nodup_keys hs

section Rounds

variable {t₀ t : Fragments} (hplain : ∀ n ∈ t₀.keys, Plain n) (hsteps : ReflTransGen Step t₀ t)

include hplain hsteps

/-- A round settles a clear fragment, as long as there is one that is not settled. -/
theorem pending_round_ssubset (hpending : (pending t₀ t).Nonempty) :
    pending t₀ (round t.keys t).1 ⊂ pending t₀ t := by
  have hplain' : ∀ n ∈ t.keys, Plain n := keys_of_steps hsteps ▸ hplain
  obtain ⟨x, hx⟩ := hpending
  obtain ⟨-, hclear, hx⟩ := mem_pending.1 hx
  obtain ⟨y, hy, hready⟩ := (clear_of_steps hsteps hplain hclear).exists_ready hx
  have hyclear : Clear t₀.Refers y := by
    rcases hy with rfl | hy
    · exact hclear
    · exact ((ends_iff_of_steps hsteps hplain y).1 hy).clear
  have hymem : y ∈ t.keys := by
    have href := hready.1
    simp only [Settled, not_forall] at href
    obtain ⟨w, hw, -⟩ := href
    exact hw.mem_keys
  refine (Finset.ssubset_iff_of_subset (pending_round_subset t₀ t)).2 ⟨y, ?_, fun hy' => ?_⟩
  · exact mem_pending.2 ⟨hymem, hyclear, hready.1⟩
  · refine (mem_pending.1 hy').2.2 ?_
    exact settled_round hplain' (fun _ hn => hn) t.nodup_keys hymem hready.2

/-- What more rounds than there are clear fragments to settle still change is not clear. -/
theorem not_clear_of_rounds {n : ℕ} {changed names : List String}
    (hn : (pending t₀ t).card ≤ n) (h : rounds (n + 1) changed t = .error names) :
    names ≠ [] ∧ ∀ x ∈ names, x ∈ t₀.keys ∧ ¬Clear t₀.Refers x := by
  induction n generalizing t changed with
  | zero =>
    have hkeys := keys_of_steps hsteps
    rw [rounds] at h
    dsimp only at h
    split_ifs at h with hempty
    rw [rounds, Except.error.injEq] at h
    subst h
    refine ⟨by simpa using hempty, fun x hx => ?_⟩
    obtain ⟨hmem, hns⟩ := (mem_round (fun _ hk => hk) t.nodup_keys x).1 hx
    refine ⟨hkeys ▸ hmem, fun hclear => ?_⟩
    have hxp := mem_pending.2 ⟨hmem, hclear, hns⟩
    rw [Finset.card_eq_zero.1 (Nat.le_zero.1 hn)] at hxp
    simp at hxp
  | succ n ih =>
    rw [rounds] at h
    dsimp only at h
    split_ifs at h with hempty
    refine ih (hsteps.trans (steps_round fun _ hk => hk)) ?_ h
    by_cases hp : (pending t₀ t).Nonempty
    · have hlt := Finset.card_lt_card (pending_round_ssubset hplain hsteps hp)
      omega
    · have hle := Finset.card_le_card (pending_round_subset t₀ t)
      rw [Finset.not_nonempty_iff_eq_empty.1 hp, Finset.card_empty] at hle
      omega

end Rounds

/-- When a round finds nothing to change, all fragments are settled. -/
theorem settled_of_rounds {t₀ t m : Fragments} (hsteps : ReflTransGen Step t₀ t) {n left : ℕ}
    {changed : List String} (h : rounds n changed t = .ok (m, left)) :
    ReflTransGen Step t₀ m ∧ ∀ x, Settled m.Refers x := by
  induction n generalizing t changed with
  | zero => simp [rounds] at h
  | succ n ih =>
    rw [rounds] at h
    dsimp only at h
    split_ifs at h with hempty
    · rw [Except.ok.injEq, Prod.mk.injEq] at h
      obtain ⟨rfl, -⟩ := h
      rw [List.isEmpty_iff] at hempty
      rw [round_eq_self hempty]
      exact ⟨hsteps, round_eq_nil_iff.1 hempty⟩
    · exact ih (hsteps.trans (steps_round fun _ hk => hk)) h

/-! ## The expansion -/

section Expand

variable {t : Fragments}

theorem exists_rounds_of_expand {m : Fragments} (h : t.expand = .ok m) :
    ∃ left, rounds (t.size + 1) [] t = .ok (m, left) := by
  rw [expand] at h
  rcases hr : rounds (t.size + 1) [] t with names | ⟨m', left⟩
  · simp [hr] at h
  · simp only [hr, Except.ok.injEq] at h
    exact ⟨left, h ▸ rfl⟩

theorem settled_of_expand (_ : ∀ n ∈ t.keys, Plain n) {m : Fragments} (h : t.expand = .ok m) :
    ReflTransGen Step t m ∧ ∀ x, Settled m.Refers x :=
  let ⟨_, hr⟩ := exists_rounds_of_expand h
  settled_of_rounds .refl hr

theorem not_clear_of_expand (hplain : ∀ n ∈ t.keys, Plain n) {e : Error} (h : t.expand = .error e) :
    ∃ names, e = .cyclicFragments names ∧ names ≠ [] ∧
      ∀ x ∈ names, x ∈ t.keys ∧ ¬Clear t.Refers x := by
  rw [expand] at h
  rcases hr : rounds (t.size + 1) [] t with names | ⟨m', left⟩
  · simp only [hr, Except.error.injEq] at h
    have hcard : (pending t t).card ≤ t.size := by
      have hsub : pending t t ⊆ t.keys.toFinset :=
        fun x hx => List.mem_toFinset.2 (mem_pending.1 hx).1
      refine ((Finset.card_le_card hsub).trans (List.toFinset_card_le _)).trans ?_
      rw [Table.keys, List.length_map, Table.size]
    exact ⟨names, h.symm, not_clear_of_rounds hplain .refl hcard hr⟩
  · simp [hr] at h

end Expand

end LexGen.Fragments
