import LexGen.Proofs.Regex.Delayed
import LexGen.Regex.Meaning

/-!
# Literals that are joined

Where an expression is put in a concatenation, its parts become parts of it and literals that stand
together become one. That changes no state, as long as no literal is empty, and none is where an
expression comes of a tree.
-/

namespace LexGen.Regex.Expr

/-! ## Parts -/

section Parts

variable {e x : Expr} {es xs ys : List Expr}

theorem mem_factors (h : x ∈ e.factors) : x = e ∨ ∃ es, e = concat es ∧ x ∈ es := by
  cases e with
  | concat es => exact .inr ⟨es, rfl, h⟩
  | empty => cases h
  | _ => exact .inl (List.mem_singleton.1 h)

theorem mem_branches (h : x ∈ e.branches) : x = e ∨ ∃ es, e = alternation es ∧ x ∈ es := by
  cases e with
  | alternation es => exact .inr ⟨es, rfl, h⟩
  | _ => exact .inl (List.mem_singleton.1 h)

theorem mem_of_mem_commonStart (h : x ∈ commonStart xs ys) : x ∈ xs := by
  fun_induction commonStart xs ys with
  | case1 y ys z zs _ ih => exact (List.mem_cons.1 h).elim (· ▸ .head _) fun h => .tail _ (ih h)
  | case2 => cases h
  | case3 => cases h

theorem mem_sharedStart (h : x ∈ sharedStart es) : ∃ xs, concat xs ∈ es ∧ x ∈ xs := by
  unfold sharedStart at h
  split at h
  · cases h
  · exact ⟨_, .head _, h⟩
  · exact ⟨_, .head _, mem_of_mem_commonStart h⟩
  · cases h

end Parts

/-! ## Expressions without empty literals -/

/-- No literal in the expression is empty. -/
inductive Full : Expr → Prop
  | empty : Full empty
  | literal {cs : List Char} (h : cs ≠ []) : Full (literal cs)
  | set (s : CharSet) : Full (set s)
  | look (l : Look) : Full (look l)
  | repetition {e : Expr} (min : Nat) (max : Option Nat) (greedy : Bool) (h : Full e) :
    Full (repetition min max greedy e)
  | capture {e : Expr} (index : Nat) (h : Full e) : Full (capture index e)
  | concat {es : List Expr} (h : ∀ e ∈ es, Full e) : Full (concat es)
  | alternation {es : List Expr} (h : ∀ e ∈ es, Full e) : Full (alternation es)

namespace Full

variable {e x : Expr} {es : List Expr}

theorem of_mem_factors (h : Full e) (hx : x ∈ e.factors) : Full x := by
  obtain rfl | ⟨es, rfl, hx⟩ := mem_factors hx
  · exact h
  · cases h with
    | concat h => exact h x hx

theorem of_mem_branches (h : Full e) (hx : x ∈ e.branches) : Full x := by
  obtain rfl | ⟨es, rfl, hx⟩ := mem_branches hx
  · exact h
  · cases h with
    | alternation h => exact h x hx

theorem ofSet (s : CharSet) : Full (ofSet s) := by
  unfold Expr.ofSet
  split
  · exact .literal (List.cons_ne_nil _ _)
  · exact .set s

theorem ofRepetition (least : Nat) (most : Option Nat) (greedy : Bool) (h : Full e) :
    Full (ofRepetition least most greedy e) := by
  unfold Expr.ofRepetition
  split
  split_ifs
  · exact .empty
  · exact h
  · exact .repetition _ _ _ h

theorem of_mem_joinLiterals (h : ∀ e ∈ es, Full e) : ∀ e ∈ joinLiterals es, Full e := by
  fun_induction joinLiterals es with
  | case1 => exact h
  | case2 cs es ds rest hjoined ih =>
    have hes : ∀ e ∈ Expr.literal ds :: rest, Full e :=
      hjoined ▸ ih fun e he => h e (.tail _ he)
    have hcs : cs ≠ [] := by
      cases h _ (.head _) with
      | literal h => exact h
    exact List.forall_mem_cons.2
      ⟨.literal (List.append_ne_nil_of_left_ne_nil hcs ds), (List.forall_mem_cons.1 hes).2⟩
  | case3 cs es _ ih =>
    exact List.forall_mem_cons.2 ⟨h _ (.head _), ih fun e he => h e (.tail _ he)⟩
  | case4 e es _ ih =>
    exact List.forall_mem_cons.2 ⟨h _ (.head _), ih fun e he => h e (.tail _ he)⟩

theorem ofConcat (h : ∀ e ∈ es, Full e) : Full (ofConcat es) := by
  have hfactors : ∀ x ∈ es.flatMap factors, Full x := fun x hx => by
    obtain ⟨e, he, hx⟩ := List.mem_flatMap.1 hx
    exact (h e he).of_mem_factors hx
  have hjoined := of_mem_joinLiterals hfactors
  unfold Expr.ofConcat
  split
  · exact .empty
  · rename_i e heq
    exact hjoined e (heq ▸ .head _)
  · exact .concat hjoined

theorem dropFactors (n : Nat) (h : Full e) : Full (dropFactors n e) :=
  ofConcat fun _ hx => h.of_mem_factors (List.mem_of_mem_drop hx)

theorem alternationOf (fuel : Nat) (h : ∀ e ∈ es, Full e) : Full (alternationOf fuel es) := by
  induction fuel generalizing es with
  | zero => exact .alternation h
  | succ fuel ih =>
    have hbranches : ∀ x ∈ es.flatMap branches, Full x := fun x hx => by
      obtain ⟨e, he, hx⟩ := List.mem_flatMap.1 hx
      exact (h e he).of_mem_branches hx
    unfold Expr.alternationOf
    split
    · exact .set _
    · rename_i e heq
      exact hbranches e (heq ▸ .head _)
    · split
      · exact ofSet _
      · split
        · exact .alternation hbranches
        · refine ofConcat fun x hx => ?_
          obtain hx | hx := List.mem_append.1 hx
          · obtain ⟨xs, hxs, hx⟩ := mem_sharedStart hx
            exact (hbranches _ hxs).of_mem_factors hx
          · rw [List.mem_singleton.1 hx]
            refine ih fun y hy => ?_
            obtain ⟨z, hz, rfl⟩ := List.mem_map.1 hy
            exact (hbranches z hz).dropFactors _

end Full

end LexGen.Regex.Expr

namespace LexGen.Regex.Tree

open LexGen.Regex.Expr (Full)

theorem literalExpr?_full {f : Flags} {l : Literal} {e : Expr} (h : f.literalExpr? l = some e) :
    Full e := by
  unfold Flags.literalExpr? at h
  split_ifs at h
  cases h
  exact .ofSet _

theorem dotExpr?_full {f : Flags} {e : Expr} (h : f.dotExpr? = some e) : Full e := by
  unfold Flags.dotExpr? at h
  split_ifs at h <;> cases h <;> exact .ofSet _

theorem exists_of_bind {α : Type} {o : Option α} {k : α → Expr × Flags} {e : Expr} {g : Flags}
    (h : o.bind (fun a => some (k a)) = some (e, g)) : ∃ a, o = some a ∧ (k a).1 = e := by
  obtain ⟨a, ha, hk⟩ := Option.bind_eq_some_iff.1 h
  exact ⟨a, ha, by rw [Option.some.inj hk]⟩

mutual

theorem expr?_full : ∀ {t : Tree} {f g : Flags} {e : Expr}, t.expr? f = some (e, g) → Full e
  | .flags _, _, _, _, h => by
    cases h
    exact .empty
  | .literal l, f, _, _, h => by
    obtain ⟨e, he, rfl⟩ := exists_of_bind h
    exact literalExpr?_full he
  | .dot, f, _, _, h => by
    obtain ⟨e, he, rfl⟩ := exists_of_bind h
    exact dotExpr?_full he
  | .anchor a, _, _, _, h => by
    cases h
    exact .look _
  | .shorthand _ _, _, _, _, h => by
    obtain ⟨s, -, rfl⟩ := exists_of_bind h
    exact .ofSet s
  | .property _, _, _, _, h => by
    obtain ⟨s, -, rfl⟩ := exists_of_bind h
    exact .ofSet s
  | .bracketed _ t, f, _, _, h => by
    cases hs : t.set? f with
    | none => simp [expr?, hs] at h
    | some s =>
      simp only [expr?, hs, Option.bind_eq_bind, Option.bind_some] at h
      obtain ⟨s, -, rfl⟩ := exists_of_bind h
      exact .ofSet s
  | .repetition _ _ _ t, _, _, _, h => by
    obtain ⟨⟨e, k⟩, he, rfl⟩ := exists_of_bind h
    exact .ofRepetition _ _ _ (expr?_full he)
  | .capture _ t, _, _, _, h => by
    obtain ⟨⟨e, k⟩, he, rfl⟩ := exists_of_bind h
    exact .capture _ (expr?_full he)
  | .group _ t, _, _, _, h => by
    obtain ⟨⟨e, k⟩, he, rfl⟩ := exists_of_bind h
    exact expr?_full he
  | .concat ts, _, _, _, h => by
    obtain ⟨⟨es, k⟩, hes, rfl⟩ := exists_of_bind h
    exact .ofConcat (exprs?_full hes)
  | .alternation ts, _, _, _, h => by
    obtain ⟨⟨es, k⟩, hes, rfl⟩ := exists_of_bind h
    exact .alternationOf _ (exprs?_full hes)

theorem exprs?_full : ∀ {ts : List Tree} {f g : Flags} {es : List Expr},
    exprs? f ts = some (es, g) → ∀ e ∈ es, Full e
  | [], _, _, _, h => by
    cases h
    exact fun _ h => nomatch h
  | t :: ts, _, _, _, h => by
    simp only [exprs?, Option.bind_eq_bind, Option.bind_eq_some_iff, Option.pure_def,
      Option.some.injEq, Prod.exists, Prod.mk.injEq] at h
    obtain ⟨e, g, he, es, k, hes, rfl, rfl⟩ := h
    exact List.forall_mem_cons.2 ⟨expr?_full he, exprs?_full hes⟩

end

end LexGen.Regex.Tree

namespace LexGen.Regex.Expr

/-! ## The states of joined literals -/

theorem literalStates_append : ∀ {cs ds : List Char} (start next : Nat), cs ≠ [] → ds ≠ [] →
    literalStates (cs ++ ds) start next =
      literalStates cs start (start + cs.length) ++ literalStates ds (start + cs.length) next
  | [], _, _, _, h, _ => absurd rfl h
  | [_], [], _, _, _, h => absurd rfl h
  | [_], _ :: _, _, _, _, _ => rfl
  | c :: b :: cs, ds, start, next, _, hds => by
    have hbs : b :: cs ≠ [] := List.cons_ne_nil b cs
    have hrest := literalStates_append (start + 1) next hbs hds
    have hlength : start + (c :: b :: cs).length = start + 1 + (b :: cs).length := by
      simp only [List.length_cons]
      omega
    rw [hlength, literalStates_cons_cons, ← hlength, List.cons_append, hlength]
    exact congrArg (_ :: ·) hrest

theorem Full.ne_nil {cs : List Char} (h : Full (.literal cs)) : cs ≠ [] := by
  cases h with
  | literal h => exact h

theorem width_literal {cs : List Char} (h : cs ≠ []) : (literal cs).width = cs.length := by
  have hpos := List.length_pos_iff.2 h
  simp only [width]
  omega

section Join

variable {cs ds : List Char} {es fs : List Expr}

theorem totalWidth_literal_append (hcs : cs ≠ []) (hds : ds ≠ []) :
    totalWidth (literal (cs ++ ds) :: es) = totalWidth (literal cs :: literal ds :: es) := by
  have hboth := List.append_ne_nil_of_left_ne_nil hcs ds
  simp only [totalWidth, width_literal hcs, width_literal hds, width_literal hboth,
    List.length_append, Nat.add_assoc]

theorem sequenceStates_literal_append (hcs : cs ≠ []) (hds : ds ≠ []) (start next : Nat) :
    sequenceStates (literal (cs ++ ds) :: es) start next =
      sequenceStates (literal cs :: literal ds :: es) start next := by
  have hboth := List.append_ne_nil_of_left_ne_nil hcs ds
  simp only [sequenceStates, states, width_literal hcs, width_literal hds, width_literal hboth,
    literalStates_append start _ hcs hds, List.length_append, Nat.add_assoc, List.append_assoc,
    List.isEmpty_cons, Bool.false_eq_true, if_false]

theorem sequenceStates_cons_congr (e : Expr) {next : Nat} (hempty : fs.isEmpty = es.isEmpty)
    (h : ∀ start, sequenceStates fs start next = sequenceStates es start next) (start : Nat) :
    sequenceStates (e :: fs) start next = sequenceStates (e :: es) start next := by
  simp only [sequenceStates, hempty, h]

theorem isEmpty_joinLiterals : (joinLiterals es).isEmpty = es.isEmpty := by
  fun_cases joinLiterals es <;> rfl

theorem totalWidth_joinLiterals (h : ∀ e ∈ es, Full e) :
    totalWidth (joinLiterals es) = totalWidth es := by
  fun_induction joinLiterals es with
  | case1 => rfl
  | case2 cs es ds rest hjoined ih =>
    obtain ⟨hcs, hes⟩ := List.forall_mem_cons.1 h
    have hds : Full (literal ds) := Full.of_mem_joinLiterals hes _ (hjoined ▸ .head _)
    rw [totalWidth_literal_append hcs.ne_nil hds.ne_nil, ← hjoined, totalWidth, totalWidth, ih hes]
  | case3 cs es _ ih => simp only [totalWidth, ih (List.forall_mem_cons.1 h).2]
  | case4 e es _ ih => simp only [totalWidth, ih (List.forall_mem_cons.1 h).2]

theorem sequenceStates_joinLiterals (h : ∀ e ∈ es, Full e) (start next : Nat) :
    sequenceStates (joinLiterals es) start next = sequenceStates es start next := by
  fun_induction joinLiterals es generalizing start with
  | case1 => rfl
  | case2 cs es ds rest hjoined ih =>
    obtain ⟨hcs, hes⟩ := List.forall_mem_cons.1 h
    have hds : Full (literal ds) := Full.of_mem_joinLiterals hes _ (hjoined ▸ .head _)
    rw [sequenceStates_literal_append hcs.ne_nil hds.ne_nil, ← hjoined]
    exact sequenceStates_cons_congr _ isEmpty_joinLiterals (ih hes) start
  | case3 cs es _ ih =>
    exact sequenceStates_cons_congr _ isEmpty_joinLiterals (ih (List.forall_mem_cons.1 h).2) start
  | case4 e es _ ih =>
    exact sequenceStates_cons_congr _ isEmpty_joinLiterals (ih (List.forall_mem_cons.1 h).2) start

end Join

/-! ## An expression behind a condition -/

section Behind

variable {e : Expr}

theorem repetitionWidth_pos {n : Nat} (h : 0 < n) (least : Nat) (most : Option Nat) :
    0 < repetitionWidth n least most := by
  cases most with
  | none =>
    simp only [repetitionWidth]
    split_ifs <;> omega
  | some most =>
    simp only [repetitionWidth]
    split_ifs with hmost
    · exact Nat.one_pos
    · rcases Nat.eq_zero_or_pos least with rfl | hleast
      · have hmany := Nat.mul_pos (Nat.pos_of_ne_zero hmost) (Nat.succ_pos n)
        simpa using hmany
      · have hmany := Nat.mul_pos hleast h
        omega

theorem width_pos : ∀ e : Expr, 0 < e.width
  | empty | set _ | look _ => by simp [width]
  | literal cs => by simp only [width]; omega
  | repetition least most _ e => by
    simp only [width]
    exact repetitionWidth_pos (width_pos e) least most
  | capture _ e => by
    simp only [width]
    exact width_pos e
  | concat es => by simp only [width]; omega
  | alternation es => by simp [width]

/-- An expression has the states of its parts. -/
theorem sequenceStates_factors (h : e.factors ≠ []) (start next : Nat) :
    sequenceStates e.factors start next = e.states start next := by
  cases e with
  | empty => exact absurd rfl h
  | concat es =>
    have hempty : es.isEmpty = false := by simpa [factors] using h
    simp only [factors, states, hempty, Bool.false_eq_true, if_false]
  | _ => simp [factors, sequenceStates]

theorem totalWidth_factors (h : e.factors ≠ []) : totalWidth e.factors = e.width := by
  cases e with
  | empty => exact absurd rfl h
  | concat es =>
    obtain ⟨e, es, rfl⟩ := List.exists_cons_of_ne_nil (show es ≠ [] from h)
    have hpos := width_pos e
    simp only [factors, width, totalWidth]
    omega
  | _ => simp [factors, totalWidth]

theorem ofConcat_look (l : Look) (h : e.factors ≠ []) :
    ofConcat [look l, e] = concat (look l :: joinLiterals e.factors) := by
  have hjoined : joinLiterals e.factors ≠ [] := fun hnil => by
    have hempty : (joinLiterals e.factors).isEmpty = e.factors.isEmpty := isEmpty_joinLiterals
    simp [hnil, h] at hempty
  obtain ⟨x, xs, hx⟩ := List.exists_cons_of_ne_nil hjoined
  have hflat : [look l, e].flatMap factors = look l :: e.factors := by simp [factors]
  simp only [ofConcat, hflat, joinLiterals, hx]

theorem eq_of_factors_nil (h : e.factors = []) : e = empty ∨ e = concat [] := by
  cases e with
  | empty => exact .inl rfl
  | concat es => exact .inr (congrArg concat h)
  | _ => cases h

theorem width_ofConcat_look (l : Look) (hfull : Full e) (h : e.factors ≠ []) :
    (ofConcat [look l, e]).width = e.width + 1 := by
  have hparts := totalWidth_joinLiterals fun _ hx => hfull.of_mem_factors hx
  have hpos := width_pos e
  rw [ofConcat_look l h]
  simp only [width, totalWidth, hparts, totalWidth_factors h]
  omega

theorem states_ofConcat_look (l : Look) (hfull : Full e) (h : e.factors ≠ []) (start next : Nat) :
    (ofConcat [look l, e]).states start next =
      .look l (start + 1) :: e.states (start + 1) next := by
  have hparts := sequenceStates_joinLiterals fun _ hx => hfull.of_mem_factors hx
  have hempty : (joinLiterals e.factors).isEmpty = false := by
    rw [isEmpty_joinLiterals]
    simpa using h
  rw [ofConcat_look l h]
  simp only [states, sequenceStates, width, hempty, hparts, sequenceStates_factors h,
    List.isEmpty_cons, Bool.false_eq_true, if_false, List.singleton_append]

end Behind

end LexGen.Regex.Expr

namespace LexGen.Regex.Automaton

open LexGen.Regex.Expr (look ofConcat Full)

variable {e : Expr}

theorem ofExpr_ofConcat_look (l : Look) (hfull : Full e) (h : e.factors ≠ []) :
    ofExpr (ofConcat [look l, e]) = (ofExpr e).delayed l := by
  have hshift : e.states 1 (e.width + 1) = (e.states 0 e.width).map (.shift 1) := by
    simpa using Expr.states_shift 1 e 0 e.width
  simp only [ofExpr, delayed, Expr.width_ofConcat_look l hfull h,
    Expr.states_ofConcat_look l hfull h, Nat.zero_add, hshift, List.cons_append, List.map_append]
  rfl

/-- An expression without parts matches the empty text. -/
theorem matchLength?_of_factors_nil (h : e.factors = []) (cs : List Char) :
    (ofExpr e).matchLength? cs = some 0 := by
  have hstates : ofExpr e = ⟨#[.split [1], .accept]⟩ := by
    obtain rfl | rfl := Expr.eq_of_factors_nil h <;>
      simp [ofExpr, Expr.states, Expr.width, Expr.totalWidth]
  rw [hstates]
  cases cs <;> simp [matchLength?, reach, noAttempts, follow]

theorem matchLength?_look_textStart (cs : List Char) :
    (ofExpr (look .textStart)).matchLength? cs = some 0 := by
  have hstates : ofExpr (look .textStart) = ⟨#[.look .textStart 1, .accept]⟩ := by
    simp [ofExpr, Expr.states, Expr.width]
  rw [hstates]
  cases cs <;> simp [matchLength?, reach, noAttempts, follow, Look.holds]

/-- At the start of a text an expression matches as it does behind a look for the start. -/
theorem matchLength?_ofConcat_textStart (hfull : Full e) (cs : List Char) :
    (ofExpr (ofConcat [look .textStart, e])).matchLength? cs = (ofExpr e).matchLength? cs := by
  by_cases h : e.factors = []
  · have hlook : ofConcat [look .textStart, e] = look .textStart := by
      obtain rfl | rfl := Expr.eq_of_factors_nil h <;> rfl
    rw [hlook, matchLength?_look_textStart, matchLength?_of_factors_nil h]
  · rw [ofExpr_ofConcat_look _ hfull h, delayed_matchLength?]

end LexGen.Regex.Automaton
