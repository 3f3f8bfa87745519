import LexGen.Proofs.ScanState.Accounted
import LexGen.Proofs.Scanner.Errors

/-!
# Steps without progress

A search for a token fails for lack of progress where a step gives no token and leaves the number of
remaining bytes, the number of characters taken and the conditions as they were (`Stuck`). Nothing
else brings this error about, unless the handler gives it (`Engine.noProgress_iff`).

Without text put back that was not taken, such a step leaves the remaining text itself as it was
(`Engine.unchanged_of_stuck`). Other text may have the same length, so that an action which puts it
back is taken for one that does nothing (`Engine.noProgress_of_rewriting`).
-/

namespace LexGen

/-- The remaining text, the number of characters taken and the conditions are as they were, before
the end of the input. -/
structure Session.Unchanged (s t : Session) : Prop where
  done_eq : t.state.done = false
  remaining_eq : t.state.remaining = s.state.remaining
  offset_eq : t.state.offset = s.state.offset
  conditions_eq : t.state.conditions = s.state.conditions

namespace Session.Unchanged

variable {s t : Session}

theorem stuck (h : s.Unchanged t) : Scanner.Stuck s t := by
  refine ⟨h.done_eq, ?_⟩
  rw [ScanState.progress, ScanState.progress, h.remaining_eq, h.offset_eq, h.conditions_eq]

theorem of_stuck (h : Scanner.Stuck s t) (hremaining : t.state.remaining = s.state.remaining) :
    s.Unchanged t where
  done_eq := h.1
  remaining_eq := hremaining
  offset_eq := congrArg ScanState.Progress.offset h.2
  conditions_eq := congrArg ScanState.Progress.conditions h.2

end Session.Unchanged

/-- Where as much of the same input has been taken, the same text remains. -/
theorem ScanState.remaining_eq_of_sound {flags : ScanFlags} {s t : ScanState}
    (hs : s.Sound flags) (ht : t.Sound flags) (hwhole : t.whole = s.whole)
    (hoffset : t.offset = s.offset) : t.remaining = s.remaining := by
  refine List.append_inj_right hwhole ?_
  rw [← ht.offset_eq, ← hs.offset_eq, hoffset]

theorem Engine.unchanged_of_stuck {e : Engine} (hunput : ∀ text, .unput text ∉ e.commands)
    {s : Session} (hs : s.state.Sound e.flags)
    (h : Scanner.Stuck s (e.scanner.nextMatch s).2) : s.Unchanged (e.scanner.nextMatch s).2 := by
  have hoffset := congrArg ScanState.Progress.offset h.2
  exact .of_stuck h (ScanState.remaining_eq_of_sound hs hs.nextMatch (e.whole_nextMatch hunput s)
    hoffset)

namespace Scanner

variable {sc : Scanner} {s t u : Session}

theorem exists_lexWithin_of_stuck (hu : Relation.ReflTransGen sc.PassesOver s u)
    (hn : sc.nextMatch u = (.ok none, t)) (h : Stuck u t) :
    ∃ n, sc.lexWithin n s = some (.error (.noProgress t.state.line t.state.active), t) := by
  refine exists_lexWithin (n := 1) hu ?_
  rw [lexWithin, hn]
  dsimp only
  rw [if_pos]
  simp only [Bool.and_eq_true, Bool.not_eq_true', beq_iff_eq]
  exact h

theorem exists_lexWithin_of_error {err : Error} (hu : Relation.ReflTransGen sc.PassesOver s u)
    (hn : sc.nextMatch u = (.error err, t)) : ∃ n, sc.lexWithin n s = some (.error err, t) := by
  refine exists_lexWithin (n := 1) hu ?_
  rw [lexWithin, hn]

end Scanner

/-- A search for a token fails for lack of progress exactly where, after steps that it passes over,
it comes to one that gives no token and is stuck, or to one in which the handler gives this error. A
step that leaves the remaining text, the number of characters taken and the conditions is stuck.
Without text put back that was not taken there are no others that are stuck. -/
theorem Engine.noProgress_iff (e : Engine) (context : Context) (input : List Char) {s : Session}
    (hs : e.scanner.Reaches (fun _ _ => True) (e.scanner.start context input) s)
    (line : Nat) (name : String) (t : Session) :
    ((∃ n, e.scanner.lexWithin n s = some (.error (.noProgress line name), t)) ↔
      ∃ u, Relation.ReflTransGen e.scanner.PassesOver s u ∧
        (e.scanner.nextMatch u = (.ok none, t) ∧ Scanner.Stuck u t ∧
            line = t.state.line ∧ name = t.state.active ∨
          e.scanner.nextMatch u = (.error (.noProgress line name), t) ∧
            ∃ handle ∈ s.context.handler, ∃ earlier x,
              handle earlier x = .error (.noProgress line name))) ∧
    ∀ u, Relation.ReflTransGen e.scanner.PassesOver s u → e.scanner.nextMatch u = (.ok none, t) →
      (u.Unchanged t → Scanner.Stuck u t) ∧
        ((∀ text, .unput text ∉ e.commands) → Scanner.Stuck u t → u.Unchanged t) := by
  have hsound := ScanState.Sound.of_reaches hs
  refine ⟨⟨?_, ?_⟩, ?_⟩
  · rintro ⟨n, h⟩
    obtain ⟨u, hu, hfail | ⟨hnone, hstuck, herr⟩⟩ := Scanner.error_of_lexWithin h
    · refine ⟨u, hu, .inr ⟨hfail, ?_⟩⟩
      have hhandler : u.context.handler = s.context.handler :=
        Scanner.kept_of_passesOver (I := fun u => u.context.handler = s.context.handler)
          (fun u hu => (Scanner.handler_nextMatch e u).trans hu) hu rfl
      rcases raises_of_nextMatch (congrArg Prod.fst hfail) with hactive | hraises
      · -- an unknown condition is another error
        unfold activeRules at hactive
        split at hactive <;> cases hactive
      · exact ((Context.raises_congr hhandler).1 hraises).handler (by simp)
    · obtain ⟨hline, hname⟩ := Error.noProgress.inj herr
      exact ⟨u, hu, .inl ⟨hnone, hstuck, hline, hname⟩⟩
  · rintro ⟨u, hu, ⟨hnone, hstuck, rfl, rfl⟩ | ⟨hfail, -⟩⟩
    · exact Scanner.exists_lexWithin_of_stuck hu hnone hstuck
    · exact Scanner.exists_lexWithin_of_error hu hfail
  · intro u hu hnone
    refine ⟨Session.Unchanged.stuck, fun hunput hstuck => ?_⟩
    have hu : u.state.Sound e.flags :=
      Scanner.kept_of_passesOver (I := fun u => u.state.Sound e.flags)
        (fun u hu => hu.nextMatch) hu hsound
    have ht : (e.scanner.nextMatch u).2 = t := by rw [hnone]
    exact ht ▸ e.unchanged_of_stuck hunput hu (ht ▸ hstuck)

/-- A blank is passed over. Then a rule matches the empty text before a letter that no other
matches. -/
theorem Engine.noProgress_iff_blank : ∃ e s u t,
    RuleSet.compile { rules := [{ pattern := .text "\\s", action := "" },
      { pattern := .text "a*", action := "" }] } none = .ok e ∧
    s = e.scanner.start {} [' ', 'b'] ∧
    (∃ n, e.scanner.lexWithin n s = some (.error (.noProgress 0 initial), t)) ∧
    Relation.ReflTransGen e.scanner.PassesOver s u ∧ e.scanner.nextMatch u = (.ok none, t) ∧
    u.Unchanged t ∧ t.state.remaining = ['b'] := by
  generalize hrules : RuleSet.compile { rules := [{ pattern := .text "\\s", action := "" },
      { pattern := .text "a*", action := "" }] } none = result
  have h : (result.toOption.map fun e => (e.commands,
      (e.scanner.lexWithin 2 (e.scanner.start {} [' ', 'b'])).map fun r =>
        (r.1, r.2.state.remaining))) =
      some ([], some (.error (.noProgress 0 initial), ['b'])) := by
    rw [← hrules]
    decide +kernel
  rcases result with error | e
  · cases h
  obtain ⟨hcommands, h⟩ := Prod.mk.inj (Option.some.inj h)
  obtain ⟨⟨r, t⟩, hl, h⟩ := Option.map_eq_some_iff.1 h
  obtain ⟨rfl, hremaining⟩ := Prod.mk.inj h
  obtain ⟨hiff, hunchanged⟩ := e.noProgress_iff {} [' ', 'b'] .refl 0 initial t
  obtain ⟨u, hu, ⟨hnone, hstuck, -, -⟩ | ⟨-, handle, hmem, -⟩⟩ := hiff.1 ⟨2, hl⟩
  · exact ⟨e, _, u, t, rfl, rfl, ⟨2, hl⟩, hu, hnone,
      (hunchanged u hu hnone).2 (by simp [hcommands]) hstuck, hremaining⟩
  · cases hmem

/-- A letter is replaced by another one, which would be the next token. The step changes the
remaining text, but not its length. -/
theorem Engine.noProgress_of_rewriting : ∃ e s t u,
    RuleSet.compile { rules := [{ pattern := .text "a", action := "this.unput('b')" },
      { pattern := .text "b", action := "return 'B'" }] } none = .ok e ∧
    s = e.scanner.start {} ['a'] ∧ e.scanner.nextMatch s = (.ok none, t) ∧
    s.state.remaining = ['a'] ∧ t.state.remaining = ['b'] ∧ ¬s.Unchanged t ∧
    (∃ n, e.scanner.lexWithin n s = some (.error (.noProgress 0 initial), t)) ∧
    e.scanner.nextMatch t = (.ok (some (.name "B")), u) := by
  generalize hrules : RuleSet.compile { rules := [
      { pattern := .text "a", action := "this.unput('b')" },
      { pattern := .text "b", action := "return 'B'" }] } none = result
  have hgiven : (result.toOption.map fun e =>
      ((e.scanner.nextMatch (e.scanner.start {} ['a'])).1,
        (e.scanner.nextMatch (e.scanner.nextMatch (e.scanner.start {} ['a'])).2).1)) =
      some (.ok none, .ok (some (.name "B"))) := by
    rw [← hrules]
    decide +kernel
  have hstate : (result.toOption.map fun e =>
      (e.scanner.nextMatch (e.scanner.start {} ['a'])).2.state) =
      some { ScanState.start {} ['b'] with location := ⟨1, 0, 1, 0, none⟩ } := by
    rw [← hrules]
    decide +kernel
  rcases result with error | e
  · cases hgiven
  obtain ⟨hfirst, hnext⟩ := Prod.mk.inj (Option.some.inj hgiven)
  generalize hs : e.scanner.start {} ['a'] = s at hfirst hnext hstate
  rcases hstep : e.scanner.nextMatch s with ⟨r, t⟩
  simp only [hs, hstep, Option.some.injEq, Except.toOption, Option.map_some] at hfirst hnext hstate
  rcases hlast : e.scanner.nextMatch t with ⟨q, u⟩
  rw [hlast] at hnext
  have hremaining : s.state.remaining = ['a'] := by rw [← hs]; rfl
  have hstuck : Scanner.Stuck s t := by
    refine ⟨by rw [hstate]; rfl, ?_⟩
    rw [hstate, ← hs]
    rfl
  obtain ⟨n, hl⟩ := Scanner.exists_lexWithin_of_stuck .refl (hfirst ▸ hstep) hstuck
  refine ⟨e, s, t, u, rfl, hs.symm, hfirst ▸ hstep, hremaining, by rw [hstate]; rfl, fun h => ?_,
    ⟨n, ?_⟩, hnext ▸ hlast⟩
  · have hsame := h.remaining_eq
    rw [hremaining, hstate] at hsame
    exact absurd hsame (by decide)
  · rw [hl, hstate]
    rfl

end LexGen
