import LexGen.Proofs.ScanState.Texts
import LexGen.Proofs.Scanner.Backtracking
import LexGen.Proofs.Scanner.Errors

/-!
# The end of the input

A step notes the end where nothing remains, and takes this back where its action has put text back,
unless the action fails (`Engine.hidesText_nextMatch`). So text is hidden behind the end exactly
where a step at the end has failed after text was put back (`Engine.hidesText_iff`). That takes an
engine without backtracking, actions that put back and that reject, and a context that turns this
into an error. An engine that has them loses the text (`Engine.hidesText_of_failing`).

The end token is given where nothing remains, unless text is hidden or the token is that of an
action or of the handler (`Scanner.EndGiven`).
-/

namespace LexGen

namespace ScanState

/-- The end of the input has been noted, but text remains. -/
def HidesText (s : ScanState) : Prop := s.done = true ∧ s.remaining ≠ []

variable {s : ScanState}

theorem not_hidesText_checkResumed (s : ScanState) : ¬s.checkResumed.HidesText := by
  rintro ⟨hd, hr⟩
  unfold checkResumed at hd hr
  split_ifs at hd hr with h
  have hempty : s.remaining.isEmpty = true := by simpa [hd] using h
  exact hr (List.isEmpty_iff.1 hempty)

theorem done_prepared (h : s.done = false) : s.checkEnd.prepare.done = s.remaining.isEmpty := by
  have hprepare (t : ScanState) : t.prepare.done = t.done := by
    unfold prepare
    split_ifs <;> rfl
  rw [hprepare, checkEnd]
  split_ifs with hr
  · exact hr.symm
  · exact h.trans (Bool.eq_false_iff.2 hr).symm

theorem not_hidesText_prepared (h : s.done = false) : ¬s.checkEnd.prepare.HidesText := by
  rintro ⟨hd, hr⟩
  rw [done_prepared h] at hd
  rw [remaining_prepared] at hr
  exact hr (List.isEmpty_iff.1 hd)

end ScanState

theorem Command.done_change (c : Command) (s : ScanState) : (c.change s).done = s.done := by
  cases c with
  | pop =>
    simp only [change, ScanState.pop]
    split <;> rfl
  | reject =>
    simp only [change]
    split_ifs <;> rfl
  | input =>
    simp only [change, ScanState.input]
    split <;> rfl
  | _ => rfl

/-! ## Steps -/

namespace Engine

variable {e : Engine} {s t : Session}

/-- At the end of the input a step fails, but text remains after it. -/
structure FailsAtEnd (e : Engine) (s t : Session) : Prop where
  remaining_eq : s.state.remaining = []
  fails : ∃ err, e.scanner.nextMatch s = (.error err, t)
  remaining_ne : t.state.remaining ≠ []

theorem done_dispatch (e : Engine) (rule : ℕ) (s : Session) :
    (e.scanner.dispatch rule s).2.state.done = s.state.done :=
  Action.state_dispatch (I := fun t => t.done = s.state.done)
    (fun _ _ c _ t ht => (c.done_change t).trans ht) rule rfl

/-- The action of a match leaves the end noted if and only if nothing remained. -/
theorem done_of_matched {u v : Session} {m : Candidate} {r : Except Error (Option Token)}
    (hd : s.state.done = false) (hu : e.scanner.Retried s.prepared u)
    (h : e.scanner.dispatch m.rule (u.mapState (·.commit m.length)) = (r, v)) :
    v.state.done = s.state.remaining.isEmpty := by
  have hv := e.done_dispatch m.rule (u.mapState (·.commit m.length))
  rw [h] at hv
  have hcommit : (u.mapState (·.commit m.length)).state.done = u.state.done := rfl
  rw [hv, hcommit, hu.state_eq]
  exact ScanState.done_prepared hd

/-- The match in which a step at the end of the input fails. -/
theorem FailsAtEnd.exists_dispatch (h : e.FailsAtEnd s t) : s.state.done = false ∧
    ∃ (u : Session) (m : Candidate) (err : Error), e.scanner.Retried s.prepared u ∧
      e.scanner.dispatch m.rule (u.mapState (·.commit m.length)) = (.error err, t) := by
  obtain ⟨err, hn⟩ := h.fails
  have hprepared : s.prepared.state.remaining = [] := by
    rw [← h.remaining_eq]
    exact s.state.remaining_prepared
  generalize hr : (Except.error err : Except Error (Option Token)) = r at hn
  have hne := h.remaining_ne
  cases Scanner.ending_of_nextMatch hn with
  | done => cases hr
  | unknown => exact absurd hprepared hne
  | unmatched u _ hu =>
    rw [Scanner.state_noMatch, hu.state_eq] at hne
    exact absurd hprepared hne
  | matched u v m hd hu _ hv =>
    subst hr
    exact ⟨hd, u, m, err, hu, hv⟩

theorem FailsAtEnd.hidesText (h : e.FailsAtEnd s t) : t.state.HidesText := by
  obtain ⟨hd, u, m, err, hu, hv⟩ := h.exists_dispatch
  refine ⟨?_, h.remaining_ne⟩
  rw [done_of_matched hd hu hv, h.remaining_eq]
  rfl

/-- A step after which text is hidden fails at the end of the input, or changes nothing. -/
theorem hidesText_nextMatch (h : (e.scanner.nextMatch s).2.state.HidesText) :
    s.state.HidesText ∧ (e.scanner.nextMatch s).2 = s ∨
      e.FailsAtEnd s (e.scanner.nextMatch s).2 := by
  rcases hn : e.scanner.nextMatch s with ⟨r, t⟩
  rw [hn] at h
  dsimp only at h ⊢
  have hend := Scanner.ending_of_nextMatch hn
  cases hend with
  | done => exact .inl ⟨h, rfl⟩
  | unknown hd => exact absurd h (ScanState.not_hidesText_prepared hd)
  | unmatched u hd hu =>
    rw [Scanner.state_noMatch, hu.state_eq] at h
    exact absurd h (ScanState.not_hidesText_prepared hd)
  | matched u v m hd hu _ hv =>
    cases r with
    | ok => exact absurd h v.state.not_hidesText_checkResumed
    | error err =>
      have hdone : v.state.done = true := h.1
      rw [done_of_matched hd hu hv] at hdone
      exact .inr ⟨List.isEmpty_iff.1 hdone, ⟨err, hn⟩, h.2⟩

/-- An action that puts nothing back leaves nothing where nothing remains. -/
theorem remaining_dispatch (hunput : ∀ text, .unput text ∉ e.commands)
    (hless : ∀ n, .less n ∉ e.commands) (rule : ℕ) (h : s.state.remaining = []) :
    (e.scanner.dispatch rule s).2.state.remaining = [] := by
  refine Action.state_dispatch (I := fun t => t.remaining = []) (fun a ha c hc t ht => ?_) rule h
  rcases e.change_eq_input_or hunput hless ha hc t with hinput | hkept
  · rw [hinput, ScanState.input_of_nil ht, ht]
  · rw [hkept.remaining_eq, ht]

/-- What it takes for a step to fail at the end of the input and leave text. -/
theorem FailsAtEnd.requires (h : e.FailsAtEnd s t) : s.state.flags.backtracking = false ∧
    .reject ∈ e.commands ∧
    ((∃ n, .less n ∈ e.commands) ∨ ∃ text, .unput text ∈ e.commands) ∧
    ∃ err, s.context.Raises err := by
  obtain ⟨-, u, m, err, hu, hv⟩ := h.exists_dispatch
  obtain ⟨hreject, hb, hraises⟩ := raises_of_dispatch (congrArg Prod.fst hv)
  have hflags : (u.mapState (·.commit m.length)).state.flags = s.prepared.state.flags := by
    rw [← hu.state_eq]
    rfl
  have hprepared : s.prepared.state.flags = s.state.flags := s.state.flags_prepared
  rw [hflags, hprepared] at hb
  refine ⟨hb, hreject, ?_, err, (Context.raises_congr hu.handler_eq).1 hraises⟩
  -- without text put back nothing would remain
  by_contra hnone
  push Not at hnone
  have hstart : (u.mapState (·.commit m.length)).state.remaining = [] := by
    show u.state.remaining.drop m.length = []
    have hnil : s.prepared.state.remaining = [] := by
      rw [← h.remaining_eq]
      exact s.state.remaining_prepared
    rw [hu.state_eq, hnil, List.drop_nil]
  have hend := remaining_dispatch hnone.2 hnone.1 m.rule hstart
  rw [hv] at hend
  exact h.remaining_ne hend

end Engine

/-! ## The end token -/

/-- A step gives the end token since an action does, or since the handler does for text that no rule
matches. -/
inductive Scanner.EndGiven (sc : Scanner) (s : Session) : Session → Prop
  | action (u v : Session) (m : Candidate) : s.state.done = false → sc.Retried s.prepared u →
    sc.engine.matchLength? m.rule u.state.remaining = some m.length →
    sc.dispatch m.rule (u.mapState (·.commit m.length)) = (.ok (some .eof), v) →
    EndGiven sc s (v.mapState (·.checkResumed))
  | handler (u : Session) (handle : Handler) : s.state.done = false → sc.Retried s.prepared u →
    u.state.remaining ≠ [] → u.context.handler = some handle →
    handle u.context.handled u.state.unrecognized = .ok (some .eof) →
    EndGiven sc s (noMatch u).2

/-- A step that gives the end token on its own account is at the end of the input, or text is
hidden. -/
theorem Scanner.remaining_of_eof {sc : Scanner} {s t : Session}
    (hn : sc.nextMatch s = (.ok (some .eof), t)) :
    t.state.remaining = [] ∨ s.state.HidesText ∧ t = s ∨ sc.EndGiven s t := by
  generalize hr : (Except.ok (some Token.eof) : Except Error (Option Token)) = r at hn
  cases Scanner.ending_of_nextMatch hn with
  | done hd =>
    by_cases hremaining : s.state.remaining = []
    · exact .inl hremaining
    · exact .inr (.inl ⟨⟨hd, hremaining⟩, rfl⟩)
  | unknown => cases hr
  | unmatched u hd hu =>
    by_cases hremaining : u.state.remaining = []
    · left
      rw [state_noMatch]
      exact hremaining
    · right
      right
      rw [noMatch, if_neg (mt List.isEmpty_iff.1 hremaining)] at hr
      rcases hc : u.context.handler with _ | handle
      · simp [Context.report, hc] at hr
      · simp only [Context.report, hc] at hr
        exact .handler u handle hd hu hremaining hc hr.symm
  | matched u v m hd hu hm hv =>
    subst hr
    exact .inr (.inr (.action u v m hd hu hm hv))

/-- Text is hidden exactly where a step at the end of the input has failed after its action had put
text back. That takes an engine without backtracking whose actions put back and reject, and a
context that turns this into an error. Otherwise the end token of a step on its own account means
that nothing remains. -/
theorem Engine.hidesText_iff (e : Engine) (context : Context) (input : List Char) {s : Session}
    (hs : e.scanner.Reaches (fun c _ => c.Scans) (e.scanner.start context input) s) :
    (s.state.HidesText ↔ ∃ u v,
      e.scanner.Reaches (fun c _ => c.Scans) (e.scanner.start context input) u ∧
        e.FailsAtEnd u v ∧ s.state = v.state) ∧
    (s.state.HidesText → e.flags.backtracking = false ∧ .reject ∈ e.commands ∧
      ((∃ n, .less n ∈ e.commands) ∨ ∃ text, .unput text ∈ e.commands) ∧
      ∃ err, context.Raises err) ∧
    ∀ t, e.scanner.nextMatch s = (.ok (some .eof), t) →
      t.state.remaining = [] ∨ s.state.HidesText ∧ t = s ∨ e.scanner.EndGiven s t := by
  have hiff : s.state.HidesText ↔ ∃ u v,
      e.scanner.Reaches (fun c _ => c.Scans) (e.scanner.start context input) u ∧
        e.FailsAtEnd u v ∧ s.state = v.state := by
    constructor
    · let I (t : Session) : Prop :=
        e.scanner.Reaches (fun c _ => c.Scans) (e.scanner.start context input) t ∧
          (t.state.HidesText → ∃ u v,
            e.scanner.Reaches (fun c _ => c.Scans) (e.scanner.start context input) u ∧
              e.FailsAtEnd u v ∧ t.state = v.state)
      have hstep (t : Session) (ht : I t) : I (e.scanner.nextMatch t).2 := by
        refine ⟨ht.1.tail ⟨1, .nextMatch, _, trivial, rfl⟩, fun hhides => ?_⟩
        -- behind the end a step changes nothing, so the one that failed stays the same
        rcases hidesText_nextMatch hhides with ⟨hbefore, hsame⟩ | hfails
        · rw [hsame]
          exact ht.2 hbefore
        · exact ⟨t, _, ht.1, hfails, rfl⟩
      exact (hs.scans_invariant hstep ⟨.refl, fun h => by cases h.1⟩).2
    · rintro ⟨u, v, -, hfails, hsame⟩
      rw [hsame]
      exact hfails.hidesText
  refine ⟨hiff, fun hhides => ?_, fun t ht => Scanner.remaining_of_eof ht⟩
  obtain ⟨u, v, hu, hfails, -⟩ := hiff.1 hhides
  obtain ⟨hb, hreject, hback, err, hraises⟩ := hfails.requires
  have hflags : u.state.flags = e.flags := flags_of_reaches hu
  have hhandler : u.context.handler = context.handler :=
    hu.scans_invariant (I := fun t => t.context.handler = context.handler)
      (fun t ht => (Scanner.handler_nextMatch e t).trans ht) rfl
  exact ⟨hflags ▸ hb, hreject, hback, err, (Context.raises_congr hhandler).1 hraises⟩

/-- At the end the last letter is put back, and it is found. After it nothing remains, and the end
is noted for good. -/
theorem Engine.hidesText_iff_less : ∃ e s t,
    RuleSet.compile { rules := [{ pattern := .text "[a-z]+", action := "this.more()" },
      { pattern := .text "$", action := "this.less(1); return 'ID'" }] } none = .ok e ∧
    e.scanner.Reaches (fun c _ => c.Scans) (e.scanner.start {} ['a', 'b']) s ∧
    s.state.remaining = ['b'] ∧ ¬s.state.HidesText ∧
    e.scanner.Reaches (fun c _ => c.Scans) (e.scanner.start {} ['a', 'b']) t ∧
    e.scanner.nextMatch t = (.ok (some .eof), t) ∧ t.state.remaining = [] := by
  generalize hrules : RuleSet.compile { rules := [
      { pattern := .text "[a-z]+", action := "this.more()" },
      { pattern := .text "$", action := "this.less(1); return 'ID'" }] } none = result
  have hcommands : (result.toOption.map Engine.commands) =
      some [.more, .less 1, .give (.name "ID")] := by
    rw [← hrules]
    decide +kernel
  have hback : (result.toOption.map fun e =>
      (e.scanner.run 2 [.lex] (e.scanner.start {} ['a', 'b'])).map (·.2.state.remaining)) =
      some (some ['b']) := by
    rw [← hrules]
    decide +kernel
  have hend : (result.toOption.map fun e =>
      (e.scanner.run 2 [.lex, .lex] (e.scanner.start {} ['a', 'b'])).map (·.2.state.done)) =
      some (some true) := by
    rw [← hrules]
    decide +kernel
  rcases result with error | e
  · cases hcommands
  replace hcommands : e.commands = _ := Option.some.inj hcommands
  obtain ⟨⟨first, s⟩, hs, hremaining⟩ := Option.map_eq_some_iff.1 (Option.some.inj hback)
  obtain ⟨⟨both, t⟩, ht, hdone⟩ := Option.map_eq_some_iff.1 (Option.some.inj hend)
  have hs := Scanner.reaches_of_run (P := fun c _ => c.Scans) (fun c hc _ => by
    rw [List.mem_singleton.1 hc]
    trivial) hs
  have ht := Scanner.reaches_of_run (P := fun c _ => c.Scans) (fun c hc _ => by
    simp only [List.mem_cons, List.not_mem_nil, or_false, or_self] at hc
    rw [hc]
    trivial) ht
  have hnever {u : Session}
      (hu : e.scanner.Reaches (fun c _ => c.Scans) (e.scanner.start {} ['a', 'b']) u) :
      ¬u.state.HidesText := by
    intro h
    have hreject := ((e.hidesText_iff {} _ hu).2.1 h).2.1
    rw [hcommands] at hreject
    simp at hreject
  have heof : e.scanner.nextMatch t = (.ok (some .eof), t) := by
    rw [Scanner.nextMatch, if_pos hdone]
  refine ⟨e, s, t, rfl, hs, hremaining, hnever hs, ht, heof, ?_⟩
  rcases (e.hidesText_iff {} _ ht).2.2 t heof with h | ⟨h, -⟩ | h
  · exact h
  · exact absurd h (hnever ht)
  · have hopen : t.state.done = false := by
      cases h with
      | action _ _ _ hd => exact hd
      | handler _ _ hd => exact hd
    rw [show t.state.done = true from hdone] at hopen
    cases hopen

/-- At the end a letter is put back, and the rejection after it fails. The letter is never found. -/
theorem Engine.hidesText_of_failing : ∃ e s,
    RuleSet.compile { rules := [
      { pattern := .text "$", action := "this.unput('x'); this.reject()" },
      { pattern := .text "x", action := "return 'X'" }] } none = .ok e ∧
    e.scanner.Reaches (fun c _ => c.Scans) (e.scanner.start {} []) s ∧
    s.state.done = true ∧ s.state.remaining = ['x'] ∧
    e.scanner.nextMatch s = (.ok (some .eof), s) := by
  have h : ((RuleSet.compile { rules := [
      { pattern := .text "$", action := "this.unput('x'); this.reject()" },
      { pattern := .text "x", action := "return 'X'" }] } none).toOption.map fun e =>
        (e.scanner.run 1 [.nextMatch] (e.scanner.start {} [])).map fun r =>
          (r.2.state.done, r.2.state.remaining)) = some (some (true, ['x'])) := by
    decide +kernel
  rcases hrules : RuleSet.compile { rules := [
      { pattern := .text "$", action := "this.unput('x'); this.reject()" },
      { pattern := .text "x", action := "return 'X'" }] } none with error | e
  · rw [hrules] at h
    cases h
  rw [hrules] at h
  obtain ⟨⟨answers, s⟩, hrun, h⟩ := Option.map_eq_some_iff.1 (Option.some.inj h)
  obtain ⟨hdone, hremaining⟩ := Prod.mk.inj h
  have hs := Scanner.reaches_of_run (P := fun c _ => c.Scans) (fun c hc _ => by
    rw [List.mem_singleton.1 hc]
    trivial) hrun
  refine ⟨e, s, rfl, hs, hdone, hremaining, ?_⟩
  rw [Scanner.nextMatch, if_pos hdone]

end LexGen
