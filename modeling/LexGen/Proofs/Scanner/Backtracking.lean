import LexGen.Describe
import LexGen.Engine.Compile
import LexGen.Proofs.ScanState.Sound

/-!
# Backtracking

With backtracking a step tries the rules that match one after the other. Each one starts from the
state that the step has got ready, whatever the rules before it have done (`Scanner.trial`), and
finds the context as they have left it (`Scanner.AllRejected`).

Where the actions are lists of commands, a match comes to the same under every context
(`Engine.trial_eq_effect`), and rejected ones leave echoed text and notes only
(`Engine.context_of_allRejected`).
-/

namespace LexGen

/-- The matches of rules at the start of a text, in the order of the rules. -/
def Engine.candidates (e : Engine) (text : List Char) (rules : List Nat) : List Candidate :=
  rules.filterMap fun rule => (e.matchLength? rule text).map fun length => ⟨rule, length⟩

namespace Scanner

/-- What taking a match in the state `p` and running its action comes to, under a context. -/
def trial (sc : Scanner) (p : ScanState) (c : Context) (m : Candidate) :
    Except Error (Option Token) × Session :=
  let r := sc.dispatch m.rule ⟨p.commit m.length, c⟩
  (r.1, r.2.settled r.1)

/-- The action has ended without a token and the state says that the match is rejected. -/
def Rejects (r : Except Error (Option Token) × Session) : Prop :=
  r.1 = .ok none ∧ r.2.state.rejected = true

/-- The context after a rejected match. -/
def contextAfter (sc : Scanner) (p : ScanState) (c : Context) (m : Candidate) : Context :=
  (sc.trial p c m).2.context.trace ("Rule #" ++ Nat.repr m.rule ++ " rejected '" ++
    String.ofList (p.remaining.take m.length) ++ "'")

/-- The matches are all rejected, one after the other, each taken in the state `p`. -/
inductive AllRejected (sc : Scanner) (p : ScanState) : Context → List Candidate → Context → Prop
  | nil (c : Context) : AllRejected sc p c [] c
  | cons {c d : Context} {m : Candidate} {ms : List Candidate} : Rejects (sc.trial p c m) →
    AllRejected sc p (sc.contextAfter p c m) ms d → AllRejected sc p c (m :: ms) d

variable {sc : Scanner}

theorem rejected_settled (s : Session) (r : Except Error (Option Token)) :
    (s.settled r).state.rejected = s.state.rejected := by
  cases r with
  | error => rfl
  | ok =>
    show s.state.checkResumed.rejected = s.state.rejected
    unfold ScanState.checkResumed
    split_ifs <;> rfl

/-- Without backtracking the selected match ends the step with what its trial comes to. -/
theorem takeMatch_eq_trial (hb : sc.engine.flags.backtracking = false) (m : Candidate)
    (s : Session) :
    sc.takeMatch m s = sc.trial s.state (s.context.trace (m.note s.state)) m := by
  rcases ha : sc.attempt m { s with context := s.context.trace (m.note s.state) } with ⟨r, u⟩
  have hr : r ≠ .ok .rejected := by
    rintro rfl
    rw [(attempt_rejected ha).1] at hb
    cases hb
  obtain ⟨v, hv, rfl⟩ := attempt_taken ha hr
  change sc.dispatch m.rule ⟨s.state.commit m.length, _⟩ = _ at hv
  rw [takeMatch_eq, ha, trial, hv]
  rfl

/-- Without backtracking a step ends with the selected match, or with none. -/
theorem nextMatch_of_not_backtracking (hb : sc.engine.flags.backtracking = false) {s : Session}
    (hd : s.state.done = false) {rules : List Nat}
    (hr : sc.engine.activeRules s.prepared.state.active = .ok rules) :
    sc.nextMatch s = match sc.engine.select? s.prepared.state.remaining rules with
      | some m => sc.trial s.prepared.state (s.context.trace (m.note s.prepared.state)) m
      | none => noMatch s.prepared := by
  rw [nextMatch_eq hd, hr]
  dsimp only
  rw [takeFrom, if_neg (by simp [hb])]
  rcases sc.engine.select? s.prepared.state.remaining rules with _ | m
  · rfl
  · exact takeMatch_eq_trial hb m s.prepared

/-- With backtracking a match is rejected if that is what its trial comes to, and otherwise ends the
step with what its trial comes to. -/
theorem attempt_of_backtracking (hb : sc.engine.flags.backtracking = true) (m : Candidate)
    (s : Session) :
    (Rejects (sc.trial s.state s.context m) ∧
      sc.attempt m s = (.ok .rejected, ⟨s.state, sc.contextAfter s.state s.context m⟩)) ∨
    (¬Rejects (sc.trial s.state s.context m) ∧ ∃ r : Except Error Attempt, r ≠ .ok .rejected ∧
      sc.attempt m s = (r, (sc.trial s.state s.context m).2) ∧
      (sc.trial s.state s.context m).1 = r.map Attempt.given) := by
  unfold contextAfter attempt trial
  rcases hd : sc.dispatch m.rule (s.mapState (·.commit m.length)) with ⟨e | _ | token, t⟩ <;>
    rw [show (⟨s.state.commit m.length, s.context⟩ : Session) = s.mapState (·.commit m.length)
      from rfl, hd]
  · exact .inr ⟨fun h => (by cases h.1), .error e, by simp, rfl, rfl⟩
  · rcases hrej : t.state.rejected with _ | _
    · refine .inr ⟨fun h => ?_, .ok .noToken, by simp, by simp [hrej, Session.settled], rfl⟩
      have hset := h.2
      rw [rejected_settled, hrej] at hset
      cases hset
    · refine .inl ⟨⟨rfl, ?_⟩, by simp [hrej, hb, Session.settled, Session.mapState]⟩
      rw [rejected_settled, hrej]
  · exact .inr ⟨fun h => (by cases h.1), .ok (.token token), by simp, rfl, rfl⟩

/-- Rules that are tried in turn are all rejected, or the first one that is not ends the step. -/
theorem tryInTurn_of_backtracking (hb : sc.engine.flags.backtracking = true) (p : ScanState) :
    ∀ (rules : List Nat) (c : Context),
      (∃ earlier m later d, sc.engine.candidates p.remaining rules = earlier ++ m :: later ∧
        sc.AllRejected p c earlier d ∧ ¬Rejects (sc.trial p d m) ∧
        sc.tryInTurn rules ⟨p, c⟩ = ((sc.trial p d m).1.map some, (sc.trial p d m).2)) ∨
      ∃ d, sc.AllRejected p c (sc.engine.candidates p.remaining rules) d ∧
        sc.tryInTurn rules ⟨p, c⟩ = (.ok none, ⟨p, d⟩)
  | [], c => .inr ⟨c, .nil c, rfl⟩
  | rule :: rules, c => by
    rw [tryInTurn, Engine.candidates, List.filterMap_cons]
    rcases hm : sc.engine.matchLength? rule p.remaining with _ | n
    · exact tryInTurn_of_backtracking hb p rules c
    dsimp only [Option.map_some]
    obtain ⟨hrej, ha⟩ | ⟨hrej, r, hr, ha, htrial⟩ :=
      sc.attempt_of_backtracking hb ⟨rule, n⟩ ⟨p, c⟩
    · -- a rejected match leaves the state, so the rest is tried in it
      simp only [ha]
      obtain ⟨earlier, m, later, d, hc, hall, h⟩ | ⟨d, hall, h⟩ :=
        tryInTurn_of_backtracking hb p rules (sc.contextAfter p c ⟨rule, n⟩)
      · exact .inl ⟨⟨rule, n⟩ :: earlier, m, later, d, congrArg _ hc, .cons hrej hall, h⟩
      · exact .inr ⟨d, .cons hrej hall, h⟩
    · refine .inl ⟨[], ⟨rule, n⟩, _, c, rfl, .nil c, hrej, ?_⟩
      simp only [ha, htrial]
      rcases r with e | _ | _ | _
      · rfl
      · rfl
      · rfl
      · exact absurd rfl hr

/-- With backtracking a step ends with the first match that is not rejected, or with none. -/
theorem nextMatch_of_backtracking (hb : sc.engine.flags.backtracking = true) {s : Session}
    (hd : s.state.done = false) {rules : List Nat}
    (hr : sc.engine.activeRules s.prepared.state.active = .ok rules) :
    (∃ earlier m later d,
      sc.engine.candidates s.prepared.state.remaining rules = earlier ++ m :: later ∧
      sc.AllRejected s.prepared.state s.context earlier d ∧
      ¬Rejects (sc.trial s.prepared.state d m) ∧ sc.nextMatch s = sc.trial s.prepared.state d m) ∨
    ∃ d, sc.AllRejected s.prepared.state s.context
        (sc.engine.candidates s.prepared.state.remaining rules) d ∧
      sc.nextMatch s = noMatch ⟨s.prepared.state, d⟩ := by
  rw [nextMatch_eq hd, hr]
  dsimp only
  rw [takeFrom, if_pos hb]
  obtain ⟨earlier, m, later, d, hc, hall, hrej, h⟩ | ⟨d, hall, h⟩ :=
    sc.tryInTurn_of_backtracking hb s.prepared.state rules s.context
  · refine .inl ⟨earlier, m, later, d, hc, hall, hrej, ?_⟩
    change sc.tryInTurn rules s.prepared = _ at h
    rw [h]
    rcases ht : sc.trial s.prepared.state d m with ⟨e | result, t⟩
    · rfl
    · rfl
  · refine .inr ⟨d, hall, ?_⟩
    change sc.tryInTurn rules s.prepared = _ at h
    rw [h]

end Scanner

/-! ## Actions that are lists of commands -/

/-- What an action comes to where rejecting asks no handler. -/
structure Effect where
  token : Option Token
  state : ScanState
  echoed : List Char

namespace Action

def effect : List Command → ScanState → Effect
  | [], s => ⟨none, s, []⟩
  | .give t :: _, s => ⟨some t, s, []⟩
  | .skip :: _, s => ⟨none, s, []⟩
  | .echo :: cs, s => { effect cs s with echoed := s.current ++ (effect cs s).echoed }
  | c :: cs, s => effect cs (c.change s)

/-- With backtracking commands cannot fail, and what they come to depends on the state alone. -/
theorem runCommands_eq_effect : ∀ (cs : List Command) {s : Session},
    s.state.flags.backtracking = true → ∃ d : Context,
      runCommands cs s = (.ok (effect cs s.state).token, ⟨(effect cs s.state).state, d⟩) ∧
      d.handler = s.context.handler ∧ d.handled = s.context.handled ∧
      d.echoed = s.context.echoed ++ (effect cs s.state).echoed
  | [], s, _ => ⟨s.context, rfl, rfl, rfl, (List.append_nil _).symm⟩
  | c :: cs, s, hb => by
    have hnext (t : Session) (ht : t.state = c.change s.state) :
        t.state.flags.backtracking = true := by
      rw [ht, c.flags_change, hb]
    cases c with
    | give t => exact ⟨s.context, rfl, rfl, rfl, (List.append_nil _).symm⟩
    | skip => exact ⟨s.context, rfl, rfl, rfl, (List.append_nil _).symm⟩
    | reject =>
      have hrej : s.reject = (.ok none, s.mapState (Command.reject.change)) := by
        simp only [Session.reject, Command.change, Session.mapState, hb, if_true]
      rw [runCommands, hrej]
      exact runCommands_eq_effect cs (hnext _ rfl)
    | echo =>
      obtain ⟨d, hrun, hhandler, hhandled, hechoed⟩ :=
        runCommands_eq_effect cs (hnext { s with context := s.context.echo s.state.current } rfl)
      refine ⟨d, hrun, hhandler, hhandled, hechoed.trans ?_⟩
      exact List.append_assoc _ _ _
    | _ => exact runCommands_eq_effect cs (hnext (s.mapState _) rfl)

end Action

namespace Engine

variable {e : Engine} {p : ScanState}

/-- The effect of a match that is taken in the state `p`. -/
def effect (e : Engine) (p : ScanState) (m : Candidate) : Effect :=
  Action.effect ((e.actions[m.rule]?).elim [] Action.commands) (p.commit m.length)

theorem trial_eq_effect (hb : p.flags.backtracking = true) (c : Context) (m : Candidate) :
    (e.scanner.trial p c m).1 = .ok (e.effect p m).token ∧
    (e.scanner.trial p c m).2.state = (e.effect p m).state.checkResumed ∧
    (e.scanner.trial p c m).2.context.handler = c.handler ∧
    (e.scanner.trial p c m).2.context.handled = c.handled ∧
    (e.scanner.trial p c m).2.context.echoed = c.echoed ++ (e.effect p m).echoed := by
  unfold Scanner.trial effect
  dsimp only [scanner, Action.dispatch]
  rcases e.actions[m.rule]? with _ | a
  · exact ⟨rfl, rfl, rfl, rfl, (List.append_nil _).symm⟩
  · obtain ⟨d, hrun, hd⟩ := Action.runCommands_eq_effect a.commands
      (s := ⟨p.commit m.length, c.trace _⟩) hb
    simp only [Action.run, Option.elim_some]
    rw [hrun]
    exact ⟨rfl, rfl, hd⟩

/-- Rejected matches leave the handler and what it has handled, and add what they echo. -/
theorem context_of_allRejected (hb : p.flags.backtracking = true) {c d : Context}
    {ms : List Candidate} (h : e.scanner.AllRejected p c ms d) :
    d.handler = c.handler ∧ d.handled = c.handled ∧
      d.echoed = c.echoed ++ ms.flatMap fun m => (e.effect p m).echoed := by
  induction h with
  | nil c => exact ⟨rfl, rfl, (List.append_nil _).symm⟩
  | @cons c d m ms _ _ ih =>
    obtain ⟨-, -, hhandler, hhandled, hechoed⟩ := e.trial_eq_effect hb c m
    refine ⟨ih.1.trans hhandler, ih.2.1.trans hhandled, ih.2.2.trans ?_⟩
    rw [List.flatMap_cons, ← List.append_assoc]
    exact congrArg (· ++ _) hechoed

/-- What a match comes to is the same under every context. -/
theorem trial_congr (hb : p.flags.backtracking = true) (c d : Context) (m : Candidate) :
    (e.scanner.trial p d m).1 = (e.scanner.trial p c m).1 ∧
      (e.scanner.trial p d m).2.state = (e.scanner.trial p c m).2.state := by
  obtain ⟨hc, hcs, -⟩ := e.trial_eq_effect hb c m
  obtain ⟨hd, hds, -⟩ := e.trial_eq_effect hb d m
  exact ⟨hd.trans hc.symm, hds.trans hcs.symm⟩

theorem flags_of_reaches {P : Call → Session → Prop} {context : Context} {input : List Char}
    {s : Session} (h : e.scanner.Reaches P (e.scanner.start context input) s) :
    s.state.flags = e.flags :=
  (ScanState.Sound.of_reaches h).flags_eq

end Engine

theorem ScanState.active_prepared (s : ScanState) : s.checkEnd.prepare.active = s.active := by
  unfold prepare checkEnd
  split_ifs <;> rfl

theorem ScanState.flags_prepared (s : ScanState) : s.checkEnd.prepare.flags = s.flags := by
  unfold prepare checkEnd
  split_ifs <;> rfl

/-- With backtracking the rules that match are tried in their order, each from the state `p`. The
first match that is not rejected decides what the step comes to. Without one the state is `p`, and
the result is the end of the input or what the context says to the error. Where the actions are
lists of commands, rejected matches change no more of the context than that they add to the echoed
text, and what comes of a match does not depend on them. -/
theorem Scanner.nextMatch_in_turn (sc : Scanner) (hb : sc.engine.flags.backtracking = true)
    (context : Context) (input : List Char) {s : Session}
    (hs : sc.Reaches (fun _ _ => True) (sc.start context input) s) (hd : s.state.done = false)
    {rules : List Nat} (hr : sc.engine.activeRules s.state.active = .ok rules) :
    let p := s.state.checkEnd.prepare
    let found := sc.engine.candidates p.remaining rules
    ((∃ earlier m later d, found = earlier ++ m :: later ∧
        sc.AllRejected p s.context earlier d ∧ ¬Rejects (sc.trial p d m) ∧
        sc.nextMatch s = sc.trial p d m) ∨
      ∃ d, sc.AllRejected p s.context found d ∧ sc.nextMatch s =
        if p.remaining.isEmpty then (.ok (some .eof), ⟨p, d⟩)
        else ((d.report p.unrecognized).1, ⟨p, (d.report p.unrecognized).2⟩)) ∧
    (sc.dispatch = Action.dispatch sc.engine.actions →
      ∀ earlier d, sc.AllRejected p s.context earlier d →
        d.handler = s.context.handler ∧ d.handled = s.context.handled ∧
        d.echoed = s.context.echoed ++ earlier.flatMap (fun m => (sc.engine.effect p m).echoed) ∧
        ∀ m, (sc.trial p d m).1 = (sc.trial p s.context m).1 ∧
          (sc.trial p d m).2.state = (sc.trial p s.context m).2.state) := by
  intro p found
  refine ⟨?_, fun hdispatch earlier d hall => ?_⟩
  · have hr' : sc.engine.activeRules s.prepared.state.active = .ok rules := by
      rw [← hr, ← s.state.active_prepared]
      rfl
    obtain htaken | ⟨d, hall, h⟩ := sc.nextMatch_of_backtracking hb hd hr'
    · exact .inl htaken
    · exact .inr ⟨d, hall, h⟩
  · obtain ⟨e, dispatch⟩ := sc
    change dispatch = Action.dispatch e.actions at hdispatch
    subst hdispatch
    have hp : p.flags.backtracking = true := by
      rw [← hb, s.state.flags_prepared, Engine.flags_of_reaches hs]
    obtain ⟨hhandler, hhandled, hechoed⟩ := Engine.context_of_allRejected hp hall
    exact ⟨hhandler, hhandled, hechoed, Engine.trial_congr hp s.context d⟩

/-- Two rules that echo and reject, and two that take a letter and a blank. -/
def rejecting : RuleSet where
  rules := [
    { pattern := .text "[a-z]+", action := "ECHO; this.begin('X'); this.input(); this.reject()" },
    { pattern := .text "a", action := "ECHO; this.unput('zz'); this.reject()" },
    { pattern := .text "[a-z]", action := "return 'ID'" },
    { pattern := .text "\\s", action := "" }]
  conditions := Table.empty.insert "X" true
  options := { flags := { backtracking := true } }

/-- After a blank the word and its first letter are rejected, although a condition has been begun
and text has been put back. The letter is then a match in the condition that there was. -/
theorem Scanner.nextMatch_in_turn_rejecting : ∃ e s earlier m later d,
    RuleSet.compile rejecting none = .ok e ∧
    e.scanner.Reaches (fun _ _ => True) (e.scanner.start {} [' ', 'a', 'b', '!']) s ∧
    s.state.done = false ∧ e.activeRules s.state.active = .ok [0, 1, 2, 3] ∧
    e.candidates s.state.checkEnd.prepare.remaining [0, 1, 2, 3] = [⟨0, 2⟩, ⟨1, 1⟩, ⟨2, 1⟩] ∧
    [⟨0, 2⟩, ⟨1, 1⟩, ⟨2, 1⟩] = earlier ++ m :: later ∧
    e.scanner.AllRejected s.state.checkEnd.prepare s.context earlier d ∧
    e.scanner.nextMatch s = e.scanner.trial s.state.checkEnd.prepare d m ∧
    (e.scanner.trial s.state.checkEnd.prepare d m).2.state =
      (e.scanner.trial s.state.checkEnd.prepare s.context m).2.state ∧
    d.echoed = s.context.echoed ++
      earlier.flatMap (fun m => (e.effect s.state.checkEnd.prepare m).echoed) ∧
    (e.scanner.nextMatch s).2.state.current = ['a'] ∧
    (e.scanner.nextMatch s).2.state.conditions = [initial] ∧
    (e.scanner.nextMatch s).2.context.echoed = ['a', 'b', 'a'] := by
  have hbefore : ((RuleSet.compile rejecting none).toOption.bind fun e =>
      (e.scanner.run 1 [.nextMatch] (e.scanner.start {} [' ', 'a', 'b', '!'])).map fun r =>
        (e.flags.backtracking, r.2.state.done, (e.activeRules r.2.state.active).toOption,
          e.candidates r.2.state.checkEnd.prepare.remaining [0, 1, 2, 3])) =
      some (true, false, some [0, 1, 2, 3], [⟨0, 2⟩, ⟨1, 1⟩, ⟨2, 1⟩]) := by
    decide +kernel
  have hafter : ((RuleSet.compile rejecting none).toOption.bind fun e =>
      (e.scanner.run 1 [.nextMatch] (e.scanner.start {} [' ', 'a', 'b', '!'])).map fun r =>
        ((e.scanner.nextMatch r.2).2.state.current, (e.scanner.nextMatch r.2).2.state.conditions,
          (e.scanner.nextMatch r.2).2.context.echoed, r.2.state.checkEnd.prepare.current)) =
      some (['a'], [initial], ['a', 'b', 'a'], []) := by
    decide +kernel
  rcases hc : RuleSet.compile rejecting none with error | e
  · rw [hc] at hbefore
    cases hbefore
  simp only [hc, Except.toOption, Option.bind_some] at hbefore hafter
  obtain ⟨⟨answers, s⟩, hrun, hbefore⟩ := Option.map_eq_some_iff.1 hbefore
  rw [hrun] at hafter
  simp only [Prod.mk.injEq, Option.map_some, Option.some.injEq] at hbefore hafter
  obtain ⟨hb, hd, hactive, hfound⟩ := hbefore
  obtain ⟨hcurrent, hconditions, hechoed, hp⟩ := hafter
  have hr : e.activeRules s.state.active = .ok [0, 1, 2, 3] := by
    rcases ha : e.activeRules s.state.active with error | rules
    · rw [ha] at hactive
      cases hactive
    · rw [ha] at hactive
      rw [Option.some.inj hactive]
  have hs := reaches_of_run (P := fun _ _ => True) (fun _ _ _ => trivial) hrun
  obtain ⟨⟨earlier, m, later, d, hsplit, hall, -, hnext⟩ | ⟨d, -, hnext⟩, hcommands⟩ :=
    e.scanner.nextMatch_in_turn hb _ _ hs hd hr
  · obtain ⟨-, -, hd', hsame⟩ := hcommands rfl earlier d hall
    exact ⟨e, s, earlier, m, later, d, rfl, hs, hd, hr, hfound, hfound.symm.trans hsplit, hall, hnext,
      (hsame m).2, hd', hcurrent, hconditions, hechoed⟩
  -- a step without a match leaves no text in the match
  · have hstate : (e.scanner.nextMatch s).2.state = s.state.checkEnd.prepare := by
      rw [hnext]
      split_ifs <;> rfl
    rw [hstate, hp] at hcurrent
    cases hcurrent

end LexGen
