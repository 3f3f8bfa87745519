import LexGen.Proofs.Engine.Restore
import LexGen.Proofs.ScanState.Texts
import LexGen.Proofs.Scanner.Backtracking
import LexGen.Proofs.Scanner.Simulation

/-!
# Rules that never reject

Where no action rejects, backtracking comes down to taking the first match
(`Engine.nextMatch_of_no_reject`). An engine without it does the same wherever the match that it
selects is the first one. So the two scan alike, but for the flag and the notes, if the engine does
not look for the longest match, or if that is always the first one (`RuleSet.run_withBacktracking`).
Where the longest match is another one, they differ (`RuleSet.backtracking_takes_first`).
-/

namespace LexGen

/-! ## Other flags -/

namespace ScanState

variable {f : ScanFlags}

theorem prepared_withFlags (f : ScanFlags) (s : ScanState) :
    (s.withFlags f).checkEnd.prepare = s.checkEnd.prepare.withFlags f := by
  unfold prepare checkEnd withFlags
  split_ifs <;> rfl

theorem checkResumed_withFlags (f : ScanFlags) (s : ScanState) :
    (s.withFlags f).checkResumed = s.checkResumed.withFlags f := by
  unfold checkResumed withFlags
  split_ifs <;> rfl

theorem commit_withFlags {s : ScanState} (h : f.ranges = s.flags.ranges) (n : Nat) :
    (s.withFlags f).commit n = (s.commit n).withFlags f := by
  simp only [commit, withFlags, h]
  rfl

end ScanState

theorem Command.change_withFlags {c : Command} (hc : c ≠ .reject) (f : ScanFlags) (s : ScanState) :
    c.change (s.withFlags f) = (c.change s).withFlags f := by
  cases c with
  | reject => exact absurd rfl hc
  | pop =>
    simp only [change, ScanState.pop, ScanState.withFlags]
    split <;> rfl
  | input =>
    simp only [change, ScanState.input, ScanState.withFlags]
    split <;> rfl
  | _ => rfl

/-- The contexts differ in the notes only. -/
structure Context.Agrees (c d : Context) : Prop where
  handler_eq : d.handler = c.handler
  handled_eq : d.handled = c.handled
  echoed_eq : d.echoed = c.echoed

namespace Context.Agrees

variable {c d : Context} (h : c.Agrees d)

include h

theorem trace_left (text : String) : (c.trace text).Agrees d :=
  ⟨h.handler_eq, h.handled_eq, h.echoed_eq⟩

theorem trace_right (text : String) : c.Agrees (d.trace text) :=
  ⟨h.handler_eq, h.handled_eq, h.echoed_eq⟩

theorem echo (text : List Char) : (c.echo text).Agrees (d.echo text) :=
  ⟨h.handler_eq, h.handled_eq, congrArg (· ++ text) h.echoed_eq⟩

theorem report (x : LexicalError) :
    (c.report x).1 = (d.report x).1 ∧ (c.report x).2.Agrees (d.report x).2 := by
  unfold Context.report
  rw [h.handler_eq]
  rcases hc : c.handler with _ | handle
  · exact ⟨rfl, h⟩
  · exact ⟨by rw [h.handled_eq], rfl, congrArg (x :: ·) h.handled_eq, h.echoed_eq⟩

end Context.Agrees

/-- The second state is the first one under the flags `f`, which keep ranges if the first ones do,
and the contexts differ in the notes only. -/
structure Session.Agrees (f : ScanFlags) (s t : Session) : Prop where
  state_eq : t.state = s.state.withFlags f
  ranges_eq : f.ranges = s.state.flags.ranges
  context : s.context.Agrees t.context

namespace Session.Agrees

variable {f : ScanFlags} {s t : Session} (h : s.Agrees f t)

include h

theorem mapState {change : ScanState → ScanState}
    (hflags : ∀ u, (change u).flags = u.flags)
    (hchange : change (s.state.withFlags f) = (change s.state).withFlags f) :
    (s.mapState change).Agrees f (t.mapState change) where
  state_eq := by
    show change t.state = _
    rw [h.state_eq, hchange]
    rfl
  ranges_eq := by
    show f.ranges = (change s.state).flags.ranges
    rw [hflags, h.ranges_eq]
  context := h.context

theorem prepared : s.prepared.Agrees f t.prepared :=
  h.mapState ScanState.flags_prepared (s.state.prepared_withFlags f)

theorem commit (n : Nat) : (s.mapState (·.commit n)).Agrees f (t.mapState (·.commit n)) :=
  h.mapState (fun _ => rfl) (ScanState.commit_withFlags h.ranges_eq n)

theorem change {c : Command} (hc : c ≠ .reject) :
    (s.mapState c.change).Agrees f (t.mapState c.change) :=
  h.mapState c.flags_change (c.change_withFlags hc f s.state)

theorem checkResumed : (s.mapState (·.checkResumed)).Agrees f (t.mapState (·.checkResumed)) := by
  refine h.mapState (fun u => ?_) (s.state.checkResumed_withFlags f)
  unfold ScanState.checkResumed
  split_ifs <;> rfl

theorem noMatch : (Scanner.noMatch s).1 = (Scanner.noMatch t).1 ∧
    (Scanner.noMatch s).2.Agrees f (Scanner.noMatch t).2 := by
  have hremaining : t.state.remaining = s.state.remaining := by
    rw [h.state_eq]
    rfl
  have herror : t.state.unrecognized = s.state.unrecognized := by
    rw [h.state_eq]
    rfl
  unfold Scanner.noMatch
  rw [hremaining, herror]
  split_ifs
  · exact ⟨rfl, h⟩
  · obtain ⟨hresult, hcontext⟩ := h.context.report s.state.unrecognized
    exact ⟨hresult, h.state_eq, h.ranges_eq, hcontext⟩

end Session.Agrees

/-! ## Steps -/

theorem Action.runCommands_agrees {f : ScanFlags} : ∀ {cs : List Command} {s t : Session},
    .reject ∉ cs → s.Agrees f t →
      (runCommands cs s).1 = (runCommands cs t).1 ∧
        (runCommands cs s).2.Agrees f (runCommands cs t).2
  | [], s, t, _, h => ⟨rfl, h⟩
  | c :: cs, s, t, hcs, h => by
    have hc : c ≠ .reject := fun hc => hcs (hc ▸ List.mem_cons_self)
    have hrest {u v : Session} (huv : u.Agrees f v) :=
      runCommands_agrees (fun hmem => hcs (List.mem_cons_of_mem c hmem)) huv
    cases c with
    | give token => exact ⟨rfl, h⟩
    | skip => exact ⟨rfl, h⟩
    | reject => exact absurd rfl hc
    | echo =>
      have hcurrent : t.state.current = s.state.current := by
        rw [h.state_eq]
        rfl
      rw [runCommands, runCommands, hcurrent]
      exact hrest ⟨h.state_eq, h.ranges_eq, h.context.echo _⟩
    | _ => exact hrest (h.change hc)

namespace Engine

/-- The engine under other flags. -/
def withFlags (f : ScanFlags) (e : Engine) : Engine := { e with flags := f }

/-- The engine that does not look for the longest match. -/
def takingFirst (e : Engine) : Engine := e.withFlags { e.flags with flex := false }

/-- Where the longest match is looked for, it is that of the first rule that matches. -/
def TakesFirst (e : Engine) (s : ScanState) : Prop :=
  e.flags.flex = true → ∀ rules, e.activeRules s.active = .ok rules →
    e.longestMatch? s.remaining rules none = e.firstMatch? s.remaining rules

variable {e : Engine}

theorem firstMatch?_eq_head? (text : List Char) :
    ∀ rules : List Nat, e.firstMatch? text rules = (e.candidates text rules).head?
  | [] => rfl
  | rule :: rules => by
    rw [firstMatch?, candidates, List.filterMap_cons]
    rcases e.matchLength? rule text with _ | n
    · exact firstMatch?_eq_head? text rules
    · rfl

theorem firstMatch?_withFlags (e : Engine) (f : ScanFlags) (text : List Char) (rules : List Nat) :
    (e.withFlags f).firstMatch? text rules = e.firstMatch? text rules := by
  rw [firstMatch?_eq_head?, firstMatch?_eq_head?]
  rfl

theorem TakesFirst.select?_eq {s : ScanState} (h : e.TakesFirst s) {rules : List Nat}
    (hr : e.activeRules s.active = .ok rules) :
    e.select? s.remaining rules = e.firstMatch? s.remaining rules := by
  unfold select?
  split_ifs with hflex
  · exact h hflex rules hr
  · rfl

section NoReject

variable (hreject : .reject ∉ e.commands)

include hreject

theorem not_rejects_trial (p : ScanState) (c : Context) (m : Candidate) :
    ¬Scanner.Rejects (e.scanner.trial p c m) := by
  rintro ⟨-, hset⟩
  unfold Scanner.trial at hset
  rw [Scanner.rejected_settled] at hset
  have hkept : (e.scanner.dispatch m.rule ⟨p.commit m.length, c⟩).2.state.rejected = false := by
    refine Action.state_dispatch (I := fun u => u.rejected = false) (fun a ha k hk u hu => ?_)
      m.rule rfl
    have hmem : k ∈ e.commands := mem_commands ha hk
    cases k with
    | reject => exact absurd hmem hreject
    | pop =>
      simp only [Command.change, ScanState.pop]
      split <;> exact hu
    | input =>
      simp only [Command.change, ScanState.input]
      split <;> exact hu
    | _ => exact hu
  rw [hkept] at hset
  cases hset

/-- With backtracking a step ends with the first match, if no action rejects. -/
theorem nextMatch_of_no_reject (hb : e.flags.backtracking = true) {s : Session}
    (hd : s.state.done = false) {rules : List Nat}
    (hr : e.activeRules s.prepared.state.active = .ok rules) :
    e.scanner.nextMatch s = match e.firstMatch? s.prepared.state.remaining rules with
      | some m => e.scanner.trial s.prepared.state s.context m
      | none => Scanner.noMatch s.prepared := by
  rw [firstMatch?_eq_head?]
  obtain ⟨earlier, m, later, d, hfound, hall, -, hnext⟩ | ⟨d, hall, hnext⟩ :=
    e.scanner.nextMatch_of_backtracking hb hd hr
  · change e.candidates _ _ = _ at hfound
    rcases hall with _ | ⟨hrejects, -⟩
    · rw [hfound, hnext]
      rfl
    · exact absurd hrejects (not_rejects_trial hreject _ _ _)
  · change e.scanner.AllRejected _ _ (e.candidates _ _) _ at hall
    rw [hnext]
    generalize e.candidates s.prepared.state.remaining rules = found at hall
    rcases hall with _ | ⟨hrejects, -⟩
    · rfl
    · exact absurd hrejects (not_rejects_trial hreject _ _ _)

theorem trial_agrees {f : ScanFlags} {p : ScanState} {c d : Context}
    (hp : f.ranges = p.flags.ranges) (hc : c.Agrees d) (m : Candidate) :
    (e.scanner.trial p c m).1 = (e.scanner.trial (p.withFlags f) d m).1 ∧
      (e.scanner.trial p c m).2.Agrees f (e.scanner.trial (p.withFlags f) d m).2 := by
  have hstart : Session.Agrees f ⟨p.commit m.length, c⟩ ⟨(p.withFlags f).commit m.length, d⟩ :=
    ⟨ScanState.commit_withFlags hp _, hp, hc⟩
  have hrun : (e.scanner.dispatch m.rule ⟨p.commit m.length, c⟩).1 =
        (e.scanner.dispatch m.rule ⟨(p.withFlags f).commit m.length, d⟩).1 ∧
      (e.scanner.dispatch m.rule ⟨p.commit m.length, c⟩).2.Agrees f
        (e.scanner.dispatch m.rule ⟨(p.withFlags f).commit m.length, d⟩).2 := by
    dsimp only [scanner, Action.dispatch]
    rcases ha : e.actions[m.rule]? with _ | a
    · exact ⟨rfl, hstart.state_eq, hstart.ranges_eq, (hc.trace_left _).trace_right _⟩
    · refine Action.runCommands_agrees (fun hmem => hreject ?_)
        ⟨hstart.state_eq, hstart.ranges_eq, (hc.trace_left _).trace_right _⟩
      exact mem_commands (List.mem_of_getElem? ha) hmem
  unfold Scanner.trial
  dsimp only
  refine ⟨hrun.1, ?_⟩
  rw [← hrun.1]
  rcases (e.scanner.dispatch m.rule ⟨p.commit m.length, c⟩).1 with error | token
  · exact hrun.2
  · exact hrun.2.checkResumed

theorem nextMatch_agrees {f : ScanFlags} (hb : e.flags.backtracking = false)
    (hf : f.backtracking = true) {s t : Session} (h : s.Agrees f t)
    (hfirst : e.TakesFirst s.state) :
    (e.scanner.nextMatch s).1 = ((e.withFlags f).scanner.nextMatch t).1 ∧
      (e.scanner.nextMatch s).2.Agrees f ((e.withFlags f).scanner.nextMatch t).2 := by
  have hdone : t.state.done = s.state.done := by
    rw [h.state_eq]
    rfl
  rcases hd : s.state.done with _ | _
  · have hp := h.prepared
    have hactive : t.prepared.state.active = s.prepared.state.active := by
      rw [hp.state_eq]
      rfl
    have hremaining : t.prepared.state.remaining = s.prepared.state.remaining := by
      rw [hp.state_eq]
      rfl
    rw [hd] at hdone
    rcases hr : e.activeRules s.prepared.state.active with error | rules
    · have hron : (e.withFlags f).activeRules t.prepared.state.active = .error error := by
        rw [hactive]
        exact hr
      rw [Scanner.nextMatch_eq hd, Scanner.nextMatch_eq hdone]
      dsimp only [scanner]
      rw [hr, hron]
      exact ⟨rfl, hp⟩
    · have hron : (e.withFlags f).activeRules t.prepared.state.active = .ok rules := by
        rw [hactive]
        exact hr
      have hselect : e.select? s.prepared.state.remaining rules =
          e.firstMatch? s.prepared.state.remaining rules := by
        have hstate : e.activeRules s.state.active = .ok rules := by
          rw [← s.state.active_prepared]
          exact hr
        rw [show s.prepared.state.remaining = s.state.remaining from s.state.remaining_prepared]
        exact hfirst.select?_eq hstate
      have hon := nextMatch_of_no_reject (e := e.withFlags f) hreject hf hdone hron
      rw [e.firstMatch?_withFlags, hremaining] at hon
      have hoff : e.scanner.nextMatch s = match e.firstMatch? s.prepared.state.remaining rules with
          | some m => e.scanner.takeMatch m s.prepared
          | none => Scanner.noMatch s.prepared := by
        rw [Scanner.nextMatch_eq hd]
        dsimp only [scanner]
        rw [hr]
        dsimp only [Scanner.takeFrom]
        rw [hb, hselect]
        rfl
      rw [hon, hoff]
      rcases e.firstMatch? s.prepared.state.remaining rules with _ | m
      · exact hp.noMatch
      · dsimp only
        rw [Scanner.takeMatch_eq_trial hb, hp.state_eq]
        exact trial_agrees hreject hp.ranges_eq (hp.context.trace_left _) m
  · rw [hd] at hdone
    rw [Scanner.nextMatch, if_pos hd, Scanner.nextMatch, if_pos hdone]
    exact ⟨rfl, h⟩

/-- Calls that go on with the input give the same with backtracking as without it, if the first
match is taken wherever they lead. -/
theorem run_agrees {f : ScanFlags} (hb : e.flags.backtracking = false) (hf : f.backtracking = true)
    (hranges : f.ranges = e.flags.ranges) {context : Context} {input : List Char}
    (hfirst : ∀ s, e.scanner.Reaches (fun c _ => c.Scans) (e.scanner.start context input) s →
      e.TakesFirst s.state) (n : Nat) {calls : List Call} (hcalls : ∀ c ∈ calls, c.Scans) :
    Option.Rel (Scanner.Agree (Session.Agrees f))
      (e.scanner.run n calls (e.scanner.start context input))
      ((e.withFlags f).scanner.run n calls ((e.withFlags f).scanner.start context input)) := by
  have hsim : Scanner.Simulation e.scanner (e.withFlags f).scanner fun s t =>
      e.scanner.Reaches (fun c _ => c.Scans) (e.scanner.start context input) s ∧ s.Agrees f t := by
    refine ⟨fun h => ?_, fun h => ?_, fun h => ⟨h.1.tail ⟨1, .nextMatch, _, trivial, rfl⟩, ?_⟩⟩
    · rw [h.2.state_eq]
      rfl
    · exact (nextMatch_agrees hreject hb hf h.2 (hfirst _ h.1)).1
    · exact (nextMatch_agrees hreject hb hf h.2 (hfirst _ h.1)).2
  have hstart : (e.scanner.start context input).Agrees f
      ((e.withFlags f).scanner.start context input) := by
    refine ⟨?_, hranges, rfl, rfl, rfl⟩
    show ScanState.start f input = (ScanState.start e.flags input).withFlags f
    unfold ScanState.start
    rw [hranges]
    rfl
  have hrel := hsim.run_rel n hcalls ⟨.refl, hstart⟩
  generalize e.scanner.run n calls _ = x at hrel
  generalize (e.withFlags f).scanner.run n calls _ = y at hrel
  cases hrel with
  | none => exact .none
  | some h => exact .some ⟨h.1, h.2.2⟩

end NoReject

end Engine

/-! ## Rule sets -/

namespace RuleSet

/-- The rule set with backtracking turned on or off. -/
def withBacktracking (on : Bool) (r : RuleSet) : RuleSet :=
  { r with options.flags.backtracking := on }

/-- The engines that are compiled with backtracking and without it differ in this flag only. -/
theorem compile_withBacktracking {r : RuleSet} {tokens : Option TokenTable} {e f : Engine}
    (he : (r.withBacktracking true).compile tokens = .ok e)
    (hf : (r.withBacktracking false).compile tokens = .ok f) :
    e = f.withFlags { f.flags with backtracking := true } ∧ f.flags.backtracking = false := by
  obtain ⟨fragments, conditions, rules, actions, h1, h2, h3, h4, -, rfl⟩ :=
    exists_parts_of_compile he
  obtain ⟨fragments', conditions', rules', actions', k1, k2, k3, k4, -, rfl⟩ :=
    exists_parts_of_compile hf
  obtain rfl : fragments = fragments' := Except.ok.inj (h1.symm.trans k1)
  obtain rfl : conditions = conditions' := Except.ok.inj (h2.symm.trans k2)
  obtain rfl : rules = rules' := Except.ok.inj (h3.symm.trans k3)
  obtain rfl : actions = actions' := Except.ok.inj (h4.symm.trans k4)
  exact ⟨rfl, rfl⟩

/-- Two letters and the first one of them. -/
def nestedLetters : RuleSet where
  rules := [
    { pattern := .text "a", action := "return 'A'" },
    { pattern := .text "ab", action := "return 'AB'" },
    { pattern := .text "\\s", action := "" }]
  options := { flags := { flex := true } }

end RuleSet

end LexGen
