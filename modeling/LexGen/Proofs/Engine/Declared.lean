import LexGen.Proofs.Engine.Restore
import LexGen.Proofs.Scanner.Errors

/-!
# Scanning stays in declared conditions

Whether an engine is compiled or loaded, its table has the initial condition and those that its
actions begin (`Engine.Closed`). So the conditions that scanning comes to are in the table, and a
step finds the rules of the active one. An unknown condition is then an error of the handler only
(`Engine.declared_of_reaches`).
-/

namespace LexGen

/-! ## The table of an engine -/

/-- The table has the initial condition and those that actions begin. -/
structure Engine.Closed (e : Engine) : Prop where
  initial : e.conditions.contains LexGen.initial = true
  target : ∀ name, .begin name ∈ e.commands → e.conditions.contains name = true

theorem Engine.contains_of_unknownTarget? {conditions : ConditionTable} {actions : List Action}
    (h : unknownTarget? conditions actions = none) (name : String)
    (hname : .begin name ∈ actions.flatMap Action.commands) : conditions.contains name = true := by
  have hnone := List.findSome?_eq_none_iff.1 h _ hname
  simpa using hnone

theorem RuleSet.closed_of_compile {s : RuleSet} {tokens : Option TokenTable} {e : Engine}
    (h : s.compile tokens = .ok e) : e.Closed := by
  obtain ⟨-, -, hconditions, -, -, htargets⟩ := exists_of_compile h
  exact ⟨ConditionTable.contains_initial_of_build hconditions,
    Engine.contains_of_unknownTarget? htargets⟩

theorem EngineData.closed_of_load {d : EngineData} {e : Engine} (h : d.load = .ok e) : e.Closed :=
  have hrestorable := restorable_of_load h
  ⟨hrestorable.initial, Engine.contains_of_unknownTarget? hrestorable.targets⟩

/-! ## The conditions of a state -/

namespace ScanState

/-- The conditions of the state are in the table. -/
def Declared (t : ConditionTable) (s : ScanState) : Prop :=
  ∀ name ∈ s.conditions, t.contains name = true

theorem conditions_prepared (s : ScanState) : s.checkEnd.prepare.conditions = s.conditions := by
  unfold prepare checkEnd
  split_ifs <;> rfl

theorem conditions_checkResumed (s : ScanState) : s.checkResumed.conditions = s.conditions := by
  unfold checkResumed
  split_ifs <;> rfl

namespace Declared

variable {t : ConditionTable} {s : ScanState}

theorem start (h : t.contains initial = true) (flags : ScanFlags) (input : List Char) :
    Declared t (.start flags input) := by
  intro name hname
  rwa [List.mem_singleton.1 hname]

theorem begin (h : Declared t s) {condition : String} (hc : t.contains condition = true) :
    Declared t (s.begin condition) := by
  rintro name hname
  rcases List.mem_cons.1 hname with rfl | hname
  · exact hc
  · exact h name hname

theorem pop (h : Declared t s) : Declared t s.pop.2 := by
  unfold ScanState.pop
  split
  · rename_i c d rest hs
    exact fun name hname => h name (hs ▸ List.mem_cons_of_mem c hname)
  · exact h
  · exact h

theorem input (h : Declared t s) : Declared t s.input.2 := by
  unfold ScanState.input
  split
  · exact h
  · exact h

theorem reject (h : Declared t s) : Declared t (Command.reject.change s) := by
  simp only [Command.change]
  split_ifs
  · exact h
  · exact h

theorem change (h : Declared t s) {c : Command}
    (hc : ∀ name, c = .begin name → t.contains name = true) : Declared t (c.change s) := by
  cases c with
  | begin condition => exact h.begin (hc condition rfl)
  | pop => exact h.pop
  | reject => exact h.reject
  | input => exact h.input
  | _ => exact h

theorem change_of_call (h : Declared t s) {c : Call} (hc : ∀ name, c ≠ .begin name) :
    Declared t (c.change s) := by
  cases c with
  | begin condition => exact absurd rfl (hc condition)
  | pop => exact h.pop
  | reject => exact h.reject
  | input => exact h.input
  | _ => exact h

/-- Where the name on top is empty the initial condition is active. -/
theorem active (h : Declared t s) (hinitial : t.contains initial = true) :
    t.contains s.active = true := by
  unfold ScanState.active
  split
  · rename_i c rest hs
    split_ifs
    · exact hinitial
    · exact h c (hs ▸ List.mem_cons_self)
  · exact hinitial

end Declared
end ScanState

/-! ## Steps -/

namespace Engine

variable {e : Engine} (he : e.Closed)

include he

theorem declared_nextMatch {s : Session} (h : s.state.Declared e.conditions) :
    (e.scanner.nextMatch s).2.state.Declared e.conditions := by
  refine Scanner.kept_nextMatch (I := ScanState.Declared e.conditions) (fun s hs => ?_)
    (fun _ _ hs => hs) (fun a ha c hc s hs => hs.change fun name hname => ?_) (fun s hs => ?_) h
  · unfold ScanState.Declared
    rwa [s.conditions_prepared]
  · exact he.target name (mem_commands ha (hname ▸ hc))
  · unfold ScanState.Declared
    rwa [s.conditions_checkResumed]

theorem exists_activeRules {s : ScanState} (h : s.Declared e.conditions) :
    ∃ rules, e.activeRules s.active = .ok rules := by
  obtain ⟨c, hc⟩ := Option.isSome_iff_exists.1 (h.active he.initial)
  exact ⟨c.rules, by rw [activeRules, hc]⟩

/-- A step fails with an error that the context raises. -/
theorem raises_of_declared {s : Session} (h : s.state.Declared e.conditions) {err : Error}
    (hfail : (e.scanner.nextMatch s).1 = .error err) : s.context.Raises err := by
  rcases raises_of_nextMatch hfail with hactive | hraises
  · have hprepared : s.prepared.state.Declared e.conditions := by
      unfold ScanState.Declared
      exact s.state.conditions_prepared ▸ h
    obtain ⟨rules, hrules⟩ := exists_activeRules he hprepared
    rw [hrules] at hactive
    cases hactive
  · exact hraises

end Engine

/-! ## Calls -/

/-- A call that begins no condition and brings no other context. -/
def Call.Stays : Call → Prop
  | begin _ | setInput _ (some _) => False
  | _ => True

theorem Scanner.handler_answer? {sc : Scanner} {n : Nat} {c : Call} {s t : Session} {a : Answer}
    (hc : ¬c.Scans) (hstays : c.Stays) (h : sc.answer? n c s = some (a, t)) :
    t.context.handler = s.context.handler := by
  cases c with
  | setInput input context =>
    rcases context with _ | new
    · simp only [answer?, Option.some.injEq, Prod.mk.injEq] at h
      exact h.2 ▸ rfl
    · exact hstays.elim
  | nextMatch => exact absurd trivial hc
  | lex => exact absurd trivial hc
  | tokens => exact absurd trivial hc
  | reject =>
    simp only [answer?, Option.some.injEq, Prod.mk.injEq] at h
    exact h.2 ▸ s.handler_reject
  | _ =>
    simp only [answer?, Option.some.injEq, Prod.mk.injEq] at h
    exact h.2 ▸ rfl

theorem Scanner.declared_answer? {e : Engine} (he : e.Closed) {n : Nat} {c : Call} {s t : Session}
    {a : Answer} (hc : ¬c.Scans) (hstays : c.Stays) (h : e.scanner.answer? n c s = some (a, t))
    (hs : s.state.Declared e.conditions) : t.state.Declared e.conditions := by
  by_cases hset : ∃ input context, c = .setInput input context
  · obtain ⟨input, context, rfl⟩ := hset
    simp only [answer?, Option.some.injEq, Prod.mk.injEq] at h
    exact h.2 ▸ .start he.initial _ _
  · rw [state_answer? hc (fun input context h => hset ⟨input, context, h⟩) h]
    exact hs.change_of_call fun name hname => by rw [hname] at hstays; exact hstays

/-- A compiled or loaded engine comes to declared conditions only, and no call fails for an unknown
one, unless a condition is begun from outside or the handler gives this error. -/
theorem Engine.declared_of_reaches {e : Engine}
    (he : (∃ (r : RuleSet) (tokens : Option TokenTable), r.compile tokens = .ok e) ∨
      ∃ d : EngineData, d.load = .ok e)
    {context : Context} (hhandler : ∀ handle ∈ context.handler, ∀ earlier x name,
      handle earlier x ≠ .error (.unknownCondition name))
    (input : List Char) {s : Session}
    (hs : e.scanner.Reaches (fun c _ => c.Stays) (e.scanner.start context input) s) :
    (∀ name ∈ s.state.conditions, e.conditions.contains name = true) ∧
      ∀ {n : Nat} {c : Call} {a : Answer} {t : Session}, c.Stays →
        e.scanner.answer? n c s = some (a, t) → ∀ name, ¬a.Fails (.unknownCondition name) := by
  have hclosed : e.Closed := by
    rcases he with ⟨r, tokens, h⟩ | ⟨d, h⟩
    · exact RuleSet.closed_of_compile h
    · exact EngineData.closed_of_load h
  -- the handler is part of the invariant, since a call may fail with what it gives
  let I (s : Session) : Prop :=
    s.state.Declared e.conditions ∧ s.context.handler = context.handler
  have hstep (s : Session) (h : I s) : I (e.scanner.nextMatch s).2 :=
    ⟨declared_nextMatch hclosed h.1, (Scanner.handler_nextMatch e s).trans h.2⟩
  have hraises {s : Session} (h : I s) (name : String) :
      ¬s.context.Raises (.unknownCondition name) := by
    intro hr
    obtain ⟨handle, hmem, earlier, x, hanswer⟩ := hr.handler (by simp)
    exact hhandler handle (h.2 ▸ hmem) earlier x name hanswer
  have hI : I s := by
    refine hs.invariant (fun n c s a t hc hs ha => ?_) ⟨.start hclosed.initial _ _, rfl⟩
    by_cases hscans : c.Scans
    · exact Scanner.kept_of_scans hstep hscans ha hs
    · exact ⟨Scanner.declared_answer? hclosed hscans hc ha hs.1,
        (Scanner.handler_answer? hscans hc ha).trans hs.2⟩
  refine ⟨hI.1, fun {n c a t} hc ha name hfail => ?_⟩
  by_cases hscans : c.Scans
  · obtain ⟨u, hu, hlast | ⟨line, condition, hstuck⟩⟩ :=
      Scanner.exists_step_of_fails hstep hscans ha hfail hI
    · exact hraises hu name (raises_of_declared hclosed hu.1 hlast)
    · cases hstuck
  · exact hraises hI name (Scanner.raises_of_fails hscans ha hfail)

/-- Rules that begin a condition and then one whose name is empty. -/
def nested : RuleSet where
  rules := [
    { pattern := .text "\"", action := "this.begin('STR')" },
    { scope := .conditions ["STR"], pattern := .text "[a-z]+",
      action := "this.begin(''); return 'ID'" }]
  conditions := (Table.empty.insert "STR" true).insert "" true

/-- With the empty name on top the rules of the initial condition are active. None of them
matches. -/
theorem Engine.declared_of_reaches_nested : ∃ (e : Engine) (context : Context) (s t : Session)
    (a : Answer), nested.compile none = .ok e ∧ context.handler.isSome ∧
    e.scanner.Reaches (fun c _ => c.Stays) (e.scanner.start context ['"', 'a', 'b', '1']) s ∧
    s.state.conditions = ["", "STR", initial] ∧ s.state.active = initial ∧
    (∀ name ∈ s.state.conditions, e.conditions.contains name = true) ∧
    e.scanner.answer? 1 .lex s = some (a, t) ∧ (∃ x, a.Fails (.lexical x)) ∧
    ∀ name, ¬a.Fails (.unknownCondition name) := by
  generalize hcontext : ({ handler := some fun _ x => .error (.lexical x) } : Context) = context
  generalize hrules : nested.compile none = result
  have h : (result.toOption.bind fun e =>
      (e.scanner.run 2 [.lex] (e.scanner.start context ['"', 'a', 'b', '1'])).bind fun r =>
        (e.scanner.lexWithin 1 r.2).map fun found =>
          (r.2.state.conditions, match found.1 with
            | .error (.lexical _) => true
            | _ => false)) = some (["", "STR", initial], true) := by
    rw [← hrules, ← hcontext]
    decide +kernel
  rcases result with error | e
  · cases h
  simp only [Except.toOption, Option.bind_some] at h
  obtain ⟨⟨answers, s⟩, hrun, h⟩ := Option.bind_eq_some_iff.1 h
  obtain ⟨⟨found, t⟩, hl, h⟩ := Option.map_eq_some_iff.1 h
  obtain ⟨hconditions, hfound⟩ := Prod.mk.inj h
  have hs := Scanner.reaches_of_run (P := fun c _ => c.Stays) (fun c hc _ => by
    rw [List.mem_singleton.1 hc]
    trivial) hrun
  have ha : e.scanner.answer? 1 .lex s = some (.token found, t) := by
    rw [Scanner.answer?, hl]
    rfl
  obtain ⟨hdeclared, hno⟩ := declared_of_reaches (.inl ⟨nested, none, hrules⟩)
    (fun handle (hmem : handle ∈ context.handler) earlier x name hx => by
      rw [← hcontext] at hmem
      rw [← Option.some.inj hmem] at hx
      cases hx) _ hs
  refine ⟨e, context, s, t, _, rfl, by rw [← hcontext]; rfl, hs, hconditions, ?_, hdeclared, ha, ?_,
    fun name => hno (c := .lex) trivial ha name⟩
  · rw [ScanState.active, hconditions]
    rfl
  · split at hfound
    · rename_i x hx
      exact ⟨x, hx⟩
    · cases hfound

end LexGen
