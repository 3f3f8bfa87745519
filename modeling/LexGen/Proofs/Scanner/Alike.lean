import LexGen.Proofs.Scanner.Calls

/-!
# Engines with the same tables scan alike

Where two scanners begin alike and take the same steps (`Scanner.SameSteps`), the same calls give the
same answers and lead to the same states (`Scanner.SameSteps.run_eq`).

How an engine is written out makes no difference to scanning: engines with the same rules, start
conditions, actions and flags (`Alike`) take the same steps (`Alike.nextMatch_eq`).
-/

namespace LexGen

namespace Scanner

/-- The scanners begin alike and take the same steps. -/
structure SameSteps (sc sd : Scanner) : Prop where
  start_eq : ∀ context input, sc.start context input = sd.start context input
  nextMatch_eq : ∀ s, sc.nextMatch s = sd.nextMatch s

namespace SameSteps

variable {sc sd : Scanner} (h : sc.SameSteps sd)

include h

theorem lexWithin_eq : ∀ (n : Nat) (s : Session), sc.lexWithin n s = sd.lexWithin n s
  | 0, _ => rfl
  | n + 1, s => by simp only [lexWithin, h.nextMatch_eq, lexWithin_eq n]

theorem take_eq (n : Nat) : ∀ (count : Nat) (t : TokenStream),
    TokenStream.take sc n count t = TokenStream.take sd n count t
  | 0, _ => rfl
  | count + 1, t => by
    simp only [TokenStream.take, TokenStream.next, h.lexWithin_eq, take_eq n count]

theorem answer?_eq (n : Nat) (c : Call) (s : Session) : sc.answer? n c s = sd.answer? n c s := by
  cases c with
  | setInput input context => rw [answer?, answer?, h.start_eq]
  | nextMatch => rw [answer?, answer?, h.nextMatch_eq]
  | lex => rw [answer?, answer?, h.lexWithin_eq]
  | tokens count => rw [answer?, answer?, h.take_eq]
  | _ => rfl

/-- The same calls give the same answers and lead to the same sessions. -/
theorem run_eq (n : Nat) : ∀ (calls : List Call) (s : Session), sc.run n calls s = sd.run n calls s
  | [], _ => rfl
  | c :: cs, s => by simp only [run, h.answer?_eq, run_eq n cs]

end SameSteps
end Scanner

namespace Engine

/-- The engines differ in how they are written out only. -/
structure Alike (e f : Engine) : Prop where
  rules_eq : e.rules = f.rules
  conditions_eq : e.conditions = f.conditions
  actions_eq : e.actions = f.actions
  flags_eq : e.flags = f.flags

namespace Alike

variable {e f : Engine} (h : e.Alike f)

include h

theorem matchLength?_eq (rule : Nat) (text : List Char) :
    e.matchLength? rule text = f.matchLength? rule text := by
  rw [matchLength?, matchLength?, h.rules_eq]

theorem activeRules_eq (condition : String) :
    e.activeRules condition = f.activeRules condition := by
  rw [activeRules, activeRules, h.conditions_eq]

theorem firstMatch?_eq (text : List Char) :
    ∀ rules : List Nat, e.firstMatch? text rules = f.firstMatch? text rules
  | [] => rfl
  | r :: rs => by rw [firstMatch?, firstMatch?, h.matchLength?_eq, firstMatch?_eq text rs]

theorem longestMatch?_eq (text : List Char) :
    ∀ (rules : List Nat) (best : Option Candidate),
      e.longestMatch? text rules best = f.longestMatch? text rules best
  | [], _ => rfl
  | r :: rs, best => by
    simp only [longestMatch?, h.matchLength?_eq, longestMatch?_eq text rs]

theorem select?_eq (text : List Char) (rules : List Nat) :
    e.select? text rules = f.select? text rules := by
  rw [select?, select?, h.flags_eq, h.longestMatch?_eq, h.firstMatch?_eq]

theorem start_eq (context : Context) (input : List Char) :
    e.scanner.start context input = f.scanner.start context input := by
  show Session.mk (.start e.flags input) context = Session.mk (.start f.flags input) context
  rw [h.flags_eq]

theorem attempt_eq (m : Candidate) (s : Session) :
    e.scanner.attempt m s = f.scanner.attempt m s := by
  have hdispatch : e.scanner.dispatch = f.scanner.dispatch := congrArg Action.dispatch h.actions_eq
  have hflags : e.scanner.engine.flags = f.scanner.engine.flags := h.flags_eq
  rw [Scanner.attempt, Scanner.attempt, hdispatch, hflags]

theorem tryInTurn_eq : ∀ (rules : List Nat) (s : Session),
    e.scanner.tryInTurn rules s = f.scanner.tryInTurn rules s
  | [], _ => rfl
  | r :: rs, s => by
    have hmatch : e.scanner.engine.matchLength? r s.state.remaining =
      f.scanner.engine.matchLength? r s.state.remaining := h.matchLength?_eq _ _
    simp only [Scanner.tryInTurn, hmatch, h.attempt_eq, tryInTurn_eq rs]

theorem takeFrom_eq (rules : List Nat) (s : Session) :
    e.scanner.takeFrom rules s = f.scanner.takeFrom rules s := by
  have hselect : e.scanner.engine.select? s.state.remaining rules =
    f.scanner.engine.select? s.state.remaining rules := h.select?_eq _ _
  have hflags : e.scanner.engine.flags = f.scanner.engine.flags := h.flags_eq
  simp only [Scanner.takeFrom, Scanner.takeMatch, hflags, hselect, h.tryInTurn_eq, h.attempt_eq]

theorem nextMatch_eq (s : Session) : e.scanner.nextMatch s = f.scanner.nextMatch s := by
  have hactive : ∀ name, e.scanner.engine.activeRules name = f.scanner.engine.activeRules name :=
    h.activeRules_eq
  simp only [Scanner.nextMatch, hactive, h.takeFrom_eq]

theorem sameSteps : e.scanner.SameSteps f.scanner := ⟨h.start_eq, h.nextMatch_eq⟩

/-- The same calls give the same answers and lead to the same sessions. -/
theorem run_eq (n : Nat) (calls : List Call) (s : Session) :
    e.scanner.run n calls s = f.scanner.run n calls s :=
  h.sameSteps.run_eq n calls s

end Alike
end Engine
end LexGen
