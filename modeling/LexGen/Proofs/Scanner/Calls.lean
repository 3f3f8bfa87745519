import LexGen.Scanner.Stream
import Mathlib.Logic.Relation

/-!
# Calls

A user drives a scanner by calls: for a step, for a token, for the items of a token stream, or for
a change of the state from outside. `answer?` is what one call gives, `run` what a list of calls
gives.

The sessions that calls of some kind lead to are those that `Reaches` relates; what every call keeps
holds of all of them (`Reaches.invariant`).
-/

namespace LexGen

/-- What a user of a scanner can ask for. -/
inductive Call
  /-- A new input, with a new context or with the one there is. -/
  | setInput (input : List Char) (context : Option Context)
  | nextMatch
  | lex
  /-- At most so many items of a new token stream. -/
  | tokens (count : Nat)
  | input
  | unput (text : List Char)
  | less (n : Nat)
  | more
  | reject
  | begin (condition : String)
  | pop
  | takeEchoed

/-- What a call gives. -/
inductive Answer
  | done
  | step (result : Except Error (Option Token))
  | token (result : Except Error Token)
  | items (found : List (Except Error Match))
  | taken (c : Option Char)
  | popped (condition : String)
  | echoed (text : List Char)

/-- A call that only goes on with the input. -/
def Call.Scans : Call → Prop
  | nextMatch | lex | tokens _ => True
  | _ => False

namespace Scanner

/-- What a call gives, if no token takes more than `n` steps. -/
def answer? (sc : Scanner) (n : Nat) : Call → Session → Option (Answer × Session)
  | .setInput input context, s => some (.done, sc.start (context.getD s.context) input)
  | .nextMatch, s => some (.step (sc.nextMatch s).1, (sc.nextMatch s).2)
  | .lex, s => (sc.lexWithin n s).map fun r => (.token r.1, r.2)
  | .tokens count, s =>
    (TokenStream.take sc n count ⟨s, false⟩).map fun r => (.items r.1, r.2.session)
  | .input, s => some (.taken s.state.input.1, s.mapState (·.input.2))
  | .unput text, s => some (.done, s.mapState (·.unput text))
  | .less k, s => some (.done, s.mapState (·.less k))
  | .more, s => some (.done, s.mapState (·.keep))
  | .reject, s => some (.step s.reject.1, s.reject.2)
  | .begin condition, s => some (.done, s.mapState (·.begin condition))
  | .pop, s => some (.popped s.state.pop.1, s.mapState (·.pop.2))
  | .takeEchoed, s =>
    some (.echoed s.context.takeEchoed.1, { s with context := s.context.takeEchoed.2 })

/-- What calls give, one after the other. -/
def run (sc : Scanner) (n : Nat) : List Call → Session → Option (List Answer × Session)
  | [], s => some ([], s)
  | c :: cs, s =>
    match sc.answer? n c s with
    | none => none
    | some (a, t) => (sc.run n cs t).map fun r => (a :: r.1, r.2)

/-- A call that `P` allows leads from `s` to `t`. -/
def Calls (sc : Scanner) (P : Call → Session → Prop) (s t : Session) : Prop :=
  ∃ n c a, P c s ∧ sc.answer? n c s = some (a, t)

/-- Calls that `P` allows lead from `s` to `t`. -/
def Reaches (sc : Scanner) (P : Call → Session → Prop) : Session → Session → Prop :=
  Relation.ReflTransGen (sc.Calls P)

theorem Reaches.invariant {sc : Scanner} {P : Call → Session → Prop} {I : Session → Prop}
    (hcall : ∀ n c s a t, P c s → I s → sc.answer? n c s = some (a, t) → I t) {s t : Session}
    (h : sc.Reaches P s t) (hs : I s) : I t := by
  induction h with
  | refl => exact hs
  | tail _ hstep ih =>
    obtain ⟨n, c, a, hP, ha⟩ := hstep
    exact hcall n c _ a _ hP ih ha

theorem Reaches.mono {sc : Scanner} {P Q : Call → Session → Prop} (hPQ : ∀ c s, P c s → Q c s)
    {s t : Session} (h : sc.Reaches P s t) : sc.Reaches Q s t :=
  Relation.ReflTransGen.mono (fun _ _ ⟨n, c, a, hP, ha⟩ => ⟨n, c, a, hPQ c _ hP, ha⟩) _ _ h

/-- What a list of allowed calls gives has been reached. -/
theorem reaches_of_run {sc : Scanner} {P : Call → Session → Prop} {n : Nat} :
    ∀ {cs : List Call} {s t : Session} {answers : List Answer},
      (∀ c ∈ cs, ∀ u, P c u) → sc.run n cs s = some (answers, t) → sc.Reaches P s t
  | [], s, t, answers, _, h => by
    simp only [run, Option.some.injEq, Prod.mk.injEq] at h
    rw [← h.2]
    exact .refl
  | c :: cs, s, t, answers, hP, h => by
    rw [run] at h
    rcases ha : sc.answer? n c s with _ | ⟨a, u⟩
    · simp [ha] at h
    · simp only [ha, Option.map_eq_some_iff, Prod.mk.injEq] at h
      obtain ⟨⟨bs, v⟩, hr, -, rfl⟩ := h
      have hrest := reaches_of_run (fun d hd => hP d (List.mem_cons_of_mem _ hd)) hr
      exact .head ⟨n, c, a, hP c List.mem_cons_self s, ha⟩ hrest

/-- Where calls lead if each of them is allowed. -/
def runAllowed? (sc : Scanner) (P : Call → Session → Prop) [∀ c s, Decidable (P c s)] (n : Nat) :
    List Call → Session → Option Session
  | [], s => some s
  | c :: cs, s => if P c s then (sc.answer? n c s).bind fun r => runAllowed? sc P n cs r.2 else none

theorem reaches_of_runAllowed? {sc : Scanner} {P : Call → Session → Prop}
    [∀ c s, Decidable (P c s)] {n : Nat} : ∀ {cs : List Call} {s t : Session},
      sc.runAllowed? P n cs s = some t → sc.Reaches P s t
  | [], s, t, h => by
    rw [Option.some.inj h]
    exact .refl
  | c :: cs, s, t, h => by
    rw [runAllowed?] at h
    split at h
    · rename_i hP
      obtain ⟨⟨a, u⟩, ha, hrest⟩ := Option.bind_eq_some_iff.1 h
      exact .head ⟨n, c, a, hP, ha⟩ (reaches_of_runAllowed? hrest)
    · cases h

end Scanner
end LexGen
