import LexGen.Proofs.Scanner.Step
import Mathlib.Tactic.SplitIfs

/-!
# Scanners that step alike

Two scanners may run the same steps under different flags. Where related sessions have the same
state but for its flags, and steps from them give the same and lead to related sessions
(`Scanner.Simulation`), so do searches for a token, token streams, and all calls that go on with the
input (`Simulation.run_rel`).
-/

namespace LexGen

/-- The state under other flags. -/
def ScanState.withFlags (f : ScanFlags) (s : ScanState) : ScanState := { s with flags := f }

namespace Scanner

/-- Related sessions differ in flags and contexts only, and what steps give and lead to is related.
-/
structure Simulation (sc sd : Scanner) (R : Session → Session → Prop) : Prop where
  state_eq : ∀ {s t}, R s t → t.state = s.state.withFlags t.state.flags
  result_eq : ∀ {s t}, R s t → (sc.nextMatch s).1 = (sd.nextMatch t).1
  step : ∀ {s t}, R s t → R (sc.nextMatch s).2 (sd.nextMatch t).2

/-- The same is given, and the sessions are related. -/
def Agree {α : Type} (R : Session → Session → Prop) (x y : α × Session) : Prop :=
  x.1 = y.1 ∧ R x.2 y.2

namespace Simulation

variable {sc sd : Scanner} {R : Session → Session → Prop} (h : Simulation sc sd R)

include h

theorem lexWithin_rel : ∀ (n : Nat) {s t : Session}, R s t →
    Option.Rel (Agree R) (sc.lexWithin n s) (sd.lexWithin n t)
  | 0, _, _, _ => .none
  | n + 1, s, t, hst => by
    have hresult := h.result_eq hst
    have hstep := h.step hst
    have hview := h.state_eq hst
    rw [lexWithin, lexWithin]
    rcases hs : sc.nextMatch s with ⟨r, u⟩
    rcases ht : sd.nextMatch t with ⟨q, v⟩
    rw [hs, ht] at hresult hstep
    obtain rfl : r = q := hresult
    have huv := h.state_eq hstep
    rcases r with error | _ | token
    · exact .some ⟨rfl, hstep⟩
    · have hdone : v.state.done = u.state.done := by rw [huv]; rfl
      have hprogress : (v.state.progress == t.state.progress) =
          (u.state.progress == s.state.progress) := by
        rw [huv, hview]
        rfl
      have herror : Error.noProgress v.state.line v.state.active =
          .noProgress u.state.line u.state.active := by
        rw [huv]
        rfl
      simp only [hdone, hprogress, herror]
      split_ifs
      · exact .some ⟨rfl, hstep⟩
      · exact lexWithin_rel n hstep
    · exact .some ⟨rfl, hstep⟩

theorem next_rel (n : Nat) {i j : TokenStream} (hfinished : i.finished = j.finished)
    (hij : R i.session j.session) :
    Option.Rel (fun x y => x.1 = y.1 ∧ x.2.finished = y.2.finished ∧ R x.2.session y.2.session)
      (i.next sc n) (j.next sd n) := by
  unfold TokenStream.next
  rw [← hfinished]
  split_ifs
  · exact .some ⟨rfl, hfinished, hij⟩
  · have hrel := h.lexWithin_rel n hij
    generalize sc.lexWithin n i.session = x at hrel
    generalize sd.lexWithin n j.session = y at hrel
    cases hrel with
    | none => exact .none
    | @some a b hab =>
      obtain ⟨r, u⟩ := a
      obtain ⟨q, v⟩ := b
      obtain ⟨rfl, huv⟩ : r = q ∧ R u v := hab
      have hmatch (token : Token) : Match.ofState token u.state = .ofState token v.state := by
        rw [h.state_eq huv]
        rfl
      rcases r with error | token | token | token
      · exact .some ⟨rfl, rfl, huv⟩
      · exact .some ⟨rfl, rfl, huv⟩
      · exact .some ⟨congrArg (fun m => some (Except.ok m)) (hmatch _), rfl, huv⟩
      · exact .some ⟨congrArg (fun m => some (Except.ok m)) (hmatch _), rfl, huv⟩

theorem take_rel (n : Nat) : ∀ (count : Nat) {i j : TokenStream}, i.finished = j.finished →
    R i.session j.session →
    Option.Rel (fun x y => x.1 = y.1 ∧ R x.2.session y.2.session)
      (TokenStream.take sc n count i) (TokenStream.take sd n count j)
  | 0, _, _, _, hij => .some ⟨rfl, hij⟩
  | count + 1, i, j, hfinished, hij => by
    have hrel := h.next_rel n hfinished hij
    rw [TokenStream.take, TokenStream.take]
    generalize i.next sc n = x at hrel
    generalize j.next sd n = y at hrel
    cases hrel with
    | none => exact .none
    | @some a b hab =>
      obtain ⟨item, k⟩ := a
      obtain ⟨item', l⟩ := b
      obtain ⟨rfl, hfin, hkl⟩ : item = item' ∧ _ := hab
      rcases item with _ | item
      · exact .some ⟨rfl, hkl⟩
      · have hrest := take_rel n count hfin hkl
        dsimp only
        generalize TokenStream.take sc n count k = x at hrest
        generalize TokenStream.take sd n count l = y at hrest
        cases hrest with
        | none => exact .none
        | some hab => exact .some ⟨congrArg (item :: ·) hab.1, hab.2⟩

theorem answer?_rel (n : Nat) {c : Call} (hc : c.Scans) {s t : Session} (hst : R s t) :
    Option.Rel (Agree R) (sc.answer? n c s) (sd.answer? n c t) := by
  cases c with
  | nextMatch => exact .some ⟨congrArg Answer.step (h.result_eq hst), h.step hst⟩
  | lex =>
    have hrel := h.lexWithin_rel n hst
    rw [answer?, answer?]
    generalize sc.lexWithin n s = x at hrel
    generalize sd.lexWithin n t = y at hrel
    cases hrel with
    | none => exact .none
    | some hab => exact .some ⟨congrArg Answer.token hab.1, hab.2⟩
  | tokens count =>
    have hrel := h.take_rel n count (i := ⟨s, false⟩) (j := ⟨t, false⟩) rfl hst
    rw [answer?, answer?]
    generalize TokenStream.take sc n count _ = x at hrel
    generalize TokenStream.take sd n count _ = y at hrel
    cases hrel with
    | none => exact .none
    | some hab => exact .some ⟨congrArg Answer.items hab.1, hab.2⟩
  | _ => exact hc.elim

/-- Calls that go on with the input give the same answers and lead to related sessions. -/
theorem run_rel (n : Nat) : ∀ {cs : List Call}, (∀ c ∈ cs, c.Scans) → ∀ {s t : Session}, R s t →
    Option.Rel (Agree R) (sc.run n cs s) (sd.run n cs t)
  | [], _, _, _, hst => .some ⟨rfl, hst⟩
  | c :: cs, hcs, s, t, hst => by
    have hrel := h.answer?_rel n (hcs c List.mem_cons_self) hst
    rw [run, run]
    generalize sc.answer? n c s = x at hrel
    generalize sd.answer? n c t = y at hrel
    cases hrel with
    | none => exact .none
    | @some a b hab =>
      obtain ⟨answer, u⟩ := a
      obtain ⟨answer', v⟩ := b
      obtain ⟨rfl, huv⟩ : answer = answer' ∧ R u v := hab
      have hrest := run_rel n (fun d hd => hcs d (List.mem_cons_of_mem _ hd)) huv
      dsimp only
      generalize sc.run n cs u = x at hrest
      generalize sd.run n cs v = y at hrest
      cases hrest with
      | none => exact .none
      | some hab => exact .some ⟨congrArg (answer :: ·) hab.1, hab.2⟩

end Simulation
end Scanner
end LexGen
