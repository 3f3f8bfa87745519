import LexGen.Proofs.Scanner.Step

/-!
# Where errors come from

An action fails only where it rejects without backtracking, and then with what the context makes of
the error in the text (`Action.raises_of_runCommands`). So a step fails since the active condition
is unknown, or with an error that the context raises (`Engine.raises_of_nextMatch`). A search for a
token fails with what its last step fails with, or since that step is stuck
(`Scanner.error_of_lexWithin`), and it gets to each step that it passes over the ones before
(`Scanner.exists_lexWithin`).
-/

namespace LexGen

/-! ## The context -/

/-- An error in the text can come to this one. -/
def Context.Raises (c : Context) (err : Error) : Prop :=
  match c.handler with
  | some handle => ∃ earlier x, handle earlier x = .error err
  | none => ∃ x, err = .lexical x

namespace Context

variable {c d : Context} {err : Error}

theorem raises_of_report {x : LexicalError} (h : (c.report x).1 = .error err) : c.Raises err := by
  unfold Raises
  rcases hc : c.handler with _ | handle
  · simp only [report, hc, Except.error.injEq] at h
    exact ⟨x, h.symm⟩
  · simp only [report, hc] at h
    exact ⟨c.handled, x, h⟩

theorem raises_congr (h : d.handler = c.handler) : d.Raises err ↔ c.Raises err := by
  rw [Raises, Raises, h]

/-- What is no error in the text comes from the handler. -/
theorem Raises.handler (h : c.Raises err) (hne : ∀ x, err ≠ .lexical x) :
    ∃ handle ∈ c.handler, ∃ earlier x, handle earlier x = .error err := by
  unfold Raises at h
  rcases hc : c.handler with _ | handle
  · rw [hc] at h
    obtain ⟨x, hx⟩ := h
    exact absurd hx (hne x)
  · rw [hc] at h
    exact ⟨handle, rfl, h⟩

end Context

/-! ## Actions -/

theorem Session.raises_of_reject {s : Session} {err : Error} (h : s.reject.1 = .error err) :
    s.state.flags.backtracking = false ∧ s.context.Raises err := by
  unfold reject at h
  split_ifs at h with hb
  exact ⟨by simpa using hb, Context.raises_of_report h⟩

theorem Action.raises_of_runCommands {err : Error} :
    ∀ {cs : List Command} {s : Session}, (runCommands cs s).1 = .error err →
      .reject ∈ cs ∧ s.state.flags.backtracking = false ∧ s.context.Raises err
  | [], s, h => by cases h
  | c :: cs, s, h => by
    -- no command changes the flags or the handler, so a later error comes from the same context
    have hnext {t : Session} (hstate : t.state = c.change s.state)
        (hhandler : t.context.handler = s.context.handler)
        (ht : (runCommands cs t).1 = .error err) :
        .reject ∈ c :: cs ∧ s.state.flags.backtracking = false ∧ s.context.Raises err := by
      obtain ⟨hmem, hb, hraises⟩ := raises_of_runCommands ht
      rw [hstate, c.flags_change] at hb
      exact ⟨List.mem_cons_of_mem _ hmem, hb, (Context.raises_congr hhandler).1 hraises⟩
    cases c with
    | give t => cases h
    | skip => cases h
    | reject =>
      have hstate := s.state_reject
      have hhandler := s.handler_reject
      rw [runCommands] at h
      rcases hr : s.reject with ⟨error | _ | token, t⟩ <;> simp only [hr] at h hstate hhandler
      · exact ⟨List.mem_cons_self, Session.raises_of_reject (by rw [hr]; exact h)⟩
      · exact hnext hstate hhandler h
      · cases h
    | echo => exact hnext (Command.state_after .echo s) (Command.handler_after .echo s) h
    | _ => exact hnext (t := s.mapState _) rfl rfl h

theorem Engine.raises_of_dispatch {e : Engine} {rule : Nat} {s : Session} {err : Error}
    (h : (e.scanner.dispatch rule s).1 = .error err) :
    .reject ∈ e.commands ∧ s.state.flags.backtracking = false ∧ s.context.Raises err := by
  dsimp only [scanner, Action.dispatch] at h
  rcases ha : e.actions[rule]? with _ | a
  · simp [ha] at h
  · simp only [ha] at h
    obtain ⟨hmem, hb, hraises⟩ := Action.raises_of_runCommands h
    exact ⟨mem_commands (List.mem_of_getElem? ha) hmem, hb, hraises⟩

/-! ## Steps -/

/-- A step fails since the active condition is unknown, or with an error that the context raises. -/
theorem Engine.raises_of_nextMatch {e : Engine} {s : Session} {err : Error}
    (h : (e.scanner.nextMatch s).1 = .error err) :
    e.activeRules s.prepared.state.active = .error err ∨ s.context.Raises err := by
  rcases hn : e.scanner.nextMatch s with ⟨r, t⟩
  rw [hn] at h
  cases Scanner.ending_of_nextMatch hn with
  | done => cases h
  | unknown _ ha =>
    have herr := Except.error.inj h
    exact .inl (herr ▸ ha)
  | unmatched u _ hu =>
    right
    unfold Scanner.noMatch at h
    split_ifs at h
    exact (Context.raises_congr hu.handler_eq).1 (Context.raises_of_report h)
  | matched u v m _ hu _ hd =>
    right
    have hdispatch : (e.scanner.dispatch m.rule (u.mapState (·.commit m.length))).1 =
        .error err := by
      rw [hd]
      exact h
    exact (Context.raises_congr hu.handler_eq).1 (raises_of_dispatch hdispatch).2.2

namespace Scanner

variable {sc : Scanner} {n : Nat} {s t : Session} {err : Error}

/-- A search for a token fails with what its last step fails with, or since that step is stuck. -/
theorem error_of_lexWithin (h : sc.lexWithin n s = some (.error err, t)) :
    ∃ u, Relation.ReflTransGen sc.PassesOver s u ∧
      (sc.nextMatch u = (.error err, t) ∨ sc.nextMatch u = (.ok none, t) ∧ Stuck u t ∧
        err = .noProgress t.state.line t.state.active) := by
  obtain ⟨u, hu, rfl, hfound⟩ := exists_last_step h
  refine ⟨u, hu, ?_⟩
  rcases hn : sc.nextMatch u with ⟨error | _ | token, v⟩ <;>
    simp only [hn, Found, Except.error.injEq, reduceCtorEq] at hfound
  · exact .inl (by rw [hfound])
  · exact .inr ⟨rfl, hfound⟩

/-- What a search comes to after steps that are passed over, it comes to with them. -/
theorem exists_lexWithin {u : Session} {r : Except Error Token}
    (hu : Relation.ReflTransGen sc.PassesOver s u) (h : sc.lexWithin n u = some (r, t)) :
    ∃ k, sc.lexWithin k s = some (r, t) := by
  induction hu using Relation.ReflTransGen.head_induction_on with
  | refl => exact ⟨n, h⟩
  | @head a b hpass _ ih =>
    obtain ⟨k, hk⟩ := ih
    refine ⟨k + 1, ?_⟩
    rw [lexWithin, hpass.1]
    dsimp only
    rw [if_neg, hk]
    simp only [Bool.and_eq_true, Bool.not_eq_true', beq_iff_eq]
    exact hpass.2

theorem error_of_next {i u : TokenStream} (h : i.next sc n = some (some (.error err), u)) :
    sc.lexWithin n i.session = some (.error err, u.session) := by
  unfold TokenStream.next at h
  split_ifs at h
  · simp at h
  · split at h
    · cases h
    · rename_i hl
      simp only [Option.some.injEq, Prod.mk.injEq, Except.error.injEq] at h
      obtain ⟨rfl, rfl⟩ := h
      exact hl
    · simp at h
    · simp at h

end Scanner

/-! ## Calls -/

/-- The call fails with the error, or the error is one of the items that it gives. -/
def Answer.Fails (err : Error) : Answer → Prop
  | step r => r = .error err
  | token r => r = .error err
  | items found => .error err ∈ found
  | _ => False

/-- A call that goes on with the input fails with what one of its steps fails with, or since that
step is stuck. -/
theorem Scanner.exists_step_of_fails {sc : Scanner} {I : Session → Prop}
    (hstep : ∀ s, I s → I (sc.nextMatch s).2) {n : Nat} {c : Call} {s t : Session} {a : Answer}
    {err : Error} (hc : c.Scans) (h : sc.answer? n c s = some (a, t)) (hfail : a.Fails err)
    (hs : I s) : ∃ u, I u ∧
      ((sc.nextMatch u).1 = .error err ∨ ∃ line name, err = .noProgress line name) := by
  have hlex {k : Nat} {s t : Session} (hl : sc.lexWithin k s = some (.error err, t)) (hs : I s) :
      ∃ u, I u ∧ ((sc.nextMatch u).1 = .error err ∨ ∃ line name, err = .noProgress line name) := by
    obtain ⟨u, hu, hlast | ⟨-, -, hlast⟩⟩ := error_of_lexWithin hl
    · exact ⟨u, kept_of_passesOver hstep hu hs, .inl (by rw [hlast])⟩
    · exact ⟨u, kept_of_passesOver hstep hu hs, .inr ⟨_, _, hlast⟩⟩
  cases c with
  | nextMatch =>
    simp only [answer?, Option.some.injEq, Prod.mk.injEq] at h
    obtain ⟨rfl, -⟩ := h
    exact ⟨s, hs, .inl hfail⟩
  | lex =>
    simp only [answer?, Option.map_eq_some_iff, Prod.mk.injEq] at h
    obtain ⟨⟨r, u⟩, hl, rfl, -⟩ := h
    change r = .error err at hfail
    exact hlex (hfail ▸ hl) hs
  | tokens count =>
    simp only [answer?, Option.map_eq_some_iff, Prod.mk.injEq] at h
    obtain ⟨⟨found, u⟩, ht, rfl, -⟩ := h
    obtain ⟨v, w, hv, hnext⟩ := exists_next_of_mem_take hstep ht hs hfail
    exact hlex (error_of_next hnext) hv
  | _ => exact hc.elim

/-- Another call fails with an error that the context raises. -/
theorem Scanner.raises_of_fails {sc : Scanner} {n : Nat} {c : Call} {s t : Session} {a : Answer}
    {err : Error} (hc : ¬c.Scans) (h : sc.answer? n c s = some (a, t)) (hfail : a.Fails err) :
    s.context.Raises err := by
  cases c with
  | nextMatch => exact absurd trivial hc
  | lex => exact absurd trivial hc
  | tokens => exact absurd trivial hc
  | reject =>
    simp only [answer?, Option.some.injEq, Prod.mk.injEq] at h
    rw [← h.1] at hfail
    exact (Session.raises_of_reject hfail).2
  | _ =>
    simp only [answer?, Option.some.injEq, Prod.mk.injEq] at h
    rw [← h.1] at hfail
    exact hfail.elim

end LexGen
