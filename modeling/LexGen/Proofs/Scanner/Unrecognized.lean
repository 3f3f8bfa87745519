import LexGen.Proofs.Scanner.Backtracking
import Mathlib.Data.List.DropRight

/-!
# Text that no rule recognizes

A step reports errors to the handler, or without one to its caller (`Scanner.reported`). What
actions report are rejections that are not possible (`Engine.cannotReject_of_trial`), so an error of
unrecognized text is reported by a step that takes no match only. Then every match has been
rejected, and would be under any context (`Engine.nextMatch_cases`). So the state is the one that has
been got ready, and another step from it comes to the same error (`Engine.unrecognized_repeats`).
-/

namespace LexGen

/-! ## Errors and their causes -/

theorem String.cause_of_append_eq {line number colon a b feed u v : String}
    (h : line ++ number ++ colon ++ a ++ feed ++ u = line ++ number ++ colon ++ b ++ feed ++ v) :
    a.toList ++ (feed ++ u).toList = b.toList ++ (feed ++ v).toList := by
  have h := congrArg String.toList h
  simpa only [String.toList_append, List.append_assoc, List.append_cancel_left_eq] using h

/-- Equal errors have been given the same cause, as far as the shorter one goes. -/
theorem ScanState.cause_of_lexicalError_eq {s t : ScanState} {a b : String}
    (h : s.lexicalError a = t.lexicalError b) :
    a.toList ++ ("\n" ++ String.ofList s.position).toList =
      b.toList ++ ("\n" ++ String.ofList t.position).toList := by
  have hline : s.line = t.line := congrArg LexicalError.line h
  have hnumber : Nat.repr (s.line + 1) = Nat.repr (t.line + 1) :=
    congrArg (fun n => Nat.repr (n + 1)) hline
  have hmessage := congrArg LexicalError.message h
  unfold lexicalError at hmessage
  rw [hnumber] at hmessage
  exact String.cause_of_append_eq hmessage

theorem ScanState.cannotReject_ne_unrecognized (s t : ScanState) :
    s.cannotReject ≠ t.unrecognized := by
  intro h
  have hcause := congrArg List.head? (cause_of_lexicalError_eq h)
  have hs : ("You can only invoke reject() in the lexer when the lexer is of the " ++
      "backtracking persuasion (options.backtrack_lexer = true).").toList.head? = some 'Y' := by
    rw [String.toList_append]
    simp
  have ht : "Unrecognized text.".toList.head? = some 'U' := by simp
  rw [List.head?_append, List.head?_append, hs, ht] at hcause
  cases hcause

namespace LexicalError

/-- The error is one of text that no rule matches. -/
def IsUnrecognized (x : LexicalError) : Prop := ∃ s : ScanState, x = s.unrecognized

/-- The error is one of a rejection without backtracking. -/
def IsCannotReject (x : LexicalError) : Prop := ∃ s : ScanState, x = s.cannotReject

theorem IsCannotReject.not_isUnrecognized {x : LexicalError} (h : x.IsCannotReject) :
    ¬x.IsUnrecognized := by
  obtain ⟨s, rfl⟩ := h
  rintro ⟨t, ht⟩
  exact s.cannotReject_ne_unrecognized t ht

end LexicalError

/-! ## Errors that are reported -/

namespace Context

/-- The handler and the errors that it has handled are the same. -/
structure SameHandling (c d : Context) : Prop where
  handler_eq : d.handler = c.handler
  handled_eq : d.handled = c.handled

/-- The errors that have been reported since the context was `c`, the latest first: those that the
handler has been given, or without a handler the one that is the result. -/
def reported (c : Context) (r : Except Error (Option Token) × Session) : List LexicalError :=
  if c.handler.isSome then r.2.context.handled.rdrop c.handled.length
  else
    match r.1 with
    | .error (.lexical x) => [x]
    | _ => []

variable {c d : Context}

theorem reported_eq_nil {r : Except Error (Option Token) × Session}
    (h : c.SameHandling r.2.context) (hr : ∀ x, r.1 ≠ .error (.lexical x)) : c.reported r = [] := by
  unfold reported
  split_ifs
  · simp [List.rdrop, h.handled_eq]
  · split
    · rename_i x hx
      exact absurd hx (hr x)
    · rfl

theorem reported_report (h : c.SameHandling d) (x : LexicalError) (s : ScanState) :
    c.reported ((d.report x).1, ⟨s, (d.report x).2⟩) = [x] := by
  rw [reported, ← h.handler_eq, ← h.handled_eq, report]
  rcases d.handler with _ | handle
  · rfl
  · simp [List.rdrop]

theorem reported_noMatch (h : c.SameHandling d) {p : ScanState} (hp : p.remaining ≠ []) :
    c.reported (Scanner.noMatch ⟨p, d⟩) = [p.unrecognized] := by
  rw [Scanner.noMatch, if_neg (by simpa using hp)]
  exact reported_report h _ p

end Context

/-- The errors that a step reports, the latest first. -/
def Scanner.reported (sc : Scanner) (s : Session) : List LexicalError :=
  s.context.reported (sc.nextMatch s)

/-! ## Actions -/

theorem Session.eq_cannotReject_of_reject {s : Session} {err : Error}
    (hnone : s.context.handler = none) (h : s.reject.1 = .error err) :
    err = .lexical s.state.cannotReject := by
  unfold reject at h
  split_ifs at h
  simp only [Context.report, hnone, Except.error.injEq] at h
  exact h.symm

/-- Without a handler an action fails with the error of its rejection. -/
theorem Action.cannotReject_of_runCommands {err : Error} :
    ∀ {cs : List Command} {s : Session}, s.context.handler = none →
      (runCommands cs s).1 = .error err → ∃ x : LexicalError, err = .lexical x ∧ x.IsCannotReject
  | [], s, _, h => by cases h
  | c :: cs, s, hnone, h => by
    cases c with
    | give t => cases h
    | skip => cases h
    | reject =>
      have hhandler := s.handler_reject
      rw [runCommands] at h
      rcases hr : s.reject with ⟨error | _ | token, t⟩ <;> simp only [hr] at h hhandler
      · have hreject : s.reject.1 = .error err := by rw [hr]; exact h
        exact ⟨_, Session.eq_cannotReject_of_reject hnone hreject, _, rfl⟩
      · exact cannotReject_of_runCommands (hhandler.trans hnone) h
      · cases h
    | echo => exact cannotReject_of_runCommands (s := Command.after .echo s) hnone h
    | _ => exact cannotReject_of_runCommands (s := s.mapState _) hnone h

theorem Action.cannotReject_of_dispatch {actions : List Action} {rule : ℕ} {s : Session}
    {err : Error} (hnone : s.context.handler = none)
    (h : (dispatch actions rule s).1 = .error err) :
    ∃ x : LexicalError, err = .lexical x ∧ x.IsCannotReject := by
  unfold dispatch at h
  rcases ha : actions[rule]? with _ | a
  · simp [ha] at h
  · simp only [ha] at h
    exact cannotReject_of_runCommands (s := ⟨s.state, s.context.trace _⟩) hnone h

/-- The handler is given errors of rejections only. -/
theorem Action.handled_dispatch (actions : List Action) (rule : ℕ) (s : Session) :
    ∃ new : List LexicalError,
      (dispatch actions rule s).2.context.handled = new ++ s.context.handled ∧
      ∀ x ∈ new, x.IsCannotReject := by
  refine kept_dispatch (I := fun t => ∃ new : List LexicalError,
    t.context.handled = new ++ s.context.handled ∧ ∀ x ∈ new, x.IsCannotReject)
    (fun _ _ ht => ht) (fun a _ c _ t ht => ?_) rule ⟨[], rfl, by simp⟩
  cases c with
  | reject =>
    show ∃ new, t.reject.2.context.handled = _ ∧ _
    unfold Session.reject
    split_ifs
    · exact ht
    · obtain ⟨new, hnew, hall⟩ := ht
      rcases hh : t.context.handler with _ | handle
      · simp only [Context.report, hh]
        exact ⟨new, hnew, hall⟩
      · simp only [Context.report, hh]
        exact ⟨t.state.cannotReject :: new, congrArg _ hnew,
          List.forall_mem_cons.2 ⟨⟨_, rfl⟩, hall⟩⟩
  | _ => exact ht

namespace Engine

variable {e : Engine} {p : ScanState} {c d : Context} {m : Candidate}

theorem cannotReject_of_trial (h : c.SameHandling d) {x : LexicalError}
    (hx : x ∈ c.reported (e.scanner.trial p d m)) : x.IsCannotReject := by
  have hcontext (r : Except Error (Option Token)) (t : Session) :
      (t.settled r).context = t.context := by cases r <;> rfl
  unfold Context.reported Scanner.trial at hx
  dsimp only at hx
  split_ifs at hx with hc
  · obtain ⟨new, hnew, hall⟩ := Action.handled_dispatch e.actions m.rule ⟨p.commit m.length, d⟩
    change (e.scanner.dispatch m.rule ⟨p.commit m.length, d⟩).2.context.handled = _ at hnew
    refine hall x ?_
    rw [hcontext, hnew, h.handled_eq] at hx
    simpa [List.rdrop] using hx
  · have hnone : d.handler = none := by
      rw [h.handler_eq]
      simpa using hc
    split at hx
    · rename_i y hy
      obtain ⟨z, hz, hcannot⟩ := Action.cannotReject_of_dispatch hnone hy
      rw [List.mem_singleton.1 hx, Error.lexical.inj hz]
      exact hcannot
    · cases hx

end Engine

/-! ## Matches that are rejected -/

theorem Command.rejected_change (c : Command) {s : ScanState} (hb : s.flags.backtracking = false) :
    (c.change s).rejected = s.rejected := by
  cases c with
  | pop =>
    simp only [change, ScanState.pop]
    split <;> rfl
  | reject => simp only [change, hb, Bool.false_eq_true, if_false]
  | input =>
    simp only [change, ScanState.input]
    split <;> rfl
  | _ => rfl

namespace Engine

variable {e : Engine} {p : ScanState} {c d : Context} {m : Candidate}

/-- Without backtracking in the state no match is rejected. -/
theorem backtracking_of_rejects (h : Scanner.Rejects (e.scanner.trial p c m)) :
    p.flags.backtracking = true := by
  rcases hb : p.flags.backtracking with _ | _
  · -- a rejection leaves the state as it is, and taking the match has cleared the flag
    have hkept := @Action.state_dispatch
      (fun s => s.flags.backtracking = false ∧ s.rejected = false) e.actions
      (fun a _ c _ s hs => ⟨by rw [c.flags_change, hs.1], by rw [c.rejected_change hs.1, hs.2]⟩)
      m.rule ⟨p.commit m.length, c⟩ ⟨hb, rfl⟩
    have hrejected := h.2
    unfold Scanner.trial at hrejected
    rw [Scanner.rejected_settled] at hrejected
    exact absurd (hkept.2.symm.trans hrejected) Bool.false_ne_true
  · rfl

theorem rejects_congr (h : Scanner.Rejects (e.scanner.trial p c m)) (d : Context) :
    Scanner.Rejects (e.scanner.trial p d m) := by
  obtain ⟨hresult, hstate⟩ := trial_congr (e := e) (backtracking_of_rejects h) c d m
  exact ⟨hresult.trans h.1, by rw [hstate]; exact h.2⟩

theorem rejects_of_allRejected {ms : List Candidate} (h : e.scanner.AllRejected p c ms d) :
    ∀ m ∈ ms, ∀ c, Scanner.Rejects (e.scanner.trial p c m) := by
  induction h with
  | nil c => simp
  | cons hrej _ ih => exact List.forall_mem_cons.2 ⟨rejects_congr hrej, ih⟩

theorem sameHandling_of_allRejected {ms : List Candidate}
    (h : e.scanner.AllRejected p c ms d) : c.SameHandling d := by
  cases h with
  | nil => exact ⟨rfl, rfl⟩
  | cons hrej hrest =>
    have hkept := context_of_allRejected (backtracking_of_rejects hrej) (.cons hrej hrest)
    exact ⟨hkept.1, hkept.2.1⟩

/-- Whatever the context, no match ends a step from the state. -/
def Unmatched (e : Engine) (s : ScanState) : Prop :=
  ∀ c : Context, ∃ d, c.SameHandling d ∧
    e.scanner.nextMatch ⟨s, c⟩ = Scanner.noMatch ⟨s.checkEnd.prepare, d⟩

/-- A match ends the step, or none does under any context. -/
theorem nextMatch_cases (e : Engine) {s : ScanState} {rules : List ℕ} (hd : s.done = false)
    (hr : e.activeRules s.checkEnd.prepare.active = .ok rules) (c : Context) :
    (∃ m d, c.SameHandling d ∧
      e.scanner.nextMatch ⟨s, c⟩ = e.scanner.trial s.checkEnd.prepare d m) ∨ e.Unmatched s := by
  by_cases hb : e.flags.backtracking = true
  · have hstep (c : Context) := @Scanner.nextMatch_of_backtracking e.scanner hb ⟨s, c⟩ hd rules hr
    obtain ⟨earlier, m, later, d, -, hall, -, h⟩ | ⟨d, hall, -⟩ := hstep c
    · exact .inl ⟨m, d, sameHandling_of_allRejected hall, h⟩
    · refine .inr fun c' => ?_
      obtain ⟨earlier, m, later, d', hfound, -, hm, -⟩ | ⟨d', hall', h⟩ := hstep c'
      · -- the match would be rejected under this context as well
        refine absurd (rejects_of_allRejected hall m ?_ d') hm
        show m ∈ e.candidates s.checkEnd.prepare.remaining rules
        change e.candidates s.checkEnd.prepare.remaining rules = _ at hfound
        rw [hfound]
        exact List.mem_append_right _ List.mem_cons_self
      · exact ⟨d', sameHandling_of_allRejected hall', h⟩
  · have hstep (c : Context) := @Scanner.nextMatch_of_not_backtracking e.scanner
      (Bool.eq_false_iff.2 hb) ⟨s, c⟩ hd rules hr
    dsimp only [Session.prepared, Session.mapState] at hstep
    rcases hm : e.scanner.engine.select? s.checkEnd.prepare.remaining rules with _ | m
    · exact .inr fun c' => ⟨c', ⟨rfl, rfl⟩, by rw [hstep, hm]⟩
    · exact .inl ⟨m, c.trace (m.note s.checkEnd.prepare), ⟨rfl, rfl⟩, by rw [hstep, hm]⟩

end Engine

/-! ## Getting ready again -/

namespace ScanState

/-- The states differ at most in where the match begins and in its length. These are as for a new
match, or where the match adds to the one before, as they were. -/
structure Readied (s t : ScanState) : Prop extends SamePlace s t where
  matchStart_eq : t.matchStart = if s.more then s.matchStart else s.cursor
  length_eq : t.length = if s.more then s.length else 0
  offset_eq : t.offset = s.offset
  conditions_eq : t.conditions = s.conditions
  more_eq : t.more = s.more
  rejected_eq : t.rejected = s.rejected
  done_eq : t.done = s.done
  flags_eq : t.flags = s.flags

theorem readied_prepare (s : ScanState) : Readied s s.prepare := by
  rcases hmore : s.more with _ | _
  · rw [prepare_of_not_more hmore]
    refine ⟨⟨List.append_nil _, rfl, rfl, rfl⟩, ?_, ?_, rfl, rfl, rfl, rfl, rfl, rfl⟩
    · rw [if_neg (by simp [hmore])]
      rfl
    · rw [if_neg (by simp [hmore])]
  · rw [prepare, if_pos hmore]
    exact ⟨.refl s, (if_pos hmore).symm, (if_pos hmore).symm, rfl, rfl, rfl, rfl, rfl, rfl⟩

theorem checkEnd_of_remaining {s : ScanState} (h : s.remaining ≠ []) : s.checkEnd = s := by
  rw [checkEnd, if_neg (by simpa using h)]

theorem prepare_prepare (s : ScanState) : s.prepare.prepare = s.prepare := by
  rcases hmore : s.more with _ | _
  · have hready := s.readied_prepare
    rw [prepare_of_not_more (hready.more_eq.trans hmore), hready.matched_eq,
      prepare_of_not_more hmore]
  · have hsame : s.prepare = s := if_pos hmore
    rw [hsame, hsame]

end ScanState

namespace Engine

variable {e : Engine}

theorem unknown_of_activeRules {condition : String} {error : Error}
    (h : e.activeRules condition = .error error) : ∃ name, error = .unknownCondition name := by
  unfold activeRules at h
  split at h
  · cases h
  · exact ⟨condition, (Except.error.inj h).symm⟩

theorem nextMatch_of_inactive {s : ScanState} {error : Error} (hd : s.done = false)
    (hr : e.activeRules s.checkEnd.prepare.active = .error error) (c : Context) :
    e.scanner.nextMatch ⟨s, c⟩ = (.error error, ⟨s.checkEnd.prepare, c⟩) := by
  have hactive : e.scanner.engine.activeRules
    (Session.prepared ⟨s, c⟩).state.active = .error error := hr
  rw [Scanner.nextMatch_eq hd, hactive]
  rfl

/-- A step does not depend on whether the state has been got ready. -/
theorem nextMatch_prepare {s : ScanState} (hd : s.done = false) (hremaining : s.remaining ≠ [])
    (c : Context) : e.scanner.nextMatch ⟨s.prepare, c⟩ = e.scanner.nextMatch ⟨s, c⟩ := by
  have hready := s.readied_prepare
  have hprepared : Session.prepared ⟨s.prepare, c⟩ = Session.prepared ⟨s, c⟩ := by
    rw [Session.prepared, Session.mapState, Session.prepared, Session.mapState]
    dsimp only
    rw [ScanState.checkEnd_of_remaining hremaining,
      ScanState.checkEnd_of_remaining (by rwa [hready.remaining_eq]), ScanState.prepare_prepare]
  rw [Scanner.nextMatch_eq (s := ⟨s.prepare, c⟩) (hready.done_eq.trans hd),
    Scanner.nextMatch_eq (s := ⟨s, c⟩) hd, hprepared]

/-- Where no match ends the step, it reports the text that remains, and only that. -/
theorem nextMatch_of_unmatched {s : ScanState} (hremaining : s.remaining ≠ [])
    (hnone : e.Unmatched s) (c : Context) :
    e.scanner.reported ⟨s, c⟩ = [s.prepare.unrecognized] ∧
      (e.scanner.nextMatch ⟨s, c⟩).2.state = s.prepare := by
  obtain ⟨d, hsame, hnext⟩ := hnone c
  rw [ScanState.checkEnd_of_remaining hremaining] at hnext
  rw [Scanner.reported, hnext]
  exact ⟨Context.reported_noMatch hsame (by rwa [ScanState.remaining_prepare]),
    Scanner.state_noMatch _⟩

/-- Text that is not recognized is reported where no match ends the step, before the end of the
input. -/
theorem unmatched_of_unrecognized {s : ScanState} {c : Context} {x : LexicalError}
    (hx : x ∈ e.scanner.reported ⟨s, c⟩) (hunrecognized : x.IsUnrecognized) :
    s.done = false ∧ s.remaining ≠ [] ∧ e.Unmatched s := by
  -- a step whose result is no error in the text, in the context of before, reports nothing
  have hnothing {r : Except Error (Option Token)} {p : ScanState} {d : Context}
      (hn : e.scanner.nextMatch ⟨s, c⟩ = (r, ⟨p, d⟩)) (hsame : c.SameHandling d)
      (hr : ∀ x, r ≠ .error (.lexical x)) : x ∉ e.scanner.reported ⟨s, c⟩ := by
    rw [Scanner.reported, hn, Context.reported_eq_nil hsame hr]
    exact List.not_mem_nil
  rcases hd : s.done with _ | _
  · rcases hr : e.activeRules s.checkEnd.prepare.active with error | rules
    · refine absurd hx (hnothing (nextMatch_of_inactive hd hr c) ⟨rfl, rfl⟩ ?_)
      obtain ⟨name, rfl⟩ := unknown_of_activeRules hr
      simp
    · obtain ⟨m, d, hsame, hnext⟩ | hnone := e.nextMatch_cases hd hr c
      · rw [Scanner.reported, hnext] at hx
        exact absurd hunrecognized (cannotReject_of_trial hsame hx).not_isUnrecognized
      · refine ⟨rfl, fun hremaining => ?_, hnone⟩
        obtain ⟨d, hsame, hnext⟩ := hnone c
        have hempty : s.checkEnd.prepare.remaining = [] := s.remaining_prepared.trans hremaining
        rw [Scanner.noMatch, if_pos (by rw [hempty]; rfl)] at hnext
        exact absurd hx (hnothing hnext hsame (by simp))
  · exact absurd hx (hnothing (if_pos hd) ⟨rfl, rfl⟩ (by simp))

/-- A step that reports text that is not recognized reports nothing else and leaves the state, but
for where a match would begin and its length. Another step from there reports the same error and
changes nothing, whatever the context. -/
theorem unrecognized_repeats (e : Engine) {s : Session} {x : LexicalError}
    (hx : x ∈ e.scanner.reported s) (hunrecognized : x.IsUnrecognized) :
    let t := (e.scanner.nextMatch s).2
    e.scanner.reported s = [x] ∧ x = s.state.prepare.unrecognized ∧ t.state = s.state.prepare ∧
      s.state.Readied t.state ∧
      ∀ c : Context, e.scanner.reported ⟨t.state, c⟩ = [x] ∧
        (e.scanner.nextMatch ⟨t.state, c⟩).2.state = t.state := by
  obtain ⟨hd, hremaining, hnone⟩ := unmatched_of_unrecognized hx hunrecognized
  have hstep := nextMatch_of_unmatched hremaining hnone
  obtain ⟨hreported, hstate⟩ := hstep s.context
  obtain rfl : x = s.state.prepare.unrecognized := by
    rw [hreported] at hx
    exact List.mem_singleton.1 hx
  intro t
  have ht : t.state = s.state.prepare := hstate
  refine ⟨hreported, rfl, ht, ht ▸ s.state.readied_prepare, fun c => ?_⟩
  -- from the state that has been got ready the step is that from the first one
  rw [ht, Scanner.reported, nextMatch_prepare hd hremaining]
  exact hstep c

/-- A letter that is kept for the next match, and rules for digits that all reject. -/
def rejectedDigits : RuleSet where
  rules := [
    { pattern := .text "[a-z]", action := "this.more()" },
    { pattern := .text "[0-9]+",
      action := "ECHO; this.begin('X'); this.unput('zz'); this.reject()" },
    { pattern := .text "[0-9]", action := "this.input(); this.reject()" }]
  conditions := Table.empty.insert "X" true
  options := { flags := { backtracking := true } }

/-- After the letter both rules match and reject. The letter stays in the match that is pending, and
the handler is given the same error again and again. -/
theorem unrecognized_repeats_digits : ∃ (context : Context) (e : Engine) (s : Session)
    (x : LexicalError),
    context.handler.isSome ∧ rejectedDigits.compile none = .ok e ∧
    e.scanner.Reaches (fun _ _ => True) (e.scanner.start context ['a', '1', '2']) s ∧
    s.state.more = true ∧ s.state.current = ['a'] ∧
    e.candidates s.state.remaining [0, 1, 2] = [⟨1, 2⟩, ⟨2, 1⟩] ∧
    x ∈ e.scanner.reported s ∧ x.IsUnrecognized ∧
    (e.scanner.nextMatch s).2.context.echoed = ['a', '1', '2'] ∧
    (e.scanner.nextMatch s).2.state = s.state.prepare ∧
    s.state.Readied (e.scanner.nextMatch s).2.state ∧
    ∀ c : Context, e.scanner.reported ⟨(e.scanner.nextMatch s).2.state, c⟩ = [x] ∧
      (e.scanner.nextMatch ⟨(e.scanner.nextMatch s).2.state, c⟩).2.state =
        (e.scanner.nextMatch s).2.state := by
  let context : Context := { handler := some fun _ _ => .ok none }
  have h : (rejectedDigits.compile none).toOption.bind (fun e =>
      (e.scanner.run 1 [.nextMatch] (e.scanner.start context ['a', '1', '2'])).map fun r =>
        (r.2.state.more, r.2.state.current, e.candidates r.2.state.remaining [0, 1, 2],
          decide (r.2.state.prepare.unrecognized ∈ e.scanner.reported r.2),
          (e.scanner.nextMatch r.2).2.context.echoed)) =
      some (true, ['a'], [⟨1, 2⟩, ⟨2, 1⟩], true, ['a', '1', '2']) := by
    decide +kernel
  rcases hc : rejectedDigits.compile none with error | e
  · rw [hc] at h
    cases h
  simp only [hc, Except.toOption, Option.bind_some] at h
  obtain ⟨⟨answers, s⟩, hrun, hs⟩ := Option.map_eq_some_iff.1 h
  simp only [Prod.mk.injEq, decide_eq_true_eq] at hs
  obtain ⟨hmore, hcurrent, hfound, hx, hechoed⟩ := hs
  have hunrecognized : s.state.prepare.unrecognized.IsUnrecognized := ⟨_, rfl⟩
  obtain ⟨-, -, hstate, hready, hagain⟩ := e.unrecognized_repeats hx hunrecognized
  exact ⟨context, e, s, _, rfl, rfl,
    Scanner.reaches_of_run (P := fun _ _ => True) (fun _ _ _ => trivial) hrun, hmore, hcurrent,
    hfound, hx, hunrecognized, hechoed, hstate, hready, hagain⟩

end Engine
end LexGen
