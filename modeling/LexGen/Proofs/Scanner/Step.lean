import LexGen.Proofs.Engine.Selection
import LexGen.Proofs.ScanState.Texts
import LexGen.Proofs.Scanner.Calls
import Mathlib.Tactic.SplitIfs

/-!
# What a step does

A command leads from one session to another (`Command.after`) and changes the state on its way
(`Command.change`), so an action keeps what each of its commands keeps (`Action.kept_dispatch`).

A step may try matches that are rejected, which leave nothing in the state (`Retried.state_eq`), and
then comes to one of four ends (`Ending`, `ending_of_nextMatch`), so that it keeps what its parts
keep (`kept_nextMatch`). A search for a token passes over steps that give none and ends with one
that does, that fails, or that is stuck (`exists_last_step`). So what every step keeps is kept by
every call that only goes on with the input (`kept_of_scans`).
-/

namespace LexGen

/-! ## Actions -/

/-- What a command does to the state. -/
def Command.change : Command → ScanState → ScanState
  | .give _, s | .skip, s | .echo, s => s
  | .begin condition, s => s.begin condition
  | .pop, s => s.pop.2
  | .more, s => s.keep
  | .reject, s => if s.flags.backtracking then { s with rejected := true } else s
  | .less n, s => s.less n.toNat
  | .unput text, s => s.unput text.toList
  | .input, s => s.input.2

/-- The text that a command puts back. -/
def Command.putBack? : Command → ScanState → Option (List Char)
  | .unput text, _ => some text.toList
  | .less n, s => some (s.current.drop n.toNat)
  | _, _ => none

/-- The commands of the actions. -/
def Engine.commands (e : Engine) : List Command := e.actions.flatMap Action.commands

theorem Engine.mem_commands {e : Engine} {a : Action} {c : Command} (ha : a ∈ e.actions)
    (hc : c ∈ a.commands) : c ∈ e.commands :=
  List.mem_flatMap.2 ⟨a, ha, hc⟩

/-- The session after a command. -/
def Command.after : Command → Session → Session
  | .reject, s => s.reject.2
  | .echo, s => { s with context := s.context.echo s.state.current }
  | c, s => s.mapState c.change

theorem Context.report_handler (c : Context) (e : LexicalError) :
    (c.report e).2.handler = c.handler := by
  rcases hc : c.handler with _ | handle <;> simp [report, hc]

namespace Session

theorem state_reject (s : Session) : s.reject.2.state = Command.reject.change s.state := by
  simp only [reject, Command.change]
  split_ifs <;> rfl

theorem handler_reject (s : Session) : s.reject.2.context.handler = s.context.handler := by
  unfold reject
  split_ifs
  · rfl
  · exact s.context.report_handler _

end Session

namespace Command

theorem flags_change (c : Command) (s : ScanState) : (c.change s).flags = s.flags := by
  cases c with
  | pop =>
    simp only [change, ScanState.pop]
    split <;> rfl
  | reject =>
    simp only [change]
    split_ifs <;> rfl
  | input =>
    simp only [change, ScanState.input]
    split <;> rfl
  | _ => rfl

/-- A command puts text back, takes one character, or leaves the place. -/
theorem change_cases (c : Command) (s : ScanState) :
    (∃ text, c.putBack? s = some text ∧ c.change s = s.unput text) ∨ c.change s = s.input.2 ∨
      s.SamePlace (c.change s) := by
  cases c with
  | unput text => exact .inl ⟨_, rfl, rfl⟩
  | less n => exact .inl ⟨_, rfl, rfl⟩
  | input => exact .inr (.inl rfl)
  | pop =>
    refine .inr (.inr ?_)
    simp only [change, ScanState.pop]
    split <;> exact ⟨rfl, rfl, rfl, rfl⟩
  | reject =>
    refine .inr (.inr ?_)
    simp only [change]
    split_ifs <;> exact ⟨rfl, rfl, rfl, rfl⟩
  | _ => exact .inr (.inr ⟨rfl, rfl, rfl, rfl⟩)

/-- A command keeps what belongs to a place and is kept where a character is taken or text is put
back. -/
theorem kept_change {J : ScanState → Prop} (hsame : ∀ s t, s.SamePlace t → J s → J t)
    (hinput : ∀ s, J s → J s.input.2) {c : Command} {s : ScanState}
    (hunput : ∀ text ∈ c.putBack? s, J (s.unput text)) (hs : J s) : J (c.change s) := by
  rcases c.change_cases s with ⟨text, htext, h⟩ | h | h
  · exact h ▸ hunput text htext
  · exact h ▸ hinput s hs
  · exact hsame _ _ h hs

theorem putBack?_eq_none {c : Command} (hunput : ∀ text, c ≠ .unput text)
    (hless : ∀ n, c ≠ .less n) (s : ScanState) : c.putBack? s = none := by
  cases c with
  | unput text => exact absurd rfl (hunput text)
  | less n => exact absurd rfl (hless n)
  | _ => rfl

theorem suffix_of_putBack? {c : Command} {s : ScanState} {text : List Char}
    (hunput : ∀ text, c ≠ .unput text) (h : text ∈ c.putBack? s) : text <:+ s.current := by
  cases c with
  | unput text => exact absurd rfl (hunput text)
  | less n =>
    rw [← Option.mem_some.1 h]
    exact List.drop_suffix _ _
  | _ => cases h

theorem change_eq_input_or {c : Command} (hunput : ∀ text, c ≠ .unput text)
    (hless : ∀ n, c ≠ .less n) (s : ScanState) :
    c.change s = s.input.2 ∨ s.SamePlace (c.change s) := by
  rcases c.change_cases s with ⟨text, htext, -⟩ | h
  · rw [putBack?_eq_none hunput hless] at htext
    cases htext
  · exact h

theorem before_change {c : Command} {s : ScanState}
    (hback : ∀ text ∈ c.putBack? s, text.length ≤ s.current.length) :
    (c.change s).before = s.before := by
  cases c with
  | unput text => exact ScanState.before_unput (hback _ rfl)
  | less n => exact s.before_less _
  | input => exact s.before_input
  | pop =>
    simp only [change, ScanState.pop]
    split <;> rfl
  | reject =>
    simp only [change]
    split_ifs <;> rfl
  | _ => rfl

theorem state_after (c : Command) (s : Session) : (c.after s).state = c.change s.state := by
  cases c with
  | reject => exact s.state_reject
  | _ => rfl

theorem handler_after (c : Command) (s : Session) :
    (c.after s).context.handler = s.context.handler := by
  cases c with
  | reject => exact s.handler_reject
  | _ => rfl

end Command

theorem Engine.change_eq_input_or {e : Engine} (hunput : ∀ text, .unput text ∉ e.commands)
    (hless : ∀ n, .less n ∉ e.commands) {a : Action} (ha : a ∈ e.actions) {c : Command}
    (hc : c ∈ a.commands) (s : ScanState) :
    c.change s = s.input.2 ∨ s.SamePlace (c.change s) :=
  have hmem : c ∈ e.commands := mem_commands ha hc
  Command.change_eq_input_or (fun text hct => hunput text (hct ▸ hmem))
    (fun n hcn => hless n (hcn ▸ hmem)) s

namespace Action

/-- An action keeps what each of its commands keeps. -/
theorem kept_runCommands {I : Session → Prop} :
    ∀ {cs : List Command}, (∀ c ∈ cs, ∀ s, I s → I (c.after s)) →
      ∀ {s : Session}, I s → I (runCommands cs s).2
  | [], _, s, hs => hs
  | c :: cs, h, s, hs => by
    have hc := h c List.mem_cons_self s hs
    have ih {t : Session} (ht : I t) : I (runCommands cs t).2 :=
      kept_runCommands (fun d hd => h d (List.mem_cons_of_mem _ hd)) ht
    cases c with
    | give t => exact hs
    | skip => exact hs
    | reject =>
      have hr : I s.reject.2 := hc
      rw [runCommands]
      -- outside backtracking the handler may end the action
      split
      · rename_i t heq
        rw [heq] at hr
        exact ih hr
      · exact hr
    | _ => exact ih hc

/-- Dispatching leaves a note and then runs an action. -/
theorem kept_dispatch {I : Session → Prop} {actions : List Action}
    (hnote : ∀ s text, I s → I { s with context := s.context.trace text })
    (h : ∀ a ∈ actions, ∀ c ∈ a.commands, ∀ s, I s → I (c.after s)) (rule : Nat) {s : Session}
    (hs : I s) : I (dispatch actions rule s).2 := by
  unfold dispatch
  rcases ha : actions[rule]? with _ | a
  · exact hnote s _ hs
  · exact kept_runCommands (h a (List.mem_of_getElem? ha)) (hnote s _ hs)

theorem state_dispatch {I : ScanState → Prop} {actions : List Action}
    (h : ∀ a ∈ actions, ∀ c ∈ a.commands, ∀ s, I s → I (c.change s)) (rule : Nat) {s : Session}
    (hs : I s.state) : I (dispatch actions rule s).2.state := by
  refine kept_dispatch (I := fun s => I s.state) (fun _ _ ht => ht)
    (fun a ha c hc t ht => ?_) rule hs
  show I (c.after t).state
  rw [c.state_after]
  exact h a ha c hc _ ht

theorem handler_dispatch (actions : List Action) (rule : Nat) (s : Session) :
    (dispatch actions rule s).2.context.handler = s.context.handler := by
  refine kept_dispatch (I := fun t => t.context.handler = s.context.handler) (fun _ _ ht => ht)
    (fun a _ c _ t ht => ?_) rule rfl
  show (c.after t).context.handler = s.context.handler
  rw [c.handler_after, ht]

end Action

/-! ## Steps -/

/-- The session in which a step looks for a match. -/
def Session.prepared (s : Session) : Session := s.mapState (·.checkEnd.prepare)

/-- The session after a match, given what its action gives. -/
def Session.settled (s : Session) : Except Error (Option Token) → Session
  | .error _ => s
  | .ok _ => s.mapState (·.checkResumed)

/-- The token that a match gives. -/
def Attempt.given : Attempt → Option Token
  | token t => some t
  | _ => none

/-- What a call does to the state that neither scans nor sets an input. -/
def Call.change : Call → ScanState → ScanState
  | .input, s => s.input.2
  | .unput text, s => s.unput text
  | .less n, s => s.less n
  | .more, s => s.keep
  | .reject, s => Command.reject.change s
  | .begin condition, s => s.begin condition
  | .pop, s => s.pop.2
  | _, s => s

/-- The note on a match that is selected. -/
def Candidate.note (m : Candidate) (s : ScanState) : String :=
  "Rule #" ++ Nat.repr m.rule ++ " matches " ++
    Nat.repr (Text.utf8Length (s.remaining.take m.length)) ++ " bytes"

namespace Scanner

variable {sc : Scanner}

theorem state_answer? {n : Nat} {c : Call} {s t : Session} {a : Answer} (hc : ¬c.Scans)
    (hset : ∀ input context, c ≠ .setInput input context)
    (h : sc.answer? n c s = some (a, t)) : t.state = c.change s.state := by
  cases c with
  | setInput input context => exact absurd rfl (hset input context)
  | nextMatch => exact absurd trivial hc
  | lex => exact absurd trivial hc
  | tokens => exact absurd trivial hc
  | reject =>
    simp only [answer?, Option.some.injEq, Prod.mk.injEq] at h
    rw [← h.2, s.state_reject, Call.change]
  | _ =>
    simp only [answer?, Option.some.injEq, Prod.mk.injEq] at h
    rw [← h.2]
    rfl

/-- Notes and rejected matches lead from one session to another. -/
inductive Retried (sc : Scanner) (s : Session) : Session → Prop
  | refl : Retried sc s s
  | noted {t : Session} (text : String) :
    Retried sc s t → Retried sc s { t with context := t.context.trace text }
  | rejected {t u : Session} {m : Candidate} : Retried sc s t →
    sc.engine.matchLength? m.rule t.state.remaining = some m.length →
    sc.attempt m t = (.ok .rejected, u) → Retried sc s u

/-- What a step comes to. -/
inductive Ending (sc : Scanner) (s : Session) : Except Error (Option Token) → Session → Prop
  | done : s.state.done = true → Ending sc s (.ok (some .eof)) s
  | unknown {e : Error} : s.state.done = false →
    sc.engine.activeRules s.prepared.state.active = .error e → Ending sc s (.error e) s.prepared
  | unmatched (u : Session) : s.state.done = false → Retried sc s.prepared u →
    Ending sc s (noMatch u).1 (noMatch u).2
  | matched (u v : Session) (m : Candidate) {r : Except Error (Option Token)} :
    s.state.done = false → Retried sc s.prepared u →
    sc.engine.matchLength? m.rule u.state.remaining = some m.length →
    sc.dispatch m.rule (u.mapState (·.commit m.length)) = (r, v) → Ending sc s r (v.settled r)

theorem attempt_rejected {m : Candidate} {s t : Session}
    (h : sc.attempt m s = (.ok .rejected, t)) :
    sc.engine.flags.backtracking = true ∧ t.state = s.state := by
  unfold attempt at h
  split at h
  · simp at h
  · simp at h
  · split_ifs at h with hb
    · simp only [Bool.and_eq_true] at hb
      simp only [Prod.mk.injEq] at h
      exact ⟨hb.2, h.2 ▸ rfl⟩
    · simp at h

/-- A match that is not rejected ends with what its action gives. -/
theorem attempt_taken {m : Candidate} {s t : Session} {r : Except Error Attempt}
    (h : sc.attempt m s = (r, t)) (hr : r ≠ .ok .rejected) :
    ∃ v, sc.dispatch m.rule (s.mapState (·.commit m.length)) = (r.map Attempt.given, v) ∧
      t = v.settled (r.map Attempt.given) := by
  unfold attempt at h
  rcases hd : sc.dispatch m.rule (s.mapState (·.commit m.length)) with ⟨e | _ | token, v⟩
  · simp only [hd, Prod.mk.injEq] at h
    obtain ⟨rfl, rfl⟩ := h
    exact ⟨v, rfl, rfl⟩
  · simp only [hd] at h
    split_ifs at h
    · exact absurd (congrArg Prod.fst h).symm hr
    · simp only [Prod.mk.injEq] at h
      obtain ⟨rfl, rfl⟩ := h
      exact ⟨v, rfl, rfl⟩
  · simp only [hd, Prod.mk.injEq] at h
    obtain ⟨rfl, rfl⟩ := h
    exact ⟨v, rfl, rfl⟩

theorem ending_attempt {s t u : Session} {m : Candidate} {r : Except Error Attempt}
    (hd : s.state.done = false) (ht : Retried sc s.prepared t)
    (hm : sc.engine.matchLength? m.rule t.state.remaining = some m.length)
    (ha : sc.attempt m t = (r, u)) (hr : r ≠ .ok .rejected) :
    Ending sc s (r.map Attempt.given) u := by
  obtain ⟨v, hv, rfl⟩ := attempt_taken ha hr
  exact .matched t v m hd ht hm hv

/-- Rules that are tried in turn are all rejected, or one of them ends the step. -/
theorem ending_tryInTurn {s : Session} (hd : s.state.done = false) :
    ∀ {rules : List Nat} {t u : Session} {r : Except Error (Option (Option Token))},
      Retried sc s.prepared t → sc.tryInTurn rules t = (r, u) →
        (r = .ok none ∧ Retried sc s.prepared u) ∨
          ∃ result : Except Error (Option Token), r = result.map some ∧ Ending sc s result u
  | [], t, u, r, ht, h => by
    simp only [tryInTurn, Prod.mk.injEq] at h
    exact .inl ⟨h.1.symm, h.2 ▸ ht⟩
  | rule :: rules, t, u, r, ht, h => by
    rw [tryInTurn] at h
    rcases hm : sc.engine.matchLength? rule t.state.remaining with _ | n
    · simp only [hm] at h
      exact ending_tryInTurn hd ht h
    · simp only [hm] at h
      rcases ha : sc.attempt ⟨rule, n⟩ t with ⟨e | (token | _ | _), v⟩ <;>
        simp only [ha, Prod.mk.injEq] at h
      · exact .inr ⟨.error e, h.1.symm, h.2 ▸ ending_attempt hd ht hm ha (by simp)⟩
      · exact .inr ⟨.ok (some token), h.1.symm, h.2 ▸ ending_attempt hd ht hm ha (by simp)⟩
      · exact .inr ⟨.ok none, h.1.symm, h.2 ▸ ending_attempt hd ht hm ha (by simp)⟩
      -- a rejected match leaves the state, so the next rule is tried in it
      · exact ending_tryInTurn hd (.rejected ht hm ha) h

theorem takeMatch_eq (sc : Scanner) (m : Candidate) (s : Session) :
    sc.takeMatch m s = Prod.map (Except.map Attempt.given) id
      (sc.attempt m { s with context := s.context.trace (m.note s.state) }) := by
  rw [takeMatch, Candidate.note]
  split <;> rename_i ha
  · rw [ha]
    rfl
  · rw [ha]
    rfl
  · rename_i a t hne
    rw [ha]
    cases a with
    | token token => exact absurd rfl (hne token)
    | noToken => rfl
    | rejected => rfl

theorem ending_takeMatch {s : Session} {m : Candidate} (hd : s.state.done = false)
    (hb : sc.engine.flags.backtracking = false)
    (hm : sc.engine.matchLength? m.rule s.prepared.state.remaining = some m.length) :
    Ending sc s (sc.takeMatch m s.prepared).1 (sc.takeMatch m s.prepared).2 := by
  rcases ha : sc.attempt m
    { s.prepared with context := s.prepared.context.trace (m.note s.prepared.state) } with ⟨r, u⟩
  rw [takeMatch_eq, ha]
  refine ending_attempt hd (.noted _ .refl) hm ha ?_
  rintro rfl
  have hrej := (attempt_rejected ha).1
  rw [hb] at hrej
  cases hrej

theorem ending_takeFrom {s : Session} {rules : List Nat} (hd : s.state.done = false) :
    Ending sc s (sc.takeFrom rules s.prepared).1 (sc.takeFrom rules s.prepared).2 := by
  unfold takeFrom
  split_ifs with hb
  · rcases ht : sc.tryInTurn rules s.prepared with ⟨r, u⟩
    obtain ⟨rfl, hu⟩ | ⟨e | result, rfl, hend⟩ := ending_tryInTurn hd .refl ht
    · exact .unmatched u hd hu
    · exact hend
    · exact hend
  · rcases hm : sc.engine.select? s.prepared.state.remaining rules with _ | m
    · exact .unmatched _ hd .refl
    · exact ending_takeMatch hd (by simpa using hb) (Engine.matchLength?_of_select? hm)

theorem nextMatch_eq {s : Session} (hd : s.state.done = false) :
    sc.nextMatch s = match sc.engine.activeRules s.prepared.state.active with
      | .error e => (.error e, s.prepared)
      | .ok rules => sc.takeFrom rules s.prepared := by
  rw [nextMatch, hd]
  rfl

/-- Every step comes to one of the ends. -/
theorem ending_of_nextMatch {s t : Session} {r : Except Error (Option Token)}
    (h : sc.nextMatch s = (r, t)) : Ending sc s r t := by
  rcases hd : s.state.done with _ | _
  · rw [nextMatch_eq hd] at h
    rcases ha : sc.engine.activeRules s.prepared.state.active with e | rules
    · simp only [ha, Prod.mk.injEq] at h
      rw [← h.1, ← h.2]
      exact .unknown hd ha
    · simp only [ha] at h
      have hend : Ending sc s (sc.takeFrom rules s.prepared).1 _ := ending_takeFrom hd
      rwa [h] at hend
  · rw [nextMatch, hd] at h
    simp only [if_true, Prod.mk.injEq] at h
    rw [← h.1, ← h.2]
    exact .done hd

theorem Retried.state_eq {s t : Session} (h : sc.Retried s t) : t.state = s.state := by
  induction h with
  | refl => rfl
  | noted text _ ih => exact ih
  | rejected _ _ ha ih => rw [(attempt_rejected ha).2, ih]

theorem state_noMatch (s : Session) : (noMatch s).2.state = s.state := by
  unfold noMatch
  split_ifs <;> rfl

/-- A step at the end of the input changes nothing. Every other one leaves a state with what getting
ready for a match brings about, if a match and its action keep it. -/
theorem done_or_kept_nextMatch {e : Engine} {I J : ScanState → Prop}
    (hprepare : ∀ s, I s → J s.checkEnd.prepare) (hcommit : ∀ n s, J s → J (s.commit n))
    (hchange : ∀ a ∈ e.actions, ∀ c ∈ a.commands, ∀ s, J s → J (c.change s))
    (hresumed : ∀ s, J s → J s.checkResumed) {s : Session} (hs : I s.state) :
    e.scanner.nextMatch s = (.ok (some .eof), s) ∨ J (e.scanner.nextMatch s).2.state := by
  have hp : J s.prepared.state := hprepare s.state hs
  rcases hn : e.scanner.nextMatch s with ⟨r, t⟩
  cases ending_of_nextMatch hn with
  | done => exact .inl rfl
  | unknown => exact .inr hp
  | unmatched u _ hu =>
    right
    rw [state_noMatch, hu.state_eq]
    exact hp
  | matched u v m _ hu _ hd =>
    right
    have hc : J (u.state.commit m.length) := by
      rw [hu.state_eq]
      exact hcommit _ _ hp
    have hv : J (e.scanner.dispatch m.rule (u.mapState (·.commit m.length))).2.state :=
      Action.state_dispatch hchange _ hc
    rw [hd] at hv
    cases r with
    | error => exact hv
    | ok => exact hresumed _ hv

/-- A step keeps what its parts keep. -/
theorem kept_nextMatch {e : Engine} {I : ScanState → Prop}
    (hprepare : ∀ s, I s → I s.checkEnd.prepare) (hcommit : ∀ n s, I s → I (s.commit n))
    (hchange : ∀ a ∈ e.actions, ∀ c ∈ a.commands, ∀ s, I s → I (c.change s))
    (hresumed : ∀ s, I s → I s.checkResumed) {s : Session} (hs : I s.state) :
    I (e.scanner.nextMatch s).2.state := by
  rcases done_or_kept_nextMatch hprepare hcommit hchange hresumed hs with h | h
  · rw [h]
    exact hs
  · exact h

theorem handler_noMatch (s : Session) : (noMatch s).2.context.handler = s.context.handler := by
  unfold noMatch
  split_ifs
  · rfl
  · exact s.context.report_handler _

/-! ## Searches for a token -/

/-- A step that gives no token, changes nothing and does not come to the end of the input. -/
def Stuck (s t : Session) : Prop := t.state.done = false ∧ t.state.progress = s.state.progress

/-- A step that gives no token and changes something or comes to the end of the input. -/
def PassesOver (sc : Scanner) (s t : Session) : Prop := sc.nextMatch s = (.ok none, t) ∧ ¬Stuck s t

/-- What a search for a token gives, given what its last step gives. -/
def Found (s : Session) (r : Except Error Token) (t : Session)
    (step : Except Error (Option Token)) : Prop :=
  match step with
  | .error e => r = .error e
  | .ok (some token) => r = .ok token
  | .ok none => Stuck s t ∧ r = .error (.noProgress t.state.line t.state.active)

/-- A search for a token passes over steps up to the last one, which decides what it gives. -/
theorem exists_last_step : ∀ {n : Nat} {s t : Session} {r : Except Error Token},
    sc.lexWithin n s = some (r, t) → ∃ u, Relation.ReflTransGen sc.PassesOver s u ∧
      (sc.nextMatch u).2 = t ∧ Found u r t (sc.nextMatch u).1
  | 0, s, t, r, h => by simp [lexWithin] at h
  | n + 1, s, t, r, h => by
    rw [lexWithin] at h
    rcases hn : sc.nextMatch s with ⟨e | _ | token, v⟩
    · simp only [hn, Option.some.injEq, Prod.mk.injEq] at h
      exact ⟨s, .refl, by rw [hn, h.2], by rw [hn]; exact h.1.symm⟩
    · simp only [hn] at h
      split_ifs at h with hs
      · simp only [Bool.and_eq_true, Bool.not_eq_true', beq_iff_eq] at hs
        simp only [Option.some.injEq, Prod.mk.injEq] at h
        obtain ⟨rfl, rfl⟩ := h
        exact ⟨s, .refl, by rw [hn], by rw [hn]; exact ⟨hs, rfl⟩⟩
      · have hpass : sc.PassesOver s v := ⟨hn, fun hst => hs (by simp [hst.1, hst.2])⟩
        obtain ⟨u, hu, hlast⟩ := exists_last_step h
        exact ⟨u, .head hpass hu, hlast⟩
    · simp only [hn, Option.some.injEq, Prod.mk.injEq] at h
      exact ⟨s, .refl, by rw [hn, h.2], by rw [hn]; exact h.1.symm⟩

/-! ## What every step keeps -/

section Kept

variable {I : Session → Prop} (hstep : ∀ s, I s → I (sc.nextMatch s).2)

include hstep

theorem kept_of_passesOver {s t : Session} (h : Relation.ReflTransGen sc.PassesOver s t)
    (hs : I s) : I t := by
  induction h with
  | refl => exact hs
  | tail _ hpass ih =>
    have hkept := hstep _ ih
    rw [hpass.1] at hkept
    exact hkept

theorem kept_lexWithin {n : Nat} {s t : Session} {r : Except Error Token}
    (h : sc.lexWithin n s = some (r, t)) (hs : I s) : I t := by
  obtain ⟨u, hu, hlast, -⟩ := exists_last_step h
  exact hlast ▸ hstep u (kept_of_passesOver hstep hu hs)

theorem kept_next {n : Nat} {t u : TokenStream} {item : Option (Except Error Match)}
    (h : t.next sc n = some (item, u)) (ht : I t.session) : I u.session := by
  unfold TokenStream.next at h
  split_ifs at h
  · simp only [Option.some.injEq, Prod.mk.injEq] at h
    exact h.2 ▸ ht
  · split at h
    · cases h
    all_goals
      rename_i hl
      simp only [Option.some.injEq, Prod.mk.injEq] at h
      exact h.2 ▸ kept_lexWithin hstep hl ht

theorem kept_take {n : Nat} :
    ∀ {count : Nat} {t u : TokenStream} {items : List (Except Error Match)},
      TokenStream.take sc n count t = some (items, u) → I t.session → I u.session
  | 0, t, u, items, h, ht => by
    simp only [TokenStream.take, Option.some.injEq, Prod.mk.injEq] at h
    exact h.2 ▸ ht
  | count + 1, t, u, items, h, ht => by
    rw [TokenStream.take] at h
    rcases hn : t.next sc n with _ | ⟨_ | item, v⟩
    · simp [hn] at h
    · simp only [hn, Option.some.injEq, Prod.mk.injEq] at h
      exact h.2 ▸ kept_next hstep hn ht
    · simp only [hn, Option.map_eq_some_iff, Prod.mk.injEq] at h
      obtain ⟨⟨rest, w⟩, hr, -, rfl⟩ := h
      exact kept_take hr (kept_next hstep hn ht)

/-- Calls that only go on with the input keep what every step keeps. -/
theorem kept_of_scans {n : Nat} {c : Call} {s t : Session} {a : Answer} (hc : c.Scans)
    (h : sc.answer? n c s = some (a, t)) (hs : I s) : I t := by
  cases c with
  | nextMatch =>
    simp only [answer?, Option.some.injEq, Prod.mk.injEq] at h
    exact h.2 ▸ hstep s hs
  | lex =>
    simp only [answer?, Option.map_eq_some_iff, Prod.mk.injEq] at h
    obtain ⟨⟨r, u⟩, hl, -, rfl⟩ := h
    exact kept_lexWithin hstep hl hs
  | tokens count =>
    simp only [answer?, Option.map_eq_some_iff, Prod.mk.injEq] at h
    obtain ⟨⟨items, u⟩, hl, -, rfl⟩ := h
    exact kept_take hstep hl hs
  | _ => exact hc.elim

theorem Reaches.scans_invariant {s t : Session} (h : sc.Reaches (fun c _ => c.Scans) s t)
    (hs : I s) : I t :=
  h.invariant (fun _ _ _ _ _ hc hs ha => kept_of_scans hstep hc ha hs) hs

/-- The items of a stream come from sessions with what every step keeps. -/
theorem exists_next_of_mem_take {n : Nat} {item : Except Error Match} :
    ∀ {count : Nat} {t u : TokenStream} {items : List (Except Error Match)},
      TokenStream.take sc n count t = some (items, u) → I t.session → item ∈ items →
        ∃ v w : TokenStream, I v.session ∧ v.next sc n = some (some item, w)
  | 0, t, u, items, h, _, hitem => by
    simp only [TokenStream.take, Option.some.injEq, Prod.mk.injEq] at h
    rw [← h.1] at hitem
    cases hitem
  | count + 1, t, u, items, h, ht, hitem => by
    rw [TokenStream.take] at h
    rcases hn : t.next sc n with _ | ⟨_ | first, v⟩
    · simp [hn] at h
    · simp only [hn, Option.some.injEq, Prod.mk.injEq] at h
      rw [← h.1] at hitem
      cases hitem
    · simp only [hn, Option.map_eq_some_iff, Prod.mk.injEq] at h
      obtain ⟨⟨rest, w⟩, hr, rfl, rfl⟩ := h
      rcases List.mem_cons.1 hitem with rfl | hitem
      · exact ⟨t, v, ht, hn⟩
      · exact exists_next_of_mem_take hr (kept_next hstep hn ht) hitem

end Kept

/-- What a new state has and what steps and changes from outside keep holds wherever calls lead. -/
theorem Reaches.state_invariant {P : Call → Session → Prop} {I : ScanState → Prop}
    (hstart : ∀ input, I (.start sc.engine.flags input))
    (hstep : ∀ s, I s.state → I (sc.nextMatch s).2.state)
    (hchange : ∀ c s, I s → I (Call.change c s))
    {context : Context} {input : List Char} {s : Session}
    (h : sc.Reaches P (sc.start context input) s) : I s.state := by
  refine h.invariant (I := fun s => I s.state) (fun n c s a t _ hs ha => ?_) (hstart input)
  by_cases hc : c.Scans
  · exact kept_of_scans (I := fun s => I s.state) hstep hc ha hs
  by_cases hset : ∃ input context, c = .setInput input context
  · obtain ⟨input, context, rfl⟩ := hset
    simp only [answer?, Option.some.injEq, Prod.mk.injEq] at ha
    exact ha.2 ▸ hstart input
  · show I t.state
    rw [state_answer? hc (fun input context h => hset ⟨input, context, h⟩) ha]
    exact hchange c _ hs

/-- A match of a stream is the token that has been found and the place of its text. -/
theorem next_match {n : Nat} {t u : TokenStream} {m : Match}
    (h : t.next sc n = some (some (.ok m), u)) : ∃ token, token ≠ .eof ∧
      sc.lexWithin n t.session = some (.ok token, u.session) ∧
        m = .ofState token u.session.state := by
  unfold TokenStream.next at h
  split_ifs at h
  · simp at h
  · split at h
    · cases h
    · simp at h
    · simp at h
    · rename_i token s hne hl
      simp only [Option.some.injEq, Prod.mk.injEq, Except.ok.injEq] at h
      obtain ⟨rfl, rfl⟩ := h
      exact ⟨token, hne, hl, rfl⟩

/-- A match of a stream is given by the last step of a search. -/
theorem exists_step_of_next {I : Session → Prop} (hstep : ∀ s, I s → I (sc.nextMatch s).2)
    {n : Nat} {t u : TokenStream} {m : Match} (h : t.next sc n = some (some (.ok m), u))
    (ht : I t.session) : ∃ s, I s ∧ sc.nextMatch s = (.ok (some m.token), u.session) ∧
      m.token ≠ .eof ∧ m = .ofState m.token u.session.state := by
  obtain ⟨token, hne, hl, rfl⟩ := next_match h
  obtain ⟨s, hpass, hlast, hfound⟩ := exists_last_step hl
  refine ⟨s, kept_of_passesOver hstep hpass ht, ?_, hne, rfl⟩
  rcases hn : sc.nextMatch s with ⟨_ | _ | given, v⟩ <;> rw [hn] at hfound hlast
  · cases hfound
  · cases hfound.2
  · rw [← Except.ok.inj hfound, ← hlast]
    rfl

/-! ## The handler -/

theorem handler_attempt (e : Engine) (m : Candidate) (s : Session) :
    (e.scanner.attempt m s).2.context.handler = s.context.handler := by
  have hd := Action.handler_dispatch e.actions m.rule (s.mapState (·.commit m.length))
  change (e.scanner.dispatch m.rule _).2.context.handler = s.context.handler at hd
  unfold attempt
  rcases hr : e.scanner.dispatch m.rule (s.mapState (·.commit m.length)) with ⟨r | _ | token, t⟩ <;>
    rw [hr] at hd
  · exact hd
  · dsimp only
    split_ifs
    · exact hd
    · exact hd
  · exact hd

theorem Retried.handler_eq {e : Engine} {s t : Session} (h : e.scanner.Retried s t) :
    t.context.handler = s.context.handler := by
  induction h with
  | refl => rfl
  | noted text _ ih => exact ih
  | @rejected t u m _ _ ha ih =>
    have hm := handler_attempt e m t
    rw [ha] at hm
    rw [← ih, ← hm]

/-- The handler stays. -/
theorem handler_nextMatch (e : Engine) (s : Session) :
    (e.scanner.nextMatch s).2.context.handler = s.context.handler := by
  rcases hn : e.scanner.nextMatch s with ⟨r, t⟩
  cases ending_of_nextMatch hn with
  | done => rfl
  | unknown => rfl
  | unmatched u _ hu => exact (handler_noMatch u).trans hu.handler_eq
  | matched u v m _ hu _ hd =>
    have hv := Action.handler_dispatch e.actions m.rule (u.mapState (·.commit m.length))
    change (e.scanner.dispatch m.rule _).2.context.handler = u.context.handler at hv
    rw [hd] at hv
    cases r with
    | error => exact hv.trans hu.handler_eq
    | ok => exact hv.trans hu.handler_eq

end Scanner
end LexGen
