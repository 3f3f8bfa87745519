import LexGen.Proofs.Scanner.Backtracking

/-!
# The commands of a step

A step ends with at most one match (`Scanner.taken?`) and runs the commands of its action up to the
one that ends it, each in a state of its own (`Engine.executed`). What each of them keeps in its
state holds when the action ends, so it is enough to look at those that are run
(`Engine.kept_nextMatch_of_executed`).
-/

namespace LexGen

/-- The commands that are run, each with the state that it is run in. -/
def Action.executed : List Command → Session → List (Command × ScanState)
  | [], _ => []
  | .give t :: _, s => [(.give t, s.state)]
  | .skip :: _, s => [(.skip, s.state)]
  | .reject :: cs, s => (.reject, s.state) ::
    match s.reject with
    | (.ok none, t) => executed cs t
    | _ => []
  | c :: cs, s => (c, s.state) :: executed cs (c.after s)

theorem Action.kept_of_executed {J : ScanState → Prop} : ∀ {cs : List Command} {s : Session},
    (∀ x ∈ executed cs s, J x.2 → J (x.1.change x.2)) → J s.state → J (runCommands cs s).2.state
  | [], s, _, hs => hs
  | c :: cs, s, h, hs => by
    have hnext {rest : List (Command × ScanState)}
        (hrun : executed (c :: cs) s = (c, s.state) :: rest) :
        J (c.change s.state) ∧ ∀ x ∈ rest, J x.2 → J (x.1.change x.2) := by
      rw [hrun] at h
      exact ⟨h _ List.mem_cons_self hs, fun x hx => h x (List.mem_cons_of_mem _ hx)⟩
    have ih {t : Session} (hrest : ∀ x ∈ executed cs t, J x.2 → J (x.1.change x.2))
        (ht : J t.state) : J (runCommands cs t).2.state := kept_of_executed hrest ht
    cases c with
    | give t => exact hs
    | skip => exact hs
    | reject =>
      obtain ⟨hc, hrest⟩ := hnext rfl
      rw [runCommands]
      rw [← s.state_reject] at hc
      rcases hr : s.reject with ⟨e | _ | token, t⟩ <;> rw [hr] at hc hrest
      · exact hc
      · exact ih hrest hc
      · exact hc
    | _ =>
      obtain ⟨hc, hrest⟩ := hnext rfl
      exact ih hrest hc

theorem Action.mem_of_executed : ∀ {cs : List Command} {s : Session} {x : Command × ScanState},
    x ∈ executed cs s → x.1 ∈ cs
  | [], s, x, h => by cases h
  | c :: cs, s, x, h => by
    have hcons {rest : List (Command × ScanState)} (hx : x ∈ (c, s.state) :: rest)
        (hrest : x ∈ rest → x.1 ∈ cs) : x.1 ∈ c :: cs := by
      rcases List.mem_cons.1 hx with rfl | hx
      · exact List.mem_cons_self
      · exact List.mem_cons_of_mem _ (hrest hx)
    cases c with
    | give t => exact hcons h fun hx => by cases hx
    | skip => exact hcons h fun hx => by cases hx
    | reject =>
      refine hcons h fun hx => ?_
      rcases hr : s.reject with ⟨e | _ | token, t⟩ <;> simp only [hr] at hx
      · cases hx
      · exact mem_of_executed hx
      · cases hx
    | _ => exact hcons h mem_of_executed

/-- The session in which the action of a rule is run. -/
def Session.entered (rule : ℕ) (s : Session) : Session :=
  { s with context := s.context.trace ("Rule #" ++ Nat.repr rule ++ " action in condition '" ++
      s.state.top 0 ++ "' on '" ++ String.ofList s.state.current ++ "'") }

/-- The commands of the action of a rule. -/
def Engine.commandsOf (e : Engine) (rule : ℕ) : List Command :=
  (e.actions[rule]?).elim [] Action.commands

theorem Engine.dispatch_eq (e : Engine) (rule : ℕ) (s : Session) :
    e.scanner.dispatch rule s = Action.runCommands (e.commandsOf rule) (s.entered rule) := by
  change Action.dispatch e.actions rule s = _
  unfold commandsOf Action.dispatch
  rcases e.actions[rule]? <;> rfl

theorem Engine.mem_commands_of_commandsOf {e : Engine} {rule : ℕ} {c : Command}
    (h : c ∈ e.commandsOf rule) : c ∈ e.commands := by
  unfold commandsOf at h
  rcases ha : e.actions[rule]? with _ | a <;> rw [ha] at h
  · cases h
  · exact mem_commands (List.mem_of_getElem? ha) h

namespace Scanner

variable {sc : Scanner} {s : Session}

instance (r : Except Error (Option Token) × Session) : Decidable (Rejects r) :=
  inferInstanceAs (Decidable (_ ∧ _))

/-- The first match that is not rejected, with the context that it finds. -/
def firstTaken? (sc : Scanner) (p : ScanState) :
    List Candidate → Context → Option (Candidate × Context)
  | [], _ => none
  | m :: ms, c =>
    if Rejects (sc.trial p c m) then firstTaken? sc p ms (sc.contextAfter p c m) else some (m, c)

/-- The match that a step ends with, with the context that it finds. -/
def taken? (sc : Scanner) (s : Session) : Option (Candidate × Context) :=
  if s.state.done then none
  else
    match sc.engine.activeRules s.prepared.state.active with
    | .error _ => none
    | .ok rules =>
      let p := s.prepared.state
      if sc.engine.flags.backtracking then
        sc.firstTaken? p (sc.engine.candidates p.remaining rules) s.context
      else (sc.engine.select? p.remaining rules).map fun m => (m, s.context.trace (m.note p))

theorem firstTaken?_of_allRejected {p : ScanState} {m : Candidate} {earlier later : List Candidate}
    {c d : Context} (h : sc.AllRejected p c earlier d) (hm : ¬Rejects (sc.trial p d m)) :
    sc.firstTaken? p (earlier ++ m :: later) c = some (m, d) := by
  induction h with
  | nil c => exact if_neg hm
  | cons hrej _ ih => exact (if_pos hrej).trans (ih hm)

theorem firstTaken?_eq_none {p : ScanState} {ms : List Candidate} {c d : Context}
    (h : sc.AllRejected p c ms d) : sc.firstTaken? p ms c = none := by
  induction h with
  | nil c => rfl
  | cons hrej _ ih => exact (if_pos hrej).trans ih

/-- A step does what the match does that it ends with. Without one it is at the end of the input,
finds no rules, or ends as where no rule matches. -/
theorem nextMatch_of_taken? (sc : Scanner) (s : Session) :
    (∃ m c, sc.taken? s = some (m, c) ∧ sc.nextMatch s = sc.trial s.prepared.state c m) ∨
    sc.taken? s = none ∧ (sc.nextMatch s = (.ok (some .eof), s) ∨
      (∃ e, sc.nextMatch s = (.error e, s.prepared)) ∨
      ∃ c, sc.nextMatch s = noMatch ⟨s.prepared.state, c⟩) := by
  rcases hd : s.state.done with _ | _
  · rcases hr : sc.engine.activeRules s.prepared.state.active with e | rules
    · refine .inr ⟨by simp [taken?, hd, hr], .inr (.inl ⟨e, ?_⟩)⟩
      rw [nextMatch_eq hd, hr]
    · have htaken : sc.taken? s = if sc.engine.flags.backtracking then
            sc.firstTaken? s.prepared.state
              (sc.engine.candidates s.prepared.state.remaining rules) s.context
          else (sc.engine.select? s.prepared.state.remaining rules).map fun m =>
            (m, s.context.trace (m.note s.prepared.state)) := by
        rw [taken?, hd, hr]
        rfl
      by_cases hb : sc.engine.flags.backtracking = true
      · rw [htaken, if_pos hb]
        obtain ⟨earlier, m, later, d, hsplit, hall, hm, hnext⟩ | ⟨d, hall, hnext⟩ :=
          nextMatch_of_backtracking hb hd hr
        · rw [hsplit, firstTaken?_of_allRejected hall hm]
          exact .inl ⟨m, d, rfl, hnext⟩
        · rw [firstTaken?_eq_none hall]
          exact .inr ⟨rfl, .inr (.inr ⟨d, hnext⟩)⟩
      · rw [htaken, if_neg hb]
        have hnext := nextMatch_of_not_backtracking (by simpa using hb) hd hr
        rcases hm : sc.engine.select? s.prepared.state.remaining rules with _ | m
        · rw [hm] at hnext
          exact .inr ⟨rfl, .inr (.inr ⟨s.context, hnext⟩)⟩
        · rw [hm] at hnext
          exact .inl ⟨m, _, rfl, hnext⟩
  · refine .inr ⟨by simp [taken?, hd], .inl ?_⟩
    rw [nextMatch, if_pos hd]

end Scanner

/-- The commands that the action of a step runs, each with the state that it is run in. -/
def Engine.executed (e : Engine) (s : Session) : List (Command × ScanState) :=
  match e.scanner.taken? s with
  | some (m, c) =>
    let t : Session := ⟨s.prepared.state.commit m.length, c⟩
    Action.executed (e.commandsOf m.rule) (t.entered m.rule)
  | none => []

theorem Engine.mem_commands_of_executed {e : Engine} {s : Session} {x : Command × ScanState}
    (h : x ∈ e.executed s) : x.1 ∈ e.commands := by
  unfold executed at h
  split at h
  · exact mem_commands_of_commandsOf (Action.mem_of_executed h)
  · cases h

theorem Engine.exists_of_taken? {e : Engine} {J : ScanState → Prop} {s : Session} {m : Candidate}
    {c : Context} (htaken : e.scanner.taken? s = some (m, c))
    (hcommit : J (s.prepared.state.commit m.length))
    (hchange : ∀ x ∈ e.executed s, J x.2 → J (x.1.change x.2)) : ∃ t, J t ∧
      ((e.scanner.nextMatch s).2.state = t ∨ (e.scanner.nextMatch s).2.state = t.checkResumed) := by
  obtain ⟨k, d, hsome, hnext⟩ | ⟨hnone, -⟩ := e.scanner.nextMatch_of_taken? s
  · rw [htaken] at hsome
    obtain ⟨rfl, rfl⟩ := Prod.mk.inj (Option.some.inj hsome)
    rw [executed, htaken] at hchange
    have hkept := Action.kept_of_executed hchange hcommit
    rw [← e.dispatch_eq] at hkept
    rw [hnext, Scanner.trial]
    rcases hr : e.scanner.dispatch m.rule ⟨s.prepared.state.commit m.length, c⟩ with ⟨_ | _, t⟩ <;>
      rw [hr] at hkept
    · exact ⟨t.state, hkept, .inl rfl⟩
    · exact ⟨t.state, hkept, .inr rfl⟩
  · rw [htaken] at hnone
    cases hnone

/-- The state after a step is got ready for a match, or is what the commands of the action keep. -/
theorem Engine.kept_nextMatch_of_executed {e : Engine} {J K : ScanState → Prop} {s : Session}
    (hsame : K s.state) (hprepared : K s.prepared.state)
    (hcommit : ∀ n, J (s.prepared.state.commit n))
    (hchange : ∀ x ∈ e.executed s, J x.2 → J (x.1.change x.2))
    (hended : ∀ t, J t → K t ∧ K t.checkResumed) : K (e.scanner.nextMatch s).2.state := by
  obtain ⟨m, c, htaken, -⟩ | ⟨-, hnext | ⟨_, hnext⟩ | ⟨c, hnext⟩⟩ := e.scanner.nextMatch_of_taken? s
  · obtain ⟨t, ht, hend | hend⟩ := exists_of_taken? htaken (hcommit m.length) hchange
    · exact hend ▸ (hended t ht).1
    · exact hend ▸ (hended t ht).2
  · rwa [hnext]
  · rwa [hnext]
  · rwa [hnext, Scanner.state_noMatch]

end LexGen
