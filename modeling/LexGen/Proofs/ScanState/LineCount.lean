import LexGen.Proofs.ScanState.Accounted

/-!
# Line numbers and the text taken

A match adds its own line breaks to the line number, and a single character that is taken adds its
own unless it completes a break. So without text put back the line number lies between the number of
breaks and that of the characters that break lines (`ScanState.Follows`), and it is the number of
breaks unless a match begins between a carriage return and the line feed after it
(`ScanState.Counts`, `Engine.line_of_reaches`). Such a match counts the break a second time
(`Engine.line_of_cut_break`).
-/

namespace LexGen

open Text (breaks isBreak Unpaired)

namespace ScanState

/-- From `s` to `t` the line number goes up by the breaks that are taken. -/
def Counts (s t : ScanState) : Prop := t.line + breaks s.matched = s.line + breaks t.matched

/-- From `s` to `t` the line number goes up by the breaks that are taken or by more, up to the
number of characters that break lines. -/
structure Follows (s t : ScanState) : Prop where
  breaks_le : s.line + breaks t.matched ≤ t.line + breaks s.matched
  line_le : t.line + s.matched.countP isBreak ≤ s.line + t.matched.countP isBreak

theorem Counts.trans {s t u : ScanState} (hst : Counts s t) (htu : Counts t u) : Counts s u := by
  unfold Counts at *
  omega

theorem Follows.trans {s t u : ScanState} (hst : Follows s t) (htu : Follows t u) : Follows s u :=
  ⟨by have := hst.breaks_le; have := htu.breaks_le; omega,
    by have := hst.line_le; have := htu.line_le; omega⟩

/-! ## Operations -/

variable {s t : ScanState}

theorem SamePlace.counts (h : SamePlace s t) : Counts s t := by
  rw [Counts, h.matched_eq, h.line_eq]

theorem SamePlace.follows (h : SamePlace s t) : Follows s t :=
  ⟨by rw [h.matched_eq, h.line_eq], by rw [h.matched_eq, h.line_eq]⟩

theorem counts_commit {n : ℕ}
    (h : ¬(s.matched.getLast? = some '\r' ∧ (s.remaining.take n).head? = some '\n')) :
    Counts s (s.commit n) := by
  rw [Counts, line_commit, matched_commit, Text.breaks_append h]
  omega

theorem follows_commit (n : ℕ) (s : ScanState) : Follows s (s.commit n) := by
  have hle := Text.breaks_append_le s.matched (s.remaining.take n)
  have hcount := Text.breaks_le_countP (s.remaining.take n)
  refine ⟨?_, ?_⟩
  · rw [line_commit, matched_commit]
    omega
  · rw [line_commit, matched_commit, List.countP_append]
    omega

/-- A line feed that completes a break is not counted. -/
theorem counts_input (s : ScanState) : Counts s s.input.2 := by
  rcases hr : s.remaining with _ | ⟨c, rest⟩
  · rw [input_of_nil hr]
    exact rfl
  rw [Counts, matched_input hr, line_input hr, Text.breaks_concat]
  simp only [Text.isBreak_iff]
  split_ifs <;> omega

theorem follows_input (s : ScanState) : Follows s s.input.2 := by
  have hcounts := s.counts_input
  unfold Counts at hcounts
  refine ⟨by omega, ?_⟩
  rcases hr : s.remaining with _ | ⟨c, rest⟩
  · rw [input_of_nil hr]
  · rw [matched_input hr, line_input hr, List.countP_append, List.countP_singleton]
    by_cases hb : c = '\n' ∨ c = '\r'
    · simp only [hb, true_and, Text.isBreak_iff.2 hb, if_true]
      split_ifs <;> omega
    · simp only [hb, false_and, if_false, mt Text.isBreak_iff.1 hb, Bool.false_eq_true]
      omega

end ScanState

/-! ## Steps -/

/-- A rule matches the line feed of a break whose carriage return has been taken. -/
def Engine.CutsBreak (e : Engine) (s : ScanState) : Prop :=
  s.matched.getLast? = some '\r' ∧ s.remaining.head? = some '\n' ∧
    ∃ rule n, e.matchLength? rule s.remaining = some (n + 1)

section Engine

variable {e : Engine} (hunput : ∀ text, .unput text ∉ e.commands)
  (hless : ∀ n, .less n ∉ e.commands)

include hunput hless

theorem Engine.follows_nextMatch (s : Session) :
    s.state.Follows (e.scanner.nextMatch s).2.state := by
  refine Scanner.kept_nextMatch (I := s.state.Follows) (fun t ht => ht.trans ?_)
    (fun n t ht => ht.trans (t.follows_commit n)) (fun a ha c hc t ht => ht.trans ?_)
    (fun t ht => ht.trans t.samePlace_checkResumed.follows) (ScanState.SamePlace.refl _).follows
  · exact t.samePlace_prepared.follows
  · rcases e.change_eq_input_or hunput hless ha hc t with h | h
    · exact h ▸ t.follows_input
    · exact h.follows

theorem Engine.counts_nextMatch {s : Session} (hcut : ¬e.CutsBreak s.state) :
    s.state.Counts (e.scanner.nextMatch s).2.state := by
  have hp : s.state.Counts s.prepared.state := s.state.samePlace_prepared.counts
  rcases hn : e.scanner.nextMatch s with ⟨r, t⟩
  cases Scanner.ending_of_nextMatch hn with
  | done => exact (ScanState.SamePlace.refl _).counts
  | unknown => exact hp
  | unmatched u _ hu =>
    rw [Scanner.state_noMatch, hu.state_eq]
    exact hp
  | matched u v m _ hu hm hd =>
    -- of the parts of a step only the match may count a break again
    have hc : s.state.Counts (u.state.commit m.length) := by
      rw [hu.state_eq] at hm ⊢
      refine hp.trans (ScanState.counts_commit fun hseam => hcut ?_)
      have hmatched : s.prepared.state.matched = s.state.matched := s.state.matched_prepared
      have hremaining : s.prepared.state.remaining = s.state.remaining := s.state.remaining_prepared
      rw [hmatched, hremaining] at hseam
      rw [hremaining] at hm
      rcases hlen : m.length with _ | n
      · rw [hlen] at hseam
        cases hseam.2
      · rw [hlen] at hseam hm
        rw [List.head?_take, if_neg (Nat.succ_ne_zero n)] at hseam
        exact ⟨hseam.1, hseam.2, m.rule, n, hm⟩
    have hv : s.state.Counts
        (e.scanner.dispatch m.rule (u.mapState (·.commit m.length))).2.state := by
      refine Action.state_dispatch (fun a ha c hc t ht => ?_) m.rule hc
      rcases e.change_eq_input_or hunput hless ha hc t with h | h
      · exact h ▸ ht.trans t.counts_input
      · exact ht.trans h.counts
    rw [hd] at hv
    cases r with
    | error => exact hv
    | ok => exact hv.trans v.state.samePlace_checkResumed.counts

/-- What scanning and taking single characters lead to, without text put back. The line number is at
least the number of breaks that have been taken and at most that of the characters that break lines,
and so the number of breaks if no break has two characters. It is that number in any case if no step
is made where a rule matches the line feed of a break whose carriage return has been taken. -/
theorem Engine.line_of_reaches (context : Context) (source : List Char) (s : Session) :
    (e.scanner.Reaches (fun c _ => c.Scans ∨ c = .input) (e.scanner.start context source) s →
      breaks s.state.matched ≤ s.state.line ∧ s.state.line ≤ s.state.matched.countP isBreak ∧
        (Unpaired source → s.state.line = breaks s.state.matched)) ∧
    (e.scanner.Reaches (fun c u => c = .nextMatch ∧ ¬e.CutsBreak u.state ∨ c = .input)
        (e.scanner.start context source) s →
      s.state.line = breaks s.state.matched) := by
  refine ⟨fun hs => ?_, fun hs => ?_⟩
  · let I (t : Session) : Prop :=
      (e.scanner.start context source).state.Follows t.state ∧ t.state.whole = source
    have hstep (t : Session) (ht : I t) : I (e.scanner.nextMatch t).2 :=
      ⟨ht.1.trans (e.follows_nextMatch hunput hless t), (e.whole_nextMatch hunput t).trans ht.2⟩
    have hI : I s := by
      refine hs.invariant (fun n c t a u hc ht ha => ?_) ⟨(ScanState.SamePlace.refl _).follows, rfl⟩
      rcases hc with hc | rfl
      · exact Scanner.kept_of_scans hstep hc ha ht
      · simp only [Scanner.answer?, Option.some.injEq, Prod.mk.injEq] at ha
        exact ha.2 ▸ ⟨ht.1.trans t.state.follows_input, t.state.whole_input.trans ht.2⟩
    have hbreaks : 0 + breaks s.state.matched ≤ s.state.line + 0 := hI.1.breaks_le
    have hline : s.state.line + 0 ≤ 0 + s.state.matched.countP isBreak := hI.1.line_le
    refine ⟨by omega, by omega, fun hsource => ?_⟩
    have hmatched : Unpaired s.state.matched :=
      hsource.mono (hI.2 ▸ (List.prefix_append _ s.state.remaining).isInfix)
    have hcount := Text.breaks_eq_countP hmatched
    omega
  · have hcounts : (e.scanner.start context source).state.Counts s.state := by
      refine hs.invariant (I := fun t => (e.scanner.start context source).state.Counts t.state)
        (fun n c t a u hc ht ha => ?_) (ScanState.SamePlace.refl _).counts
      rcases hc with ⟨rfl, hcut⟩ | rfl
      · simp only [Scanner.answer?, Option.some.injEq, Prod.mk.injEq] at ha
        exact ha.2 ▸ ht.trans (e.counts_nextMatch hunput hless hcut)
      · simp only [Scanner.answer?, Option.some.injEq, Prod.mk.injEq] at ha
        exact ha.2 ▸ ht.trans t.state.counts_input
    have hline : s.state.line + 0 = 0 + breaks s.state.matched := hcounts
    omega

end Engine

/-! ## An engine that takes blanks one by one -/

/-- A rule for single blanks, which are passed over, and one for letters. -/
def blankwise : RuleSet where
  rules := [
    { pattern := .text "\\s", action := "" },
    { pattern := .text "[a-z]", action := "return 'ID'" }]

/-- Where both characters of the break are taken one by one it counts once. A single carriage return
counts once, too, where a rule matches it. -/
theorem Engine.line_of_reaches_input : ∃ (e : Engine) (s t : Session),
    blankwise.compile none = .ok e ∧
    (∀ text, .unput text ∉ e.commands) ∧ (∀ n, .less n ∉ e.commands) ∧
    e.scanner.Reaches (fun c u => c = .nextMatch ∧ ¬e.CutsBreak u.state ∨ c = .input)
      (e.scanner.start {} ['\r', '\n', 'x']) s ∧
    s.state.matched = ['\r', '\n', 'x'] ∧ breaks s.state.matched = 1 ∧
    s.state.line = breaks s.state.matched ∧
    e.scanner.Reaches (fun c _ => c.Scans ∨ c = .input) (e.scanner.start {} ['\r', 'x']) t ∧
    t.state.matched = ['\r', 'x'] ∧ Unpaired ['\r', 'x'] ∧
    t.state.line = breaks t.state.matched := by
  generalize hrules : blankwise.compile none = result
  have hpair : (result.toOption.map fun e => (e.commands,
      (e.scanner.run 1 [.input, .input] (e.scanner.start {} ['\r', '\n', 'x'])).map fun r =>
        (r.2.state.matched, (e.scanner.nextMatch r.2).2.state.matched))) =
      some ([.give (.name "ID")], some (['\r', '\n'], ['\r', '\n', 'x'])) := by
    rw [← hrules]
    decide +kernel
  have hsingle : (result.toOption.map fun e =>
      (e.scanner.run 2 [.lex] (e.scanner.start {} ['\r', 'x'])).map (·.2.state.matched)) =
      some (some ['\r', 'x']) := by
    rw [← hrules]
    decide +kernel
  rcases result with error | e
  · cases hpair
  obtain ⟨hcommands, hpair⟩ := Prod.mk.inj (Option.some.inj hpair)
  obtain ⟨⟨answers, u⟩, hu, hpair⟩ := Option.map_eq_some_iff.1 hpair
  obtain ⟨hbefore, hmatched⟩ := Prod.mk.inj hpair
  obtain ⟨⟨found, t⟩, ht, hsingle⟩ := Option.map_eq_some_iff.1 (Option.some.inj hsingle)
  have hunput : ∀ text, .unput text ∉ e.commands := by simp [hcommands]
  have hless : ∀ n, .less n ∉ e.commands := by simp [hcommands]
  have hcut : ¬e.CutsBreak u.state := by
    rintro ⟨hlast, -⟩
    change u.state.matched = _ at hbefore
    rw [hbefore] at hlast
    cases hlast
  have hu := Scanner.reaches_of_run
    (P := fun c u => c = .nextMatch ∧ ¬e.CutsBreak u.state ∨ c = .input)
    (fun c hc _ => .inr (by simpa using hc)) hu
  have hs := hu.tail ⟨1, .nextMatch, _, .inl ⟨rfl, hcut⟩, rfl⟩
  have ht := Scanner.reaches_of_run (P := fun c _ => c.Scans ∨ c = .input)
    (fun c hc _ => by
      rw [List.mem_singleton.1 hc]
      exact .inl trivial) ht
  have hunpaired : Unpaired ['\r', 'x'] := by
    unfold Unpaired
    decide
  refine ⟨e, _, t, rfl, hunput, hless, hs, hmatched, ?_, ?_, ht, hsingle, hunpaired, ?_⟩
  · rw [hmatched]
    decide
  · exact (line_of_reaches hunput hless {} _ _).2 hs
  · exact ((line_of_reaches hunput hless {} _ _).1 ht).2.2 hunpaired

/-- Where a rule takes the carriage return and then the line feed the break counts twice. -/
theorem Engine.line_of_cut_break : ∃ (e : Engine) (s : Session),
    blankwise.compile none = .ok e ∧
    (∀ text, .unput text ∉ e.commands) ∧ (∀ n, .less n ∉ e.commands) ∧
    e.scanner.Reaches (fun c _ => c.Scans ∨ c = .input) (e.scanner.start {} ['\r', '\n', 'x']) s ∧
    s.state.matched = ['\r', '\n', 'x'] ∧ breaks s.state.matched = 1 ∧ s.state.line = 2 := by
  have h : ((blankwise.compile none).toOption.map fun e => (e.commands,
      (e.scanner.run 3 [.lex] (e.scanner.start {} ['\r', '\n', 'x'])).map fun r =>
        (r.2.state.matched, r.2.state.line))) =
      some ([.give (.name "ID")], some (['\r', '\n', 'x'], 2)) := by
    decide +kernel
  rcases hrules : blankwise.compile none with error | e
  · rw [hrules] at h
    cases h
  rw [hrules] at h
  obtain ⟨hcommands, h⟩ := Prod.mk.inj (Option.some.inj h)
  obtain ⟨⟨answers, s⟩, hrun, h⟩ := Option.map_eq_some_iff.1 h
  obtain ⟨hmatched, hline⟩ := Prod.mk.inj h
  have hs := Scanner.reaches_of_run (P := fun c _ => c.Scans ∨ c = .input)
    (fun c hc _ => by
      rw [List.mem_singleton.1 hc]
      exact .inl trivial) hrun
  refine ⟨e, s, rfl, by simp [hcommands], by simp [hcommands], hs, hmatched, ?_, hline⟩
  change s.state.matched = _ at hmatched
  rw [hmatched]
  decide

end LexGen
