import LexGen.Proofs.Engine.Declared
import LexGen.Proofs.Regex.MatchLength
import LexGen.Proofs.Scanner.EndOfInput
import LexGen.Proofs.Scanner.Progress

/-!
# Searches for a token end

Where nothing is put back, each step that a search passes over takes a character, or it comes to the
end of the input (`Engine.exhaust_lt_of_passesOver`): else it would have to change the conditions
alone, which takes an action that begins or ends one, and a match of the empty text. So a search
ends within as many steps as characters remain, one at the end of the input, and one that gives the
end token (`Engine.lex_ends_of_reaches`).
-/

namespace LexGen

/-! ## Searches and measures -/

/-- A search ends if each step that it passes over makes a measure smaller. -/
theorem Scanner.exists_lexWithin_of_measure {sc : Scanner} {I : Session → Prop} {f : Session → ℕ}
    (hstep : ∀ s, I s → I (sc.nextMatch s).2)
    (hsmaller : ∀ s t, I s → sc.PassesOver s t → f t < f s) :
    ∀ {n : ℕ} {s : Session}, I s → f s < n → ∃ r t, sc.lexWithin n s = some (r, t)
  | 0, s, _, hn => by omega
  | n + 1, s, hs, hn => by
    rw [lexWithin]
    rcases hnext : sc.nextMatch s with ⟨error | _ | token, t⟩
    · exact ⟨_, _, rfl⟩
    · dsimp only
      split_ifs with hstuck
      · exact ⟨_, _, rfl⟩
      · have hpass : sc.PassesOver s t := by
          refine ⟨hnext, fun h => hstuck ?_⟩
          simp only [Bool.and_eq_true, Bool.not_eq_true', beq_iff_eq]
          exact h
        have ht := hstep s hs
        rw [hnext] at ht
        have hlt := hsmaller s t hs hpass
        exact exists_lexWithin_of_measure hstep hsmaller ht (by omega)
    · exact ⟨_, _, rfl⟩

/-- The steps that a search may still pass over: one for each character, and one at the end. -/
def ScanState.exhaust (s : ScanState) : ℕ := if s.done then 0 else s.remaining.length + 1

namespace Engine

theorem not_done_of_none {e : Engine} {s t : Session}
    (h : e.scanner.nextMatch s = (.ok none, t)) : s.state.done = false := by
  by_contra hd
  rw [Scanner.nextMatch, if_pos (by simpa using hd)] at h
  simp at h

theorem conditions_nextMatch {e : Engine} (hbegin : ∀ name, .begin name ∉ e.commands)
    (hpop : .pop ∉ e.commands) (s : Session) :
    (e.scanner.nextMatch s).2.state.conditions = s.state.conditions := by
  refine Scanner.kept_nextMatch (I := fun t => t.conditions = s.state.conditions)
    (fun t ht => t.conditions_prepared.trans ht) (fun n t ht => ht) (fun a ha c hc t ht => ?_)
    (fun t ht => t.conditions_checkResumed.trans ht) rfl
  have hmem : c ∈ e.commands := mem_commands ha hc
  rw [← ht]
  cases c with
  | begin name => exact absurd hmem (hbegin name)
  | pop => exact absurd hmem hpop
  | reject =>
    simp only [Command.change]
    split_ifs <;> rfl
  | input =>
    simp only [Command.change, ScanState.input]
    split <;> rfl
  | _ => rfl

theorem progress_eq_of_length {e : Engine} (hunput : ∀ text, .unput text ∉ e.commands)
    {s : Session} (hs : s.state.Sound e.flags)
    (hlen : (e.scanner.nextMatch s).2.state.remaining.length = s.state.remaining.length)
    (hconditions : (e.scanner.nextMatch s).2.state.conditions = s.state.conditions) :
    (e.scanner.nextMatch s).2.state.progress = s.state.progress := by
  have ht := hs.nextMatch (e := e)
  have hwhole := e.whole_nextMatch hunput s
  have htotal := congrArg List.length hwhole
  simp only [ScanState.whole, List.length_append] at htotal
  have hoffset : (e.scanner.nextMatch s).2.state.offset = s.state.offset := by
    rw [ht.offset_eq, hs.offset_eq]
    omega
  rw [ScanState.progress, ScanState.progress, hoffset, hconditions,
    ScanState.remaining_eq_of_sound hs ht hwhole hoffset]

section Steps

variable {e : Engine} (hunput : ∀ text, .unput text ∉ e.commands)
  (hless : ∀ n, .less n ∉ e.commands)

include hunput hless

theorem length_remaining_change {a : Action} (ha : a ∈ e.actions) {c : Command}
    (hc : c ∈ a.commands) (s : ScanState) :
    (c.change s).remaining.length ≤ s.remaining.length := by
  rcases e.change_eq_input_or hunput hless ha hc s with h | h
  · rw [h]
    rcases hr : s.remaining with _ | ⟨d, rest⟩
    · rw [ScanState.input_of_nil hr, hr]
    · rw [ScanState.remaining_input hr, List.length_cons]
      omega
  · rw [h.remaining_eq]

/-- A step without a token leaves no more than there was, and notes the end where nothing remained.
-/
theorem remaining_done_of_none {s t : Session} (h : e.scanner.nextMatch s = (.ok none, t)) :
    t.state.remaining.length ≤ s.state.remaining.length ∧
      t.state.done = s.state.remaining.isEmpty := by
  have hd := not_done_of_none h
  have hkept := Scanner.done_or_kept_nextMatch (e := e)
    (I := fun u => u.done = false ∧ u.remaining = s.state.remaining)
    (J := fun u => u.remaining.length ≤ s.state.remaining.length ∧
      u.done = s.state.remaining.isEmpty)
    (fun u hu => ?_) (fun n u hu => ?_) (fun a ha c hc u hu => ?_) (fun u hu => ?_) ⟨hd, rfl⟩
  · rw [h] at hkept
    rcases hkept with heof | hkept
    · simp at heof
    · exact hkept
  · rw [u.remaining_prepared, ScanState.done_prepared hu.1, hu.2]
    exact ⟨le_rfl, rfl⟩
  · refine ⟨le_trans ?_ hu.1, hu.2⟩
    show (u.remaining.drop n).length ≤ _
    rw [List.length_drop]
    omega
  · exact ⟨(length_remaining_change hunput hless ha hc u).trans hu.1, (c.done_change u).trans hu.2⟩
  · -- nothing is resumed, since nothing is put back
    have hsame : u.checkResumed = u := by
      unfold ScanState.checkResumed
      rw [if_neg]
      simp only [Bool.and_eq_true, Bool.not_eq_true', hu.2, not_and, Bool.not_eq_false]
      intro hnil
      have hle := hu.1
      rw [List.isEmpty_iff.1 hnil, List.length_nil] at hle
      rw [List.isEmpty_iff, ← List.length_eq_zero_iff]
      omega
    rwa [hsame]

/-- A step that a search passes over takes a character, unless nothing remains. -/
theorem length_lt_of_passesOver
    (hmoves : (∀ name, .begin name ∉ e.commands) ∧ .pop ∉ e.commands ∨
      ∀ rule text, e.matchLength? rule text ≠ some 0)
    {s t : Session} (hs : s.state.Sound e.flags) (hne : s.state.remaining ≠ [])
    (h : e.scanner.PassesOver s t) : t.state.remaining.length < s.state.remaining.length := by
  obtain ⟨hn, hstuck⟩ := h
  obtain ⟨hle, hdone⟩ := remaining_done_of_none hunput hless hn
  rw [List.isEmpty_eq_false_iff.2 hne] at hdone
  -- else the step would change the conditions alone
  by_contra hlt
  have hconditions : t.state.conditions ≠ s.state.conditions := by
    intro hsame
    have hprogress := progress_eq_of_length hunput hs (by rw [hn]; dsimp only; omega)
      (by rw [hn]; exact hsame)
    rw [hn] at hprogress
    exact hstuck ⟨hdone, hprogress⟩
  rcases hmoves with ⟨hbegin, hpop⟩ | hempty
  · refine hconditions ?_
    have hkept := conditions_nextMatch hbegin hpop s
    rwa [hn] at hkept
  · generalize hr : (Except.ok none : Except Error (Option Token)) = r at hn
    cases Scanner.ending_of_nextMatch hn with
    | done => cases hr
    | unknown => cases hr
    | unmatched u _ hu =>
      refine hconditions ?_
      rw [Scanner.state_noMatch, hu.state_eq]
      exact s.state.conditions_prepared
    | matched u v m _ hu hm hd =>
      subst hr
      have hremaining : u.state.remaining = s.state.remaining := by
        rw [hu.state_eq]
        exact s.state.remaining_prepared
      have hcommit : (u.state.commit m.length).remaining.length < s.state.remaining.length := by
        have hpos : m.length ≠ 0 := fun hzero => hempty m.rule _ (hzero ▸ hm)
        have hall := List.length_pos_iff.2 hne
        show (u.state.remaining.drop m.length).length < _
        rw [List.length_drop, hremaining]
        omega
      have hv : v.state.remaining.length < s.state.remaining.length := by
        have hkept : (e.scanner.dispatch m.rule
            (u.mapState (·.commit m.length))).2.state.remaining.length < s.state.remaining.length :=
          Action.state_dispatch (I := fun t => t.remaining.length < s.state.remaining.length)
            (fun _ ha _ hc t ht => (length_remaining_change hunput hless ha hc t).trans_lt ht)
            m.rule hcommit
        rwa [hd] at hkept
      refine hlt ?_
      show v.state.checkResumed.remaining.length < _
      rwa [v.state.samePlace_checkResumed.remaining_eq]

theorem exhaust_lt_of_passesOver
    (hmoves : (∀ name, .begin name ∉ e.commands) ∧ .pop ∉ e.commands ∨
      ∀ rule text, e.matchLength? rule text ≠ some 0)
    {s t : Session} (hs : s.state.Sound e.flags) (h : e.scanner.PassesOver s t) :
    t.state.exhaust < s.state.exhaust := by
  have hopen := not_done_of_none h.1
  obtain ⟨hle, hdone⟩ := remaining_done_of_none hunput hless h.1
  unfold ScanState.exhaust
  rw [hopen, hdone]
  by_cases hne : s.state.remaining = []
  · simp [hne]
  · have hlt := length_lt_of_passesOver hunput hless hmoves hs hne h
    simp only [List.isEmpty_eq_false_iff.2 hne, Bool.false_eq_true, if_false]
    omega

end Steps

/-- Where no action puts text back, and actions change no condition or rules match no empty text, a
search for a token comes to a token or to an error within as many steps as characters remain and two
more, whatever calls have been made before. -/
theorem lex_ends_of_reaches (e : Engine) (hunput : ∀ text, .unput text ∉ e.commands)
    (hless : ∀ n, .less n ∉ e.commands)
    (hmoves : (∀ name, .begin name ∉ e.commands) ∧ .pop ∉ e.commands ∨
      ∀ rule text, e.matchLength? rule text ≠ some 0)
    (context : Context) (input : List Char) {s : Session}
    (hs : e.scanner.Reaches (fun _ _ => True) (e.scanner.start context input) s) :
    ∃ r t, e.scanner.lexWithin (s.state.remaining.length + 2) s = some (r, t) := by
  have hsound : s.state.Sound e.flags := ScanState.Sound.of_reaches hs
  refine Scanner.exists_lexWithin_of_measure (I := fun s => s.state.Sound e.flags)
    (f := fun s => s.state.exhaust) (fun s hs => hs.nextMatch)
    (fun s t hs h => exhaust_lt_of_passesOver hunput hless hmoves hs h) hsound ?_
  unfold ScanState.exhaust
  split_ifs <;> omega

/-- Texts in quotation marks, which have a condition of their own. -/
def quotation : RuleSet where
  rules := [
    { pattern := .text "\"", action := "this.begin('STR')" },
    { scope := .conditions ["STR"], pattern := .text "[a-z]", action := "" },
    { scope := .conditions ["STR"], pattern := .text "\"", action := "this.popState()" }]
  conditions := Table.empty.insert "STR" true

/-- Letters, and a rule for the end of the input, where it matches the empty text. -/
def lettersToEnd : RuleSet where
  rules := [{ pattern := .text "[a-z]", action := "" }, { pattern := .text "$", action := "ECHO" }]

/-- The first engine changes conditions, and its rules match no empty text. The second one has a
rule that does, and there a search takes as many steps as there may be. -/
theorem lex_ends_of_reaches_quotation : ∃ (e f : Engine) (s t : Session)
    (r : Except Error Token),
    quotation.compile none = .ok e ∧ .begin "STR" ∈ e.commands ∧ .pop ∈ e.commands ∧
    (∀ rule text, e.matchLength? rule text ≠ some 0) ∧
    e.scanner.Reaches (fun _ _ => True) (e.scanner.start {} ['"', 'a', '"']) s ∧
    s.state.remaining = ['a', '"'] ∧ e.scanner.lexWithin 4 s = some (r, t) ∧
    lettersToEnd.compile none = .ok f ∧ f.matchLength? 1 [] = some 0 ∧
    f.scanner.lexWithin 3 (f.scanner.start {} ['a', 'b']) = none ∧
    ∃ u v, f.scanner.lexWithin 4 (f.scanner.start {} ['a', 'b']) = some (u, v) := by
  generalize hquotation : quotation.compile none = first
  generalize hletters : lettersToEnd.compile none = second
  have hfirst : (first.toOption.map fun e => (e.commands, e.rules.map (·.matcher.automaton),
      (e.scanner.run 1 [.nextMatch] (e.scanner.start {} ['"', 'a', '"'])).map
        (·.2.state.remaining))) =
      some ([.begin "STR", .pop],
        [⟨#[.look .textStart 1, .char ⟨[(34, 34)]⟩ 2, .accept]⟩,
          ⟨#[.look .textStart 1, .char ⟨[(97, 122)]⟩ 2, .accept]⟩,
          ⟨#[.look .textStart 1, .char ⟨[(34, 34)]⟩ 2, .accept]⟩], some ['a', '"']) := by
    rw [← hquotation]
    decide +kernel
  have hsecond : (second.toOption.map fun f => (f.commands, f.matchLength? 1 [],
      (f.scanner.lexWithin 3 (f.scanner.start {} ['a', 'b'])).isNone)) =
      some ([.echo], some 0, true) := by
    rw [← hletters]
    decide +kernel
  rcases first with error | e
  · cases hfirst
  rcases second with error | f
  · cases hsecond
  obtain ⟨hcommands, hfirst⟩ := Prod.mk.inj (Option.some.inj hfirst)
  obtain ⟨hautomata, hfirst⟩ := Prod.mk.inj hfirst
  obtain ⟨⟨answers, s⟩, hrun, hremaining⟩ := Option.map_eq_some_iff.1 hfirst
  obtain ⟨hechoes, hsecond⟩ := Prod.mk.inj (Option.some.inj hsecond)
  obtain ⟨hzero, hnone⟩ := Prod.mk.inj hsecond
  have hempty : ∀ rule text, e.matchLength? rule text ≠ some 0 := by
    intro rule text h
    obtain ⟨r, hr, hlen⟩ := Option.bind_eq_some_iff.1 h
    have hmem : r.matcher.automaton ∈ e.rules.map (·.matcher.automaton) :=
      List.mem_map_of_mem (List.mem_of_getElem? hr)
    have haccepted := Regex.Automaton.accepted_of_matchLength? hlen
    rw [hautomata] at hmem
    simp only [List.mem_cons, List.not_mem_nil, or_false] at hmem
    rcases hmem with ha | ha | ha <;> rw [ha] at haccepted <;> cases haccepted
  have hs := Scanner.reaches_of_run (P := fun _ _ => True) (fun _ _ _ => trivial) hrun
  obtain ⟨r, t, hl⟩ := e.lex_ends_of_reaches (by simp [hcommands]) (by simp [hcommands])
    (.inr hempty) _ _ hs
  have hshort : s.state.remaining = ['a', '"'] := hremaining
  rw [hshort] at hl
  refine ⟨e, f, s, t, r, rfl, by simp [hcommands], by simp [hcommands], hempty, hs, hshort, hl, rfl,
    hzero, Option.isNone_iff_eq_none.1 hnone, ?_⟩
  exact f.lex_ends_of_reaches (by simp [hechoes]) (by simp [hechoes])
    (.inl ⟨by simp [hechoes], by simp [hechoes]⟩) {} ['a', 'b'] .refl

end Engine
end LexGen
