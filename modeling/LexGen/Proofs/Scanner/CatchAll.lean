import LexGen.Proofs.Scanner.Executed
import LexGen.Proofs.Scanner.Selected
import LexGen.Proofs.Scanner.Unrecognized
import LexGen.Proofs.Text.Search

/-!
# The rule for all other text

Where the longest match is looked for, compiling adds a last rule, which matches any one character
but a line feed, is active under every inclusive condition and echoes its match
(`RuleSet.catchesAll_of_compile`). So before any other character a step takes a match of at least
one character and recognizes the text. The last rule is taken exactly where the other active rules
match no character (`Engine.CatchesAll.rule_eq_iff`), and then it echoes the one character, after
the text that is kept for it, and gives no token (`RuleSet.nextMatch_catchAll`).
-/

namespace LexGen

/-! ## The added rule -/

theorem Fragments.expandPattern_of_not_mem (t : Fragments) {pattern : String}
    (h : '{' ∉ pattern.toList) : t.expandPattern pattern = pattern := by
  have hkept (es : List (String × String)) :
      es.foldl (fun text e => substitute e.1 e.2 text) pattern.toList = pattern.toList := by
    induction es with
    | nil => rfl
    | cons e es ih =>
      have hnot : ¬reference e.1 <:+: pattern.toList := fun hin => h (hin.subset List.mem_cons_self)
      rw [List.foldl_cons, substitute, Text.replaceAll_of_not_infix _ hnot, ih]
  rw [expandPattern, hkept, String.ofList_toList]

/-- All characters but the line feed. -/
def CharSet.dot : CharSet := ⟨[(0, 9), (11, 0xD7FF), (0xE000, maxCodePoint)]⟩

theorem CharSet.contains_dot {c : Char} (h : c ≠ '\n') : dot.contains c = true := by
  have hfeed : c.toNat ≠ 10 := fun hc => h (Char.toNat_inj.1 hc)
  have hvalid : c.toNat < 0xD800 ∨ 0xDFFF < c.toNat ∧ c.toNat < 0x110000 := c.valid
  simp only [contains, holds, dot, maxCodePoint, List.any_cons, List.any_nil, Bool.or_eq_true,
    Bool.and_eq_true, decide_eq_true_eq]
  omega

namespace CompiledRule

/-- The states of the pattern of one character, at the beginning of a text. -/
def dotAutomaton : Regex.Automaton :=
  ⟨#[.look .textStart 1, .char CharSet.dot 2, .accept]⟩

theorem matchLength?_dotAutomaton {c : Char} (h : c ≠ '\n') (cs : List Char) :
    dotAutomaton.matchLength? (c :: cs) = some 1 := by
  let first : Regex.Attempts := { seen := #[true, true, false], waiting := [1] }
  have hstep : dotAutomaton.step c cs.head? first =
      { seen := #[false, false, true], accepted := true } := by
    show (if CharSet.dot.contains c then _ else _) = _
    rw [if_pos (CharSet.contains_dot h)]
    rfl
  show dotAutomaton.follow cs 1 none (dotAutomaton.step c cs.head? first) = some 1
  rw [hstep]
  rcases cs with _ | ⟨d, ds⟩ <;> rfl

theorem automaton_of_compile {caseless : Bool} {fragments : Fragments} {r : CompiledRule}
    (h : compile caseless fragments RuleSet.catchAll.pattern = .ok r) :
    r.matcher.automaton = dotAutomaton := by
  have hdot : (ofText caseless ".").toOption.map (·.matcher.automaton) = some dotAutomaton := by
    cases caseless <;> decide +kernel
  rw [RuleSet.catchAll, compile, fragments.expandPattern_of_not_mem (by decide)] at h
  rw [h] at hdot
  exact Option.some.inj hdot

theorem getElem?_of_compileAll {caseless : Bool} {fragments : Fragments} :
    ∀ {ps : List Pattern} {rs : List CompiledRule} {i : ℕ} {p : Pattern},
      compileAll caseless fragments ps = .ok rs → ps[i]? = some p →
        ∃ r, rs[i]? = some r ∧ compile caseless fragments p = .ok r
  | [], _, _, _, _, hi => by cases hi
  | q :: qs, rs, i, p, h, hi => by
    rw [compileAll] at h
    rcases hq : compile caseless fragments q with error | r
    · simp [hq] at h
    rcases hqs : compileAll caseless fragments qs with error | rs'
    · simp [hq, hqs] at h
    simp only [hq, hqs, Except.ok.injEq] at h
    subst h
    cases i with
    | zero => exact ⟨r, rfl, Option.some.inj hi ▸ hq⟩
    | succ i =>
      have hrest := getElem?_of_compileAll (i := i) hqs hi
      exact hrest

end CompiledRule

namespace Action

theorem getElem?_of_readAll {tokens : Option TokenTable} :
    ∀ {n : ℕ} {texts : List String} {as : List Action} {i : ℕ} {text : String},
      readAll tokens n texts = .ok as → texts[i]? = some text →
        ∃ a, as[i]? = some a ∧ read (n + i) text tokens = .ok a
  | _, [], _, _, _, _, hi => by cases hi
  | n, t :: ts, as, i, text, h, hi => by
    rw [readAll] at h
    rcases ht : read n t tokens with error | a
    · simp [ht] at h
    rcases hts : readAll tokens (n + 1) ts with error | as'
    · simp [ht, hts] at h
    simp only [ht, hts, Except.ok.injEq] at h
    subst h
    cases i with
    | zero => exact ⟨a, rfl, Option.some.inj hi ▸ ht⟩
    | succ i =>
      obtain ⟨b, hb, hread⟩ := getElem?_of_readAll (i := i) hts hi
      exact ⟨b, hb, by rwa [Nat.add_assoc, Nat.add_comm 1] at hread⟩

theorem read_echo (rule : ℕ) (tokens : Option TokenTable) :
    read rule RuleSet.catchAll.action tokens = .ok ⟨[.echo]⟩ := by
  have hstatements : statements (stripWrappers "ECHO".toList) = ["ECHO".toList] := by
    decide +kernel
  have hecho : readStatement tokens "ECHO".toList = .ok .echo := if_pos (.inl rfl)
  rw [RuleSet.catchAll, read, hstatements, readStatements, hecho]
  rfl

end Action

namespace Engine

/-- The last rule matches one character, under every inclusive condition, and echoes it. -/
structure CatchesAll (e : Engine) (last : ℕ) : Prop where
  length_eq : e.rules.length = last + 1
  matchLength?_eq : ∀ c cs, c ≠ '\n' → e.matchLength? last (c :: cs) = some 1
  commandsOf_eq : e.commandsOf last = [.echo]
  active : ∀ name condition, e.conditions.find? name = some condition →
    condition.inclusive = true → last ∈ condition.rules
  le_last : ∀ name condition, e.conditions.find? name = some condition →
    ∀ rule ∈ condition.rules, rule ≤ last
  increasing : ∀ name condition, e.conditions.find? name = some condition →
    condition.rules.Pairwise (· < ·)

end Engine

theorem RuleSet.catchesAll_of_compile {r : RuleSet} {tokens : Option TokenTable} {e : Engine}
    (h : r.compile tokens = .ok e) (hflex : r.options.flags.flex = true) :
    e.CatchesAll r.rules.length := by
  obtain ⟨fragments, -, hbuild, hrules, hactions, -⟩ := exists_of_compile h
  have hall : r.allRules = r.rules ++ [catchAll] := if_pos hflex
  have hlast : r.allRules[r.rules.length]? = some catchAll := by
    rw [hall, List.getElem?_concat_length]
  have hlength : r.allRules.length = r.rules.length + 1 := by
    rw [hall, List.length_append, List.length_singleton]
  have hlists {name : String} {condition : Condition}
      (hc : e.conditions.find? name = some condition) :=
    (ConditionTable.resolved_of_build hbuild).lists name condition hc
  obtain ⟨q, hq, hpattern⟩ := CompiledRule.getElem?_of_compileAll hrules
    (by rw [List.getElem?_map, hlast]; rfl)
  obtain ⟨a, ha, hread⟩ := Action.getElem?_of_readAll hactions
    (by rw [List.getElem?_map, hlast]; rfl)
  refine ⟨?_, fun c cs hne => ?_, ?_, fun name condition hc hinclusive => ?_,
    fun name condition hc rule hrule => ?_, fun name condition hc => (hlists hc).increasing⟩
  · rw [CompiledRule.length_of_compileAll hrules, List.length_map, hlength]
  · rw [Engine.matchLength?, hq, Option.bind_some, Regex.matchLength?,
      CompiledRule.automaton_of_compile hpattern, CompiledRule.matchLength?_dotAutomaton hne]
  · rw [Action.read_echo] at hread
    rw [Engine.commandsOf, ha, ← Except.ok.inj hread]
    rfl
  · refine ((hlists hc).mem_iff _).2 ⟨.implicit, ?_, hinclusive⟩
    rw [List.getElem?_map, hlast]
    rfl
  · have hlt := (hlists hc).lt_length hrule
    rw [List.length_map, hlength] at hlt
    omega

/-! ## The step -/

namespace Engine.CatchesAll

variable {e : Engine} {last : ℕ} {name : String} {condition : Condition} {c : Char}
  {cs : List Char}

/-- Before any character but a line feed a match of at least one character is selected. -/
theorem exists_select? (h : e.CatchesAll last) (hflex : e.flags.flex = true)
    (hcondition : e.conditions.find? name = some condition) (hinclusive : condition.inclusive = true)
    (hc : c ≠ '\n') : ∃ m, e.select? (c :: cs) condition.rules = some m ∧ 0 < m.length := by
  have hlast := h.active name condition hcondition hinclusive
  have hone := h.matchLength?_eq c cs hc
  rcases hm : e.select? (c :: cs) condition.rules with _ | m
  · rw [select?_eq_none hm last hlast] at hone
    cases hone
  refine ⟨m, rfl, ?_⟩
  obtain ⟨before, after, hrules, hlength, -, hlongest⟩ := select?_eq_some hm
  obtain ⟨hbefore, hafter⟩ := hlongest hflex
  rw [hrules] at hlast
  rcases List.mem_append.1 hlast with hin | hin
  · exact Nat.zero_lt_of_lt (hbefore last hin 1 hone)
  rcases List.mem_cons.1 hin with rfl | hin
  · rw [Option.some.inj (hlength.symm.trans hone)]
    exact Nat.one_pos
  · exact hafter last hin 1 hone

/-- The last rule is selected where no other active rule matches a character. -/
theorem rule_eq_iff (h : e.CatchesAll last) (hflex : e.flags.flex = true)
    (hcondition : e.conditions.find? name = some condition) (hc : c ≠ '\n') {m : Candidate}
    (hm : e.select? (c :: cs) condition.rules = some m) (hpos : 0 < m.length) :
    m.rule = last ↔
      ∀ q ∈ condition.rules, q ≠ last → ∀ n ∈ e.matchLength? q (c :: cs), n = 0 := by
  obtain ⟨before, after, hrules, hlength, -, hlongest⟩ := select?_eq_some hm
  obtain ⟨hbefore, -⟩ := hlongest hflex
  constructor
  · rintro rfl q hq hne n hn
    have hone := Option.some.inj (hlength.symm.trans (h.matchLength?_eq c cs hc))
    have hle := h.le_last name condition hcondition q hq
    have hincreasing := h.increasing name condition hcondition
    rw [hrules] at hq hincreasing
    rcases List.mem_append.1 hq with hq | hq
    · have hlt := hbefore q hq n hn
      omega
    rcases List.mem_cons.1 hq with rfl | hq
    · exact absurd rfl hne
    · -- no rule comes after the last one
      have hlt := List.rel_of_pairwise_cons (List.pairwise_append.1 hincreasing).2.1 hq
      omega
  · intro hothers
    by_contra hne
    have hmem : m.rule ∈ condition.rules := by
      rw [hrules]
      exact List.mem_append_right _ List.mem_cons_self
    exact hpos.ne' (hothers m.rule hmem hne m.length hlength)

/-- The last rule echoes the match and does no more. -/
theorem trial_last (h : e.CatchesAll last) {p : ScanState} (hdone : p.done = false) (d : Context)
    (n : ℕ) : (e.scanner.trial p d ⟨last, n⟩).1 = .ok none ∧
      (e.scanner.trial p d ⟨last, n⟩).2.state = p.commit n ∧
      (e.scanner.trial p d ⟨last, n⟩).2.context.echoed = d.echoed ++ (p.commit n).current := by
  have hkept : (p.commit n).checkResumed = p.commit n := by
    rw [ScanState.checkResumed, if_neg]
    show ¬(p.done && _) = true
    simp [hdone]
  unfold Scanner.trial
  rw [e.dispatch_eq, h.commandsOf_eq]
  exact ⟨rfl, hkept, rfl⟩

end Engine.CatchesAll

/-- The part of the current match that the next one adds to. -/
def ScanState.kept (s : ScanState) : List Char := if s.more then s.current else []

theorem ScanState.current_prepared (s : ScanState) : s.checkEnd.prepare.current = s.kept := by
  unfold prepare checkEnd kept
  split_ifs <;> rfl

namespace Engine

/-- A step commits the match `taken` of a rule, runs the action of the rule, and `rest` remains for
it. -/
structure Takes (e : Engine) (s : Session) (rule : ℕ) (taken rest : List Char) : Prop where
  remaining_eq : s.state.remaining = taken ++ rest
  matchLength?_eq : e.matchLength? rule s.state.remaining = some taken.length
  committed : (s.prepared.state.commit taken.length).current = s.state.kept ++ taken
  rest_eq : (s.prepared.state.commit taken.length).remaining = rest
  nextMatch_eq : e.scanner.nextMatch s = e.scanner.trial s.prepared.state
    (s.context.trace (Candidate.note ⟨rule, taken.length⟩ s.prepared.state)) ⟨rule, taken.length⟩

variable {e : Engine} {s : Session}

theorem takes_of_select? (hb : e.flags.backtracking = false) (hd : s.state.done = false)
    {rules : List ℕ} (hr : e.activeRules s.state.active = .ok rules) {m : Candidate}
    (hm : e.select? s.state.remaining rules = some m) :
    e.Takes s m.rule (s.state.remaining.take m.length) (s.state.remaining.drop m.length) := by
  have hremaining : s.prepared.state.remaining = s.state.remaining := s.state.remaining_prepared
  have hcurrent : s.prepared.state.current = s.state.kept := s.state.current_prepared
  have hactive : e.activeRules s.prepared.state.active = .ok rules := by
    rw [← hr, ← s.state.active_prepared]
    rfl
  have hlength := matchLength?_of_select? hm
  have hsize : (s.state.remaining.take m.length).length = m.length := by
    rw [List.length_take, Nat.min_eq_left (matchLength?_le hlength)]
  refine ⟨(List.take_append_drop _ _).symm, by rw [hsize, hlength], ?_, ?_, ?_⟩
  · show s.prepared.state.current ++ s.prepared.state.remaining.take _ = _
    rw [hsize, hremaining, hcurrent]
  · show s.prepared.state.remaining.drop _ = _
    rw [hsize, hremaining]
  · have hstep := @Scanner.nextMatch_of_not_backtracking e.scanner hb s hd rules hactive
    have hselect : e.scanner.engine.select? s.prepared.state.remaining rules = some m := by
      rw [hremaining]
      exact hm
    rw [hselect] at hstep
    rw [hsize, hstep]

/-- Where a match is taken, what is reported is no text that is not recognized. -/
theorem Takes.recognizes {rule : ℕ} {taken rest : List Char} (h : e.Takes s rule taken rest) :
    ∀ x ∈ e.scanner.reported s, ¬x.IsUnrecognized := by
  intro x hx
  have hsame : s.context.SameHandling
    (s.context.trace (Candidate.note ⟨rule, taken.length⟩ s.prepared.state)) := ⟨rfl, rfl⟩
  rw [Scanner.reported, h.nextMatch_eq] at hx
  exact (cannotReject_of_trial hsame hx).not_isUnrecognized

/-- Where the last rule is taken, its match is one character, which is echoed after what is kept. -/
theorem Takes.of_last {last : ℕ} {taken rest : List Char} {c : Char} {cs : List Char}
    (h : e.Takes s last taken rest) (hall : e.CatchesAll last) (hd : s.state.done = false)
    (hremaining : s.state.remaining = c :: cs) (hc : c ≠ '\n') :
    taken = [c] ∧ (e.scanner.nextMatch s).1 = .ok none ∧
      (e.scanner.nextMatch s).2.state = s.prepared.state.commit 1 ∧
      (e.scanner.nextMatch s).2.context.echoed = s.context.echoed ++ (s.state.kept ++ [c]) := by
  have hone : taken.length = 1 := by
    have hlength := h.matchLength?_eq
    rw [hremaining, hall.matchLength?_eq c cs hc] at hlength
    exact (Option.some.inj hlength).symm
  obtain ⟨d, rfl⟩ := List.length_eq_one_iff.1 hone
  obtain rfl : c = d := List.head_eq_of_cons_eq (hremaining.symm.trans h.remaining_eq)
  have hdone : s.prepared.state.done = false := by
    show s.state.checkEnd.prepare.done = false
    rw [ScanState.checkEnd_of_remaining (by simp [hremaining]), s.state.readied_prepare.done_eq, hd]
  obtain ⟨hresult, hstate, hechoed⟩ := hall.trial_last hdone
    (s.context.trace (Candidate.note ⟨last, 1⟩ s.prepared.state)) 1
  rw [h.nextMatch_eq]
  refine ⟨rfl, hresult, hstate, hechoed.trans ?_⟩
  rw [← h.committed]
  rfl

end Engine

namespace RuleSet

/-- A step before any character but a line feed, under an inclusive condition. It takes a match of
at least one character, and no text is reported that is not recognized. The match is that of the
added rule, which is the last one, exactly where no other active rule matches a character. Then it
is one character, which is echoed after the text that is kept for it, and there is no token. -/
theorem nextMatch_catchAll {r : RuleSet} {tokens : Option TokenTable} {e : Engine}
    (h : r.compile tokens = .ok e) (hflex : r.options.flags.flex = true)
    (hb : r.options.flags.backtracking = false) {s : Session} (hd : s.state.done = false)
    {condition : Condition} (hcondition : e.conditions.find? s.state.active = some condition)
    (hinclusive : condition.inclusive = true) {c : Char} {cs : List Char}
    (hremaining : s.state.remaining = c :: cs) (hc : c ≠ '\n') :
    e.rules.length = r.rules.length + 1 ∧ ∃ rule ∈ condition.rules, ∃ taken rest,
      e.Takes s rule taken rest ∧ taken ≠ [] ∧
      (∀ x ∈ e.scanner.reported s, ¬x.IsUnrecognized) ∧
      (rule = r.rules.length ↔ ∀ q ∈ condition.rules, q ≠ r.rules.length →
        ∀ n ∈ e.matchLength? q s.state.remaining, n = 0) ∧
      (rule = r.rules.length → taken = [c] ∧ (e.scanner.nextMatch s).1 = .ok none ∧
        (e.scanner.nextMatch s).2.state = s.prepared.state.commit 1 ∧
        (e.scanner.nextMatch s).2.context.echoed = s.context.echoed ++ (s.state.kept ++ [c])) := by
  have hall := r.catchesAll_of_compile h hflex
  have hflags : e.flags = r.options.flags := by
    obtain ⟨-, -, -, -, -, -, -, -, -, rfl⟩ := exists_parts_of_compile h
    rfl
  rw [← hflags] at hflex hb
  have hactive : e.activeRules s.state.active = .ok condition.rules := by
    rw [Engine.activeRules, hcondition]
  obtain ⟨m, hm, hpos⟩ : ∃ m, e.select? (c :: cs) condition.rules = some m ∧ 0 < m.length :=
    hall.exists_select? hflex hcondition hinclusive hc
  have htakes := Engine.takes_of_select? hb hd hactive (hremaining ▸ hm)
  have hmem : m.rule ∈ condition.rules := by
    obtain ⟨before, after, hrules, -⟩ := Engine.select?_eq_some hm
    rw [hrules]
    exact List.mem_append_right _ List.mem_cons_self
  refine ⟨hall.length_eq, m.rule, hmem, _, _, htakes, ?_, htakes.recognizes, ?_, fun hlast => ?_⟩
  · rw [ne_eq, List.take_eq_nil_iff, not_or, hremaining]
    exact ⟨hpos.ne', List.cons_ne_nil c cs⟩
  · rw [hremaining]
    exact hall.rule_eq_iff hflex hcondition hc hm hpos
  · exact (hlast ▸ htakes).of_last hall hd hremaining hc

/-- Numbers may be empty, and one letter is kept for the next match. -/
def emptyNumbers : RuleSet where
  rules := [
    { pattern := .text "[0-9]*", action := "return 'NUM'" },
    { pattern := .text "k", action := "this.more()" }]
  options := { flags := { flex := true } }

/-- Before the accented letter there is an empty number. The added rule echoes both letters. -/
theorem nextMatch_catchAll_accent : ∃ (e : Engine) (s : Session) (condition : Condition)
    (rule : ℕ) (taken rest : List Char), emptyNumbers.compile none = .ok e ∧
    e.scanner.Reaches (fun _ _ => True) (e.scanner.start {} ['k', 'é', 'z']) s ∧
    s.state.done = false ∧ e.conditions.find? s.state.active = some condition ∧
    condition.inclusive = true ∧ s.state.remaining = ['é', 'z'] ∧ s.state.kept = ['k'] ∧
    condition.rules = [0, 1, 2] ∧ e.matchLength? 0 s.state.remaining = some 0 ∧
    rule = 2 ∧ e.Takes s rule taken rest ∧
    (∀ x ∈ e.scanner.reported s, ¬x.IsUnrecognized) ∧ taken = ['é'] ∧
    (e.scanner.nextMatch s).1 = .ok none ∧
    (e.scanner.nextMatch s).2.context.echoed = s.context.echoed ++ ['k', 'é'] := by
  generalize hc : emptyNumbers.compile none = result
  have hrun : result.toOption.bind (fun e =>
      (e.scanner.run 1 [.nextMatch] (e.scanner.start {} ['k', 'é', 'z'])).map fun r =>
        ((r.2.state.done, r.2.state.remaining, r.2.state.kept),
          e.conditions.find? r.2.state.active,
          [0, 1].map (e.matchLength? · r.2.state.remaining))) =
      some ((false, ['é', 'z'], ['k']), some ⟨[0, 1, 2], true⟩, [some 0, none]) := by
    rw [← hc]
    decide +kernel
  rcases result with error | e
  · cases hrun
  simp only [Except.toOption, Option.bind_some] at hrun
  obtain ⟨⟨answers, s⟩, hreach, hs⟩ := Option.map_eq_some_iff.1 hrun
  simp only [List.map_cons, List.map_nil, Prod.mk.injEq, List.cons.injEq, and_true] at hs
  obtain ⟨⟨hdone, hremaining, hkept⟩, hcondition, hempty, hother⟩ := hs
  obtain ⟨-, rule, -, taken, rest, htakes, -, hreported, hrule, hlast⟩ :=
    nextMatch_catchAll hc rfl rfl hdone hcondition rfl hremaining (by decide)
  have htwo : rule = 2 := by
    refine hrule.2 fun q hq hne n hn => ?_
    have hq : q = 0 ∨ q = 1 ∨ q = 2 := by simpa using hq
    rcases hq with rfl | rfl | rfl
    · rw [hempty] at hn
      exact (Option.some.inj hn).symm
    · rw [hother] at hn
      cases hn
    · exact absurd rfl hne
  obtain ⟨htaken, hresult, -, hechoed⟩ := hlast htwo
  rw [hkept] at hechoed
  exact ⟨e, s, _, rule, taken, rest, rfl,
    Scanner.reaches_of_run (P := fun _ _ => True) (fun _ _ _ => trivial) hreach, hdone, hcondition,
    rfl, hremaining, hkept, rfl, hempty, htwo, htakes, hreported, htaken, hresult, hechoed⟩

end RuleSet
end LexGen
