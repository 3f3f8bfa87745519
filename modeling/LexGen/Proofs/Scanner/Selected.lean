import LexGen.Proofs.Engine.Restore
import LexGen.Proofs.Scanner.Backtracking

/-!
# The match of a step

Without backtracking a step takes at most one match, whatever runs the actions: that of the first
active rule that matches, or, where the longest match is looked for, the longest one, and of several
the one that comes first (`Engine.Wins`, `Engine.nextMatch_wins`). Where no active rule matches, no
action is run.

In an engine that has been compiled the active rules are in the order of their numbers, so of several
longest matches the one with the smallest number is taken.
-/

namespace LexGen

theorem RuleSet.increasing_of_compile {s : RuleSet} {tokens : Option TokenTable} {e : Engine}
    (h : s.compile tokens = .ok e) {condition : String} {rules : List ℕ}
    (hr : e.activeRules condition = .ok rules) : rules.Pairwise (· < ·) := by
  obtain ⟨-, -, hbuild, -⟩ := exists_of_compile h
  unfold Engine.activeRules at hr
  rcases hc : e.conditions.find? condition with _ | c
  · simp [hc] at hr
  · simp only [hc, Except.ok.injEq] at hr
    exact hr ▸ ((ConditionTable.resolved_of_build hbuild).lists condition c hc).increasing

namespace Engine

/-- Of the rules `before`, `rule` and `after`, in this order, `rule` is the one whose match is taken.
Its match has `size` bytes. -/
structure Wins (e : Engine) (text : List Char) (before : List ℕ) (rule : ℕ) (after : List ℕ)
    (size : ℕ) : Prop where
  size_eq : e.matchSize? rule text = some size
  first : e.flags.flex = false → ∀ q ∈ before, e.matchSize? q text = none
  longest : e.flags.flex = true → ∀ q ∈ before ++ rule :: after, ∀ n ∈ e.matchSize? q text,
    n ≤ size
  first_longest : e.flags.flex = true → ∀ q ∈ before, e.matchSize? q text ≠ some size

variable {e : Engine} {text : List Char} {rules : List ℕ} {m : Candidate}

theorem wins_of_select? (h : e.select? text rules = some m) :
    ∃ before after, rules = before ++ m.rule :: after ∧
      e.Wins text before m.rule after (Text.utf8Length (text.take m.length)) := by
  obtain ⟨before, after, hrules, hm, hfirst, hlongest⟩ := select?_eq_some h
  have hsize : e.matchSize? m.rule text = some (Text.utf8Length (text.take m.length)) := by
    rw [matchSize?, hm, Option.map_some]
  refine ⟨before, after, hrules, hsize, fun hflex q hq => ?_, fun hflex q hq n hn => ?_,
    fun hflex q hq hsame => ?_⟩
  · rw [matchSize?, hfirst hflex q hq, Option.map_none]
  · obtain ⟨k, hk, rfl⟩ := Option.map_eq_some_iff.1 hn
    obtain ⟨hbefore, hafter⟩ := hlongest hflex
    rw [matchSize_le_iff hk hm]
    rcases List.mem_append.1 hq with hq | hq
    · exact (hbefore q hq k hk).le
    rcases List.mem_cons.1 hq with rfl | hq
    · exact (Option.some.inj (hk.symm.trans hm)).le
    · exact hafter q hq k hk
  · obtain ⟨k, hk, hsame⟩ := Option.map_eq_some_iff.1 hsame
    have hle : m.length ≤ k := (matchSize_le_iff hm hk).1 hsame.ge
    have hlt := (hlongest hflex).1 q hq k hk
    omega

/-- A step without backtracking. If no active rule matches, it ends without an action. Otherwise it
takes the match that wins and runs its action, and no other. Of several longest matches of an engine
that has been compiled, the one with the smallest number wins. -/
theorem nextMatch_wins (e : Engine) (hb : e.flags.backtracking = false) {s : Session}
    (hd : s.state.done = false) {rules : List ℕ} (hr : e.activeRules s.state.active = .ok rules) :
    ((∀ rule ∈ rules, e.matchSize? rule s.state.remaining = none) ∧
      ∀ dispatch, Scanner.nextMatch ⟨e, dispatch⟩ s = Scanner.noMatch s.prepared) ∨
    ∃ before rule after taken rest,
      rules = before ++ rule :: after ∧ s.state.remaining = taken ++ rest ∧
      e.Wins s.state.remaining before rule after (Text.utf8Length taken) ∧
      ((∃ r tokens, RuleSet.compile r tokens = .ok e) → e.flags.flex = true →
        ∀ q ∈ rules, e.matchSize? q s.state.remaining = some (Text.utf8Length taken) → rule ≤ q) ∧
      (s.prepared.state.commit taken.length).current = s.prepared.state.current ++ taken ∧
      (s.prepared.state.commit taken.length).remaining = rest ∧
      ∀ dispatch, Scanner.nextMatch ⟨e, dispatch⟩ s =
        Scanner.trial ⟨e, dispatch⟩ s.prepared.state
          (s.context.trace (Candidate.note ⟨rule, taken.length⟩ s.prepared.state))
          ⟨rule, taken.length⟩ := by
  have hremaining : s.prepared.state.remaining = s.state.remaining := s.state.remaining_prepared
  have hactive : e.activeRules s.prepared.state.active = .ok rules := by
    rw [← hr, ← s.state.active_prepared]
    rfl
  have hstep (dispatch : Dispatch) :=
    @Scanner.nextMatch_of_not_backtracking ⟨e, dispatch⟩ hb s hd rules hactive
  simp only [hremaining] at hstep
  rcases hm : e.select? s.state.remaining rules with _ | m
  · refine .inl ⟨fun rule hrule => ?_, fun dispatch => ?_⟩
    · rw [matchSize?, select?_eq_none hm rule hrule, Option.map_none]
    · rw [hstep, hm]
  right
  obtain ⟨before, after, hrules, hwins⟩ := wins_of_select? hm
  have hlen : (s.state.remaining.take m.length).length = m.length := by
    rw [List.length_take, Nat.min_eq_left (matchLength?_le (matchLength?_of_select? hm))]
  refine ⟨before, m.rule, after, s.state.remaining.take m.length, s.state.remaining.drop m.length,
    hrules, (List.take_append_drop _ _).symm, hwins, ?_, ?_, ?_, fun dispatch => ?_⟩
  · rintro ⟨r, tokens, hcompile⟩ hflex q hq hsame
    have hincreasing := RuleSet.increasing_of_compile hcompile hr
    rw [hrules] at hincreasing hq
    rcases List.mem_append.1 hq with hq | hq
    · exact absurd hsame (hwins.first_longest hflex q hq)
    rcases List.mem_cons.1 hq with rfl | hq
    · exact le_rfl
    · exact (List.rel_of_pairwise_cons (List.pairwise_append.1 hincreasing).2.1 hq).le
  · rw [hlen, ← hremaining]
    rfl
  · rw [hlen, ← hremaining]
    rfl
  · rw [hstep, hm, hlen]

/-- Three rules of which two match a word of accented letters, and one that is added. -/
def accented : RuleSet where
  rules := [
    { pattern := .text "é", action := "return 'E'" },
    { pattern := .text "[a-zé]+", action := "return 'WORD'" },
    { pattern := .text "é+x", action := "return 'EX'" }]
  options := { flags := { flex := true } }

/-- The longest matches are those of the second and the third rule, with five bytes each. -/
theorem nextMatch_wins_accented : ∃ (e : Engine) (s : Session) (before : List ℕ) (rule : ℕ)
    (after : List ℕ) (taken rest : List Char),
    accented.compile none = .ok e ∧ s = e.scanner.start {} ['é', 'é', 'x', ' '] ∧
    e.flags.backtracking = false ∧ s.state.done = false ∧
    e.activeRules s.state.active = .ok [0, 1, 2, 3] ∧
    [0, 1, 2, 3].map (e.matchSize? · s.state.remaining) = [some 2, some 5, some 5, some 2] ∧
    [0, 1, 2, 3] = before ++ rule :: after ∧ s.state.remaining = taken ++ rest ∧
    e.Wins s.state.remaining before rule after (Text.utf8Length taken) ∧
    (∀ q ∈ [0, 1, 2, 3], e.matchSize? q s.state.remaining = some (Text.utf8Length taken) →
      rule ≤ q) ∧
    e.scanner.nextMatch s = e.scanner.trial s.prepared.state
      (s.context.trace (Candidate.note ⟨rule, taken.length⟩ s.prepared.state))
      ⟨rule, taken.length⟩ ∧
    (e.scanner.nextMatch s).1.toOption = some (some (.name "WORD")) ∧
    (e.scanner.nextMatch s).2.state.current = ['é', 'é', 'x'] := by
  generalize hrules : accented.compile none = result
  have hstart : (result.toOption.map fun e =>
      let s := e.scanner.start {} ['é', 'é', 'x', ' ']
      ((e.flags, (e.activeRules s.state.active).toOption),
        [0, 1, 2, 3].map (e.matchSize? · s.state.remaining))) =
      some (({ flex := true }, some [0, 1, 2, 3]), [some 2, some 5, some 5, some 2]) := by
    rw [← hrules]
    decide +kernel
  have hstepped : (result.toOption.map fun e =>
      let next := e.scanner.nextMatch (e.scanner.start {} ['é', 'é', 'x', ' '])
      (next.1.toOption, next.2.state.current)) =
      some (some (some (.name "WORD")), ['é', 'é', 'x']) := by
    rw [← hrules]
    decide +kernel
  rcases result with error | e
  · cases hstart
  simp only [Except.toOption, Option.map_some, Option.some.injEq, Prod.mk.injEq] at hstart hstepped
  obtain ⟨⟨hflags, hactive⟩, hsizes⟩ := hstart
  obtain ⟨htoken, hcurrent⟩ := hstepped
  have hr : e.activeRules (e.scanner.start {} ['é', 'é', 'x', ' ']).state.active =
      .ok [0, 1, 2, 3] := by
    rcases ha : e.activeRules (e.scanner.start {} ['é', 'é', 'x', ' ']).state.active with error | r
    · simp [ha] at hactive
    · simp only [ha, Option.some.injEq] at hactive
      rw [hactive]
  have hb : e.flags.backtracking = false := by rw [hflags]
  obtain ⟨hnone, -⟩ | ⟨before, rule, after, taken, rest, hsplit, htext, hwins, hleast, -, -, hstep⟩ :=
    e.nextMatch_wins hb (s := e.scanner.start {} ['é', 'é', 'x', ' ']) rfl hr
  · have hsecond := hnone 1 (by decide)
    simp only [List.map_cons, hsecond] at hsizes
    simp at hsizes
  · exact ⟨e, _, before, rule, after, taken, rest, rfl, rfl, hb, rfl, hr, hsizes, hsplit, htext,
      hwins, hleast ⟨_, _, hrules⟩ (by rw [hflags]), hstep _, htoken, hcurrent⟩

end Engine
end LexGen
