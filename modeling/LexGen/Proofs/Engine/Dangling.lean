import LexGen.Graph
import LexGen.Proofs.Scanner.Step
import LexGen.Proofs.Source.Decoded

/-!
# Rules that are not there

The table of an engine that is loaded may list rules that the engine does not have. They match
nothing, so scanning is as without them (`EngineData.load_pruned`, `Engine.sameSteps_pruned`). A
graph has no node for them: there is none exactly if some condition lists such a rule
(`Engine.graph?_eq_none_iff`). Compiling lists no such rules (`Engine.graph?_isSome_of_compile`).
-/

namespace LexGen

/-! ## Leaving them out -/

/-- The condition without the rules from number `n` on. -/
def Condition.below (n : ℕ) (c : Condition) : Condition :=
  { c with rules := c.rules.filter (· < n) }

/-- The data without the rules in the rows that are not there. -/
def EngineData.pruned (d : EngineData) : EngineData :=
  { d with
    conditions := d.conditions.map fun row =>
      (row.1, row.2.1, row.2.2.filter (· < d.rules.length)) }

namespace Engine

/-- The engine whose conditions list no rules that are not there. -/
def pruned (e : Engine) : Engine :=
  { e with conditions := e.conditions.map fun _ c => c.below e.rules.length }

variable {e : Engine}

theorem matchLength?_of_le {rule : ℕ} (h : e.rules.length ≤ rule) (text : List Char) :
    e.matchLength? rule text = none := by
  rw [matchLength?, List.getElem?_eq_none h]
  rfl

theorem matchLength?_pruned (rule : ℕ) (text : List Char) :
    e.pruned.matchLength? rule text = e.matchLength? rule text := rfl

theorem activeRules_pruned (name : String) : e.pruned.activeRules name =
    (e.activeRules name).map (·.filter (· < e.rules.length)) := by
  have hfind : e.pruned.conditions.find? name =
    (e.conditions.find? name).map (·.below e.rules.length) := Table.find?_map _ _ _
  rw [activeRules, activeRules, hfind]
  rcases e.conditions.find? name <;> rfl

theorem firstMatch?_pruned (text : List Char) : ∀ rules : List ℕ,
    e.pruned.firstMatch? text (rules.filter (· < e.rules.length)) = e.firstMatch? text rules
  | [] => rfl
  | r :: rs => by
    by_cases hr : r < e.rules.length
    · rw [List.filter_cons_of_pos (by simpa using hr)]
      simp only [firstMatch?, matchLength?_pruned, firstMatch?_pruned text rs]
    · rw [List.filter_cons_of_neg (by simpa using hr), firstMatch?_pruned text rs, firstMatch?,
        matchLength?_of_le (Nat.le_of_not_lt hr)]

theorem longestMatch?_pruned (text : List Char) : ∀ (rules : List ℕ) (best : Option Candidate),
    e.pruned.longestMatch? text (rules.filter (· < e.rules.length)) best =
      e.longestMatch? text rules best
  | [], _ => rfl
  | r :: rs, best => by
    by_cases hr : r < e.rules.length
    · rw [List.filter_cons_of_pos (by simpa using hr)]
      simp only [longestMatch?, matchLength?_pruned, longestMatch?_pruned text rs]
    · rw [List.filter_cons_of_neg (by simpa using hr), longestMatch?_pruned text rs, longestMatch?,
        matchLength?_of_le (Nat.le_of_not_lt hr)]

theorem select?_pruned (text : List Char) (rules : List ℕ) :
    e.pruned.select? text (rules.filter (· < e.rules.length)) = e.select? text rules := by
  rw [select?, select?, firstMatch?_pruned, longestMatch?_pruned]
  rfl

theorem tryInTurn_pruned : ∀ (rules : List ℕ) (s : Session),
    e.pruned.scanner.tryInTurn (rules.filter (· < e.rules.length)) s =
      e.scanner.tryInTurn rules s
  | [], _ => rfl
  | r :: rs, s => by
    by_cases hr : r < e.rules.length
    · have hattempt (m : Candidate) (t : Session) :
        e.pruned.scanner.attempt m t = e.scanner.attempt m t := rfl
      have hmatch : e.pruned.scanner.engine.matchLength? r s.state.remaining =
        e.scanner.engine.matchLength? r s.state.remaining := rfl
      rw [List.filter_cons_of_pos (by simpa using hr)]
      simp only [Scanner.tryInTurn, hattempt, hmatch, tryInTurn_pruned rs]
    · have hnone : e.scanner.engine.matchLength? r s.state.remaining = none :=
        matchLength?_of_le (Nat.le_of_not_lt hr) _
      rw [List.filter_cons_of_neg (by simpa using hr), tryInTurn_pruned rs, Scanner.tryInTurn, hnone]

theorem takeFrom_pruned (rules : List ℕ) (s : Session) :
    e.pruned.scanner.takeFrom (rules.filter (· < e.rules.length)) s =
      e.scanner.takeFrom rules s := by
  have hselect : e.pruned.scanner.engine.select? s.state.remaining
      (rules.filter (· < e.rules.length)) = e.scanner.engine.select? s.state.remaining rules :=
    select?_pruned _ _
  rw [Scanner.takeFrom, Scanner.takeFrom, hselect, tryInTurn_pruned]
  rfl

/-- Rules that are not there make no difference to scanning. -/
theorem sameSteps_pruned (e : Engine) : e.pruned.scanner.SameSteps e.scanner := by
  refine ⟨fun _ _ => rfl, fun s => ?_⟩
  rcases hd : s.state.done with _ | _
  · have hactive : e.pruned.scanner.engine.activeRules s.prepared.state.active =
        (e.scanner.engine.activeRules s.prepared.state.active).map
          (·.filter (· < e.rules.length)) := activeRules_pruned _
    rw [Scanner.nextMatch_eq hd, Scanner.nextMatch_eq hd, hactive]
    rcases e.scanner.engine.activeRules s.prepared.state.active with error | rules
    · rfl
    · exact takeFrom_pruned rules s.prepared
  · rw [Scanner.nextMatch, Scanner.nextMatch, if_pos hd, if_pos hd]

end Engine

/-! ## Loading without them -/

namespace EngineData

theorem conditionTable_pruned (d : EngineData) : d.pruned.conditionTable =
    d.conditionTable.map fun _ c => c.below d.rules.length := by
  have hrows : (Table.ofList (d.pruned.conditions.map fun row =>
      (row.1, ({ rules := row.2.2, inclusive := row.2.1 } : Condition)))) =
      (Table.ofList (d.conditions.map fun row =>
        (row.1, ({ rules := row.2.2, inclusive := row.2.1 } : Condition)))).map
          fun _ c => c.below d.rules.length := by
    rw [Table.map_ofList, pruned, List.map_map, List.map_map]
    rfl
  rw [conditionTable, conditionTable, hrows]
  simp only [Table.contains_map]
  split_ifs
  · rfl
  · rw [Table.map_insert]
    rfl

variable {d : EngineData} {e : Engine}

theorem length_of_load (h : d.load = .ok e) : e.rules.length = d.rules.length := by
  obtain ⟨rules, actions, hrules, -, -, rfl⟩ := exists_parts_of_load h
  rw [(CompiledRule.built_of_ofPatterns hrules).1, List.length_map]

/-- The data without them is loaded as well, and gives the engine without them. -/
theorem load_pruned (h : d.load = .ok e) : d.pruned.load = .ok e.pruned := by
  have hlength := length_of_load h
  obtain ⟨rules, actions, hrules, hactions, htargets, rfl⟩ := exists_parts_of_load h
  have hconditions : d.pruned.conditionTable =
      d.conditionTable.map fun _ c => c.below rules.length := by
    rw [conditionTable_pruned, ← hlength]
  have hpruned : Engine.unknownTarget? d.pruned.conditionTable actions = none := by
    rw [← htargets, hconditions]
    simp only [Engine.unknownTarget?, Table.contains_map]
  rw [load]
  show (CompiledRule.ofPatterns d.flags.caseless (d.rules.map (·.1)) >>= _) = _
  rw [hrules]
  show (Action.readAll none 0 (d.rules.map (·.2)) >>= _) = _
  rw [hactions]
  show Engine.assemble rules d.pruned.conditionTable actions d.flags = _
  rw [Engine.assemble, hpruned, hconditions]
  rfl

end EngineData

/-! ## Graphs -/

namespace Engine

variable {e : Engine}

theorem conditionEdges?_eq_none_iff (node : ℕ) (c : Condition) :
    e.conditionEdges? node c = none ↔ ∃ rule ∈ c.rules, e.rules.length ≤ rule := by
  rw [conditionEdges?]
  split_ifs with h
  · simpa using h
  · simpa using h

theorem allConditionEdges?_eq_none_iff : ∀ (node : ℕ) (cs : List Condition),
    e.allConditionEdges? node cs = none ↔ ∃ c ∈ cs, ∃ rule ∈ c.rules, e.rules.length ≤ rule
  | _, [] => by simp [allConditionEdges?]
  | node, c :: cs => by
    rw [allConditionEdges?, List.exists_mem_cons_iff, ← conditionEdges?_eq_none_iff node,
      ← allConditionEdges?_eq_none_iff (node + 1)]
    rcases e.conditionEdges? node c with _ | first
    · simp
    · rcases allConditionEdges? e (node + 1) cs with _ | rest <;> simp

/-- The rules have edges back as long as there is a rule for each action. -/
theorem allBeginEdges?_isSome : ∀ (rule : ℕ) (as : List Action),
    rule + as.length ≤ e.rules.length → (e.allBeginEdges? rule as).isSome
  | _, [], _ => rfl
  | rule, a :: as, h => by
    rw [List.length_cons] at h
    obtain ⟨rest, hrest⟩ := Option.isSome_iff_exists.1
      (allBeginEdges?_isSome (rule + 1) as (by omega))
    have hthere : (decide (rule < e.rules.length) || (e.beginTargets a).isEmpty) = true := by
      rw [decide_eq_true (by omega), Bool.true_or]
    rw [allBeginEdges?, hrest, beginEdges?, if_pos hthere]
    rfl

/-- There is no graph exactly if a condition lists a rule that is not there. -/
theorem graph?_eq_none_iff (h : e.Obtained) (label : String) : e.graph? label = none ↔
    ∃ row ∈ e.conditionRows, ∃ rule ∈ row.2.2, e.rules.length ≤ rule := by
  obtain ⟨begins, hbegins⟩ := Option.isSome_iff_exists.1
    (allBeginEdges?_isSome 0 e.actions (by rw [h.length_eq]; omega))
  have hrows : (∃ row ∈ e.conditionRows, ∃ rule ∈ row.2.2, e.rules.length ≤ rule) ↔
      e.allConditionEdges? 0 (e.conditions.entries.map (·.2)) = none := by
    rw [allConditionEdges?_eq_none_iff]
    simp only [conditionRows, List.mem_map, exists_exists_and_eq_and]
  rw [hrows, graph?, hbegins]
  rcases hactive : e.allConditionEdges? 0 (e.conditions.entries.map (·.2)) <;> simp [hactive]

theorem graph?_isSome_of_compile {r : RuleSet} {tokens : Option TokenTable}
    (h : r.compile tokens = .ok e) (label : String) : (e.graph? label).isSome := by
  obtain ⟨fragments, -, hbuild, hrules, -⟩ := RuleSet.exists_of_compile h
  have hresolved := ConditionTable.resolved_of_build hbuild
  rw [Option.isSome_iff_ne_none, ne_eq, graph?_eq_none_iff (.compiled r tokens h)]
  rintro ⟨row, hrow, rule, hrule, hle⟩
  obtain ⟨⟨name, c⟩, hmem, rfl⟩ := List.mem_map.1 hrow
  have hlt := (hresolved.lists name c (Table.find?_eq_some_iff.2 hmem)).lt_length hrule
  rw [CompiledRule.length_of_compileAll hrules, List.length_map] at hle
  rw [List.length_map] at hlt
  omega

end Engine

/-- Data that is loaded is also loaded without the rules in the rows that are not there, and then
the same calls give the same answers and lead to the same sessions. The engine has no graph exactly
if a row that counts has such a rule. One that has been compiled always has a graph. -/
theorem EngineData.run_pruned {d : EngineData} {e : Engine} (h : d.load = .ok e) :
    (∃ f, d.pruned.load = .ok f ∧
      (∀ context input, f.scanner.start context input = e.scanner.start context input) ∧
      ∀ n calls s, f.scanner.run n calls s = e.scanner.run n calls s) ∧
    (∀ label, e.graph? label = none ↔
      ∃ row ∈ e.conditionRows, ∃ rule ∈ row.2.2, d.rules.length ≤ rule) ∧
    ∀ r tokens f, RuleSet.compile r tokens = .ok f → ∀ label, (f.graph? label).isSome := by
  have hsame := e.sameSteps_pruned
  refine ⟨⟨e.pruned, load_pruned h, hsame.start_eq, hsame.run_eq⟩, fun label => ?_,
    fun r tokens f hf => Engine.graph?_isSome_of_compile hf⟩
  rw [← length_of_load h]
  exact Engine.graph?_eq_none_iff (.loaded d h) label

namespace EngineData

/-- Two rules. Both conditions have an earlier row that does not count, and the row that counts for
the first one lists two rules that are not there. -/
def withMissing : EngineData where
  rules := [("[a-z]+", "return 'WORD'"), ("[a-z]", "this.begin('X')")]
  conditions := [(initial, true, [9]), ("X", true, [5]), (initial, true, [7, 1, 2, 0]),
    ("X", false, [0])]
  flags := { flex := true }

theorem run_pruned_withMissing : ∃ e f, withMissing.load = .ok e ∧
    withMissing.pruned.load = .ok f ∧
    e.conditionRows = [(initial, true, [7, 1, 2, 0]), ("X", false, [0])] ∧
    f.conditionRows = [(initial, true, [1, 0]), ("X", false, [0])] ∧
    (∀ n calls s, f.scanner.run n calls s = e.scanner.run n calls s) ∧
    (e.scanner.lexWithin 1 (e.scanner.start {} ['a', 'b'])).map (·.1) = some (.ok (.name "WORD")) ∧
    e.graph? "words" = none ∧ (f.graph? "words").isSome := by
  have heRows : withMissing.load.toOption.map Engine.conditionRows =
      some [(initial, true, [7, 1, 2, 0]), ("X", false, [0])] := by
    decide +kernel
  have hfRows : withMissing.pruned.load.toOption.map Engine.conditionRows =
      some [(initial, true, [1, 0]), ("X", false, [0])] := by
    decide +kernel
  have hlex : withMissing.load.toOption.bind (fun e =>
      (e.scanner.lexWithin 1 (e.scanner.start {} ['a', 'b'])).map (·.1)) =
        some (.ok (.name "WORD")) := by
    decide +kernel
  rcases he : withMissing.load with error | e
  · rw [he] at hlex
    cases hlex
  rw [he] at heRows hlex
  obtain ⟨⟨f, hf, -, hrun⟩, hgraph, -⟩ := run_pruned he
  rw [hf] at hfRows
  have heRows := Option.some.inj heRows
  have hfRows := Option.some.inj hfRows
  refine ⟨e, f, rfl, hf, heRows, hfRows, hrun, hlex, ?_, ?_⟩
  · exact (hgraph _).2 (by rw [heRows]; decide)
  · -- the rows without the missing rules are those of the other engine
    rw [Option.isSome_iff_ne_none, ne_eq, Engine.graph?_eq_none_iff (.loaded _ hf), hfRows,
      length_of_load hf]
    decide

end EngineData
end LexGen
