import LexGen.Engine.Data
import LexGen.Proofs.Command.ReadBack
import LexGen.Proofs.Condition
import LexGen.Proofs.Scanner.Alike
import LexGen.Proofs.Table

/-!
# Engines are restored from their data

An engine can be restored if building its patterns again gives its rules, its table has the initial
condition, and its actions begin known conditions only (`Restorable`). Then loading its data gives
the engine again but for how it is written out (`load_data`).

What is compiled from rules whose patterns are all texts can be restored, and so can what is loaded
(`Made.restorable`). The engine that is loaded scans like the one whose data it is loaded from
(`Made.reload`).
-/

namespace LexGen

/-! ## Rules -/

namespace CompiledRule

/-- The matcher is what the text of the pattern is built to. -/
def Built (caseless : Bool) (r : CompiledRule) : Prop := ofPattern caseless r.pattern = .ok r

variable {caseless : Bool}

theorem built_of_ofPattern {pattern : String} {r : CompiledRule}
    (h : ofPattern caseless pattern = .ok r) : r.Built caseless := by
  have hpattern : r.pattern = pattern := by
    unfold ofPattern at h
    split at h
    · rw [← Except.ok.inj h]
    · cases h
  rw [Built, hpattern, h]

theorem ofPatterns_map : ∀ {rs : List CompiledRule}, (∀ r ∈ rs, r.Built caseless) →
    ofPatterns caseless (rs.map (·.pattern)) = .ok rs
  | [], _ => rfl
  | r :: rs, h => by
    rw [List.map_cons, ofPatterns, h r List.mem_cons_self,
      ofPatterns_map fun q hq => h q (List.mem_cons_of_mem _ hq)]

theorem built_of_ofPatterns : ∀ {ps : List String} {rs : List CompiledRule},
    ofPatterns caseless ps = .ok rs → rs.length = ps.length ∧ ∀ r ∈ rs, r.Built caseless
  | [], rs, h => by
    obtain rfl := Except.ok.inj h
    simp
  | p :: ps, rs, h => by
    rw [ofPatterns] at h
    rcases hp : ofPattern caseless p with e | q
    · simp [hp] at h
    rcases hps : ofPatterns caseless ps with e | qs
    · simp [hp, hps] at h
    simp only [hp, hps, Except.ok.injEq] at h
    obtain ⟨hlen, hqs⟩ := built_of_ofPatterns hps
    subst h
    refine ⟨congrArg Nat.succ hlen, ?_⟩
    rintro r (_ | ⟨_, hr⟩)
    · exact built_of_ofPattern hp
    · exact hqs r hr

theorem built_of_compile {fragments : Fragments} {source : String} {r : CompiledRule}
    (h : compile caseless fragments (.text source) = .ok r) : r.Built caseless := by
  rw [compile, ofText] at h
  split at h
  · cases h
  · exact built_of_ofPattern h

theorem length_of_compileAll {caseless : Bool} {fragments : Fragments} :
    ∀ {ps : List Pattern} {rs : List CompiledRule},
      compileAll caseless fragments ps = .ok rs → rs.length = ps.length
  | [], rs, h => by
    obtain rfl := Except.ok.inj h
    rfl
  | p :: ps, rs, h => by
    rw [compileAll] at h
    rcases hp : compile caseless fragments p with error | q
    · simp [hp] at h
    rcases hps : compileAll caseless fragments ps with error | qs
    · simp [hp, hps] at h
    simp only [hp, hps, Except.ok.injEq] at h
    rw [← h, List.length_cons, length_of_compileAll hps, List.length_cons]

theorem built_of_compileAll {fragments : Fragments} :
    ∀ {ps : List Pattern} {rs : List CompiledRule},
      (∀ p ∈ ps, ∃ source, p = .text source) → compileAll caseless fragments ps = .ok rs →
        rs.length = ps.length ∧ ∀ r ∈ rs, r.Built caseless
  | [], rs, _, h => by
    obtain rfl := Except.ok.inj h
    simp
  | p :: ps, rs, htext, h => by
    rw [compileAll] at h
    rcases hp : compile caseless fragments p with e | q
    · simp [hp] at h
    rcases hps : compileAll caseless fragments ps with e | qs
    · simp [hp, hps] at h
    simp only [hp, hps, Except.ok.injEq] at h
    obtain ⟨hlen, hqs⟩ := built_of_compileAll (fun p hp => htext p (List.mem_cons_of_mem _ hp)) hps
    obtain ⟨source, rfl⟩ := htext p List.mem_cons_self
    subst h
    refine ⟨congrArg Nat.succ hlen, ?_⟩
    rintro r (_ | ⟨_, hr⟩)
    · exact built_of_compile hp
    · exact hqs r hr

end CompiledRule

/-! ## Actions -/

namespace Action

theorem readAll_map_text : ∀ (n : Nat) (as : List Action),
    readAll none n (as.map text) = .ok as
  | _, [] => rfl
  | n, a :: as => by rw [List.map_cons, readAll, read_text, readAll_map_text (n + 1) as]

theorem length_of_readAll {tokens : Option TokenTable} :
    ∀ {n : Nat} {texts : List String} {as : List Action},
      readAll tokens n texts = .ok as → as.length = texts.length
  | _, [], as, h => by
    obtain rfl := Except.ok.inj h
    rfl
  | n, t :: ts, as, h => by
    rw [readAll] at h
    rcases ht : read n t tokens with e | b
    · simp [ht] at h
    rcases hts : readAll tokens (n + 1) ts with e | bs
    · simp [ht, hts] at h
    simp only [ht, hts, Except.ok.injEq] at h
    rw [← h, List.length_cons, length_of_readAll hts, List.length_cons]

end Action

/-! ## Start conditions -/

namespace ConditionTable

theorem contains_initial_of_build {scopes : List Scope} {declared : Table Bool}
    {t : ConditionTable} (h : build scopes declared = .ok t) : t.contains initial := by
  rw [(resolved_of_build h).contains_eq, known, beq_self_eq_true, Bool.true_or]

end ConditionTable

theorem EngineData.contains_initial (d : EngineData) : d.conditionTable.contains initial := by
  simp only [conditionTable]
  split_ifs with h
  · exact h
  · rw [Table.contains_insert, beq_self_eq_true, Bool.true_or]

/-! ## Engines -/

namespace Engine

/-- The engine is what its tables are built to. -/
structure Restorable (e : Engine) : Prop where
  built : ∀ r ∈ e.rules, r.Built e.flags.caseless
  length_eq : e.rules.length = e.actions.length
  initial : e.conditions.contains initial = true
  targets : unknownTarget? e.conditions e.actions = none

theorem conditionTable_data {e : Engine} (h : e.conditions.contains LexGen.initial = true) :
    e.data.conditionTable = e.conditions := by
  have hlist : Table.ofList (e.data.conditions.map fun row =>
      (row.1, ({ rules := row.2.2, inclusive := row.2.1 } : Condition))) = e.conditions := by
    rw [data, conditionRows, List.map_map]
    exact (congrArg Table.ofList (List.map_id _)).trans (Table.ofList_entries _)
  rw [EngineData.conditionTable, hlist, if_pos h]

/-- Loading the data of an engine gives it again, with how it is written out as for any other. -/
theorem load_data {e : Engine} (h : e.Restorable) :
    e.data.load = .ok (e.withModule .named Options.defaultModuleName "") := by
  have hpatterns : e.data.rules.map (·.1) = e.rules.map (·.pattern) := by
    refine List.map_fst_zip ?_
    simp [actionTexts, h.length_eq]
  have htexts : e.data.rules.map (·.2) = e.actions.map Action.text := by
    refine List.map_snd_zip ?_
    simp [actionTexts, h.length_eq]
  rw [EngineData.load, hpatterns, htexts, Action.readAll_map_text, conditionTable_data h.initial]
  show (CompiledRule.ofPatterns e.flags.caseless _ >>= _) = _
  rw [CompiledRule.ofPatterns_map h.built]
  show assemble e.rules e.conditions e.actions e.flags = _
  rw [assemble, h.targets]
  rfl

/-- What the tables of an assembled engine are. -/
theorem of_assemble {rules : List CompiledRule} {conditions : ConditionTable}
    {actions : List Action} {flags : ScanFlags} {e : Engine}
    (h : assemble rules conditions actions flags = .ok e) :
    unknownTarget? conditions actions = none ∧ e = { rules, conditions, actions, flags } := by
  unfold assemble at h
  split at h
  · cases h
  · rename_i htargets
    exact ⟨htargets, (Except.ok.inj h).symm⟩

end Engine

theorem exists_of_bind_eq_ok {α β : Type} {x : Except Error α} {f : α → Except Error β} {b : β}
    (h : (x >>= f) = .ok b) : ∃ a, x = .ok a ∧ f a = .ok b := by
  rcases x with e | a
  · cases h
  · exact ⟨a, rfl, h⟩

/-- The parts that an engine is loaded from. -/
theorem EngineData.exists_parts_of_load {d : EngineData} {e : Engine} (h : d.load = .ok e) :
    ∃ rules actions,
      CompiledRule.ofPatterns d.flags.caseless (d.rules.map (·.1)) = .ok rules ∧
      Action.readAll none 0 (d.rules.map (·.2)) = .ok actions ∧
      Engine.unknownTarget? d.conditionTable actions = none ∧
      e = { rules, conditions := d.conditionTable, actions, flags := d.flags } := by
  obtain ⟨rules, hrules, h⟩ := exists_of_bind_eq_ok h
  obtain ⟨actions, hactions, h⟩ := exists_of_bind_eq_ok h
  obtain ⟨htargets, he⟩ := Engine.of_assemble h
  exact ⟨rules, actions, hrules, hactions, htargets, he⟩

theorem EngineData.restorable_of_load {d : EngineData} {e : Engine} (h : d.load = .ok e) :
    e.Restorable := by
  obtain ⟨rules, actions, hrules, hactions, htargets, rfl⟩ := exists_parts_of_load h
  obtain ⟨hlen, hbuilt⟩ := CompiledRule.built_of_ofPatterns hrules
  refine ⟨hbuilt, ?_, d.contains_initial, htargets⟩
  rw [hlen, Action.length_of_readAll hactions, List.length_map, List.length_map]

theorem RuleSet.exists_text {s : RuleSet} (h : ∀ r ∈ s.rules, ∃ source, r.pattern = .text source) :
    ∀ p ∈ s.allRules.map (·.pattern), ∃ source, p = .text source := by
  rintro p hp
  obtain ⟨r, hr, rfl⟩ := List.mem_map.1 hp
  unfold allRules at hr
  split_ifs at hr
  · rcases List.mem_append.1 hr with hr | hr
    · exact h r hr
    · rw [List.mem_singleton.1 hr]
      exact ⟨".", rfl⟩
  · exact h r hr

/-- The parts that an engine is compiled from. -/
theorem RuleSet.exists_parts_of_compile {s : RuleSet} {tokens : Option TokenTable} {e : Engine}
    (h : s.compile tokens = .ok e) : ∃ fragments conditions rules actions,
      s.fragments.expand = .ok fragments ∧
      ConditionTable.build (s.allRules.map (·.scope)) s.conditions = .ok conditions ∧
      CompiledRule.compileAll s.options.flags.caseless fragments (s.allRules.map (·.pattern)) =
        .ok rules ∧
      Action.readAll tokens 0 (s.allRules.map (·.action)) = .ok actions ∧
      Engine.unknownTarget? conditions actions = none ∧
      e = ⟨rules, conditions, actions, s.options.flags, s.options.wrapping, s.options.name,
        s.epilogue⟩ := by
  obtain ⟨fragments, hfragments, h⟩ := exists_of_bind_eq_ok h
  obtain ⟨conditions, hconditions, h⟩ := exists_of_bind_eq_ok h
  obtain ⟨rules, hrules, h⟩ := exists_of_bind_eq_ok h
  obtain ⟨actions, hactions, h⟩ := exists_of_bind_eq_ok h
  obtain ⟨engine, hengine, h⟩ := exists_of_bind_eq_ok h
  obtain ⟨htargets, rfl⟩ := Engine.of_assemble hengine
  exact ⟨fragments, conditions, rules, actions, hfragments, hconditions, hrules, hactions, htargets,
    (Except.ok.inj h).symm⟩

/-- What the parts of a compiled engine are. -/
theorem RuleSet.exists_of_compile {s : RuleSet} {tokens : Option TokenTable} {e : Engine}
    (h : s.compile tokens = .ok e) : ∃ fragments,
      s.fragments.expand = .ok fragments ∧
      ConditionTable.build (s.allRules.map (·.scope)) s.conditions = .ok e.conditions ∧
      CompiledRule.compileAll e.flags.caseless fragments (s.allRules.map (·.pattern)) =
        .ok e.rules ∧
      Action.readAll tokens 0 (s.allRules.map (·.action)) = .ok e.actions ∧
      Engine.unknownTarget? e.conditions e.actions = none := by
  obtain ⟨fragments, conditions, rules, actions, hfragments, hconditions, hrules, hactions, htargets,
    rfl⟩ := exists_parts_of_compile h
  exact ⟨fragments, hfragments, hconditions, hrules, hactions, htargets⟩

theorem RuleSet.restorable_of_compile {s : RuleSet} {tokens : Option TokenTable} {e : Engine}
    (htext : ∀ r ∈ s.rules, ∃ source, r.pattern = .text source) (h : s.compile tokens = .ok e) :
    e.Restorable := by
  obtain ⟨fragments, -, hconditions, hrules, hactions, htargets⟩ := exists_of_compile h
  obtain ⟨hlen, hbuilt⟩ := CompiledRule.built_of_compileAll (exists_text htext) hrules
  refine ⟨hbuilt, ?_, ConditionTable.contains_initial_of_build hconditions, htargets⟩
  rw [hlen, Action.length_of_readAll hactions, List.length_map, List.length_map]

namespace Engine

/-- The engines that are compiled from rules whose patterns are all texts, or loaded. -/
inductive Made (e : Engine) : Prop
  | compiled (s : RuleSet) (tokens : Option TokenTable) :
    (∀ r ∈ s.rules, ∃ source, r.pattern = .text source) → s.compile tokens = .ok e → Made e
  | loaded (d : EngineData) : d.load = .ok e → Made e

theorem Made.restorable {e : Engine} (h : e.Made) : e.Restorable := by
  rcases h with ⟨s, tokens, htext, h⟩ | ⟨d, h⟩
  · exact RuleSet.restorable_of_compile htext h
  · exact EngineData.restorable_of_load h

/-- Loading the data of an engine gives one that scans like it. -/
theorem Made.reload {e : Engine} (h : e.Made) : ∃ f, e.data.load = .ok f ∧ f.Alike e ∧
    (∀ context input, f.scanner.start context input = e.scanner.start context input) ∧
      ∀ n calls s, f.scanner.run n calls s = e.scanner.run n calls s := by
  have halike : (e.withModule .named Options.defaultModuleName "").Alike e := ⟨rfl, rfl, rfl, rfl⟩
  exact ⟨_, load_data h.restorable, halike, halike.start_eq, halike.run_eq⟩

/-- The rule that is added in compiling where the longest match is taken is not added again. -/
theorem Made.reload_flex : ∃ e f,
    RuleSet.compile {
      rules := [{ pattern := .text "[a-z]+", action := "return 'ID'" }]
      options := { flags := { flex := true } } } none = .ok e ∧
    e.rules.length = 2 ∧ e.data.load = .ok f ∧ f.Alike e := by
  generalize hs : ({
    rules := [{ pattern := .text "[a-z]+", action := "return 'ID'" }]
    options := { flags := { flex := true } } } : RuleSet) = s
  have htext : ∀ r ∈ s.rules, ∃ source, r.pattern = .text source := by
    rw [← hs]
    intro r hr
    exact ⟨"[a-z]+", by rw [List.mem_singleton.1 hr]⟩
  have hlen : ((s.compile none).toOption.map (·.rules.length)) = some 2 := by
    rw [← hs]
    decide +kernel
  rcases he : s.compile none with error | e
  · rw [he] at hlen
    cases hlen
  rw [he] at hlen
  obtain ⟨f, hf, halike, -⟩ := Made.reload (.compiled s none htext he)
  exact ⟨e, f, rfl, Option.some.inj hlen, hf, halike⟩

end Engine
end LexGen
