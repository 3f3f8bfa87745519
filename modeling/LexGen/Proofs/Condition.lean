import LexGen.Condition
import LexGen.Proofs.Table

/-!
# What the table of the start conditions says

A scope makes its rule active under the conditions that it covers, and each of them lists the rule
once, although a condition looks at its last rule only (`ConditionTable.activate_settles`). So after
all scopes a condition lists, in their order, the rules whose scopes cover it (`Condition.Lists`),
and the first unknown name of a scope is the error (`ConditionTable.build_eq_iff`).
-/

namespace LexGen

/-! ## Scopes -/

namespace Scope

/-- The names that a scope lists. -/
def names : Scope → List String
  | .implicit | .all => []
  | .conditions names => names

/-- Whether a rule of the scope is active under a condition. -/
def Covers (name : String) (inclusive : Bool) : Scope → Prop
  | .implicit => inclusive = true
  | .all => True
  | .conditions names => name ∈ names

instance (name : String) (inclusive : Bool) : DecidablePred (Covers name inclusive)
  | .implicit => inferInstanceAs (Decidable (inclusive = true))
  | .all => .isTrue trivial
  | .conditions names => inferInstanceAs (Decidable (name ∈ names))

end Scope

namespace Condition

/-- Makes a rule active that is not the last one already. -/
def activateOnce (rule : Nat) (c : Condition) : Condition :=
  if c.rules.getLast? = some rule then c else c.activate rule

theorem activateOnce_activateOnce (rule : Nat) (c : Condition) :
    (c.activateOnce rule).activateOnce rule = c.activateOnce rule := by
  have hlast : (c.activateOnce rule).rules.getLast? = some rule := by
    unfold activateOnce
    split_ifs with h
    · exact h
    · exact List.getLast?_concat
  rw [activateOnce, if_pos hlast]

/-- The condition lists the rules whose scopes cover it, in the order of the scopes. -/
structure Lists (scopes : List Scope) (name : String) (c : Condition) : Prop where
  increasing : c.rules.Pairwise (· < ·)
  mem_iff : ∀ rule, rule ∈ c.rules ↔
    ∃ scope, scopes[rule]? = some scope ∧ scope.Covers name c.inclusive

namespace Lists

variable {scopes : List Scope} {scope : Scope} {name : String} {c : Condition}

theorem lt_length (h : c.Lists scopes name) {rule : Nat} (hrule : rule ∈ c.rules) :
    rule < scopes.length := by
  obtain ⟨scope, hscope, -⟩ := (h.mem_iff rule).1 hrule
  exact (List.getElem?_eq_some_iff.1 hscope).1

theorem activateOnce_eq (h : c.Lists scopes name) :
    c.activateOnce scopes.length = c.activate scopes.length := by
  refine if_neg fun hlast => ?_
  exact Nat.lt_irrefl _ (h.lt_length (List.mem_of_getLast? hlast))

theorem mem_append_iff (h : c.Lists scopes name) (rule : Nat) :
    (∃ s, (scopes ++ [scope])[rule]? = some s ∧ s.Covers name c.inclusive) ↔
      rule ∈ c.rules ∨ rule = scopes.length ∧ scope.Covers name c.inclusive := by
  rw [h.mem_iff]
  rcases Nat.lt_trichotomy rule scopes.length with hlt | rfl | hgt
  · rw [List.getElem?_append_left hlt]
    simp [hlt.ne]
  · simp
  · simp [List.getElem?_append_right hgt.le, hgt.ne', List.getElem?_eq_none hgt.le,
      List.getElem?_eq_none (l := [scope]) (i := rule - scopes.length) (by simp; omega)]

/-- A further scope adds its rule if it covers the condition. -/
theorem append (h : c.Lists scopes name) (scope : Scope) :
    (if scope.Covers name c.inclusive then c.activate scopes.length else c).Lists
      (scopes ++ [scope]) name := by
  split_ifs with hcovers
  · refine ⟨?_, fun rule => ?_⟩
    · show (c.rules ++ [scopes.length]).Pairwise _
      rw [List.pairwise_append]
      refine ⟨h.increasing, List.pairwise_singleton _ _, fun rule hrule last hlast => ?_⟩
      rw [List.mem_singleton.1 hlast]
      exact h.lt_length hrule
    · refine Iff.trans ?_ (h.mem_append_iff rule).symm
      show rule ∈ c.rules ++ [scopes.length] ↔ _
      simp [hcovers]
  · exact ⟨h.increasing, fun rule => by simp [h.mem_append_iff rule, hcovers]⟩

end Lists
end Condition

/-! ## Tables -/

namespace ConditionTable

/-- What going through names comes to: the first of them that is unknown is the error, and where
there is none, the result is a table with the property. -/
def Settles (unknown : Option String) (P : ConditionTable → Prop)
    (r : Except Error ConditionTable) : Prop :=
  (∃ name, unknown = some name ∧ r = .error (.unknownCondition name)) ∨
    unknown = none ∧ ∃ t, r = .ok t ∧ P t

/-- A scope that lists names makes its rule active, once, under each of them. -/
theorem activateNamed_settles (rule : Nat) : ∀ (names : List String) (t : ConditionTable),
    Settles (names.find? fun name => !t.contains name)
      (fun u => ∀ name, u.find? name =
        (t.find? name).map fun c => if name ∈ names then c.activateOnce rule else c)
      (activateNamed rule names t)
  | [], t => .inr ⟨rfl, t, rfl, by simp⟩
  | first :: names, t => by
    rw [activateNamed]
    rcases hfirst : t.find? first with _ | c
    · refine .inl ⟨first, ?_, rfl⟩
      exact List.find?_cons_of_pos (by simp [Table.contains, hfirst])
    have hinsert : (if c.rules.getLast? = some rule then t else t.insert first (c.activate rule)) =
        t.insert first (c.activateOnce rule) := by
      unfold Condition.activateOnce
      split_ifs
      · exact (Table.insert_of_find? hfirst).symm
      · rfl
    have hcontains : t.contains first = true := by simp [Table.contains, hfirst]
    have hknown (name : String) :
        (t.insert first (c.activateOnce rule)).contains name = t.contains name := by
      rw [Table.contains_insert]
      by_cases h : name = first <;> simp [h, hcontains]
    have ih := activateNamed_settles rule names (t.insert first (c.activateOnce rule))
    simp only [hknown] at ih
    rw [List.find?_cons_of_neg (by simp [hcontains])]
    dsimp only
    rw [hinsert]
    obtain ⟨name, hname, herror⟩ | ⟨hnone, u, hu, hfind⟩ := ih
    · exact .inl ⟨name, hname, herror⟩
    refine .inr ⟨hnone, u, hu, fun name => ?_⟩
    rw [hfind, Table.find?_insert]
    by_cases h : name = first
    · -- naming the condition again does no more
      subst h
      simp [hfirst, Condition.activateOnce_activateOnce]
    · simp [h]

/-- Where every condition lists the rules of the scopes before, a scope makes its rule active under
the conditions that it covers. -/
theorem activate_settles {scopes : List Scope} {t : ConditionTable}
    (ht : ∀ name c, t.find? name = some c → c.Lists scopes name) (scope : Scope) :
    Settles (scope.names.find? fun name => !t.contains name)
      (fun u => ∀ name, u.find? name = (t.find? name).map fun c =>
        if scope.Covers name c.inclusive then c.activate scopes.length else c)
      (activate scopes.length scope t) := by
  cases scope with
  | implicit => exact .inr ⟨rfl, _, rfl, fun name => Table.find?_map _ t name⟩
  | all => exact .inr ⟨rfl, _, rfl, fun name => by simp [Table.find?_map, Scope.Covers]⟩
  | conditions names =>
    obtain herror | ⟨hnone, u, hu, hfind⟩ := activateNamed_settles scopes.length names t
    · exact .inl herror
    refine .inr ⟨hnone, u, hu, fun name => (hfind name).trans ?_⟩
    rcases hc : t.find? name with _ | c
    · rfl
    · rw [Option.map_some, Option.map_some, (ht name c hc).activateOnce_eq]
      rfl

/-- Whether there is a condition of the name. -/
def known (declared : Table Bool) (name : String) : Bool :=
  name == initial || declared.contains name

/-- The table has the declared conditions and the initial one, as they are declared, and each lists
the rules whose scopes cover it. -/
structure Resolved (scopes : List Scope) (declared : Table Bool) (t : ConditionTable) : Prop where
  contains_eq : ∀ name, t.contains name = known declared name
  inclusive_iff : ∀ name c, t.find? name = some c →
    (c.inclusive = true ↔ name = initial ∨ declared.find? name ≠ some true)
  lists : ∀ name c, t.find? name = some c → c.Lists scopes name

theorem resolved_declare (declared : Table Bool) : Resolved [] declared (declare declared) := by
  have hfind (name : String) : (declare declared).find? name =
      if name = initial then some { inclusive := true }
      else (declared.find? name).map fun exclusive => { inclusive := !exclusive } := by
    rw [declare, Table.find?_insert, Table.find?_map]
  refine ⟨fun name => ?_, fun name c hc => ?_, fun name c hc => ?_⟩
  · rw [Table.contains, hfind, known, Table.contains]
    split_ifs with h <;> simp [h]
  · rw [hfind] at hc
    split_ifs at hc with h
    · simp [← Option.some.inj hc, h]
    · obtain ⟨exclusive, hexclusive, rfl⟩ := Option.map_eq_some_iff.1 hc
      simp [h, hexclusive]
  · have hrules : c.rules = [] := by
      rw [hfind] at hc
      split_ifs at hc
      · rw [← Option.some.inj hc]
      · obtain ⟨exclusive, -, rfl⟩ := Option.map_eq_some_iff.1 hc
        rfl
    exact ⟨by simp [hrules], by simp [hrules]⟩

namespace Resolved

variable {scopes : List Scope} {declared : Table Bool} {t u : ConditionTable}

theorem append (h : Resolved scopes declared t) {scope : Scope}
    (hu : ∀ name, u.find? name = (t.find? name).map fun c =>
      if scope.Covers name c.inclusive then c.activate scopes.length else c) :
    Resolved (scopes ++ [scope]) declared u where
  contains_eq name := by
    rw [← h.contains_eq, Table.contains, hu, Option.isSome_map, Table.contains]
  inclusive_iff name d hd := by
    rw [hu] at hd
    obtain ⟨c, hc, rfl⟩ := Option.map_eq_some_iff.1 hd
    rw [← h.inclusive_iff name c hc]
    split_ifs <;> rfl
  lists name d hd := by
    rw [hu] at hd
    obtain ⟨c, hc, rfl⟩ := Option.map_eq_some_iff.1 hd
    exact (h.lists name c hc).append scope

/-- The declarations and the scopes determine the table. -/
theorem unique (ht : Resolved scopes declared t) (hu : Resolved scopes declared u) : t = u := by
  refine Table.ext_find? fun name => ?_
  have hcontains := (ht.contains_eq name).trans (hu.contains_eq name).symm
  rw [Table.contains, Table.contains] at hcontains
  rcases hc : t.find? name with _ | c <;> rcases hd : u.find? name with _ | d
  · rfl
  · simp [hc, hd] at hcontains
  · simp [hc, hd] at hcontains
  have hinclusive : c.inclusive = d.inclusive := by
    rw [Bool.eq_iff_iff, ht.inclusive_iff name c hc, hu.inclusive_iff name d hd]
  have hrules : c.rules = d.rules := by
    refine List.Pairwise.eq_of_mem_iff (ht.lists name c hc).increasing
      (hu.lists name d hd).increasing fun rule => ?_
    rw [(ht.lists name c hc).mem_iff, (hu.lists name d hd).mem_iff, hinclusive]
  cases c
  cases d
  simp_all

end Resolved

theorem activateAll_settles {declared : Table Bool} :
    ∀ (later : List Scope) {scopes : List Scope} {t : ConditionTable}, Resolved scopes declared t →
      Settles ((later.flatMap Scope.names).find? fun name => !known declared name)
        (Resolved (scopes ++ later) declared) (activateAll scopes.length later t)
  | [], scopes, t, h => .inr ⟨rfl, t, rfl, by rwa [List.append_nil]⟩
  | scope :: later, scopes, t, h => by
    have hstep := activate_settles h.lists scope
    simp only [h.contains_eq] at hstep
    rw [activateAll, List.flatMap_cons, List.find?_append]
    obtain ⟨name, hname, herror⟩ | ⟨hnone, u, hu, hfind⟩ := hstep
    · exact .inl ⟨name, by rw [hname, Option.some_or], by rw [herror]⟩
    · have hrest := activateAll_settles later (h.append hfind)
      rw [List.length_append, List.append_assoc] at hrest
      rw [hnone, Option.none_or, hu]
      exact hrest

theorem build_settles (scopes : List Scope) (declared : Table Bool) :
    Settles ((scopes.flatMap Scope.names).find? fun name => !known declared name)
      (Resolved scopes declared) (build scopes declared) :=
  activateAll_settles scopes (resolved_declare declared)

theorem resolved_of_build {scopes : List Scope} {declared : Table Bool} {t : ConditionTable}
    (h : build scopes declared = .ok t) : Resolved scopes declared t := by
  obtain ⟨name, -, herror⟩ | ⟨-, u, hu, hresolved⟩ := build_settles scopes declared
  · rw [h] at herror
    cases herror
  · rw [h] at hu
    exact Except.ok.inj hu ▸ hresolved

/-- Building the table fails exactly where a scope names an unknown condition, with the first such
name in the order of the rules and of their names. Otherwise it gives the only table that has the
declared conditions and the initial one, each inclusive unless it is declared exclusive, where the
initial one is inclusive in any case, and each with the rules in increasing order whose scopes cover
it. -/
theorem build_eq_iff (scopes : List Scope) (declared : Table Bool) :
    (∀ e, build scopes declared = .error e ↔ ∃ name, e = .unknownCondition name ∧
      (scopes.flatMap Scope.names).find? (fun name => !known declared name) = some name) ∧
    ∀ t, build scopes declared = .ok t ↔
      (∀ name ∈ scopes.flatMap Scope.names, known declared name = true) ∧
        Resolved scopes declared t := by
  have hnone : (scopes.flatMap Scope.names).find? (fun name => !known declared name) = none ↔
      ∀ name ∈ scopes.flatMap Scope.names, known declared name = true := by
    simp only [List.find?_eq_none, Bool.not_eq_true, Bool.not_eq_false']
  obtain ⟨name, hname, hbuild⟩ | ⟨hall, u, hbuild, hu⟩ := build_settles scopes declared
  · have hnot : ¬∀ name ∈ scopes.flatMap Scope.names, known declared name = true := by
      rw [← hnone, hname]
      simp
    rw [hbuild, hname]
    refine ⟨fun e => by simp [eq_comm], fun t => ?_⟩
    simp only [reduceCtorEq, false_iff, not_and]
    exact fun h => absurd h hnot
  · rw [hbuild, hall]
    refine ⟨fun e => by simp, fun t => ?_⟩
    rw [Except.ok.injEq]
    constructor
    · rintro rfl
      exact ⟨hnone.1 hall, hu⟩
    · exact fun h => hu.unique h.2

/-- The first scope names a condition twice, and the initial one although it is declared as
exclusive. -/
example : (build [.conditions ["STR", initial, "STR"], .implicit, .all]
    (.ofList [("STR", true), (initial, true)])).toOption.map Table.entries =
      some [(initial, { rules := [0, 1, 2], inclusive := true }),
        ("STR", { rules := [0, 2], inclusive := false })] := by
  decide

end ConditionTable
end LexGen
