import LexGen.Rule
import LexGen.ScanState.Basic

/-!
# Start conditions

The table of the start conditions tells which rules are active under each of them. A rule is active
where its scope says so; one without a scope is active under the inclusive conditions.
-/

namespace LexGen

structure Condition where
  /-- The active rules in their order. -/
  rules : List Nat := []
  inclusive : Bool
deriving DecidableEq, Repr

namespace Condition

/-- Makes a rule active. -/
def activate (rule : Nat) (c : Condition) : Condition := { c with rules := c.rules ++ [rule] }

end Condition

abbrev ConditionTable := Table Condition

namespace ConditionTable

/-- The declared conditions without rules. The initial condition is always there and inclusive. -/
def declare (exclusive : Table Bool) : ConditionTable :=
  (exclusive.map fun _ e => { inclusive := !e }).insert initial { inclusive := true }

/-- Makes a rule active under the named conditions. Naming one twice does no more. -/
def activateNamed (rule : Nat) : List String → ConditionTable → Except Error ConditionTable
  | [], t => .ok t
  | name :: names, t =>
    match t.find? name with
    | none => .error (.unknownCondition name)
    | some c =>
      activateNamed rule names
        (if c.rules.getLast? = some rule then t else t.insert name (c.activate rule))

/-- Makes a rule active under the conditions of its scope. -/
def activate (rule : Nat) (scope : Scope) (t : ConditionTable) : Except Error ConditionTable :=
  match scope with
  | .implicit => .ok (t.map fun _ c => if c.inclusive then c.activate rule else c)
  | .all => .ok (t.map fun _ c => c.activate rule)
  | .conditions names => activateNamed rule names t

/-- Goes through the scopes of the rules from number `n` on. -/
def activateAll : Nat → List Scope → ConditionTable → Except Error ConditionTable
  | _, [], t => .ok t
  | n, scope :: scopes, t =>
    match activate n scope t with
    | .ok t => activateAll (n + 1) scopes t
    | .error e => .error e

/-- The table for rules of the given scopes. -/
def build (scopes : List Scope) (exclusive : Table Bool) : Except Error ConditionTable :=
  activateAll 0 scopes (declare exclusive)

end ConditionTable
end LexGen
