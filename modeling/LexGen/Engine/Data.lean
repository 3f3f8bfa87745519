import LexGen.Engine.Compile

/-!
# Engine data

The tables of an engine as plain texts and numbers. An engine can be loaded from them again: patterns
are anchored and actions are read as in compiling, but the table of the start conditions is taken as
it is.
-/

namespace LexGen

structure EngineData where
  /-- The text of the pattern and of the action of each rule. -/
  rules : List (String × String)
  /-- The start conditions: their names, whether they are inclusive, and their rules. -/
  conditions : List (String × Bool × List Nat)
  flags : ScanFlags
deriving DecidableEq, Repr

namespace Engine

/-- The canonical texts of the actions. -/
def actionTexts (e : Engine) : List String := e.actions.map Action.text

def conditionRows (e : Engine) : List (String × Bool × List Nat) :=
  e.conditions.entries.map fun c => (c.1, c.2.inclusive, c.2.rules)

def data (e : Engine) : EngineData where
  rules := (e.rules.map (·.pattern)).zip e.actionTexts
  conditions := e.conditionRows
  flags := e.flags

end Engine

/-- Anchors and compiles patterns one after the other. -/
def CompiledRule.ofPatterns (caseless : Bool) : List String → Except Error (List CompiledRule)
  | [] => .ok []
  | p :: ps =>
    match ofPattern caseless p with
    | .error e => .error e
    | .ok r =>
      match ofPatterns caseless ps with
      | .error e => .error e
      | .ok rs => .ok (r :: rs)

namespace EngineData

/-- The table of the start conditions. A later row of the same name counts, and the initial
condition is there in any case. -/
def conditionTable (d : EngineData) : ConditionTable :=
  let t : ConditionTable :=
    .ofList (d.conditions.map fun row => (row.1, { rules := row.2.2, inclusive := row.2.1 }))
  if t.contains initial then t else t.insert initial { inclusive := true }

/-- Loads an engine. -/
def load (d : EngineData) : Except Error Engine := do
  let rules ← CompiledRule.ofPatterns d.flags.caseless (d.rules.map (·.1))
  let actions ← Action.readAll none 0 (d.rules.map (·.2))
  Engine.assemble rules d.conditionTable actions d.flags

end EngineData
end LexGen
