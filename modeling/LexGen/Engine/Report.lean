import LexGen.Engine.Data

/-!
# Notes on compiling

What compiling and loading note on their way, as far as they get.
-/

namespace LexGen

def Fragments.expandNotes (t : Fragments) : List Note :=
  match t.roundCount? with
  | some n => [⟨.trace, "Macro expansion finished after " ++ Nat.repr n ++ " passes"⟩]
  | none => []

def Condition.note (name : String) (c : Condition) : Note where
  level := .debug
  text := "Start condition '" ++ name ++ "' (" ++ (if c.inclusive then "inclusive" else "exclusive") ++
    "): rules [" ++ String.intercalate ", " (c.rules.map Nat.repr) ++ "]"

/-- The note on a rule whose pattern can match the empty text. -/
def CompiledRule.emptyNotes (caseless : Bool) (rule : Nat) (pattern : String) : List Note :=
  match Regex.Expr.read? { caseless } pattern.toList with
  | some e =>
    if e.matchesEmpty then
      [⟨.debug, "Rule #" ++ Nat.repr rule ++ " '" ++ pattern ++ "' can match the empty string"⟩]
    else []
  | none => []

/-- The notes on the patterns from number `n` on, up to the first that has an error. -/
def CompiledRule.compileNotes (caseless : Bool) (fragments : Fragments) :
    Nat → List Pattern → List Note
  | _, [] => []
  | n, p :: ps =>
    let notes := match p with
      | .text source => emptyNotes caseless n (fragments.expandPattern source)
      | .regex _ => []
    notes ++
      match compile caseless fragments p with
      | .ok _ => compileNotes caseless fragments (n + 1) ps
      | .error _ => []

/-- The note on an engine that has been put together. -/
def Engine.note (e : Engine) : Note where
  level := .debug
  text := "Engine with " ++ Nat.repr e.rules.length ++ " rules in " ++
    Nat.repr e.conditions.size ++ " start conditions"

def Engine.resultNotes : Except Error Engine → List Note
  | .ok e => [e.note]
  | .error _ => []

def RuleSet.compileNotes (s : RuleSet) (tokens : Option TokenTable) : List Note :=
  s.fragments.expandNotes ++
    match s.fragments.expand with
    | .error _ => []
    | .ok fragments =>
      match ConditionTable.build (s.allRules.map (·.scope)) s.conditions with
      | .error _ => []
      | .ok conditions =>
        (conditions.entries.map fun e => e.2.note e.1) ++
          CompiledRule.compileNotes s.options.flags.caseless fragments 0
            (s.allRules.map (·.pattern)) ++
          Engine.resultNotes (s.compile tokens)

def EngineData.loadNotes (d : EngineData) : List Note := Engine.resultNotes d.load

end LexGen
