import LexGen.Command.Reader
import LexGen.Engine.Basic

/-!
# Compiling

A rule set is turned into an engine: fragments are expanded, the table of the start conditions is
built, patterns and actions are read. The first error in this order is the result.
-/

namespace LexGen

namespace CompiledRule

/-- The rule of a pattern. Its text has to be a pattern before and after it is anchored. -/
def ofText (caseless : Bool) (pattern : String) : Except Error CompiledRule :=
  match Regex.Expr.read? { caseless } pattern.toList with
  | none => .error .patternSyntax
  | some _ => ofPattern caseless pattern

def compile (caseless : Bool) (fragments : Fragments) : Pattern → Except Error CompiledRule
  | .text source => ofText caseless (fragments.expandPattern source)
  | .regex r => .ok (ofRegex caseless r)

/-- Compiles patterns one after the other. -/
def compileAll (caseless : Bool) (fragments : Fragments) :
    List Pattern → Except Error (List CompiledRule)
  | [] => .ok []
  | p :: ps =>
    match compile caseless fragments p with
    | .error e => .error e
    | .ok r =>
      match compileAll caseless fragments ps with
      | .error e => .error e
      | .ok rs => .ok (r :: rs)

end CompiledRule

/-- Reads the actions of the rules from number `n` on. -/
def Action.readAll (tokens : Option TokenTable) : Nat → List String → Except Error (List Action)
  | _, [] => .ok []
  | n, text :: texts =>
    match read n text tokens with
    | .error e => .error e
    | .ok a =>
      match readAll tokens (n + 1) texts with
      | .error e => .error e
      | .ok as => .ok (a :: as)

/-- Compiles a rule set. Token names in actions are replaced by what the table says. -/
def RuleSet.compile (s : RuleSet) (tokens : Option TokenTable) : Except Error Engine := do
  let flags := s.options.flags
  let fragments ← s.fragments.expand
  let conditions ← ConditionTable.build (s.allRules.map (·.scope)) s.conditions
  let rules ← CompiledRule.compileAll flags.caseless fragments (s.allRules.map (·.pattern))
  let actions ← Action.readAll tokens 0 (s.allRules.map (·.action))
  let engine ← Engine.assemble rules conditions actions flags
  return engine.withModule s.options.wrapping s.options.name s.epilogue

end LexGen
