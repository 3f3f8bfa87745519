import LexGen.Fragment
import LexGen.Options
import LexGen.Regex.Match

/-!
# Rules

What is compiled: rules in their order, and the fragments, start conditions and options that they
are read with.
-/

namespace LexGen

/-- The start conditions under which a rule is active. -/
inductive Scope
  /-- The inclusive ones. -/
  | implicit
  | all
  | conditions (names : List String)
deriving DecidableEq, Repr, Inhabited

/-- No names mean no scope of its own, and an asterisk in front means all conditions. -/
def Scope.ofNames : List String → Scope
  | [] => .implicit
  | name :: names => if name = "*" then .all else .conditions (name :: names)

inductive Pattern
  /-- A text that may refer to fragments. -/
  | text (source : String)
  /-- A matcher that is taken as it is. -/
  | regex (r : Regex)
deriving DecidableEq

structure Rule where
  scope : Scope := .implicit
  pattern : Pattern
  action : String
deriving DecidableEq

structure RuleSet where
  rules : List Rule := []
  fragments : Fragments := .empty
  /-- The declared start conditions; the value says whether the condition is exclusive. -/
  conditions : Table Bool := .empty
  options : Options := {}
  /-- A text that is written after the engine. -/
  epilogue : String := ""

namespace RuleSet

/-- What is done with text that no other rule matches, where the options ask for it. -/
def catchAll : Rule := { pattern := .text ".", action := "ECHO" }

/-- The rules with the one that is added by the options. -/
def allRules (s : RuleSet) : List Rule :=
  if s.options.flags.flex then s.rules ++ [catchAll] else s.rules

end RuleSet
end LexGen
