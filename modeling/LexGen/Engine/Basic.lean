import LexGen.Command.Basic
import LexGen.Condition

/-!
# Engines

An engine holds what scanning needs: a matcher and an action for each rule, and the table of the
start conditions. It keeps the text of each pattern, from which the matcher can be built again.
-/

namespace LexGen

/-- A rule that is ready for matching. -/
structure CompiledRule where
  /-- The text of the pattern, without references to fragments. -/
  pattern : String
  matcher : Regex
deriving DecidableEq

namespace CompiledRule

/-- The pattern that matches at the beginning of a text only. -/
def anchor (pattern : String) : String := "^(?:" ++ pattern ++ ")"

/-- The rule of a pattern that is anchored first. -/
def ofPattern (caseless : Bool) (pattern : String) : Except Error CompiledRule :=
  match Regex.ofString? { caseless } (anchor pattern) with
  | some matcher => .ok ⟨pattern, matcher⟩
  | none => .error .patternBuild

/-- The rule of a matcher that is taken as it is. Where case does not matter otherwise, the text of
the pattern says that it matters here. -/
def ofRegex (caseless : Bool) (r : Regex) : CompiledRule :=
  ⟨if caseless then "(?-i:" ++ r.source ++ ")" else r.source, r⟩

end CompiledRule

structure Engine where
  rules : List CompiledRule
  conditions : ConditionTable
  actions : List Action
  flags : ScanFlags
  wrapping : Wrapping := .named
  moduleName : String := Options.defaultModuleName
  epilogue : String := ""
deriving DecidableEq

namespace Engine

/-- The first condition that an action begins and that is not in the table. -/
def unknownTarget? (conditions : ConditionTable) (actions : List Action) : Option String :=
  (actions.flatMap Action.commands).findSome? fun c =>
    match c with
    | .begin target => if conditions.contains target then none else some target
    | _ => none

/-- Puts an engine together. Its actions begin known conditions only. -/
def assemble (rules : List CompiledRule) (conditions : ConditionTable) (actions : List Action)
    (flags : ScanFlags) : Except Error Engine :=
  match unknownTarget? conditions actions with
  | some name => .error (.unknownCondition name)
  | none => .ok { rules, conditions, actions, flags }

/-- Sets how the engine is written out. -/
def withModule (e : Engine) (wrapping : Wrapping) (name epilogue : String) : Engine :=
  { e with wrapping, moduleName := name, epilogue }

/-- The rules that are active under a condition. -/
def activeRules (e : Engine) (condition : String) : Except Error (List Nat) :=
  match e.conditions.find? condition with
  | some c => .ok c.rules
  | none => .error (.unknownCondition condition)

/-- The length in characters of the match of a rule at the start of a text. -/
def matchLength? (e : Engine) (rule : Nat) (text : List Char) : Option Nat :=
  (e.rules[rule]?).bind (·.matcher.matchLength? text)

end Engine
end LexGen
