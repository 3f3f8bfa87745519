import LexGen.Engine.Basic
import LexGen.Text.Escaped

/-!
# Graphs

The start conditions and rules of an engine as a graph. A condition leads to its rules, in their
order, and a rule leads back to the conditions that its action begins.
-/

namespace LexGen

/-- The attributes of a node or of an edge. -/
abbrev Attributes := List (String × String)

inductive GraphItem
  | node (id : Nat) (attributes : Attributes)
  | edge (source target : Nat) (attributes : Attributes)
deriving DecidableEq, Repr

structure Graph where
  label : String
  items : List GraphItem
deriving DecidableEq, Repr

namespace Graph

/-- A text between quotes, as it is. -/
def quoted (s : String) : String := "\"" ++ s ++ "\""

def nodeName (id : Nat) : String := "node_" ++ Nat.repr id

def attributesText (as : Attributes) : String :=
  " [" ++ String.intercalate ", " (as.map fun a => a.1 ++ "=" ++ a.2) ++ "]"

def itemText : GraphItem → String
  | .node id as => nodeName id ++ attributesText as
  | .edge source target as => nodeName source ++ " -> " ++ nodeName target ++ attributesText as

/-- The text of a graph, one statement a line. -/
def text (g : Graph) : String :=
  let statements := ["label=" ++ quoted g.label, "rankdir=LR"] ++ g.items.map itemText
  "digraph \x7b\n" ++ String.join (statements.map fun s => "  " ++ s ++ ";\n") ++ "\x7d\n"

end Graph

namespace Engine

/-- The nodes of the conditions come first, in the order of the table. -/
def conditionNodes (e : Engine) : List GraphItem :=
  e.conditions.entries.zipIdx.map fun c =>
    let shape : Attributes := [("label", Graph.quoted c.1.1), ("shape", "circle")]
    .node c.2 (if c.1.2.inclusive then shape ++ [("color", "blue"), ("penwidth", "3")] else shape)

def ruleLabel (rule : Nat) (pattern : String) : String :=
  Nat.repr rule ++ ": " ++ String.ofList (Text.label pattern.toList)

/-- The nodes of the rules follow. -/
def ruleNodes (e : Engine) : List GraphItem :=
  e.rules.zipIdx.map fun r =>
    .node (e.conditions.size + r.2) [("label", Graph.quoted (ruleLabel r.2 r.1.pattern))]

/-- The edges from a condition to its rules, if it has no rule that is not there. -/
def conditionEdges? (e : Engine) (node : Nat) (c : Condition) : Option (List GraphItem) :=
  if c.rules.all (· < e.rules.length) then
    some (c.rules.zipIdx.map fun r =>
      .edge node (e.conditions.size + r.1) [("label", Graph.quoted (Nat.repr r.2))])
  else none

/-- The edges from all conditions, numbered from `node` on. -/
def allConditionEdges? (e : Engine) : Nat → List Condition → Option (List GraphItem)
  | _, [] => some []
  | node, c :: cs =>
    match e.conditionEdges? node c, allConditionEdges? e (node + 1) cs with
    | some first, some rest => some (first ++ rest)
    | _, _ => none

/-- The nodes of the conditions that an action begins. -/
def beginTargets (e : Engine) (a : Action) : List Nat :=
  a.commands.filterMap fun c =>
    match c with
    | .begin target => e.conditions.keys.idxOf? target
    | _ => none

/-- The edges from a rule to the conditions that its action begins, if the rule is there or there
are none. -/
def beginEdges? (e : Engine) (rule : Nat) (a : Action) : Option (List GraphItem) :=
  if rule < e.rules.length || (e.beginTargets a).isEmpty then
    some ((e.beginTargets a).map fun node =>
      .edge (e.conditions.size + rule) node [("color", "red"), ("label", "\"begin\"")])
  else none

/-- The edges from all rules, numbered from `rule` on. -/
def allBeginEdges? (e : Engine) : Nat → List Action → Option (List GraphItem)
  | _, [] => some []
  | rule, a :: as =>
    match e.beginEdges? rule a, allBeginEdges? e (rule + 1) as with
    | some first, some rest => some (first ++ rest)
    | _, _ => none

/-- The graph of an engine. There is none if an edge begins or ends at a rule that is not there. -/
def graph? (e : Engine) (label : String) : Option Graph :=
  match e.allConditionEdges? 0 (e.conditions.entries.map (·.2)), e.allBeginEdges? 0 e.actions with
  | some activeEdges, some beginEdges =>
    some ⟨label, e.conditionNodes ++ e.ruleNodes ++ activeEdges ++ beginEdges⟩
  | _, _ => none

end Engine
end LexGen
