import LexGen.Regex.Expr

/-!
# Automata

An expression is turned into a list of states. The states of a part stand together, start with the
one where the part begins, and lead to a given state where it ends. A state that splits names its
successors in the order in which they are tried, which makes one match preferred to another.
-/

namespace LexGen.Regex

inductive State
  | char (s : CharSet) (next : Nat)
  | look (l : Look) (next : Nat)
  | split (targets : List Nat)
  | accept
deriving DecidableEq, Repr

/-- Either way round, as `greedy` says. -/
def State.choice (greedy : Bool) (enter leave : Nat) : State :=
  .split (if greedy then [enter, leave] else [leave, enter])

namespace Expr

/-- The states of `n` copies of a part that has `width` states. -/
def copies (part : Nat → Nat → List State) (width : Nat) : Nat → Nat → Nat → List State
  | 0, _, _ => []
  | 1, start, next => part start next
  | n + 1, start, next =>
    part start (start + width) ++ copies part width n (start + width) next

/-- The states of at most `n` copies: in front of each copy the rest can be left out. -/
def options (part : Nat → Nat → List State) (width : Nat) (greedy : Bool) :
    Nat → Nat → Nat → List State
  | 0, _, _ => []
  | n + 1, start, next =>
    let following := if n = 0 then next else start + 1 + width
    .choice greedy (start + 1) next ::
      (part (start + 1) following ++ options part width greedy n following next)

/-- The number of states of a repetition of a part that has `width` states. -/
def repetitionWidth (width min : Nat) : Option Nat → Nat
  | none => if min = 0 then width + 2 else min * width + 1
  | some max => if max = 0 then 1 else min * width + (max - min) * (width + 1)

/-- The states of a repetition. A part that may be repeated without bound is followed by a choice
between another round and the end. -/
def repetitionStates (part : Nat → Nat → List State) (width min : Nat) (max : Option Nat)
    (greedy : Bool) (start next : Nat) : List State :=
  match max with
  | none =>
    if min = 0 then
      let again := start + 1 + width
      .choice greedy (start + 1) next ::
        (part (start + 1) again ++ [.choice greedy (start + 1) next])
    else
      let again := start + min * width
      copies part width min start again ++ [.choice greedy (again - width) next]
  | some max =>
    if max = 0 then [.split [next]]
    else if max ≤ min then copies part width min start next
    else
      let optional := start + min * width
      copies part width min start optional ++ options part width greedy (max - min) optional next

/-- One state for each character. -/
def literalStates : List Char → Nat → Nat → List State
  | [], _, next => [.split [next]]
  | [c], _, next => [.char (.singleton c) next]
  | c :: cs, start, next => .char (.singleton c) (start + 1) :: literalStates cs (start + 1) next

mutual

/-- The number of states of an expression. -/
def width : Expr → Nat
  | empty | set _ | look _ => 1
  | literal cs => max 1 cs.length
  | repetition min max _ e => repetitionWidth e.width min max
  | capture _ e => e.width
  | concat es => max 1 (totalWidth es)
  | alternation es => totalWidth es + 1

def totalWidth : List Expr → Nat
  | [] => 0
  | e :: es => e.width + totalWidth es

end

/-- Where the branches that follow each other from `start` on begin. -/
def branchStarts (start : Nat) : List Expr → List Nat
  | [] => []
  | e :: es => start :: branchStarts (start + e.width) es

mutual

/-- The states of an expression that begins at `start` and ends at `next`. -/
def states : Expr → Nat → Nat → List State
  | empty, _, next => [.split [next]]
  | literal cs, start, next => literalStates cs start next
  | set s, _, next => [.char s next]
  | look l, _, next => [.look l next]
  | repetition min max greedy e, start, next =>
    repetitionStates e.states e.width min max greedy start next
  | capture _ e, start, next => e.states start next
  | concat es, start, next =>
    if es.isEmpty then [.split [next]] else sequenceStates es start next
  | alternation es, start, next =>
    .split (branchStarts (start + 1) es) :: branchStates es (start + 1) next

def sequenceStates : List Expr → Nat → Nat → List State
  | [], _, _ => []
  | e :: es, start, next =>
    e.states start (if es.isEmpty then next else start + e.width) ++
      sequenceStates es (start + e.width) next

def branchStates : List Expr → Nat → Nat → List State
  | [], _, _ => []
  | e :: es, start, next => e.states start next ++ branchStates es (start + e.width) next

end

end Expr

/-- An automaton. It begins in its first state. -/
structure Automaton where
  states : Array State
deriving DecidableEq, Repr

/-- The largest number of states that an automaton may have. -/
def Automaton.limit : Nat := 300000

def Automaton.ofExpr (e : Expr) : Automaton :=
  ⟨(e.states 0 e.width ++ [State.accept]).toArray⟩

end LexGen.Regex
