import LexGen.CharSet.Basic

/-!
# Expressions

An expression is what a pattern means once its flags are worked in. The functions that build one
simplify it: neighbouring characters become one literal, an alternation of characters becomes a set,
and what all branches of an alternation start with stands in front of it once.
-/

namespace LexGen.Regex

/-- Conditions on a place between two characters. -/
inductive Look
  | textStart
  | textEnd
  | lineStart
  | lineEnd
  | lineStartCrlf
  | lineEndCrlf
  | wordBoundary (ascii : Bool)
  | notWordBoundary (ascii : Bool)
  | wordStart (ascii : Bool)
  | wordEnd (ascii : Bool)
  | wordStartHalf (ascii : Bool)
  | wordEndHalf (ascii : Bool)
deriving DecidableEq, Repr

inductive Expr
  | empty
  | literal (cs : List Char)
  | set (s : CharSet)
  | look (l : Look)
  | repetition (min : Nat) (max : Option Nat) (greedy : Bool) (e : Expr)
  | capture (index : Nat) (e : Expr)
  | concat (es : List Expr)
  | alternation (es : List Expr)
deriving BEq, Inhabited

namespace Expr

mutual

/-- The number of nodes. -/
def size : Expr → Nat
  | empty | literal _ | set _ | look _ => 1
  | repetition _ _ _ e | capture _ e => e.size + 1
  | concat es | alternation es => sizeAll es + 1

def sizeAll : List Expr → Nat
  | [] => 0
  | e :: es => e.size + sizeAll es

end

mutual

/-- Whether the expression can match and all its matches are empty. -/
def isWidthless : Expr → Bool
  | empty | look _ => true
  | literal _ | set _ => false
  | repetition _ max _ e => max.isSome && e.isWidthless
  | capture _ e => e.isWidthless
  | concat es | alternation es => areWidthless es

def areWidthless : List Expr → Bool
  | [] => true
  | e :: es => e.isWidthless && areWidthless es

end

mutual

/-- A lower bound for the length of the matches. There is none if a part of the expression, or a
branch of it, can never match. -/
def minLength? : Expr → Option Nat
  | empty | look _ => some 0
  | literal cs => some cs.length
  | set s => if s.isEmpty then none else some 1
  | repetition min _ _ e => (minLength? e).map (· * min)
  | capture _ e => minLength? e
  | concat es => sumMinLength? es
  | alternation es => leastMinLength? es

def sumMinLength? : List Expr → Option Nat
  | [] => some 0
  | e :: es =>
    match minLength? e, sumMinLength? es with
    | some m, some n => some (m + n)
    | _, _ => none

def leastMinLength? : List Expr → Option Nat
  | [] => none
  | [e] => minLength? e
  | e :: es =>
    match minLength? e, leastMinLength? es with
    | some m, some n => some (min m n)
    | _, _ => none

end

/-- Whether the expression can match without taking a character. -/
def matchesEmpty (e : Expr) : Bool := e.minLength? == some 0

def char (c : Char) : Expr := literal [c]

def ofSet (s : CharSet) : Expr :=
  match s.single? with
  | some c => char c
  | none => set s

/-- Repetition. What matches the empty text only need not be repeated. -/
def ofRepetition (least : Nat) (most : Option Nat) (greedy : Bool) (e : Expr) : Expr :=
  let (least, most) :=
    if e.isWidthless then (min least 1, some ((most.map (min · 1)).getD 1)) else (least, most)
  if least = 0 ∧ most = some 0 then empty
  else if least = 1 ∧ most = some 1 then e
  else repetition least most greedy e

/-- The parts of an expression in a concatenation. -/
def factors : Expr → List Expr
  | concat es => es
  | empty => []
  | e => [e]

/-- Joins neighbouring literals. -/
def joinLiterals : List Expr → List Expr
  | [] => []
  | literal cs :: es =>
    match joinLiterals es with
    | literal ds :: rest => literal (cs ++ ds) :: rest
    | rest => literal cs :: rest
  | e :: es => e :: joinLiterals es

def ofConcat (es : List Expr) : Expr :=
  match joinLiterals (es.flatMap factors) with
  | [] => empty
  | [e] => e
  | es => concat es

/-- The parts of an expression in an alternation. -/
def branches : Expr → List Expr
  | alternation es => es
  | e => [e]

/-- The characters of an expression that matches one character, or that never matches. -/
def charSet? : Expr → Option CharSet
  | set s => some s
  | literal [c] => some (.singleton c)
  | _ => none

/-- The union of sets, if all expressions are such. -/
def charSets? : List Expr → Option CharSet
  | [] => some .empty
  | e :: es =>
    match e.charSet?, charSets? es with
    | some s, some t => some (s.union t)
    | _, _ => none

/-- The elements that two lists have in common from the start. -/
def commonStart : List Expr → List Expr → List Expr
  | x :: xs, y :: ys => if x == y then x :: commonStart xs ys else []
  | _, _ => []

/-- What all branches start with, if each of them is a concatenation. -/
def sharedStart : List Expr → List Expr
  | [] => []
  | [concat xs] => xs
  | concat xs :: es => commonStart xs (sharedStart es)
  | _ => []

/-- What follows the first `n` parts of a branch. -/
def dropFactors (n : Nat) (e : Expr) : Expr := ofConcat (e.factors.drop n)

/-- Alternation. The branches without what they share are smaller, so `fuel` is at most their
size. -/
def alternationOf : Nat → List Expr → Expr
  | 0, es => alternation es
  | fuel + 1, es =>
    match es.flatMap branches with
    | [] => set .empty
    | [e] => e
    | es =>
      match charSets? es with
      | some s => ofSet s
      | none =>
        match sharedStart es with
        | [] => alternation es
        | start =>
          ofConcat (start ++ [alternationOf fuel (es.map (dropFactors start.length))])

def ofAlternation (es : List Expr) : Expr := alternationOf (sizeAll es + 1) es

end Expr

end LexGen.Regex
