/-!
# Pattern trees

A pattern as it is written: what each construct says before flags give it a meaning. Trees nest at
most `nestLimit` deep, where characters and other leaves do not count.
-/

namespace LexGen.Regex

/-- A character of a pattern. One that is given by two hexadecimal digits also stands for a byte. -/
structure Literal where
  char : Char
  isByte : Bool := false
deriving DecidableEq, Repr

/-- Conditions on a place in the text, as they are written. -/
inductive Anchor
  | lineStart
  | lineEnd
  | textStart
  | textEnd
  | wordBoundary
  | notWordBoundary
  | wordStart
  | wordEnd
  | wordStartHalf
  | wordEndHalf
deriving DecidableEq, Repr

/-- The classes that a letter after a backslash names. -/
inductive Shorthand
  | digit
  | space
  | word
deriving DecidableEq, Repr

/-- The classes that a name between colons stands for. All of them hold ASCII characters only. -/
inductive AsciiClass
  | alnum | alpha | ascii | blank | cntrl | digit | graph | lower | print | punct | space | upper
  | word | xdigit
deriving DecidableEq, Repr

/-- A property of characters, or of a value of a property, or the lack of it. -/
structure Property where
  negated : Bool
  name : List Char
  value : Option (List Char)
deriving DecidableEq, Repr

inductive ClassOp
  | inter
  | diff
  | symmDiff
deriving DecidableEq, Repr

/-- What stands between the brackets of a character class. -/
inductive ClassTree
  | chars (first last : Literal)
  | ascii (kind : AsciiClass) (negated : Bool)
  | shorthand (kind : Shorthand) (negated : Bool)
  | property (p : Property)
  | bracketed (negated : Bool) (inner : ClassTree)
  | union (items : List ClassTree)
  | op (kind : ClassOp) (left right : ClassTree)

/-- The flags that a group or an inline group turns on and off. -/
structure FlagChange where
  caseless : Option Bool := none
  multiLine : Option Bool := none
  dotAll : Option Bool := none
  swapGreed : Option Bool := none
  unicode : Option Bool := none
  crlf : Option Bool := none
  verbose : Option Bool := none
deriving DecidableEq, Repr

inductive Tree
  | flags (change : FlagChange)
  | literal (l : Literal)
  | dot
  | anchor (a : Anchor)
  | shorthand (kind : Shorthand) (negated : Bool)
  | property (p : Property)
  | bracketed (negated : Bool) (inner : ClassTree)
  | repetition (min : Nat) (max : Option Nat) (greedy : Bool) (t : Tree)
  | capture (index : Nat) (t : Tree)
  | group (change : FlagChange) (t : Tree)
  | concat (ts : List Tree)
  | alternation (ts : List Tree)

/-- The deepest nesting that a pattern may have. -/
def nestLimit : Nat := 250

namespace ClassTree

/-- The class of several items; a single item needs no union. -/
def ofItems : List ClassTree → ClassTree
  | [t] => t
  | ts => .union ts

mutual

def depth : ClassTree → Nat
  | chars _ _ | ascii _ _ | shorthand _ _ | property _ => 0
  | bracketed _ t => t.depth + 1
  | union [] => 0
  | union (t :: ts) => max t.depth (depthAll ts) + 1
  | op _ l r => max l.depth r.depth + 1

def depthAll : List ClassTree → Nat
  | [] => 0
  | t :: ts => max t.depth (depthAll ts)

end

end ClassTree

namespace Tree

def ofConcat : List Tree → Tree
  | [t] => t
  | ts => .concat ts

def ofAlternation : List Tree → Tree
  | [t] => t
  | ts => .alternation ts

mutual

def depth : Tree → Nat
  | flags _ | literal _ | dot | anchor _ | shorthand _ _ | property _ => 0
  | bracketed _ c => c.depth + 1
  | repetition _ _ _ t | capture _ t | group _ t => t.depth + 1
  | concat [] => 0
  | concat (t :: ts) => max t.depth (depthAll ts) + 1
  | alternation ts => depthAll ts + 1

def depthAll : List Tree → Nat
  | [] => 0
  | t :: ts => max t.depth (depthAll ts)

end

end Tree

end LexGen.Regex
