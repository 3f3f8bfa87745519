import LexGen.CharSet.Case
import LexGen.CharSet.Property
import LexGen.Regex.Expr
import LexGen.Regex.Reader

/-!
# What patterns mean

Flags decide what a tree means. A change of flags lasts to the end of the group it stands in, also
over the bars between branches.

Without the `unicode` flag a pattern speaks of ASCII characters only. Sets may then hold bytes in
between, but a class that keeps one has no meaning.
-/

namespace LexGen.Regex

/-- The flags under which a part of a pattern is read. -/
structure Flags where
  caseless : Bool := false
  multiLine : Bool := false
  dotAll : Bool := false
  swapGreed : Bool := false
  unicode : Bool := true
  crlf : Bool := false
  verbose : Bool := false
deriving DecidableEq, Repr, Inhabited

def Flags.apply (f : Flags) (change : FlagChange) : Flags where
  caseless := change.caseless.getD f.caseless
  multiLine := change.multiLine.getD f.multiLine
  dotAll := change.dotAll.getD f.dotAll
  swapGreed := change.swapGreed.getD f.swapGreed
  unicode := change.unicode.getD f.unicode
  crlf := change.crlf.getD f.crlf
  verbose := change.verbose.getD f.verbose

/-! ## Sets -/

def AsciiClass.ranges : AsciiClass → List (Nat × Nat)
  | .alnum => [(0x30, 0x39), (0x41, 0x5A), (0x61, 0x7A)]
  | .alpha => [(0x41, 0x5A), (0x61, 0x7A)]
  | .ascii => [(0x00, 0x7F)]
  | .blank => [(0x09, 0x09), (0x20, 0x20)]
  | .cntrl => [(0x00, 0x1F), (0x7F, 0x7F)]
  | .digit => [(0x30, 0x39)]
  | .graph => [(0x21, 0x7E)]
  | .lower => [(0x61, 0x7A)]
  | .print => [(0x20, 0x7E)]
  | .punct => [(0x21, 0x2F), (0x3A, 0x40), (0x5B, 0x60), (0x7B, 0x7E)]
  | .space => [(0x09, 0x0D), (0x20, 0x20)]
  | .upper => [(0x41, 0x5A)]
  | .word => [(0x30, 0x39), (0x41, 0x5A), (0x5F, 0x5F), (0x61, 0x7A)]
  | .xdigit => [(0x30, 0x39), (0x41, 0x46), (0x61, 0x66)]

def Shorthand.asciiClass : Shorthand → AsciiClass
  | .digit => .digit
  | .space => .space
  | .word => .word

def Shorthand.charSet : Shorthand → CharSet
  | .digit => CharSet.decimalNumber
  | .space => CharSet.blank
  | .word => CharSet.word

/-- Closes a set under ASCII case only. -/
def closeAsciiCase (s : CharSet) : CharSet :=
  let upper := (s.inter ⟨AsciiClass.upper.ranges⟩).ranges
  let lower := (s.inter ⟨AsciiClass.lower.ranges⟩).ranges
  CharSet.unions [s, ⟨upper.map fun r => (r.1 + 32, r.2 + 32)⟩,
    ⟨lower.map fun r => (r.1 - 32, r.2 - 32)⟩]

namespace Flags

/-- Adds the other cases of the members if case does not matter. -/
def fold (f : Flags) (s : CharSet) : CharSet :=
  if f.caseless then if f.unicode then s.closeCase else closeAsciiCase s else s

def negate (f : Flags) (s : CharSet) : CharSet :=
  if f.unicode then s.complement else s.complement.inter (.range 0 0xFF)

/-- A class is folded before it is negated. -/
def finish (f : Flags) (negated : Bool) (s : CharSet) : Option CharSet :=
  let s := if negated then f.negate (f.fold s) else f.fold s
  if f.unicode || s.isAscii then some s else none

def shorthandSet? (f : Flags) (kind : Shorthand) (negated : Bool) : Option CharSet :=
  if f.unicode then some (if negated then kind.charSet.complement else kind.charSet)
  else if negated then none
  else some ⟨kind.asciiClass.ranges⟩

def propertySet? (f : Flags) (p : Property) : Option CharSet := do
  let s ← match p.value with
    | none => CharSet.named? p.name
    | some value => CharSet.valued? p.name value
  if f.unicode then f.finish p.negated s else none

/-- The code point of a character that ends a range. -/
def codePoint? (f : Flags) (l : Literal) : Option Nat :=
  if f.unicode || l.isByte || l.char.toNat < 0x80 then some l.char.toNat else none

end Flags

def ClassOp.apply : ClassOp → CharSet → CharSet → CharSet
  | .inter => CharSet.inter
  | .diff => CharSet.diff
  | .symmDiff => CharSet.symmDiff

mutual

/-- The set of a class. -/
def ClassTree.set? (f : Flags) : ClassTree → Option CharSet
  | .chars a b => do return .range (← f.codePoint? a) (← f.codePoint? b)
  | .ascii kind negated => f.finish negated ⟨kind.ranges⟩
  | .shorthand kind negated => f.shorthandSet? kind negated
  | .property p => f.propertySet? p
  | .bracketed negated t => do f.finish negated (← ClassTree.set? f t)
  | .union ts => ClassTree.unionSet? f ts
  | .op kind l r => do
    return kind.apply (f.fold (← ClassTree.set? f l)) (f.fold (← ClassTree.set? f r))

def ClassTree.unionSet? (f : Flags) : List ClassTree → Option CharSet
  | [] => some .empty
  | t :: ts => do return (← ClassTree.set? f t).union (← ClassTree.unionSet? f ts)

end

/-! ## Trees -/

def Flags.literalExpr? (f : Flags) (l : Literal) : Option Expr :=
  if !f.unicode && l.isByte && 0x80 ≤ l.char.toNat then none
  else some (.ofSet (f.fold (.singleton l.char)))

/-- The dot is any character, or any that ends no line. -/
def Flags.dotExpr? (f : Flags) : Option Expr :=
  if !f.unicode then none
  else if f.dotAll then some (.ofSet CharSet.empty.complement)
  else if f.crlf then some (.ofSet (CharSet.ofRanges [(0x0A, 0x0A), (0x0D, 0x0D)]).complement)
  else some (.ofSet (CharSet.singleton '\n').complement)

def Flags.anchorLook (f : Flags) : Anchor → Look
  | .lineStart =>
    if !f.multiLine then .textStart else if f.crlf then .lineStartCrlf else .lineStart
  | .lineEnd => if !f.multiLine then .textEnd else if f.crlf then .lineEndCrlf else .lineEnd
  | .textStart => .textStart
  | .textEnd => .textEnd
  | .wordBoundary => .wordBoundary !f.unicode
  | .notWordBoundary => .notWordBoundary !f.unicode
  | .wordStart => .wordStart !f.unicode
  | .wordEnd => .wordEnd !f.unicode
  | .wordStartHalf => .wordStartHalf !f.unicode
  | .wordEndHalf => .wordEndHalf !f.unicode

mutual

/-- The expression of a tree and the flags for what comes after it. -/
def Tree.expr? (f : Flags) : Tree → Option (Expr × Flags)
  | .flags change => some (.empty, f.apply change)
  | .literal l => do return (← f.literalExpr? l, f)
  | .dot => do return (← f.dotExpr?, f)
  | .anchor a => some (.look (f.anchorLook a), f)
  | .shorthand kind negated => do return (.ofSet (← f.shorthandSet? kind negated), f)
  | .property p => do return (.ofSet (← f.propertySet? p), f)
  | .bracketed negated t => do return (.ofSet (← f.finish negated (← t.set? f)), f)
  | .repetition min max greedy t => do
    let (e, _) ← Tree.expr? f t
    return (.ofRepetition min max (greedy != f.swapGreed) e, f)
  | .capture index t => do
    let (e, _) ← Tree.expr? f t
    return (.capture index e, f)
  | .group change t => do
    let (e, _) ← Tree.expr? (f.apply change) t
    return (e, f)
  | .concat ts => do
    let (es, g) ← Tree.exprs? f ts
    return (.ofConcat es, g)
  | .alternation ts => do
    let (es, g) ← Tree.exprs? f ts
    return (.ofAlternation es, g)

def Tree.exprs? (f : Flags) : List Tree → Option (List Expr × Flags)
  | [] => some ([], f)
  | t :: ts => do
    let (e, g) ← Tree.expr? f t
    let (es, h) ← Tree.exprs? g ts
    return (e :: es, h)

end

/-- Reads a pattern under the given flags. -/
def Expr.read? (f : Flags) (cs : List Char) : Option Expr := do
  let (e, _) ← (← Tree.read? f.verbose cs).expr? f
  return e

end LexGen.Regex
