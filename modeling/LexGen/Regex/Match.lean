import LexGen.CharSet.Derived
import LexGen.Regex.Automaton
import LexGen.Regex.Meaning

/-!
# Matching

An automaton is run over a text with all its attempts in step, in the order of preference. Where an
attempt accepts, those that are less preferred end; the others go on, and what they accept later
counts instead.
-/

namespace LexGen.Regex

/-! ## Conditions on a place -/

def isWordChar (ascii : Bool) (c : Option Char) : Bool :=
  match c with
  | none => false
  | some c => if ascii then c.isAlphanum || c == '_' else CharSet.word.contains c

/-- Whether a condition holds between the characters `before` and `after`, of which there is none
where the text begins or ends. -/
def Look.holds (before after : Option Char) : Look → Bool
  | textStart => before.isNone
  | textEnd => after.isNone
  | lineStart => before.isNone || before == some '\n'
  | lineEnd => after.isNone || after == some '\n'
  | lineStartCrlf =>
    before.isNone || before == some '\n' || (before == some '\r' && after != some '\n')
  | lineEndCrlf =>
    after.isNone || after == some '\r' || (after == some '\n' && before != some '\r')
  | wordBoundary a => isWordChar a before != isWordChar a after
  | notWordBoundary a => isWordChar a before == isWordChar a after
  | wordStart a => !isWordChar a before && isWordChar a after
  | wordEnd a => isWordChar a before && !isWordChar a after
  | wordStartHalf a => !isWordChar a before
  | wordEndHalf a => !isWordChar a after

/-! ## Attempts -/

/-- The attempts at one place of the text. -/
structure Attempts where
  /-- The states that have been reached here. -/
  seen : Array Bool
  /-- The states that wait for a character, the least preferred first. -/
  waiting : List Nat := []
  /-- Whether an attempt accepts here. It ends those that would come after it. -/
  accepted : Bool := false

namespace Automaton

def noAttempts (a : Automaton) : Attempts where
  seen := Array.replicate a.states.size false

/-- Adds the attempts that come from reaching state `i`, as long as it has not been reached before.
No chain of steps is longer than there are states, which bounds `fuel`. -/
def reach (a : Automaton) (before after : Option Char) : Nat → Nat → Attempts → Attempts
  | 0, _, t => t
  | fuel + 1, i, t =>
    if t.accepted || t.seen.getD i true then t
    else
      let t := { t with seen := t.seen.setIfInBounds i true }
      match a.states[i]? with
      | none => t
      | some (.char _ _) => { t with waiting := i :: t.waiting }
      | some (.look l next) => if l.holds before after then reach a before after fuel next t else t
      | some (.split targets) => targets.foldl (fun t j => reach a before after fuel j t) t
      | some .accept => { t with accepted := true }

/-- Adds what comes of the attempt that waits in state `i` when it is given the character `c`. -/
def advance (a : Automaton) (c : Char) (after : Option Char) (t : Attempts) (i : Nat) : Attempts :=
  match a.states[i]? with
  | some (.char s next) =>
    if s.contains c then a.reach (some c) after (a.states.size + 1) next t else t
  | _ => t

/-- The attempts after the character `c`. -/
def step (a : Automaton) (c : Char) (after : Option Char) (t : Attempts) : Attempts :=
  t.waiting.reverse.foldl (a.advance c after) a.noAttempts

/-- Goes on after `n` characters, where `best` is the length of the match found before. -/
def follow (a : Automaton) : List Char → Nat → Option Nat → Attempts → Option Nat
  | [], n, best, t => if t.accepted then some n else best
  | c :: cs, n, best, t =>
    let best := if t.accepted then some n else best
    if t.waiting.isEmpty then best else follow a cs (n + 1) best (a.step c cs.head? t)

/-- The length of the match at the start of a text. -/
def matchLength? (a : Automaton) (cs : List Char) : Option Nat :=
  a.follow cs 0 none (a.reach none cs.head? (a.states.size + 1) 0 a.noAttempts)

end Automaton

end LexGen.Regex

namespace LexGen

/-- A pattern that is ready for matching. -/
structure Regex where
  source : String
  automaton : Regex.Automaton
deriving DecidableEq

namespace Regex

/-- Builds a regex from an expression, unless it becomes too large. -/
def ofExpr? (source : String) (e : Expr) : Option Regex :=
  if e.width ≤ Automaton.limit then some ⟨source, .ofExpr e⟩ else none

/-- Reads a pattern under the given flags. -/
def ofString? (f : Flags) (source : String) : Option Regex := do
  ofExpr? source (← Expr.read? f source.toList)

/-- The length in characters of the match at the start of a text. -/
def matchLength? (r : Regex) (cs : List Char) : Option Nat := r.automaton.matchLength? cs

end Regex
end LexGen
