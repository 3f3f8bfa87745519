import LexGen.Location
import LexGen.Options
import LexGen.Text.Lines
import LexGen.Text.Utf8

/-!
# Scan states

The input is cut in three: what comes before the current match, the current match, and what remains.
Beside it the state counts characters and lines, so that they need not be counted again, and keeps
the start conditions that have been begun.

Matching moves characters from what remains to the current match; an action may take one more
(`input`), put text back (`unput`), put the end of the match back (`less`), or keep the match for the
next one to add to (`more`).
-/

namespace LexGen

/-- The start condition that every rule set has. -/
def initial : String := "INITIAL"

structure ScanState where
  before : List Char
  current : List Char
  remaining : List Char
  /-- The number of characters taken. -/
  offset : Nat
  /-- The number of characters of the current match. -/
  length : Nat
  /-- The number of line breaks passed. -/
  line : Nat
  location : Location
  /-- The start conditions, the active one first. -/
  conditions : List String
  /-- Whether the next match adds to the current one. -/
  more : Bool
  /-- Whether the action rejects the match. -/
  rejected : Bool
  /-- Whether the input has come to its end. -/
  done : Bool
  flags : ScanFlags
deriving DecidableEq, Repr

namespace ScanState

/-- The state before an input is scanned. -/
def start (flags : ScanFlags) (input : List Char) : ScanState where
  before := []
  current := []
  remaining := input
  offset := 0
  length := 0
  line := 0
  location := .start flags.ranges
  conditions := [initial]
  more := false
  rejected := false
  done := false
  flags

instance : Inhabited ScanState := ⟨start {} []⟩

/-- The text taken so far. -/
def matched (s : ScanState) : List Char := s.before ++ s.current

/-- The whole input, with what has been put back. -/
def whole (s : ScanState) : List Char := s.matched ++ s.remaining

/-! ## Matches -/

/-- Gets ready for the next match. -/
def prepare (s : ScanState) : ScanState :=
  if s.more then s
  else { s with before := s.matched, current := [], length := 0 }

/-- Takes the next `n` characters as a match. -/
def commit (n : Nat) (s : ScanState) : ScanState :=
  let text := s.remaining.take n
  let lines := Text.lines text
  let line := s.line + (lines.length - 1)
  let offset := s.offset + text.length
  let length := s.length + text.length
  { s with
    current := s.current ++ text
    remaining := s.remaining.drop n
    offset, length, line
    location := {
      firstLine := s.location.lastLine
      firstColumn := s.location.lastColumn
      lastLine := line + 1
      lastColumn :=
        if lines.length = 1 then s.location.lastColumn + text.length
        else (lines.getLastD []).length
      range := if s.flags.ranges then some (offset - length, offset) else none }
    more := false
    rejected := false }

/-- Takes one more character to the current match. A line feed after a carriage return belongs to
the same line break. -/
def input (s : ScanState) : Option Char × ScanState :=
  match s.remaining with
  | [] => (none, s)
  | c :: rest =>
    let isBreak := c = '\n' ∨ c = '\r'
    let goesOn := c = '\n' ∧ s.matched.getLast? = some '\r'
    let line := if isBreak ∧ ¬goesOn then s.line + 1 else s.line
    (some c, { s with
      current := s.current ++ [c]
      remaining := rest
      offset := s.offset + 1
      length := s.length + 1
      line
      location := { s.location with
        lastLine := if isBreak then line + 1 else s.location.lastLine
        lastColumn := if isBreak then 0 else s.location.lastColumn + 1
        range := s.location.range.map fun r => (r.1, r.2 + 1) } })

/-- Where the match ends when `text` is put back. Columns are taken from the lines of the match, as
many from its end as `text` has. -/
def columnBefore (s : ScanState) (text : List Char) : Nat :=
  let old := Text.lines s.current
  let lines := Text.lines text
  if lines.length ≤ old.length then
    (if lines.length = old.length then s.location.firstColumn else 0) +
      ((old.getD (old.length - lines.length) []).length - (lines.headD []).length)
  else s.location.firstColumn

/-- Puts `text` in front of what remains, in place of as many characters taken last. -/
def unput (text : List Char) (s : ScanState) : ScanState :=
  let keep := s.matched.length - text.length
  let line := s.line - (Text.lines text).length.pred
  let current := s.current.take (keep - s.before.length)
  { s with
    before := s.before.take keep
    current
    remaining := text ++ s.remaining
    offset := s.offset - text.length
    length := current.length
    line
    location := { s.location with
      lastLine := line + 1
      lastColumn := s.columnBefore text
      range := s.location.range.map fun r => (r.1, max (r.2 - text.length) r.1) } }

/-- Keeps the first `n` characters of the match and puts the others back. -/
def less (n : Nat) (s : ScanState) : ScanState := s.unput (s.current.drop n)

/-- Keeps the match for the next one to add to. -/
def keep (s : ScanState) : ScanState := { s with more := true }

/-! ## The end of the input -/

/-- Notes that nothing remains. -/
def checkEnd (s : ScanState) : ScanState :=
  if s.remaining.isEmpty then { s with done := true } else s

/-- Notes that something has been put back after the end. -/
def checkResumed (s : ScanState) : ScanState :=
  if s.done && !s.remaining.isEmpty then { s with done := false } else s

/-- What a step has to change to count as progress. -/
structure Progress where
  /-- The number of bytes that remain. -/
  bytes : Nat
  offset : Nat
  conditions : List String
deriving DecidableEq

def progress (s : ScanState) : Progress :=
  ⟨Text.utf8Length s.remaining, s.offset, s.conditions⟩

/-! ## Start conditions -/

def begin (condition : String) (s : ScanState) : ScanState :=
  { s with conditions := condition :: s.conditions }

/-- Ends the active condition and gives its name. The last one stays. -/
def pop (s : ScanState) : String × ScanState :=
  match s.conditions with
  | c :: d :: rest => (c, { s with conditions := d :: rest })
  | [c] => (c, s)
  | [] => (initial, s)

/-- The condition at depth `n`. Below the last one there is `initial` only. -/
def top (s : ScanState) (n : Nat) : String := s.conditions.getD n initial

/-- The condition whose rules are active. -/
def active (s : ScanState) : String :=
  match s.conditions with
  | c :: _ => if c.isEmpty then initial else c
  | [] => initial

end ScanState
end LexGen
