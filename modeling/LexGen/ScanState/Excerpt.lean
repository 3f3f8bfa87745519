import LexGen.Error
import LexGen.ScanState.Basic

/-!
# Excerpts

An error shows the input around the current match: some of what has been taken, the match and what
comes next, and below it a mark where the match begins. Line feeds are left out.
-/

namespace LexGen.ScanState

/-- The number of characters shown on each side. -/
def excerptWidth : Nat := 20

def dots : List Char := ['.', '.', '.']

def withoutFeeds (cs : List Char) : List Char := cs.filter (· ≠ '\n')

/-- The end of what comes before the current match. -/
def past (s : ScanState) : List Char :=
  let shown := s.before.drop (s.before.length - excerptWidth)
  withoutFeeds ((if s.before.length > excerptWidth then dots else []) ++ shown)

/-- The current match and what comes after it. -/
def upcoming (s : ScanState) : List Char :=
  let next := s.current ++ s.remaining.take (excerptWidth - s.current.length)
  withoutFeeds (next.take excerptWidth ++ if next.length > excerptWidth then dots else [])

/-- The excerpt with the mark in its second line. -/
def position (s : ScanState) : List Char :=
  s.past ++ s.upcoming ++ '\n' :: List.replicate s.past.length '-' ++ ['^']

/-- An error at the current match. -/
def lexicalError (s : ScanState) (cause : String) : LexicalError where
  message := "Lexical error on line " ++ Nat.repr (s.line + 1) ++ ". " ++ cause ++ "\n" ++
    String.ofList s.position
  line := s.line

/-- The error where no rule matches. -/
def unrecognized (s : ScanState) : LexicalError := s.lexicalError "Unrecognized text."

/-- The error of a rejection in an engine that does not try the next rule. -/
def cannotReject (s : ScanState) : LexicalError :=
  s.lexicalError ("You can only invoke reject() in the lexer when the lexer is of the " ++
    "backtracking persuasion (options.backtrack_lexer = true).")

end LexGen.ScanState
