import LexGen.Token

/-!
# Errors

Why a rule set cannot be compiled, why scanning stops, and how that is told.
-/

namespace LexGen

/-- An error in the scanned text. -/
structure LexicalError where
  message : String
  /-- The number of line breaks before the error. -/
  line : Nat
deriving DecidableEq, Repr, Inhabited

namespace LexicalError

/-- An error covers no text, so that a parser can go on at its place. -/
def text (_ : LexicalError) : String := ""

/-- An error comes with no token. -/
def token (_ : LexicalError) : Option Token := none

end LexicalError

inductive Error
  /-- The text of a pattern is no pattern. -/
  | patternSyntax
  /-- A pattern cannot be anchored, or its matcher is too large. -/
  | patternBuild
  /-- What is written out does not fit. -/
  | writerFull
  | unknownCondition (name : String)
  /-- Fragments that contain each other. -/
  | cyclicFragments (names : List String)
  | unsupportedAction (rule : Nat) (action reason : String)
  | lexical (e : LexicalError)
  /-- A step that takes nothing and changes nothing, in the line after `line` breaks. -/
  | noProgress (line : Nat) (condition : String)
deriving DecidableEq, Repr, Inhabited

namespace Error

def message : Error → String
  | patternSyntax => "Invalid pattern"
  | patternBuild => "Pattern cannot be compiled"
  | writerFull => "writer is full"
  | unknownCondition name => "Unknown start condition '" ++ name ++ "'"
  | cyclicFragments names =>
    "Macro expansion does not terminate, cyclic macros: " ++ String.intercalate ", " names
  | unsupportedAction rule action reason =>
    "Unsupported action in rule #" ++ Nat.repr rule ++ " '" ++ action ++ "': " ++ reason
  | lexical e => e.message
  | noProgress line condition =>
    "Scanner makes no progress on line " ++ Nat.repr (line + 1) ++ " in start condition '" ++
      condition ++ "'"

end Error
end LexGen
