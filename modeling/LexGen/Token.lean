import LexGen.Table

/-!
# Tokens

A rule hands over a token by its name or by its code. A token table, where there is one, gives
declared names a code or another name before scanning starts.
-/

namespace LexGen

inductive Token
  /-- The end of the input. -/
  | eof
  | code (n : UInt64)
  | name (s : String)
deriving DecidableEq, Repr, Inhabited

namespace Token

def isEof : Token → Bool
  | eof => true
  | _ => false

def text : Token → String
  | eof => "EOF"
  | code n => Nat.repr n.toNat
  | name s => s

end Token

/-- What declared token names stand for. -/
abbrev TokenTable := Table Token

namespace TokenTable

def declareCode (t : TokenTable) (name : String) (code : UInt64) : TokenTable :=
  t.insert name (.code code)

def declareSymbol (t : TokenTable) (name symbol : String) : TokenTable :=
  t.insert name (.name symbol)

/-- The table of numbered names. -/
def ofCodes (codes : List (UInt64 × String)) : TokenTable :=
  codes.foldl (fun t c => t.declareCode c.2 c.1) Table.empty

/-- What a name stands for; a name that is not declared stands for itself. -/
def resolve (t : TokenTable) (name : String) : Token := (t.find? name).getD (.name name)

end TokenTable
end LexGen
