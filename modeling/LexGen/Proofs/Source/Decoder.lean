import LexGen.Engine.Data

/-!
# Reading tables that are written out

The expression of the tables of an engine is a text in the written language. It is read as that
language reads it: first it is cut into lexemes, where blanks and comments count for nothing
(`Lexeme.run?`), and then the lexemes are read as tables (`EngineData.decode?`).

What is read is the part of the language that tables need: records, tuples, slices, numbers in base
ten, truth values, and literals with all their escapes.
-/

namespace LexGen

/-! ## Lexemes -/

/-- What an expression is made of. -/
inductive Lexeme
  | word (s : List Char)
  | number (n : Nat)
  /-- A literal, given by the text that it stands for. -/
  | text (s : List Char)
  | mark (c : Char)
deriving DecidableEq, Repr

namespace Lexeme

/-- How far an escape in a literal has been read. -/
inductive Escape
  | none
  | begun
  /-- A character is named by two digits. -/
  | byte (high : Option Nat)
  /-- A character is named by a code point, whose brace has not come yet. -/
  | brace
  | codePoint (value digits : Nat)
  /-- The literal goes on after the blanks at the beginning of a line. -/
  | continued
deriving DecidableEq, Repr

/-- Where a text is read. -/
inductive Place
  | gap
  | word (s : List Char)
  | number (n : Nat)
  | slash
  | lineComment
  /-- A comment in as many others, and the last character in it that may begin its end or another
  comment. -/
  | blockComment (depth : Nat) (last : Char)
  | text (s : List Char) (e : Escape)
deriving DecidableEq, Repr

/-- The lexemes that end with a character, and where the text goes on. -/
abbrev Step := List Lexeme × Place

def isWordChar (c : Char) : Bool := c.isAlphanum || c == '_'

def marks : List Char := ['\x7b', '\x7d', '(', ')', '[', ']', '&', ',', ':', ';']

/-- A character outside words, numbers, literals and comments. -/
def enter? (c : Char) : Option Step :=
  if c.isWhitespace then some ([], .gap)
  else if c.isDigit then some ([], .number (c.toNat - '0'.toNat))
  else if isWordChar c then some ([], .word [c])
  else if c = '"' then some ([], .text [] .none)
  else if c = '/' then some ([], .slash)
  else if c ∈ marks then some ([.mark c], .gap)
  else none

/-- A character that ends a lexeme. -/
def leave? (l : Lexeme) (c : Char) : Option Step := (enter? c).map fun p => (l :: p.1, p.2)

def stepComment (depth : Nat) (last c : Char) : Place :=
  if last = '*' ∧ c = '/' then if depth = 0 then .gap else .blockComment (depth - 1) ' '
  else if last = '/' ∧ c = '*' then .blockComment (depth + 1) ' '
  else .blockComment depth c

/-- The characters that are named by one character after a backslash. -/
def escapes : List (Char × Char) := [
  ('n', '\n'), ('r', '\r'), ('t', '\t'), ('0', '\x00'), ('\\', '\\'), ('\'', '\''), ('"', '"')]

/-- A character of a literal that belongs to no escape. -/
def stepPlain? (s : List Char) (c : Char) : Option Step :=
  if c = '\\' then some ([], .text s .begun)
  else if c = '"' then some ([.text s], .gap)
  else if c = '\r' then none
  else some ([], .text (s ++ [c]) .none)

def stepText? (s : List Char) : Escape → Char → Option Step
  | .none, c => stepPlain? s c
  | .begun, c =>
    if c = 'x' then some ([], .text s (.byte .none))
    else if c = 'u' then some ([], .text s .brace)
    else if c = '\n' then some ([], .text s .continued)
    else (escapes.lookup c).map fun d => ([], .text (s ++ [d]) .none)
  | .byte .none, c => (Text.hexDigit? c).map fun d => ([], .text s (.byte (some d)))
  | .byte (some high), c =>
    match Text.hexDigit? c with
    | some d =>
      if high < 8 then some ([], .text (s ++ [Char.ofNat (16 * high + d)]) .none) else none
    | none => none
  | .brace, c => if c = '\x7b' then some ([], .text s (.codePoint 0 0)) else none
  | .codePoint value digits, c =>
    if c = '\x7d' then
      if 0 < digits ∧ value.isValidChar then some ([], .text (s ++ [Char.ofNat value]) .none)
      else none
    else if c = '_' then
      if 0 < digits then some ([], .text s (.codePoint value digits)) else none
    else
      match Text.hexDigit? c with
      | some d =>
        if digits < 6 then some ([], .text s (.codePoint (16 * value + d) (digits + 1))) else none
      | none => none
  | .continued, c => if c.isWhitespace then some ([], .text s .continued) else stepPlain? s c

/-- One more character. -/
def step? : Place → Char → Option Step
  | .gap, c => enter? c
  | .word s, c => if isWordChar c then some ([], .word (s ++ [c])) else leave? (.word s) c
  | .number n, c =>
    if c.isDigit then some ([], .number (10 * n + (c.toNat - '0'.toNat)))
    else if c = '_' then some ([], .number n)
    else if isWordChar c then none
    else leave? (.number n) c
  | .slash, c =>
    if c = '/' then some ([], .lineComment)
    else if c = '*' then some ([], .blockComment 0 ' ')
    else none
  | .lineComment, c => some ([], if c = '\n' then .gap else .lineComment)
  | .blockComment depth last, c => some ([], stepComment depth last c)
  | .text s e, c => stepText? s e c

/-- The lexemes of a text, and where it ends. -/
def run? : Place → List Char → Option Step
  | p, [] => some ([], p)
  | p, c :: cs =>
    match step? p c with
    | none => none
    | some (ls, q) => (run? q cs).map fun r => (ls ++ r.1, r.2)

/-- The lexemes of a complete text. -/
def read? (cs : List Char) : Option (List Lexeme) :=
  match run? .gap cs with
  | some (ls, .gap) => some ls
  | some (ls, .lineComment) => some ls
  | some (ls, .word s) => some (ls ++ [.word s])
  | some (ls, .number n) => some (ls ++ [.number n])
  | _ => none

end Lexeme

/-! ## Values -/

/-- Reads a value from the front of the lexemes. -/
abbrev LexemeReader (α : Type) := List Lexeme → Option (α × List Lexeme)

namespace LexemeReader

/-- What comes after a lexeme. -/
def after? (l : Lexeme) : List Lexeme → Option (List Lexeme)
  | [] => none
  | m :: ls => if m = l then some ls else none

def text? : LexemeReader String
  | .text s :: ls => some (String.ofList s, ls)
  | _ => none

def number? : LexemeReader Nat
  | .number n :: ls => some (n, ls)
  | _ => none

def bool? : LexemeReader Bool
  | .word s :: ls =>
    if s = "true".toList then some (true, ls)
    else if s = "false".toList then some (false, ls)
    else none
  | _ => none

section Items

variable {α : Type} (item : LexemeReader α)

/-- Reads the items of a slice up to its end, of which there are less than `fuel`. A comma stands
between them and may stand after the last one. -/
def items? : Nat → LexemeReader (List α)
  | 0, _ => none
  | fuel + 1, ls =>
    match after? (.mark ']') ls with
    | some ls => some ([], ls)
    | none => do
      let (x, ls) ← item ls
      match after? (.mark ',') ls with
      | some ls =>
        let (xs, ls) ← items? fuel ls
        return (x :: xs, ls)
      | none =>
        let ls ← after? (.mark ']') ls
        return ([x], ls)

def slice? : LexemeReader (List α) := fun ls => do
  let ls ← after? (.mark '&') ls
  let ls ← after? (.mark '[') ls
  items? item ls.length ls

/-- Reads a field of a record with the comma after it. -/
def field? (name : String) : LexemeReader α := fun ls => do
  let ls ← after? (.word name.toList) ls
  let ls ← after? (.mark ':') ls
  let (x, ls) ← item ls
  let ls ← after? (.mark ',') ls
  return (x, ls)

end Items

/-- A pattern and the text of an action. -/
def rule? : LexemeReader (String × String) := fun ls => do
  let ls ← after? (.mark '(') ls
  let (pattern, ls) ← text? ls
  let ls ← after? (.mark ',') ls
  let (action, ls) ← text? ls
  let ls ← after? (.mark ')') ls
  return ((pattern, action), ls)

/-- The row of a start condition. -/
def condition? : LexemeReader (String × Bool × List Nat) := fun ls => do
  let ls ← after? (.mark '(') ls
  let (name, ls) ← text? ls
  let ls ← after? (.mark ',') ls
  let (inclusive, ls) ← bool? ls
  let ls ← after? (.mark ',') ls
  let (rules, ls) ← slice? number? ls
  let ls ← after? (.mark ')') ls
  return ((name, inclusive, rules), ls)

def flags? : LexemeReader ScanFlags := fun ls => do
  let ls ← after? (.word "ScanOptions".toList) ls
  let ls ← after? (.mark '\x7b') ls
  let (ranges, ls) ← field? bool? "ranges" ls
  let (flex, ls) ← field? bool? "flex" ls
  let (backtracking, ls) ← field? bool? "backtrack_lexer" ls
  let (caseless, ls) ← field? bool? "case_insensitive" ls
  let ls ← after? (.mark '\x7d') ls
  return ({ ranges, flex, backtracking, caseless }, ls)

def data? : LexemeReader EngineData := fun ls => do
  let ls ← after? (.word "EngineData".toList) ls
  let ls ← after? (.mark '\x7b') ls
  let (rules, ls) ← field? (slice? rule?) "rules" ls
  let (conditions, ls) ← field? (slice? condition?) "conditions" ls
  let (flags, ls) ← field? flags? "options" ls
  let ls ← after? (.mark '\x7d') ls
  return ({ rules, conditions, flags }, ls)

end LexemeReader

/-- The tables that an expression writes out. -/
def EngineData.decode? (s : String) : Option EngineData :=
  match (Lexeme.read? s.toList).bind LexemeReader.data? with
  | some (d, []) => some d
  | _ => none

end LexGen
