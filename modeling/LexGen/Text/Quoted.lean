/-!
# Quoted text

A quoted text stands between two equal quotes, single or double. A backslash takes the meaning from
the character after it, or gives a letter the meaning of a line break or a tabulator. What `encode`
writes, `decode?` reads back.
-/

namespace LexGen.Text.Quoted

/-- A character between single quotes. -/
def encodeChar (c : Char) : List Char :=
  if c = '\'' ∨ c = '\\' then ['\\', c]
  else if c = '\n' then ['\\', 'n']
  else if c = '\r' then ['\\', 'r']
  else if c = '\t' then ['\\', 't']
  else [c]

/-- The text between single quotes. -/
def encode (cs : List Char) : List Char := '\'' :: cs.flatMap encodeChar ++ ['\'']

/-- The meaning of a character after a backslash. -/
def escaped (c : Char) : Char :=
  if c = 'n' then '\n' else if c = 'r' then '\r' else if c = 't' then '\t' else c

/-- The text up to the quote that ends it, which must end the input. -/
def decodeRest? (quote : Char) : List Char → Option (List Char)
  | [] => none
  | '\\' :: c :: cs => (decodeRest? quote cs).map (escaped c :: ·)
  | c :: cs =>
    if c = '\\' then none
    else if c = quote then if cs.isEmpty then some [] else none
    else (decodeRest? quote cs).map (c :: ·)

def isQuote (c : Char) : Bool := c == '\'' || c == '"'

/-- The text of a complete quoted text. -/
def decode? : List Char → Option (List Char)
  | [] => none
  | c :: cs => if isQuote c then decodeRest? c cs else none

end LexGen.Text.Quoted
