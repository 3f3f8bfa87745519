import LexGen.CharSet.Derived
import LexGen.Text.Number

/-!
# Escaped text

Two ways to write a text so that it stays on one line. A literal stands between double quotes and
keeps every character that can be shown on its own; a label keeps printable ASCII only.
-/

namespace LexGen.Text

/-- The escape that names a character by its code point. -/
def codePointEscape (c : Char) : List Char :=
  ['\\', 'u', '{'] ++ hexDigits c.toNat ++ ['}']

/-- A character of a double quoted literal. Characters that cannot be shown, and those that are
drawn as a part of the character before them, are named by their code points. -/
def literalChar (c : Char) : List Char :=
  if c = '\x00' then ['\\', '0']
  else if c = '\t' then ['\\', 't']
  else if c = '\r' then ['\\', 'r']
  else if c = '\n' then ['\\', 'n']
  else if c = '\\' ∨ c = '"' then ['\\', c]
  else if CharSet.extender.contains c || !CharSet.printable.contains c then codePointEscape c
  else [c]

/-- The double quoted literal of a text. -/
def literal (cs : List Char) : List Char := '"' :: cs.flatMap literalChar ++ ['"']

/-- A character of a label. -/
def labelChar (c : Char) : List Char :=
  if c = '\t' then ['\\', 't']
  else if c = '\r' then ['\\', 'r']
  else if c = '\n' then ['\\', 'n']
  else if c = '\'' ∨ c = '"' ∨ c = '\\' then ['\\', c]
  else if 0x20 ≤ c.toNat ∧ c.toNat ≤ 0x7E then [c]
  else codePointEscape c

def label (cs : List Char) : List Char := cs.flatMap labelChar

/-- The double quoted literal of a string. -/
def literalString (s : String) : String := String.ofList (literal s.toList)

end LexGen.Text
