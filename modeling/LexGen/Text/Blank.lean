import LexGen.CharSet.Derived

/-!
# Blank characters

Blanks are the characters that separate words and lines in any script. They are cut off both ends of
a statement and of an option's value.
-/

namespace LexGen.Text

def isBlank (c : Char) : Bool := CharSet.blank.contains c

def trimStart (cs : List Char) : List Char := cs.dropWhile isBlank

def trimEnd (cs : List Char) : List Char := (cs.reverse.dropWhile isBlank).reverse

def trim (cs : List Char) : List Char := trimEnd (trimStart cs)

def withoutBlanks (cs : List Char) : List Char := cs.filter fun c => !isBlank c

end LexGen.Text
