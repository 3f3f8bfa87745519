/-!
# Lines

A text is cut at its line breaks: a line feed, a carriage return, or a carriage return with the line
feed after it. There is one line more than there are breaks.
-/

namespace LexGen.Text

/-- The lines of a text, without their breaks. -/
def lines : List Char → List (List Char)
  | [] => [[]]
  | '\r' :: '\n' :: cs => [] :: lines cs
  | c :: cs =>
    if c = '\n' ∨ c = '\r' then [] :: lines cs
    else
      match lines cs with
      | l :: ls => (c :: l) :: ls
      | [] => [[c]]

/-- The number of line breaks. -/
def breaks (cs : List Char) : Nat := (lines cs).length - 1

end LexGen.Text
