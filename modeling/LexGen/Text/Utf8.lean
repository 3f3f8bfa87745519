/-!
# Length in bytes

Texts are counted in characters. What is written out, and what the journal tells, counts the bytes
of the UTF-8 form.
-/

namespace LexGen.Text

/-- The length of the UTF-8 form of a text. -/
def utf8Length : List Char → Nat
  | [] => 0
  | c :: cs => c.utf8Size + utf8Length cs

@[simp] theorem utf8Length_nil : utf8Length [] = 0 := rfl

@[simp] theorem utf8Length_cons (c : Char) (cs : List Char) :
    utf8Length (c :: cs) = c.utf8Size + utf8Length cs := rfl

@[simp] theorem utf8Length_append :
    ∀ cs ds : List Char, utf8Length (cs ++ ds) = utf8Length cs + utf8Length ds
  | [], _ => by simp
  | c :: cs, ds => by simp [utf8Length_append cs ds, Nat.add_assoc]

end LexGen.Text
