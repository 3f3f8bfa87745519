import LexGen.Error
import LexGen.Text.Search

/-!
# Fragments

A fragment is a part of a pattern under a name, which patterns and other fragments refer to by the
name in braces. Before patterns are read, the references in the fragments are replaced one after the
other, in rounds, until a round finds none. Each fragment takes a round at most, so that one more
round than there are fragments means that some contain each other.

A reference of a fragment to itself is no reference.
-/

namespace LexGen

abbrev Fragments := Table String

namespace Fragments

/-- How a fragment is referred to. -/
def reference (name : String) : List Char := '{' :: name.toList ++ ['}']

/-- What stands in place of a reference. The parentheses keep the fragment together. -/
def grouped (body : String) : List Char := '(' :: body.toList ++ [')']

/-- Replaces the references to a fragment. -/
def substitute (name body : String) (text : List Char) : List Char :=
  Text.replaceAll (reference name) (grouped body) text

/-- Replaces the references to the given fragments other than `self`, and tells whether there was
one. -/
def expandBody (self : String) : List (String × String) → List Char → List Char × Bool
  | [], text => (text, false)
  | (name, body) :: rest, text =>
    if name ≠ self ∧ Text.occursIn (reference name) text then
      ((expandBody self rest (substitute name body text)).1, true)
    else expandBody self rest text

/-- Expands the fragments of the given names in turn. Gives those that have changed. -/
def round : List String → Fragments → Fragments × List String
  | [], t => (t, [])
  | name :: names, t =>
    let (body, changed) := expandBody name t.entries ((t.find? name).getD "").toList
    if changed then
      let (t, others) := round names (t.insert name (String.ofList body))
      (t, name :: others)
    else round names t

/-- Runs at most `n` rounds. Gives the result and how many rounds are left, or else the fragments
that the last round has changed. -/
def rounds : Nat → List String → Fragments → Except (List String) (Fragments × Nat)
  | 0, changed, _ => .error changed
  | n + 1, _, t =>
    let (t, changed) := round t.keys t
    if changed.isEmpty then .ok (t, n) else rounds n changed t

/-- Replaces the references in the fragments. -/
def expand (t : Fragments) : Except Error Fragments :=
  match rounds (t.size + 1) [] t with
  | .ok (t, _) => .ok t
  | .error names => .error (.cyclicFragments names)

/-- The number of rounds that the expansion takes, if it ends. -/
def roundCount? (t : Fragments) : Option Nat :=
  match rounds (t.size + 1) [] t with
  | .ok (_, left) => some (t.size + 1 - left)
  | .error _ => none

/-- Replaces the references in a pattern. -/
def expandPattern (t : Fragments) (pattern : String) : String :=
  String.ofList (t.entries.foldl (fun text e => substitute e.1 e.2 text) pattern.toList)

end Fragments
end LexGen
