import LexGen.CharSet.Derived
import LexGen.CharSet.Script

/-!
# Properties by name

A pattern names a property of characters by a general category, a script or a derived property.
Case, blanks, hyphens and low lines in the name do not matter, nor does a leading `is`.
-/

namespace LexGen.CharSet

/-- The form in which names of properties are compared. -/
def plainName (name : List Char) : List Char :=
  let keep (cs : List Char) : List Char :=
    ((cs.filter fun c => c ≠ ' ' ∧ c ≠ '_' ∧ c ≠ '-').filter fun c => c.toNat ≤ 0x7F).map Char.toLower
  match name with
  | a :: b :: rest =>
    if a.toLower = 'i' ∧ b.toLower = 's' then
      if keep rest = ['c'] then ['i', 's', 'c'] else keep rest
    else keep name
  | _ => keep name

/-- The general categories and their groups, under their short and long names. -/
def category? : String → Option CharSet
  | "any" => some all
  | "ascii" => some ascii
  | "assigned" => some unassigned.complement
  | "c" | "other" => some (unions [control, format, unassigned, privateUse])
  | "cc" | "control" | "cntrl" => some control
  | "cf" | "format" => some format
  | "cn" | "unassigned" => some unassigned
  | "co" | "privateuse" => some privateUse
  | "l" | "letter" => some letter
  | "lc" | "casedletter" => some (unions [uppercaseLetter, lowercaseLetter, titlecaseLetter])
  | "ll" | "lowercaseletter" => some lowercaseLetter
  | "lm" | "modifierletter" => some modifierLetter
  | "lo" | "otherletter" => some otherLetter
  | "lt" | "titlecaseletter" => some titlecaseLetter
  | "lu" | "uppercaseletter" => some uppercaseLetter
  | "m" | "mark" | "combiningmark" => some mark
  | "mc" | "spacingmark" => some spacingMark
  | "me" | "enclosingmark" => some enclosingMark
  | "mn" | "nonspacingmark" => some nonspacingMark
  | "n" | "number" => some number
  | "nd" | "decimalnumber" | "digit" => some decimalNumber
  | "nl" | "letternumber" => some letterNumber
  | "no" | "othernumber" => some otherNumber
  | "p" | "punctuation" | "punct" => some punctuation
  | "pc" | "connectorpunctuation" => some connectorPunctuation
  | "pd" | "dashpunctuation" => some dashPunctuation
  | "pe" | "closepunctuation" => some closePunctuation
  | "pf" | "finalpunctuation" => some finalPunctuation
  | "pi" | "initialpunctuation" => some initialPunctuation
  | "po" | "otherpunctuation" => some otherPunctuation
  | "ps" | "openpunctuation" => some openPunctuation
  | "s" | "symbol" => some symbol
  | "sc" | "currencysymbol" => some currencySymbol
  | "sk" | "modifiersymbol" => some modifierSymbol
  | "sm" | "mathsymbol" => some mathSymbol
  | "so" | "othersymbol" => some otherSymbol
  | "z" | "separator" => some separator
  | "zl" | "lineseparator" => some lineSeparator
  | "zp" | "paragraphseparator" => some paragraphSeparator
  | "zs" | "spaceseparator" => some spaceSeparator
  | _ => none

def script? : String → Option CharSet
  | "latin" | "latn" => some latin
  | "greek" | "grek" => some greek
  | "cyrillic" | "cyrl" => some cyrillic
  | "armenian" | "armn" => some armenian
  | "hebrew" | "hebr" => some hebrew
  | "arabic" | "arab" => some arabic
  | "devanagari" | "deva" => some devanagari
  | "bengali" | "beng" => some bengali
  | "thai" => some thai
  | "georgian" | "geor" => some georgian
  | "hangul" | "hang" => some hangul
  | "hiragana" | "hira" => some hiragana
  | "katakana" | "kana" => some katakana
  | "han" | "hani" => some han
  | "common" | "zyyy" => some common
  | "inherited" | "zinh" | "qaai" => some inherited
  | _ => none

/-- Derived properties. -/
def derived? : String → Option CharSet
  | "alphabetic" | "alpha" => some alphabetic
  | "lowercase" | "lower" => some lowercase
  | "uppercase" | "upper" => some uppercase
  | "whitespace" | "wspace" | "space" => some blank
  | "joincontrol" | "joinc" => some joinControl
  | "graphemeextend" | "grext" => some extender
  | _ => none

/-- The set of a property given by its name alone. -/
def named? (name : List Char) : Option CharSet :=
  let n := String.ofList (plainName name)
  derived? n <|> category? n <|> script? n

/-- The set of the characters for which a property has the given value. -/
def valued? (name value : List Char) : Option CharSet :=
  let v := String.ofList (plainName value)
  match String.ofList (plainName name) with
  | "gc" | "generalcategory" => category? v
  | "sc" | "script" => script? v
  | _ => none

end LexGen.CharSet
