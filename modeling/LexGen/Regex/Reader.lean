import LexGen.Regex.Tree
import LexGen.Text.Blank
import LexGen.Text.Number
import LexGen.Text.Search

/-!
# Reading patterns

A pattern is read to its tree from left to right. Nothing is said about why a text is no pattern.

In a verbose pattern, blanks and comments between the parts of a construct are skipped. A comment
starts at a number sign and ends with its line, so it also hides the end of a pattern that stands on
the same line.
-/

namespace LexGen.Regex

open Text (isBlank)

mutual

/-- Drops blanks and comments in front. -/
def skipBlanks : List Char → List Char
  | [] => []
  | c :: cs => if isBlank c then skipBlanks cs else if c = '#' then skipComment cs else c :: cs

/-- Drops the rest of a comment, and what is blank after it. -/
def skipComment : List Char → List Char
  | [] => []
  | c :: cs => if c = '\n' then skipBlanks cs else skipComment cs

end

def skip (verbose : Bool) (cs : List Char) : List Char := if verbose then skipBlanks cs else cs

/-- The characters in front for which `p` holds and what follows them. In a verbose pattern they may
stand apart from each other. -/
def gather (verbose : Bool) (p : Char → Bool) : Bool → List Char → List Char × List Char
  | _, [] => ([], [])
  | true, c :: cs => gather verbose p (c != '\n') cs
  | false, c :: cs =>
    if verbose && isBlank c then gather verbose p false cs
    else if verbose && c == '#' then gather verbose p true cs
    else if p c then
      let r := gather verbose p false cs
      (c :: r.1, r.2)
    else ([], c :: cs)

/-! ## Numbers -/

/-- The digits of a count and what follows them. -/
def readDigits (verbose : Bool) (cs : List Char) : List Char × List Char :=
  let r := gather verbose Char.isDigit false (cs.dropWhile isBlank)
  (r.1, r.2.dropWhile isBlank)

/-- The value of the digits of a count. Counts are below 2³². -/
def count? (digits : List Char) : Option Nat :=
  (Text.digitsValue? digits).filter (· < UInt32.size)

/-- The bounds of a counted repetition, after the comma that follows the least count. -/
def readMaxCount (verbose : Bool) (min : Nat) (cs : List Char) :
    Option ((Nat × Option Nat) × List Char) :=
  match skip verbose cs with
  | '}' :: rest => some ((min, none), rest)
  | rest => do
    let (digits, rest) := readDigits verbose rest
    let max ← count? digits
    match rest with
    | '}' :: rest => if min ≤ max then some ((min, some max), rest) else none
    | _ => none

/-- The bounds of a counted repetition, after its opening brace. -/
def readCounts (verbose : Bool) (cs : List Char) : Option ((Nat × Option Nat) × List Char) := do
  let (digits, rest) := readDigits verbose (skip verbose cs)
  let min ← count? digits
  match rest with
  | '}' :: rest => some ((min, some min), rest)
  | ',' :: rest => readMaxCount verbose min rest
  | _ => none

def hexValue? (digits : List Char) : Option Nat :=
  if digits.isEmpty then none
  else digits.foldl (fun n c => do return 16 * (← n) + (← Text.hexDigit? c)) (some 0)

/-- The character with the given code point. -/
def charAt? (n : Nat) : Option Char := if n.isValidChar then some (Char.ofNat n) else none

/-- Exactly `n` hexadecimal digits and what follows them. -/
def readHexDigits (verbose : Bool) : Nat → List Char → Option (List Char × List Char)
  | 0, cs => some ([], cs)
  | _ + 1, [] => none
  | n + 1, c :: cs =>
    if (Text.hexDigit? c).isSome then
      (readHexDigits verbose n (skip verbose cs)).map fun r => (c :: r.1, r.2)
    else none

/-- A character given by its code point, in braces or in `width` digits. -/
def readCodePoint (verbose : Bool) (width : Nat) (cs : List Char) : Option (Literal × List Char) :=
  match skip verbose cs with
  | '{' :: rest => do
    let (digits, rest) := gather verbose (· != '}') false rest
    let c ← charAt? (← hexValue? digits)
    if rest.isEmpty then none else some (⟨c, false⟩, skip verbose rest.tail)
  | rest => do
    let (digits, rest) ← readHexDigits verbose width rest
    let c ← charAt? (← hexValue? digits)
    some (⟨c, width == 2⟩, rest)

/-! ## Escapes -/

/-- The property that a text in braces names. -/
def propertyOf (negated : Bool) (content : List Char) : Property :=
  match Text.cutAt? ['!', '='] content with
  | some (name, value) => ⟨!negated, name, some value⟩
  | none =>
    match (Text.cut? ':' content).or (Text.cut? '=' content) with
    | some (name, value) => ⟨negated, name, some value⟩
    | none => ⟨negated, content, none⟩

def readProperty (verbose negated : Bool) (cs : List Char) : Option (Property × List Char) :=
  match skip verbose cs with
  | [] => none
  | '\\' :: _ => none
  | '{' :: rest =>
    let (content, rest) := gather verbose (· != '}') false rest
    if rest.isEmpty then none else some (propertyOf negated content, rest.tail)
  | c :: rest => some (⟨negated, [c], none⟩, skip verbose rest)

/-- The special kinds of word boundaries, by the names that stand in braces. -/
def boundaryNamed? (name : List Char) : Option Anchor :=
  match String.ofList name with
  | "start" => some .wordStart
  | "end" => some .wordEnd
  | "start-half" => some .wordStartHalf
  | "end-half" => some .wordEndHalf
  | _ => none

/-- Whether a character can stand in the name of a boundary. -/
def isBoundaryChar (c : Char) : Bool := c.isAlpha || c == '-'

/-- A word boundary, after its letter and an opening brace. Braces that start with neither a letter
nor a hyphen are not part of it. -/
def readNamedBoundary (verbose : Bool) (cs : List Char) : Option (Anchor × List Char) :=
  match skip verbose cs with
  | [] => none
  | c :: _ =>
    if isBoundaryChar c then
      let (name, rest) := gather verbose isBoundaryChar false cs
      match rest with
      | '}' :: rest => (boundaryNamed? name).map fun kind => (kind, rest)
      | _ => none
    else some (.wordBoundary, '{' :: cs)

/-- A word boundary, after its letter. -/
def readBoundary (verbose : Bool) (cs : List Char) : Option (Anchor × List Char) :=
  match cs with
  | '{' :: inner => readNamedBoundary verbose inner
  | _ => some (.wordBoundary, cs)

/-- Whether a backslash in front makes a character stand for itself. -/
def isEscapable (c : Char) : Bool :=
  c.toNat < 0x80 && !c.isAlphanum && c != '<' && c != '>'

/-- What a backslash and the characters after it say. -/
def readEscape (verbose : Bool) : List Char → Option (Tree × List Char)
  | [] => none
  | c :: cs =>
    let char (c : Char) : Option (Tree × List Char) := some (.literal ⟨c, false⟩, cs)
    match c with
    | 'x' => (readCodePoint verbose 2 cs).map fun r => (.literal r.1, r.2)
    | 'u' => (readCodePoint verbose 4 cs).map fun r => (.literal r.1, r.2)
    | 'U' => (readCodePoint verbose 8 cs).map fun r => (.literal r.1, r.2)
    | 'p' => (readProperty verbose false cs).map fun r => (.property r.1, r.2)
    | 'P' => (readProperty verbose true cs).map fun r => (.property r.1, r.2)
    | 'd' => some (.shorthand .digit false, cs)
    | 's' => some (.shorthand .space false, cs)
    | 'w' => some (.shorthand .word false, cs)
    | 'D' => some (.shorthand .digit true, cs)
    | 'S' => some (.shorthand .space true, cs)
    | 'W' => some (.shorthand .word true, cs)
    | 'a' => char '\x07'
    | 'f' => char '\x0C'
    | 't' => char '\t'
    | 'n' => char '\n'
    | 'r' => char '\r'
    | 'v' => char '\x0B'
    | 'A' => some (.anchor .textStart, cs)
    | 'z' => some (.anchor .textEnd, cs)
    | 'b' => (readBoundary verbose cs).map fun r => (.anchor r.1, r.2)
    | 'B' => some (.anchor .notWordBoundary, cs)
    | '<' => some (.anchor .wordStart, cs)
    | '>' => some (.anchor .wordEnd, cs)
    | c => if isEscapable c then char c else none

/-! ## Classes -/

def asciiClassNamed? (name : List Char) : Option AsciiClass :=
  match String.ofList name with
  | "alnum" => some .alnum
  | "alpha" => some .alpha
  | "ascii" => some .ascii
  | "blank" => some .blank
  | "cntrl" => some .cntrl
  | "digit" => some .digit
  | "graph" => some .graph
  | "lower" => some .lower
  | "print" => some .print
  | "punct" => some .punct
  | "space" => some .space
  | "upper" => some .upper
  | "word" => some .word
  | "xdigit" => some .xdigit
  | _ => none

/-- The name of a class, up to the colon and the bracket that end it. -/
def readAsciiName (negated : Bool) (cs : List Char) : Option (ClassTree × List Char) := do
  let kind ← asciiClassNamed? (cs.takeWhile (· != ':'))
  let rest ← Text.after? [':', ']'] (cs.dropWhile (· != ':'))
  some (.ascii kind negated, rest)

/-- A class named between colons, after its opening bracket. -/
def readAsciiClass : List Char → Option (ClassTree × List Char)
  | ':' :: '^' :: rest => readAsciiName true rest
  | ':' :: rest => readAsciiName false rest
  | _ => none

/-- Whether a circumflex negates a class, and what follows it. -/
def readNegation (verbose : Bool) (cs : List Char) : Bool × List Char :=
  match skip verbose cs with
  | '^' :: rest => (true, skip verbose rest)
  | rest => (false, rest)

/-- The items in front of a class that need special care: hyphens, or else a closing bracket, stand
for themselves. -/
def readFirstItems (verbose : Bool) (cs : List Char) : List ClassTree × List Char :=
  let char (c : Char) : ClassTree := .chars ⟨c, false⟩ ⟨c, false⟩
  match gather verbose (· == '-') false cs with
  | ([], ']' :: rest) => ([char ']'], skip verbose rest)
  | (hyphens, rest) => (hyphens.map char, rest)

/-- What follows an opening bracket up to the first item that needs no special care. -/
def readClassOpening (verbose : Bool) (cs : List Char) : Bool × List ClassTree × List Char :=
  let (negated, rest) := readNegation verbose cs
  (negated, readFirstItems verbose rest)

/-- A single item of a class. -/
def readClassAtom (verbose : Bool) : List Char → Option (Tree × List Char)
  | [] => none
  | '\\' :: cs => readEscape verbose cs
  | c :: cs => some (.literal ⟨c, false⟩, cs)

/-- The class of a single item. -/
def classOfAtom? : Tree → Option ClassTree
  | .literal l => some (.chars l l)
  | .shorthand k n => some (.shorthand k n)
  | .property p => some (.property p)
  | _ => none

/-- The next character that counts after a hyphen. One number sign is skipped like a blank here, and
with it not the rest of its line. -/
def peekAfterHyphen (verbose : Bool) (cs : List Char) : Option Char :=
  if verbose then
    match cs.dropWhile isBlank with
    | '#' :: rest => (rest.dropWhile isBlank).head?
    | rest => rest.head?
  else cs.head?

/-- The range between two single items. -/
def rangeOf? : Tree → Tree → Option ClassTree
  | .literal a, .literal b => if a.char ≤ b.char then some (.chars a b) else none
  | _, _ => none

/-- What follows an item of a class and a hyphen. Where the class ends there, or an operator comes,
the hyphen is an item of its own. -/
def readRangeEnd (verbose : Bool) (first : Tree) (cs : List Char) :
    Option (ClassTree × List Char) :=
  let next := peekAfterHyphen verbose cs
  if next == some ']' || next == some '-' then (classOfAtom? first).map fun t => (t, '-' :: cs)
  else
    match readClassAtom verbose (skip verbose cs) with
    | some (last, rest) => (rangeOf? first last).map fun t => (t, rest)
    | none => none

/-- An item of a class, or a range between two of them. -/
def readClassRange (verbose : Bool) (cs : List Char) : Option (ClassTree × List Char) :=
  match readClassAtom verbose cs with
  | none => none
  | some (first, rest) =>
    match skip verbose rest with
    | '-' :: rest => readRangeEnd verbose first rest
    | rest => (classOfAtom? first).map fun t => (t, rest)

/-- The class of the items read since the last operator, joined to what stands before it. -/
def closeItems (pending : Option (ClassOp × ClassTree)) (items : List ClassTree) : ClassTree :=
  match pending with
  | none => .ofItems items.reverse
  | some (kind, left) => .op kind left (.ofItems items.reverse)

/-- The rest of a class up to its closing bracket. The operators have equal rank and group to the
left. Every item takes a character, so `fuel` is at most the length of the text. -/
def readClassItems (verbose : Bool) : Nat → Option (ClassOp × ClassTree) → List ClassTree →
    List Char → Option (ClassTree × List Char)
  | 0, _, _, _ => none
  | fuel + 1, pending, items, cs =>
    match skip verbose cs with
    | [] => none
    | ']' :: rest => some (closeItems pending items, rest)
    | '&' :: '&' :: rest =>
      readClassItems verbose fuel (some (.inter, closeItems pending items)) [] rest
    | '-' :: '-' :: rest =>
      readClassItems verbose fuel (some (.diff, closeItems pending items)) [] rest
    | '~' :: '~' :: rest =>
      readClassItems verbose fuel (some (.symmDiff, closeItems pending items)) [] rest
    | '[' :: rest =>
      match readAsciiClass rest with
      | some (t, rest) => readClassItems verbose fuel pending (t :: items) rest
      | none =>
        let (negated, first, rest) := readClassOpening verbose rest
        match readClassItems verbose fuel none first.reverse rest with
        | some (t, rest) => readClassItems verbose fuel pending (.bracketed negated t :: items) rest
        | none => none
    | rest =>
      match readClassRange verbose rest with
      | some (t, rest) => readClassItems verbose fuel pending (t :: items) rest
      | none => none

/-- A class, after its opening bracket. -/
def readClass (verbose : Bool) (cs : List Char) : Option (Tree × List Char) :=
  let (negated, first, rest) := readClassOpening verbose cs
  (readClassItems verbose (rest.length + 1) none first.reverse rest).map
    fun r => (.bracketed negated r.1, r.2)

/-! ## Groups -/

/-- The change with one more flag turned on or off, unless it already has that flag. -/
def FlagChange.set? (change : FlagChange) (flag : Char) (on : Bool) : Option FlagChange :=
  match flag with
  | 'i' => if change.caseless.isSome then none else some { change with caseless := some on }
  | 'm' => if change.multiLine.isSome then none else some { change with multiLine := some on }
  | 's' => if change.dotAll.isSome then none else some { change with dotAll := some on }
  | 'U' => if change.swapGreed.isSome then none else some { change with swapGreed := some on }
  | 'u' => if change.unicode.isSome then none else some { change with unicode := some on }
  | 'R' => if change.crlf.isSome then none else some { change with crlf := some on }
  | 'x' => if change.verbose.isSome then none else some { change with verbose := some on }
  | _ => none

/-- Flags up to the colon or parenthesis that ends them. A hyphen turns the flags after it off; there
is at most one, and a flag follows it. -/
def readFlags : FlagChange → Bool → Bool → List Char → Option (FlagChange × List Char)
  | _, _, _, [] => none
  | change, on, open_, c :: cs =>
    if c = ':' ∨ c = ')' then if open_ then none else some (change, c :: cs)
    else if c = '-' then if on then readFlags change false true cs else none
    else
      match change.set? c on with
      | some change => readFlags change on false cs
      | none => none

/-- Whether a character can stand in the name of a group. -/
def isNameChar (first : Bool) (c : Char) : Bool :=
  c == '_' || if first then CharSet.alphabetic.contains c
    else c == '.' || c == '[' || c == ']' || CharSet.alphanumeric.contains c

/-- The name of a group, up to the angle bracket that ends it. -/
def readGroupName (cs : List Char) : Option (List Char × List Char) := do
  let name := cs.takeWhile (· != '>')
  let rest ← Text.after? ['>'] (cs.dropWhile (· != '>'))
  match name with
  | [] => none
  | c :: more => if isNameChar true c && more.all (isNameChar false) then some (name, rest) else none

/-- What the reader keeps while it goes through a pattern. -/
structure Progress where
  verbose : Bool
  captures : Nat := 0
  names : List (List Char) := []

inductive GroupOpening
  | inline (change : FlagChange)
  | capture (name : Option (List Char))
  | flags (change : FlagChange)

/-- What follows an opening parenthesis. Groups that look around are no part of the language. -/
def readGroupOpening (cs : List Char) : Option (GroupOpening × List Char) :=
  match cs with
  | '?' :: '=' :: _ => none
  | '?' :: '!' :: _ => none
  | '?' :: '<' :: '=' :: _ => none
  | '?' :: '<' :: '!' :: _ => none
  | '?' :: 'P' :: '<' :: rest => (readGroupName rest).map fun r => (.capture (some r.1), r.2)
  | '?' :: '<' :: rest => (readGroupName rest).map fun r => (.capture (some r.1), r.2)
  | '?' :: rest =>
    match readFlags {} true false rest with
    | some (change, ':' :: rest) => some (.flags change, rest)
    | some (change, _ :: rest) => if change = {} then none else some (.inline change, rest)
    | _ => none
  | rest => some (.capture none, rest)

/-! ## Patterns -/

/-- The item that a repetition repeats is the one before it. Flags cannot be repeated. -/
def repeatLast (items : List Tree) (min : Nat) (max : Option Nat) (greedy : Bool) :
    Option (List Tree) :=
  match items with
  | [] => none
  | .flags _ :: _ => none
  | t :: ts => some (.repetition min max greedy t :: ts)

/-- Whether a question mark follows that makes a repetition lazy, and what follows it. -/
def readLaziness : List Char → Bool × List Char
  | '?' :: cs => (false, cs)
  | cs => (true, cs)

/-- Repeats the last item. A question mark may follow that makes the repetition lazy. -/
def readRepetition (items : List Tree) (min : Nat) (max : Option Nat) (cs : List Char) :
    Option (List Tree × List Char) :=
  let (greedy, rest) := readLaziness cs
  (repeatLast items min max greedy).map fun items => (items, rest)

/-- The tree of the branches and of the items of the last branch, each last one first. -/
def closeBranches (branches items : List Tree) : Tree :=
  .ofAlternation (.ofConcat items.reverse :: branches).reverse

/-- A pattern up to its end or to the parenthesis that closes the group around it. Every step takes
a character, so `fuel` is at most the length of the text. -/
def readBranches : Nat → Progress → List Tree → List Tree → List Char →
    Option (Tree × Progress × List Char)
  | 0, _, _, _, _ => none
  | fuel + 1, p, branches, items, cs =>
    match skip p.verbose cs with
    | [] => some (closeBranches branches items, p, [])
    | ')' :: rest => some (closeBranches branches items, p, ')' :: rest)
    | '|' :: rest => readBranches fuel p (.ofConcat items.reverse :: branches) [] rest
    | '(' :: rest =>
      match readGroupOpening (skip p.verbose rest) with
      | none => none
      | some (.inline change, rest) =>
        readBranches fuel { p with verbose := change.verbose.getD p.verbose } branches
          (.flags change :: items) rest
      | some (.capture name, rest) =>
        if name.any p.names.contains then none
        else
          let inner := { p with captures := p.captures + 1, names := name.toList ++ p.names }
          match readBranches fuel inner [] [] rest with
          | some (t, q, ')' :: rest) =>
            readBranches fuel { q with verbose := p.verbose } branches
              (.capture inner.captures t :: items) rest
          | _ => none
      | some (.flags change, rest) =>
        let inner := { p with verbose := change.verbose.getD p.verbose }
        match readBranches fuel inner [] [] rest with
        | some (t, q, ')' :: rest) =>
          readBranches fuel { q with verbose := p.verbose } branches (.group change t :: items) rest
        | _ => none
    | '[' :: rest =>
      match readClass p.verbose rest with
      | some (t, rest) => readBranches fuel p branches (t :: items) rest
      | none => none
    | '?' :: rest =>
      match readRepetition items 0 (some 1) rest with
      | some (items, rest) => readBranches fuel p branches items rest
      | none => none
    | '*' :: rest =>
      match readRepetition items 0 none rest with
      | some (items, rest) => readBranches fuel p branches items rest
      | none => none
    | '+' :: rest =>
      match readRepetition items 1 none rest with
      | some (items, rest) => readBranches fuel p branches items rest
      | none => none
    | '{' :: rest =>
      match readCounts p.verbose rest with
      | none => none
      | some ((min, max), rest) =>
        match readRepetition items min max (skip p.verbose rest) with
        | some (items, rest) => readBranches fuel p branches items rest
        | none => none
    | '\\' :: rest =>
      match readEscape p.verbose rest with
      | some (t, rest) => readBranches fuel p branches (t :: items) rest
      | none => none
    | '.' :: rest => readBranches fuel p branches (.dot :: items) rest
    | '^' :: rest => readBranches fuel p branches (.anchor .lineStart :: items) rest
    | '$' :: rest => readBranches fuel p branches (.anchor .lineEnd :: items) rest
    | c :: rest => readBranches fuel p branches (.literal ⟨c, false⟩ :: items) rest

/-- The tree of a pattern, if the text is one and does not nest too deep. -/
def Tree.read? (verbose : Bool) (cs : List Char) : Option Tree :=
  match readBranches (cs.length + 1) { verbose } [] [] cs with
  | some (t, _, []) => if t.depth ≤ nestLimit then some t else none
  | _ => none

end LexGen.Regex
