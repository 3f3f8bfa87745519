import LexGen.Command.Basic
import LexGen.Text.Blank
import LexGen.Text.Number
import LexGen.Text.Search

/-!
# Reading actions

The text of an action is cut into statements at semicolons and line breaks that stand outside quotes,
and each statement is read as one command. Comments are dropped. A function or a block around the
statements is taken off first.
-/

namespace LexGen

open Text (isBlank)
open Text.Quoted (isQuote)

/-! ## Quotes -/

/-- Whether a text is inside quotes: the quote that is open, and whether a backslash has taken the
meaning from the next character. -/
structure Quoting where
  quote : Char
  escaped : Bool := false
deriving DecidableEq, Repr

/-- What quotes are open after one more character. -/
def Quoting.next (q : Option Quoting) (c : Char) : Option Quoting :=
  match q with
  | none => if isQuote c then some ⟨c, false⟩ else none
  | some q =>
    if q.escaped then some { q with escaped := false }
    else if c = '\\' then some { q with escaped := true }
    else if c = q.quote then none
    else some q

/-! ## Wrappers -/

/-- How many characters there are up to the brace that brings the depth of braces down to zero,
where braces in quotes do not count. -/
def closingBrace? : Option Quoting → Nat → List Char → Option Nat
  | _, _, [] => none
  | some q, depth, c :: cs => (closingBrace? (Quoting.next (some q) c) depth cs).map (· + 1)
  | none, depth, c :: cs =>
    if c = '}' then
      if depth = 0 then none
      else if depth = 1 then some 0
      else (closingBrace? none (depth - 1) cs).map (· + 1)
    else
      let depth := if c = '{' then depth + 1 else depth
      (closingBrace? (Quoting.next none c) depth cs).map (· + 1)

/-- Whether a text is a block: the brace that it starts with is closed by its last character. -/
def isBlock (cs : List Char) : Bool :=
  cs.head? == some '{' && closingBrace? none 0 cs == some (cs.length - 1)

/-- Takes off the blocks around a text, of which there are at most `fuel`. -/
def stripBlocks : Nat → List Char → List Char
  | 0, cs => cs
  | fuel + 1, cs => if isBlock cs then stripBlocks fuel (Text.trim cs.tail.dropLast) else cs

/-- What a function holds, from its opening brace on. What comes before the brace has to end with a
closing parenthesis. -/
def stripFunction (cs : List Char) : List Char :=
  match Text.after? "function".toList cs with
  | none => cs
  | some rest =>
    match Text.cut? '{' rest with
    | some (head, body) =>
      if (Text.trimEnd head).getLast? = some ')' then Text.trim ('{' :: body) else cs
    | none => cs

/-- The statements of an action. -/
def stripWrappers (cs : List Char) : List Char :=
  stripBlocks cs.length (stripFunction (Text.trim cs))

/-! ## Statements -/

/-- Where a text is read: in a statement, perhaps in quotes, or in a comment that ends with its line
or with an asterisk and a slash, of which the asterisk may have been read. -/
inductive StatementPlace
  | code (q : Option Quoting)
  | lineComment
  | blockComment (star : Bool)
deriving DecidableEq, Repr

/-- Adds a character to the first of the statements. -/
def addToFirst (c : Char) : List (List Char) → List (List Char)
  | [] => [[c]]
  | s :: ss => (c :: s) :: ss

/-- Cuts a text into statements and leaves out the comments. -/
def cutStatements : StatementPlace → List Char → List (List Char)
  | _, [] => [[]]
  | .code (some q), c :: cs => addToFirst c (cutStatements (.code (Quoting.next (some q) c)) cs)
  | .code none, '/' :: '/' :: cs => cutStatements .lineComment cs
  | .code none, '/' :: '*' :: cs => cutStatements (.blockComment false) cs
  | .code none, c :: cs =>
    if c = ';' ∨ c = '\n' ∨ c = '\r' then [] :: cutStatements (.code none) cs
    else addToFirst c (cutStatements (.code (Quoting.next none c)) cs)
  | .lineComment, c :: cs =>
    if c = '\n' then [] :: cutStatements (.code none) cs else cutStatements .lineComment cs
  | .blockComment star, c :: cs =>
    if star && c == '/' then cutStatements (.code none) cs
    else cutStatements (.blockComment (c == '*')) cs

/-- The statements without the blanks around them. -/
def statements (cs : List Char) : List (List Char) :=
  ((cutStatements (.code none) cs).map Text.trim).filter (!·.isEmpty)

/-! ## Commands -/

/-- The value of a `return`. Declared token names are replaced by what they stand for. -/
def readReturn (tokens : Option TokenTable) (value : List Char) : Except String Command :=
  if value.isEmpty then .ok .skip
  else if value = "EOF".toList ∨ value = "this.EOF".toList then .ok (.give .eof)
  else
    match Text.Quoted.decode? value with
    | some name =>
      let name := String.ofList name
      .ok (.give ((tokens.map (·.resolve name)).getD (.name name)))
    | none =>
      match Text.number? value with
      | some n => .ok (.give (.code n))
      | none => .error "expected a token name or code"

/-- A call of a function, given its name and the text between its parentheses. -/
def readCall (name args : List Char) : Except String Command :=
  let plain (c : Command) : Except String Command :=
    if args.isEmpty then .ok c else .error "unexpected arguments"
  match String.ofList name with
  | "begin" | "pushState" =>
    match Text.Quoted.decode? args with
    | some s => .ok (.begin (String.ofList s))
    | none => .error "expected a quoted start condition"
  | "unput" =>
    match Text.Quoted.decode? args with
    | some s => .ok (.unput (String.ofList s))
    | none => .error "expected a quoted text"
  | "less" =>
    match Text.number? args with
    | some n => .ok (.less n)
    | none => .error "expected a character count"
  | "popState" => plain .pop
  | "more" => plain .more
  | "reject" => plain .reject
  | "input" => plain .input
  | _ => .error "unknown function"

/-- The text after `return`, if a statement is one. -/
def returnValue? (statement : List Char) : Option (List Char) :=
  match Text.after? "return".toList statement with
  | some [] => some []
  | some (c :: rest) => if isBlank c || isQuote c then some (Text.trim (c :: rest)) else none
  | none => none

/-- The command that a statement says, or why it says none. -/
def readStatement (tokens : Option TokenTable) (statement : List Char) : Except String Command :=
  if statement = "ECHO".toList ∨ Text.withoutBlanks statement = "console.log(yytext)".toList then
    .ok .echo
  else
    match returnValue? statement with
    | some value => readReturn tokens value
    | none =>
      let call := (Text.after? "this.".toList statement).getD statement
      if call.getLast? = some ')' then
        match Text.cut? '(' call with
        | some (name, args) => readCall (Text.trim name) (Text.trim args.dropLast)
        | none => .error "not a supported statement"
      else .error "not a supported statement"

/-- Reads the statements of the action of a rule. -/
def readStatements (rule : Nat) (tokens : Option TokenTable) :
    List (List Char) → Except Error (List Command)
  | [] => .ok []
  | s :: ss =>
    match readStatement tokens s with
    | .error reason => .error (.unsupportedAction rule (String.ofList s) reason)
    | .ok c =>
      match readStatements rule tokens ss with
      | .error e => .error e
      | .ok cs => .ok (c :: cs)

/-- Reads the action of a rule. -/
def Action.read (rule : Nat) (text : String) (tokens : Option TokenTable) : Except Error Action :=
  match readStatements rule tokens (statements (stripWrappers text.toList)) with
  | .error e => .error e
  | .ok cs => .ok ⟨cs⟩

end LexGen
