import LexGen.Engine.Data
import LexGen.Text.Escaped
import LexGen.Text.Uppercase

/-!
# Source text

An engine is written out as the source of a module. Its tables form one expression, which every
wrapping holds in the same way; the wrappings differ in what stands around it.

The text is put together line by line. No line holds a line break, except for the line that the
tables begin in and for the epilogue.
-/

namespace LexGen

/-! ## Names -/

/-- Words of the written language that cannot be names. -/
def keywords : List String := [
  "abstract", "as", "async", "await", "become", "box", "break", "const", "continue", "crate", "do",
  "dyn", "else", "enum", "extern", "false", "final", "fn", "for", "gen", "if", "impl", "in", "let",
  "loop", "macro", "match", "mod", "move", "mut", "override", "priv", "pub", "ref", "return",
  "self", "Self", "static", "struct", "super", "trait", "true", "try", "type", "typeof", "unsafe",
  "unsized", "use", "virtual", "where", "while", "yield"]

/-- Letters, digits and the low line stay; all else becomes a low line. -/
def identifierChar (c : Char) : Char :=
  if CharSet.alphanumeric.contains c || c == '_' then c else '_'

/-- The name of a module as a name of the written language. A low line goes in front of what is no
name otherwise. -/
def identifier (name : String) : String :=
  let cs := name.toList.map identifierChar
  let cs := if cs.isEmpty then ['_'] else cs
  if cs = ['_'] || cs.head?.any Char.isDigit || keywords.contains (String.ofList cs) then
    String.ofList ('_' :: cs)
  else String.ofList cs

/-! ## Lines -/

def indentation : String := "    "

def indent (lines : List String) : List String := lines.map (indentation ++ ·)

/-! ## The tables -/

def boolText (b : Bool) : String := if b then "true" else "false"

def ruleLine (rule : Nat × String × String) : String :=
  "/* " ++ Nat.repr rule.1 ++ " */ (" ++ Text.literalString rule.2.1 ++ ", " ++
    Text.literalString rule.2.2 ++ "),"

def conditionLine (row : String × Bool × List Nat) : String :=
  "(" ++ Text.literalString row.1 ++ ", " ++ boolText row.2.1 ++ ", &[" ++
    String.intercalate ", " (row.2.2.map Nat.repr) ++ "]),"

def flagLines (f : ScanFlags) : List String := [
  "ranges: " ++ boolText f.ranges ++ ",",
  "flex: " ++ boolText f.flex ++ ",",
  "backtrack_lexer: " ++ boolText f.backtracking ++ ",",
  "case_insensitive: " ++ boolText f.caseless ++ ","]

namespace EngineData

/-- The rules with their numbers. -/
def numberedRules (d : EngineData) : List (Nat × String × String) :=
  d.rules.zipIdx.map fun r => (r.2, r.1)

/-- The lines of the expression of the tables. -/
def lines (d : EngineData) : List String :=
  ["EngineData \x7b"] ++
  indent (
    ["rules: &["] ++ indent (d.numberedRules.map ruleLine) ++ ["],"] ++
    ["conditions: &["] ++ indent (d.conditions.map conditionLine) ++ ["],"] ++
    ["options: ScanOptions \x7b"] ++ indent (flagLines d.flags) ++ ["\x7d,"]) ++
  ["\x7d"]

/-- The expression of the tables. It goes on with a line that has begun; the other lines have a
margin. -/
def expression (margin : String) (d : EngineData) : String :=
  String.intercalate ("\n" ++ margin) d.lines

end EngineData

/-! ## Wrappings -/

def header : List String := ["// Generated by scanlex 0.1.0", ""]

/-- The entry point, which collects the tokens of an input. -/
def entryPoint (constructor : String) : List String := [
  "pub fn lex(input: &str) -> scanlex::Result<Vec<Token>> \x7b",
  "    let engine = " ++ constructor ++ "()?;",
  "    let mut scanner = engine.scanner(input);",
  "    let mut tokens = Vec::new();",
  "    loop \x7b",
  "        let token = scanner.lex()?;",
  "        if token.is_eof() \x7b",
  "            return Ok(tokens);",
  "        \x7d",
  "        tokens.push(token);",
  "    \x7d",
  "\x7d"]

/-- What a wrapping makes of the tables. -/
def Wrapping.lines (w : Wrapping) (moduleName : String) (d : EngineData) : List String :=
  let name := identifier moduleName
  match w with
  | .bare => [d.expression ""]
  | .named =>
    let upper := String.ofList (Text.uppercase name.toList)
    ["use scanlex::\x7bEngineData, ScanOptions\x7d;", "",
      "pub static " ++ upper ++ ": EngineData<'static> = " ++ d.expression "" ++ ";"]
  | .module =>
    ["pub mod " ++ name ++ " \x7b",
      "    use scanlex::\x7bCompiledEngine, EngineData, Lexer, ScanOptions, Token\x7d;", "",
      "    pub static ENGINE: EngineData<'static> = " ++ d.expression indentation ++ ";", "",
      "    pub fn lexer() -> scanlex::Result<CompiledEngine> \x7b",
      "        CompiledEngine::try_from(&ENGINE)",
      "    \x7d",
      ""] ++
    indent (entryPoint "lexer") ++ ["\x7d"]
  | .factory =>
    ["use scanlex::\x7bCompiledEngine, EngineData, Lexer, ScanOptions, Token\x7d;", "",
      "pub fn " ++ name ++ "() -> scanlex::Result<CompiledEngine> \x7b",
      "    static ENGINE: EngineData<'static> = " ++ d.expression indentation ++ ";",
      "    CompiledEngine::try_from(&ENGINE)",
      "\x7d",
      ""] ++
    entryPoint name

namespace Engine

/-- The lines of the written module. -/
def sourceLines (e : Engine) : List String :=
  header ++ e.wrapping.lines e.moduleName e.data ++
    if e.epilogue.isEmpty then [] else ["", e.epilogue]

/-- The source of the module. -/
def source (e : Engine) : String := String.join (e.sourceLines.map (· ++ "\n"))

end Engine

/-! ## Writing -/

/-- What has been written to a place of limited size. -/
structure Written where
  bytes : Nat
  /-- The characters written; one that has been cut shows as a replacement character. -/
  text : List Char
  full : Bool
deriving DecidableEq, Repr

/-- The characters that fit in `limit` bytes. -/
def fitting : Nat → List Char → List Char
  | _, [] => []
  | limit, c :: cs =>
    if c.utf8Size ≤ limit then c :: fitting (limit - c.utf8Size) cs
    else if limit = 0 then [] else ['\uFFFD']

/-- Writes a text to a place that takes `limit` bytes. -/
def writeWithin (limit : Nat) (text : String) : Written :=
  let size := Text.utf8Length text.toList
  { bytes := min limit size, text := fitting limit text.toList, full := limit < size }

end LexGen
