import LexGen.Journal
import LexGen.Text.Blank

/-!
# Options

Options are given as pairs of a name and a value. Those that steer scanning become flags of the
engine; the others say how the engine is written out.
-/

namespace LexGen

/-- The flags that an engine scans under. -/
structure ScanFlags where
  /-- Locations tell the range of characters. -/
  ranges : Bool := false
  /-- The longest match wins, and what no rule matches is echoed. -/
  flex : Bool := false
  /-- Rules may reject a match. -/
  backtracking : Bool := false
  /-- Case does not matter. -/
  caseless : Bool := false
deriving DecidableEq, Repr, Inhabited

/-- What an engine is wrapped in when it is written out. -/
inductive Wrapping
  /-- Nothing. -/
  | bare
  /-- A constant with a name. -/
  | named
  /-- A module with a constructor and an entry point. -/
  | module
  /-- A constructor and an entry point. -/
  | factory
deriving DecidableEq, Repr, Inhabited

def Wrapping.ofOption : String → Wrapping
  | "bare" => .bare
  | "commonjs" | "module" => .module
  | "amd" | "factory" => .factory
  | _ => .named

structure Options where
  flags : ScanFlags := {}
  wrapping : Wrapping := .named
  moduleName : Option String := none
deriving DecidableEq, Repr, Inhabited

namespace Options

def defaultModuleName : String := "lexer"

def name (o : Options) : String := o.moduleName.getD defaultModuleName

/-- Whether a value turns a flag on. -/
def isOn (value : String) : Bool := value = "" || value = "true" || value = "1"

/-- Sets an option, if there is one of that name. Blanks around the value do not count. -/
def set (o : Options) (name value : String) : Options :=
  let value := String.ofList (Text.trim value.toList)
  match name with
  | "ranges" => { o with flags.ranges := isOn value }
  | "flex" => { o with flags.flex := isOn value }
  | "backtrack_lexer" => { o with flags.backtracking := isOn value }
  | "case-insensitive" => { o with flags.caseless := isOn value }
  | "moduleType" => { o with wrapping := .ofOption value }
  | "moduleName" => { o with moduleName := some value }
  | _ => o

def isOption (name : String) : Bool :=
  ["ranges", "flex", "backtrack_lexer", "case-insensitive", "moduleType", "moduleName"].contains name

/-- The notes on setting an option: a name that is no option is passed over with a warning. -/
def setNotes (name : String) : List Note :=
  if isOption name then [] else [⟨.warn, "Ignoring unknown option '" ++ name ++ "'"⟩]

end Options
end LexGen
