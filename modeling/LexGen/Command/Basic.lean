import LexGen.Context
import LexGen.Text.Quoted

/-!
# Commands

The action of a rule is a list of commands. Each has one canonical text, which is what is written
out; `run` gives them their meaning.
-/

namespace LexGen

inductive Command
  /-- Ends the action with a token. -/
  | give (t : Token)
  /-- Ends the action without a token. -/
  | skip
  | begin (condition : String)
  | pop
  | more
  | reject
  | less (n : UInt64)
  | unput (text : String)
  | input
  | echo
deriving DecidableEq, Repr, Inhabited

namespace Command

def quote (s : String) : String := String.ofList (Text.Quoted.encode s.toList)

/-- The canonical text. -/
def text : Command → String
  | give .eof => "return this.EOF"
  | give (.code n) => "return " ++ Nat.repr n.toNat
  | give (.name s) => "return " ++ quote s
  | skip => "return"
  | begin condition => "this.begin(" ++ quote condition ++ ")"
  | pop => "this.popState()"
  | more => "this.more()"
  | reject => "this.reject()"
  | less n => "this.less(" ++ Nat.repr n.toNat ++ ")"
  | unput text => "this.unput(" ++ quote text ++ ")"
  | input => "this.input()"
  | echo => "ECHO"

end Command

/-- The action of a rule. -/
structure Action where
  commands : List Command := []
deriving DecidableEq, Repr, Inhabited

namespace Action

/-- The canonical text, each command ended by a semicolon. -/
def text (a : Action) : String := String.intercalate " " (a.commands.map fun c => c.text ++ ";")

/-- Runs commands until one of them ends the action. -/
def runCommands : List Command → Session → Except Error (Option Token) × Session
  | [], s => (.ok none, s)
  | .give t :: _, s => (.ok (some t), s)
  | .skip :: _, s => (.ok none, s)
  | .begin condition :: rest, s => runCommands rest (s.mapState (·.begin condition))
  | .pop :: rest, s => runCommands rest (s.mapState (·.pop.2))
  | .more :: rest, s => runCommands rest (s.mapState (·.keep))
  | .reject :: rest, s =>
    match s.reject with
    | (.ok none, s) => runCommands rest s
    | stopped => stopped
  | .less n :: rest, s => runCommands rest (s.mapState (·.less n.toNat))
  | .unput text :: rest, s => runCommands rest (s.mapState (·.unput text.toList))
  | .input :: rest, s => runCommands rest (s.mapState (·.input.2))
  | .echo :: rest, s => runCommands rest { s with context := s.context.echo s.state.current }

def run (a : Action) (s : Session) : Except Error (Option Token) × Session :=
  runCommands a.commands s

end Action
end LexGen
