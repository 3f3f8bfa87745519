import LexGen.Context
import LexGen.Text.Escaped

/-!
# Descriptions

A state on one line, for looking into a scanner. Positions in it are counted in bytes.
-/

namespace LexGen

/-- A record of a given name, field by field. -/
def describeRecord (name : String) (fields : List (String × String)) : String :=
  name ++ " \x7b " ++ String.intercalate ", " (fields.map fun f => f.1 ++ ": " ++ f.2) ++ " \x7d"

def describeBool (b : Bool) : String := if b then "true" else "false"

def describeText (cs : List Char) : String := String.ofList (Text.literal cs)

def describeList (items : List String) : String := "[" ++ String.intercalate ", " items ++ "]"

def Location.describe (l : Location) : String :=
  describeRecord "Location" [
    ("first_line", Nat.repr l.firstLine),
    ("last_line", Nat.repr l.lastLine),
    ("first_column", Nat.repr l.firstColumn),
    ("last_column", Nat.repr l.lastColumn),
    ("range", match l.range with
      | none => "None"
      | some r => "Some((" ++ Nat.repr r.1 ++ ", " ++ Nat.repr r.2 ++ "))")]

def ScanFlags.describe (f : ScanFlags) : String :=
  describeRecord "ScanOptions" [
    ("ranges", describeBool f.ranges),
    ("flex", describeBool f.flex),
    ("backtrack_lexer", describeBool f.backtracking),
    ("case_insensitive", describeBool f.caseless)]

/-- The byte position where the current match begins. -/
def ScanState.matchStart (s : ScanState) : Nat := Text.utf8Length s.before

/-- The byte position where what remains begins. -/
def ScanState.cursor (s : ScanState) : Nat := Text.utf8Length s.matched

def ScanState.describe (s : ScanState) : String :=
  describeRecord "ScanState" [
    ("input", describeText s.whole),
    ("cursor", Nat.repr s.cursor),
    ("match_start", Nat.repr s.matchStart),
    ("offset", Nat.repr s.offset),
    ("yyleng", Nat.repr s.length),
    ("yylineno", Nat.repr s.line),
    ("yylloc", s.location.describe),
    ("condition_stack", describeList (s.conditions.reverse.map Text.literalString)),
    ("more", describeBool s.more),
    ("backtrack", describeBool s.rejected),
    ("done", describeBool s.done),
    ("options", s.flags.describe)]

def Context.describe (c : Context) : String :=
  describeRecord "SharedContext" [
    ("error_handler", describeBool c.handler.isSome),
    ("echoed", describeText c.echoed)]

def Session.describe (s : Session) : String :=
  describeRecord "Scanner" [("state", s.state.describe), ("yy", s.context.describe)]

end LexGen
