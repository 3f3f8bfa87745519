import LexGen.Journal
import LexGen.ScanState.Excerpt

/-!
# Contexts

A scanner shares a context with its user: a handler for the errors in the text, the text that rules
have echoed, and the notes on what has been done.
-/

namespace LexGen

/-- What to do with an error, given the errors handled before, the latest first: go on with a token
or with none, or fail. -/
abbrev Handler := List LexicalError → LexicalError → Except Error (Option Token)

structure Context where
  handler : Option Handler := none
  /-- The errors that have been handled, the latest first. -/
  handled : List LexicalError := []
  echoed : List Char := []
  /-- The notes, the latest first. -/
  notes : List Note := []

namespace Context

instance : Inhabited Context := ⟨{}⟩

/-- Hands an error to the handler. Without one, the error is the result. -/
def report (c : Context) (e : LexicalError) : Except Error (Option Token) × Context :=
  match c.handler with
  | some handle => (handle c.handled e, { c with handled := e :: c.handled })
  | none => (.error (.lexical e), c)

def trace (c : Context) (text : String) : Context := { c with notes := ⟨.trace, text⟩ :: c.notes }

def echo (c : Context) (text : List Char) : Context :=
  { c.trace ("ECHO '" ++ String.ofList text ++ "'") with echoed := c.echoed ++ text }

/-- The echoed text, which is then gone. -/
def takeEchoed (c : Context) : List Char × Context := (c.echoed, { c with echoed := [] })

end Context

/-- What an action works on. -/
structure Session where
  state : ScanState
  context : Context

namespace Session

instance : Inhabited Session := ⟨⟨default, default⟩⟩

/-- Rejects the match, so that the next rule is tried. Without backtracking this is an error. -/
def reject (s : Session) : Except Error (Option Token) × Session :=
  if s.state.flags.backtracking then
    (.ok none, { s with state := { s.state with rejected := true } })
  else
    let (result, context) := s.context.report s.state.cannotReject
    (result, { s with context })

/-- Changes the state. -/
def mapState (f : ScanState → ScanState) (s : Session) : Session := { s with state := f s.state }

end Session
end LexGen
