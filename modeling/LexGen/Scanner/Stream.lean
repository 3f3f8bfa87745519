import LexGen.Scanner.Basic

/-!
# Token streams

The tokens of a scanner one after the other, each with its place, up to the end of the input or to
the first error.
-/

namespace LexGen

/-- A token with the place of its text, counted in characters and in lines. -/
structure Match where
  token : Token
  start : Nat
  stop : Nat
  location : Location
deriving DecidableEq, Repr

namespace Match

def length (m : Match) : Nat := m.stop - m.start

def isEmpty (m : Match) : Bool := m.stop ≤ m.start

/-- A token with the place of the current match. -/
def ofState (token : Token) (s : ScanState) : Match where
  token
  start := s.offset - s.length
  stop := s.offset
  location := s.location

end Match

structure TokenStream where
  session : Session
  finished : Bool := false

namespace TokenStream

/-- The next item, if at most `n` steps lead to it. After the end there is none. -/
def next (sc : Scanner) (n : Nat) (t : TokenStream) :
    Option (Option (Except Error Match) × TokenStream) :=
  if t.finished then some (none, t)
  else
    match sc.lexWithin n t.session with
    | none => none
    | some (.error e, s) => some (some (.error e), ⟨s, true⟩)
    | some (.ok .eof, s) => some (none, ⟨s, true⟩)
    | some (.ok token, s) => some (some (.ok (.ofState token s.state)), ⟨s, false⟩)

/-- At most `count` items, each within `n` steps. -/
def take (sc : Scanner) (n : Nat) :
    Nat → TokenStream → Option (List (Except Error Match) × TokenStream)
  | 0, t => some ([], t)
  | count + 1, t =>
    match t.next sc n with
    | none => none
    | some (none, t) => some ([], t)
    | some (some item, t) => (take sc n count t).map fun r => (item :: r.1, r.2)

end TokenStream
end LexGen
