import LexGen.Engine.Basic

/-!
# Scanning

A step of a scanner takes one match and runs the action of its rule. Which rule that is depends on
the flags: the first that matches, the longest match, or, with backtracking, the first that does not
reject. At the end of the input every step gives the end token.

Rules may go on without taking anything, so a run of steps need not end. `lexWithin` bounds their
number and says nothing where the bound is too small.
-/

namespace LexGen

/-- What runs the action of the rule of a given number. -/
abbrev Dispatch := Nat → Session → Except Error (Option Token) × Session

/-- Runs the action of the rule's number. A rule without one gives no token. -/
def Action.dispatch (actions : List Action) : Dispatch := fun rule s =>
  let s := { s with
    context := s.context.trace ("Rule #" ++ Nat.repr rule ++ " action in condition '" ++
      s.state.top 0 ++ "' on '" ++ String.ofList s.state.current ++ "'") }
  match actions[rule]? with
  | some a => a.run s
  | none => (.ok none, s)

/-- An engine with what runs its actions. -/
structure Scanner where
  engine : Engine
  dispatch : Dispatch

/-- The scanner that runs the actions of the engine. -/
def Engine.scanner (e : Engine) : Scanner := ⟨e, Action.dispatch e.actions⟩

/-- What comes of a match. -/
inductive Attempt
  | token (t : Token)
  | noToken
  | rejected
deriving DecidableEq, Repr

/-- A rule and the length in characters of its match. -/
structure Candidate where
  rule : Nat
  length : Nat
deriving DecidableEq, Repr

namespace Engine

/-- The first rule that matches. -/
def firstMatch? (e : Engine) (text : List Char) : List Nat → Option Candidate
  | [] => none
  | r :: rs =>
    match e.matchLength? r text with
    | some n => some ⟨r, n⟩
    | none => firstMatch? e text rs

/-- The longest match, and of several the one that comes first. -/
def longestMatch? (e : Engine) (text : List Char) : List Nat → Option Candidate → Option Candidate
  | [], best => best
  | r :: rs, best =>
    match e.matchLength? r text with
    | none => longestMatch? e text rs best
    | some n =>
      if best.all (·.length < n) then longestMatch? e text rs (some ⟨r, n⟩)
      else longestMatch? e text rs best

/-- The match that is taken where no rule can reject. -/
def select? (e : Engine) (text : List Char) (rules : List Nat) : Option Candidate :=
  if e.flags.flex then e.longestMatch? text rules none else e.firstMatch? text rules

end Engine

namespace Scanner

/-- A new session over an input. -/
def start (sc : Scanner) (context : Context) (input : List Char) : Session :=
  ⟨.start sc.engine.flags input, context⟩

/-- Takes a match and runs the action. A rejected match leaves its trace in the context only. -/
def attempt (sc : Scanner) (m : Candidate) (s : Session) : Except Error Attempt × Session :=
  match sc.dispatch m.rule (s.mapState (·.commit m.length)) with
  | (.error e, t) => (.error e, t)
  | (.ok (some token), t) => (.ok (.token token), t.mapState (·.checkResumed))
  | (.ok none, t) =>
    if t.state.rejected && sc.engine.flags.backtracking then
      (.ok .rejected, ⟨s.state, t.context.trace ("Rule #" ++ Nat.repr m.rule ++ " rejected '" ++
        String.ofList (s.state.remaining.take m.length) ++ "'")⟩)
    else (.ok .noToken, t.mapState (·.checkResumed))

/-- Tries the rules that match in turn. Gives nothing if all of them reject. -/
def tryInTurn (sc : Scanner) :
    List Nat → Session → Except Error (Option (Option Token)) × Session
  | [], s => (.ok none, s)
  | r :: rs, s =>
    match sc.engine.matchLength? r s.state.remaining with
    | none => tryInTurn sc rs s
    | some n =>
      match sc.attempt ⟨r, n⟩ s with
      | (.error e, t) => (.error e, t)
      | (.ok .rejected, t) => tryInTurn sc rs t
      | (.ok .noToken, t) => (.ok (some none), t)
      | (.ok (.token token), t) => (.ok (some (some token)), t)

/-- What to do where no rule matches. -/
def noMatch (s : Session) : Except Error (Option Token) × Session :=
  if s.state.remaining.isEmpty then (.ok (some .eof), s)
  else
    let (result, context) := s.context.report s.state.unrecognized
    (result, { s with context })

/-- Takes the selected match. -/
def takeMatch (sc : Scanner) (m : Candidate) (s : Session) :
    Except Error (Option Token) × Session :=
  let s := { s with
    context := s.context.trace ("Rule #" ++ Nat.repr m.rule ++ " matches " ++
      Nat.repr (Text.utf8Length (s.state.remaining.take m.length)) ++ " bytes") }
  match sc.attempt m s with
  | (.error e, t) => (.error e, t)
  | (.ok (.token token), t) => (.ok (some token), t)
  | (.ok _, t) => (.ok none, t)

/-- Takes one match with the rules that are active. -/
def takeFrom (sc : Scanner) (rules : List Nat) (s : Session) :
    Except Error (Option Token) × Session :=
  if sc.engine.flags.backtracking then
    match sc.tryInTurn rules s with
    | (.error e, t) => (.error e, t)
    | (.ok (some result), t) => (.ok result, t)
    | (.ok none, t) => noMatch t
  else
    match sc.engine.select? s.state.remaining rules with
    | some m => sc.takeMatch m s
    | none => noMatch s

/-- One step. Gives no token if the action of the match gives none. -/
def nextMatch (sc : Scanner) (s : Session) : Except Error (Option Token) × Session :=
  if s.state.done then (.ok (some .eof), s)
  else
    let s := s.mapState (·.checkEnd.prepare)
    match sc.engine.activeRules s.state.active with
    | .error e => (.error e, s)
    | .ok rules => sc.takeFrom rules s

/-- The next token, if at most `n` steps lead to it or to an error. A step that gives no token and
changes nothing before the end of the input is an error. -/
def lexWithin (sc : Scanner) : Nat → Session → Option (Except Error Token × Session)
  | 0, _ => none
  | n + 1, s =>
    match sc.nextMatch s with
    | (.error e, t) => some (.error e, t)
    | (.ok (some token), t) => some (.ok token, t)
    | (.ok none, t) =>
      if !t.state.done && t.state.progress == s.state.progress then
        some (.error (.noProgress t.state.line t.state.active), t)
      else lexWithin sc n t

end Scanner
end LexGen
