import LexGen.Proofs.ScanState.Sound
import Mathlib.Data.List.DropRight

/-!
# Where operations lead

A state is `Reachable` if operations lead to it from a new state, in any order, whoever calls them.
Such states are sound (`Reachable.sound`), and a scanner comes to no others, whatever the calls
(`Engine.reachable_of_reaches`).

What an operation does to the texts it then does to the counters, too. So putting text back is told
by what becomes of the texts (`ScanState.PutBack`, `Reachable.putBack_unput`), also where it goes
back beyond the match, or beyond all that has been taken.
-/

namespace LexGen

/-- Of two texts in a row the beginning has as much of the first one as it can. -/
theorem Text.utf8Length_take_left (a b : List Char) (n : ℕ) :
    utf8Length (a.take n) = min (utf8Length a) (utf8Length ((a ++ b).take n)) := by
  rcases Nat.le_total n a.length with hle | hle
  · have hbytes := utf8Length_append (a.take n) (a.drop n)
    rw [List.take_append_drop] at hbytes
    rw [List.take_append_of_le_length hle]
    omega
  · rw [List.take_append, List.take_of_length_le hle, utf8Length_append]
    omega

namespace ScanState

/-- The states that operations lead to from a new one. -/
inductive Reachable : ScanState → Prop
  | start (flags : ScanFlags) (input : List Char) : Reachable (.start flags input)
  | prepare {s : ScanState} : Reachable s → Reachable s.prepare
  | commit {s : ScanState} (n : ℕ) : Reachable s → Reachable (s.commit n)
  | input {s : ScanState} : Reachable s → Reachable s.input.2
  | unput {s : ScanState} (text : List Char) : Reachable s → Reachable (s.unput text)
  | keep {s : ScanState} : Reachable s → Reachable s.keep
  | reject {s : ScanState} : Reachable s → Reachable (Command.reject.change s)
  | begin {s : ScanState} (condition : String) : Reachable s → Reachable (s.begin condition)
  | pop {s : ScanState} : Reachable s → Reachable s.pop.2
  | checkEnd {s : ScanState} : Reachable s → Reachable s.checkEnd
  | checkResumed {s : ScanState} : Reachable s → Reachable s.checkResumed

namespace Reachable

variable {s : ScanState}

theorem less (h : Reachable s) (n : ℕ) : Reachable (s.less n) := h.unput _

theorem exists_sound (h : Reachable s) : ∃ flags, Sound flags s := by
  induction h with
  | start flags input => exact ⟨flags, .start flags input⟩
  | prepare _ ih => exact ih.imp fun _ h => h.prepare
  | commit n _ ih => exact ih.imp fun _ h => h.commit n
  | input _ ih => exact ih.imp fun _ h => h.input
  | unput text _ ih => exact ih.imp fun _ h => h.unput text
  | keep _ ih => exact ih.imp fun _ h => h.keep
  | reject _ ih => exact ih.imp fun _ h => h.reject
  | begin condition _ ih => exact ih.imp fun _ h => h.begin condition
  | pop _ ih => exact ih.imp fun _ h => h.pop
  | checkEnd _ ih => exact ih.imp fun _ h => h.checkEnd
  | checkResumed _ ih => exact ih.imp fun _ h => h.checkResumed

theorem sound (h : Reachable s) : Sound s.flags s := by
  obtain ⟨flags, hs⟩ := h.exists_sound
  rwa [hs.flags_eq]

theorem change (h : Reachable s) (c : Command) : Reachable (c.change s) := by
  cases c with
  | give t => exact h
  | skip => exact h
  | begin condition => exact h.begin condition
  | pop => exact h.pop
  | more => exact h.keep
  | reject => exact h.reject
  | less n => exact h.less _
  | unput text => exact h.unput _
  | input => exact h.input
  | echo => exact h

theorem change_of_call (h : Reachable s) (c : Call) : Reachable (c.change s) := by
  cases c with
  | input => exact h.input
  | unput text => exact h.unput text
  | less n => exact h.less n
  | more => exact h.keep
  | reject => exact h.reject
  | begin condition => exact h.begin condition
  | pop => exact h.pop
  | _ => exact h

theorem nextMatch {e : Engine} {s : Session} (h : Reachable s.state) :
    Reachable (e.scanner.nextMatch s).2.state :=
  Scanner.kept_nextMatch (fun _ h => h.checkEnd.prepare) (fun n _ h => h.commit n)
    (fun _ _ c _ _ h => h.change c) (fun _ h => h.checkResumed) h

end Reachable
end ScanState

/-- Whatever the calls, a scanner comes to states that operations lead to. -/
theorem Engine.reachable_of_reaches (e : Engine) {P : Call → Session → Prop} {context : Context}
    {input : List Char} {s : Session}
    (h : e.scanner.Reaches P (e.scanner.start context input) s) : s.state.Reachable :=
  h.state_invariant (fun input => .start _ input) (fun _ hs => hs.nextMatch)
    fun c _ hs => hs.change_of_call c

namespace ScanState

/-! ## Text put back -/

/-- From `s` to `t` the text is put in front of what remains, in place of as many characters at the
end of what has been taken and at the end of the match. Where there are fewer, all are gone. -/
structure PutBack (text : List Char) (s t : ScanState) : Prop where
  remaining_eq : t.remaining = text ++ s.remaining
  matched_eq : t.matched = s.matched.rdrop text.length
  current_eq : t.current = s.current.rdrop text.length
  matchStart_eq : t.matchStart = min s.matchStart t.cursor
  offset_eq : t.offset = t.matched.length
  length_eq : t.length = t.current.length
  firstLine_eq : t.location.firstLine = s.location.firstLine
  firstColumn_eq : t.location.firstColumn = s.location.firstColumn
  rangeStart_eq : t.location.range.map Prod.fst = s.location.range.map Prod.fst
  conditions_eq : t.conditions = s.conditions
  flags_eq : t.flags = s.flags
  more_eq : t.more = s.more
  rejected_eq : t.rejected = s.rejected
  done_eq : t.done = s.done

/-- The match still begins where it did, unless that has been put back. -/
theorem matchStart_unput (text : List Char) (s : ScanState) :
    (s.unput text).matchStart = min s.matchStart (s.unput text).cursor := by
  rw [cursor, matched_unput]
  exact Text.utf8Length_take_left s.before s.current _

theorem Reachable.putBack_unput {s : ScanState} (h : Reachable s) (text : List Char) :
    PutBack text s (s.unput text) where
  remaining_eq := rfl
  matched_eq := matched_unput text s
  current_eq := current_unput
  matchStart_eq := matchStart_unput text s
  offset_eq := (h.unput text).sound.offset_eq
  length_eq := (h.unput text).sound.length_eq
  firstLine_eq := rfl
  firstColumn_eq := rfl
  rangeStart_eq := by
    show (s.location.range.map _).map Prod.fst = _
    rw [Option.map_map]
    rfl
  conditions_eq := rfl
  flags_eq := rfl
  more_eq := rfl
  rejected_eq := rfl
  done_eq := rfl

/-- Two characters are put back from a line break, one of them beyond the match, and then more than
all that has been taken. -/
theorem Reachable.putBack_unput_beyond : ∃ s : ScanState,
    s = ((ScanState.start { ranges := true }
      ['a', 'ß', '\n', 'd']).prepare.commit 2).prepare.commit 1 ∧
    s.Reachable ∧ s.matched = ['a', 'ß', '\n'] ∧ s.current = ['\n'] ∧
    s.location = ⟨1, 2, 2, 0, some (2, 3)⟩ ∧
    PutBack ['x', 'y'] s (s.unput ['x', 'y']) ∧
    (s.unput ['x', 'y']).matched = ['a'] ∧ (s.unput ['x', 'y']).current = [] ∧
    (s.unput ['x', 'y']).location.range = some (2, 2) ∧
    PutBack ['v', 'w', 'x', 'y'] s (s.unput ['v', 'w', 'x', 'y']) ∧
    (s.unput ['v', 'w', 'x', 'y']).matched = [] ∧
    (s.unput ['v', 'w', 'x', 'y']).remaining = ['v', 'w', 'x', 'y', 'd'] := by
  have hs : (((ScanState.start { ranges := true }
      ['a', 'ß', '\n', 'd']).prepare.commit 2).prepare.commit 1).Reachable :=
    (((Reachable.start _ _).prepare.commit 2).prepare).commit 1
  exact ⟨_, rfl, hs, rfl, rfl, rfl, hs.putBack_unput ['x', 'y'], rfl, rfl, rfl,
    hs.putBack_unput ['v', 'w', 'x', 'y'], rfl, rfl⟩

end ScanState
end LexGen
