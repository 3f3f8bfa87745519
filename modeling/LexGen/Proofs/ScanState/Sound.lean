import LexGen.Describe
import LexGen.Engine.Compile
import LexGen.Proofs.Scanner.Step
import Mathlib.Data.String.Basic

/-!
# Scan states are sound

The state cuts its input at two byte positions, which fall between characters and give the texts
they should (`cut`). What it keeps beside the texts can also be counted from them; that it agrees is
what makes a state `Sound`. Every change keeps states sound (`Sound.change` for those that actions
make), so every step does (`Sound.nextMatch`), and all calls lead from a new session to sound states
only (`Engine.sound_of_reaches`).
-/

namespace LexGen

namespace Text

theorem utf8Length_eq : ∀ cs : List Char, utf8Length cs = String.utf8Len cs
  | [] => rfl
  | c :: cs => by rw [utf8Length_cons, String.utf8Len_cons, utf8Length_eq cs, Nat.add_comm]

theorem extract_append (l m r : List Char) :
    String.Pos.Raw.extract (String.ofList (l ++ m ++ r)) ⟨utf8Length l⟩ ⟨utf8Length (l ++ m)⟩ =
      String.ofList m := by
  rw [utf8Length_append, utf8Length_eq, utf8Length_eq]
  exact String.extract_of_valid l m r

theorem isValid_append (l r : List Char) :
    String.Pos.Raw.IsValid (String.ofList (l ++ r)) ⟨utf8Length l⟩ := by
  refine String.Pos.Raw.isValid_ofList.2 ⟨l.length, ?_⟩
  rw [List.take_left, String.utf8ByteSize_ofList, utf8Length_eq]

end Text

namespace ScanState

/-- The text of the input between two byte positions. -/
def slice (s : ScanState) (i j : Nat) : String :=
  String.Pos.Raw.extract (String.ofList s.whole) ⟨i⟩ ⟨j⟩

/-- The byte positions are in order and between characters, and cut the input into its texts. -/
structure Cut (s : ScanState) : Prop where
  matchStart_le : s.matchStart ≤ s.cursor
  cursor_le : s.cursor ≤ Text.utf8Length s.whole
  matchStart_valid : String.Pos.Raw.IsValid (String.ofList s.whole) ⟨s.matchStart⟩
  cursor_valid : String.Pos.Raw.IsValid (String.ofList s.whole) ⟨s.cursor⟩
  before_eq : s.slice 0 s.matchStart = String.ofList s.before
  current_eq : s.slice s.matchStart s.cursor = String.ofList s.current
  matched_eq : s.slice 0 s.cursor = String.ofList s.matched
  remaining_eq : s.slice s.cursor (Text.utf8Length s.whole) = String.ofList s.remaining

theorem cut (s : ScanState) : s.Cut where
  matchStart_le := by
    rw [matchStart, cursor, matched, Text.utf8Length_append]
    omega
  cursor_le := by
    rw [cursor, whole, Text.utf8Length_append]
    omega
  matchStart_valid := by
    rw [whole, matched, List.append_assoc]
    exact Text.isValid_append _ _
  cursor_valid := Text.isValid_append _ _
  before_eq := by
    have h := Text.extract_append [] s.before (s.current ++ s.remaining)
    rwa [List.nil_append, ← List.append_assoc] at h
  current_eq := Text.extract_append _ _ _
  matched_eq := Text.extract_append [] s.matched s.remaining
  remaining_eq := by
    have h := Text.extract_append s.matched s.remaining []
    rwa [List.append_nil] at h

/-- The counters agree with the texts, the range is there where the flags ask for it, and the first
start condition is the initial one. -/
structure Sound (flags : ScanFlags) (s : ScanState) : Prop extends Cut s where
  offset_eq : s.offset = s.matched.length
  length_eq : s.length = s.current.length
  lastLine_eq : s.location.lastLine = s.line + 1
  flags_eq : s.flags = flags
  range_isSome : s.location.range.isSome = flags.ranges
  range_le : ∀ r ∈ s.location.range, r.1 ≤ r.2
  bottom : s.conditions.getLast? = some initial

namespace Sound

variable {flags : ScanFlags} {s : ScanState}

theorem start (flags : ScanFlags) (input : List Char) : Sound flags (.start flags input) where
  toCut := cut _
  offset_eq := rfl
  length_eq := rfl
  lastLine_eq := rfl
  flags_eq := rfl
  range_isSome := by
    show (if flags.ranges then some (0, 0) else none).isSome = flags.ranges
    split_ifs with h <;> simp [h]
  range_le := by
    rintro r hr
    change r ∈ (if flags.ranges then some (0, 0) else none) at hr
    split_ifs at hr
    · rw [Option.mem_some] at hr
      rw [← hr]
    · cases hr
  bottom := rfl

theorem prepare (h : Sound flags s) : Sound flags s.prepare := by
  unfold ScanState.prepare
  split_ifs
  · exact h
  · refine { h with toCut := cut _, length_eq := rfl, offset_eq := ?_ }
    rw [h.offset_eq, matched, matched, List.append_nil]

theorem commit (h : Sound flags s) (n : Nat) : Sound flags (s.commit n) where
  toCut := cut _
  offset_eq := by
    show s.offset + _ = (s.before ++ (s.current ++ _)).length
    rw [← List.append_assoc, List.length_append, h.offset_eq, matched]
  length_eq := by
    show s.length + _ = (s.current ++ _).length
    rw [List.length_append, h.length_eq]
  lastLine_eq := rfl
  flags_eq := h.flags_eq
  range_isSome := by
    show (if s.flags.ranges then some _ else none).isSome = flags.ranges
    rw [h.flags_eq]
    split_ifs with hr <;> simp [hr]
  range_le := by
    intro r hr
    change r ∈ (if s.flags.ranges then some _ else none) at hr
    split_ifs at hr
    · rw [Option.mem_some] at hr
      rw [← hr]
      exact Nat.sub_le _ _
    · cases hr
  bottom := h.bottom

theorem input (h : Sound flags s) : Sound flags s.input.2 := by
  rcases hr : s.remaining with _ | ⟨c, rest⟩
  · rw [input_of_nil hr]
    exact h
  refine ⟨cut _, ?_, ?_, lastLine_input h.lastLine_eq, ?_, ?_, ?_, ?_⟩
  · rw [offset_input hr, matched_input hr, List.length_append, List.length_singleton, h.offset_eq]
  · rw [length_input hr, current_input hr, List.length_append, List.length_singleton, h.length_eq]
  · rw [ScanState.input, hr]
    exact h.flags_eq
  · rw [range_input hr, Option.isSome_map, h.range_isSome]
  · rw [range_input hr]
    intro r hr
    obtain ⟨old, hold, rfl⟩ := Option.map_eq_some_iff.1 hr
    exact (h.range_le old hold).trans (Nat.le_succ _)
  · rw [ScanState.input, hr]
    exact h.bottom

theorem unput (h : Sound flags s) (text : List Char) : Sound flags (s.unput text) where
  toCut := cut _
  offset_eq := by
    have hlen : s.matched.length = s.before.length + s.current.length := List.length_append
    show s.offset - text.length = (s.before.take _ ++ s.current.take _).length
    rw [List.length_append, List.length_take, List.length_take, h.offset_eq]
    omega
  length_eq := rfl
  lastLine_eq := rfl
  flags_eq := h.flags_eq
  range_isSome := by
    show (s.location.range.map _).isSome = flags.ranges
    rw [Option.isSome_map, h.range_isSome]
  range_le := by
    intro r hr
    obtain ⟨old, hold, rfl⟩ := Option.map_eq_some_iff.1 hr
    exact Nat.le_max_right _ _
  bottom := h.bottom

theorem begin (h : Sound flags s) (condition : String) : Sound flags (s.begin condition) := by
  refine { h with toCut := cut _, bottom := ?_ }
  show (condition :: s.conditions).getLast? = some initial
  rw [List.getLast?_cons, h.bottom, Option.getD_some]

theorem pop (h : Sound flags s) : Sound flags s.pop.2 := by
  unfold ScanState.pop
  split
  · rename_i c d rest hc
    refine { h with toCut := cut _, bottom := ?_ }
    rw [← h.bottom, hc, List.getLast?_cons_cons]
  · exact h
  · exact h

theorem keep (h : Sound flags s) : Sound flags s.keep := { h with toCut := cut _ }

theorem reject (h : Sound flags s) : Sound flags (Command.reject.change s) := by
  simp only [Command.change]
  split_ifs
  · exact { h with toCut := cut _ }
  · exact h

theorem checkEnd (h : Sound flags s) : Sound flags s.checkEnd := by
  unfold ScanState.checkEnd
  split_ifs
  · exact { h with toCut := cut _ }
  · exact h

theorem checkResumed (h : Sound flags s) : Sound flags s.checkResumed := by
  unfold ScanState.checkResumed
  split_ifs
  · exact { h with toCut := cut _ }
  · exact h

theorem change (h : Sound flags s) (c : Command) : Sound flags (c.change s) := by
  cases c with
  | give t => exact h
  | skip => exact h
  | begin condition => exact h.begin condition
  | pop => exact h.pop
  | more => exact h.keep
  | reject => exact h.reject
  | less n => exact h.unput _
  | unput text => exact h.unput _
  | input => exact h.input
  | echo => exact h

theorem change_of_call (h : Sound flags s) (c : Call) : Sound flags (c.change s) := by
  cases c with
  | input => exact h.input
  | unput text => exact h.unput text
  | less n => exact h.unput _
  | more => exact h.keep
  | reject => exact h.reject
  | begin condition => exact h.begin condition
  | pop => exact h.pop
  | _ => exact h

/-- A step keeps states sound, whatever comes of it. -/
theorem nextMatch {e : Engine} {s : Session} (h : Sound flags s.state) :
    Sound flags (e.scanner.nextMatch s).2.state :=
  Scanner.kept_nextMatch (fun _ h => h.checkEnd.prepare) (fun n _ h => h.commit n)
    (fun _ _ c _ _ h => h.change c) (fun _ h => h.checkResumed) h

/-- The characters up to the end of the match are those that have been taken. -/
theorem take_offset (h : Sound flags s) : s.whole.take s.offset = s.matched := by
  rw [h.offset_eq, whole, List.take_left]

theorem offset_eq_add (h : Sound flags s) : s.offset = s.before.length + s.current.length := by
  rw [h.offset_eq, matched, List.length_append]

theorem offset_sub_length (h : Sound flags s) : s.offset - s.length = s.before.length := by
  rw [h.offset_eq_add, h.length_eq, Nat.add_sub_cancel]

theorem offset_le (h : Sound flags s) : s.offset ≤ s.whole.length := by
  rw [h.offset_eq, whole, List.length_append]
  exact Nat.le_add_right _ _

/-- All calls lead to sound states. -/
theorem of_reaches {e : Engine} {P : Call → Session → Prop} {context : Context}
    {input : List Char} {s : Session}
    (h : e.scanner.Reaches P (e.scanner.start context input) s) : Sound e.flags s.state :=
  h.state_invariant (fun input => .start _ input) (fun _ hs => hs.nextMatch)
    fun c _ hs => hs.change_of_call c

end Sound
end ScanState

end LexGen
