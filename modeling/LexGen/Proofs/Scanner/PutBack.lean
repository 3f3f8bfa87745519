import LexGen.Proofs.ScanState.Located
import LexGen.Proofs.Scanner.Executed

/-!
# Text put back where it was taken from

Where actions and calls put back what was taken last, the line number stays that of the breaks that
have been taken. The column stays exact as long as what each text that is put back leaves of the
match is anchored, and after such a text it is exact only then (`Engine.cursor_of_reaches`). Without
matches that are kept for the next one, all that actions put back from their own match is of this
kind. What is put back from a match that goes on with a kept one need not be
(`Engine.cursor_of_kept_match`).
-/

namespace LexGen

open Text (Unpaired column isBreak)

/-- A step, or a call that takes or puts back text. -/
def Call.MovesCursor : Call → Prop
  | .nextMatch | .input | .more | .less _ | .unput _ => True
  | _ => False

instance : (c : Call) → Decidable c.MovesCursor
  | .nextMatch | .input | .more | .less _ | .unput _ => .isTrue trivial
  | .setInput _ _ | .lex | .tokens _ | .reject | .begin _ | .pop | .takeEchoed => .isFalse id

namespace Engine

variable {e : Engine} {source : List Char}

/-- The texts that are put back in a call, each with the state before. -/
def putBacks (e : Engine) : Call → Session → List (List Char × ScanState)
  | .nextMatch, s =>
    (e.executed s).filterMap fun x => (x.1.putBack? x.2).map fun text => (text, x.2)
  | .unput text, s => [(text, s.state)]
  | .less n, s => [(s.state.current.drop n, s.state)]
  | _, _ => []

/-- The call is a step or takes or puts back text, and `Q` holds of what is put back. -/
def PutsBack (e : Engine) (Q : List Char → ScanState → Prop) (c : Call) (s : Session) : Prop :=
  c.MovesCursor ∧ ∀ x ∈ e.putBacks c s, Q x.1 x.2

instance (e : Engine) (Q : List Char → ScanState → Prop) [∀ text s, Decidable (Q text s)] (c : Call)
    (s : Session) : Decidable (e.PutsBack Q c s) :=
  inferInstanceAs (Decidable (_ ∧ _))

theorem mem_putBacks {s : Session} {x : Command × ScanState} {text : List Char}
    (hx : x ∈ e.executed s) (htext : text ∈ x.1.putBack? x.2) :
    (text, x.2) ∈ e.putBacks .nextMatch s :=
  List.mem_filterMap.2 ⟨x, hx, by rw [Option.mem_def.1 htext, Option.map_some]⟩

/-- Calls keep what belongs to a place and is kept where characters are taken or put back. -/
theorem kept_of_putsBack {J : ScanState → Prop} {Q : List Char → ScanState → Prop}
    (hsame : ∀ s t, s.SamePlace t → J s → J t) (hcommit : ∀ n s, J s → J (s.commit n))
    (hinput : ∀ s, J s → J s.input.2) (hunput : ∀ text s, Q text s → J s → J (s.unput text))
    {n : ℕ} {c : Call} {s t : Session} {a : Answer} (hc : e.PutsBack Q c s) (hs : J s.state)
    (h : e.scanner.answer? n c s = some (a, t)) : J t.state := by
  obtain ⟨hmoves, hback⟩ := hc
  cases c with
  | nextMatch =>
    obtain rfl : (e.scanner.nextMatch s).2 = t := (Prod.mk.inj (Option.some.inj h)).2
    have hp : J s.prepared.state := hsame _ _ s.state.samePlace_prepared hs
    refine kept_nextMatch_of_executed hs hp (fun k => hcommit k _ hp) (fun x hx ht => ?_)
      fun t ht => ⟨ht, hsame _ _ t.samePlace_checkResumed ht⟩
    exact Command.kept_change hsame hinput
      (fun text htext => hunput _ _ (hback _ (mem_putBacks hx htext)) ht) ht
  | input =>
    rw [Scanner.state_answer? (c := .input) id nofun h]
    exact hinput _ hs
  | more =>
    rw [Scanner.state_answer? (c := .more) id nofun h]
    exact hsame s.state _ ⟨rfl, rfl, rfl, rfl⟩ hs
  | less k =>
    rw [Scanner.state_answer? (c := .less k) id nofun h]
    exact hunput _ _ (hback _ List.mem_cons_self) hs
  | unput text =>
    rw [Scanner.state_answer? (c := .unput text) id nofun h]
    exact hunput _ _ (hback _ List.mem_cons_self) hs
  | _ => exact hmoves.elim

theorem kept_of_reaches {J : ScanState → Prop} {Q : List Char → ScanState → Prop}
    (hsame : ∀ s t, s.SamePlace t → J s → J t) (hcommit : ∀ n s, J s → J (s.commit n))
    (hinput : ∀ s, J s → J s.input.2) (hunput : ∀ text s, Q text s → J s → J (s.unput text))
    {s t : Session} (h : e.scanner.Reaches (e.PutsBack Q) s t) (hs : J s.state) : J t.state :=
  h.invariant (I := fun s => J s.state) (fun _ _ _ _ _ hc hs ha =>
    kept_of_putsBack hsame hcommit hinput hunput hc hs ha) hs

section Cursor

variable (hin : Unpaired source)

include hin

theorem lined_of_reaches {context : Context} {s : Session}
    (h : e.scanner.Reaches (e.PutsBack fun text u => text <:+ u.matched)
      (e.scanner.start context source) s) : s.state.Lined source := by
  refine kept_of_reaches (J := fun u => u.Lined source) (fun u v huv hu => hu.of_samePlace huv)
    (fun n u hu => hu.commit hin n) (fun u hu => hu.input hin) (fun text u htext hu => ?_) h
    (.start e.flags source)
  exact hu.unput hin htext

theorem aligned_of_reaches {context : Context} {s : Session}
    (h : e.scanner.Reaches (e.PutsBack fun text u => text <:+ u.matched ∧ (u.unput text).Anchored)
      (e.scanner.start context source) s) : s.state.Aligned source := by
  refine kept_of_reaches (J := fun u => u.Aligned source) (fun u v huv hu => hu.of_samePlace huv)
    (fun n u hu => hu.commit hin n) (fun u hu => hu.input hin) (fun text u htext hu => ?_) h
    (.start e.flags source)
  exact .unput hu.toLined hin htext.1 htext.2

/-- A step whose action puts back from its own match starts and ends where the location says. -/
theorem located_nextMatch_of_putsBack (hmore : .more ∉ e.commands) {s : Session}
    (hback : e.PutsBack (fun text u => text <:+ u.current) .nextMatch s)
    (hsound : s.state.Sound e.flags) (hs : s.state.Located source) :
    (e.scanner.nextMatch s).2.state.Located source := by
  have hbegin := hsound.checkEnd.prepare.lastLine_eq
  refine kept_nextMatch_of_executed (J := fun t => t.Placed source) hs hs.prepared
    (hs.prepared.commit hs.current_prepared hbegin hin) (fun x hx ht => ?_)
    fun t ht => ⟨ht.toLocated, ht.checkResumed.toLocated⟩
  refine ht.change hin (fun hx' => hmore (hx' ▸ mem_commands_of_executed hx)) fun text htext => ?_
  exact hback.2 _ (mem_putBacks hx htext)

theorem located_of_reaches (hmore : .more ∉ e.commands) {context : Context} {s : Session}
    (h : e.scanner.Reaches (fun c u => (c = .nextMatch ∨ c = .input) ∧
      e.PutsBack (fun text u => text <:+ u.current) c u) (e.scanner.start context source) s) :
    s.state.Located source := by
  refine (h.invariant (I := fun s => s.state.Sound e.flags ∧ s.state.Located source)
    (fun n c s a t hc hs ha => ?_) ⟨.start e.flags source, .start e.flags source⟩).2
  obtain ⟨rfl | rfl, hback⟩ := hc
  · obtain rfl : (e.scanner.nextMatch s).2 = t := (Prod.mk.inj (Option.some.inj ha)).2
    exact ⟨hs.1.nextMatch, located_nextMatch_of_putsBack hin hmore hback hs.1 hs.2⟩
  · rw [Scanner.state_answer? (c := .input) id nofun ha]
    exact ⟨hs.1.input, .of_aligned (hs.2.aligned.input hin) (s.state.more_input.trans hs.2.more_eq)⟩

end Cursor

/-- Where all text that is put back is what was taken last, the location ends in the line after the
breaks that have been taken. After text has been put back it ends where the text that has been taken
ends if and only if what is left of the match is anchored; so it does so throughout if all that is
put back leaves the match anchored, or if no match is kept for the next one and actions put back
from their own match only. -/
theorem cursor_of_reaches (e : Engine) (context : Context) {source : List Char}
    (hin : Unpaired source) :
    (∀ s, e.scanner.Reaches (e.PutsBack fun text u => text <:+ u.matched)
        (e.scanner.start context source) s →
      s.state.location.lastLine = s.state.matched.countP isBreak + 1 ∧
      ∀ text, text <:+ s.state.matched →
        ((s.state.unput text).location.lastColumn = column (s.state.unput text).matched ↔
          (s.state.unput text).Anchored)) ∧
    (∀ s, e.scanner.Reaches
        (e.PutsBack fun text u => text <:+ u.matched ∧ (u.unput text).Anchored)
        (e.scanner.start context source) s →
      s.state.location.lastColumn = column s.state.matched) ∧
    (.more ∉ e.commands → ∀ s, e.scanner.Reaches
        (fun c u => (c = .nextMatch ∨ c = .input) ∧
          e.PutsBack (fun text u => text <:+ u.current) c u)
        (e.scanner.start context source) s →
      s.state.location.lastColumn = column s.state.matched) := by
  refine ⟨fun s hs => ?_, fun s hs => (aligned_of_reaches hin hs).lastColumn_eq,
    fun hmore s hs => (located_of_reaches hin hmore hs).lastColumn_eq⟩
  have hlined := lined_of_reaches hin hs
  refine ⟨?_, fun text => ScanState.lastColumn_unput_iff (hlined.unpaired_matched hin)⟩
  rw [(ScanState.Sound.of_reaches hs).lastLine_eq, hlined.line_eq]

/-- Lines of words, of which at most three characters are taken at once. -/
def shortTexts : RuleSet where
  rules := [{ pattern := .text "[a-z\\n]+", action := "this.less(3); return 'ID'" }]

/-- A letter that is kept for the next match, which puts its end back. -/
def keptLetter : RuleSet where
  rules := [
    { pattern := .text "a", action := "this.more()" },
    { pattern := .text "b", action := "this.less(1); return 'B'" }]

/-- The second line is put back up to the line break, and taken again. -/
theorem cursor_of_reaches_shortTexts : ∃ (e : Engine) (s t : Session),
    shortTexts.compile none = .ok e ∧ Unpaired ['a', '\n', 'b', 'c'] ∧ .more ∉ e.commands ∧
    e.scanner.Reaches (e.PutsBack fun text u => text <:+ u.matched ∧ (u.unput text).Anchored)
      (e.scanner.start {} ['a', '\n', 'b', 'c']) s ∧
    s.state.matched = ['a', '\n', 'b', 'c'] ∧
    s.state.location.lastLine = s.state.matched.countP isBreak + 1 ∧
    ((s.state.unput ['c']).location.lastColumn = column (s.state.unput ['c']).matched ↔
      (s.state.unput ['c']).Anchored) ∧
    s.state.location.lastColumn = column s.state.matched ∧
    e.scanner.Reaches (fun c u => (c = .nextMatch ∨ c = .input) ∧
      e.PutsBack (fun text u => text <:+ u.current) c u)
      (e.scanner.start {} ['a', '\n', 'b', 'c']) t ∧
    t.state.matched = ['a', '\n', 'b'] ∧
    t.state.location.lastColumn = column t.state.matched := by
  generalize hrules : shortTexts.compile none = result
  have h : (result.toOption.map fun e => (e.commands,
      (e.scanner.runAllowed? (e.PutsBack fun text u => text <:+ u.matched ∧ (u.unput text).Anchored)
        1 [.nextMatch, .input, .unput ['\n', 'b', 'c'], .nextMatch]
        (e.scanner.start {} ['a', '\n', 'b', 'c'])).map (·.state.matched),
      (e.scanner.nextMatch (e.scanner.start {} ['a', '\n', 'b', 'c'])).2.state.matched,
      (e.putBacks .nextMatch (e.scanner.start {} ['a', '\n', 'b', 'c'])).all
        fun x => x.1 <:+ x.2.current)) =
      some ([.less 3, .give (.name "ID")], some ['a', '\n', 'b', 'c'], ['a', '\n', 'b'], true) := by
    rw [← hrules]
    decide +kernel
  rcases result with error | e
  · cases h
  obtain ⟨hcommands, h⟩ := Prod.mk.inj (Option.some.inj h)
  obtain ⟨hrun, h⟩ := Prod.mk.inj h
  obtain ⟨hfirst, hback⟩ := Prod.mk.inj h
  obtain ⟨s, hs, hmatched⟩ := Option.map_eq_some_iff.1 hrun
  have hin : Unpaired ['a', '\n', 'b', 'c'] := by
    unfold Unpaired
    decide
  have hmore : .more ∉ e.commands := by simp [hcommands]
  have hs := Scanner.reaches_of_runAllowed? hs
  have ht : e.scanner.Reaches (fun c u => (c = .nextMatch ∨ c = .input) ∧
      e.PutsBack (fun text u => text <:+ u.current) c u)
      (e.scanner.start {} ['a', '\n', 'b', 'c'])
      (e.scanner.nextMatch (e.scanner.start {} ['a', '\n', 'b', 'c'])).2 :=
    .single ⟨1, .nextMatch, _, ⟨.inl rfl, trivial, by simpa using hback⟩, rfl⟩
  have htails := hs.mono (Q := e.PutsBack fun text u => text <:+ u.matched)
    fun c u hc => ⟨hc.1, fun x hx => (hc.2 x hx).1⟩
  obtain ⟨hline, hunput⟩ := (e.cursor_of_reaches {} hin).1 s htails
  refine ⟨e, s, _, rfl, hin, hmore, hs, hmatched, hline, hunput ['c'] ?_,
    (e.cursor_of_reaches {} hin).2.1 s hs, ht, hfirst,
    (e.cursor_of_reaches {} hin).2.2 hmore _ ht⟩
  show ['c'] <:+ s.state.matched
  rw [hmatched]
  exact ⟨['a', '\n', 'b'], rfl⟩

/-- The second letter is put back from a match that begins with the kept one. The location begins
after that one, and so it ends one character too far. -/
theorem cursor_of_kept_match : ∃ (e : Engine) (s : Session),
    keptLetter.compile none = .ok e ∧ Unpaired ['a', 'b'] ∧
    e.scanner.Reaches (e.PutsBack fun text u => text <:+ u.matched)
      (e.scanner.start {} ['a', 'b']) s ∧
    s.state.matched = ['a'] ∧ column s.state.matched = 1 ∧ s.state.location.lastColumn = 2 := by
  generalize hrules : keptLetter.compile none = result
  have h : (result.toOption.map fun e =>
      (e.scanner.runAllowed? (e.PutsBack fun text u => text <:+ u.matched) 1
        [.nextMatch, .nextMatch] (e.scanner.start {} ['a', 'b'])).map
          fun s => (s.state.matched, s.state.location.lastColumn)) =
      some (some (['a'], 2)) := by
    rw [← hrules]
    decide +kernel
  rcases result with error | e
  · cases h
  obtain ⟨s, hs, h⟩ := Option.map_eq_some_iff.1 (Option.some.inj h)
  obtain ⟨hmatched, hlast⟩ := Prod.mk.inj h
  refine ⟨e, s, rfl, ?_, Scanner.reaches_of_runAllowed? hs, hmatched, ?_, hlast⟩
  · unfold Unpaired
    decide
  · rw [show s.state.matched = ['a'] from hmatched]
    rfl

end Engine
end LexGen
