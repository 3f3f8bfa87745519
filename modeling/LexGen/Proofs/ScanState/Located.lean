import LexGen.Proofs.ScanState.Cursor
import LexGen.Proofs.ScanState.Sound

/-!
# Locations are exact

Where no action keeps a match for the next one or puts other text back than it took, the end of the
location is where what has been taken ends (`Located`), and during and after an action its beginning
is where the match begins (`Placed`). So the items of a token stream tell where their texts stand
(`Engine.located_of_mem_take`).
-/

namespace LexGen

open Text (Unpaired column isBreak)

namespace ScanState

/-- The input is the given one and the location ends where what has been taken ends. -/
structure Located (source : List Char) (s : ScanState) : Prop where
  whole_eq : s.whole = source
  line_eq : s.line = s.matched.countP isBreak
  lastColumn_eq : s.location.lastColumn = column s.matched
  more_eq : s.more = false

/-- Besides, the location begins where the match begins. -/
structure Placed (source : List Char) (s : ScanState) : Prop extends Located source s where
  firstLine_eq : s.location.firstLine = s.before.countP isBreak + 1
  firstColumn_eq : s.location.firstColumn = column s.before

namespace Located

variable {source : List Char} {s : ScanState}

theorem aligned (h : Located source s) : Aligned source s :=
  ⟨⟨h.whole_eq, h.line_eq⟩, h.lastColumn_eq⟩

theorem of_aligned (h : Aligned source s) (hmore : s.more = false) : Located source s :=
  ⟨h.whole_eq, h.line_eq, h.lastColumn_eq, hmore⟩

theorem start (flags : ScanFlags) (input : List Char) : Located input (.start flags input) :=
  ⟨rfl, rfl, rfl, rfl⟩

theorem prepared (h : Located source s) : Located source s.checkEnd.prepare := by
  refine of_aligned (h.aligned.of_samePlace s.samePlace_prepared) ?_
  rw [prepared_of_not_more h.more_eq, more_checkEnd, h.more_eq]

theorem current_prepared (h : Located source s) : s.checkEnd.prepare.current = [] := by
  rw [prepared_of_not_more h.more_eq]

/-- A match begins where what was taken before it ends. -/
theorem commit (h : Located source s) (hc : s.current = [])
    (hlast : s.location.lastLine = s.line + 1) (hin : Unpaired source) (n : Nat) :
    Placed source (s.commit n) := by
  -- nothing has been taken since the last match ended, which is where its location ends
  have hbefore : s.before = s.matched := by rw [matched, hc, List.append_nil]
  refine ⟨.of_aligned (h.aligned.commit hin n) rfl, ?_, ?_⟩
  · show s.location.lastLine = s.before.countP isBreak + 1
    rw [hlast, h.line_eq, hbefore]
  · show s.location.lastColumn = column s.before
    rw [h.lastColumn_eq, hbefore]

end Located

namespace Placed

variable {source : List Char} {s : ScanState}

theorem input (h : Placed source s) (hin : Unpaired source) : Placed source s.input.2 := by
  refine ⟨.of_aligned (h.aligned.input hin) (s.more_input.trans h.more_eq), ?_, ?_⟩
  · rw [before_input, firstLine_input, h.firstLine_eq]
  · rw [before_input, firstColumn_input, h.firstColumn_eq]

/-- Text from the end of the match can be put back. -/
theorem unput (h : Placed source s) (hin : Unpaired source) {text : List Char}
    (ht : text <:+ s.current) : Placed source (s.unput text) := by
  have hbefore := before_unput ht.length_le
  have hanchored : (s.unput text).Anchored := by
    intro _
    rw [hbefore]
    exact h.firstColumn_eq
  have hmatched := ht.trans (List.suffix_append s.before _)
  refine ⟨.of_aligned (.unput h.aligned.toLined hin hmatched hanchored) h.more_eq, ?_, ?_⟩
  · rw [hbefore]
    exact h.firstLine_eq
  · rw [hbefore]
    exact h.firstColumn_eq

theorem less (h : Placed source s) (hin : Unpaired source) (n : Nat) :
    Placed source (s.less n) :=
  h.unput hin (List.drop_suffix n _)

theorem change (h : Placed source s) (hin : Unpaired source) {c : Command} (hmore : c ≠ .more)
    (hback : ∀ text ∈ c.putBack? s, text <:+ s.current) : Placed source (c.change s) := by
  cases c with
  | give t => exact h
  | skip => exact h
  | begin condition => exact { h with }
  | pop =>
    show Placed source s.pop.2
    unfold ScanState.pop
    split
    · exact { h with }
    · exact h
    · exact h
  | more => exact absurd rfl hmore
  | reject =>
    simp only [Command.change]
    split_ifs
    · exact { h with }
    · exact h
  | less n => exact h.less hin _
  | unput text => exact h.unput hin (hback _ rfl)
  | input => exact h.input hin
  | echo => exact h

theorem checkResumed (h : Placed source s) : Placed source s.checkResumed := by
  unfold ScanState.checkResumed
  split_ifs
  · exact { h with }
  · exact h

end Placed
end ScanState

/-! ## Steps -/

/-- Nothing handles errors, and the state is sound and located. -/
structure Session.Located (flags : ScanFlags) (source : List Char) (s : Session) : Prop where
  handler_eq : s.context.handler = none
  sound : s.state.Sound flags
  located : s.state.Located source

section Engine

variable {e : Engine} (hmore : .more ∉ e.commands) (hunput : ∀ text, .unput text ∉ e.commands)
  {source : List Char} (hin : Unpaired source)

include hmore hunput hin

theorem Engine.placed_dispatch (rule : Nat) {s : Session} (h : s.state.Placed source) :
    (e.scanner.dispatch rule s).2.state.Placed source := by
  refine Action.state_dispatch (fun a ha c hc s hs => ?_) rule h
  have hmem : c ∈ e.commands := mem_commands ha hc
  exact hs.change hin (fun hcm => hmore (hcm ▸ hmem)) fun text htext =>
    Command.suffix_of_putBack? (fun text hct => hunput text (hct ▸ hmem)) htext

/-- A step leaves the state located, and placed if it gives a token of the text. -/
theorem Engine.located_nextMatch {s : Session} (h : s.Located e.flags source) :
    (e.scanner.nextMatch s).2.Located e.flags source ∧
      ∀ token, (e.scanner.nextMatch s).1 = .ok (some token) → token ≠ .eof →
        (e.scanner.nextMatch s).2.state.Placed source := by
  have hsound := h.sound.nextMatch (e := e)
  have hhandler := (Scanner.handler_nextMatch e s).trans h.handler_eq
  have hp : s.prepared.state.Located source := h.located.prepared
  rcases hn : e.scanner.nextMatch s with ⟨r, t⟩
  rw [hn] at hsound hhandler
  suffices hmain : t.state.Located source ∧
      ∀ token, r = .ok (some token) → token ≠ .eof → t.state.Placed source from
    ⟨⟨hhandler, hsound, hmain.1⟩, hmain.2⟩
  cases Scanner.ending_of_nextMatch hn with
  | done => exact ⟨h.located, fun token ht hne => absurd (by simpa using ht.symm) hne⟩
  | unknown => exact ⟨hp, fun token ht => by cases ht⟩
  | unmatched u _ hu =>
    rw [Scanner.state_noMatch, hu.state_eq]
    refine ⟨hp, fun token ht hne => ?_⟩
    have hnone : u.context.handler = none := hu.handler_eq.trans h.handler_eq
    unfold Scanner.noMatch at ht
    split_ifs at ht
    · exact absurd (by simpa using ht.symm) hne
    · simp [Context.report, hnone] at ht
  | matched u v m _ hu _ hd =>
    have hc : (u.state.commit m.length).Placed source := by
      rw [hu.state_eq]
      exact hp.commit h.located.current_prepared h.sound.checkEnd.prepare.lastLine_eq hin _
    have hv := e.placed_dispatch hmore hunput hin m.rule (s := u.mapState (·.commit m.length)) hc
    rw [hd] at hv
    cases r with
    | error => exact ⟨hv.toLocated, fun token ht => by cases ht⟩
    | ok => exact ⟨hv.checkResumed.toLocated, fun _ _ _ => hv.checkResumed⟩

theorem Engine.located_lexWithin {n : Nat} {s t : Session} {token : Token}
    (hl : e.scanner.lexWithin n s = some (.ok token, t)) (hne : token ≠ .eof)
    (h : s.Located e.flags source) : t.Located e.flags source ∧ t.state.Placed source := by
  have hstep s (h : Session.Located e.flags source s) :=
    (e.located_nextMatch hmore hunput hin h).1
  obtain ⟨u, hu, rfl, hfound⟩ := Scanner.exists_last_step hl
  have hu := Scanner.kept_of_passesOver hstep hu h
  obtain ⟨ht, hplaced⟩ := e.located_nextMatch hmore hunput hin hu
  refine ⟨ht, ?_⟩
  rcases hn : (e.scanner.nextMatch u).1 with error | _ | found <;>
    simp only [hn, Scanner.Found] at hfound
  · cases hfound
  · cases hfound.2
  · rw [Except.ok.injEq] at hfound
    exact hplaced found hn (hfound ▸ hne)

end Engine

/-! ## Matches -/

/-- The location tells the lines and columns of the ends of the text in the input. -/
structure Match.Located (source : List Char) (m : Match) : Prop where
  start_le : m.start ≤ m.stop
  stop_le : m.stop ≤ source.length
  firstLine_eq : m.location.firstLine = (source.take m.start).countP isBreak + 1
  firstColumn_eq : m.location.firstColumn = column (source.take m.start)
  lastLine_eq : m.location.lastLine = (source.take m.stop).countP isBreak + 1
  lastColumn_eq : m.location.lastColumn = column (source.take m.stop)

theorem Match.located_ofState {flags : ScanFlags} {source : List Char} {s : ScanState}
    (token : Token) (hs : s.Sound flags) (h : s.Placed source) :
    (Match.ofState token s).Located source := by
  have hstop : source.take s.offset = s.matched := h.whole_eq ▸ hs.take_offset
  have htake : source.take (s.offset - s.length) = s.before := by
    rw [hs.offset_sub_length, ← h.whole_eq, ScanState.whole, ScanState.matched, List.append_assoc]
    exact List.take_left
  refine ⟨Nat.sub_le _ _, h.whole_eq ▸ hs.offset_le, ?_, ?_, ?_, ?_⟩
  · show _ = (source.take (s.offset - s.length)).countP isBreak + 1
    rw [htake]
    exact h.firstLine_eq
  · show _ = column (source.take (s.offset - s.length))
    rw [htake]
    exact h.firstColumn_eq
  · show _ = (source.take s.offset).countP isBreak + 1
    rw [hstop, ← h.line_eq]
    exact hs.lastLine_eq
  · show _ = column (source.take s.offset)
    rw [hstop]
    exact h.lastColumn_eq

/-- The matches that a stream gives, wherever scanning has come to, are located exactly. -/
theorem Engine.located_of_mem_take (e : Engine) (hmore : .more ∉ e.commands)
    (hunput : ∀ text, .unput text ∉ e.commands) {context : Context} (hnone : context.handler = none)
    {source : List Char} (hin : Unpaired source) {s : Session}
    (hs : e.scanner.Reaches (fun c _ => c.Scans) (e.scanner.start context source) s)
    {n count : Nat} {items : List (Except Error Match)} {t : TokenStream}
    (ht : TokenStream.take e.scanner n count ⟨s, false⟩ = some (items, t)) {m : Match}
    (hm : .ok m ∈ items) : m.Located source := by
  have hstep s (h : Session.Located e.flags source s) :=
    (e.located_nextMatch hmore hunput hin h).1
  have hstart : (e.scanner.start context source).Located e.flags source :=
    ⟨hnone, .start e.flags source, .start e.flags source⟩
  have hs : s.Located e.flags source :=
    hs.invariant (fun n c s a t hc h ha => Scanner.kept_of_scans hstep hc ha h) hstart
  obtain ⟨v, w, hv, hnext⟩ := Scanner.exists_next_of_mem_take hstep ht hs hm
  obtain ⟨token, hne, hl, rfl⟩ := Scanner.next_match hnext
  obtain ⟨hw, hplaced⟩ := e.located_lexWithin hmore hunput hin hl hne hv
  exact Match.located_ofState token hw.sound hplaced

/-- The second word begins in the second line, one character after the first of it. -/
theorem Engine.located_of_mem_take_less : ∃ e items t m,
    RuleSet.compile { rules := [
      { pattern := .text "[a-z]+", action := "this.less(1); return 'ID'" },
      { pattern := .text "\\s", action := "" }] } none = .ok e ∧
    TokenStream.take e.scanner 3 3 ⟨e.scanner.start {} ['a', '\n', 'b', 'c'], false⟩ =
      some (items, t) ∧
    .ok m ∈ items ∧ m.start = 3 ∧ m.location = ⟨2, 1, 2, 2, none⟩ ∧
    m.Located ['a', '\n', 'b', 'c'] := by
  generalize hrules : RuleSet.compile { rules := [
      { pattern := .text "[a-z]+", action := "this.less(1); return 'ID'" },
      { pattern := .text "\\s", action := "" }] } none = result
  have h : (result.toOption.map fun e => (e.commands,
      (TokenStream.take e.scanner 3 3 ⟨e.scanner.start {} ['a', '\n', 'b', 'c'], false⟩).map
        fun r => r.1.map Except.toOption)) =
      some ([.less 1, .give (.name "ID")], some [
        some ⟨.name "ID", 0, 1, 1, 0, 1, 1, none⟩,
        some ⟨.name "ID", 2, 3, 2, 0, 2, 1, none⟩,
        some ⟨.name "ID", 3, 4, 2, 1, 2, 2, none⟩]) := by
    rw [← hrules]
    decide +kernel
  rcases result with error | e
  · cases h
  obtain ⟨hcommands, hitems⟩ := Prod.mk.inj (Option.some.inj h)
  obtain ⟨⟨items, t⟩, ht, hmap⟩ := Option.map_eq_some_iff.1 hitems
  have hmem : some ⟨.name "ID", 3, 4, 2, 1, 2, 2, none⟩ ∈ items.map Except.toOption := by
    rw [hmap]
    decide
  obtain ⟨error | m, hm, hsome⟩ := List.mem_map.1 hmem
  · cases hsome
  obtain rfl := Option.some.inj hsome
  refine ⟨e, items, t, _, rfl, ht, hm, rfl, rfl, ?_⟩
  refine e.located_of_mem_take ?_ ?_ rfl ?_ .refl ht hm
  · rw [hcommands]
    decide
  · simp [hcommands]
  · unfold Unpaired
    decide

end LexGen
