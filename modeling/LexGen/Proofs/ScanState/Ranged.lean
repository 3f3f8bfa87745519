import LexGen.Proofs.Scanner.PutBack

/-!
# Ranges and spans

The range of a location is kept beside it, and the span of an item is counted when it is given. They
agree if the step has taken a match and its action has put back no more than the match
(`Engine.range_of_mem_take`). After more has been put back the range begins where the match began,
and an item that is given for text that no rule matches has the location of the match before it
(`Engine.range_of_unmatched`).
-/

namespace LexGen

/-- The range of the location is the span. -/
def Match.RangeIsSpan (m : Match) : Prop := m.location.range = some (m.start, m.stop)

namespace ScanState

/-- The range begins after `b` characters. The match begins there or before, and if it begins there,
the range ends where the match ends. -/
structure Ranged (b : ℕ) (s : ScanState) : Prop where
  before_le : s.before.length ≤ b
  range_eq : ∃ k, s.location.range = some (b, k) ∧ (s.before.length = b → k = s.offset)

namespace Ranged

variable {flags : ScanFlags} {b : ℕ} {s : ScanState}

theorem commit (hs : Sound flags s) (hranges : flags.ranges = true) (n : ℕ) :
    Ranged s.before.length (s.commit n) := by
  refine ⟨le_rfl, (s.commit n).offset, ?_, fun _ => rfl⟩
  have hstart : (s.commit n).offset - (s.commit n).length = s.before.length :=
    (hs.commit n).offset_sub_length
  rw [← hstart]
  show (if s.flags.ranges then _ else _) = _
  rw [hs.flags_eq, if_pos hranges]
  rfl

theorem input (h : Ranged b s) : Ranged b s.input.2 := by
  refine ⟨by rw [before_input]; exact h.before_le, ?_⟩
  obtain ⟨k, hk, hend⟩ := h.range_eq
  rcases hr : s.remaining with _ | ⟨c, rest⟩
  · rw [input_of_nil hr]
    exact ⟨k, hk, hend⟩
  · rw [before_input, ScanState.input, hr]
    refine ⟨k + 1, ?_, fun hb => by rw [hend hb]⟩
    show s.location.range.map _ = _
    rw [hk, Option.map_some]

theorem unput (hs : Sound flags s) (h : Ranged b s) (text : List Char) :
    Ranged b (s.unput text) := by
  have hbefore : (s.unput text).before.length =
      min (s.matched.length - text.length) s.before.length := List.length_take
  have hoffset : (s.unput text).offset = s.matched.length - text.length := by
    rw [← hs.offset_eq]
    rfl
  have hle := h.before_le
  obtain ⟨k, hk, hend⟩ := h.range_eq
  refine ⟨by omega, max (k - text.length) b, ?_, fun hb => ?_⟩
  · show s.location.range.map _ = _
    rw [hk, Option.map_some]
  · -- nothing has been put back from before the match
    have hkept : s.before.length = b := by omega
    rw [hend hkept, hoffset, hs.offset_eq]
    omega

theorem change (hs : Sound flags s) (h : Ranged b s) (c : Command) : Ranged b (c.change s) := by
  cases c with
  | input => exact h.input
  | unput text => exact h.unput hs _
  | less n => exact h.unput hs _
  | pop =>
    simp only [Command.change, pop]
    split <;> exact ⟨h.before_le, h.range_eq⟩
  | reject =>
    simp only [Command.change]
    split_ifs <;> exact ⟨h.before_le, h.range_eq⟩
  | _ => exact ⟨h.before_le, h.range_eq⟩

theorem rangeIsSpan_iff (hs : Sound flags s) (h : Ranged b s) (token : Token) :
    (Match.ofState token s).RangeIsSpan ↔ (Match.ofState token s).start = b := by
  have hstart : (Match.ofState token s).start = s.before.length := hs.offset_sub_length
  obtain ⟨k, hk, hend⟩ := h.range_eq
  have hrange : (Match.ofState token s).location.range = some (b, k) := hk
  rw [Match.RangeIsSpan, hrange, hstart, Option.some.injEq, Prod.mk.injEq]
  constructor
  · rintro ⟨rfl, -⟩
    rfl
  · intro hb
    exact ⟨hb.symm, hend hb⟩

end Ranged
end ScanState

theorem Match.ofState_checkResumed (token : Token) (s : ScanState) :
    Match.ofState token s.checkResumed = .ofState token s := by
  unfold ScanState.checkResumed
  split_ifs <;> rfl

namespace Engine

variable {e : Engine} {s t : Session} {k : Candidate} {c : Context} (hsound : s.state.Sound e.flags)

include hsound

/-- An item of a match has its span as its range if and only if it begins where the match began. -/
theorem rangeIsSpan_nextMatch (hranges : e.flags.ranges = true)
    (htaken : e.scanner.taken? s = some (k, c)) (token : Token) :
    (Match.ofState token (e.scanner.nextMatch s).2.state).RangeIsSpan ↔
      (Match.ofState token (e.scanner.nextMatch s).2.state).start =
        s.prepared.state.before.length := by
  have hp : s.prepared.state.Sound e.flags := hsound.checkEnd.prepare
  obtain ⟨u, ⟨hu, hranged⟩, hend | hend⟩ := exists_of_taken?
    (J := fun u => u.Sound e.flags ∧ u.Ranged s.prepared.state.before.length) htaken
    ⟨hp.commit _, .commit hp hranges _⟩ fun x _ h => ⟨h.1.change _, h.2.change h.1 _⟩
  · rw [hend]
    exact hranged.rangeIsSpan_iff hu token
  · rw [hend, Match.ofState_checkResumed]
    exact hranged.rangeIsSpan_iff hu token

theorem start_nextMatch (htaken : e.scanner.taken? s = some (k, c))
    (hback : ∀ x ∈ e.putBacks .nextMatch s, x.1.length ≤ x.2.current.length) (token : Token) :
    (Match.ofState token (e.scanner.nextMatch s).2.state).start =
      s.prepared.state.before.length := by
  have hp : s.prepared.state.Sound e.flags := hsound.checkEnd.prepare
  have hkept (x : Command × ScanState) (hx : x ∈ e.executed s) :
      (x.1.change x.2).before = x.2.before :=
    Command.before_change fun text htext => hback _ (mem_putBacks hx htext)
  obtain ⟨u, ⟨hu, hbefore⟩, hend | hend⟩ := exists_of_taken?
    (J := fun u => u.Sound e.flags ∧ u.before = s.prepared.state.before) htaken
    ⟨hp.commit _, rfl⟩ fun x hx h => ⟨h.1.change _, (hkept x hx).trans h.2⟩
  · rw [hend, ← hbefore]
    exact hu.offset_sub_length
  · rw [hend, Match.ofState_checkResumed, ← hbefore]
    exact hu.offset_sub_length

omit hsound in
theorem unmatched_of_taken? (hnone : e.scanner.taken? s = none) {token : Token}
    (hnext : e.scanner.nextMatch s = (.ok (some token), t)) (hne : token ≠ .eof) :
    t.state = s.prepared.state ∧ s.context.handler ≠ none := by
  have hhandler := Scanner.handler_nextMatch e s
  obtain ⟨m, d, htaken, -⟩ | ⟨-, h | ⟨_, h⟩ | ⟨d, h⟩⟩ := e.scanner.nextMatch_of_taken? s
  · rw [hnone] at htaken
    cases htaken
  · rw [h] at hnext
    exact absurd (by simpa using (congrArg Prod.fst hnext).symm) hne
  · rw [h] at hnext
    cases hnext
  · rw [h, Scanner.handler_noMatch] at hhandler
    rw [h] at hnext
    refine ⟨?_, fun hno => ?_⟩
    · rw [← Scanner.state_noMatch ⟨s.prepared.state, d⟩, hnext]
    · have hd : d.handler = none := hhandler.trans hno
      unfold Scanner.noMatch at hnext
      split_ifs at hnext
      · exact hne (by simpa using (congrArg Prod.fst hnext).symm)
      · simp [Context.report, hd] at hnext

/-- An item of the handler stands where scanning has come to, with the location that was there. -/
theorem place_of_unmatched (htaken : e.scanner.taken? s = none) {token : Token}
    (hnext : e.scanner.nextMatch s = (.ok (some token), t)) (hne : token ≠ .eof) :
    (Match.ofState token t.state).location = s.state.location ∧
      (Match.ofState token t.state).stop = s.state.offset ∧
      (s.state.more = false → (Match.ofState token t.state).start = s.state.offset) := by
  have hp : s.prepared.state.Sound e.flags := hsound.checkEnd.prepare
  have hplace := s.state.samePlace_prepared
  have hmatched : s.prepared.state.matched = s.state.matched := hplace.matched_eq
  rw [(unmatched_of_taken? htaken hnext hne).1]
  refine ⟨hplace.location_eq, ?_, fun hmore => ?_⟩
  · show s.prepared.state.offset = _
    rw [hp.offset_eq, hsound.offset_eq, hmatched]
  · have hbefore : s.prepared.state.before = s.state.matched := by
      show s.state.checkEnd.prepare.before = _
      rw [ScanState.prepared_of_not_more hmore]
    show s.prepared.state.offset - s.prepared.state.length = _
    rw [hp.offset_sub_length, hbefore, hsound.offset_eq]

omit hsound

/-- An item of a stream comes from a step, wherever calls have led before. If the step takes a
match, the range of the item is its span if and only if it begins where the match began, which it
does where no more is put back than the match. Else the item is one of the handler, with the
location that was there before. So the ranges are the spans where there is no handler and actions
put back by `less` only. -/
theorem range_of_mem_take (e : Engine) (hranges : e.flags.ranges = true) (context : Context)
    (input : List Char) (hs : e.scanner.Reaches (fun _ _ => True) (e.scanner.start context input) s)
    {n count : ℕ} {items : List (Except Error Match)} {i : TokenStream}
    (ht : TokenStream.take e.scanner n count ⟨s, false⟩ = some (items, i)) {m : Match}
    (hm : .ok m ∈ items) :
    (∃ u v, e.scanner.Reaches (fun _ _ => True) (e.scanner.start context input) u ∧
      e.scanner.nextMatch u = (.ok (some m.token), v) ∧ m = .ofState m.token v.state ∧
      (∀ k c, e.scanner.taken? u = some (k, c) →
        (m.RangeIsSpan ↔ m.start = u.prepared.state.before.length) ∧
        ((∀ x ∈ e.putBacks .nextMatch u, x.1.length ≤ x.2.current.length) → m.RangeIsSpan)) ∧
      (e.scanner.taken? u = none → u.context.handler ≠ none ∧ m.location = u.state.location ∧
        m.stop = u.state.offset ∧ (u.state.more = false → m.start = u.state.offset))) ∧
    (s.context.handler = none → (∀ text, .unput text ∉ e.commands) → m.RangeIsSpan) := by
  let I (u : Session) : Prop :=
    e.scanner.Reaches (fun _ _ => True) (e.scanner.start context input) u ∧
      u.context.handler = s.context.handler
  have hstep (u : Session) (hu : I u) : I (e.scanner.nextMatch u).2 :=
    ⟨hu.1.tail ⟨1, .nextMatch, _, trivial, rfl⟩, (Scanner.handler_nextMatch e u).trans hu.2⟩
  obtain ⟨v, w, hv, hnext⟩ := Scanner.exists_next_of_mem_take hstep ht ⟨hs, rfl⟩ hm
  obtain ⟨u, ⟨hu, hhandler⟩, hgives, hne, hplace⟩ := Scanner.exists_step_of_next hstep hnext hv
  have hsound : u.state.Sound e.flags := .of_reaches hu
  have hiff {k : Candidate} {c : Context} (htaken : e.scanner.taken? u = some (k, c)) :
      m.RangeIsSpan ↔ m.start = u.prepared.state.before.length := by
    have h := rangeIsSpan_nextMatch hsound hranges htaken m.token
    rwa [hgives, ← hplace] at h
  have hspan {k : Candidate} {c : Context} (htaken : e.scanner.taken? u = some (k, c))
      (hback : ∀ x ∈ e.putBacks .nextMatch u, x.1.length ≤ x.2.current.length) : m.RangeIsSpan := by
    have h := start_nextMatch hsound htaken hback m.token
    rw [hgives, ← hplace] at h
    exact (hiff htaken).2 h
  refine ⟨⟨u, w.session, hu, hgives, hplace, fun k c htaken => ⟨hiff htaken, hspan htaken⟩,
    fun hnone => ?_⟩, fun hno hunput => ?_⟩
  · have h := place_of_unmatched hsound hnone hgives hne
    rw [← hplace] at h
    exact ⟨(unmatched_of_taken? hnone hgives hne).2, h⟩
  · rcases htaken : e.scanner.taken? u with _ | ⟨k, c⟩
    · exact absurd (hhandler.trans hno) (unmatched_of_taken? htaken hgives hne).2
    · -- without other text `less` alone puts back, and no more than the match
      refine hspan htaken fun x hx => ?_
      obtain ⟨y, hy, hback⟩ := List.mem_filterMap.1 hx
      obtain ⟨text, htext, rfl⟩ := Option.map_eq_some_iff.1 hback
      have hmem := mem_commands_of_executed hy
      exact (Command.suffix_of_putBack? (fun r hr => hunput r (hr ▸ hmem)) htext).length_le

/-- Letters, of which one is taken at once. -/
def singleLetters : RuleSet where
  rules := [{ pattern := .text "[a-z]+", action := "this.less(1); return 'ID'" }]
  options := { flags := { ranges := true } }

theorem range_of_mem_take_singleLetters : ∃ (e : Engine) (items : _) (t : TokenStream) (m : Match)
    (u v : Session),
    singleLetters.compile none = .ok e ∧ e.flags.ranges = true ∧
    TokenStream.take e.scanner 1 2 ⟨e.scanner.start {} ['a', 'b'], false⟩ = some (items, t) ∧
    .ok m ∈ items ∧ m.start = 1 ∧ m.stop = 2 ∧ m.RangeIsSpan ∧
    e.scanner.nextMatch u = (.ok (some m.token), v) ∧ m = .ofState m.token v.state ∧
    (∀ k c, e.scanner.taken? u = some (k, c) → m.start = u.prepared.state.before.length) := by
  generalize hrules : singleLetters.compile none = result
  have h : (result.toOption.map fun e => (e.flags.ranges, e.commands,
      (TokenStream.take e.scanner 1 2 ⟨e.scanner.start {} ['a', 'b'], false⟩).map
        fun r => r.1.map Except.toOption)) =
      some (true, [.less 1, .give (.name "ID")], some [
        some ⟨.name "ID", 0, 1, 1, 0, 1, 1, some (0, 1)⟩,
        some ⟨.name "ID", 1, 2, 1, 1, 1, 2, some (1, 2)⟩]) := by
    rw [← hrules]
    decide +kernel
  rcases result with error | e
  · cases h
  obtain ⟨hranges, h⟩ := Prod.mk.inj (Option.some.inj h)
  obtain ⟨hcommands, h⟩ := Prod.mk.inj h
  obtain ⟨⟨items, t⟩, ht, hmap⟩ := Option.map_eq_some_iff.1 h
  have hmem : some ⟨.name "ID", 1, 2, 1, 1, 1, 2, some (1, 2)⟩ ∈ items.map Except.toOption := by
    rw [hmap]
    exact List.mem_cons_of_mem _ List.mem_cons_self
  obtain ⟨error | m, hm, hsome⟩ := List.mem_map.1 hmem
  · cases hsome
  obtain rfl := Option.some.inj hsome
  obtain ⟨⟨u, v, -, hnext, hgiven, hmatch, -⟩, hspan⟩ :=
    e.range_of_mem_take hranges {} ['a', 'b'] .refl ht hm
  have hspan := hspan rfl (by simp [hcommands])
  exact ⟨e, items, t, _, u, v, rfl, hranges, ht, hm, rfl, rfl, hspan, hnext, hgiven,
    fun k c htaken => (hmatch k c htaken).1.1 hspan⟩

/-- A letter that is known, with ranges. -/
def knownLetter : RuleSet where
  rules := [{ pattern := .text "a", action := "return 'A'" }]
  options := { flags := { ranges := true } }

/-- An item of the handler, for a letter that no rule matches, has the range of the letter before.
-/
theorem range_of_unmatched : ∃ (context : Context) (e : Engine) (items : _) (t : TokenStream)
    (m : Match),
    knownLetter.compile none = .ok e ∧ e.flags.ranges = true ∧
    TokenStream.take e.scanner 1 2 ⟨e.scanner.start context ['a', 'b'], false⟩ = some (items, t) ∧
    .ok m ∈ items ∧ m.start = 1 ∧ m.stop = 1 ∧ m.location.range = some (0, 1) ∧ ¬m.RangeIsSpan := by
  generalize hrules : knownLetter.compile none = result
  generalize hcontext :
    ({ handler := some fun _ _ => .ok (some (.name "BAD")) } : Context) = context
  have h : (result.toOption.map fun e => (e.flags.ranges,
      (TokenStream.take e.scanner 1 2 ⟨e.scanner.start context ['a', 'b'], false⟩).map
        fun r => r.1.map Except.toOption)) =
      some (true, some [some ⟨.name "A", 0, 1, 1, 0, 1, 1, some (0, 1)⟩,
        some ⟨.name "BAD", 1, 1, 1, 0, 1, 1, some (0, 1)⟩]) := by
    rw [← hrules, ← hcontext]
    decide +kernel
  rcases result with error | e
  · cases h
  obtain ⟨hranges, h⟩ := Prod.mk.inj (Option.some.inj h)
  obtain ⟨⟨items, t⟩, ht, hmap⟩ := Option.map_eq_some_iff.1 h
  have hmem : some ⟨.name "BAD", 1, 1, 1, 0, 1, 1, some (0, 1)⟩ ∈ items.map Except.toOption := by
    rw [hmap]
    exact List.mem_cons_of_mem _ List.mem_cons_self
  obtain ⟨error | m, hm, hsome⟩ := List.mem_map.1 hmem
  · cases hsome
  obtain rfl := Option.some.inj hsome
  exact ⟨context, e, items, t, _, rfl, hranges, ht, hm, rfl, rfl, rfl, by simp [Match.RangeIsSpan]⟩

end Engine
end LexGen
