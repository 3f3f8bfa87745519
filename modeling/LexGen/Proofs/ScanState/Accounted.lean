import LexGen.Proofs.ScanState.Located

/-!
# The input is accounted for

Where no action puts other text back than it took, the input as a whole stays what it was
(`whole_nextMatch`), and the place of a match is where its text stands in it (`Match.Covers`). Where
besides no action keeps a match for the next one, each match begins where the one before it ends, or
later: a step that is not at the end of the input begins its match where the taken text ends
(`beginsAfter_nextMatch`). `Engine.accounted_of_reaches` is both, for all that has been reached.
-/

namespace LexGen

namespace ScanState

variable {s : ScanState}

theorem whole_change {c : Command} (hunput : ∀ text, c ≠ .unput text) :
    (c.change s).whole = s.whole := by
  rcases c.change_cases s with ⟨text, htext, h⟩ | h | h
  · rw [h]
    exact whole_unput ((Command.suffix_of_putBack? hunput htext).trans (List.suffix_append _ _))
  · rw [h, whole_input]
  · exact h.whole_eq

/-- At least `k` characters have been taken, and the next match does not add to the current one. -/
structure HasTaken (k : ℕ) (s : ScanState) : Prop where
  more_eq : s.more = false
  le : k ≤ s.matched.length

/-- The match begins after at least `k` characters, and the next one does not add to it. -/
structure BeginsAfter (k : ℕ) (s : ScanState) : Prop where
  more_eq : s.more = false
  le : k ≤ s.before.length

namespace BeginsAfter

variable {k : ℕ}

theorem hasTaken (h : BeginsAfter k s) : s.HasTaken k := by
  refine ⟨h.more_eq, h.le.trans ?_⟩
  rw [matched, List.length_append]
  omega

theorem of_prepare (h : s.HasTaken k) : BeginsAfter k s.checkEnd.prepare := by
  rw [prepared_of_not_more h.more_eq]
  exact ⟨s.more_checkEnd.trans h.more_eq, h.le⟩

theorem change (h : BeginsAfter k s) {c : Command} (hmore : c ≠ .more)
    (hunput : ∀ text, c ≠ .unput text) : BeginsAfter k (c.change s) := by
  cases c with
  | pop =>
    simp only [Command.change, pop]
    split
    · exact ⟨h.more_eq, h.le⟩
    all_goals exact h
  | more => exact absurd rfl hmore
  | reject =>
    simp only [Command.change]
    split_ifs
    · exact ⟨h.more_eq, h.le⟩
    · exact h
  | less n =>
    refine ⟨h.more_eq, ?_⟩
    show k ≤ (s.less n.toNat).before.length
    rw [before_less]
    exact h.le
  | unput text => exact absurd rfl (hunput text)
  | input =>
    refine ⟨?_, ?_⟩
    · show s.input.2.more = false
      rcases hr : s.remaining with _ | ⟨d, rest⟩ <;> simp [ScanState.input, hr, h.more_eq]
    · show k ≤ s.input.2.before.length
      rw [before_input]
      exact h.le
  | _ => exact ⟨h.more_eq, h.le⟩

theorem checkResumed (h : BeginsAfter k s) : BeginsAfter k s.checkResumed := by
  unfold ScanState.checkResumed
  split_ifs
  · exact ⟨h.more_eq, h.le⟩
  · exact h

end BeginsAfter
end ScanState

/-! ## Steps -/

section Engine

variable {e : Engine} (hunput : ∀ text, .unput text ∉ e.commands)

include hunput

theorem Engine.whole_nextMatch (s : Session) :
    (e.scanner.nextMatch s).2.state.whole = s.state.whole := by
  refine Scanner.kept_nextMatch (I := fun t => t.whole = s.state.whole) (fun t ht => ?_)
    (fun n t ht => ?_) (fun a ha c hc t ht => ?_) (fun t ht => ?_) rfl
  · rw [t.samePlace_prepared.whole_eq, ht]
  · rw [ScanState.whole_commit, ht]
  · have hmem : c ∈ e.commands := mem_commands ha hc
    rw [ScanState.whole_change fun text hct => hunput text (hct ▸ hmem), ht]
  · rw [t.samePlace_checkResumed.whole_eq, ht]

variable (hmore : .more ∉ e.commands)

include hmore

/-- A step ends the input, or its match begins where the text that was taken before it ends. -/
theorem Engine.beginsAfter_nextMatch {k : ℕ} {s : Session} (hs : s.state.HasTaken k) :
    e.scanner.nextMatch s = (.ok (some .eof), s) ∨
      (e.scanner.nextMatch s).2.state.BeginsAfter k := by
  refine Scanner.done_or_kept_nextMatch (fun _ h => .of_prepare h) (fun n t ht => ⟨rfl, ht.le⟩)
    (fun a ha c hc t ht => ?_) (fun _ h => h.checkResumed) hs
  have hmem : c ∈ e.commands := mem_commands ha hc
  exact ht.change (fun hcm => hmore (hcm ▸ hmem)) fun text hct => hunput text (hct ▸ hmem)

theorem Engine.hasTaken_nextMatch {k : ℕ} {s : Session} (hs : s.state.HasTaken k) :
    (e.scanner.nextMatch s).2.state.HasTaken k := by
  rcases e.beginsAfter_nextMatch hunput hmore hs with h | h
  · rw [h]
    exact hs
  · exact h.hasTaken

theorem Engine.beginsAfter_lexWithin {k n : ℕ} {s t : Session} {token : Token}
    (hl : e.scanner.lexWithin n s = some (.ok token, t)) (hne : token ≠ .eof)
    (hs : s.state.HasTaken k) : t.state.BeginsAfter k := by
  have hstep (s : Session) (h : s.state.HasTaken k) := e.hasTaken_nextMatch hunput hmore h
  obtain ⟨u, hu, rfl, hfound⟩ := Scanner.exists_last_step hl
  have hu := Scanner.kept_of_passesOver hstep hu hs
  rcases e.beginsAfter_nextMatch hunput hmore hu with h | h
  · rw [h] at hfound
    exact absurd (Except.ok.inj hfound) hne
  · exact h

end Engine

/-! ## Matches -/

/-- The place of the match is one of the source, and `text` stands there. -/
structure Match.Covers (source text : List Char) (m : Match) : Prop where
  start_le : m.start ≤ m.stop
  stop_le : m.stop ≤ source.length
  text_eq : (source.take m.stop).drop m.start = text

theorem Match.covers_ofState {flags : ScanFlags} {s : ScanState} (token : Token)
    (hs : s.Sound flags) : (Match.ofState token s).Covers s.whole s.current where
  start_le := Nat.sub_le _ _
  stop_le := hs.offset_le
  text_eq := by
    show (s.whole.take s.offset).drop (s.offset - s.length) = s.current
    rw [hs.take_offset, hs.offset_sub_length, ScanState.matched, List.drop_left]

section Engine

variable {e : Engine} (hunput : ∀ text, .unput text ∉ e.commands) (hmore : .more ∉ e.commands)

include hunput hmore

theorem Engine.sound_hasTaken_nextMatch {k : ℕ} (s : Session)
    (h : s.state.Sound e.flags ∧ s.state.HasTaken k) :
    (e.scanner.nextMatch s).2.state.Sound e.flags ∧ (e.scanner.nextMatch s).2.state.HasTaken k :=
  ⟨h.1.nextMatch, e.hasTaken_nextMatch hunput hmore h.2⟩

theorem Engine.le_start_of_mem_take {k n count : ℕ} {t u : TokenStream}
    {items : List (Except Error Match)} (h : TokenStream.take e.scanner n count t = some (items, u))
    (ht : t.session.state.Sound e.flags) (hk : t.session.state.HasTaken k) {m : Match}
    (hm : .ok m ∈ items) : k ≤ m.start := by
  have hstep := e.sound_hasTaken_nextMatch hunput hmore (k := k)
  obtain ⟨v, w, hv, hnext⟩ := Scanner.exists_next_of_mem_take hstep h ⟨ht, hk⟩ hm
  obtain ⟨token, hne, hl, rfl⟩ := Scanner.next_match hnext
  have hbegins := e.beginsAfter_lexWithin hunput hmore hl hne hv.2
  have hsound := (Scanner.kept_lexWithin hstep hl hv).1
  show k ≤ w.session.state.offset - w.session.state.length
  rw [hsound.offset_sub_length]
  exact hbegins.le

/-- Of two matches of a stream the first one ends before the second one begins. -/
theorem Engine.pairwise_of_take {n : ℕ} :
    ∀ {count : ℕ} {t u : TokenStream} {items : List (Except Error Match)},
      TokenStream.take e.scanner n count t = some (items, u) → t.session.state.Sound e.flags →
      t.session.state.more = false →
      items.Pairwise fun a b => ∀ m k, a = .ok m → b = .ok k → m.stop ≤ k.start
  | 0, t, u, items, h, _, _ => by
    simp only [TokenStream.take, Option.some.injEq, Prod.mk.injEq] at h
    rw [← h.1]
    exact .nil
  | count + 1, t, u, items, h, ht, hm => by
    have hreach : t.session.state.HasTaken 0 := ⟨hm, Nat.zero_le _⟩
    have hstep := e.sound_hasTaken_nextMatch hunput hmore (k := 0)
    rw [TokenStream.take] at h
    rcases hn : t.next e.scanner n with _ | ⟨_ | item, v⟩
    · simp [hn] at h
    · simp only [hn, Option.some.injEq, Prod.mk.injEq] at h
      rw [← h.1]
      exact .nil
    · simp only [hn, Option.map_eq_some_iff, Prod.mk.injEq] at h
      obtain ⟨⟨rest, w⟩, hr, rfl, rfl⟩ := h
      have hv := Scanner.kept_next hstep hn ⟨ht, hreach⟩
      refine List.pairwise_cons.2 ⟨?_, pairwise_of_take hr hv.1 hv.2.more_eq⟩
      rintro b hb m k rfl rfl
      -- the place where the first match ends is where the stream goes on
      obtain ⟨token, -, -, rfl⟩ := Scanner.next_match hn
      exact e.le_start_of_mem_take hunput hmore hr hv.1 ⟨hv.2.more_eq, hv.1.offset_eq.le⟩ hb

end Engine

/-- Without text put back that was not taken, what has been taken and what remains are the input,
wherever scanning has come to. The place of each match of a stream is where its text stands, and
where no match is kept for the next one, matches do not overlap. -/
theorem Engine.accounted_of_reaches (e : Engine) (hunput : ∀ text, .unput text ∉ e.commands)
    (context : Context) (source : List Char) {s : Session}
    (hs : e.scanner.Reaches (fun c _ => c.Scans) (e.scanner.start context source) s) :
    s.state.matched ++ s.state.remaining = source ∧
    (∀ {n count i : ℕ} {items : List (Except Error Match)} {t u : TokenStream} {m : Match},
      TokenStream.take e.scanner n count ⟨s, false⟩ = some (items, t) →
      t.next e.scanner i = some (some (.ok m), u) → m.Covers source u.session.state.current) ∧
    (.more ∉ e.commands →
      ∀ {n count : ℕ} {items : List (Except Error Match)} {t : TokenStream},
        TokenStream.take e.scanner n count ⟨s, false⟩ = some (items, t) →
        items.Pairwise fun a b => ∀ m k, a = .ok m → b = .ok k → m.stop ≤ k.start) := by
  have hstep (s : Session) (h : s.state.Sound e.flags ∧ s.state.whole = source) :
      (e.scanner.nextMatch s).2.state.Sound e.flags ∧
        (e.scanner.nextMatch s).2.state.whole = source :=
    ⟨h.1.nextMatch, (e.whole_nextMatch hunput s).trans h.2⟩
  have hs' := hs.scans_invariant hstep ⟨.start e.flags source, rfl⟩
  refine ⟨hs'.2, fun ht hnext => ?_, fun hmore n count items t ht => ?_⟩
  · have hv := Scanner.kept_take hstep ht hs'
    obtain ⟨token, -, hl, rfl⟩ := Scanner.next_match hnext
    obtain ⟨hsound, hwhole⟩ := Scanner.kept_lexWithin hstep hl hv
    exact hwhole ▸ Match.covers_ofState token hsound
  · have hnomore (s : Session) (h : s.state.HasTaken 0) := e.hasTaken_nextMatch hunput hmore h
    have hreach := hs.scans_invariant hnomore ⟨rfl, Nat.zero_le _⟩
    exact e.pairwise_of_take hunput hmore ht hs'.1 hreach.more_eq

/-- The first word is cut after a letter and goes on with the next one, and so is the second one, which
goes on with the space. What no rule matches is a token of the handler, with no text. -/
theorem Engine.accounted_of_reaches_input : ∃ (context : Context) (e : Engine) (items first : _)
    (t v u : TokenStream) (m : Match),
    RuleSet.compile { rules := [
      { pattern := .text "[a-z]+", action := "this.less(1); this.input(); return 'ID'" }] } none =
        .ok e ∧
    TokenStream.take e.scanner 2 3 ⟨e.scanner.start context ['a', 'b', 'c', ' ', '1'], false⟩ =
      some (items, t) ∧
    items.map Except.toOption = [some ⟨.name "ID", 0, 2, 1, 0, 1, 2, none⟩,
      some ⟨.name "ID", 2, 4, 1, 2, 1, 4, none⟩, some ⟨.name "BAD", 4, 4, 1, 2, 1, 4, none⟩] ∧
    items.Pairwise (fun a b => ∀ m k, a = .ok m → b = .ok k → m.stop ≤ k.start) ∧
    TokenStream.take e.scanner 2 1 ⟨e.scanner.start context ['a', 'b', 'c', ' ', '1'], false⟩ =
      some (first, v) ∧
    v.next e.scanner 2 = some (some (.ok m), u) ∧ u.session.state.current = ['c', ' '] ∧
    m.Covers ['a', 'b', 'c', ' ', '1'] u.session.state.current := by
  generalize hrules : RuleSet.compile { rules := [
      { pattern := .text "[a-z]+", action := "this.less(1); this.input(); return 'ID'" }] } none =
    result
  generalize hcontext : ({ handler := some fun _ _ => .ok (some (.name "BAD")) } : Context) = context
  have hitems : (result.toOption.map fun e => (e.commands,
      (TokenStream.take e.scanner 2 3
        ⟨e.scanner.start context ['a', 'b', 'c', ' ', '1'], false⟩).map
          fun r => r.1.map Except.toOption)) =
      some ([.less 1, .input, .give (.name "ID")],
        some [some ⟨.name "ID", 0, 2, 1, 0, 1, 2, none⟩,
          some ⟨.name "ID", 2, 4, 1, 2, 1, 4, none⟩,
          some ⟨.name "BAD", 4, 4, 1, 2, 1, 4, none⟩]) := by
    rw [← hrules, ← hcontext]
    decide +kernel
  have hfirst : (result.toOption.map fun e =>
      (TokenStream.take e.scanner 2 1
        ⟨e.scanner.start context ['a', 'b', 'c', ' ', '1'], false⟩).bind
          fun r => (r.2.next e.scanner 2).map
            fun q => (q.1.map Except.toOption, q.2.session.state.current)) =
      some (some (some (some ⟨.name "ID", 2, 4, 1, 2, 1, 4, none⟩), ['c', ' '])) := by
    rw [← hrules, ← hcontext]
    decide +kernel
  rcases result with error | e
  · cases hitems
  obtain ⟨hcommands, hitems⟩ := Prod.mk.inj (Option.some.inj hitems)
  replace hfirst := Option.some.inj hfirst
  obtain ⟨⟨items, t⟩, ht, hmap⟩ := Option.map_eq_some_iff.1 hitems
  obtain ⟨⟨first, v⟩, hv, hnext⟩ := Option.bind_eq_some_iff.1 hfirst
  obtain ⟨⟨item, u⟩, hu, hsome⟩ := Option.map_eq_some_iff.1 hnext
  obtain ⟨hitem, hcurrent⟩ := Prod.mk.inj hsome
  obtain ⟨_ | m, rfl, hm⟩ := Option.map_eq_some_iff.1 hitem
  · cases hm
  have hunput : ∀ text, .unput text ∉ e.commands := by simp [hcommands]
  have hmore : .more ∉ e.commands := by simp [hcommands]
  obtain ⟨-, hcovers, hpairwise⟩ := e.accounted_of_reaches hunput context _ .refl
  exact ⟨context, e, items, first, t, v, u, m, rfl, ht, hmap, hpairwise hmore ht, hv, hu, hcurrent,
    hcovers hv hu⟩

end LexGen
