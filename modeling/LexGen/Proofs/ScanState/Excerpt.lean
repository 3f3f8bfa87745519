import LexGen.Proofs.Engine.Selection
import LexGen.Proofs.ScanState.Reachable

/-!
# What an excerpt shows

An excerpt has two lines (`splitOn_position`), the mark in the second one right after as many dashes
as there are characters before the match in the first one. What is shown is cut to twenty characters
before the line feeds are left out. Dots stand for the beginning of what comes before the match
(`past_eq`), and for the end of a match that is longer itself (`upcoming_eq`).

So an excerpt depends on few characters of the input, and states that agree on these come to the
same errors (`Reachable.position_lines`).
-/

namespace LexGen

/-- Where a text is cut in two is told by the bytes of the first part. -/
theorem Text.append_inj_of_utf8Length {a b c d : List Char} (h : a ++ b = c ++ d)
    (hbytes : utf8Length a = utf8Length c) : a = c ∧ b = d := by
  -- of two beginnings the one with more characters has more bytes
  have hle {a b c d : List Char} (h : a ++ b = c ++ d) (hbytes : utf8Length a = utf8Length c) :
      c.length ≤ a.length := by
    by_contra hlt
    have hmore : utf8Length ((c ++ d).take a.length) < utf8Length ((c ++ d).take c.length) :=
      utf8Length_take_lt (Nat.lt_of_not_le hlt) (by simp)
    rw [List.take_left, ← h, List.take_left] at hmore
    omega
  exact List.append_inj h (Nat.le_antisymm (hle h.symm hbytes.symm) (hle h hbytes))

namespace ScanState

variable {s t : ScanState}

/-! ## Two lines -/

theorem not_mem_withoutFeeds (cs : List Char) : '\n' ∉ withoutFeeds cs := by
  simp [withoutFeeds]

theorem not_mem_shown (s : ScanState) : '\n' ∉ s.past ++ s.upcoming := by
  rw [List.mem_append, not_or]
  exact ⟨not_mem_withoutFeeds _, not_mem_withoutFeeds _⟩

theorem not_mem_mark (n : ℕ) : '\n' ∉ List.replicate n '-' ++ ['^'] := by simp

theorem position_eq (s : ScanState) : s.position =
    s.past ++ s.upcoming ++ '\n' :: (List.replicate s.past.length '-' ++ ['^']) := by
  rw [position, List.append_assoc (s.past ++ s.upcoming), List.cons_append]

theorem count_position (s : ScanState) : s.position.count '\n' = 1 := by
  rw [position_eq, List.count_append, List.count_eq_zero_of_not_mem s.not_mem_shown,
    List.count_cons_self, List.count_eq_zero_of_not_mem (not_mem_mark _)]

theorem splitOn_position (s : ScanState) : s.position.splitOn '\n' =
    [s.past ++ s.upcoming, List.replicate s.past.length '-' ++ ['^']] := by
  have hlines : s.position = ['\n'].intercalate
      [s.past ++ s.upcoming, List.replicate s.past.length '-' ++ ['^']] := by
    rw [position_eq, List.intercalate_cons_cons, List.intercalate_singleton, List.append_cons]
  rw [hlines]
  refine List.splitOn_intercalate '\n' (fun l hl => ?_) (List.cons_ne_nil _ _)
  rcases List.mem_pair.1 hl with rfl | rfl
  · exact s.not_mem_shown
  · exact not_mem_mark _

/-! ## Texts that are cut -/

/-- The end of a text, with dots for what comes before it. -/
def shortened (n : ℕ) (cs : List Char) : List Char :=
  if cs.length ≤ n then cs else dots ++ cs.rtake n

/-- One character more than what is shown tells whether there is more. -/
theorem shortened_rtake (n : ℕ) (cs : List Char) :
    shortened n (cs.rtake (n + 1)) = shortened n cs := by
  rcases Nat.lt_or_ge n cs.length with hlt | hle
  · have hlength : (cs.rtake (n + 1)).length = n + 1 := by
      rw [List.rtake, List.length_drop]
      omega
    have htake : (cs.rtake (n + 1)).rtake n = cs.rtake n := by
      rw [List.rtake, hlength, List.rtake, List.rtake, List.drop_drop]
      congr 1
      omega
    rw [shortened, if_neg (by omega), shortened, if_neg (by omega), htake]
  · have hall : cs.rtake (n + 1) = cs := by
      rw [List.rtake, Nat.sub_eq_zero_of_le (by omega), List.drop_zero]
    rw [hall]

theorem past_eq (s : ScanState) : s.past = withoutFeeds (shortened excerptWidth s.before) := by
  unfold past shortened
  rcases Nat.lt_or_ge excerptWidth s.before.length with hlt | hle
  · rw [if_pos hlt, if_neg (Nat.not_le_of_lt hlt)]
    rfl
  · rw [if_neg (Nat.not_lt_of_le hle), if_pos hle, Nat.sub_eq_zero_of_le hle]
    rfl

theorem upcoming_eq (s : ScanState) : s.upcoming =
    withoutFeeds ((s.current ++ s.remaining).take excerptWidth ++
      if s.current.length > excerptWidth then dots else []) := by
  have htake : (s.current ++ s.remaining.take (excerptWidth - s.current.length)).take excerptWidth =
      (s.current ++ s.remaining).take excerptWidth := by
    rw [List.take_append, List.take_append, List.take_take, Nat.min_self]
  -- what remains is added up to the width only
  have hmore : (s.current ++ s.remaining.take (excerptWidth - s.current.length)).length >
      excerptWidth ↔ s.current.length > excerptWidth := by
    rw [List.length_append, List.length_take]
    omega
  simp only [upcoming, htake, hmore]

/-! ## Errors -/

theorem lexicalError_congr (hline : t.line = s.line) (hpast : t.past = s.past)
    (hupcoming : t.upcoming = s.upcoming) (cause : String) :
    t.lexicalError cause = s.lexicalError cause := by
  have hposition : t.position = s.position := by
    rw [position_eq, position_eq, hpast, hupcoming]
  unfold lexicalError
  rw [hline, hposition]

/-- The input is cut in two where the match begins. -/
structure BeginsBetween (s : ScanState) (past next : List Char) : Prop where
  whole_eq : s.whole = past ++ next
  matchStart_eq : s.matchStart = Text.utf8Length past

theorem beginsBetween (s : ScanState) : s.BeginsBetween s.before (s.current ++ s.remaining) :=
  ⟨List.append_assoc _ _ _, rfl⟩

theorem BeginsBetween.eq {past next : List Char} (h : s.BeginsBetween past next) :
    past = s.before ∧ next = s.current ++ s.remaining :=
  Text.append_inj_of_utf8Length (h.whole_eq.symm.trans s.beginsBetween.whole_eq)
    h.matchStart_eq.symm

/-- An excerpt has two lines and marks where the match begins. It shows as much of the input that
states come to the same errors if they agree on the line, the length of the match, the last 21
characters before it and the first 20 from there on. -/
theorem Reachable.position_lines {past next : List Char} (hs : s.Reachable)
    (h : s.BeginsBetween past next) :
    s.position.count '\n' = 1 ∧
    s.position.splitOn '\n' = [s.past ++ s.upcoming, List.replicate s.past.length '-' ++ ['^']] ∧
    s.past =
      (if past.length ≤ 20 then past else ['.', '.', '.'] ++ past.rtake 20).filter (· ≠ '\n') ∧
    s.upcoming =
      (next.take 20 ++ if s.current.length > 20 then ['.', '.', '.'] else []).filter (· ≠ '\n') ∧
    ∀ (t : ScanState) (past' next' : List Char), t.Reachable → t.BeginsBetween past' next' →
      t.line = s.line → past'.rtake 21 = past.rtake 21 → next'.take 20 = next.take 20 →
      t.length = s.length → t.unrecognized = s.unrecognized ∧ t.cannotReject = s.cannotReject := by
  obtain ⟨rfl, rfl⟩ := h.eq
  refine ⟨s.count_position, s.splitOn_position, s.past_eq, s.upcoming_eq, ?_⟩
  intro t past' next' ht h' hline hpast hnext hlength
  obtain ⟨rfl, rfl⟩ := h'.eq
  have hpast : t.past = s.past := by
    rw [t.past_eq, s.past_eq, ← shortened_rtake, ← shortened_rtake excerptWidth s.before]
    exact congrArg (fun cs => withoutFeeds (shortened excerptWidth cs)) hpast
  have hupcoming : t.upcoming = s.upcoming := by
    rw [t.upcoming_eq, s.upcoming_eq, ← ht.sound.length_eq, ← hs.sound.length_eq, hlength]
    exact congrArg (fun cs => withoutFeeds (cs ++ _)) hnext
  exact ⟨lexicalError_congr hline hpast hupcoming _, lexicalError_congr hline hpast hupcoming _⟩

/-- A match of 21 characters after more than 20 others, with line feeds in both parts, and another
one with other characters at both ends of the input. -/
theorem Reachable.position_lines_feeds : ∃ (s t : ScanState) (past next past' next' : List Char),
    past = 'x' :: 'ä' :: '\n' :: List.replicate 19 'é' ∧
    next = '\r' :: '\n' :: (List.replicate 18 'ß' ++ ['u', 'v']) ∧
    past' = 'y' :: 'z' :: 'ä' :: '\n' :: List.replicate 19 'é' ∧
    next' = '\r' :: '\n' :: (List.replicate 18 'ß' ++ ['w']) ∧
    s = ((ScanState.start {} (past ++ next)).prepare.commit past.length).prepare.commit 21 ∧
    t = ((ScanState.start {} (past' ++ next')).prepare.commit past'.length).prepare.commit 21 ∧
    s.Reachable ∧ s.BeginsBetween past next ∧ t.Reachable ∧ t.BeginsBetween past' next' ∧
    s.position.splitOn '\n' =
      [dots ++ List.replicate 19 'é' ++ '\r' :: List.replicate 18 'ß' ++ dots,
        List.replicate 22 '-' ++ ['^']] ∧
    t.unrecognized = s.unrecognized := by
  have hreach (past next : List Char) : (((ScanState.start {} (past ++ next)).prepare.commit
      past.length).prepare.commit 21).Reachable :=
    ((Reachable.start {} (past ++ next)).prepare.commit past.length).prepare.commit 21
  have hbegins (past next : List Char) : (((ScanState.start {} (past ++ next)).prepare.commit
      past.length).prepare.commit 21).BeginsBetween past next := by
    constructor
    · rw [whole_commit, whole, matched_prepare, remaining_prepare]
      exact whole_commit past.length (ScanState.start {} (past ++ next)).prepare
    · show Text.utf8Length ((past ++ next).take past.length) = Text.utf8Length past
      rw [List.take_left]
  refine ⟨_, _, _, _, _, _, rfl, rfl, rfl, rfl, rfl, rfl, hreach _ _, hbegins _ _, hreach _ _,
    hbegins _ _, ?_, ?_⟩
  · exact (position_lines (hreach _ _) (hbegins _ _)).2.1
  · exact ((position_lines (hreach _ _) (hbegins _ _)).2.2.2.2 _ _ _ (hreach _ _) (hbegins _ _)
      rfl rfl rfl rfl).1

end ScanState
end LexGen
