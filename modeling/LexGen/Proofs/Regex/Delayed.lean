import LexGen.Regex.Match
import LexGen.Proofs.Regex.Anchored
import Mathlib.Tactic.SplitIfs

/-!
# Automata that first look

An automaton that looks whether the text starts, and then goes on as another one does, matches at
the start of a text as that one (`delayed_matchLength?`). The states of an expression do not depend
on where they begin, so that this is how an automaton with a look in front comes about.

The two are run side by side: reaching a state keeps their attempts in step (`reach_delays`), and so
do a character and a whole text. The second one has one more state, and so more fuel, but no more is
needed than there are states to be reached (`reach_succ_of_unseen_lt`).
-/

namespace LexGen.Regex

/-! ## States elsewhere -/

/-- The state in an automaton in which `k` states come first. -/
def State.shift (k : Nat) : State → State
  | char s next => char s (next + k)
  | look l next => look l (next + k)
  | split targets => split (targets.map (· + k))
  | accept => accept

namespace Expr

variable (k : Nat)

theorem literalStates_cons_cons (c d : Char) (cs : List Char) (start next : Nat) :
    literalStates (c :: d :: cs) start next =
      .char (.singleton c) (start + 1) :: literalStates (d :: cs) (start + 1) next := rfl

theorem copies_add_two (part : Nat → Nat → List State) (width n start next : Nat) :
    copies part width (n + 2) start next =
      part start (start + width) ++ copies part width (n + 1) (start + width) next := rfl

theorem choice_shift (greedy : Bool) (enter leave : Nat) :
    State.choice greedy (enter + k) (leave + k) = (State.choice greedy enter leave).shift k := by
  cases greedy <;> rfl

theorem literalStates_shift : ∀ (cs : List Char) (start next : Nat),
    literalStates cs (start + k) (next + k) = (literalStates cs start next).map (.shift k)
  | [], _, _ => rfl
  | [_], _, _ => rfl
  | c :: d :: cs, start, next => by
    have hrest := literalStates_shift (d :: cs) (start + 1) next
    rw [literalStates_cons_cons, literalStates_cons_cons, List.map_cons, ← hrest,
      Nat.add_right_comm start k 1]
    rfl

section Repetition

variable {part : Nat → Nat → List State} {width : Nat}
  (hpart : ∀ start next, part (start + k) (next + k) = (part start next).map (.shift k))

include hpart

theorem copies_shift : ∀ n start next : Nat,
    copies part width n (start + k) (next + k) = (copies part width n start next).map (.shift k)
  | 0, _, _ => rfl
  | 1, start, next => hpart start next
  | n + 2, start, next => by
    rw [copies_add_two, copies_add_two, List.map_append, ← hpart, ← copies_shift (n + 1),
      Nat.add_right_comm start k width]

theorem options_shift (greedy : Bool) : ∀ n start next : Nat,
    options part width greedy n (start + k) (next + k) =
      (options part width greedy n start next).map (.shift k)
  | 0, _, _ => rfl
  | n + 1, start, next => by
    have hfollowing : (if n = 0 then next + k else start + k + 1 + width) =
        (if n = 0 then next else start + 1 + width) + k := by
      split_ifs <;> omega
    simp only [options, hfollowing, List.map_cons, List.map_append]
    rw [Nat.add_right_comm start k 1, choice_shift, hpart, options_shift greedy n]

theorem repetitionStates_shift (min : Nat) (max : Option Nat) (greedy : Bool) (start next : Nat) :
    repetitionStates part width min max greedy (start + k) (next + k) =
      (repetitionStates part width min max greedy start next).map (.shift k) := by
  have hcopies (stop : Nat) : copies part width min (start + k) (stop + k) =
      (copies part width min start stop).map (.shift k) := copies_shift k hpart min start stop
  have hmin : start + k + min * width = start + min * width + k := by omega
  cases max with
  | none =>
    simp only [repetitionStates, hmin]
    split_ifs with hzero
    · simp only [List.map_cons, List.map_append, List.map_nil, ← hpart, ← choice_shift,
        Nat.add_right_comm start k 1, Nat.add_right_comm (start + 1) k width]
    · have hwidth : width ≤ min * width := Nat.le_mul_of_pos_left _ (Nat.pos_of_ne_zero hzero)
      have hagain : start + min * width + k - width = start + min * width - width + k := by omega
      rw [hagain, hcopies, choice_shift, List.map_append, List.map_singleton]
  | some max =>
    simp only [repetitionStates, hmin]
    split_ifs
    · rfl
    · exact hcopies next
    · rw [hcopies, options_shift k hpart, List.map_append]

end Repetition

theorem branchStarts_shift : ∀ (es : List Expr) (start : Nat),
    branchStarts (start + k) es = (branchStarts start es).map (· + k)
  | [], _ => rfl
  | e :: es, start => by
    rw [branchStarts, branchStarts, Nat.add_right_comm start k e.width, branchStarts_shift es]
    rfl

mutual

theorem states_shift : ∀ (e : Expr) (start next : Nat),
    e.states (start + k) (next + k) = (e.states start next).map (.shift k)
  | empty, _, _ => by simp [states, State.shift]
  | literal cs, start, next => by
    simp only [states]
    exact literalStates_shift k cs start next
  | set s, _, _ => by simp [states, State.shift]
  | look l, _, _ => by simp [states, State.shift]
  | repetition min max greedy e, start, next => by
    simp only [states]
    exact repetitionStates_shift k (states_shift e) min max greedy start next
  | capture _ e, start, next => by
    simp only [states]
    exact states_shift e start next
  | concat es, start, next => by
    simp only [states]
    split_ifs
    · rfl
    · exact sequenceStates_shift es start next
  | alternation es, start, next => by
    simp only [states, List.map_cons, State.shift]
    rw [Nat.add_right_comm start k 1, branchStarts_shift, branchStates_shift es]

theorem sequenceStates_shift : ∀ (es : List Expr) (start next : Nat),
    sequenceStates es (start + k) (next + k) = (sequenceStates es start next).map (.shift k)
  | [], _, _ => by simp [sequenceStates]
  | e :: es, start, next => by
    have hnext : (if es.isEmpty then next + k else start + k + e.width) =
        (if es.isEmpty then next else start + e.width) + k := by
      split_ifs <;> omega
    simp only [sequenceStates, List.map_append, hnext]
    rw [states_shift e, Nat.add_right_comm start k e.width, sequenceStates_shift es]

theorem branchStates_shift : ∀ (es : List Expr) (start next : Nat),
    branchStates es (start + k) (next + k) = (branchStates es start next).map (.shift k)
  | [], _, _ => by simp [branchStates]
  | e :: es, start, next => by
    simp only [branchStates, List.map_append]
    rw [states_shift e, Nat.add_right_comm start k e.width, branchStates_shift es]

end

end Expr

/-! ## States that are still to be reached -/

namespace Attempts

/-- The number of states that have not been reached. -/
def unseen (t : Attempts) : Nat := t.seen.count false

/-- The attempts once state `i` has been reached. -/
def mark (t : Attempts) (i : Nat) : Attempts := { t with seen := t.seen.setIfInBounds i true }

theorem unseen_mark {t : Attempts} {i : Nat} (h : t.seen.getD i true = false) :
    (t.mark i).unseen + 1 = t.unseen := by
  obtain ⟨hi, hfalse⟩ : ∃ hi : i < t.seen.size, t.seen[i] = false := by
    simp only [Array.getD_eq_getD_getElem?, Option.getD_eq_iff, Array.getElem?_eq_some_iff] at h
    simpa using h
  have hpos : 0 < t.seen.count false := Array.count_pos_iff.2 (hfalse ▸ Array.getElem_mem hi)
  have hcount : (t.seen.set i true hi).count false = t.seen.count false - 1 := by
    simp [Array.count_set, hfalse]
  simp only [mark, unseen, Array.setIfInBounds, hi, ↓reduceDIte, hcount]
  omega

end Attempts

namespace Automaton

/-- What comes of reaching state `i` for the first time, where `go` leads on to other states. -/
def arrive (a : Automaton) (before after : Option Char) (go : Nat → Attempts → Attempts) (i : Nat)
    (t : Attempts) : Attempts :=
  match a.states[i]? with
  | none => t
  | some (.char _ _) => { t with waiting := i :: t.waiting }
  | some (.look l next) => if l.holds before after then go next t else t
  | some (.split targets) => targets.foldl (fun t j => go j t) t
  | some .accept => { t with accepted := true }

section Reach

variable (a : Automaton) (before after : Option Char) {fuel i : Nat} {t : Attempts}

/-- A state that has been reached is not reached again. -/
theorem reach_of_seen (h : (t.accepted || t.seen.getD i true) = true) :
    a.reach before after fuel i t = t := by
  cases fuel with
  | zero => rfl
  | succ fuel => simp only [reach, h, if_true]

theorem reach_of_unseen (h : (t.accepted || t.seen.getD i true) = false) :
    a.reach before after (fuel + 1) i t =
      a.arrive before after (a.reach before after fuel) i (t.mark i) := by
  simp only [reach, h]
  rfl

theorem arrive_unseen_le {go : Nat → Attempts → Attempts}
    (hgo : ∀ j u, (go j u).unseen ≤ u.unseen) :
    (a.arrive before after go i t).unseen ≤ t.unseen := by
  unfold arrive
  split
  · exact Nat.le_refl _
  · exact Nat.le_refl _
  · split_ifs
    · exact hgo _ t
    · exact Nat.le_refl _
  · refine List.foldlRecOn (motive := fun u : Attempts => u.unseen ≤ t.unseen) _ _
      (Nat.le_refl _) ?_
    exact fun u hu j _ => Nat.le_trans (hgo j u) hu
  · exact Nat.le_refl _

theorem arrive_congr {go more : Nat → Attempts → Attempts}
    (hgo : ∀ j u, (go j u).unseen ≤ u.unseen)
    (hmore : ∀ j u, u.unseen ≤ t.unseen → more j u = go j u) :
    a.arrive before after more i t = a.arrive before after go i t := by
  unfold arrive
  split
  · rfl
  · rfl
  · rw [hmore _ t (Nat.le_refl _)]
  · refine (List.foldl_rel (r := fun u v : Attempts => u = v ∧ v.unseen ≤ t.unseen)
      ⟨rfl, Nat.le_refl _⟩ ?_).1
    rintro j - u v ⟨rfl, hu⟩
    exact ⟨hmore j u hu, Nat.le_trans (hgo j u) hu⟩
  · rfl

theorem reach_unseen_le (fuel i : Nat) (t : Attempts) :
    (a.reach before after fuel i t).unseen ≤ t.unseen := by
  induction fuel generalizing i t with
  | zero => exact Nat.le_refl _
  | succ fuel ih =>
    cases h : t.accepted || t.seen.getD i true with
    | true => exact Nat.le_of_eq (congrArg Attempts.unseen (reach_of_seen a before after h))
    | false =>
      have hmark := Attempts.unseen_mark (Bool.or_eq_false_iff.1 h).2
      have harrive := arrive_unseen_le a before after (i := i) (t := t.mark i) ih
      rw [reach_of_unseen a before after h]
      omega

/-- More fuel than there are states to be reached changes nothing. -/
theorem reach_succ_of_unseen_lt (fuel i : Nat) (t : Attempts) (hfuel : t.unseen < fuel) :
    a.reach before after (fuel + 1) i t = a.reach before after fuel i t := by
  induction fuel generalizing i t with
  | zero => exact absurd hfuel (Nat.not_lt_zero _)
  | succ fuel ih =>
    cases h : t.accepted || t.seen.getD i true with
    | true => rw [reach_of_seen a before after h, reach_of_seen a before after h]
    | false =>
      have hmark := Attempts.unseen_mark (Bool.or_eq_false_iff.1 h).2
      rw [reach_of_unseen a before after h, reach_of_unseen a before after h]
      refine arrive_congr a before after (reach_unseen_le a before after fuel) fun j u hu => ?_
      exact ih j u (by omega)

end Reach

/-! ## A condition in front -/

/-- The automaton that first looks whether a condition holds. -/
def delayed (l : Look) (a : Automaton) : Automaton :=
  ⟨(.look l 1 :: a.states.toList.map (.shift 1)).toArray⟩

theorem delayed_states_succ (l : Look) (a : Automaton) (i : Nat) :
    (a.delayed l).states[i + 1]? = a.states[i]?.map (.shift 1) := by
  simp [delayed]

theorem delayed_size (l : Look) (a : Automaton) :
    (a.delayed l).states.size = a.states.size + 1 := by
  simp [delayed]

end Automaton

namespace Attempts

/-- The second attempts are the first ones with one more state in front. -/
structure Delays (t u : Attempts) : Prop where
  accepted : u.accepted = t.accepted
  waiting : u.waiting = t.waiting.map (· + 1)
  seen : ∀ i, u.seen.getD (i + 1) true = t.seen.getD i true

namespace Delays

variable {t u : Attempts}

theorem mark (h : t.Delays u) (i : Nat) : (t.mark i).Delays (u.mark (i + 1)) where
  accepted := h.accepted
  waiting := h.waiting
  seen j := by
    have hj := h.seen j
    simp only [Attempts.mark, Array.getD_eq_getD_getElem?, Array.getElem?_setIfInBounds] at hj ⊢
    grind

/-- The state in front is none of the others. -/
theorem mark_front (h : t.Delays u) : t.Delays (u.mark 0) where
  accepted := h.accepted
  waiting := h.waiting
  seen j := by
    rw [← h.seen j]
    simp [Attempts.mark, Array.getD_eq_getD_getElem?]

end Delays
end Attempts

namespace Automaton

theorem noAttempts_delays (l : Look) (a : Automaton) :
    a.noAttempts.Delays (a.delayed l).noAttempts where
  accepted := rfl
  waiting := rfl
  seen i := by
    simp only [noAttempts, delayed_size, Array.getD_eq_getD_getElem?, Array.getElem?_replicate]
    grind

section Delay

variable {l : Look} {a : Automaton} {t u : Attempts} {before after : Option Char}

theorem arrive_delays {go more : Nat → Attempts → Attempts}
    (hgo : ∀ j v w, Attempts.Delays v w → (go j v).Delays (more (j + 1) w)) (h : t.Delays u)
    (i : Nat) :
    (a.arrive before after go i t).Delays ((a.delayed l).arrive before after more (i + 1) u) := by
  simp only [arrive, delayed_states_succ]
  cases a.states[i]? with
  | none => exact h
  | some s =>
    cases s with
    | char _ _ => exact ⟨h.accepted, congrArg ((i + 1) :: ·) h.waiting, h.seen⟩
    | look l next =>
      simp only [Option.map_some, State.shift]
      split_ifs
      · exact hgo next t u h
      · exact h
    | split targets =>
      simp only [Option.map_some, State.shift, List.foldl_map]
      exact List.foldl_rel h fun j _ v w => hgo j v w
    | accept => exact ⟨rfl, h.waiting, h.seen⟩

/-- Reaching a state keeps the two in step. -/
theorem reach_delays (fuel i : Nat) (h : t.Delays u) :
    (a.reach before after fuel i t).Delays ((a.delayed l).reach before after fuel (i + 1) u) := by
  induction fuel generalizing i t u with
  | zero => exact h
  | succ fuel ih =>
    have hseen : (u.accepted || u.seen.getD (i + 1) true) = (t.accepted || t.seen.getD i true) := by
      rw [h.accepted, h.seen]
    cases hunseen : t.accepted || t.seen.getD i true with
    | true => rwa [reach_of_seen _ _ _ hunseen, reach_of_seen _ _ _ (hseen.trans hunseen)]
    | false =>
      rw [reach_of_unseen _ _ _ hunseen, reach_of_unseen _ _ _ (hseen.trans hunseen)]
      exact arrive_delays (fun j v w => ih j) (h.mark i) i

theorem advance_unseen_le (a : Automaton) (c : Char) (after : Option Char) (t : Attempts)
    (i : Nat) : (a.advance c after t i).unseen ≤ t.unseen := by
  unfold advance
  split
  · split_ifs
    · exact reach_unseen_le a _ _ _ _ t
    · exact Nat.le_refl _
  · exact Nat.le_refl _

theorem advance_delays (c : Char) (i : Nat) (h : t.Delays u) (hunseen : t.unseen ≤ a.states.size) :
    (a.advance c after t i).Delays ((a.delayed l).advance c after u (i + 1)) := by
  have hmore (next : Nat) := reach_succ_of_unseen_lt a (some c) after _ next t
    (Nat.lt_succ_of_le hunseen)
  simp only [advance, delayed_states_succ, delayed_size]
  cases a.states[i]? with
  | none => exact h
  | some s =>
    cases s with
    | char s next =>
      simp only [Option.map_some, State.shift]
      split_ifs
      · rw [← hmore next]
        exact reach_delays _ next h
      · exact h
    | look _ _ => exact h
    | split _ => exact h
    | accept => exact h

theorem noAttempts_unseen (a : Automaton) : a.noAttempts.unseen = a.states.size := by
  simp [noAttempts, Attempts.unseen]

theorem step_delays (c : Char) (h : t.Delays u) :
    (a.step c after t).Delays ((a.delayed l).step c after u) := by
  simp only [step, h.waiting, ← List.map_reverse, List.foldl_map]
  -- the two automata do not have the same fuel, but neither needs more than it has states
  refine (List.foldl_rel
    (r := fun v w : Attempts => v.Delays w ∧ v.unseen ≤ a.states.size)
    ⟨noAttempts_delays l a, Nat.le_of_eq a.noAttempts_unseen⟩ ?_).1
  rintro i - v w ⟨hdelays, hunseen⟩
  exact ⟨advance_delays c i hdelays hunseen,
    Nat.le_trans (advance_unseen_le a c after v i) hunseen⟩

/-- The two take the same from a text. -/
theorem follow_delays (cs : List Char) (n : Nat) (best : Option Nat) (h : t.Delays u) :
    (a.delayed l).follow cs n best u = a.follow cs n best t := by
  induction cs generalizing n best t u with
  | nil => simp only [follow, h.accepted]
  | cons c cs ih =>
    have hempty : u.waiting.isEmpty = t.waiting.isEmpty := by simp [h.waiting]
    simp only [follow, h.accepted, hempty, ih _ _ (step_delays c h)]

/-- At the start of a text a look for it changes nothing. -/
theorem delayed_matchLength? (a : Automaton) (cs : List Char) :
    (a.delayed .textStart).matchLength? cs = a.matchLength? cs := by
  have hstart : (a.delayed .textStart).reach none cs.head? ((a.delayed .textStart).states.size + 1)
      0 (a.delayed .textStart).noAttempts =
        (a.delayed .textStart).reach none cs.head? (a.states.size + 1) 1
          ((a.delayed .textStart).noAttempts.mark 0) := by
    have hunseen : ((a.delayed .textStart).noAttempts.accepted ||
        (a.delayed .textStart).noAttempts.seen.getD 0 true) = false := by
      simp [noAttempts, delayed_size, Array.getD_eq_getD_getElem?]
    rw [reach_of_unseen _ _ _ hunseen, delayed_size]
    simp [arrive, delayed, Look.holds]
  unfold matchLength?
  rw [hstart]
  exact follow_delays cs 0 none (reach_delays _ 0 (noAttempts_delays .textStart a).mark_front)

end Delay

end Automaton

end LexGen.Regex
