import LexGen.Proofs.Text.Search
import LexGen.Regex.Reader
import Mathlib.Tactic.SplitIfs

/-!
# Patterns with a parenthesis at the end

A closing parenthesis that is put at the end of a text changes nothing in how the text is read.
`Extended` says what is left of the two texts: the parenthesis stands there still, unless a comment
whose line does not end has passed over it. Every part of the reader keeps to this, as `Extends`
says, up to whole patterns in `extended_readBranches`. More fuel makes no difference on the way.

What is left is a part of the text all the time, so that a comment that hides the parenthesis is
found in the text itself.
-/

namespace LexGen.Regex

open Text (isBlank)

/-- A number sign after which no line ends, so that a comment may reach to the end of the text. -/
def OpenComment (text : List Char) : Prop := ∃ cs, '#' :: cs <:+ text ∧ '\n' ∉ cs

/-- What is left of a text, and what is left of it if a parenthesis is put at its end: the
parenthesis is there still, or it has been passed over in a comment that reaches to the end. -/
inductive Extended (text : List Char) : List Char → List Char → Prop
  | shown {cs : List Char} (h : cs <:+ text) : Extended text cs (cs ++ [')'])
  | hidden (h : OpenComment text) : Extended text [] []

/-- What the reader takes from a text does not change if a parenthesis is put at the end. -/
def Extends {α : Type} (f : List Char → Option (α × List Char)) : Prop :=
  ∀ ⦃text cs ds : List Char⦄ ⦃a : α⦄ ⦃rest : List Char⦄, Extended text cs ds →
    f cs = some (a, rest) → ∃ left, f ds = some (a, left) ∧ Extended text rest left

namespace Extended

variable {text cs ds : List Char} {c : Char} {verbose : Bool}

theorem eq_of_cons (h : Extended text (c :: cs) ds) : ds = c :: (cs ++ [')']) := by
  cases h
  rfl

theorem suffix (h : Extended text cs ds) : cs <:+ text := by
  cases h with
  | shown h => exact h
  | hidden _ => exact List.nil_suffix

theorem tail (h : Extended text (c :: cs) ds) : Extended text cs (cs ++ [')']) :=
  shown ((List.suffix_cons c cs).trans h.suffix)

theorem not_cons (h : Extended text cs ds) (hc : c ≠ ')') (hne : ∀ rest, cs = c :: rest → False) :
    ∀ rest, ds = c :: rest → False := by
  intro rest hds
  rcases cs with _ | ⟨d, cs⟩
  · cases h with
    | shown => exact hc (List.cons.inj hds).1.symm
    | hidden => cases hds
  · rw [h.eq_of_cons] at hds
    exact hne cs (by rw [(List.cons.inj hds).1])

theorem not_cons_cons {d : Char} (h : Extended text cs ds) (hc : c ≠ ')') (hd : d ≠ ')')
    (hne : ∀ rest, cs = c :: d :: rest → False) : ∀ rest, ds = c :: d :: rest → False := by
  intro rest hds
  rcases cs with _ | ⟨e, cs⟩
  · exact h.not_cons hc (fun _ hnil => by cases hnil) _ hds
  · rw [h.eq_of_cons] at hds
    obtain ⟨rfl, htail⟩ := List.cons.inj hds
    exact h.tail.not_cons hd (fun more hcs => hne more (by rw [hcs])) _ htail

theorem eq_nil (h : Extended text cs []) : cs = [] := by
  rcases cs with _ | ⟨c, cs⟩
  · rfl
  · cases h.eq_of_cons

theorem length_le (h : Extended text cs ds) : cs.length ≤ ds.length := by
  cases h with
  | shown => simp
  | hidden => exact Nat.le_refl 0

/-- In a comment the parenthesis is hidden if the line does not end. -/
theorem skipBlanks_skipComment : ∀ {cs : List Char}, cs <:+ text →
    Extended text (skipBlanks cs) (skipBlanks (cs ++ [')'])) ∧
      (('\n' ∉ cs → OpenComment text) →
        Extended text (skipComment cs) (skipComment (cs ++ [')'])))
  | [], h => ⟨shown h, fun hopen => hidden (hopen List.not_mem_nil)⟩
  | c :: cs, h => by
    obtain ⟨hblanks, hcomment⟩ := skipBlanks_skipComment ((List.suffix_cons c cs).trans h)
    rw [List.cons_append, skipBlanks, skipBlanks, skipComment, skipComment]
    constructor
    · split_ifs with hblank hsign
      · exact hblanks
      · exact hcomment fun hline => ⟨cs, hsign ▸ h, hline⟩
      · exact shown h
    · intro hopen
      split_ifs with hline
      · exact hblanks
      · exact hcomment fun hlines =>
          hopen (List.not_mem_cons_of_ne_of_not_mem (Ne.symm hline) hlines)

theorem skip (h : Extended text cs ds) : Extended text (skip verbose cs) (skip verbose ds) := by
  cases h with
  | shown h =>
    cases verbose
    · exact shown h
    · exact (skipBlanks_skipComment h).1
  | hidden h =>
    cases verbose
    · exact hidden h
    · exact hidden h

theorem dropBlanks (h : Extended text cs ds) :
    Extended text (cs.dropWhile isBlank) (ds.dropWhile isBlank) := by
  cases h with
  | shown h =>
    have hparen : [')'].dropWhile isBlank = [')'] := by decide
    rw [List.dropWhile_append, hparen]
    split_ifs with hempty
    · rw [List.isEmpty_iff.1 hempty]
      exact shown List.nil_suffix
    · exact shown ((List.dropWhile_suffix isBlank).trans h)
  | hidden h => exact hidden h

/-- In a comment the parenthesis is hidden if the line does not end. Elsewhere it is not gathered
if it does not count, or if something else ends what is gathered. -/
theorem gather_of_comment {p : Char → Bool} : ∀ {comment : Bool} {cs ds taken rest : List Char},
    Extended text cs ds → (comment = true → '\n' ∉ cs → OpenComment text) →
      Regex.gather verbose p comment cs = (taken, rest) → (p ')' = false ∨ rest ≠ []) →
        ∃ left, Regex.gather verbose p comment ds = (taken, left) ∧ Extended text rest left
  | _, _, _, _, _, hidden hopen, _, h, _ => by
    rw [Regex.gather] at h
    obtain ⟨rfl, rfl⟩ := Prod.ext_iff.1 h
    exact ⟨[], by rw [Regex.gather], hidden hopen⟩
  | comment, [], _, _, _, shown hend, hopen, h, hp => by
    rw [Regex.gather] at h
    obtain ⟨rfl, rfl⟩ := Prod.ext_iff.1 h
    cases comment
    · have hparen : isBlank ')' = false := by decide
      have hp : p ')' = false := by simpa using hp
      exact ⟨[')'], by simp [Regex.gather, hparen, hp], shown hend⟩
    · exact ⟨[], by simp [Regex.gather], hidden (hopen rfl List.not_mem_nil)⟩
  | true, c :: cs, _, _, _, shown hend, hopen, h, hp => by
    have hlines (hline : (c != '\n') = true) (hlines : '\n' ∉ cs) : OpenComment text :=
      hopen rfl (List.not_mem_cons_of_ne_of_not_mem (Ne.symm (bne_iff_ne.1 hline)) hlines)
    rw [Regex.gather] at h
    rw [List.cons_append, Regex.gather]
    exact gather_of_comment (shown hend).tail hlines h hp
  | false, c :: cs, _, _, _, shown hend, _, h, hp => by
    have htail : Extended text cs (cs ++ [')']) := (shown hend).tail
    rw [Regex.gather] at h
    rw [List.cons_append, Regex.gather]
    split_ifs at h ⊢ with hblank hsign
    · exact gather_of_comment htail (fun hfalse => by cases hfalse) h hp
    · have hc : c = '#' := by simp at hsign; exact hsign.2
      exact gather_of_comment htail (fun _ hlines => ⟨cs, hc ▸ hend, hlines⟩) h hp
    · rcases hmore : Regex.gather verbose p false cs with ⟨more, after⟩
      rw [hmore] at h
      obtain ⟨rfl, rfl⟩ := Prod.ext_iff.1 h
      obtain ⟨left, hleft, hext⟩ := gather_of_comment htail (fun hfalse => by cases hfalse) hmore hp
      exact ⟨left, by rw [hleft], hext⟩
    · obtain ⟨rfl, rfl⟩ := Prod.ext_iff.1 h
      exact ⟨_, rfl, shown hend⟩

theorem gather {p : Char → Bool} {taken rest : List Char} (h : Extended text cs ds)
    (hgather : gather verbose p false cs = (taken, rest)) (hp : p ')' = false ∨ rest ≠ []) :
    ∃ left, gather verbose p false ds = (taken, left) ∧ Extended text rest left :=
  h.gather_of_comment (fun hfalse => by cases hfalse) hgather hp

theorem readDigits {digits rest : List Char} (h : Extended text cs ds)
    (hread : readDigits verbose cs = (digits, rest)) :
    ∃ left, readDigits verbose ds = (digits, left) ∧ Extended text rest left := by
  rcases htake : Regex.gather verbose Char.isDigit false (cs.dropWhile isBlank) with ⟨taken, after⟩
  obtain ⟨left, hleft, hext⟩ := h.dropBlanks.gather htake (.inl (by decide))
  rw [Regex.readDigits, htake] at hread
  obtain ⟨rfl, rfl⟩ := Prod.ext_iff.1 hread
  exact ⟨left.dropWhile isBlank, by rw [Regex.readDigits, hleft], hext.dropBlanks⟩

end Extended

/-! ## Numbers -/

variable {text : List Char} {verbose : Bool}

theorem extends_readMaxCount (min : Nat) : Extends (readMaxCount verbose min) := by
  intro text cs ds a rest h hread
  have hskip : Extended text (skip verbose cs) (skip verbose ds) := h.skip
  unfold readMaxCount at hread ⊢
  split at hread
  · rename_i after hafter
    rw [hafter] at hskip
    rw [hskip.eq_of_cons]
    obtain ⟨rfl, rfl⟩ := Prod.ext_iff.1 (Option.some.inj hread)
    exact ⟨_, rfl, hskip.tail⟩
  · rename_i hne
    rcases hdigits : readDigits verbose (skip verbose cs) with ⟨digits, after⟩
    obtain ⟨left, hleft, hext⟩ := hskip.readDigits hdigits
    rw [hdigits] at hread
    rcases hmax : count? digits with _ | max
    · simp [hmax] at hread
    simp only [hmax, Option.bind_eq_bind, Option.bind_some] at hread
    split at hread
    · split_ifs at hread with hle
      obtain ⟨rfl, rfl⟩ := Prod.ext_iff.1 (Option.some.inj hread)
      rw [hext.eq_of_cons] at hleft
      refine ⟨_, ?_, hext.tail⟩
      split
      · exact (hskip.not_cons (by decide) hne _ ‹_›).elim
      · simp [hleft, hmax, hle]
    · cases hread

theorem extends_readCounts : Extends (readCounts verbose) := by
  intro text cs ds a rest h hread
  rcases hdigits : readDigits verbose (skip verbose cs) with ⟨digits, after⟩
  obtain ⟨left, hleft, hext⟩ := h.skip.readDigits hdigits
  rw [readCounts, hdigits] at hread
  rw [readCounts, hleft]
  rcases hmin : count? digits with _ | min
  · simp [hmin] at hread
  simp only [hmin, Option.bind_eq_bind, Option.bind_some] at hread ⊢
  split at hread
  · obtain ⟨rfl, rfl⟩ := Prod.ext_iff.1 (Option.some.inj hread)
    rw [hext.eq_of_cons]
    exact ⟨_, rfl, hext.tail⟩
  · rw [hext.eq_of_cons]
    exact extends_readMaxCount min hext.tail hread
  · cases hread

theorem extends_readHexDigits : ∀ n : Nat, Extends (readHexDigits verbose n)
  | 0, _, cs, ds, a, rest, h, hread => by
    obtain ⟨rfl, rfl⟩ := Prod.ext_iff.1 (Option.some.inj hread)
    exact ⟨ds, rfl, h⟩
  | n + 1, _, [], _, _, _, _, hread => by cases hread
  | n + 1, _, c :: cs, ds, a, rest, h, hread => by
    rw [h.eq_of_cons]
    rw [readHexDigits] at hread ⊢
    split_ifs at hread ⊢
    obtain ⟨⟨digits, after⟩, hdigits, hpair⟩ := Option.map_eq_some_iff.1 hread
    obtain ⟨rfl, rfl⟩ := Prod.ext_iff.1 hpair
    obtain ⟨left, hleft, hext⟩ := extends_readHexDigits n h.tail.skip hdigits
    exact ⟨left, by rw [hleft]; rfl, hext⟩

theorem extends_readCodePoint (width : Nat) : Extends (readCodePoint verbose width) := by
  intro text cs ds a rest h hread
  have hskip : Extended text (skip verbose cs) (skip verbose ds) := h.skip
  unfold readCodePoint at hread ⊢
  split at hread
  · rename_i inner hinner
    rw [hinner] at hskip
    rw [hskip.eq_of_cons]
    rcases htake : gather verbose (· != '}') false inner with ⟨digits, after⟩
    rw [htake] at hread
    rcases hvalue : hexValue? digits with _ | n
    · simp [hvalue] at hread
    rcases hchar : charAt? n with _ | c
    · simp [hvalue, hchar] at hread
    simp only [hvalue, hchar, Option.bind_eq_bind, Option.bind_some] at hread
    split_ifs at hread with hempty
    obtain ⟨rfl, rfl⟩ := Prod.ext_iff.1 (Option.some.inj hread)
    obtain ⟨d, after, rfl⟩ := List.exists_cons_of_ne_nil (mt List.isEmpty_iff.2 hempty)
    obtain ⟨left, hleft, hext⟩ := hskip.tail.gather htake (.inr (by simp))
    rw [hext.eq_of_cons] at hleft
    refine ⟨skip verbose (after ++ [')']), ?_, hext.tail.skip⟩
    simp [hleft, hvalue, hchar]
  · rename_i hne
    rcases hdigits : readHexDigits verbose width (skip verbose cs) with _ | ⟨digits, after⟩
    · simp [hdigits] at hread
    obtain ⟨left, hleft, hext⟩ := extends_readHexDigits width hskip hdigits
    rcases hvalue : hexValue? digits with _ | n
    · simp [hdigits, hvalue] at hread
    rcases hchar : charAt? n with _ | c
    · simp [hdigits, hvalue, hchar] at hread
    simp only [hdigits, hvalue, hchar, Option.bind_eq_bind, Option.bind_some] at hread
    obtain ⟨rfl, rfl⟩ := Prod.ext_iff.1 (Option.some.inj hread)
    refine ⟨left, ?_, hext⟩
    split
    · exact (hskip.not_cons (by decide) hne _ ‹_›).elim
    · simp [hleft, hvalue, hchar]

/-! ## Escapes -/

theorem extends_readProperty (negated : Bool) : Extends (readProperty verbose negated) := by
  intro text cs ds a rest h hread
  have hskip : Extended text (skip verbose cs) (skip verbose ds) := h.skip
  unfold readProperty at hread ⊢
  split at hread
  · cases hread
  · cases hread
  · rename_i inner hinner
    rw [hinner] at hskip
    rw [hskip.eq_of_cons]
    rcases htake : gather verbose (· != '}') false inner with ⟨content, after⟩
    simp only [htake] at hread
    split_ifs at hread with hempty
    obtain ⟨rfl, rfl⟩ := Prod.ext_iff.1 (Option.some.inj hread)
    obtain ⟨d, after, rfl⟩ := List.exists_cons_of_ne_nil (mt List.isEmpty_iff.2 hempty)
    obtain ⟨left, hleft, hext⟩ := hskip.tail.gather htake (.inr (by simp))
    rw [hext.eq_of_cons] at hleft
    refine ⟨after ++ [')'], ?_, hext.tail⟩
    simp [hleft]
  · rename_i c after hslash hbrace hafter
    rw [hafter] at hskip
    obtain ⟨rfl, rfl⟩ := Prod.ext_iff.1 (Option.some.inj hread)
    refine ⟨skip verbose (after ++ [')']), ?_, hskip.tail.skip⟩
    rw [hskip.eq_of_cons]
    split
    · cases ‹_›
    · rename_i heq
      exact (hslash (List.cons.inj heq).1).elim
    · rename_i heq
      exact (hbrace (List.cons.inj heq).1).elim
    · rename_i heq
      obtain ⟨rfl, rfl⟩ := List.cons.inj heq
      rfl

/-- A brace after which no name comes is given back. -/
theorem extended_readNamedBoundary {cs rest : List Char} {kind : Anchor}
    (h : Extended text ('{' :: cs) ('{' :: (cs ++ [')'])))
    (hread : readNamedBoundary verbose cs = some (kind, rest)) :
    ∃ left, readNamedBoundary verbose (cs ++ [')']) = some (kind, left) ∧
      Extended text rest left := by
  have hskip : Extended text (skip verbose cs) (skip verbose (cs ++ [')'])) := h.tail.skip
  unfold readNamedBoundary at hread ⊢
  split at hread
  · cases hread
  · rename_i c more hc
    rw [hc] at hskip
    rw [hskip.eq_of_cons]
    dsimp only
    split_ifs at hread ⊢
    · rcases htake : gather verbose isBoundaryChar false cs with ⟨name, after⟩
      obtain ⟨left, hleft, hext⟩ := h.tail.gather htake (.inl (by decide))
      rw [htake] at hread
      rw [hleft]
      dsimp only at hread ⊢
      split at hread
      · rw [hext.eq_of_cons]
        obtain ⟨kind, hkind, hpair⟩ := Option.map_eq_some_iff.1 hread
        obtain ⟨rfl, rfl⟩ := Prod.ext_iff.1 hpair
        exact ⟨_, by simp [hkind], hext.tail⟩
      · cases hread
    · obtain ⟨rfl, rfl⟩ := Prod.ext_iff.1 (Option.some.inj hread)
      exact ⟨_, rfl, h⟩

theorem extends_readBoundary : Extends (readBoundary verbose) := by
  intro text cs ds a rest h hread
  unfold readBoundary at hread ⊢
  split at hread
  · obtain rfl := h.eq_of_cons
    exact extended_readNamedBoundary h hread
  · rename_i hne
    obtain ⟨rfl, rfl⟩ := Prod.ext_iff.1 (Option.some.inj hread)
    refine ⟨ds, ?_, h⟩
    split
    · exact (h.not_cons (by decide) hne _ rfl).elim
    · rfl

theorem extends_readEscape : Extends (readEscape verbose) := by
  intro text cs ds a rest h hread
  rcases cs with _ | ⟨c, cs⟩
  · cases hread
  rw [h.eq_of_cons]
  have hext : Extended text cs (cs ++ [')']) := h.tail
  have hmap {α : Type} {f : List Char → Option (α × List Char)} (hf : Extends f) {g : α → Tree}
      (hg : (f cs).map (fun r => (g r.1, r.2)) = some (a, rest)) :
      ∃ left, (f (cs ++ [')'])).map (fun r => (g r.1, r.2)) = some (a, left) ∧
        Extended text rest left := by
    obtain ⟨⟨x, after⟩, hx, hpair⟩ := Option.map_eq_some_iff.1 hg
    obtain ⟨rfl, rfl⟩ := Prod.ext_iff.1 hpair
    obtain ⟨left, hleft, hext⟩ := hf hext hx
    exact ⟨left, by rw [hleft]; rfl, hext⟩
  have hplain {t : Tree} (ht : some (t, cs) = some (a, rest)) :
      ∃ left, some (t, cs ++ [')']) = some (a, left) ∧ Extended text rest left := by
    obtain ⟨rfl, rfl⟩ := Prod.ext_iff.1 (Option.some.inj ht)
    exact ⟨_, rfl, hext⟩
  unfold readEscape at hread ⊢
  dsimp only at hread ⊢
  split at hread
  · exact hmap (extends_readCodePoint 2) hread
  · exact hmap (extends_readCodePoint 4) hread
  · exact hmap (extends_readCodePoint 8) hread
  · exact hmap (extends_readProperty false) hread
  · exact hmap (extends_readProperty true) hread
  all_goals first | exact hplain hread | exact hmap extends_readBoundary hread | skip
  split_ifs at hread ⊢
  exact hplain hread

/-! ## Classes -/

theorem after?_append_paren {p : List Char} (hp : ')' ∉ p) : ∀ cs : List Char,
    Text.after? p (cs ++ [')']) = (Text.after? p cs).map (· ++ [')']) := by
  induction p with
  | nil => exact fun _ => rfl
  | cons d p ih =>
    rintro (_ | ⟨c, cs⟩)
    · exact if_neg fun hd => hp (by rw [hd]; exact List.mem_cons_self)
    · rw [List.cons_append, Text.after?, Text.after?]
      split_ifs
      · exact ih (fun h => hp (List.mem_cons_of_mem d h)) cs
      · rfl

/-- Where something is cut off after a character that comes first, the parenthesis is not seen. -/
theorem after?_dropWhile_append {d : Char} {p : List Char} (hd : d ≠ ')') (hp : ')' ∉ p)
    (cs : List Char) :
    Text.after? (d :: p) ((cs ++ [')']).dropWhile (· != d)) =
        (Text.after? (d :: p) (cs.dropWhile (· != d))).map (· ++ [')']) ∧
      ((Text.after? (d :: p) (cs.dropWhile (· != d))).isSome →
        (cs ++ [')']).takeWhile (· != d) = cs.takeWhile (· != d)) := by
  induction cs with
  | nil =>
    have hdrop : ([] ++ [')']).dropWhile (· != d) = [] := by simp [Ne.symm hd]
    rw [hdrop]
    exact ⟨rfl, fun h => by cases h⟩
  | cons c cs ih =>
    by_cases hc : c = d
    · subst hc
      simp only [List.cons_append, bne_self_eq_false, Bool.false_eq_true, not_false_eq_true,
        List.dropWhile_cons_of_neg, List.takeWhile_cons_of_neg, implies_true, and_true]
      exact after?_append_paren (p := c :: p) (by simp [Ne.symm hd, hp]) (c :: cs)
    · have hne : (c != d) = true := by simp [hc]
      simp only [List.cons_append, List.dropWhile_cons, List.takeWhile_cons, hne, ↓reduceIte]
      exact ⟨ih.1, fun h => by rw [ih.2 h]⟩

theorem readAsciiName_append (negated : Bool) (cs : List Char) :
    readAsciiName negated (cs ++ [')']) =
      (readAsciiName negated cs).map fun r => (r.1, r.2 ++ [')']) := by
  obtain ⟨hrest, hname⟩ :=
    after?_dropWhile_append (d := ':') (p := [']']) (by decide) (by decide) cs
  unfold readAsciiName
  rw [hrest]
  rcases hend : Text.after? [':', ']'] (cs.dropWhile (· != ':')) with _ | rest
  · simp
  · rw [hname (by rw [hend]; rfl)]
    rcases asciiClassNamed? (cs.takeWhile (· != ':')) with _ | kind <;> rfl

theorem readAsciiClass_append (cs : List Char) :
    readAsciiClass (cs ++ [')']) = (readAsciiClass cs).map fun r => (r.1, r.2 ++ [')']) := by
  rcases cs with _ | ⟨c, cs⟩
  · rfl
  by_cases hc : c = ':'
  · subst hc
    rcases cs with _ | ⟨d, cs⟩
    · exact readAsciiName_append false []
    by_cases hd : d = '^'
    · subst hd
      exact readAsciiName_append true cs
    · simpa [readAsciiClass, hd] using readAsciiName_append false (d :: cs)
  · simp [readAsciiClass, hc]

theorem suffix_of_after? {p : List Char} {q : Char → Bool} {cs rest : List Char}
    (h : Text.after? p (cs.dropWhile q) = some rest) : rest <:+ cs := by
  have hdrop : rest <:+ cs.dropWhile q := ⟨p, (Text.append_of_after? h).symm⟩
  exact hdrop.trans (List.dropWhile_suffix q)

theorem readAsciiName_suffix {negated : Bool} {cs rest : List Char} {t : ClassTree}
    (h : readAsciiName negated cs = some (t, rest)) : rest <:+ cs := by
  simp only [readAsciiName, Option.bind_eq_bind, Option.bind_eq_some_iff, Option.some.injEq,
    Prod.mk.injEq] at h
  obtain ⟨kind, -, after, hafter, -, rfl⟩ := h
  exact suffix_of_after? hafter

theorem extends_readAsciiClass : Extends readAsciiClass := by
  intro text cs ds a rest h hread
  have hsuffix : rest <:+ cs := by
    unfold readAsciiClass at hread
    split at hread
    · exact (readAsciiName_suffix hread).trans ((List.suffix_cons _ _).trans (List.suffix_cons _ _))
    · exact (readAsciiName_suffix hread).trans (List.suffix_cons _ _)
    · cases hread
  cases h with
  | shown h => exact ⟨_, by rw [readAsciiClass_append, hread]; rfl, .shown (hsuffix.trans h)⟩
  | hidden => cases hread

theorem Extended.readAsciiClass_none {cs ds : List Char} (h : Extended text cs ds)
    (hread : readAsciiClass cs = none) : readAsciiClass ds = none := by
  cases h with
  | shown => rw [readAsciiClass_append, hread]; rfl
  | hidden => rfl

namespace Extended

variable {cs ds rest : List Char}

theorem readNegation {negated : Bool} (h : Extended text cs ds)
    (hread : readNegation verbose cs = (negated, rest)) :
    ∃ left, readNegation verbose ds = (negated, left) ∧ Extended text rest left := by
  have hskip : Extended text (Regex.skip verbose cs) (Regex.skip verbose ds) := h.skip
  unfold Regex.readNegation at hread ⊢
  split at hread
  · rename_i after hafter
    rw [hafter] at hskip
    rw [hskip.eq_of_cons]
    obtain ⟨rfl, rfl⟩ := Prod.ext_iff.1 hread
    exact ⟨_, rfl, hskip.tail.skip⟩
  · rename_i hne
    obtain ⟨rfl, rfl⟩ := Prod.ext_iff.1 hread
    refine ⟨_, ?_, hskip⟩
    split
    · exact (hskip.not_cons (by decide) hne _ ‹_›).elim
    · rfl

theorem readFirstItems {first : List ClassTree} (h : Extended text cs ds)
    (hread : readFirstItems verbose cs = (first, rest)) :
    ∃ left, readFirstItems verbose ds = (first, left) ∧ Extended text rest left := by
  rcases hgather : Regex.gather verbose (· == '-') false cs with ⟨hyphens, after⟩
  obtain ⟨left, hleft, hext⟩ := h.gather hgather (.inl (by decide))
  unfold Regex.readFirstItems at hread ⊢
  rw [hgather] at hread
  rw [hleft]
  dsimp only at hread ⊢
  split at hread
  · rename_i heq
    obtain ⟨rfl, rfl⟩ := Prod.ext_iff.1 heq
    obtain ⟨rfl, rfl⟩ := Prod.ext_iff.1 hread
    rw [hext.eq_of_cons]
    exact ⟨_, rfl, hext.tail.skip⟩
  · rename_i hne heq
    obtain ⟨rfl, rfl⟩ := Prod.ext_iff.1 heq
    obtain ⟨rfl, rfl⟩ := Prod.ext_iff.1 hread
    refine ⟨left, ?_, hext⟩
    split
    · rename_i heq
      obtain ⟨rfl, hclosed⟩ := Prod.ext_iff.1 heq
      exact (hext.not_cons (by decide) (fun rest hrest => hne rest rfl hrest) _ hclosed).elim
    · rename_i heq
      obtain ⟨rfl, rfl⟩ := Prod.ext_iff.1 heq
      rfl

theorem readClassOpening {negated : Bool} {first : List ClassTree} (h : Extended text cs ds)
    (hread : readClassOpening verbose cs = (negated, first, rest)) :
    ∃ left, readClassOpening verbose ds = (negated, first, left) ∧ Extended text rest left := by
  rcases hnegation : Regex.readNegation verbose cs with ⟨n, after⟩
  obtain ⟨left, hleft, hext⟩ := h.readNegation hnegation
  unfold Regex.readClassOpening at hread ⊢
  rw [hnegation] at hread
  rw [hleft]
  dsimp only at hread ⊢
  obtain ⟨rfl, hfirst⟩ := Prod.ext_iff.1 hread
  obtain ⟨last, hlast, hext⟩ := hext.readFirstItems hfirst
  exact ⟨last, by rw [hlast], hext⟩

end Extended

theorem extends_readClassAtom : Extends (readClassAtom verbose) := by
  intro text cs ds a rest h hread
  unfold readClassAtom at hread ⊢
  split at hread
  · cases hread
  · rw [h.eq_of_cons]
    exact extends_readEscape h.tail hread
  · rename_i c cs hc
    obtain ⟨rfl, rfl⟩ := Prod.ext_iff.1 (Option.some.inj hread)
    rw [h.eq_of_cons]
    refine ⟨cs ++ [')'], ?_, h.tail⟩
    split
    · cases ‹_›
    · rename_i heq
      exact (hc (List.cons.inj heq).1).elim
    · rename_i heq
      obtain ⟨rfl, rfl⟩ := List.cons.inj heq
      rfl

namespace Extended

variable {cs ds : List Char}

theorem peekAfterHyphen {c : Char} (h : Extended text cs ds)
    (hpeek : peekAfterHyphen verbose cs = some c) : peekAfterHyphen verbose ds = some c := by
  have hhead {cs ds : List Char} (h : Extended text cs ds) (hc : cs.head? = some c) :
      ds.head? = some c := by
    obtain ⟨rest, rfl⟩ := List.head?_eq_some_iff.1 hc
    rw [h.eq_of_cons]
    rfl
  have hdrop := h.dropBlanks
  unfold Regex.peekAfterHyphen at hpeek ⊢
  cases verbose
  · exact hhead h hpeek
  · simp only [↓reduceIte] at hpeek ⊢
    split at hpeek
    · rename_i rest hrest
      rw [hrest] at hdrop
      rw [hdrop.eq_of_cons]
      exact hhead hdrop.tail.dropBlanks hpeek
    · rename_i hne
      have hds := hhead hdrop hpeek
      split
      · exact (hdrop.not_cons (by decide) hne _ ‹_›).elim
      · exact hds

end Extended

theorem skipBlanks_eq_nil : ∀ {cs : List Char}, cs.dropWhile isBlank = [] →
    skipBlanks cs = [] ∧ skipComment cs = []
  | [], _ => ⟨rfl, rfl⟩
  | c :: cs, h => by
    rcases hblank : isBlank c with _ | _
    · rw [List.dropWhile_cons_of_neg (by simp [hblank])] at h
      cases h
    · rw [List.dropWhile_cons_of_pos hblank] at h
      obtain ⟨hblanks, hcomment⟩ := skipBlanks_eq_nil h
      rw [skipBlanks, if_pos hblank, skipComment]
      refine ⟨hblanks, ?_⟩
      split_ifs
      · exact hblanks
      · exact hcomment

theorem skipBlanks_dropWhile : ∀ cs : List Char,
    skipBlanks (cs.dropWhile isBlank) = skipBlanks cs
  | [] => rfl
  | c :: cs => by
    rcases hblank : isBlank c with _ | _
    · rw [List.dropWhile_cons_of_neg (by simp [hblank])]
    · rw [List.dropWhile_cons_of_pos hblank, skipBlanks_dropWhile cs, skipBlanks, if_pos hblank]

/-- Where no character comes after a hyphen, nothing can be read there. -/
theorem skip_of_peekAfterHyphen {cs : List Char} (h : peekAfterHyphen verbose cs = none) :
    skip verbose cs = [] := by
  unfold peekAfterHyphen at h
  cases verbose
  · simpa [skip] using h
  · simp only [↓reduceIte] at h
    rw [skip, if_pos rfl, ← skipBlanks_dropWhile]
    split at h
    · rename_i rest hrest
      have hblank : isBlank '#' = false := by decide
      rw [hrest, skipBlanks, hblank]
      exact (skipBlanks_eq_nil (List.head?_eq_none_iff.1 h)).2
    · rw [List.head?_eq_none_iff.1 h]
      rfl

/-- A hyphen after which no range ends is given back. -/
theorem extended_readRangeEnd (first : Tree) {cs rest : List Char} {t : ClassTree}
    (h : Extended text ('-' :: cs) ('-' :: (cs ++ [')'])))
    (hread : readRangeEnd verbose first cs = some (t, rest)) :
    ∃ left, readRangeEnd verbose first (cs ++ [')']) = some (t, left) ∧
      Extended text rest left := by
  unfold readRangeEnd at hread ⊢
  rcases hpeek : peekAfterHyphen verbose cs with _ | c
  · rw [hpeek, skip_of_peekAfterHyphen hpeek] at hread
    cases hread
  · simp only [hpeek, h.tail.peekAfterHyphen hpeek] at hread ⊢
    split_ifs at hread ⊢
    · obtain ⟨t, ht, hpair⟩ := Option.map_eq_some_iff.1 hread
      obtain ⟨rfl, rfl⟩ := Prod.ext_iff.1 hpair
      exact ⟨_, by rw [ht]; rfl, h⟩
    · split at hread
      · rename_i last after hlast
        obtain ⟨left, hleft, hext⟩ := extends_readClassAtom h.tail.skip hlast
        obtain ⟨t, ht, hpair⟩ := Option.map_eq_some_iff.1 hread
        obtain ⟨rfl, rfl⟩ := Prod.ext_iff.1 hpair
        exact ⟨left, by simp [hleft, ht], hext⟩
      · cases hread

theorem extends_readClassRange : Extends (readClassRange verbose) := by
  intro text cs ds a rest h hread
  unfold readClassRange at hread ⊢
  split at hread
  · cases hread
  · rename_i first after hfirst
    obtain ⟨left, hleft, hext⟩ := extends_readClassAtom h hfirst
    have hskip : Extended text (skip verbose after) (skip verbose left) := hext.skip
    rw [hleft]
    dsimp only
    split at hread
    · rename_i more hmore
      rw [hmore] at hskip
      have hds := hskip.eq_of_cons
      rw [hds] at hskip ⊢
      exact extended_readRangeEnd first hskip hread
    · rename_i hne
      obtain ⟨t, ht, hpair⟩ := Option.map_eq_some_iff.1 hread
      obtain ⟨rfl, rfl⟩ := Prod.ext_iff.1 hpair
      refine ⟨_, ?_, hskip⟩
      split
      · exact (hskip.not_cons (by decide) hne _ ‹_›).elim
      · rw [ht]
        rfl

/-- More fuel makes no difference either. -/
theorem extended_readClassItems : ∀ {fuel m : Nat}, fuel ≤ m →
    ∀ (pending : Option (ClassOp × ClassTree)) (items : List ClassTree) {cs ds rest : List Char}
      {t : ClassTree}, Extended text cs ds →
      readClassItems verbose fuel pending items cs = some (t, rest) →
        ∃ left, readClassItems verbose m pending items ds = some (t, left) ∧ Extended text rest left
  | 0, _, _, _, _, _, _, _, _, _, hread => by cases hread
  | fuel + 1, m + 1, hm, pending, items, cs, ds, rest, t, h, hread => by
    have ih := @extended_readClassItems fuel m (Nat.le_of_succ_le_succ hm)
    have hskip : Extended text (skip verbose cs) (skip verbose ds) := h.skip
    rw [readClassItems] at hread ⊢
    split at hread
    · cases hread
    · rename_i after hafter
      rw [hafter] at hskip
      rw [hskip.eq_of_cons]
      obtain ⟨rfl, rfl⟩ := Prod.ext_iff.1 (Option.some.inj hread)
      exact ⟨_, rfl, hskip.tail⟩
    · rename_i after hafter
      rw [hafter] at hskip
      rw [hskip.eq_of_cons]
      exact ih _ _ hskip.tail.tail hread
    · rename_i after hafter
      rw [hafter] at hskip
      rw [hskip.eq_of_cons]
      exact ih _ _ hskip.tail.tail hread
    · rename_i after hafter
      rw [hafter] at hskip
      rw [hskip.eq_of_cons]
      exact ih _ _ hskip.tail.tail hread
    · rename_i after hafter
      rw [hafter] at hskip
      rw [hskip.eq_of_cons]
      split at hread
      · rename_i item more hitem
        obtain ⟨left, hleft, hext⟩ := extends_readAsciiClass hskip.tail hitem
        obtain ⟨last, hlast, hextlast⟩ := ih _ _ hext hread
        exact ⟨last, by simp [hleft, hlast], hextlast⟩
      · rename_i hnone
        have hnone := Extended.readAsciiClass_none hskip.tail hnone
        rcases hopening : readClassOpening verbose after with ⟨negated, first, inner⟩
        obtain ⟨left, hleft, hext⟩ := hskip.tail.readClassOpening hopening
        rw [hopening] at hread
        dsimp only at hread
        split at hread
        · rename_i item more hitem
          obtain ⟨inside, hinside, hextinside⟩ := ih none first.reverse hext hitem
          obtain ⟨last, hlast, hextlast⟩ := ih _ _ hextinside hread
          exact ⟨last, by simp [hnone, hleft, hinside, hlast], hextlast⟩
        · cases hread
    · rename_i hclose hinter hdiff hsymm hopen
      split at hread
      · rename_i item after hitem
        obtain ⟨left, hleft, hext⟩ := extends_readClassRange hskip hitem
        obtain ⟨last, hlast, hextlast⟩ := ih pending (item :: items) hext hread
        refine ⟨last, ?_, hextlast⟩
        split
        · rename_i hnil
          rw [hnil] at hskip
          rw [hskip.eq_nil] at hitem
          cases hitem
        · exact (hskip.not_cons (by decide) hclose _ ‹_›).elim
        · exact (hskip.not_cons_cons (by decide) (by decide) hinter _ ‹_›).elim
        · exact (hskip.not_cons_cons (by decide) (by decide) hdiff _ ‹_›).elim
        · exact (hskip.not_cons_cons (by decide) (by decide) hsymm _ ‹_›).elim
        · exact (hskip.not_cons (by decide) hopen _ ‹_›).elim
        · rw [hleft]
          exact hlast
      · cases hread

theorem extends_readClass : Extends (readClass verbose) := by
  intro text cs ds a rest h hread
  rcases hopening : readClassOpening verbose cs with ⟨negated, first, inner⟩
  obtain ⟨left, hleft, hext⟩ := h.readClassOpening hopening
  unfold readClass at hread ⊢
  rw [hopening] at hread
  rw [hleft]
  obtain ⟨⟨t, after⟩, hitems, hpair⟩ := Option.map_eq_some_iff.1 hread
  obtain ⟨rfl, rfl⟩ := Prod.ext_iff.1 hpair
  obtain ⟨last, hlast, hextlast⟩ :=
    extended_readClassItems (Nat.succ_le_succ hext.length_le) none first.reverse hext hitems
  exact ⟨last, by simp [hlast], hextlast⟩

/-! ## Groups -/

theorem extended_readFlags : ∀ {change a : FlagChange} {on trailing : Bool}
    {cs ds rest : List Char}, Extended text cs ds →
      readFlags change on trailing cs = some (a, rest) →
        ∃ left, readFlags change on trailing ds = some (a, left) ∧ Extended text rest left
  | _, _, _, _, [], _, _, _, hread => by cases hread
  | change, a, on, trailing, c :: cs, ds, rest, h, hread => by
    obtain rfl := h.eq_of_cons
    rw [readFlags] at hread ⊢
    split_ifs at hread ⊢
    · obtain ⟨rfl, rfl⟩ := Prod.ext_iff.1 (Option.some.inj hread)
      exact ⟨_, rfl, h⟩
    · exact extended_readFlags h.tail hread
    · split at hread
      · exact extended_readFlags h.tail hread
      · cases hread

theorem extends_readGroupName : Extends readGroupName := by
  intro text cs ds a rest h hread
  cases h with
  | hidden => cases hread
  | shown h =>
    obtain ⟨hdrop, hname⟩ := after?_dropWhile_append (d := '>') (p := []) (by decide) (by simp) cs
    unfold readGroupName at hread ⊢
    rcases hend : Text.after? ['>'] (cs.dropWhile (· != '>')) with _ | after
    · simp [hend] at hread
    · rw [hdrop, hname (by rw [hend]; rfl), hend]
      simp only [hend, Option.map_some, Option.bind_eq_bind, Option.bind_some] at hread ⊢
      split at hread
      · cases hread
      · split_ifs at hread ⊢
        obtain ⟨rfl, rfl⟩ := Prod.ext_iff.1 (Option.some.inj hread)
        exact ⟨_, rfl, .shown ((suffix_of_after? hend).trans h)⟩

/-- Flags start with none of the characters that start other kinds of groups. -/
theorem not_readFlags {change : FlagChange} {c : Char} {cs : List Char}
    (hc : c ∈ ['=', '!', '<', 'P']) : readFlags change true false (c :: cs) = none := by
  simp only [List.mem_cons, List.not_mem_nil, or_false] at hc
  rcases hc with rfl | rfl | rfl | rfl <;> rfl

theorem extends_readGroupOpening : Extends readGroupOpening := by
  intro text cs ds a rest h hread
  unfold readGroupOpening at hread
  split at hread
  · cases hread
  · cases hread
  · cases hread
  · cases hread
  · obtain ⟨r, hr, hpair⟩ := Option.map_eq_some_iff.1 hread
    obtain ⟨rfl, rfl⟩ := Prod.ext_iff.1 hpair
    obtain ⟨left, hleft, hext⟩ := extends_readGroupName h.tail.tail.tail hr
    rw [h.eq_of_cons]
    exact ⟨left, by simp [readGroupOpening, hleft], hext⟩
  · rename_i inner heq hbang
    obtain ⟨r, hr, hpair⟩ := Option.map_eq_some_iff.1 hread
    obtain ⟨rfl, rfl⟩ := Prod.ext_iff.1 hpair
    obtain ⟨left, hleft, hext⟩ := extends_readGroupName h.tail.tail hr
    rw [h.eq_of_cons]
    rcases inner with _ | ⟨d, inner⟩
    · cases hr
    refine ⟨left, ?_, hext⟩
    have hd : d ≠ '=' ∧ d ≠ '!' :=
      ⟨fun hd => heq inner (by rw [hd]), fun hd => hbang inner (by rw [hd])⟩
    simp only [List.cons_append] at hleft
    simp [readGroupOpening, hd.1, hd.2, hleft]
  · rename_i inner _ _ _ _ _ _
    rw [h.eq_of_cons]
    rcases hflags : readFlags {} true false inner with _ | ⟨change, after⟩
    · simp [hflags] at hread
    obtain ⟨left, hleft, hext⟩ := extended_readFlags h.tail hflags
    rcases inner with _ | ⟨d, inner⟩
    · cases hflags
    have hd : d ∉ ['=', '!', '<', 'P'] := fun hd => by
      rw [not_readFlags hd] at hflags
      cases hflags
    simp only [List.mem_cons, List.not_mem_nil, or_false, not_or] at hd
    rw [hflags] at hread
    rcases after with _ | ⟨e, after⟩
    · cases hread
    rw [hext.eq_of_cons, List.cons_append] at hleft
    by_cases he : e = ':'
    · subst he
      obtain ⟨rfl, rfl⟩ := Prod.ext_iff.1 (Option.some.inj hread)
      exact ⟨_, by simp [readGroupOpening, hd, hleft], hext.tail⟩
    · simp only at hread
      split_ifs at hread with hchange
      obtain ⟨rfl, rfl⟩ := Prod.ext_iff.1 (Option.some.inj hread)
      exact ⟨_, by simp [readGroupOpening, hd, hleft, hchange], hext.tail⟩
  · rename_i hne
    obtain ⟨rfl, rfl⟩ := Prod.ext_iff.1 (Option.some.inj hread)
    refine ⟨ds, ?_, h⟩
    have hds := h.not_cons (by decide) hne
    rcases ds with _ | ⟨d, ds⟩
    · rfl
    · have hd : d ≠ '?' := fun hd => hds ds (by rw [hd])
      simp [readGroupOpening, hd]

theorem Extended.readLaziness {cs ds rest : List Char} {greedy : Bool} (h : Extended text cs ds)
    (hread : readLaziness cs = (greedy, rest)) :
    ∃ left, readLaziness ds = (greedy, left) ∧ Extended text rest left := by
  unfold Regex.readLaziness at hread ⊢
  split at hread
  · obtain ⟨rfl, rfl⟩ := Prod.ext_iff.1 hread
    rw [h.eq_of_cons]
    exact ⟨_, rfl, h.tail⟩
  · rename_i hne
    obtain ⟨rfl, rfl⟩ := Prod.ext_iff.1 hread
    refine ⟨ds, ?_, h⟩
    split
    · exact (h.not_cons (by decide) hne _ rfl).elim
    · rfl

/-! ## Patterns -/

theorem extends_readRepetition (items : List Tree) (min : Nat) (max : Option Nat) :
    Extends (readRepetition items min max) := by
  intro text cs ds a rest h hread
  rcases hlazy : readLaziness cs with ⟨greedy, after⟩
  obtain ⟨left, hleft, hext⟩ := h.readLaziness hlazy
  unfold readRepetition at hread ⊢
  rw [hlazy] at hread
  rw [hleft]
  obtain ⟨again, hagain, hpair⟩ := Option.map_eq_some_iff.1 hread
  obtain ⟨rfl, rfl⟩ := Prod.ext_iff.1 hpair
  exact ⟨left, by simp [hagain], hext⟩

/-- A pattern is read alike with a parenthesis at its end, and with more fuel. -/
theorem extended_readBranches : ∀ {fuel m : Nat}, fuel ≤ m →
    ∀ {p q : Progress} {branches items : List Tree} {cs ds rest : List Char} {t : Tree},
      Extended text cs ds → readBranches fuel p branches items cs = some (t, q, rest) →
        ∃ left, readBranches m p branches items ds = some (t, q, left) ∧ Extended text rest left
  | 0, _, _, _, _, _, _, _, _, _, _, _, hread => by cases hread
  | fuel + 1, m + 1, hm, p, q, branches, items, cs, ds, rest, t, h, hread => by
    have ih := @extended_readBranches fuel m (Nat.le_of_succ_le_succ hm)
    have hskip : Extended text (skip p.verbose cs) (skip p.verbose ds) := h.skip
    have hnext {c : Char} {after : List Char} (hafter : skip p.verbose cs = c :: after) :
        skip p.verbose ds = c :: (after ++ [')']) ∧ Extended text after (after ++ [')']) := by
      rw [hafter] at hskip
      exact ⟨hskip.eq_of_cons, hskip.tail⟩
    rw [readBranches] at hread
    split at hread
    · rename_i hnil
      obtain ⟨rfl, hpair⟩ := Prod.ext_iff.1 (Option.some.inj hread)
      obtain ⟨rfl, rfl⟩ := Prod.ext_iff.1 hpair
      rw [hnil] at hskip
      generalize hds : skip p.verbose ds = ds' at hskip
      refine ⟨ds', ?_, hskip⟩
      cases hskip with
      | shown => simp [readBranches, hds]
      | hidden => simp [readBranches, hds]
    · rename_i after hafter
      obtain ⟨hds, -⟩ := hnext hafter
      rw [hafter, hds] at hskip
      obtain ⟨rfl, hpair⟩ := Prod.ext_iff.1 (Option.some.inj hread)
      obtain ⟨rfl, rfl⟩ := Prod.ext_iff.1 hpair
      exact ⟨_, by simp [readBranches, hds], hskip⟩
    · rename_i after hafter
      obtain ⟨hds, htail⟩ := hnext hafter
      obtain ⟨last, hlast, hext⟩ := ih htail hread
      exact ⟨last, by simp [readBranches, hds, hlast], hext⟩
    · rename_i after hafter
      obtain ⟨hds, htail⟩ := hnext hafter
      have hinside : Extended text (skip p.verbose after) (skip p.verbose (after ++ [')'])) :=
        htail.skip
      -- what stands in a group ends at a parenthesis that is there in any case
      have hgroup {inner r : Progress} {as bs more : List Char} {u : Tree}
          (hab : Extended text as bs)
          (hinner : readBranches fuel inner [] [] as = some (u, r, ')' :: more)) :
          readBranches m inner [] [] bs = some (u, r, ')' :: (more ++ [')'])) ∧
            Extended text more (more ++ [')']) := by
        obtain ⟨left, hleft, hext⟩ := ih hab hinner
        rw [hext.eq_of_cons] at hleft
        exact ⟨hleft, hext.tail⟩
      split at hread
      · cases hread
      · rename_i change more hopening
        obtain ⟨left, hleft, hext⟩ := extends_readGroupOpening hinside hopening
        obtain ⟨last, hlast, hextlast⟩ := ih hext hread
        exact ⟨last, by simp [readBranches, hds, hleft, hlast], hextlast⟩
      · rename_i name more hopening
        obtain ⟨left, hleft, hext⟩ := extends_readGroupOpening hinside hopening
        split_ifs at hread with hname
        dsimp only at hread
        split at hread
        · rename_i u r more hinner
          obtain ⟨hclosed, hmore⟩ := hgroup hext hinner
          obtain ⟨last, hlast, hextlast⟩ := ih hmore hread
          exact ⟨last, by simp [readBranches, hds, hleft, hname, hclosed, hlast], hextlast⟩
        · cases hread
      · rename_i change more hopening
        obtain ⟨left, hleft, hext⟩ := extends_readGroupOpening hinside hopening
        dsimp only at hread
        split at hread
        · rename_i u r more hinner
          obtain ⟨hclosed, hmore⟩ := hgroup hext hinner
          obtain ⟨last, hlast, hextlast⟩ := ih hmore hread
          exact ⟨last, by simp [readBranches, hds, hleft, hclosed, hlast], hextlast⟩
        · cases hread
    · rename_i after hafter
      obtain ⟨hds, htail⟩ := hnext hafter
      split at hread
      · rename_i item more hitem
        obtain ⟨left, hleft, hext⟩ := extends_readClass htail hitem
        obtain ⟨last, hlast, hextlast⟩ := ih hext hread
        exact ⟨last, by simp [readBranches, hds, hleft, hlast], hextlast⟩
      · cases hread
    · rename_i after hafter
      obtain ⟨hds, htail⟩ := hnext hafter
      split at hread
      · rename_i again more hagain
        obtain ⟨left, hleft, hext⟩ := extends_readRepetition items _ _ htail hagain
        obtain ⟨last, hlast, hextlast⟩ := ih hext hread
        exact ⟨last, by simp [readBranches, hds, hleft, hlast], hextlast⟩
      · cases hread
    · rename_i after hafter
      obtain ⟨hds, htail⟩ := hnext hafter
      split at hread
      · rename_i again more hagain
        obtain ⟨left, hleft, hext⟩ := extends_readRepetition items _ _ htail hagain
        obtain ⟨last, hlast, hextlast⟩ := ih hext hread
        exact ⟨last, by simp [readBranches, hds, hleft, hlast], hextlast⟩
      · cases hread
    · rename_i after hafter
      obtain ⟨hds, htail⟩ := hnext hafter
      split at hread
      · rename_i again more hagain
        obtain ⟨left, hleft, hext⟩ := extends_readRepetition items _ _ htail hagain
        obtain ⟨last, hlast, hextlast⟩ := ih hext hread
        exact ⟨last, by simp [readBranches, hds, hleft, hlast], hextlast⟩
      · cases hread
    · rename_i after hafter
      obtain ⟨hds, htail⟩ := hnext hafter
      split at hread
      · cases hread
      · rename_i min max more hcounts
        obtain ⟨left, hleft, hext⟩ := extends_readCounts htail hcounts
        split at hread
        · rename_i again more hagain
          obtain ⟨next, hnext, hext⟩ := extends_readRepetition items min max hext.skip hagain
          obtain ⟨last, hlast, hextlast⟩ := ih hext hread
          exact ⟨last, by simp [readBranches, hds, hleft, hnext, hlast], hextlast⟩
        · cases hread
    · rename_i after hafter
      obtain ⟨hds, htail⟩ := hnext hafter
      split at hread
      · rename_i item more hitem
        obtain ⟨left, hleft, hext⟩ := extends_readEscape htail hitem
        obtain ⟨last, hlast, hextlast⟩ := ih hext hread
        exact ⟨last, by simp [readBranches, hds, hleft, hlast], hextlast⟩
      · cases hread
    · rename_i after hafter
      obtain ⟨hds, htail⟩ := hnext hafter
      obtain ⟨last, hlast, hext⟩ := ih htail hread
      exact ⟨last, by simp [readBranches, hds, hlast], hext⟩
    · rename_i after hafter
      obtain ⟨hds, htail⟩ := hnext hafter
      obtain ⟨last, hlast, hext⟩ := ih htail hread
      exact ⟨last, by simp [readBranches, hds, hlast], hext⟩
    · rename_i after hafter
      obtain ⟨hds, htail⟩ := hnext hafter
      obtain ⟨last, hlast, hext⟩ := ih htail hread
      exact ⟨last, by simp [readBranches, hds, hlast], hext⟩
    · rename_i c after _ _ _ _ _ _ _ _ _ _ _ _ hafter
      obtain ⟨hds, htail⟩ := hnext hafter
      obtain ⟨last, hlast, hext⟩ := ih htail hread
      refine ⟨last, ?_, hext⟩
      simp [readBranches, *]

end LexGen.Regex
