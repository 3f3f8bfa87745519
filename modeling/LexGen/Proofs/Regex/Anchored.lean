import LexGen.Proofs.Regex.Extended
import LexGen.Regex.Meaning

/-!
# Trees of anchored patterns

A pattern is anchored by a group around it behind an anchor, and another group may make case matter
in it. `read?_anchored` and `read?_anchored_sensitive` say what is read then: the tree of the
pattern within the trees of the groups, if these do not nest too deeply, and nothing if the pattern
hides the parenthesis that closes the inner group. What the tree means is the pattern's own
expression behind a look for the start.
-/

namespace LexGen.Regex

/-- A parenthesis that is put at the end of the pattern is not seen: with it there is a pattern
still. -/
def HidesEnd (cs : List Char) : Prop := (Tree.read? false (cs ++ [')'])).isSome = true

instance (cs : List Char) : Decidable (HidesEnd cs) := by unfold HidesEnd; infer_instance

/-- How the reader begins. -/
def Progress.first : Progress := { verbose := false }

theorem Tree.read?_eq_some {cs : List Char} {t : Tree} : Tree.read? false cs = some t ↔
    ∃ q, readBranches (cs.length + 1) .first [] [] cs = some (t, q, []) ∧ t.depth ≤ nestLimit := by
  unfold Tree.read?
  constructor
  · intro h
    split at h
    · rename_i u q hread
      split_ifs at h with hdepth
      obtain rfl := Option.some.inj h
      exact ⟨q, hread, hdepth⟩
    · cases h
  · rintro ⟨q, hread, hdepth⟩
    have hfirst : readBranches (cs.length + 1) { verbose := false } [] [] cs = some (t, q, []) :=
      hread
    rw [hfirst]
    exact if_pos hdepth

section Closed

variable {p : List Char} {t : Tree}

/-- A pattern that stands in a group is read to the parenthesis that closes the group, unless the
parenthesis is hidden. -/
theorem exists_readBranches_close (h : Tree.read? false p = some t) {m : Nat}
    (hm : p.length + 1 ≤ m) :
    ∃ q left, readBranches m .first [] [] (p ++ [')']) = some (t, q, left) ∧
      Extended p [] left := by
  obtain ⟨q, hread, -⟩ := Tree.read?_eq_some.1 h
  obtain ⟨left, hleft, hext⟩ := extended_readBranches hm (.shown List.suffix_rfl) hread
  exact ⟨q, left, hleft, hext⟩

/-- Whether the parenthesis is hidden does not depend on the fuel. -/
theorem hidden_unique {cs : List Char} {m n : Nat} {t u : Tree} {q r : Progress}
    (hshown : readBranches m .first [] [] cs = some (t, q, [')']))
    (hhidden : readBranches n .first [] [] cs = some (u, r, [])) : False := by
  obtain ⟨left, hleft, hext⟩ := extended_readBranches (Nat.le_max_left m n)
    (.shown List.suffix_rfl) hshown
  obtain ⟨last, hlast, hextlast⟩ := extended_readBranches (Nat.le_max_right m n)
    (.shown List.suffix_rfl) hhidden
  rw [hext.eq_of_cons, hlast] at hleft
  have hlength := congrArg List.length (congrArg (·.2.2) (Option.some.inj hleft))
  cases hextlast <;> simp at hlength

theorem hidesEnd_iff (h : Tree.read? false p = some t) {m : Nat} {q : Progress} {left : List Char}
    (hread : readBranches m .first [] [] (p ++ [')']) = some (t, q, left))
    (hext : Extended p [] left) : HidesEnd p ↔ left = [] := by
  constructor
  · intro hhides
    obtain ⟨u, hu⟩ := Option.isSome_iff_exists.1 hhides
    obtain ⟨r, hhidden, -⟩ := Tree.read?_eq_some.1 hu
    cases hext with
    | shown => exact (hidden_unique hread hhidden).elim
    | hidden => rfl
  · rintro rfl
    have hlength : p.length + 1 ≤ (p ++ [')']).length + 1 := by simp
    obtain ⟨r, left, hleft, hext⟩ := exists_readBranches_close h hlength
    cases hext with
    | shown => exact (hidden_unique hleft hread).elim
    | hidden =>
      obtain ⟨-, -, hdepth⟩ := Tree.read?_eq_some.1 h
      exact Option.isSome_iff_exists.2 ⟨t, Tree.read?_eq_some.2 ⟨r, hleft, hdepth⟩⟩

/-- What hides the parenthesis is a comment. -/
theorem HidesEnd.openComment (h : Tree.read? false p = some t) (hhides : HidesEnd p) :
    OpenComment p := by
  obtain ⟨q, left, hread, hext⟩ := exists_readBranches_close h (Nat.le_refl _)
  obtain rfl := (hidesEnd_iff h hread hext).1 hhides
  cases hext with
  | hidden hopen => exact hopen

end Closed

/-! ## Groups around a pattern -/

section Groups

variable {fuel : Nat} {branches items : List Tree} {rest inner more : List Char}
  {change : FlagChange} {t : Tree} {q : Progress}

theorem readBranches_end (hq : q.verbose = false) :
    readBranches (fuel + 1) q branches items [] = some (closeBranches branches items, q, []) := by
  simp [readBranches, skip, hq]

theorem readBranches_close (hq : q.verbose = false) :
    readBranches (fuel + 1) q branches items (')' :: rest) =
      some (closeBranches branches items, q, ')' :: rest) := by
  simp [readBranches, skip, hq]

variable (branches items)

theorem readBranches_group (hopening : readGroupOpening rest = some (.flags change, inner))
    (hverbose : change.verbose = none)
    (hinner : readBranches fuel .first [] [] inner = some (t, q, ')' :: more)) :
    readBranches (fuel + 1) .first branches items ('(' :: rest) =
      readBranches fuel { q with verbose := false } branches (.group change t :: items) more := by
  have hinner : readBranches fuel { verbose := false } [] [] inner = some (t, q, ')' :: more) :=
    hinner
  simp [readBranches, skip, Progress.first, hopening, hverbose, hinner]

theorem readBranches_group_none (hopening : readGroupOpening rest = some (.flags change, inner))
    (hverbose : change.verbose = none)
    (hinner : ∀ t q more, readBranches fuel .first [] [] inner ≠ some (t, q, ')' :: more)) :
    readBranches (fuel + 1) .first branches items ('(' :: rest) = none := by
  have hinner : ∀ t q more,
      readBranches fuel { verbose := false } [] [] inner ≠ some (t, q, ')' :: more) := hinner
  simp [readBranches, skip, Progress.first, hopening, hverbose]

end Groups

/-- The group that keeps a pattern together. -/
def groupText (p : List Char) : List Char := ['(', '?', ':'] ++ p ++ [')']

/-- The group in which case matters. -/
def sensitiveText (p : List Char) : List Char := ['(', '?', '-', 'i', ':'] ++ p ++ [')']

section Anchor

variable {p : List Char} {t : Tree} {q : Progress}

theorem length_groupText (p : List Char) : (groupText p).length = p.length + 4 := by
  simp [groupText]

theorem readBranches_anchor (fuel : Nat) (rest : List Char) :
    readBranches (fuel + 1) { verbose := false } [] [] ('^' :: rest) =
      readBranches fuel .first [] [.anchor .lineStart] rest := by
  simp [readBranches, skip, Progress.first]

theorem read?_anchor_of_close
    (h : readBranches (p.length + 4) .first [] [] (p ++ [')']) = some (t, q, [')'])) :
    Tree.read? false ('^' :: groupText p) =
      if t.depth + 2 ≤ nestLimit then some (.concat [.anchor .lineStart, .group {} t])
      else none := by
  have hopening : readGroupOpening ('?' :: ':' :: (p ++ [')'])) =
      some (.flags {}, p ++ [')']) := rfl
  have hgroup := readBranches_group [] [.anchor .lineStart] hopening rfl h
  have hend : readBranches (p.length + 4) { q with verbose := false } []
      [.group {} t, .anchor .lineStart] [] =
        some (closeBranches [] [.group {} t, .anchor .lineStart], { q with verbose := false }, []) :=
    readBranches_end rfl
  have hread : readBranches (('^' :: groupText p).length + 1) { verbose := false } [] []
      ('^' :: groupText p) = some (.concat [.anchor .lineStart, .group {} t],
        { q with verbose := false }, []) := by
    rw [List.length_cons, length_groupText, readBranches_anchor]
    exact hgroup.trans hend
  have hdepth : (Tree.concat [.anchor .lineStart, .group {} t]).depth = t.depth + 2 := by
    simp [Tree.depth, Tree.depthAll]
  unfold Tree.read?
  rw [hread]
  simp only [hdepth]

theorem read?_anchor_eq_none
    (h : ∀ t q more, readBranches (p.length + 4) .first [] [] (p ++ [')']) ≠
      some (t, q, ')' :: more)) : Tree.read? false ('^' :: groupText p) = none := by
  have hopening : readGroupOpening ('?' :: ':' :: (p ++ [')'])) =
      some (.flags {}, p ++ [')']) := rfl
  have hgroup := readBranches_group_none [] [.anchor .lineStart] hopening rfl h
  have hread : readBranches (('^' :: groupText p).length + 1) { verbose := false } [] []
      ('^' :: groupText p) = none := by
    rw [List.length_cons, length_groupText, readBranches_anchor]
    exact hgroup
  unfold Tree.read?
  rw [hread]

/-- The tree of a pattern that is kept together and anchored. -/
theorem read?_anchored (h : Tree.read? false p = some t) :
    Tree.read? false ('^' :: groupText p) =
      if HidesEnd p then none
      else if t.depth + 2 ≤ nestLimit then some (.concat [.anchor .lineStart, .group {} t])
      else none := by
  have hfuel : p.length + 1 ≤ p.length + 4 := by omega
  obtain ⟨q, left, hread, hext⟩ := exists_readBranches_close h hfuel
  have hhides := hidesEnd_iff h hread hext
  cases hext with
  | shown =>
    rw [if_neg (fun hp => by cases hhides.1 hp)]
    exact read?_anchor_of_close hread
  | hidden =>
    rw [if_pos (hhides.2 rfl)]
    refine read?_anchor_eq_none fun u r more hmore => ?_
    rw [hread] at hmore
    cases hmore

/-- The same where a group is around it in which case matters. -/
theorem read?_anchored_sensitive (h : Tree.read? false p = some t) :
    Tree.read? false ('^' :: groupText (sensitiveText p)) =
      if HidesEnd p then none
      else if t.depth + 3 ≤ nestLimit then
        some (.concat [.anchor .lineStart, .group {} (.group { caseless := some false } t)])
      else none := by
  have hfuel : p.length + 1 ≤ p.length + 9 := by omega
  have hlength : (sensitiveText p).length + 4 = p.length + 9 + 1 := by simp [sensitiveText]
  have htext : sensitiveText p ++ [')'] =
      '(' :: '?' :: '-' :: 'i' :: ':' :: (p ++ [')'] ++ [')']) := by simp [sensitiveText]
  have hopening : readGroupOpening ('?' :: '-' :: 'i' :: ':' :: (p ++ [')'] ++ [')'])) =
      some (.flags { caseless := some false }, p ++ [')'] ++ [')']) := rfl
  obtain ⟨q, left, hread, hext⟩ := exists_readBranches_close h hfuel
  have hhides := hidesEnd_iff h hread hext
  obtain ⟨last, hlast, hextlast⟩ := extended_readBranches (Nat.le_refl (p.length + 9))
    (.shown List.suffix_rfl) hread
  cases hext with
  | shown =>
    rw [hextlast.eq_of_cons] at hlast
    have hgroup : readBranches ((sensitiveText p).length + 4) .first [] []
        (sensitiveText p ++ [')']) =
          some (.group { caseless := some false } t, { q with verbose := false }, [')']) := by
      rw [hlength, htext, readBranches_group _ _ hopening rfl hlast]
      exact readBranches_close rfl
    rw [if_neg (fun hp => by cases hhides.1 hp), read?_anchor_of_close hgroup]
    simp only [Tree.depth, Nat.add_assoc]
  | hidden =>
    rw [if_pos (hhides.2 rfl)]
    refine read?_anchor_eq_none fun u r more hmore => ?_
    rw [hlength, htext] at hmore
    -- what is left of the two parentheses closes one group at most
    cases hextlast with
    | shown =>
      rw [readBranches_group _ _ hopening rfl hlast, readBranches_end rfl] at hmore
      cases hmore
    | hidden =>
      rw [readBranches_group_none _ _ hopening rfl (fun u r more hmore => by
        rw [hlast] at hmore; cases hmore)] at hmore
      cases hmore

end Anchor

/-! ## What anchored patterns mean -/

theorem expr?_anchored {t : Tree} {e : Expr} {g : Flags} (h : t.expr? {} = some (e, g)) :
    (Tree.concat [.anchor .lineStart, .group {} t]).expr? {} =
      some (.ofConcat [.look .textStart, e], {}) := by
  have happly : ({} : Flags).apply {} = {} := rfl
  simp [Tree.expr?, Tree.exprs?, happly, h, Flags.anchorLook]

theorem expr?_anchored_sensitive {t : Tree} {e : Expr} {g : Flags}
    (h : t.expr? {} = some (e, g)) :
    (Tree.concat [.anchor .lineStart, .group {} (.group { caseless := some false } t)]).expr?
      { caseless := true } = some (.ofConcat [.look .textStart, e], { caseless := true }) := by
  have happly : ({ caseless := true } : Flags).apply {} = { caseless := true } := rfl
  have hsensitive : ({ caseless := true } : Flags).apply { caseless := some false } = {} := rfl
  simp [Tree.expr?, Tree.exprs?, happly, hsensitive, h, Flags.anchorLook]

end LexGen.Regex
