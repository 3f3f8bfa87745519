import LexGen.Fragment
import LexGen.Proofs.Text.Search
import Mathlib.Tactic.SplitIfs
import Mathlib.Tactic.Tauto

/-!
# References in a text

Where names have neither braces nor parentheses, references do not overlap, so that a text is read
from left to right as references and other characters (`reference_induction`). What stands in place
of a reference is in parentheses, which belong to no reference: so replacing one makes no other one
across its borders (`infix_substitute`), and to replace one reference first is no change to the
result of replacing all of them at once (`substituteAll_substitute`).
-/

namespace LexGen.Fragments

/-- A name that keeps references apart: it has neither braces nor parentheses. -/
def Plain (name : String) : Prop := ∀ c ∈ name.toList, c ∉ ['{', '}', '(', ')']

instance (name : String) : Decidable (Plain name) :=
  List.decidableBAll (fun c => c ∉ ['{', '}', '(', ')']) name.toList

/-- Replaces the references to all the names at once, each by what `f` gives for the name, where the
first `skip` characters are what is left of a reference that has been replaced. -/
def substituteAllFrom (names : List String) (f : String → String) : Nat → List Char → List Char
  | _, [] => []
  | skip + 1, _ :: cs => substituteAllFrom names f skip cs
  | 0, c :: cs =>
    match names.find? fun n => (reference n).isPrefixOf (c :: cs) with
    | some n => grouped (f n) ++ substituteAllFrom names f ((reference n).length - 1) cs
    | none => c :: substituteAllFrom names f 0 cs

/-- Replaces the references to all the names at once, each by what `f` gives for the name. -/
def substituteAll (names : List String) (f : String → String) (text : List Char) : List Char :=
  substituteAllFrom names f 0 text

/-! ## Plain names -/

theorem Plain.notMem {name : String} (h : Plain name) {c : Char} (hc : c ∈ ['{', '}', '(', ')']) :
    c ∉ name.toList :=
  fun hmem => h c hmem hc

theorem Plain.paren_notMem {name : String} (h : Plain name) {d : Char} (hd : d = '(' ∨ d = ')') :
    d ∉ reference name := by
  have hname : d ∉ name.toList := h.notMem (by rcases hd with rfl | rfl <;> simp)
  rcases hd with rfl | rfl <;> simp [reference, hname]

/-- A name ends where the first closing brace is. -/
theorem eq_of_name_starts {y : List Char} :
    ∀ {a b : List Char}, '}' ∉ a → '}' ∉ b → a ++ ['}'] <+: b ++ '}' :: y → a = b
  | [], [], _, _, _ => rfl
  | [], c :: b, _, hb, h => by
    simp only [List.nil_append, List.cons_append, List.cons_prefix_cons] at h
    exact absurd (h.1 ▸ List.mem_cons_self) hb
  | c :: a, [], ha, _, h => by
    simp only [List.nil_append, List.cons_append, List.cons_prefix_cons] at h
    exact absurd (h.1 ▸ List.mem_cons_self) ha
  | c :: a, d :: b, ha, hb, h => by
    simp only [List.cons_append, List.cons_prefix_cons] at h
    simp only [List.mem_cons, not_or] at ha hb
    rw [h.1, eq_of_name_starts ha.2 hb.2 h.2]

theorem eq_of_reference_starts {n k : String} (hn : Plain n) (hk : Plain k) {cs : List Char}
    (h : reference n <+: reference k ++ cs) : n = k := by
  simp only [reference, List.cons_append, List.append_assoc, List.cons_prefix_cons, true_and,
    List.nil_append] at h
  exact String.toList_injective (eq_of_name_starts (hn.notMem (by simp)) (hk.notMem (by simp)) h)

/-- A text is read as references to plain names and other characters. -/
theorem reference_induction {motive : List Char → Prop} (nil : motive [])
    (ref : ∀ k cs, Plain k → motive cs → motive (reference k ++ cs))
    (char : ∀ c cs, (∀ k, Plain k → ¬reference k <+: c :: cs) → motive cs → motive (c :: cs)) :
    ∀ cs, motive cs
  | [] => nil
  | c :: cs => by
    by_cases h : ∃ k, Plain k ∧ reference k <+: c :: cs
    · obtain ⟨k, hk, rest, hrest⟩ := h
      have hlen : (reference k).length + rest.length = cs.length + 1 := by
        rw [← List.length_append, hrest, List.length_cons]
      have hpos : 0 < (reference k).length := by simp [reference]
      rw [← hrest]
      exact ref k rest hk (reference_induction nil ref char rest)
    · exact char c cs (fun k hk hp => h ⟨k, hk, hp⟩) (reference_induction nil ref char cs)
termination_by cs => cs.length
decreasing_by
  · simp only [List.length_cons]
    omega
  · simp

/-! ## Occurrences of references -/

theorem not_reference_starts_cons {n : String} {c : Char} (hc : c ≠ '{') (cs : List Char) :
    ¬reference n <+: c :: cs := by
  intro h
  rw [reference, List.cons_append, List.cons_prefix_cons] at h
  exact hc h.1.symm

theorem infix_cons_of_not_starts {n : String} {c : Char} {cs : List Char}
    (h : ¬reference n <+: c :: cs) : reference n <:+: c :: cs ↔ reference n <:+: cs := by
  rw [List.infix_cons_iff]
  exact or_iff_right h

theorem infix_append_of_forall_ne {n : String} (cs : List Char) :
    ∀ {a : List Char}, (∀ c ∈ a, c ≠ '{') → (reference n <:+: a ++ cs ↔ reference n <:+: cs)
  | [], _ => Iff.rfl
  | c :: a, h => by
    have hc := not_reference_starts_cons (n := n) (h c List.mem_cons_self) (a ++ cs)
    rw [List.cons_append, infix_cons_of_not_starts hc]
    exact infix_append_of_forall_ne cs fun d hd => h d (List.mem_cons_of_mem _ hd)

theorem Plain.ne_of_mem_tail {k : String} (hk : Plain k) {c : Char}
    (hc : c ∈ k.toList ++ ['}']) : c ≠ '{' := by
  rintro rfl
  rcases List.mem_append.1 hc with h | h
  · exact hk.notMem (by simp) h
  · simp at h

theorem infix_reference_append {n k : String} (hn : Plain n) (hk : Plain k) (cs : List Char) :
    reference n <:+: reference k ++ cs ↔ n = k ∨ reference n <:+: cs := by
  constructor
  · intro h
    have hcons : reference k ++ cs = '{' :: (k.toList ++ ['}'] ++ cs) := rfl
    rw [hcons, List.infix_cons_iff] at h
    rcases h with h | h
    · exact .inl (eq_of_reference_starts hn hk h)
    · exact .inr ((infix_append_of_forall_ne cs fun c hc => hk.ne_of_mem_tail hc).1 h)
  · rintro (rfl | h)
    · exact (List.prefix_append _ _).isInfix
    · exact h.trans (List.suffix_append _ _).isInfix

theorem infix_grouped_append {n : String} (hn : Plain n) (body : String) (cs : List Char) :
    reference n <:+: grouped body ++ cs ↔ reference n <:+: body.toList ∨ reference n <:+: cs := by
  have hopen : ¬reference n <+: '(' :: (body.toList ++ ')' :: cs) :=
    not_reference_starts_cons (by simp) _
  rw [grouped, List.cons_append, List.cons_append, List.append_assoc, List.singleton_append,
    infix_cons_of_not_starts hopen, Text.infix_append_cons (hn.paren_notMem (.inr rfl))]

/-! ## Replacing at once -/

section SubstituteAll

variable {names : List String} (f : String → String)

theorem substituteAllFrom_append (cs : List Char) :
    ∀ a : List Char, substituteAllFrom names f a.length (a ++ cs) = substituteAll names f cs
  | [] => rfl
  | c :: a => by
    rw [List.length_cons, List.cons_append, substituteAllFrom, substituteAllFrom_append cs a]

theorem substituteAll_cons {c : Char} {cs : List Char}
    (h : ∀ n ∈ names, ¬reference n <+: c :: cs) :
    substituteAll names f (c :: cs) = c :: substituteAll names f cs := by
  have hnone : (names.find? fun n => (reference n).isPrefixOf (c :: cs)) = none := by
    rw [List.find?_eq_none]
    intro n hn hp
    exact h n hn (List.isPrefixOf_iff_prefix.1 hp)
  rw [substituteAll, substituteAllFrom, hnone]
  rfl

theorem substituteAll_append (cs : List Char) :
    ∀ {a : List Char}, (∀ c ∈ a, c ≠ '{') →
      substituteAll names f (a ++ cs) = a ++ substituteAll names f cs
  | [], _ => rfl
  | c :: a, h => by
    have hc := h c List.mem_cons_self
    rw [List.cons_append, substituteAll_cons f fun n _ => not_reference_starts_cons hc _,
      substituteAll_append cs fun d hd => h d (List.mem_cons_of_mem _ hd), List.cons_append]

theorem substituteAll_of_no_reference :
    ∀ {cs : List Char}, (∀ n ∈ names, ¬reference n <:+: cs) → substituteAll names f cs = cs
  | [], _ => rfl
  | c :: cs, h => by
    rw [substituteAll_cons f fun n hn hp => h n hn hp.isInfix,
      substituteAll_of_no_reference fun n hn hi => h n hn (hi.trans (List.suffix_cons c cs).isInfix)]

variable (hnames : ∀ n ∈ names, Plain n)

include hnames

theorem substituteAll_reference_append {k : String} (hk : Plain k) (cs : List Char) :
    substituteAll names f (reference k ++ cs) =
      (if k ∈ names then grouped (f k) else reference k) ++ substituteAll names f cs := by
  have heq : ∀ n ∈ names, (reference n).isPrefixOf (reference k ++ cs) = true → n = k :=
    fun n hn hp => eq_of_reference_starts (hnames n hn) hk (List.isPrefixOf_iff_prefix.1 hp)
  have hcons : reference k ++ cs = '{' :: (k.toList ++ ['}'] ++ cs) := rfl
  split_ifs with hmem
  · have hfind : (names.find? fun n => (reference n).isPrefixOf (reference k ++ cs)) = some k := by
      rcases hf : names.find? fun n => (reference n).isPrefixOf (reference k ++ cs) with _ | n
      · have hself := List.find?_eq_none.1 hf k hmem
        exact absurd (List.isPrefixOf_iff_prefix.2 (List.prefix_append _ cs)) hself
      · have hp := List.find?_some hf
        rw [heq n (List.mem_of_find?_eq_some hf) hp]
    have hlen : (reference k).length - 1 = (k.toList ++ ['}']).length := by
      simp [reference]
    rw [hcons] at hfind
    rw [substituteAll, hcons, substituteAllFrom, hfind]
    show grouped (f k) ++ substituteAllFrom names f ((reference k).length - 1) _ = _
    rw [hlen, substituteAllFrom_append]
  · have hnone : ∀ n ∈ names, ¬reference n <+: '{' :: (k.toList ++ ['}'] ++ cs) := by
      intro n hn hp
      exact hmem (heq n hn (List.isPrefixOf_iff_prefix.2 hp) ▸ hn)
    rw [hcons, substituteAll_cons f hnone, substituteAll_append f cs fun c hc => hk.ne_of_mem_tail hc]
    rfl

/-- A parenthesis cuts the text in two that are replaced in by themselves. -/
theorem substituteAll_append_cons {d : Char} (hd : d = '(' ∨ d = ')') (b a : List Char) :
    substituteAll names f (a ++ d :: b) =
      substituteAll names f a ++ d :: substituteAll names f b := by
  have hbrace : d ≠ '{' := by rcases hd with rfl | rfl <;> simp
  induction a using reference_induction with
  | nil => exact substituteAll_cons f fun n _ => not_reference_starts_cons hbrace b
  | ref k cs hk ih =>
    rw [List.append_assoc, substituteAll_reference_append f hnames hk,
      substituteAll_reference_append f hnames hk, ih, List.append_assoc]
  | char c cs hc ih =>
    have hcut : ∀ n ∈ names, ¬reference n <+: c :: (cs ++ d :: b) := by
      intro n hn hp
      exact hc n (hnames n hn) (Text.starts_append_cons ((hnames n hn).paren_notMem hd) b hp)
    rw [List.cons_append, substituteAll_cons f hcut, ih,
      substituteAll_cons f fun n hn => hc n (hnames n hn), List.cons_append]

theorem substituteAll_grouped_append (body : String) (cs : List Char) :
    substituteAll names f (grouped body ++ cs) =
      grouped (String.ofList (substituteAll names f body.toList)) ++ substituteAll names f cs := by
  have hopen := substituteAll_append_cons f hnames (.inl rfl) (body.toList ++ ')' :: cs) []
  have hclose := substituteAll_append_cons f hnames (.inr rfl) cs body.toList
  have hcat : grouped body ++ cs = [] ++ '(' :: (body.toList ++ ')' :: cs) := by
    simp [grouped]
  rw [hcat, hopen, hclose]
  simp [grouped, substituteAll, substituteAllFrom]

end SubstituteAll

/-! ## Replacing the references to one fragment -/

/-- To replace the references to one fragment is to replace all references to it at once. -/
theorem substitute_eq (n body : String) (cs : List Char) :
    substitute n body cs = substituteAll [n] (fun _ => body) cs := by
  have hfrom (skip : Nat) (cs : List Char) :
      Text.replaceFrom (reference n) (grouped body) skip cs =
        substituteAllFrom [n] (fun _ => body) skip cs := by
    fun_induction Text.replaceFrom (reference n) (grouped body) skip cs with
    | case1 => rfl
    | case2 skip c cs ih => exact ih
    | case3 c cs hp ih => simp only [substituteAllFrom, List.find?_cons, hp, ih]
    | case4 c cs hp ih => simp only [substituteAllFrom, List.find?_cons, hp, List.find?_nil, ih]
  exact hfrom 0 cs

section Substitute

variable {n : String} (hn : Plain n) (body : String)

include hn

theorem substitute_reference_append {k : String} (hk : Plain k) (cs : List Char) :
    substitute n body (reference k ++ cs) =
      (if k = n then grouped body else reference k) ++ substitute n body cs := by
  rw [substitute_eq, substitute_eq, substituteAll_reference_append _ (by simpa using hn) hk]
  simp only [List.mem_singleton]

theorem substitute_cons {c : Char} {cs : List Char}
    (h : ∀ k, Plain k → ¬reference k <+: c :: cs) :
    substitute n body (c :: cs) = c :: substitute n body cs := by
  rw [substitute_eq, substitute_eq, substituteAll_cons]
  intro k hk
  exact h k (List.mem_singleton.1 hk ▸ hn)

omit hn in
/-- What a text begins with has been there before, as far as it has no opening parenthesis. -/
theorem starts_of_starts_substitute :
    ∀ {p cs : List Char}, '(' ∉ p → p <+: substitute n body cs → p <+: cs
  | [], _, _, _ => List.nil_prefix
  | d :: p, [], _, h => h
  | d :: p, c :: cs, hp, h => by
    simp only [List.mem_cons, not_or] at hp
    by_cases hr : reference n <+: c :: cs
    · rw [substitute, Text.replaceAll, Text.replaceFrom,
        if_pos (List.isPrefixOf_iff_prefix.2 hr), grouped, List.cons_append, List.cons_append,
        List.cons_prefix_cons] at h
      exact absurd h.1.symm hp.1
    · rw [substitute, Text.replaceAll, Text.replaceFrom,
        if_neg (mt List.isPrefixOf_iff_prefix.1 hr), List.cons_prefix_cons] at h
      rw [List.cons_prefix_cons]
      exact ⟨h.1, starts_of_starts_substitute hp.2 h.2⟩

omit hn in
theorem not_starts_cons_substitute {c : Char} {cs : List Char}
    (h : ∀ k, Plain k → ¬reference k <+: c :: cs) (k : String) (hk : Plain k) :
    ¬reference k <+: c :: substitute n body cs := by
  intro hp
  have hparen : '(' ∉ reference k := hk.paren_notMem (.inl rfl)
  simp only [reference, List.cons_append, List.mem_cons, not_or] at hparen
  refine h k hk ?_
  rw [reference, List.cons_append, List.cons_prefix_cons] at hp ⊢
  exact ⟨hp.1, starts_of_starts_substitute body hparen.2 hp.2⟩

/-- The references after a replacement: those to other fragments, and those in the body, once for
each occurrence. -/
theorem infix_substitute {w : String} (hw : Plain w) (cs : List Char) :
    reference w <:+: substitute n body cs ↔
      (reference w <:+: cs ∧ w ≠ n) ∨ (reference n <:+: cs ∧ reference w <:+: body.toList) := by
  induction cs using reference_induction with
  | nil => simp [substitute, Text.replaceAll, Text.replaceFrom, reference]
  | ref k cs hk ih =>
    rw [substitute_reference_append hn body hk, infix_reference_append hw hk,
      infix_reference_append hn hk]
    split_ifs with hkn
    · subst hkn
      rw [infix_grouped_append hw, ih]
      tauto
    · rw [infix_reference_append hw hk, ih]
      have hne : w = k → w ≠ n := fun hwk => hwk ▸ hkn
      have hkn' : n ≠ k := Ne.symm hkn
      tauto
  | char c cs hc ih =>
    rw [substitute_cons hn body hc, infix_cons_of_not_starts (hc w hw),
      infix_cons_of_not_starts (hc n hn),
      infix_cons_of_not_starts (not_starts_cons_substitute body hc w hw), ih]

/-- Where `f` gives for a name what it makes of the body, the body may come in place of the name
before. -/
theorem substituteAll_substitute {names : List String} (f : String → String)
    (hnames : ∀ k ∈ names, Plain k) (hmem : n ∈ names)
    (hf : f n = String.ofList (substituteAll names f body.toList)) (cs : List Char) :
    substituteAll names f (substitute n body cs) = substituteAll names f cs := by
  induction cs using reference_induction with
  | nil => rfl
  | ref k cs hk ih =>
    rw [substitute_reference_append hn body hk, substituteAll_reference_append f hnames hk]
    split_ifs with hkn hkm hkm
    · rw [substituteAll_grouped_append f hnames, ← hf, ih, hkn]
    · exact absurd (hkn ▸ hmem) hkm
    · rw [substituteAll_reference_append f hnames hk, if_pos hkm, ih]
    · rw [substituteAll_reference_append f hnames hk, if_neg hkm, ih]
  | char c cs hc ih =>
    rw [substitute_cons hn body hc, substituteAll_cons f fun k hk => hc k (hnames k hk),
      substituteAll_cons f fun k hk => not_starts_cons_substitute body hc k (hnames k hk), ih]

end Substitute

end LexGen.Fragments
