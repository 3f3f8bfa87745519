import LexGen.Command.Reader
import LexGen.Proofs.Text.Literal

/-!
# Statements and what is around them

What stands in a statement (`Inline`) is taken over as it is when an action is cut into statements
(`cutStatements_inline`), since quotes hide what would end it.

A text is closed if the search for the brace that ends a block passes over it (`Closed`). So
whatever number of blocks stand around a closed text, with blanks between them, they are taken off
(`stripBlocks_wrapped`), and so is a function around them (`stripWrappers_function`).
-/

namespace LexGen

open Text (isBlank Tight trim)
open Text.Quoted (isQuote encode encodeChar)

/-! ## Texts of statements -/

/-- The characters that mean something else than themselves in an action. -/
def specials : List Char := ['\'', '"', '{', '}', '/', ';', '\n', '\r']

/-- What may stand in a statement: characters that mean themselves, and quoted texts. -/
inductive Inline : List Char → Prop
  | nil : Inline []
  | char {c : Char} {cs : List Char} : c ∉ specials → Inline cs → Inline (c :: cs)
  | quoted (s : List Char) {cs : List Char} : Inline cs → Inline (encode s ++ cs)

namespace Inline

theorem append {t u : List Char} (ht : Inline t) (hu : Inline u) : Inline (t ++ u) := by
  induction ht with
  | nil => exact hu
  | char hc _ ih => exact .char hc ih
  | quoted s _ ih =>
    rw [List.append_assoc]
    exact .quoted s ih

theorem of_forall : ∀ {t : List Char}, (∀ c ∈ t, c ∉ specials) → Inline t
  | [], _ => .nil
  | c :: _, h =>
    .char (h c List.mem_cons_self) (of_forall fun d hd => h d (List.mem_cons_of_mem _ hd))

theorem of_all {t : List Char} (h : t.all (!specials.contains ·) = true) : Inline t :=
  of_forall fun c hc => by simpa using List.all_eq_true.1 h c hc

theorem encode (s : List Char) : Inline (encode s) := by
  simpa using Inline.quoted s .nil

theorem toDigits (n : Nat) : Inline (Nat.toDigits 10 n) := by
  have hs : specials.all (!·.isDigit) = true := by decide
  refine of_forall fun c hc h => ?_
  have hd : c.isDigit = true := Nat.isDigit_of_mem_toDigits (by decide) (by decide) hc
  have hnot := List.all_eq_true.1 hs c h
  rw [hd] at hnot
  cases hnot

end Inline

/-! ## Cutting -/

theorem cutStatements_char {c : Char} (hc : c ∉ specials) (rest : List Char) :
    cutStatements (.code none) (c :: rest) = addToFirst c (cutStatements (.code none) rest) := by
  have hne : ∀ d ∈ specials, c ≠ d := fun d hd h => hc (h ▸ hd)
  have hend : ¬(c = ';' ∨ c = '\n' ∨ c = '\r') := by
    rintro (h | h | h)
    · exact hne ';' (by decide) h
    · exact hne '\n' (by decide) h
    · exact hne '\r' (by decide) h
  have hq : Quoting.next none c = none := by
    have hq1 := hne '\'' (by decide)
    have hq2 := hne '"' (by decide)
    simp [Quoting.next, isQuote, hq1, hq2]
  have hslash := hne '/' (by decide)
  rw [cutStatements, if_neg hend, hq]
  · exact fun _ h => absurd h hslash
  · exact fun _ h => absurd h hslash

theorem cutStatements_encodeChar (c : Char) (rest : List Char) :
    cutStatements (.code (some ⟨'\'', false⟩)) (encodeChar c ++ rest) =
      (encodeChar c).foldr addToFirst (cutStatements (.code (some ⟨'\'', false⟩)) rest) := by
  unfold encodeChar
  split_ifs with h h1 h2 h3
  · simp [cutStatements, Quoting.next]
  · simp [cutStatements, Quoting.next]
  · simp [cutStatements, Quoting.next]
  · simp [cutStatements, Quoting.next]
  · simp [cutStatements, Quoting.next, mt Or.inl h, mt Or.inr h]

theorem cutStatements_flatMap : ∀ s rest : List Char,
    cutStatements (.code (some ⟨'\'', false⟩)) (s.flatMap encodeChar ++ rest) =
      (s.flatMap encodeChar).foldr addToFirst (cutStatements (.code (some ⟨'\'', false⟩)) rest)
  | [], _ => rfl
  | c :: s, rest => by
    rw [List.flatMap_cons, List.append_assoc, cutStatements_encodeChar, cutStatements_flatMap s,
      List.foldr_append]

theorem cutStatements_encode (s rest : List Char) :
    cutStatements (.code none) (encode s ++ rest) =
      (encode s).foldr addToFirst (cutStatements (.code none) rest) := by
  have hopen : ∀ cs, cutStatements (.code none) ('\'' :: cs) =
      addToFirst '\'' (cutStatements (.code (some ⟨'\'', false⟩)) cs) := by
    intro cs
    simp [cutStatements, Quoting.next, isQuote]
  have hclose : cutStatements (.code (some ⟨'\'', false⟩)) ('\'' :: rest) =
      addToFirst '\'' (cutStatements (.code none) rest) := by
    simp [cutStatements, Quoting.next]
  rw [encode, List.cons_append, List.cons_append, List.append_assoc, hopen, List.singleton_append,
    cutStatements_flatMap, hclose, List.foldr_cons, List.foldr_append]
  rfl

/-- What may stand in a statement is taken over as it is. -/
theorem cutStatements_inline {t : List Char} (ht : Inline t) (rest : List Char) :
    cutStatements (.code none) (t ++ rest) =
      t.foldr addToFirst (cutStatements (.code none) rest) := by
  induction ht with
  | nil => rfl
  | char hc _ ih => rw [List.cons_append, cutStatements_char hc, ih, List.foldr_cons]
  | quoted s _ ih => rw [List.append_assoc, cutStatements_encode, ih, List.foldr_append]

theorem foldr_addToFirst (s : List Char) (ss : List (List Char)) :
    ∀ t : List Char, t.foldr addToFirst (s :: ss) = (t ++ s) :: ss
  | [] => rfl
  | c :: t => by rw [List.foldr_cons, foldr_addToFirst s ss t]; rfl

theorem cutStatements_ne_nil (p : StatementPlace) (cs : List Char) : cutStatements p cs ≠ [] := by
  have hadd : ∀ c ss, addToFirst c ss ≠ [] := by
    rintro c (_ | ⟨s, ss⟩) <;> simp [addToFirst]
  fun_induction cutStatements p cs with
  | case1 => simp
  | case2 => exact hadd _ _
  | case3 _ ih => exact ih
  | case4 _ ih => exact ih
  | case5 => simp
  | case6 => exact hadd _ _
  | case7 => simp
  | case8 _ _ _ ih => exact ih
  | case9 _ _ _ _ ih => exact ih
  | case10 _ _ _ _ ih => exact ih

/-- A blank between statements counts for nothing. -/
theorem statements_space (rest : List Char) : statements (' ' :: rest) = statements rest := by
  rcases hs : cutStatements (.code none) rest with _ | ⟨s, ss⟩
  · exact absurd hs (cutStatements_ne_nil _ _)
  have htrim : trim (' ' :: s) = trim s := Text.trim_append_left (List.forall_mem_singleton.2 rfl) s
  rw [statements, statements, cutStatements_char (by decide), hs, addToFirst, List.map_cons, htrim,
    List.map_cons]

theorem statements_inline {t : List Char} (ht : Inline t) (hne : t ≠ []) (htight : Tight t)
    (rest : List Char) : statements (t ++ ';' :: rest) = t :: statements rest := by
  have hend : cutStatements (.code none) (';' :: rest) =
      [] :: cutStatements (.code none) rest := by simp [cutStatements]
  rw [statements, cutStatements_inline ht, hend, foldr_addToFirst, List.append_nil, List.map_cons,
    Text.trim_of_tight htight, List.filter_cons_of_pos (by simp [hne]), statements]

/-! ## Blocks -/

/-- The search for the brace that ends a block passes over the text. -/
def Closed (t : List Char) : Prop :=
  ∀ (depth : Nat) (rest : List Char), 0 < depth →
    closingBrace? none depth (t ++ rest) = (closingBrace? none depth rest).map (· + t.length)

theorem map_add_add (o : Option Nat) (m n : Nat) :
    (o.map (· + m)).map (· + n) = o.map (· + (n + m)) := by
  rw [Option.map_map]
  congr 1
  funext k
  simp only [Function.comp_apply]
  omega

theorem closingBrace?_escape (c : Char) (depth : Nat) (rest : List Char) :
    closingBrace? (some ⟨'\'', false⟩) depth ('\\' :: c :: rest) =
      (closingBrace? (some ⟨'\'', false⟩) depth rest).map (· + 2) := by
  have hescape : Quoting.next (some ⟨'\'', false⟩) '\\' = some ⟨'\'', true⟩ := rfl
  rw [closingBrace?, hescape, closingBrace?, map_add_add]
  rfl

theorem closingBrace?_encodeChar (c : Char) (depth : Nat) (rest : List Char) :
    closingBrace? (some ⟨'\'', false⟩) depth (encodeChar c ++ rest) =
      (closingBrace? (some ⟨'\'', false⟩) depth rest).map (· + (encodeChar c).length) := by
  unfold encodeChar
  split_ifs with h h1 h2 h3
  · exact closingBrace?_escape _ depth rest
  · exact closingBrace?_escape _ depth rest
  · exact closingBrace?_escape _ depth rest
  · exact closingBrace?_escape _ depth rest
  · simp [closingBrace?, Quoting.next, mt Or.inl h, mt Or.inr h]

theorem closingBrace?_flatMap (depth : Nat) : ∀ s rest : List Char,
    closingBrace? (some ⟨'\'', false⟩) depth (s.flatMap encodeChar ++ rest) =
      (closingBrace? (some ⟨'\'', false⟩) depth rest).map (· + (s.flatMap encodeChar).length)
  | [], rest => by simp
  | c :: s, rest => by
    rw [List.flatMap_cons, List.append_assoc, closingBrace?_encodeChar,
      closingBrace?_flatMap depth s, map_add_add, List.length_append]

namespace Closed

theorem nil : Closed [] := by
  intro depth rest _
  simp

theorem append {t u : List Char} (ht : Closed t) (hu : Closed u) : Closed (t ++ u) := by
  intro depth rest hd
  rw [List.append_assoc, ht depth _ hd, hu depth _ hd, map_add_add, List.length_append]

theorem char {c : Char} (hq : isQuote c = false) (hl : c ≠ '{') (hr : c ≠ '}') : Closed [c] := by
  intro depth rest _
  rw [List.singleton_append, closingBrace?, if_neg hr]
  simp only [if_neg hl, Quoting.next, hq, Bool.false_eq_true, ↓reduceIte]
  rfl

theorem of_blanks : ∀ {t : List Char}, (∀ c ∈ t, isBlank c = true) → Closed t
  | [], _ => nil
  | c :: cs, h => by
    have hb := h c List.mem_cons_self
    have hne : ∀ d, isBlank d = false → c ≠ d := by
      rintro d hd rfl
      rw [hb] at hd
      cases hd
    have hq : isQuote c = false := by
      simp [isQuote, hne '\'' (by decide), hne '"' (by decide)]
    exact (char hq (hne '{' (by decide)) (hne '}' (by decide))).append
      (of_blanks fun d hd => h d (List.mem_cons_of_mem _ hd))

theorem encode (s : List Char) : Closed (encode s) := by
  intro depth rest _
  have hopen : ∀ cs, closingBrace? none depth ('\'' :: cs) =
      (closingBrace? (some ⟨'\'', false⟩) depth cs).map (· + 1) := by
    intro cs
    simp [closingBrace?, Quoting.next, isQuote]
  have hclose : closingBrace? (some ⟨'\'', false⟩) depth ('\'' :: rest) =
      (closingBrace? none depth rest).map (· + 1) := by
    simp [closingBrace?, Quoting.next]
  have hlen : (Text.Quoted.encode s).length = 1 + (s.flatMap encodeChar).length + 1 := by
    simp only [Text.Quoted.encode, List.length_cons, List.length_append, List.length_nil]
    omega
  rw [hlen, Text.Quoted.encode, List.cons_append, List.cons_append, List.append_assoc, hopen,
    List.singleton_append, closingBrace?_flatMap, hclose, map_add_add, map_add_add]

theorem of_inline {t : List Char} (ht : Inline t) : Closed t := by
  induction ht with
  | nil => exact nil
  | @char c cs hc _ ih =>
    have hne : ∀ d ∈ specials, c ≠ d := fun d hd h => hc (h ▸ hd)
    have hq : isQuote c = false := by
      simp [isQuote, hne '\'' (by decide), hne '"' (by decide)]
    exact (char hq (hne '{' (by decide)) (hne '}' (by decide))).append ih
  | quoted s _ ih => exact (encode s).append ih

theorem block {t : List Char} (ht : Closed t) : Closed ('{' :: t ++ ['}']) := by
  intro depth rest hd
  have hopen : ∀ cs, closingBrace? none depth ('{' :: cs) =
      (closingBrace? none (depth + 1) cs).map (· + 1) := by
    intro cs
    simp [closingBrace?, Quoting.next, isQuote]
  have hclose : closingBrace? none (depth + 1) ('}' :: rest) =
      (closingBrace? none depth rest).map (· + 1) := by
    rw [closingBrace?, if_pos rfl, if_neg (by omega), if_neg (by omega), Nat.add_sub_cancel]
  have hlen : ('{' :: t ++ ['}']).length = 1 + t.length + 1 := by
    simp only [List.length_cons, List.length_append, List.length_nil]
    omega
  rw [hlen, List.cons_append, List.cons_append, List.append_assoc, hopen, List.singleton_append,
    ht _ _ (Nat.succ_pos depth), hclose, map_add_add, map_add_add]

end Closed

theorem isBlock_block {t : List Char} (ht : Closed t) : isBlock ('{' :: t ++ ['}']) = true := by
  have hopen : closingBrace? none 0 ('{' :: (t ++ ['}'])) =
      (closingBrace? none 1 (t ++ ['}'])).map (· + 1) := by
    simp [closingBrace?, Quoting.next, isQuote]
  have hclose : closingBrace? none 1 ['}'] = some 0 := rfl
  rw [isBlock, List.cons_append, hopen, ht 1 _ Nat.one_pos, hclose]
  simp

/-- A text with blocks around it, one in the other, and blanks around these. -/
inductive Wrapped (t : List Char) : List Char → Prop
  | bare : Wrapped t t
  | padded {l u r : List Char} : (∀ c ∈ l, isBlank c = true) → (∀ c ∈ r, isBlank c = true) →
      Wrapped t u → Wrapped t (l ++ u ++ r)
  | block {u : List Char} : Wrapped t u → Wrapped t ('{' :: u ++ ['}'])

namespace Wrapped

variable {t u : List Char}

theorem closed (ht : Closed t) (h : Wrapped t u) : Closed u := by
  induction h with
  | bare => exact ht
  | padded hl hr _ ih => exact ((Closed.of_blanks hl).append ih).append (.of_blanks hr)
  | block _ ih => exact ih.block

theorem tight_block (u : List Char) : Tight ('{' :: u ++ ['}']) := by
  constructor
  · intro c hc
    obtain rfl : '{' = c := by simpa using hc
    decide
  · intro c hc
    obtain rfl : '}' = c := by simpa [List.getLast?_cons] using hc
    decide

/-- Without the blanks around it there is the text itself or a block. -/
theorem trim_eq (h : Wrapped t u) :
    trim u = trim t ∨ ∃ v, Wrapped t v ∧ v.length < u.length ∧ trim u = '{' :: v ++ ['}'] := by
  induction h with
  | bare => exact .inl rfl
  | @padded l u r hl hr _ ih =>
    rw [Text.trim_append_right hr, Text.trim_append_left hl]
    rcases ih with ih | ⟨v, hv, hlen, ih⟩
    · exact .inl ih
    · refine .inr ⟨v, hv, ?_, ih⟩
      simp only [List.length_append]
      omega
  | @block u hu _ =>
    refine .inr ⟨u, hu, ?_, Text.trim_of_tight (tight_block u)⟩
    simp only [List.length_append, List.length_cons]
    omega

end Wrapped

/-- Blocks around a closed text are taken off, however many there are. -/
theorem stripBlocks_wrapped {t : List Char} (ht : Tight t) (hb : isBlock t = false)
    (hc : Closed t) : ∀ (fuel : Nat) {u : List Char}, Wrapped t u → u.length ≤ fuel →
      stripBlocks fuel (trim u) = t
  | 0, u, h, hlen => by
    rcases h.trim_eq with hu | ⟨v, -, hv, -⟩
    · rw [hu, Text.trim_of_tight ht, stripBlocks]
    · omega
  | fuel + 1, u, h, hlen => by
    rcases h.trim_eq with hu | ⟨v, hw, hv, hu⟩
    · rw [hu, Text.trim_of_tight ht, stripBlocks, hb]
      rfl
    · rw [hu, stripBlocks, if_pos (isBlock_block (hw.closed hc)), List.cons_append, List.tail_cons,
        List.dropLast_concat]
      exact stripBlocks_wrapped ht hb hc fuel hw (by omega)

/-! ## Functions -/

theorem after?_append (p cs : List Char) : Text.after? p (p ++ cs) = some cs := by
  induction p with
  | nil => rfl
  | cons c p ih => rw [List.cons_append, Text.after?, if_pos rfl, ih]

theorem after?_of_head {p : Char} {ps cs : List Char} (h : cs.head? ≠ some p) :
    Text.after? (p :: ps) cs = none := by
  rcases cs with _ | ⟨c, cs⟩
  · rfl
  · rw [Text.after?, if_neg fun hc => h (by rw [hc]; rfl)]

theorem cut?_append {c : Char} {pre : List Char} (h : c ∉ pre) (cs : List Char) :
    Text.cut? c (pre ++ c :: cs) = some (pre, cs) := by
  induction pre with
  | nil => rw [List.nil_append, Text.cut?, if_pos rfl]
  | cons d pre ih =>
    have hd : d ≠ c := fun hd => h (by rw [hd]; exact List.mem_cons_self)
    rw [List.cons_append, Text.cut?, if_neg hd, ih fun hc => h (List.mem_cons_of_mem _ hc)]
    rfl

/-- The text of a function of the given name, with `gap` between its head and its body. -/
def functionText (name gap body : List Char) : List Char :=
  "function".toList ++ (name ++ ['(', ')'] ++ gap ++ ('{' :: body ++ ['}']))

theorem tight_functionText (name gap body : List Char) : Tight (functionText name gap body) := by
  have hhead : "function".toList = 'f' :: "unction".toList := rfl
  unfold functionText
  constructor
  · intro c hc
    rw [hhead, List.cons_append, List.head?_cons] at hc
    obtain rfl : 'f' = c := Option.some.inj hc
    decide
  · intro c hc
    rw [← List.append_assoc, ← List.append_assoc, List.getLast?_concat] at hc
    obtain rfl : '}' = c := Option.some.inj hc
    decide

theorem stripFunction_functionText {name gap : List Char} (body : List Char) (hn : '{' ∉ name)
    (hg : ∀ c ∈ gap, isBlank c = true) :
    stripFunction (functionText name gap body) = '{' :: body ++ ['}'] := by
  have hgap : '{' ∉ gap := fun h => absurd (hg _ h) (by decide)
  have hcut : Text.cut? '{' (name ++ ['(', ')'] ++ gap ++ ('{' :: body ++ ['}'])) =
      some (name ++ ['(', ')'] ++ gap, body ++ ['}']) :=
    cut?_append (by simp [hn, hgap]) _
  have hlast : (Text.trimEnd (name ++ ['(', ')'] ++ gap)).getLast? = some ')' := by
    rw [Text.trimEnd_append hg, Text.trimEnd_of_getLast]
    · simp
    · intro c hc
      obtain rfl : ')' = c := by simpa using hc
      decide
  unfold stripFunction functionText
  rw [after?_append]
  simp only [hcut, hlast, ↓reduceIte]
  exact Text.trim_of_tight (Wrapped.tight_block body)

/-- A text that is neither a function nor a block is what remains when the blocks around it are
taken off. -/
theorem stripWrappers_wrapped {t u : List Char} (ht : Tight t) (hb : isBlock t = false)
    (hc : Closed t) (hf : t.head? ≠ some 'f') (h : Wrapped t u) : stripWrappers u = t := by
  have hhead : (trim u).head? ≠ some 'f' := by
    rcases h.trim_eq with hu | ⟨v, -, -, hu⟩
    · rwa [hu, Text.trim_of_tight ht]
    · rw [hu]
      simp
  have hfun : stripFunction (trim u) = trim u := by
    have hf : "function".toList = 'f' :: "unction".toList := rfl
    unfold stripFunction
    rw [hf, after?_of_head hhead]
  rw [stripWrappers, hfun]
  exact stripBlocks_wrapped ht hb hc _ h (Nat.le_refl _)

/-- The same with a function around the blocks. -/
theorem stripWrappers_function {t u name gap : List Char} (ht : Tight t) (hb : isBlock t = false)
    (hc : Closed t) (hn : '{' ∉ name) (hg : ∀ c ∈ gap, isBlank c = true) (h : Wrapped t u) :
    stripWrappers (functionText name gap u) = t := by
  have htrim : trim ('{' :: u ++ ['}']) = '{' :: u ++ ['}'] :=
    Text.trim_of_tight (Wrapped.tight_block u)
  have hlen : ('{' :: u ++ ['}']).length ≤ (functionText name gap u).length := by
    unfold functionText
    simp only [List.length_append]
    omega
  rw [stripWrappers, Text.trim_of_tight (tight_functionText name gap u),
    stripFunction_functionText u hn hg, ← htrim]
  exact stripBlocks_wrapped ht hb hc _ h.block hlen

end LexGen
