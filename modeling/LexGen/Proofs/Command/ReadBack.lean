import LexGen.Proofs.Command.Statements

/-!
# Actions are read back

The canonical text of an action is read as the action, bare or with blocks and a function around it
(`read_wrappedText`). Each command is read from its own text (`readStatement_text`), and that text
is taken over whole when the action is cut into statements (`statements_text`).
-/

namespace LexGen

open Text (isBlank Tight trim)
open Text.Quoted (encode)

/-! ## Reading one statement -/

theorem not_echo {cs : List Char} {c : Char} (h : cs.head? = some c) (hb : isBlank c = false)
    (he : c ≠ 'E') (hc : c ≠ 'c') :
    ¬(cs = "ECHO".toList ∨ Text.withoutBlanks cs = "console.log(yytext)".toList) := by
  have hE : "ECHO".toList.head? = some 'E' := rfl
  have hC : "console.log(yytext)".toList.head? = some 'c' := rfl
  rcases cs with _ | ⟨d, cs⟩
  · cases h
  obtain rfl : d = c := Option.some.inj h
  rintro (h | h)
  · rw [← h] at hE
    exact he (Option.some.inj hE)
  · rw [← h, Text.withoutBlanks, List.filter_cons_of_pos (by simp [hb])] at hC
    exact hc (Option.some.inj hC)

/-- A `return` with a value. -/
theorem readStatement_return (tokens : Option TokenTable) {v : List Char} (hv : Tight v) :
    readStatement tokens ("return".toList ++ ' ' :: v) = readReturn tokens v := by
  have hhead : "return".toList = 'r' :: "eturn".toList := rfl
  have hstart : ("return".toList ++ ' ' :: v).head? = some 'r' := by rw [hhead]; rfl
  have hecho := not_echo hstart (by decide) (by decide) (by decide)
  have htrim : trim (' ' :: v) = v :=
    (Text.trim_append_left (List.forall_mem_singleton.2 rfl) v).trans (Text.trim_of_tight hv)
  have hvalue : returnValue? ("return".toList ++ ' ' :: v) = some v := by
    unfold returnValue?
    rw [after?_append]
    simp only [show isBlank ' ' = true by decide, Bool.true_or, ↓reduceIte, htrim]
  unfold readStatement
  rw [if_neg hecho, hvalue]

/-- A call of a function. -/
theorem readStatement_call (tokens : Option TokenTable) {name args : List Char} (hn : Tight name)
    (hp : '(' ∉ name) (ha : Tight args) :
    readStatement tokens ("this.".toList ++ (name ++ '(' :: (args ++ [')']))) =
      readCall name args := by
  have hhead : "this.".toList = 't' :: "his.".toList := rfl
  have hreturn : "return".toList = 'r' :: "eturn".toList := rfl
  have hstart : ("this.".toList ++ (name ++ '(' :: (args ++ [')']))).head? = some 't' := by
    rw [hhead]; rfl
  have hecho := not_echo hstart (by decide) (by decide) (by decide)
  have hvalue : returnValue? ("this.".toList ++ (name ++ '(' :: (args ++ [')']))) = none := by
    unfold returnValue?
    rw [hreturn, after?_of_head (by rw [hstart]; decide)]
  have hlast : (name ++ '(' :: (args ++ [')'])).getLast? = some ')' := by
    rw [← List.cons_append, ← List.append_assoc, List.getLast?_concat]
  unfold readStatement
  rw [if_neg hecho, hvalue]
  simp only [after?_append, Option.getD_some, hlast, ↓reduceIte, cut?_append hp,
    List.dropLast_concat, Text.trim_of_tight hn, Text.trim_of_tight ha]

theorem readReturn_encode (s : String) :
    readReturn none (encode s.toList) = .ok (.give (.name s)) := by
  have hne : ∀ c cs, c ≠ '\'' → encode s.toList ≠ c :: cs := by
    intro c cs hc h
    rw [encode, List.cons_append, List.cons.injEq] at h
    exact hc h.1.symm
  have hempty : (encode s.toList).isEmpty = false := rfl
  have heof : ¬(encode s.toList = "EOF".toList ∨ encode s.toList = "this.EOF".toList) := by
    rintro (h | h)
    · exact hne 'E' "OF".toList (by decide) h
    · exact hne 't' "his.EOF".toList (by decide) h
  unfold readReturn
  rw [hempty, if_neg heof, Text.Quoted.decode?_encode]
  simp

theorem readReturn_toDigits (n : UInt64) :
    readReturn none (Nat.toDigits 10 n.toNat) = .ok (.give (.code n)) := by
  have hdigit : ∀ c ∈ Nat.toDigits 10 n.toNat, c.isDigit = true := fun c hc =>
    Nat.isDigit_of_mem_toDigits (by decide) (by decide) hc
  have hne : ∀ c cs, c.isDigit = false → Nat.toDigits 10 n.toNat ≠ c :: cs := by
    intro c cs hc h
    have := hdigit c (by rw [h]; exact List.mem_cons_self)
    rw [hc] at this
    cases this
  have hempty : (Nat.toDigits 10 n.toNat).isEmpty = false := by simp [Nat.toDigits_ne_nil]
  have heof : ¬(Nat.toDigits 10 n.toNat = "EOF".toList ∨
      Nat.toDigits 10 n.toNat = "this.EOF".toList) := by
    rintro (h | h)
    · exact hne 'E' "OF".toList (by decide) h
    · exact hne 't' "his.EOF".toList (by decide) h
  have hquote : Text.Quoted.decode? (Nat.toDigits 10 n.toNat) = none := by
    rcases hd : Nat.toDigits 10 n.toNat with _ | ⟨c, cs⟩
    · rfl
    · have hc : Text.Quoted.isQuote c = false := by
        rcases Bool.eq_false_or_eq_true (Text.Quoted.isQuote c) with h | h
        · simp only [Text.Quoted.isQuote, Bool.or_eq_true, beq_iff_eq] at h
          rcases h with rfl | rfl <;> exact absurd hd (hne _ _ (by decide))
        · exact h
      rw [Text.Quoted.decode?, hc]
      rfl
  unfold readReturn
  rw [hempty, if_neg heof, hquote, Text.number?_toDigits]
  rfl

/-! ## The texts of commands -/

/-- A text that is one statement, and neither a function nor a block. -/
structure IsStatement (t : List Char) : Prop where
  inline : Inline t
  tight : Tight t
  head : t.head? = some 'r' ∨ t.head? = some 't' ∨ t.head? = some 'E'

namespace IsStatement

theorem ne_nil {t : List Char} (h : IsStatement t) : t ≠ [] := by
  rintro rfl
  rcases h.head with h | h | h <;> cases h

theorem returnValue {v : List Char} (hi : Inline v) (ht : Tight v) (hne : v ≠ []) :
    IsStatement ("return".toList ++ ' ' :: v) := by
  have hhead : "return".toList = 'r' :: "eturn".toList := rfl
  refine ⟨(Inline.of_all (by decide)).append (.char (by decide) hi), ⟨?_, ?_⟩, .inl ?_⟩
  · rw [hhead]
    intro c hc
    obtain rfl : 'r' = c := Option.some.inj hc
    decide
  · intro c hc
    rw [List.getLast?_append, List.getLast?_cons, List.getLast?_eq_some_getLast hne] at hc
    obtain rfl : v.getLast hne = c := Option.some.inj hc
    exact ht.2 _ (List.getLast?_eq_some_getLast hne)
  · rw [hhead]
    rfl

theorem call {w v : List Char} (hw : Inline w) (hv : Inline v) :
    IsStatement ("this.".toList ++ (w ++ '(' :: (v ++ [')']))) := by
  have hhead : "this.".toList = 't' :: "his.".toList := rfl
  have hparen : Inline [')'] := .of_all (by decide)
  refine ⟨(Inline.of_all (by decide)).append (hw.append (.char (by decide) (hv.append hparen))),
    ⟨?_, ?_⟩, .inr (.inl ?_)⟩
  · rw [hhead]
    intro c hc
    obtain rfl : 't' = c := Option.some.inj hc
    decide
  · intro c hc
    rw [← List.cons_append, ← List.append_assoc, ← List.append_assoc, List.getLast?_concat] at hc
    obtain rfl : ')' = c := Option.some.inj hc
    decide
  · rw [hhead]
    rfl

end IsStatement

theorem toList_quote (s : String) : (Command.quote s).toList = encode s.toList :=
  String.toList_ofList

theorem toList_return (v : String) :
    ("return " ++ v).toList = "return".toList ++ ' ' :: v.toList := by
  have hword : "return ".toList = "return".toList ++ [' '] := rfl
  rw [String.toList_append, hword, List.append_assoc, List.singleton_append]

theorem toList_call {pre w : String} (h : pre.toList = "this.".toList ++ (w.toList ++ ['(']))
    (v : String) :
    (pre ++ v ++ ")").toList = "this.".toList ++ (w.toList ++ '(' :: (v.toList ++ [')'])) := by
  have hparen : ")".toList = [')'] := rfl
  rw [String.toList_append, String.toList_append, h, hparen]
  simp only [List.append_assoc, List.cons_append, List.nil_append]

theorem isStatement_text (c : Command) : IsStatement c.text.toList := by
  have hencode : ∀ s : String, Inline (Command.quote s).toList := fun s => by
    rw [toList_quote]
    exact .encode _
  unfold Command.text
  rcases c with (_ | n | s) | _ | s | _ | _ | _ | n | s | _ | _
  · exact ⟨.of_all (by decide), Text.tight_of_ends (by decide), by decide⟩
  · rw [toList_return, Nat.toList_repr]
    exact .returnValue (.toDigits _) (Text.tight_toDigits _) Nat.toDigits_ne_nil
  · rw [toList_return, toList_quote]
    exact .returnValue (.encode _) (Text.Quoted.tight_encode _) (by simp [encode])
  · exact ⟨.of_all (by decide), Text.tight_of_ends (by decide), by decide⟩
  · rw [toList_call (w := "begin") rfl]
    exact .call (.of_all (by decide)) (hencode s)
  · exact ⟨.of_all (by decide), Text.tight_of_ends (by decide), by decide⟩
  · exact ⟨.of_all (by decide), Text.tight_of_ends (by decide), by decide⟩
  · exact ⟨.of_all (by decide), Text.tight_of_ends (by decide), by decide⟩
  · rw [toList_call (w := "less") rfl, Nat.toList_repr]
    exact .call (.of_all (by decide)) (.toDigits _)
  · rw [toList_call (w := "unput") rfl]
    exact .call (.of_all (by decide)) (hencode s)
  · exact ⟨.of_all (by decide), Text.tight_of_ends (by decide), by decide⟩
  · exact ⟨.of_all (by decide), Text.tight_of_ends (by decide), by decide⟩

/-- Each command is read from its own text. -/
theorem readStatement_text (c : Command) : readStatement none c.text.toList = .ok c := by
  have hstring : ∀ s : String, Text.Quoted.decode? (encode s.toList) = some s.toList :=
    fun s => Text.Quoted.decode?_encode _
  have hbegin : "begin".toList = ['b', 'e', 'g', 'i', 'n'] := rfl
  rcases c with (_ | n | s) | _ | s | _ | _ | _ | n | s | _ | _
  · rfl
  · unfold Command.text
    rw [toList_return, Nat.toList_repr, readStatement_return _ (Text.tight_toDigits _),
      readReturn_toDigits]
  · unfold Command.text
    rw [toList_return, toList_quote, readStatement_return _ (Text.Quoted.tight_encode _),
      readReturn_encode]
  · rfl
  · unfold Command.text
    rw [toList_call (w := "begin") rfl, toList_quote, readStatement_call _
      (Text.tight_of_ends (by decide)) (by decide) (Text.Quoted.tight_encode _)]
    unfold readCall
    simp only [String.ofList_toList, hstring]
  · rfl
  · rfl
  · rfl
  · unfold Command.text
    rw [toList_call (w := "less") rfl, Nat.toList_repr, readStatement_call _
      (Text.tight_of_ends (by decide)) (by decide) (Text.tight_toDigits _)]
    unfold readCall
    simp only [String.ofList_toList, Text.number?_toDigits]
  · unfold Command.text
    rw [toList_call (w := "unput") rfl, toList_quote, readStatement_call _
      (Text.tight_of_ends (by decide)) (by decide) (Text.Quoted.tight_encode _)]
    unfold readCall
    simp only [String.ofList_toList, hstring]
  · rfl
  · rfl

/-! ## The texts of actions -/

namespace Action

theorem text_singleton (c : Command) : (text ⟨[c]⟩).toList = c.text.toList ++ [';'] := by
  have hsemi : ";".toList = [';'] := rfl
  unfold text
  rw [List.map_cons, List.map_nil, String.intercalate_singleton, String.toList_append, hsemi]

theorem text_cons_cons (c d : Command) (cs : List Command) :
    (text ⟨c :: d :: cs⟩).toList = c.text.toList ++ ';' :: ' ' :: (text ⟨d :: cs⟩).toList := by
  have hsemi : ";".toList = [';'] := rfl
  have hspace : " ".toList = [' '] := rfl
  unfold text
  rw [List.map_cons, List.map_cons, String.intercalate_cons_cons]
  simp only [String.toList_append, hsemi, hspace, List.append_assoc, List.cons_append,
    List.nil_append]

/-- An action is cut into the texts of its commands. -/
theorem statements_text : ∀ cs : List Command,
    statements (text ⟨cs⟩).toList = cs.map fun c => c.text.toList
  | [] => rfl
  | [c] => by
    have hc := isStatement_text c
    rw [text_singleton, statements_inline hc.inline hc.ne_nil hc.tight]
    rfl
  | c :: d :: cs => by
    have hc := isStatement_text c
    rw [text_cons_cons, statements_inline hc.inline hc.ne_nil hc.tight, statements_space,
      statements_text (d :: cs)]
    rfl

theorem closed_text : ∀ cs : List Command, Closed (text ⟨cs⟩).toList
  | [] => .nil
  | [c] => by
    rw [text_singleton]
    exact (Closed.of_inline (isStatement_text c).inline).append
      (.char (by decide) (by decide) (by decide))
  | c :: d :: cs => by
    have hsep : Closed [';', ' '] :=
      (Closed.char (by decide) (by decide) (by decide)).append
        (.char (c := ' ') (by decide) (by decide) (by decide))
    rw [text_cons_cons]
    exact (Closed.of_inline (isStatement_text c).inline).append
      (hsep.append (closed_text (d :: cs)))

theorem getLast?_text : ∀ cs : List Command, cs ≠ [] → (text ⟨cs⟩).toList.getLast? = some ';'
  | [], h => absurd rfl h
  | [c], _ => by rw [text_singleton, List.getLast?_concat]
  | c :: d :: cs, _ => by
    rw [text_cons_cons, List.getLast?_append, List.getLast?_cons, List.getLast?_cons,
      getLast?_text (d :: cs) (by simp)]
    rfl

theorem head?_text (c : Command) (cs : List Command) :
    (text ⟨c :: cs⟩).toList.head? = c.text.toList.head? := by
  obtain ⟨d, t, ht⟩ := List.exists_cons_of_ne_nil (isStatement_text c).ne_nil
  rcases cs with _ | ⟨e, cs⟩
  · rw [text_singleton, ht]
    rfl
  · rw [text_cons_cons, ht]
    rfl

theorem tight_text : ∀ cs : List Command, Tight (text ⟨cs⟩).toList
  | [] => Text.tight_of_ends (by decide)
  | c :: cs => by
    refine ⟨fun d hd => ?_, fun d hd => ?_⟩
    · rw [head?_text] at hd
      exact (isStatement_text c).tight.1 d hd
    · rw [getLast?_text _ (List.cons_ne_nil c cs)] at hd
      obtain rfl : ';' = d := Option.some.inj hd
      decide

/-- The text of an action begins neither as a function nor as a block. -/
theorem head?_text_ne (cs : List Command) :
    (text ⟨cs⟩).toList.head? ≠ some 'f' ∧ (text ⟨cs⟩).toList.head? ≠ some '{' := by
  rcases cs with _ | ⟨c, cs⟩
  · decide
  · rw [head?_text]
    rcases (isStatement_text c).head with h | h | h <;> rw [h] <;> decide

theorem isBlock_text (cs : List Command) : isBlock (text ⟨cs⟩).toList = false := by
  rw [isBlock, beq_eq_false_iff_ne.2 (head?_text_ne cs).2, Bool.false_and]

/-- The text of an action, with blocks around it and perhaps a function around these. -/
inductive WrappedText (a : Action) : List Char → Prop
  | blocks {t : List Char} : Wrapped a.text.toList t → WrappedText a t
  | function (name gap : List Char) {t : List Char} : '{' ∉ name →
      (∀ c ∈ gap, isBlank c = true) → Wrapped a.text.toList t →
      WrappedText a (functionText name gap t)

theorem stripWrappers_wrappedText {a : Action} {t : List Char} (h : WrappedText a t) :
    stripWrappers t = a.text.toList := by
  have ht := tight_text a.commands
  have hb := isBlock_text a.commands
  have hc := closed_text a.commands
  rcases h with h | ⟨name, gap, hn, hg, h⟩
  · exact stripWrappers_wrapped ht hb hc (head?_text_ne a.commands).1 h
  · exact stripWrappers_function ht hb hc hn hg h

theorem readStatements_text (rule : Nat) : ∀ cs : List Command,
    readStatements rule none (cs.map fun c => c.text.toList) = .ok cs
  | [] => rfl
  | c :: cs => by
    rw [List.map_cons, readStatements, readStatement_text, readStatements_text rule cs]

theorem read_of_wrappedText (rule : Nat) {a : Action} {t : String} (h : WrappedText a t.toList) :
    Action.read rule t none = .ok a := by
  rw [Action.read, stripWrappers_wrappedText h, statements_text, readStatements_text]

theorem read_text (rule : Nat) (a : Action) : Action.read rule a.text none = .ok a :=
  read_of_wrappedText rule (.blocks .bare)

/-- The canonical text of an action is read as the action, and so it is with blocks and a function
around it. -/
theorem read_wrappedText (rule : Nat) (a : Action) :
    Action.read rule a.text none = .ok a ∧
      ∀ t : String, WrappedText a t.toList → Action.read rule t none = .ok a :=
  ⟨read_text rule a, fun _ h => read_of_wrappedText rule h⟩

/-- A function and a block around a text that seems to end them. -/
theorem read_wrappedText_function :
    WrappedText ⟨[.unput "'\x7d"]⟩
        "function f() \x7b\x7b this.unput('\\'\x7d'); \x7d\x7d".toList ∧
      Action.read 7 "function f() \x7b\x7b this.unput('\\'\x7d'); \x7d\x7d" none =
        .ok ⟨[.unput "'\x7d"]⟩ := by
  have h : WrappedText ⟨[.unput "'\x7d"]⟩
      "function f() \x7b\x7b this.unput('\\'\x7d'); \x7d\x7d".toList :=
    .function [' ', 'f'] [' '] (by decide) (List.forall_mem_singleton.2 rfl)
      (.block (.padded (l := [' ']) (r := [' ']) (List.forall_mem_singleton.2 rfl)
        (List.forall_mem_singleton.2 rfl) .bare))
  exact ⟨h, (read_wrappedText 7 _).2 _ h⟩

end Action

end LexGen
