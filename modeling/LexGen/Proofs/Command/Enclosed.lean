import LexGen.Proofs.Command.ReadBack
import LexGen.Proofs.Text.Search

/-!
# Actions in blocks on lines of their own

An action may stand between braces on lines of their own (`lineBlock`), and a function may hold it
so. The search for the closing brace knows quotes but no comments. So a block or a function around
an action that can be read changes nothing if the brace in front is closed by the one at the end,
and makes it an action that cannot be read otherwise (`Action.read_enclosed`).

What can be read as a statement is neat: it closes its quotes, and its braces stand in quotes
(`neat_of_readStatement`). So the brace in front is closed by the one at the end if comments hold
neither quotes nor braces, and it is in any case if the action is a block itself.
-/

namespace LexGen

open Text (isBlank trim Tight)
open Text.Quoted (isQuote)

/-! ## Neat texts -/

def isBrace (c : Char) : Bool := c == '{' || c == '}'

/-- The quotes that are open after a text. It gives nothing if a brace stands outside quotes. -/
def quotesAfter? : Option Quoting → List Char → Option (Option Quoting)
  | q, [] => some q
  | some q, c :: cs => quotesAfter? (Quoting.next (some q) c) cs
  | none, c :: cs => if isBrace c then none else quotesAfter? (Quoting.next none c) cs

theorem quotesAfter?_append (u : List Char) : ∀ (q : Option Quoting) (t : List Char),
    quotesAfter? q (t ++ u) = (quotesAfter? q t).bind (quotesAfter? · u)
  | q, [] => by simp [quotesAfter?]
  | some q, c :: cs => by simp only [List.cons_append, quotesAfter?, quotesAfter?_append u _ cs]
  | none, c :: cs => by
    simp only [List.cons_append, quotesAfter?]
    split_ifs
    · rfl
    · exact quotesAfter?_append u _ cs

theorem closingBrace?_of_quotesAfter? {r : Option Quoting} (depth : Nat) (rest : List Char) :
    ∀ {q : Option Quoting} {t : List Char}, quotesAfter? q t = some r →
      closingBrace? q depth (t ++ rest) = (closingBrace? r depth rest).map (· + t.length)
  | q, [], h => by
    obtain rfl : q = r := by cases q <;> exact Option.some.inj h
    simp
  | some q, c :: cs, h => by
    rw [quotesAfter?] at h
    rw [List.cons_append, closingBrace?, closingBrace?_of_quotesAfter? depth rest h, map_add_add,
      List.length_cons, Nat.add_comm 1]
  | none, c :: cs, h => by
    rw [quotesAfter?] at h
    split_ifs at h with hc
    simp only [isBrace, Bool.or_eq_true, beq_iff_eq, not_or] at hc
    rw [List.cons_append, closingBrace?, if_neg hc.2]
    simp only [if_neg hc.1]
    rw [closingBrace?_of_quotesAfter? depth rest h, map_add_add, List.length_cons, Nat.add_comm 1]

/-- All quotes are closed, and braces stand in quotes only. -/
def Neat (t : List Char) : Prop := quotesAfter? none t = some none

theorem Closed.of_neat {t : List Char} (h : Neat t) : Closed t :=
  fun depth rest _ => closingBrace?_of_quotesAfter? depth rest h

namespace Neat

variable {t u : List Char}

theorem append (ht : Neat t) (hu : Neat u) : Neat (t ++ u) := by
  rw [Neat, quotesAfter?_append, ht, Option.bind_some, hu]

theorem next_of_plain {c : Char} (hq : isQuote c = false) : Quoting.next none c = none := by
  simp [Quoting.next, hq]

theorem cons {c : Char} (hq : isQuote c = false) (hb : isBrace c = false) :
    quotesAfter? none (c :: t) = quotesAfter? none t := by
  rw [quotesAfter?, hb, next_of_plain hq]
  rfl

theorem of_plain : ∀ {t : List Char}, (∀ c ∈ t, isQuote c = false ∧ isBrace c = false) → Neat t
  | [], _ => rfl
  | c :: cs, h => by
    obtain ⟨hq, hb⟩ := h c List.mem_cons_self
    rw [Neat, cons hq hb]
    exact of_plain fun d hd => h d (List.mem_cons_of_mem c hd)

theorem of_all (h : t.all (fun c => !isQuote c && !isBrace c) = true) : Neat t :=
  of_plain fun c hc => by simpa using List.all_eq_true.1 h c hc

theorem plain_of_isBlank {c : Char} (h : isBlank c = true) :
    isQuote c = false ∧ isBrace c = false := by
  have hne : ∀ d, isBlank d = false → c ≠ d := by
    rintro d hd rfl
    rw [h] at hd
    cases hd
  simp [isQuote, isBrace, hne '\'' (by decide), hne '"' (by decide), hne '{' (by decide),
    hne '}' (by decide)]

theorem of_blanks (h : ∀ c ∈ t, isBlank c = true) : Neat t :=
  of_plain fun c hc => plain_of_isBlank (h c hc)

/-- A text between equal quotes that is read to its end. -/
theorem of_decodeRest? {quote : Char} {t s : List Char}
    (h : Text.Quoted.decodeRest? quote t = some s) :
    quotesAfter? (some ⟨quote, false⟩) t = some none := by
  fun_induction Text.Quoted.decodeRest? quote t generalizing s with
  | case1 => cases h
  | case2 c cs ih =>
    obtain ⟨rest, hrest, -⟩ := Option.map_eq_some_iff.1 h
    have hescape : Quoting.next (some ⟨quote, false⟩) '\\' = some ⟨quote, true⟩ := rfl
    have hback : Quoting.next (some ⟨quote, true⟩) c = some ⟨quote, false⟩ := rfl
    rw [quotesAfter?, hescape, quotesAfter?, hback]
    exact ih hrest
  | case3 => cases h
  | case4 cs hempty _ hc =>
    obtain rfl : cs = [] := List.isEmpty_iff.1 hempty
    have hclose : Quoting.next (some ⟨quote, false⟩) quote = none := by simp [Quoting.next, hc]
    rw [quotesAfter?, hclose]
    rfl
  | case5 => cases h
  | case6 c cs _ hc hq ih =>
    obtain ⟨rest, hrest, -⟩ := Option.map_eq_some_iff.1 h
    have hstay : Quoting.next (some ⟨quote, false⟩) c = some ⟨quote, false⟩ := by
      simp [Quoting.next, hc, hq]
    rw [quotesAfter?, hstay]
    exact ih hrest

theorem of_decode? {s : List Char} (h : Text.Quoted.decode? t = some s) : Neat t := by
  rcases t with _ | ⟨c, cs⟩
  · cases h
  · rw [Text.Quoted.decode?] at h
    split_ifs at h with hq
    have hopen : Quoting.next none c = some ⟨c, false⟩ := by simp [Quoting.next, hq]
    have hb : isBrace c = false := by
      simp only [isQuote, Bool.or_eq_true, beq_iff_eq] at hq
      rcases hq with rfl | rfl <;> decide
    rw [Neat, quotesAfter?, hb, hopen]
    exact of_decodeRest? h

theorem of_number? {n : UInt64} (h : Text.number? t = some n) : Neat t := by
  have hdigit : ∀ c : Char, c.isDigit = true → isQuote c = false ∧ isBrace c = false := by
    intro c hc
    have hne : ∀ d : Char, d.isDigit = false → c ≠ d := by
      rintro d hd rfl
      rw [hc] at hd
      cases hd
    simp [isQuote, isBrace, hne '\'' (by decide), hne '"' (by decide), hne '{' (by decide),
      hne '}' (by decide)]
  have hdigits : ∀ {ds : List Char} {k : Nat}, Text.digitsValue? ds = some k → Neat ds := by
    intro ds k hk
    unfold Text.digitsValue? at hk
    split_ifs at hk with hds
    simp only [Bool.or_eq_true, Bool.not_eq_true', not_or, Bool.not_eq_false, List.all_eq_true]
      at hds
    exact of_plain fun c hc => hdigit c (hds.2 c hc)
  unfold Text.number? at h
  dsimp only at h
  split at h
  · rename_i k hk
    split at hk
    · exact (of_all (t := ['+']) (by decide)).append (hdigits hk)
    · exact hdigits hk
  · cases h

/-- Blanks around a text make no difference. -/
theorem of_trim (h : Neat (trim t)) : Neat t := by
  obtain ⟨l, r, hl, hr, ht⟩ := Text.exists_trim t
  rw [ht]
  exact ((of_blanks hl).append h).append (of_blanks hr)

end Neat

/-! ## What can be read as a statement -/

theorem neat_of_readReturn {tokens : Option TokenTable} {value : List Char} {c : Command}
    (h : readReturn tokens value = .ok c) : Neat value := by
  unfold readReturn at h
  split_ifs at h with hempty heof
  · rw [List.isEmpty_iff.1 hempty]
    rfl
  · rcases heof with rfl | rfl
    · exact .of_all (by decide)
    · exact .of_all (by decide)
  · rcases hname : Text.Quoted.decode? value with _ | name
    · rcases hn : Text.number? value with _ | n
      · simp only [hname, hn] at h
        cases h
      · exact .of_number? hn
    · exact .of_decode? hname

theorem neat_of_readCall {name args : List Char} {c : Command} (h : readCall name args = .ok c) :
    Neat name ∧ Neat args := by
  have hword {s : String} (hname : String.ofList name = s)
      (hs : s.toList.all (fun c => !isQuote c && !isBrace c) = true) : Neat name := by
    rw [← hname, String.toList_ofList] at hs
    exact .of_all hs
  have hplain {d : Command}
      (hd : (if args.isEmpty then Except.ok d else .error "unexpected arguments") = .ok c) :
      Neat args := by
    split_ifs at hd with hempty
    rw [List.isEmpty_iff.1 hempty]
    rfl
  have hquoted (hs : Text.Quoted.decode? args ≠ none) : Neat args := by
    obtain ⟨s, hs⟩ := Option.ne_none_iff_exists'.1 hs
    exact .of_decode? hs
  unfold readCall at h
  dsimp only at h
  split at h
  · exact ⟨hword ‹_› (by decide), hquoted fun hs => by rw [hs] at h; cases h⟩
  · exact ⟨hword ‹_› (by decide), hquoted fun hs => by rw [hs] at h; cases h⟩
  · exact ⟨hword ‹_› (by decide), hquoted fun hs => by rw [hs] at h; cases h⟩
  · refine ⟨hword ‹_› (by decide), ?_⟩
    rcases hn : Text.number? args with _ | n
    · rw [hn] at h
      cases h
    · exact .of_number? hn
  · exact ⟨hword ‹_› (by decide), hplain h⟩
  · exact ⟨hword ‹_› (by decide), hplain h⟩
  · exact ⟨hword ‹_› (by decide), hplain h⟩
  · exact ⟨hword ‹_› (by decide), hplain h⟩
  · cases h

theorem neat_of_withoutBlanks {t : List Char}
    (h : (Text.withoutBlanks t).all (fun c => !isQuote c && !isBrace c) = true) : Neat t := by
  refine .of_plain fun c hc => ?_
  rcases hb : isBlank c with _ | _
  · simpa using List.all_eq_true.1 h c (List.mem_filter.2 ⟨hc, by rw [hb]; rfl⟩)
  · exact Neat.plain_of_isBlank hb

theorem neat_of_returnValue? {t value : List Char} (h : returnValue? t = some value)
    (hv : Neat value) : Neat t := by
  unfold returnValue? at h
  split at h
  · rename_i hrest
    rw [Text.append_of_after? hrest]
    exact .of_all (by decide)
  · rename_i c rest hrest
    split_ifs at h
    obtain rfl := Option.some.inj h
    rw [Text.append_of_after? hrest]
    exact (Neat.of_all (by decide)).append (.of_trim hv)
  · cases h

/-- A text that ends in a call, of which name and arguments are neat. -/
theorem neat_of_call {t name args : List Char} (hlast : t.getLast? = some ')')
    (hcut : Text.cut? '(' t = some (name, args)) (hn : Neat (trim name))
    (ha : Neat (trim args.dropLast)) : Neat t := by
  obtain ⟨ht, -⟩ := Text.append_of_cut? hcut
  have hparens : Neat ['('] ∧ Neat [')'] := ⟨.of_all (by decide), .of_all (by decide)⟩
  have hargs : args.getLast? = some ')' := by
    rcases args with _ | ⟨d, ds⟩
    · rw [ht, List.getLast?_concat] at hlast
      cases hlast
    · rwa [ht, List.getLast?_append, List.getLast?_cons_cons,
        List.getLast?_eq_some_getLast (List.cons_ne_nil d ds), Option.some_or,
        ← List.getLast?_eq_some_getLast] at hlast
  obtain ⟨pre, rfl⟩ := List.getLast?_eq_some_iff.1 hargs
  rw [List.dropLast_concat] at ha
  rw [ht]
  exact (Neat.of_trim hn).append (hparens.1.append ((Neat.of_trim ha).append hparens.2))

/-- What can be read as a statement is neat. -/
theorem neat_of_readStatement {tokens : Option TokenTable} {t : List Char} {c : Command}
    (h : readStatement tokens t = .ok c) : Neat t := by
  unfold readStatement at h
  split_ifs at h with hecho
  · rcases hecho with rfl | hecho
    · exact .of_all (by decide)
    · exact neat_of_withoutBlanks (by rw [hecho]; decide)
  · rcases hvalue : returnValue? t with _ | value
    · simp only [hvalue] at h
      have hcall : Neat ((Text.after? "this.".toList t).getD t) := by
        split_ifs at h with hlast
        rcases hcut : Text.cut? '(' ((Text.after? "this.".toList t).getD t) with _ | ⟨name, args⟩
        · rw [hcut] at h
          cases h
        · rw [hcut] at h
          obtain ⟨hn, ha⟩ := neat_of_readCall h
          exact neat_of_call hlast hcut hn ha
      rcases hthis : Text.after? "this.".toList t with _ | call
      · rwa [hthis, Option.getD_none] at hcall
      · rw [hthis, Option.getD_some] at hcall
        rw [Text.append_of_after? hthis]
        exact (Neat.of_all (by decide)).append hcall
    · rw [hvalue] at h
      exact neat_of_returnValue? hvalue (neat_of_readReturn h)

/-! ## Comments -/

/-- The quotes that are open at a place. -/
def StatementPlace.quoting : StatementPlace → Option Quoting
  | code q => q
  | _ => none

/-- What stands in comments, where `cutStatements` leaves it out. -/
def comments : StatementPlace → List Char → List Char
  | _, [] => []
  | .code (some q), c :: cs => comments (.code (Quoting.next (some q) c)) cs
  | .code none, '/' :: '/' :: cs => comments .lineComment cs
  | .code none, '/' :: '*' :: cs => comments (.blockComment false) cs
  | .code none, c :: cs => comments (.code (Quoting.next none c)) cs
  | .lineComment, c :: cs =>
    if c = '\n' then comments (.code none) cs else c :: comments .lineComment cs
  | .blockComment star, c :: cs =>
    if star && c == '/' then comments (.code none) cs
    else c :: comments (.blockComment (c == '*')) cs

theorem exists_of_addToFirst {c : Char} {p : StatementPlace} {cs s : List Char}
    {ss : List (List Char)} (h : addToFirst c (cutStatements p cs) = s :: ss) :
    ∃ u, s = c :: u ∧ cutStatements p cs = u :: ss := by
  obtain ⟨u, us, hu⟩ := List.exists_cons_of_ne_nil (cutStatements_ne_nil p cs)
  rw [hu, addToFirst, List.cons.injEq] at h
  exact ⟨u, h.1.symm, by rw [hu, h.2]⟩

theorem exists_of_cutStatements {p : StatementPlace} {cs : List Char}
    (h : ∀ u ∈ cutStatements p cs, Neat u) :
    ∃ s ss, cutStatements p cs = s :: ss ∧ Neat s ∧ ∀ u ∈ ss, Neat u := by
  obtain ⟨s, ss, hs⟩ := List.exists_cons_of_ne_nil (cutStatements_ne_nil p cs)
  rw [hs] at h
  exact ⟨s, ss, hs, h s List.mem_cons_self, fun u hu => h u (List.mem_cons_of_mem s hu)⟩

/-- A text is neat if what it is cut into is neat, and its comments hold neither quotes nor
braces. -/
theorem quotesAfter?_of_cutStatements {p : StatementPlace} {cs s : List Char}
    {ss : List (List Char)} (hcut : cutStatements p cs = s :: ss)
    (hs : quotesAfter? p.quoting s = some none) (hss : ∀ u ∈ ss, Neat u)
    (hplain : ∀ c ∈ comments p cs, isQuote c = false ∧ isBrace c = false) :
    quotesAfter? p.quoting cs = some none := by
  have hskip {c : Char} {t : List Char} (hc : isQuote c = false ∧ isBrace c = false)
      (ht : quotesAfter? none t = some none) : quotesAfter? none (c :: t) = some none :=
    (Neat.cons hc.1 hc.2).trans ht
  fun_induction cutStatements p cs generalizing s ss with
  | case1 p =>
    obtain ⟨rfl, -⟩ := List.cons.inj hcut
    exact hs
  | case2 q c cs ih =>
    obtain ⟨u, rfl, hu⟩ := exists_of_addToFirst hcut
    exact ih hu hs hss hplain
  | case3 cs ih => exact hskip (by decide) (hskip (by decide) (ih hcut hs hss hplain))
  | case4 cs ih => exact hskip (by decide) (hskip (by decide) (ih hcut hs hss hplain))
  | case5 c cs hline hblock hend ih =>
    have hc : isQuote c = false ∧ isBrace c = false := by
      rcases hend with rfl | rfl | rfl <;> decide
    obtain ⟨-, rfl⟩ := List.cons.inj hcut
    obtain ⟨u, us, hu, hneat, hrest⟩ := exists_of_cutStatements hss
    rw [comments, Neat.next_of_plain hc.1] at hplain
    · exact hskip hc (ih hu hneat hrest hplain)
    · exact hline
    · exact hblock
  | case6 c cs hline hblock hend ih =>
    obtain ⟨u, rfl, hu⟩ := exists_of_addToFirst hcut
    rw [comments] at hplain
    · change quotesAfter? none (c :: u) = _ at hs
      show quotesAfter? none (c :: cs) = _
      rw [quotesAfter?] at hs ⊢
      split_ifs at hs with hb
      rw [if_neg hb]
      exact ih hu hs hss hplain
    · exact hline
    · exact hblock
  | case7 cs ih =>
    obtain ⟨-, rfl⟩ := List.cons.inj hcut
    obtain ⟨u, us, hu, hneat, hrest⟩ := exists_of_cutStatements hss
    exact hskip (by decide) (ih hu hneat hrest hplain)
  | case8 c cs hc ih =>
    rw [comments, if_neg hc, List.forall_mem_cons] at hplain
    exact hskip hplain.1 (ih hcut hs hss hplain.2)
  | case9 star c cs hc ih =>
    obtain ⟨-, rfl⟩ : star = true ∧ c = '/' := by simpa using hc
    rw [comments, if_pos hc] at hplain
    exact hskip (by decide) (ih hcut hs hss hplain)
  | case10 star c cs hc ih =>
    rw [comments, if_neg hc, List.forall_mem_cons] at hplain
    exact hskip hplain.1 (ih hcut hs hss hplain.2)

theorem exists_of_readStatements {rule : Nat} {tokens : Option TokenTable} :
    ∀ {texts : List (List Char)} {cs : List Command}, readStatements rule tokens texts = .ok cs →
      ∀ t ∈ texts, ∃ c, readStatement tokens t = .ok c
  | text :: texts, cs, h, t, ht => by
    rw [readStatements] at h
    rcases hc : readStatement tokens text with reason | c
    · rw [hc] at h
      cases h
    · rcases hrest : readStatements rule tokens texts with error | rest
      · rw [hc, hrest] at h
        cases h
      · rcases List.mem_cons.1 ht with rfl | ht
        · exact ⟨c, hc⟩
        · exact exists_of_readStatements hrest t ht

/-- An action that can be read is neat if its comments hold neither quotes nor braces. -/
theorem neat_of_readStatements {rule : Nat} {tokens : Option TokenTable} {t : List Char}
    {cs : List Command} (h : readStatements rule tokens (statements t) = .ok cs)
    (hplain : ∀ c ∈ comments (.code none) t, isQuote c = false ∧ isBrace c = false) : Neat t := by
  have hneat : ∀ u ∈ cutStatements (.code none) t, Neat u := by
    intro u hu
    rcases hempty : (trim u).isEmpty with _ | _
    · obtain ⟨c, hc⟩ := exists_of_readStatements h (trim u)
        (List.mem_filter.2 ⟨List.mem_map_of_mem hu, by rw [hempty]; rfl⟩)
      exact .of_trim (neat_of_readStatement hc)
    · exact .of_trim (by rw [List.isEmpty_iff.1 hempty]; rfl)
  obtain ⟨s, ss, hs, hfirst, hrest⟩ := exists_of_cutStatements hneat
  exact quotesAfter?_of_cutStatements hs hfirst hrest hplain

/-! ## Blocks on lines of their own -/

/-- A search that ends with the text at depth zero goes on with what follows at the depth around. -/
theorem closingBrace?_around {q : Option Quoting} {depth n outer : Nat} (houter : 0 < outer)
    (rest : List Char) : ∀ {cs : List Char}, closingBrace? q depth cs = some n →
      n + 1 = cs.length → closingBrace? q (outer + depth) (cs ++ rest) =
        (closingBrace? none outer rest).map (· + cs.length) := by
  intro cs hn hlen
  induction cs generalizing q depth n with
  | nil => cases hlen
  | cons c cs ih =>
    have hstep {q : Option Quoting} {depth : Nat}
        (hs : (closingBrace? q depth cs).map (· + 1) = some n) :
        (closingBrace? q (outer + depth) (cs ++ rest)).map (· + 1) =
          (closingBrace? none outer rest).map (· + (c :: cs).length) := by
      obtain ⟨m, hm, rfl⟩ := Option.map_eq_some_iff.1 hs
      rw [List.length_cons, Nat.add_right_cancel_iff] at hlen
      rw [ih hm hlen, map_add_add, List.length_cons, Nat.add_comm 1]
    rcases q with _ | q
    · rw [closingBrace?] at hn
      rw [List.cons_append, closingBrace?]
      by_cases hc : c = '}'
      · rw [if_pos hc] at hn ⊢
        rw [if_neg (by omega)]
        split_ifs at hn with h0 h1
        · obtain rfl := Option.some.inj hn
          obtain rfl : cs = [] := List.length_eq_zero_iff.1 (by simpa using hlen.symm)
          rw [h1, if_neg (by omega), Nat.add_sub_cancel]
          rfl
        · have hdepth : outer + depth - 1 = outer + (depth - 1) := by omega
          rw [if_neg (by omega), hdepth]
          exact hstep hn
      · rw [if_neg hc] at hn ⊢
        have hdepth : (if c = '{' then outer + depth + 1 else outer + depth) =
            outer + (if c = '{' then depth + 1 else depth) := by
          split_ifs <;> rfl
        simp only [hdepth]
        exact hstep hn
    · exact hstep hn

theorem Closed.of_isBlock {t : List Char} (h : isBlock t = true) : Closed t := by
  intro depth rest hd
  simp only [isBlock, Bool.and_eq_true, beq_iff_eq] at h
  obtain ⟨cs, rfl⟩ := List.head?_eq_some_iff.1 h.1
  exact closingBrace?_around hd rest h.2 (by simp)

/-- As many blocks are taken off as there are. -/
theorem stripBlocks_eq : ∀ {m n : Nat} {t : List Char}, t.length ≤ m → t.length ≤ n →
    stripBlocks m t = stripBlocks n t
  | m, n, [], _, _ => by cases m <;> cases n <;> rfl
  | m + 1, n + 1, c :: cs, hm, hn => by
    have hinner : (trim cs.dropLast).length ≤ cs.length := by
      have htrim := Text.length_trim_le cs.dropLast
      rw [List.length_dropLast] at htrim
      omega
    rw [stripBlocks, stripBlocks, List.tail_cons, stripBlocks_eq (m := m) (n := n)]
    · exact hinner.trans (Nat.le_of_succ_le_succ hm)
    · exact hinner.trans (Nat.le_of_succ_le_succ hn)

theorem stripBlocks_of_not {t : List Char} (h : isBlock t = false) :
    ∀ n, stripBlocks n t = t
  | 0 => rfl
  | n + 1 => by
    rw [stripBlocks, h]
    rfl

/-- A text between line breaks. -/
def onLines (t : List Char) : List Char := '\n' :: t ++ ['\n']

/-- A text in a block, on lines of its own. -/
def lineBlock (t : List Char) : List Char := '{' :: onLines t ++ ['}']

/-- The text starts like a function with a body. -/
def StartsFunction (t : List Char) : Prop :=
  ∃ head body, trim t = "function".toList ++ head ++ '{' :: body ∧ '{' ∉ head ∧
    (Text.trimEnd head).getLast? = some ')'

/-- A text in a block or a function, on lines of its own. -/
inductive Enclosed (t : List Char) : List Char → Prop
  | block : Enclosed t (lineBlock t)
  | function {name gap : List Char} : '{' ∉ name → (∀ c ∈ gap, isBlank c = true) →
      Enclosed t (functionText name gap (onLines t))

theorem isBlank_newline : isBlank '\n' = true := by decide

theorem trim_onLines (t : List Char) : trim (onLines t) = trim t := by
  have hbreak : ∀ c ∈ ['\n'], isBlank c = true := List.forall_mem_singleton.2 isBlank_newline
  exact (Text.trim_append_right hbreak _).trans (Text.trim_append_left hbreak t)

theorem closed_onLines {t : List Char} (h : Closed (trim t)) : Closed (onLines t) := by
  have hbreak : Closed ['\n'] := .char (by decide) (by decide) (by decide)
  obtain ⟨l, r, hl, hr, ht⟩ := Text.exists_trim t
  have hclosed : Closed t := by
    rw [ht]
    exact ((Closed.of_blanks hl).append h).append (.of_blanks hr)
  exact (hbreak.append hclosed).append hbreak

theorem not_startsFunction {t : List Char} (h : (trim t).head? ≠ some 'f') : ¬StartsFunction t := by
  have hword : "function".toList = 'f' :: "unction".toList := rfl
  rintro ⟨head, body, ht, -⟩
  rw [ht, hword] at h
  exact h rfl

theorem stripFunction_of_not {t : List Char} (h : ¬StartsFunction t) :
    stripFunction (trim t) = trim t := by
  unfold stripFunction
  split
  · rfl
  · rename_i rest hrest
    split
    · rename_i head body hcut
      split_ifs with hlast
      · obtain ⟨hbody, hhead⟩ := Text.append_of_cut? hcut
        refine absurd ⟨head, body, ?_, hhead, hlast⟩ h
        rw [Text.append_of_after? hrest, hbody, List.append_assoc]
      · rfl
    · rfl

/-- A block is taken off with what is around it. -/
theorem stripWrappers_enclosed {t u : List Char} (h : Enclosed t u) (hf : ¬StartsFunction t) :
    stripWrappers u = if isBlock (lineBlock t) then stripWrappers t else lineBlock t := by
  have htight : trim (lineBlock t) = lineBlock t :=
    Text.trim_of_tight (Wrapped.tight_block (onLines t))
  have hstrip : ∀ n, (lineBlock t).length ≤ n → stripBlocks n (lineBlock t) =
      if isBlock (lineBlock t) then stripWrappers t else lineBlock t := by
    intro n hn
    have hlen : (lineBlock t).length = (onLines t).length + 1 + 1 := by
      simp [lineBlock]
    have hmid : (onLines t).length = t.length + 2 := by
      simp [onLines]
    obtain ⟨m, rfl⟩ : ∃ m, n = m + 1 := ⟨n - 1, by omega⟩
    have hinner : (lineBlock t).tail.dropLast = onLines t := by
      rw [lineBlock, List.cons_append, List.tail_cons, List.dropLast_concat]
    have htrim := Text.length_trim_le t
    rw [stripBlocks, hinner, trim_onLines, stripWrappers, stripFunction_of_not hf,
      stripBlocks_eq (m := m) (n := t.length) (by omega) htrim]
  cases h with
  | block =>
    have hfun : stripFunction (lineBlock t) = lineBlock t := by
      have hword : "function".toList = 'f' :: "unction".toList := rfl
      unfold stripFunction
      rw [hword, after?_of_head (by simp [lineBlock])]
    rw [stripWrappers, htight, hfun]
    exact hstrip _ le_rfl
  | @function name gap hname hgap =>
    have htrim := Text.trim_of_tight (tight_functionText name gap (onLines t))
    have hfun : stripFunction (functionText name gap (onLines t)) = lineBlock t :=
      stripFunction_functionText (onLines t) hname hgap
    have hsuffix : lineBlock t <:+ functionText name gap (onLines t) :=
      (List.suffix_append _ _).trans (List.suffix_append _ _)
    rw [stripWrappers, htrim, hfun]
    exact hstrip _ hsuffix.length_le

namespace Action

theorem unread_lineBlock (rule : Nat) (tokens : Option TokenTable) (t : List Char) :
    readStatements rule tokens (statements (lineBlock t)) =
      .error (.unsupportedAction rule "\x7b" "not a supported statement") := by
  have hcut : cutStatements (.code none) (lineBlock t) =
      ['{'] :: cutStatements (.code none) (t ++ ['\n'] ++ ['}']) := by
    have hbreak : ∀ cs, cutStatements (.code none) ('\n' :: cs) =
        [] :: cutStatements (.code none) cs := fun cs => by simp [cutStatements]
    have hbrace : ∀ cs, cutStatements (.code none) ('{' :: cs) =
        addToFirst '{' (cutStatements (.code none) cs) := fun cs => by
      simp [cutStatements, Quoting.next, isQuote]
    show cutStatements (.code none) ('{' :: '\n' :: (t ++ ['\n'] ++ ['}'])) = _
    rw [hbrace, hbreak]
    rfl
  have hfirst : statements (lineBlock t) =
      ['{'] :: statements (t ++ ['\n'] ++ ['}']) := by
    have htrim : trim ['{'] = ['{'] := by decide
    rw [statements, hcut, List.map_cons, htrim]
    rfl
  have hread : readStatement tokens ['{'] = .error "not a supported statement" := by
    rfl
  rw [hfirst, readStatements, hread]

/-- A block or a function on lines of its own around an action that can be read changes nothing if
its braces belong together, and else nothing can be read. The braces belong together if the action
is a block already, and if its comments hold neither quotes nor braces. -/
theorem read_enclosed (rule : Nat) (tokens : Option TokenTable) {t : String} {a : Action}
    (hf : ¬StartsFunction t.toList) (h : read rule t tokens = .ok a) :
    (∀ u : String, Enclosed t.toList u.toList → read rule u tokens =
      if isBlock (lineBlock t.toList) then .ok a
      else .error (.unsupportedAction rule "\x7b" "not a supported statement")) ∧
    (isBlock (trim t.toList) = true → isBlock (lineBlock t.toList) = true) ∧
    ((∀ c ∈ comments (.code none) (trim t.toList), isQuote c = false ∧ isBrace c = false) →
      isBlock (lineBlock t.toList) = true) := by
  have hclosed : Closed (trim t.toList) → isBlock (lineBlock t.toList) = true :=
    fun hc => isBlock_block (closed_onLines hc)
  refine ⟨fun u hu => ?_, fun hb => hclosed (.of_isBlock hb), fun hplain => ?_⟩
  · rw [read, stripWrappers_enclosed hu hf]
    split_ifs
    · exact h
    · rw [unread_lineBlock]
  · rcases hb : isBlock (trim t.toList) with _ | _
    · rw [read, stripWrappers, stripFunction_of_not hf, stripBlocks_of_not hb] at h
      rcases hread : readStatements rule tokens (statements (trim t.toList)) with error | cs
      · rw [hread] at h
        cases h
      · exact hclosed (.of_neat (neat_of_readStatements hread hplain))
    · exact hclosed (.of_isBlock hb)

/-- A comment, and a brace in quotes. -/
theorem read_enclosed_brace :
    ¬StartsFunction "return '\x7d' // done".toList ∧
    read 3 "return '\x7d' // done" none = .ok ⟨[.give (.name "\x7d")]⟩ ∧
    read 3 "\x7b\nreturn '\x7d' // done\n\x7d" none = .ok ⟨[.give (.name "\x7d")]⟩ ∧
    read 3 "function action() \x7b\nreturn '\x7d' // done\n\x7d" none =
      .ok ⟨[.give (.name "\x7d")]⟩ := by
  have hf : ¬StartsFunction "return '\x7d' // done".toList := not_startsFunction (by decide)
  have h : read 3 "return '\x7d' // done" none = .ok ⟨[.give (.name "\x7d")]⟩ := by decide +kernel
  obtain ⟨hread, -, hplain⟩ := read_enclosed 3 none hf h
  have hcomments : comments (.code none) (trim "return '\x7d' // done".toList) =
      [' ', 'd', 'o', 'n', 'e'] := by
    decide +kernel
  rw [hcomments] at hplain
  rw [hplain (by simp [isQuote, isBrace]), if_pos rfl] at hread
  have hfun : Enclosed "return '\x7d' // done".toList
      (functionText " action".toList [' '] (onLines "return '\x7d' // done".toList)) :=
    .function (by decide) (List.forall_mem_singleton.2 rfl)
  exact ⟨hf, h, hread _ .block, hread _ hfun⟩

/-- An apostrophe in a comment opens a quote that hides the brace at the end. -/
theorem unread_enclosed_apostrophe : ¬∀ (rule : Nat) (t u : String) (a : Action),
    ¬StartsFunction t.toList → read rule t none = .ok a → Enclosed t.toList u.toList →
      read rule u none = .ok a := by
  intro h
  have hblock : read 0 "\x7b\nreturn 'A' // it's\n\x7d" none = .ok ⟨[.give (.name "A")]⟩ :=
    h 0 "return 'A' // it's" _ _ (not_startsFunction (by decide)) (by decide +kernel) .block
  revert hblock
  decide +kernel

end Action
end LexGen
