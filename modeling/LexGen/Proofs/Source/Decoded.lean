import LexGen.Proofs.Engine.Restore
import LexGen.Proofs.Source.Decoder
import LexGen.Source

/-!
# Tables are read back from their expression

The expression of the tables of an engine is read back as the tables (`EngineData.decode?_expression`),
with any margin of spaces. So engines with the same expression have the same tables
(`Engine.Obtained.decode?_data`).

A literal is one lexeme whatever its text holds (`Reads.literal`), since its escapes are read as the
characters that they name. So the lexemes of a line are known without looking into its literals, and
the lexemes of all lines are those of the expression (`LinesRead.intercalate`).
-/

namespace LexGen

/-! ## Lexemes -/

namespace Lexeme

/-- Numbers with commas between them. -/
def numbers : List Nat → List Lexeme
  | [] => []
  | [n] => [.number n]
  | n :: m :: ns => .number n :: .mark ',' :: numbers (m :: ns)

theorem length_le_numbers : ∀ ns : List Nat, ns.length ≤ (numbers ns).length
  | [] => le_rfl
  | [_] => le_rfl
  | _ :: m :: ns => by
    have ih := length_le_numbers (m :: ns)
    simp only [numbers, List.length_cons] at ih ⊢
    omega

/-- A text is read from one place to another, and gives lexemes. -/
def Reads (p : Place) (cs : List Char) (ls : List Lexeme) (q : Place) : Prop :=
  run? p cs = some (ls, q)

namespace Reads

variable {p q r : Place} {a b : List Char} {la lb : List Lexeme}

theorem nil : Reads p [] [] p := rfl

theorem append (ha : Reads p a la q) (hb : Reads q b lb r) : Reads p (a ++ b) (la ++ lb) r := by
  induction a generalizing p la with
  | nil =>
    obtain ⟨rfl, rfl⟩ : [] = la ∧ p = q := Prod.ext_iff.1 (Option.some.inj ha)
    exact hb
  | cons c cs ih =>
    rw [Reads, run?] at ha
    rw [Reads, List.cons_append, run?]
    rcases hs : step? p c with _ | ⟨ls, p'⟩
    · rw [hs] at ha
      cases ha
    · rw [hs] at ha
      obtain ⟨⟨ms, q'⟩, hrun, hpair⟩ := Option.map_eq_some_iff.1 ha
      obtain ⟨rfl, rfl⟩ : ls ++ ms = la ∧ q' = q := Prod.ext_iff.1 hpair
      have hrest : run? p' (cs ++ b) = some (ms ++ lb, r) := ih hrun
      simp only [hrest, Option.map_some, List.append_assoc]

theorem single {c : Char} (h : step? p c = some (la, q)) : Reads p [c] la q := by
  simp [Reads, run?, h]

/-- A number is read digit by digit, where each place tells the value and the number of the digits
so far. -/
theorem toDigits {base limit : Nat} (hbase : 1 < base) (place : Nat → Nat → Place)
    (hfirst : ∀ d < base, step? p d.digitChar = some ([], place d 1))
    (hnext : ∀ d < base, ∀ v, ∀ k < limit,
      step? (place v k) d.digitChar = some ([], place (base * v + d) (k + 1))) (n : Nat)
    (hlimit : (Nat.toDigits base n).length ≤ limit) :
    Reads p (Nat.toDigits base n) [] (place n (Nat.toDigits base n).length) := by
  induction n using Nat.strongRecOn with
  | ind n ih =>
    by_cases hn : n < base
    · rw [Nat.toDigits_of_lt_base hn]
      exact single (hfirst n hn)
    · have hstep := Nat.toDigits_of_base_le hbase (Nat.le_of_not_lt hn)
      rw [hstep, List.length_append, List.length_singleton] at hlimit
      have hdiv := ih (n / base) (Nat.div_lt_self (by omega) hbase) (by omega)
      have hlast := hnext (n % base) (Nat.mod_lt n (by omega)) (n / base) _ hlimit
      rw [Nat.div_add_mod] at hlast
      rw [hstep, List.length_append, List.length_singleton]
      exact hdiv.append (single hlast)

theorem number (n : Nat) : Reads .gap (Nat.toDigits 10 n) [] (.number n) := by
  have hdigit : ∀ d < 10, d.digitChar.isDigit = true ∧ d.digitChar.toNat - '0'.toNat = d := by
    decide
  refine toDigits (by decide) (fun v _ => .number v) (by decide) ?_ n le_rfl
  intro d hd v _ _
  rw [step?, if_pos (hdigit d hd).1, (hdigit d hd).2]

theorem hexDigits {s : List Char} {n : Nat} (hn : n < 0x1000000) :
    Reads (.text s (.codePoint 0 0)) (Text.hexDigits n) []
      (.text s (.codePoint n (Text.hexDigits n).length)) := by
  have hdigit : ∀ d < 16, d.digitChar ≠ '\x7d' ∧ d.digitChar ≠ '_' ∧
      Text.hexDigit? d.digitChar = some d := by decide
  have hstep : ∀ d < 16, ∀ v, ∀ k < 6, step? (.text s (.codePoint v k)) d.digitChar =
      some ([], .text s (.codePoint (16 * v + d) (k + 1))) := by
    intro d hd v k hk
    obtain ⟨hbrace, hline, hvalue⟩ := hdigit d hd
    rw [step?, stepText?, if_neg hbrace, if_neg hline, hvalue]
    exact if_pos hk
  refine toDigits (by decide) (fun v k => .text s (.codePoint v k)) ?_ hstep n ?_
  · intro d hd
    have h := hstep d hd 0 0 (by decide)
    rwa [Nat.mul_zero, Nat.zero_add] at h
  · exact (Nat.length_toDigits_le_iff (by decide) (by decide)).2 hn

theorem codePointEscape (s : List Char) (c : Char) :
    Reads (.text s .none) (Text.codePointEscape c) [] (.text (s ++ [c]) .none) := by
  have hn : c.toNat < 0x1000000 := by
    rcases c.valid with h | h
    · exact lt_trans h (by decide)
    · exact lt_trans h.2 (by decide)
  have hvalid : c.toNat.isValidChar := c.valid
  have hpos : 0 < (Text.hexDigits c.toNat).length := Nat.length_toDigits_pos
  have hopen : Reads (.text s .none) ['\\', 'u', '\x7b'] [] (.text s (.codePoint 0 0)) := rfl
  refine (hopen.append (hexDigits hn)).append (single ?_)
  rw [step?, stepText?, if_pos rfl, if_pos ⟨hpos, hvalid⟩, Char.ofNat_toNat]

/-- A character of a literal is read as itself. -/
theorem literalChar (s : List Char) (c : Char) :
    Reads (.text s .none) (Text.literalChar c) [] (.text (s ++ [c]) .none) := by
  unfold Text.literalChar
  split_ifs with h0 h1 h2 h3 h4 h5
  · rw [h0]; rfl
  · rw [h1]; rfl
  · rw [h2]; rfl
  · rw [h3]; rfl
  · rcases h4 with rfl | rfl <;> rfl
  · exact codePointEscape s c
  · refine single ?_
    rw [not_or] at h4
    rw [step?, stepText?, stepPlain?, if_neg h4.1, if_neg h4.2, if_neg h2]

theorem flatMap_literalChar (t : List Char) : ∀ s : List Char,
    Reads (.text s .none) (t.flatMap Text.literalChar) [] (.text (s ++ t) .none) := by
  induction t with
  | nil =>
    intro s
    rw [List.append_nil]
    exact nil
  | cons c t ih =>
    intro s
    have hrest := (literalChar s c).append (ih (s ++ [c]))
    rwa [List.append_assoc] at hrest

/-- A literal is read as its text, whatever the text holds. -/
theorem literal (s : String) :
    Reads .gap (Text.literalString s).toList [.text s.toList] .gap := by
  rw [Text.literalString, String.toList_ofList, Text.literal, List.cons_append]
  have hopen : Reads .gap ['"'] [] (.text [] .none) := rfl
  have hclose : Reads (.text s.toList .none) ['"'] [.text s.toList] .gap := rfl
  exact hopen.append ((flatMap_literalChar s.toList []).append hclose)

/-- A comment that holds a number. -/
theorem comment (n : Nat) :
    Reads .gap ("/* ".toList ++ Nat.toDigits 10 n ++ " */ ".toList) [] .gap := by
  have hdigits : ∀ (ds : List Char) (last : Char), (∀ c ∈ ds, c.isDigit = true) →
      last ≠ '*' → last ≠ '/' →
        Reads (.blockComment 0 last) (ds ++ " */ ".toList) [] .gap := by
    intro ds
    induction ds with
    | nil =>
      intro last _ hstar hslash
      have hspace : Reads (.blockComment 0 last) [' '] [] (.blockComment 0 ' ') := by
        refine single ?_
        rw [step?, stepComment, if_neg (fun h => hstar h.1), if_neg (fun h => hslash h.1)]
      have hend : Reads (.blockComment 0 ' ') ['*', '/', ' '] [] .gap := rfl
      exact hspace.append hend
    | cons c ds ih =>
      intro last hds hstar hslash
      have hc := hds c List.mem_cons_self
      have hne : ∀ d : Char, d.isDigit = false → c ≠ d := by
        rintro d hd rfl
        rw [hc] at hd
        cases hd
      have hfirst : Reads (.blockComment 0 last) [c] [] (.blockComment 0 c) := by
        refine single ?_
        rw [step?, stepComment, if_neg (fun h => hstar h.1), if_neg (fun h => hslash h.1)]
      exact hfirst.append (ih c (fun d hd => hds d (List.mem_cons_of_mem c hd))
        (hne '*' (by decide)) (hne '/' (by decide)))
  have hopen : Reads .gap "/* ".toList [] (.blockComment 0 ' ') := rfl
  rw [List.append_assoc]
  exact hopen.append (hdigits _ ' ' (fun c hc => Nat.isDigit_of_mem_toDigits (by decide)
    (by decide) hc) (by decide) (by decide))

theorem intercalate_numbers : ∀ ns : List Nat,
    Reads .gap ((String.intercalate ", " (ns.map Nat.repr)).toList ++ "]),".toList)
      (numbers ns ++ [.mark ']', .mark ')', .mark ',']) .gap
  | [] => rfl
  | [n] => by
    have hclose : Reads (.number n) "]),".toList
        [.number n, .mark ']', .mark ')', .mark ','] .gap := rfl
    rw [List.map_cons, List.map_nil, String.intercalate_singleton, Nat.toList_repr]
    exact (number n).append hclose
  | n :: m :: ns => by
    have hcomma : Reads (.number n) ", ".toList [.number n, .mark ','] .gap := rfl
    rw [List.map_cons, List.map_cons, String.intercalate_cons_cons, String.toList_append,
      String.toList_append, Nat.toList_repr, List.append_assoc, List.append_assoc]
    exact (number n).append (hcomma.append (intercalate_numbers (m :: ns)))

end Reads
end Lexeme

/-! ## Lines -/

open Lexeme (Reads Place)

def ruleLexemes (rule : String × String) : List Lexeme :=
  [.mark '(', .text rule.1.toList, .mark ',', .text rule.2.toList, .mark ')']

theorem reads_ruleLine (rule : Nat × String × String) :
    Reads .gap (ruleLine rule).toList (ruleLexemes rule.2 ++ [.mark ',']) .gap := by
  have hopen : Reads .gap ['('] [.mark '('] .gap := rfl
  have hcomma : Reads .gap ", ".toList [.mark ','] .gap := rfl
  have hclose : Reads .gap "),".toList [.mark ')', .mark ','] .gap := rfl
  have hspaces : " */ (".toList = " */ ".toList ++ ['('] := rfl
  rw [ruleLine]
  simp only [String.toList_append, Nat.toList_repr, hspaces]
  rw [← List.append_assoc _ _ ['(']]
  exact (((((Reads.comment rule.1).append hopen).append (.literal rule.2.1)).append hcomma).append
    (.literal rule.2.2)).append hclose

def conditionLexemes (row : String × Bool × List Nat) : List Lexeme :=
  [.mark '(', .text row.1.toList, .mark ',', .word (boolText row.2.1).toList, .mark ',',
    .mark '&', .mark '['] ++ Lexeme.numbers row.2.2 ++ [.mark ']', .mark ')']

theorem reads_conditionLine (row : String × Bool × List Nat) :
    Reads .gap (conditionLine row).toList (conditionLexemes row ++ [.mark ',']) .gap := by
  have hopen : Reads .gap "(".toList [.mark '('] .gap := rfl
  have hcomma : Reads .gap ", ".toList [.mark ','] .gap := rfl
  have hbool : Reads .gap (boolText row.2.1).toList [] (.word (boolText row.2.1).toList) := by
    cases row.2.1 <;> rfl
  have hslice : ∀ w, Reads (.word w) ", &[".toList
      [.word w, .mark ',', .mark '&', .mark '['] .gap := fun _ => rfl
  have hlexemes : conditionLexemes row ++ [.mark ','] =
      [.mark '(', .text row.1.toList, .mark ',', .word (boolText row.2.1).toList, .mark ',',
        .mark '&', .mark '['] ++
      (Lexeme.numbers row.2.2 ++ [.mark ']', .mark ')', .mark ',']) := by
    simp [conditionLexemes]
  rw [conditionLine, hlexemes]
  simp only [String.toList_append]
  rw [List.append_assoc _ _ "]),".toList]
  exact ((((hopen.append (.literal row.1)).append hcomma).append hbool).append (hslice _)).append
    (Reads.intercalate_numbers row.2.2)

def flagLexemes (name : String) (value : Bool) : List Lexeme :=
  [.word name.toList, .mark ':', .word (boolText value).toList, .mark ',']

theorem reads_flagLine {label name : String}
    (h : Reads .gap label.toList [.word name.toList, .mark ':'] .gap) (value : Bool) :
    Reads .gap (label ++ boolText value ++ ",").toList (flagLexemes name value) .gap := by
  have hbool : Reads .gap (boolText value).toList [] (.word (boolText value).toList) := by
    cases value <;> rfl
  have hcomma : ∀ w, Reads (.word w) ",".toList [.word w, .mark ','] .gap := fun _ => rfl
  simp only [String.toList_append]
  exact (h.append hbool).append (hcomma _)

/-- Each line is read by itself, and together they give the lexemes. -/
inductive LinesRead : List String → List Lexeme → Prop
  | nil : LinesRead [] []
  | cons {l : String} {ls : List String} {a b : List Lexeme} :
    Reads .gap l.toList a .gap → LinesRead ls b → LinesRead (l :: ls) (a ++ b)

namespace LinesRead

variable {ls ms : List String} {a b : List Lexeme}

theorem single {l : String} (h : Reads .gap l.toList a .gap) : LinesRead [l] a := by
  rw [← List.append_nil a]
  exact cons h nil

theorem append (hl : LinesRead ls a) (hm : LinesRead ms b) : LinesRead (ls ++ ms) (a ++ b) := by
  induction hl with
  | nil => exact hm
  | cons h _ ih =>
    rw [List.cons_append, List.append_assoc]
    exact cons h ih

theorem indent (h : LinesRead ls a) : LinesRead (indent ls) a := by
  have hmargin : Reads .gap indentation.toList [] .gap := rfl
  induction h with
  | nil => exact nil
  | @cons l _ _ _ h _ ih =>
    refine cons ?_ ih
    rw [String.toList_append]
    exact hmargin.append h

theorem map {α : Type} {line : α → String} {lexemes : α → List Lexeme}
    (h : ∀ x, Reads .gap (line x).toList (lexemes x) .gap) :
    ∀ xs : List α, LinesRead (xs.map line) (xs.flatMap lexemes)
  | [] => nil
  | x :: xs => cons (h x) (map h xs)

/-- A text of lines is read line by line, whatever blanks stand between them. -/
theorem intercalate {sep : String} (hsep : Reads .gap sep.toList [] .gap) (h : LinesRead ls a) :
    Reads .gap (String.intercalate sep ls).toList a .gap := by
  induction h with
  | nil => exact .nil
  | @cons l ls a b h hrest ih =>
    cases hrest with
    | nil =>
      rw [String.intercalate_singleton, List.append_nil]
      exact h
    | cons _ _ =>
      rw [String.intercalate_cons_cons, String.toList_append, String.toList_append]
      have hfirst := h.append hsep
      rw [List.append_nil] at hfirst
      exact hfirst.append ih

end LinesRead

namespace EngineData

/-- A slice that holds one line for each item. -/
def sliceLexemes {α : Type} (lexemes : α → List Lexeme) (xs : List α) : List Lexeme :=
  [.mark '&', .mark '['] ++ (xs.flatMap (fun x => lexemes x ++ [.mark ',']) ++ [.mark ']'])

def fieldLexemes (name : String) (value : List Lexeme) : List Lexeme :=
  [.word name.toList, .mark ':'] ++ value ++ [.mark ',']

def flagsLexemes (f : ScanFlags) : List Lexeme :=
  [.word "ScanOptions".toList, .mark '\x7b'] ++ flagLexemes "ranges" f.ranges ++
    flagLexemes "flex" f.flex ++ flagLexemes "backtrack_lexer" f.backtracking ++
    flagLexemes "case_insensitive" f.caseless ++ [.mark '\x7d']

def lexemes (d : EngineData) : List Lexeme :=
  [.word "EngineData".toList, .mark '\x7b'] ++
    fieldLexemes "rules" (sliceLexemes ruleLexemes d.rules) ++
    fieldLexemes "conditions" (sliceLexemes conditionLexemes d.conditions) ++
    fieldLexemes "options" (flagsLexemes d.flags) ++ [.mark '\x7d']

theorem linesRead_slice {α β : Type} {opening name : String} {line : β → String} (item : β → α)
    {lexemes : α → List Lexeme}
    (hopen : Reads .gap opening.toList
      [.word name.toList, .mark ':', .mark '&', .mark '['] .gap)
    (h : ∀ x, Reads .gap (line x).toList (lexemes (item x) ++ [.mark ',']) .gap) (xs : List β) :
    LinesRead ([opening] ++ LexGen.indent (xs.map line) ++ ["],"])
      (fieldLexemes name (sliceLexemes lexemes (xs.map item))) := by
  have hclose : Reads .gap "],".toList [.mark ']', .mark ','] .gap := rfl
  have hlines := ((LinesRead.single hopen).append (LinesRead.map h xs).indent).append
    (.single hclose)
  simpa [fieldLexemes, sliceLexemes, List.flatMap_map] using hlines

theorem linesRead_flagLines (f : ScanFlags) :
    LinesRead (flagLines f) (flagLexemes "ranges" f.ranges ++ (flagLexemes "flex" f.flex ++
      (flagLexemes "backtrack_lexer" f.backtracking ++
        flagLexemes "case_insensitive" f.caseless))) := by
  have hranges : Reads .gap "ranges: ".toList [.word "ranges".toList, .mark ':'] .gap := rfl
  have hflex : Reads .gap "flex: ".toList [.word "flex".toList, .mark ':'] .gap := rfl
  have hbacktracking : Reads .gap "backtrack_lexer: ".toList
      [.word "backtrack_lexer".toList, .mark ':'] .gap := rfl
  have hcaseless : Reads .gap "case_insensitive: ".toList
      [.word "case_insensitive".toList, .mark ':'] .gap := rfl
  exact .cons (reads_flagLine hranges _) (.cons (reads_flagLine hflex _)
    (.cons (reads_flagLine hbacktracking _) (.single (reads_flagLine hcaseless _))))

theorem linesRead (d : EngineData) : LinesRead d.lines d.lexemes := by
  have hopen : Reads .gap "EngineData \x7b".toList
      [.word "EngineData".toList, .mark '\x7b'] .gap := rfl
  have hrules : Reads .gap "rules: &[".toList
      [.word "rules".toList, .mark ':', .mark '&', .mark '['] .gap := rfl
  have hconditions : Reads .gap "conditions: &[".toList
      [.word "conditions".toList, .mark ':', .mark '&', .mark '['] .gap := rfl
  have hoptions : Reads .gap "options: ScanOptions \x7b".toList
      [.word "options".toList, .mark ':', .word "ScanOptions".toList, .mark '\x7b'] .gap := rfl
  have hclose : Reads .gap "\x7d,".toList [.mark '\x7d', .mark ','] .gap := rfl
  have hend : Reads .gap "\x7d".toList [.mark '\x7d'] .gap := rfl
  have hnumbered : d.numberedRules.map (·.2) = d.rules := by
    rw [numberedRules, List.map_map]
    exact List.zipIdx_map_fst 0 d.rules
  have hrule := linesRead_slice (·.2) hrules (fun x => reads_ruleLine x) d.numberedRules
  have hcondition := linesRead_slice id hconditions (fun x => reads_conditionLine x)
    d.conditions
  rw [hnumbered] at hrule
  rw [List.map_id] at hcondition
  have hflags := ((LinesRead.single hoptions).append (linesRead_flagLines d.flags).indent).append
    (.single hclose)
  have hfields := ((hrule.append hcondition).append hflags).indent
  have hlines := ((LinesRead.single hopen).append hfields).append (.single hend)
  simpa only [lines, lexemes, fieldLexemes, flagsLexemes, List.append_assoc, List.cons_append,
    List.nil_append] using hlines

/-- Blanks that begin a line. -/
def margin (n : Nat) : String := String.ofList (List.replicate n ' ')

theorem reads_margin (n : Nat) : Reads .gap ("\n" ++ margin n).toList [] .gap := by
  have hbreak : Reads .gap "\n".toList [] .gap := rfl
  have hspaces : ∀ n, Reads .gap (List.replicate n ' ') [] .gap := by
    intro n
    induction n with
    | zero => rfl
    | succ n ih =>
      have hspace : Reads .gap [' '] [] .gap := rfl
      exact hspace.append ih
  have hmargin : (margin n).toList = List.replicate n ' ' := String.toList_ofList
  rw [String.toList_append, hmargin]
  exact hbreak.append (hspaces n)

/-- The lexemes of the expression. -/
theorem read?_expression (d : EngineData) (n : Nat) :
    Lexeme.read? (d.expression (margin n)).toList = some d.lexemes := by
  have hrun := d.linesRead.intercalate (reads_margin n)
  rw [Reads] at hrun
  rw [Lexeme.read?, expression, hrun]

end EngineData

/-! ## Values -/

namespace LexemeReader

/-- The reader takes the lexemes for a value, whatever comes after them. -/
def Takes {α : Type} (reader : LexemeReader α) (ls : List Lexeme) (x : α) : Prop :=
  ∀ rest, reader (ls ++ rest) = some (x, rest)

theorem after?_cons (l : Lexeme) (ls : List Lexeme) : after? l (l :: ls) = some ls := if_pos rfl

theorem after?_of_ne {l m : Lexeme} (h : m ≠ l) (ls : List Lexeme) : after? l (m :: ls) = none :=
  if_neg h

section Items

variable {α : Type} {item : LexemeReader α} {fuel : Nat} {x : α} {xs : List α}
  {ls ms rest : List Lexeme} {m : Lexeme}

theorem items?_end : items? item (fuel + 1) (.mark ']' :: rest) = some ([], rest) := by
  rw [items?, after?_cons]

theorem items?_next (hm : m ≠ .mark ']') (hx : item (m :: ls) = some (x, .mark ',' :: ms))
    (hxs : items? item fuel ms = some (xs, rest)) :
    items? item (fuel + 1) (m :: ls) = some (x :: xs, rest) := by
  simp [items?, after?_of_ne hm, hx, after?_cons, hxs]

theorem items?_last (hm : m ≠ .mark ']') (hx : item (m :: ls) = some (x, .mark ']' :: rest)) :
    items? item (fuel + 1) (m :: ls) = some ([x], rest) := by
  have hcomma : after? (.mark ',') (.mark ']' :: rest) = none := after?_of_ne (by decide) rest
  simp [items?, after?_of_ne hm, hx, after?_cons, hcomma]

/-- There is fuel enough in the lexemes of a slice. -/
theorem takes_slice_of_items (hlength : xs.length < ls.length)
    (h : ∀ fuel, xs.length < fuel → Takes (items? item fuel) ls xs) :
    Takes (slice? item) ([.mark '&', .mark '['] ++ ls) xs := by
  intro rest
  have hitems := h (ls.length + rest.length) (by omega) rest
  simp [slice?, after?_cons, hitems]

/-- The items of a slice in which each item is followed by a comma. -/
theorem items?_lines {lexemes : α → List Lexeme} (hitem : ∀ x, Takes item (lexemes x) x)
    (hhead : ∀ x, ∃ m ls, lexemes x = m :: ls ∧ m ≠ .mark ']') :
    ∀ (xs : List α) {fuel : Nat}, xs.length < fuel →
      Takes (items? item fuel) (xs.flatMap (fun x => lexemes x ++ [.mark ',']) ++ [.mark ']']) xs
  | [], _ + 1, _, _ => items?_end
  | x :: xs, fuel + 1, hfuel, rest => by
    have hrest := items?_lines hitem hhead xs (Nat.lt_of_succ_lt_succ hfuel) rest
    obtain ⟨m, ls, hx, hm⟩ := hhead x
    have htake := hitem x (.mark ',' :: (xs.flatMap (fun x => lexemes x ++ [.mark ',']) ++
      [.mark ']'] ++ rest))
    rw [List.flatMap_cons]
    simp only [hx, List.cons_append, List.append_assoc, List.nil_append] at htake hrest ⊢
    exact items?_next hm htake hrest

theorem takes_slice {lexemes : α → List Lexeme} (hitem : ∀ x, Takes item (lexemes x) x)
    (hhead : ∀ x, ∃ m ls, lexemes x = m :: ls ∧ m ≠ .mark ']') (xs : List α) :
    Takes (slice? item) (EngineData.sliceLexemes lexemes xs) xs := by
  refine takes_slice_of_items ?_ fun _ => items?_lines hitem hhead xs
  induction xs with
  | nil => exact Nat.one_pos
  | cons x xs ih =>
    simp only [List.flatMap_cons, List.length_append, List.length_cons, List.length_nil] at ih ⊢
    omega

theorem items?_numbers : ∀ (ns : List Nat) {fuel : Nat}, ns.length < fuel →
    Takes (items? number? fuel) (Lexeme.numbers ns ++ [.mark ']']) ns
  | [], _ + 1, _, _ => items?_end
  | [_], _ + 1, _, _ => items?_last (by simp) rfl
  | _ :: m :: ns, _ + 1, hfuel, rest =>
    items?_next (by simp) rfl (items?_numbers (m :: ns) (Nat.lt_of_succ_lt_succ hfuel) rest)

theorem takes_numbers (ns : List Nat) :
    Takes (slice? number?) ([.mark '&', .mark '['] ++ (Lexeme.numbers ns ++ [.mark ']'])) ns := by
  refine takes_slice_of_items ?_ fun _ => items?_numbers ns
  have hlength := Lexeme.length_le_numbers ns
  rw [List.length_append, List.length_singleton]
  omega

theorem takes_field (name : String) {value : List Lexeme} (h : Takes item value x) :
    Takes (field? item name) (EngineData.fieldLexemes name value) x := by
  intro rest
  have hvalue := h (.mark ',' :: rest)
  simp [field?, EngineData.fieldLexemes, after?_cons, hvalue]

end Items

theorem takes_rule (rule : String × String) : Takes rule? (ruleLexemes rule) rule := by
  intro rest
  simp [rule?, ruleLexemes, after?_cons, text?]

theorem takes_bool (b : Bool) : Takes bool? [.word (boolText b).toList] b := by
  intro rest
  cases b <;> rfl

theorem takes_condition (row : String × Bool × List Nat) :
    Takes condition? (conditionLexemes row) row := by
  intro rest
  have hbool := takes_bool row.2.1
    (.mark ',' :: .mark '&' :: .mark '[' :: (Lexeme.numbers row.2.2 ++
      .mark ']' :: .mark ')' :: rest))
  have hnumbers := takes_numbers row.2.2 (.mark ')' :: rest)
  simp only [List.cons_append, List.nil_append, List.append_assoc] at hbool hnumbers
  simp [condition?, conditionLexemes, after?_cons, text?, hbool, hnumbers]

theorem takes_flag (name : String) (value : Bool) :
    Takes (field? bool? name) (flagLexemes name value) value :=
  takes_field name (takes_bool value)

theorem takes_flags (f : ScanFlags) : Takes flags? (EngineData.flagsLexemes f) f := by
  intro rest
  have hflag : ∀ name value rest, field? bool? name (flagLexemes name value ++ rest) =
      some (value, rest) := fun name value => takes_flag name value
  simp [flags?, EngineData.flagsLexemes, after?_cons, List.append_assoc, hflag]

theorem takes_data (d : EngineData) : Takes data? d.lexemes d := by
  intro rest
  have hrules := takes_field "rules" (takes_slice takes_rule
    (fun x => ⟨_, _, rfl, by simp⟩) d.rules)
  have hconditions := takes_field "conditions" (takes_slice takes_condition
    (fun x => ⟨_, _, rfl, by simp⟩) d.conditions)
  have hflags := takes_field "options" (takes_flags d.flags)
  simp only [Takes] at hrules hconditions hflags
  simp [data?, EngineData.lexemes, after?_cons, List.append_assoc, hrules, hconditions, hflags]

end LexemeReader

namespace EngineData

/-- The tables are read back from their expression, whatever the texts in it hold. -/
theorem decode?_expression (d : EngineData) (n : Nat) :
    decode? (d.expression (margin n)) = some d := by
  have hdata := LexemeReader.takes_data d []
  rw [List.append_nil] at hdata
  rw [decode?, read?_expression, Option.bind_some, hdata]

end EngineData

/-! ## Engines -/

namespace Engine

/-- The engines that are compiled from any rules, or loaded. -/
inductive Obtained (e : Engine) : Prop
  | compiled (s : RuleSet) (tokens : Option TokenTable) : s.compile tokens = .ok e → Obtained e
  | loaded (d : EngineData) : d.load = .ok e → Obtained e

theorem Obtained.length_eq {e : Engine} (h : e.Obtained) : e.rules.length = e.actions.length := by
  rcases h with ⟨s, tokens, h⟩ | ⟨d, h⟩
  · obtain ⟨fragments, -, -, hrules, hactions, -⟩ := RuleSet.exists_of_compile h
    rw [CompiledRule.length_of_compileAll hrules, Action.length_of_readAll hactions,
      List.length_map, List.length_map]
  · exact (EngineData.restorable_of_load h).length_eq

/-- The tables are those of the engine. -/
structure Shown (e : Engine) (d : EngineData) : Prop where
  patterns : d.rules.map (·.1) = e.rules.map (·.pattern)
  texts : d.rules.map (·.2) = e.actionTexts
  rows : d.conditions = e.conditionRows
  flags : d.flags = e.flags

/-- No rule is lost where patterns and actions are put together. -/
theorem Obtained.shown {e : Engine} (h : e.Obtained) : e.Shown e.data := by
  refine ⟨List.map_fst_zip ?_, List.map_snd_zip ?_, rfl, rfl⟩
  · simp [actionTexts, h.length_eq]
  · simp [actionTexts, h.length_eq]

/-- The tables of an engine are read back from their expression. So two engines with the same
expression have the same patterns, actions, start conditions and flags. -/
theorem Obtained.decode?_data {e : Engine} (h : e.Obtained) (n : Nat) :
    (∃ d, EngineData.decode? (e.data.expression (EngineData.margin n)) = some d ∧ e.Shown d) ∧
    ∀ f : Engine, f.Obtained →
      e.data.expression (EngineData.margin n) = f.data.expression (EngineData.margin n) →
      e.rules.map (·.pattern) = f.rules.map (·.pattern) ∧ e.actionTexts = f.actionTexts ∧
        e.conditionRows = f.conditionRows ∧ e.flags = f.flags := by
  refine ⟨⟨e.data, e.data.decode?_expression n, h.shown⟩, fun f hf heq => ?_⟩
  have hdecoded := e.data.decode?_expression n
  rw [heq, f.data.decode?_expression n] at hdecoded
  have hdata : f.data = e.data := Option.some.inj hdecoded
  have he := h.shown
  rw [← hdata] at he
  have hf := hf.shown
  exact ⟨he.patterns.symm.trans hf.patterns, he.texts.symm.trans hf.texts,
    he.rows.symm.trans hf.rows, he.flags.symm.trans hf.flags⟩

/-- A pattern and an action that hold what stands around them. -/
def quotedTables : RuleSet where
  rules := [{ pattern := .text "\"\\), /\\*", action := "return '\", &[\\\\'" }]

/-- The same text is written for an engine and for the one that is loaded from its tables. -/
theorem Obtained.decode?_data_quoted : ∃ e f,
    quotedTables.compile none = .ok e ∧ e.data.load = .ok f ∧
    e.data.expression (EngineData.margin 8) = f.data.expression (EngineData.margin 8) ∧
    (∃ d, EngineData.decode? (e.data.expression (EngineData.margin 8)) = some d ∧ e.Shown d) ∧
    e.actionTexts = f.actionTexts := by
  have htext : ∀ r ∈ quotedTables.rules, ∃ source, r.pattern = .text source := by
    intro r hr
    exact ⟨"\"\\), /\\*", by rw [List.mem_singleton.1 hr]⟩
  have hcompiles : (quotedTables.compile none).toOption.isSome = true := by decide +kernel
  rcases he : quotedTables.compile none with error | e
  · rw [he] at hcompiles
    cases hcompiles
  obtain ⟨f, hf, halike, -⟩ := Made.reload (.compiled quotedTables none htext he)
  have hdata : e.data = f.data := by
    rw [data, data, conditionRows, conditionRows, actionTexts, actionTexts, halike.rules_eq,
      halike.conditions_eq, halike.actions_eq, halike.flags_eq]
  have hexpression : e.data.expression (EngineData.margin 8) =
      f.data.expression (EngineData.margin 8) := by rw [hdata]
  obtain ⟨hdecoded, hsame⟩ := (Obtained.compiled quotedTables none he).decode?_data 8
  exact ⟨e, f, rfl, hf, hexpression, hdecoded, (hsame f (.loaded _ hf) hexpression).2.1⟩

end Engine
end LexGen
