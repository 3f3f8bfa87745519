import LexGen.Engine.Compile
import LexGen.Proofs.CharSet
import LexGen.Proofs.Source.Wrapped

/-!
# Names in a source

A module name becomes a name of the written language (`usable_identifier`). A low line goes in front
of an ASCII digit only, so a name that begins with any other number still does so afterwards
(`startsWith_identifier`).

The functions that a source defines are those of its wrapping and those of the epilogue
(`Engine.functions_source`): no line of the tables begins a definition, whatever patterns, actions
and conditions say. The wrapping defines no function twice, except for a constructor that is called
like the entry point (`Wrapping.nodup_functions_iff`). All of this together is
`Engine.names_withModule`.
-/

namespace LexGen

open Text (Unbroken)

/-! ## Letters and numbers -/

namespace CharSet

theorem ordered_letter : letter.Ordered := ordered_unions (by decide +kernel)

theorem ordered_number : number.Ordered := ordered_unions (by decide +kernel)

theorem ordered_alphabetic_parts : ∀ s ∈ [letter, letterNumber, otherAlphabetic], s.Ordered :=
  List.forall_mem_cons.2 ⟨ordered_letter, by decide +kernel⟩

theorem contains_alphabetic {c : Char} : alphabetic.contains c = true ↔
    ∃ s ∈ [uppercaseLetter, lowercaseLetter, titlecaseLetter, modifierLetter, otherLetter,
      letterNumber, otherAlphabetic], s.contains c = true := by
  rw [alphabetic, contains_unions ordered_alphabetic_parts, List.exists_mem_cons_iff, letter,
    contains_unions (by decide +kernel)]
  simp [or_assoc]

theorem contains_alphanumeric {c : Char} : alphanumeric.contains c = true ↔
    alphabetic.contains c = true ∨ number.contains c = true :=
  contains_union (ordered_unions ordered_alphabetic_parts) ordered_number c

end CharSet

/-! ## Module names -/

/-- What may stand in a name. -/
def IsNameChar (c : Char) : Prop := CharSet.alphanumeric.contains c = true ∨ c = '_'

theorem isNameChar_of_number {c : Char} (h : CharSet.number.contains c = true) : IsNameChar c :=
  .inl (CharSet.contains_alphanumeric.2 (.inr h))

theorem isNameChar_of_lowercaseLetter {c : Char} (h : CharSet.lowercaseLetter.contains c = true) :
    IsNameChar c :=
  .inl (CharSet.contains_alphanumeric.2 (.inl (CharSet.contains_alphabetic.2 ⟨_, by simp, h⟩)))

/-- The characters that end a name or a line. -/
theorem not_isNameChar : ∀ c ∈ ['\n', '\r', '('], ¬IsNameChar c := by
  have hletters : (['\n', '\r', '('].all fun c => [CharSet.uppercaseLetter,
      CharSet.lowercaseLetter, CharSet.titlecaseLetter, CharSet.modifierLetter,
      CharSet.otherLetter, CharSet.letterNumber, CharSet.otherAlphabetic].all fun s =>
        !s.contains c) = true := by
    decide +kernel
  have hnumbers : (['\n', '\r', '('].all fun c => !CharSet.number.contains c) = true := by
    decide +kernel
  have hlow : '_' ∉ ['\n', '\r', '('] := by decide
  simp only [List.all_eq_true, Bool.not_eq_true'] at hletters hnumbers
  rintro c hc (h | rfl)
  · rcases CharSet.contains_alphanumeric.1 h with h | h
    · obtain ⟨s, hs, hin⟩ := CharSet.contains_alphabetic.1 h
      exact Bool.false_ne_true ((hletters c hc s hs).symm.trans hin)
    · exact Bool.false_ne_true ((hnumbers c hc).symm.trans h)
  · exact hlow hc

theorem identifierChar_of_isNameChar {c : Char} (h : IsNameChar c) : identifierChar c = c := by
  refine if_pos ?_
  simpa [IsNameChar] using h

theorem identifierChar_of_not {c : Char} (h : ¬IsNameChar c) : identifierChar c = '_' := by
  refine if_neg ?_
  simpa [IsNameChar] using h

theorem isNameChar_identifierChar (c : Char) : IsNameChar (identifierChar c) := by
  by_cases h : IsNameChar c
  · rwa [identifierChar_of_isNameChar h]
  · exact .inr (identifierChar_of_not h)

/-- Only low lines are put in. -/
theorem eq_of_identifierChar {c d : Char} (hd : d ≠ '_') (h : identifierChar c = d) : c = d := by
  by_cases hc : IsNameChar c
  · rwa [identifierChar_of_isNameChar hc] at h
  · exact absurd (h.symm.trans (identifierChar_of_not hc)) hd

/-- The characters of a name, before it is looked at as a whole. -/
def nameChars (name : String) : List Char :=
  if name.toList.isEmpty then ['_'] else name.toList.map identifierChar

/-- What gets a low line in front. -/
def Unusable (cs : List Char) : Prop :=
  cs = ['_'] ∨ cs.head?.any Char.isDigit = true ∨ String.ofList cs ∈ keywords

instance : DecidablePred Unusable := fun _ => inferInstanceAs (Decidable (_ ∨ _ ∨ _))

theorem toList_identifier (name : String) : (identifier name).toList =
    if Unusable (nameChars name) then '_' :: nameChars name else nameChars name := by
  have hchars : (if (name.toList.map identifierChar).isEmpty then ['_']
      else name.toList.map identifierChar) = nameChars name := by
    rw [nameChars, List.isEmpty_map]
  simp only [identifier, hchars, Bool.or_eq_true, decide_eq_true_eq, List.contains_iff_mem,
    or_assoc]
  rw [apply_ite String.toList, String.toList_ofList, String.toList_ofList]
  rfl

theorem nameChars_ne_nil (name : String) : nameChars name ≠ [] := by
  rw [nameChars]
  split_ifs with h
  · exact List.cons_ne_nil _ _
  · simpa using h

theorem isNameChar_of_mem_nameChars {name : String} {c : Char} (h : c ∈ nameChars name) :
    IsNameChar c := by
  rw [nameChars] at h
  split_ifs at h
  · exact .inr (List.mem_singleton.1 h)
  · obtain ⟨d, -, rfl⟩ := List.mem_map.1 h
    exact isNameChar_identifierChar d

/-- The text begins with a character of the set. -/
def StartsWith (p : Char → Bool) (s : String) : Prop := s.toList.head?.any p = true

instance (p : Char → Bool) : DecidablePred (StartsWith p) := fun _ =>
  inferInstanceAs (Decidable (_ = true))

/-- A name of the written language. -/
structure Usable (s : String) : Prop where
  ne_empty : s ≠ ""
  isNameChar : ∀ c ∈ s.toList, IsNameChar c
  not_startsWith_digit : ¬StartsWith Char.isDigit s
  ne_lowLine : s ≠ "_"
  not_keyword : s ∉ keywords

theorem not_keyword_of_lowLine {cs : List Char} : String.ofList ('_' :: cs) ∉ keywords := by
  have hhead : ∀ k ∈ keywords, k.toList.head? ≠ some '_' := by decide +kernel
  intro hmem
  exact hhead _ hmem (by rw [String.toList_ofList]; rfl)

theorem usable_identifier (name : String) : Usable (identifier name) := by
  have hchars := toList_identifier name
  have hne := nameChars_ne_nil name
  split_ifs at hchars with hcase
  · have hname : identifier name = String.ofList ('_' :: nameChars name) := by
      rw [← hchars, String.ofList_toList]
    refine ⟨?_, ?_, ?_, ?_, hname ▸ not_keyword_of_lowLine⟩
    · rintro hempty
      simp [hempty] at hchars
    · rw [hchars]
      exact List.forall_mem_cons.2 ⟨.inr rfl, fun c => isNameChar_of_mem_nameChars⟩
    · rw [StartsWith, hchars]
      exact Bool.false_ne_true
    · rintro hlow
      rw [hlow] at hchars
      exact hne (List.tail_eq_of_cons_eq hchars).symm
  · have hname : identifier name = String.ofList (nameChars name) := by
      rw [← hchars, String.ofList_toList]
    obtain ⟨hlow, hdigit, hkeyword⟩ := not_or.1 hcase |>.imp_right not_or.1
    refine ⟨?_, ?_, ?_, ?_, hname ▸ hkeyword⟩
    · rintro hempty
      exact hne (by rw [← hchars, hempty]; rfl)
    · rw [hchars]
      exact fun c => isNameChar_of_mem_nameChars
    · rwa [StartsWith, hchars]
    · rintro hempty
      exact hlow (by rw [← hchars, hempty]; rfl)

theorem number_lowLine : CharSet.number.contains '_' = false := by decide +kernel

theorem number_identifierChar (c : Char) :
    CharSet.number.contains (identifierChar c) = CharSet.number.contains c := by
  by_cases hc : IsNameChar c
  · rw [identifierChar_of_isNameChar hc]
  · have hnot : ¬CharSet.number.contains c = true :=
      fun h => hc (isNameChar_of_number h)
    rw [identifierChar_of_not hc, number_lowLine, Bool.eq_false_iff.2 hnot]

theorem not_startsWith_of_mem_keywords : ∀ k ∈ keywords, ¬StartsWith CharSet.number.contains k := by
  decide +kernel

/-- Numbers other than the ASCII digits stay in front. -/
theorem startsWith_identifier (name : String) :
    StartsWith CharSet.number.contains (identifier name) ↔
      StartsWith (fun c => CharSet.number.contains c && !c.isDigit) name := by
  rw [StartsWith, StartsWith, toList_identifier]
  rcases hn : name.toList with _ | ⟨c, cs⟩
  · have hlows : nameChars name = ['_'] := by rw [nameChars, hn]; rfl
    rw [if_pos (.inl hlows)]
    simp [number_lowLine]
  have hmap : nameChars name = identifierChar c :: cs.map identifierChar := by
    rw [nameChars, hn]
    rfl
  have hnumber := number_identifierChar c
  rw [hmap]
  split_ifs with hcase
  · have hdigit : CharSet.number.contains c = true → c.isDigit = true := by
      intro hc
      rw [identifierChar_of_isNameChar (isNameChar_of_number hc)] at hcase
      rcases hcase with h | h | h
      · rw [List.head_eq_of_cons_eq h, number_lowLine] at hc
        exact absurd hc Bool.false_ne_true
      · exact h
      · refine absurd ?_ (not_startsWith_of_mem_keywords _ h)
        rw [StartsWith, String.toList_ofList]
        exact hc
    simpa [number_lowLine] using hdigit
  · have hdigit : CharSet.number.contains c = true → c.isDigit = false := by
      intro hc
      rw [identifierChar_of_isNameChar (isNameChar_of_number hc)] at hcase
      exact Bool.eq_false_iff.2 fun h => hcase (.inr (.inl h))
    simpa [hnumber] using hdigit

/-- A name of the written language stays as it is. -/
theorem identifier_of_usable {s : String} (h : Usable s) : identifier s = s := by
  have hmap : nameChars s = s.toList := by
    have hne : s.toList.isEmpty = false := by
      simpa [String.toList_eq_nil_iff] using h.ne_empty
    have hsame : ∀ c ∈ s.toList, identifierChar c = c :=
      fun c hc => identifierChar_of_isNameChar (h.isNameChar c hc)
    rw [nameChars, hne, if_neg Bool.false_ne_true, List.map_congr_left hsame, List.map_id']
  have husable : ¬Unusable s.toList := by
    rintro (hlow | hdigit | hkeyword)
    · exact h.ne_lowLine (String.toList_inj.1 hlow)
    · exact h.not_startsWith_digit hdigit
    · rw [String.ofList_toList] at hkeyword
      exact h.not_keyword hkeyword
  rw [← String.toList_inj, toList_identifier, hmap, if_neg husable]

/-- A name without low lines has not been changed. -/
theorem eq_of_identifier {name s : String} (hs : '_' ∉ s.toList) (h : identifier name = s) :
    name = s := by
  have hchars := toList_identifier name
  rw [h] at hchars
  split_ifs at hchars with hcase
  · exact absurd (hchars ▸ List.mem_cons_self) hs
  rw [nameChars] at hchars
  split_ifs at hchars
  · exact absurd (hchars ▸ List.mem_singleton_self _) hs
  have hsame : ∀ c ∈ name.toList, identifierChar c = c := by
    intro c hc
    have hmem : identifierChar c ∈ s.toList := hchars ▸ List.mem_map_of_mem hc
    exact (eq_of_identifierChar (ne_of_mem_of_not_mem hmem hs) rfl).symm
  rw [List.map_congr_left hsame, List.map_id'] at hchars
  exact String.toList_inj.1 hchars.symm

theorem identifier_eq_lex_iff {name : String} : identifier name = "lex" ↔ name = "lex" := by
  constructor
  · exact eq_of_identifier (by decide)
  · rintro rfl
    have hletters : "lex".toList.all CharSet.lowercaseLetter.contains = true := by decide +kernel
    refine identifier_of_usable ⟨by decide, fun c hc => ?_, by decide, by decide, by decide⟩
    exact isNameChar_of_lowercaseLetter (List.all_eq_true.1 hletters c hc)

/-! ## Definitions -/

/-- The name of the function whose definition begins with a line. -/
def functionName? (line : List Char) : Option String :=
  (Text.after? "pub fn ".toList (line.dropWhile (· == ' '))).bind fun rest =>
    (Text.cut? '(' rest).map fun p => String.ofList p.1

/-- The names of the functions that a text defines, in their order. -/
def functions (text : String) : List String := (Text.lines text.toList).filterMap functionName?

theorem functions_of_unbroken {l : String} (h : Unbroken l.toList) :
    functions l = (functionName? l.toList).toList := by
  rw [functions, h.lines_eq, List.filterMap_cons, List.filterMap_nil]
  cases functionName? l.toList <;> rfl

theorem filterMap_lines_feed (cs ds : List Char) :
    (Text.lines (cs ++ '\n' :: ds)).filterMap functionName? =
      (Text.lines cs).filterMap functionName? ++ (Text.lines ds).filterMap functionName? := by
  have hfeed : Text.lines ('\n' :: ds) = [] :: Text.lines ds := rfl
  by_cases hreturn : cs.getLast? = some '\r'
  · -- the line feed completes a break, which is one either way
    obtain ⟨bs, rfl⟩ := List.getLast?_eq_some_iff.1 hreturn
    have hboth : Text.lines ('\r' :: '\n' :: ds) = [] :: Text.lines ds := rfl
    have hone : Text.lines ['\r'] = [[], []] := rfl
    have hne := Text.lines_ne_nil bs
    rw [List.append_assoc, List.singleton_append, Text.lines_append (by simp),
      Text.lines_append (by simp), hboth, hone, Text.joinLines_nil_cons hne,
      Text.joinLines_nil_cons hne, List.filterMap_append, List.filterMap_append]
    simp [functionName?, Text.after?]
  · rw [Text.lines_append fun hcut => hreturn hcut.1, hfeed,
      Text.joinLines_nil_cons (Text.lines_ne_nil cs), List.filterMap_append]

theorem functions_append_feed (a b : String) :
    functions (a ++ "\n" ++ b) = functions a ++ functions b := by
  rw [functions, String.append_assoc, String.toList_append, String.toList_append]
  exact filterMap_lines_feed a.toList b.toList

theorem functions_unlines_append (text : String) : ∀ ls : List String,
    functions (unlines ls ++ text) = ls.flatMap functions ++ functions text
  | [] => by rw [unlines_nil, String.empty_append]; rfl
  | l :: ls => by
    rw [unlines_cons, String.append_assoc, functions_append_feed, functions_unlines_append text ls,
      List.flatMap_cons, List.append_assoc]

theorem functions_empty : functions "" = [] := by decide

theorem functions_unlines (ls : List String) : functions (unlines ls) = ls.flatMap functions := by
  have h := functions_unlines_append "" ls
  rwa [String.append_empty, functions_empty, List.append_nil] at h

theorem filterMap_lines_space (cs : List Char) :
    (Text.lines (' ' :: cs)).filterMap functionName? = (Text.lines cs).filterMap functionName? := by
  rw [Text.lines_cons (by simp), if_neg (by decide)]
  rcases hl : Text.lines cs with _ | ⟨l, ls⟩
  · exact absurd hl (Text.lines_ne_nil cs)
  · rfl

theorem functions_indentation (l : String) : functions (indentation ++ l) = functions l := by
  rw [functions, functions, String.toList_append]
  show (Text.lines (' ' :: ' ' :: ' ' :: ' ' :: l.toList)).filterMap functionName? = _
  simp only [filterMap_lines_space]

theorem flatMap_indent (ls : List String) :
    (indent ls).flatMap functions = ls.flatMap functions := by
  rw [indent, List.flatMap_map]
  exact List.flatMap_congr fun l _ => functions_indentation l

/-! ## The tables -/

theorem functions_ruleLine (rule : ℕ × String × String) : functions (ruleLine rule) = [] := by
  rw [functions_of_unbroken (unbroken_ruleLine rule)]
  simp only [ruleLine, String.append_assoc]
  rw [String.toList_append]
  rfl

theorem functions_conditionLine (row : String × Bool × List ℕ) :
    functions (conditionLine row) = [] := by
  rw [functions_of_unbroken (unbroken_conditionLine row)]
  simp only [conditionLine, String.append_assoc]
  rw [String.toList_append]
  rfl

theorem functions_flagLines (f : ScanFlags) : (flagLines f).flatMap functions = [] := by
  rcases f with ⟨ranges, flex, backtracking, caseless⟩
  cases ranges <;> cases flex <;> cases backtracking <;> cases caseless <;> decide +kernel

theorem flatMap_eq_nil_of_map {α : Type} {line : α → String} (h : ∀ x, functions (line x) = [])
    (xs : List α) : (xs.map line).flatMap functions = [] := by
  rw [List.flatMap_map, List.flatMap_eq_nil_iff]
  exact fun x _ => h x

/-- The text of lines with a margin, where the first one and the last one are told apart. -/
theorem intercalate_margin (margin k : String) : ∀ (l : String) (ms : List String),
    String.intercalate ("\n" ++ margin) (l :: (ms ++ [k])) =
      unlines (l :: ms.map (margin ++ ·)) ++ (margin ++ k)
  | l, [] => by
    rw [List.nil_append, String.intercalate_cons_cons, String.intercalate_singleton, List.map_nil,
      unlines_cons, unlines_nil]
    simp only [String.append_assoc, String.empty_append]
  | l, m :: ms => by
    rw [List.cons_append, String.intercalate_cons_cons, intercalate_margin margin k m ms,
      List.map_cons, unlines_cons, unlines_cons, unlines_cons]
    simp only [String.append_assoc]

namespace EngineData

theorem exists_lines (d : EngineData) : ∃ ms : List String,
    d.lines = "EngineData \x7b" :: (ms ++ ["\x7d"]) ∧ ms.flatMap functions = [] := by
  refine ⟨indent _, rfl, ?_⟩
  simp only [List.flatMap_append, flatMap_indent, flatMap_eq_nil_of_map functions_ruleLine,
    flatMap_eq_nil_of_map functions_conditionLine, functions_flagLines]
  decide +kernel

/-- The tables define no function, whatever they say. -/
theorem functions_expression (d : EngineData) (front margin back : String)
    (hfront : functions (front ++ "EngineData \x7b") = [])
    (hmargin : margin = "" ∨ margin = indentation)
    (hback : functions (margin ++ "\x7d" ++ back) = []) :
    functions (front ++ d.expression margin ++ back) = [] := by
  obtain ⟨ms, hlines, hms⟩ := d.exists_lines
  have hwide : (ms.map (margin ++ ·)).flatMap functions = [] := by
    rcases hmargin with rfl | rfl
    · simpa using hms
    · exact (flatMap_indent ms).trans hms
  have htext : front ++ d.expression margin ++ back =
      unlines ((front ++ "EngineData \x7b") :: ms.map (margin ++ ·)) ++
        (margin ++ "\x7d" ++ back) := by
    rw [expression, hlines, intercalate_margin, unlines_cons, unlines_cons]
    simp only [String.append_assoc]
  rw [htext, functions_unlines_append, List.flatMap_cons, hfront, hwide, hback]
  rfl

end EngineData

/-! ## The wrappings -/

theorem isBreak_of_isNameChar {c : Char} (h : IsNameChar c) : Text.isBreak c = false := by
  rw [← Bool.not_eq_true, Text.isBreak_iff]
  rintro (rfl | rfl)
  · exact not_isNameChar _ (by decide) h
  · exact not_isNameChar _ (by decide) h

theorem unbroken_identifier (name : String) : Unbroken (identifier name).toList :=
  fun c hc => isBreak_of_isNameChar ((usable_identifier name).isNameChar c hc)

theorem isBreak_ofNat {n : ℕ} (hn : 14 ≤ n) : Text.isBreak (Char.ofNat n) = false := by
  have hcode : (Char.ofNat n).toNat = if n.isValidChar then n else 0 := by
    by_cases hvalid : n.isValidChar
    · rw [Char.ofNat, dif_pos hvalid, if_pos hvalid]
      rfl
    · rw [Char.ofNat, dif_neg hvalid, if_neg hvalid]
      rfl
  have hother {c : Char} (hc : c.toNat < 14) (hpos : 0 < c.toNat) : Char.ofNat n ≠ c := by
    rintro rfl
    rw [hcode] at hc hpos
    split_ifs at hc hpos <;> omega
  rw [← Bool.not_eq_true, Text.isBreak_iff, not_or]
  exact ⟨hother (by decide) (by decide), hother (by decide) (by decide)⟩

/-- An uppercase form is no break, unless the character is one. -/
theorem unbroken_uppercase {cs : List Char} (h : Unbroken cs) : Unbroken (Text.uppercase cs) := by
  have hexpansions : ∀ p ∈ Text.uppercaseExpansions, Unbroken (p.2.map Char.ofNat) := by
    decide +kernel
  have hruns : ∀ r ∈ Text.uppercaseRuns, 14 ≤ r.image := by decide +kernel
  intro d hd
  obtain ⟨c, hc, hd⟩ := List.mem_flatMap.1 hd
  rw [Text.uppercaseChar] at hd
  split at hd
  · next ns hlookup =>
    obtain ⟨ps, qs, hsplit, -⟩ := List.lookup_eq_some_iff.1 hlookup
    exact hexpansions (c.toNat, ns) (by simp [hsplit]) d hd
  rw [List.mem_singleton] at hd
  rcases hrun : Text.uppercaseRuns.findSome? (·.image? c.toNat) with _ | n
  · rw [hd, hrun, Option.getD_none, Char.ofNat_toNat]
    exact h c hc
  · obtain ⟨r, hr, himage⟩ := List.exists_of_findSome?_eq_some hrun
    rw [CaseRun.image?] at himage
    split_ifs at himage
    rw [hd, hrun, Option.getD_some, ← Option.some.inj himage]
    exact isBreak_ofNat ((hruns r hr).trans (Nat.le_add_right _ _))

namespace Wrapping

/-- The functions that a wrapping defines. -/
def functions (w : Wrapping) (moduleName : String) : List String :=
  match w with
  | .bare | .named => []
  | .module => ["lexer", "lex"]
  | .factory => [identifier moduleName, "lex"]

end Wrapping

theorem cut?_append_cons {c : Char} (b : List Char) : ∀ {a : List Char}, c ∉ a →
    Text.cut? c (a ++ c :: b) = some (a, b)
  | [], _ => by rw [List.nil_append, Text.cut?, if_pos rfl]
  | d :: ds, h => by
    rw [List.mem_cons, not_or] at h
    rw [List.cons_append, Text.cut?, if_neg (Ne.symm h.1), cut?_append_cons b h.2]
    rfl

section Lines

variable (name : String)

theorem functions_moduleLine : functions ("pub mod " ++ identifier name ++ " \x7b") = [] := by
  have hline : Unbroken ("pub mod " ++ identifier name ++ " \x7b").toList := by
    simp only [String.toList_append, Text.unbroken_append, unbroken_identifier, and_true]
    decide
  rw [functions_of_unbroken hline, String.append_assoc, String.toList_append]
  rfl

theorem functions_constantLine : functions ("pub static " ++
    String.ofList (Text.uppercase (identifier name).toList) ++ ": EngineData<'static> = " ++
      "EngineData \x7b") = [] := by
  have hupper := unbroken_uppercase (unbroken_identifier name)
  have hline : Unbroken ("pub static " ++
      String.ofList (Text.uppercase (identifier name).toList) ++ ": EngineData<'static> = " ++
        "EngineData \x7b").toList := by
    simp only [String.toList_append, String.toList_ofList, Text.unbroken_append, hupper, and_true]
    decide
  rw [functions_of_unbroken hline, String.append_assoc, String.append_assoc, String.toList_append]
  rfl

theorem functions_callLine : functions ("    let engine = " ++ identifier name ++ "()?;") = [] := by
  have hline : Unbroken ("    let engine = " ++ identifier name ++ "()?;").toList := by
    simp only [String.toList_append, Text.unbroken_append, unbroken_identifier, and_true]
    decide
  rw [functions_of_unbroken hline, String.append_assoc, String.toList_append]
  rfl

theorem functions_constructorLine :
    functions ("pub fn " ++ identifier name ++ "() -> scanlex::Result<CompiledEngine> \x7b") =
      [identifier name] := by
  have hparen : '(' ∉ (identifier name).toList :=
    fun hmem => not_isNameChar _ (by decide) ((usable_identifier name).isNameChar _ hmem)
  have hline : Unbroken
      ("pub fn " ++ identifier name ++ "() -> scanlex::Result<CompiledEngine> \x7b").toList := by
    simp only [String.toList_append, Text.unbroken_append, unbroken_identifier, and_true]
    decide
  have hname : functionName?
      ("pub fn " ++ identifier name ++ "() -> scanlex::Result<CompiledEngine> \x7b").toList =
        some (identifier name) := by
    rw [String.toList_append, String.toList_append, List.append_assoc]
    show (Text.cut? '(' ((identifier name).toList ++ '(' :: _)).map _ = _
    rw [cut?_append_cons _ hparen]
    exact congrArg some String.ofList_toList
  rw [functions_of_unbroken hline, hname]
  rfl

theorem flatMap_entryPoint (constructor : String)
    (h : functions ("    let engine = " ++ constructor ++ "()?;") = []) :
    (entryPoint constructor).flatMap functions = ["lex"] := by
  have hlines : entryPoint constructor = (entryPoint "").take 1 ++
      ("    let engine = " ++ constructor ++ "()?;") :: (entryPoint "").drop 2 := rfl
  rw [hlines, List.flatMap_append, List.flatMap_cons, h]
  decide +kernel

end Lines

/-- No two functions have one name, unless the constructor is called like the entry point. -/
theorem Wrapping.nodup_functions_iff (w : Wrapping) (name : String) :
    (w.functions name).Nodup ↔ ¬(w = .factory ∧ name = "lex") := by
  cases w <;> simp [functions, identifier_eq_lex_iff]

theorem Wrapping.flatMap_lines (w : Wrapping) (name : String) (d : EngineData) :
    (w.lines name d).flatMap LexGen.functions = w.functions name := by
  cases w with
  | bare =>
    have htable := d.functions_expression "" "" "" (by decide) (.inl rfl) (by decide)
    rw [String.empty_append, String.append_empty] at htable
    rw [lines, List.flatMap_cons, htable]
    rfl
  | named =>
    have htable := d.functions_expression _ "" ";" (functions_constantLine name) (.inl rfl)
      (by decide)
    simp only [lines, functions, List.flatMap_cons, htable]
    decide +kernel
  | module =>
    have htable := d.functions_expression "    pub static ENGINE: EngineData<'static> = "
      indentation ";" (by decide) (.inr rfl) (by decide)
    simp only [lines, functions, List.flatMap_append, List.flatMap_cons, htable, functions_moduleLine,
      flatMap_indent, flatMap_entryPoint "lexer" (by decide)]
    decide +kernel
  | factory =>
    have htable := d.functions_expression "    static ENGINE: EngineData<'static> = "
      indentation ";" (by decide) (.inr rfl) (by decide)
    simp only [lines, functions, List.flatMap_append, List.flatMap_cons, htable,
      functions_constructorLine, flatMap_entryPoint _ (functions_callLine name)]
    rfl

namespace Engine

theorem functions_source (e : Engine) :
    functions e.source = e.wrapping.functions e.moduleName ++ functions e.epilogue := by
  have hheader : header.flatMap functions = [] := by decide +kernel
  rw [source, ← unlines, functions_unlines, sourceLines, List.flatMap_append, List.flatMap_append,
    hheader, e.wrapping.flatMap_lines, List.nil_append]
  split_ifs with h
  · rw [String.isEmpty_iff.1 h, functions_empty]
    rfl
  · rw [List.flatMap_cons, List.flatMap_singleton, functions_empty, List.nil_append]

/-- The name that a module name becomes is one of the written language. It begins with a number only
if the module name does, and not with an ASCII digit. A source defines the functions of its wrapping
and those of the epilogue; the wrapping defines each once, unless a factory is called `lex`. -/
theorem names_withModule (e : Engine) (name epilogue : String) :
    Usable (identifier name) ∧
    (StartsWith CharSet.number.contains (identifier name) ↔
      StartsWith (fun c => CharSet.number.contains c && !c.isDigit) name) ∧
    ∀ w : Wrapping,
      functions (e.withModule w name epilogue).source = w.functions name ++ functions epilogue ∧
      ((w.functions name).Nodup ↔ ¬(w = .factory ∧ name = "lex")) :=
  ⟨usable_identifier name, startsWith_identifier name, fun w =>
    ⟨(e.withModule w name epilogue).functions_source, w.nodup_functions_iff name⟩⟩

/-- One rule, written out as a factory with the name of the entry point. -/
def lexFactory : RuleSet where
  rules := [{ pattern := .text "a", action := "" }]
  options := { wrapping := .factory, moduleName := some "lex" }

/-- A number that is no ASCII digit stays in front, and a constructor and an entry point have one
name. -/
theorem names_of_lexFactory : CharSet.number.contains '²' = true ∧ identifier "²x" = "²x" ∧
    ∃ e, lexFactory.compile none = .ok e ∧ e.wrapping = .factory ∧ e.epilogue = "" ∧
      functions e.source = ["lex", "lex"] := by
  have hnumber : CharSet.number.contains '²' = true := by decide +kernel
  have hletter : CharSet.lowercaseLetter.contains 'x' = true := by decide +kernel
  have husable : Usable "²x" := by
    refine ⟨by decide, ?_, by decide, by decide, by decide⟩
    rintro c (_ | ⟨_, _ | ⟨_, ⟨⟩⟩⟩)
    · exact isNameChar_of_number hnumber
    · exact isNameChar_of_lowercaseLetter hletter
  refine ⟨hnumber, identifier_of_usable husable, ?_⟩
  generalize hc : lexFactory.compile none = r
  have hfactory : (r.toOption.map fun e => (e.wrapping, e.moduleName, e.epilogue)) =
      some (.factory, "lex", "") := by
    rw [← hc]
    decide +kernel
  rcases r with error | e
  · cases hfactory
  obtain ⟨hw, hrest⟩ := Prod.mk.inj (Option.some.inj hfactory)
  obtain ⟨hname, hepilogue⟩ := Prod.mk.inj hrest
  refine ⟨e, rfl, hw, hepilogue, ?_⟩
  rw [functions_source, hw, hname, hepilogue, Wrapping.functions, identifier_eq_lex_iff.2 rfl]
  rfl

end Engine
end LexGen
