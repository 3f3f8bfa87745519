import LexGen.Proofs.Text.Unbroken
import LexGen.Source

/-!
# The tables in each wrapping

The source of an engine is what its wrapping has before the tables, the expression of the tables,
what the wrapping has after them, and the epilogue. The expression is the same in all wrappings, but
for a margin that two of them have after each of its line breaks (`Engine.source_withModule`).

The line breaks of the expression are those between its lines, since no line has one
(`EngineData.allUnbroken_lines`): patterns, actions and conditions stand in literals.
-/

namespace LexGen

open Text (Unbroken unbroken_append)

/-! ## Lines of the tables -/

theorem unbroken_literalString (s : String) : Unbroken (Text.literalString s).toList := by
  rw [Text.literalString, String.toList_ofList]
  exact Text.unbroken_literal s.toList

theorem unbroken_repr (n : ℕ) : Unbroken (Nat.repr n).toList := by
  rw [Nat.toList_repr]
  exact Text.unbroken_toDigits (by decide) (by decide) n

theorem unbroken_boolText (b : Bool) : Unbroken (boolText b).toList := by
  cases b <;> decide

theorem unbroken_numbers (ns : List ℕ) :
    Unbroken (String.intercalate ", " (ns.map Nat.repr)).toList := by
  rw [String.toList_intercalate, List.map_map]
  exact .intercalate (by decide) (List.forall_mem_map.2 fun n _ => unbroken_repr n)

theorem unbroken_ruleLine (rule : ℕ × String × String) : Unbroken (ruleLine rule).toList := by
  simp only [ruleLine, String.toList_append, unbroken_append, unbroken_repr,
    unbroken_literalString, and_true]
  decide

theorem unbroken_conditionLine (row : String × Bool × List ℕ) :
    Unbroken (conditionLine row).toList := by
  simp only [conditionLine, String.toList_append, unbroken_append, unbroken_boolText,
    unbroken_literalString, unbroken_numbers, and_true]
  decide

/-- No line has a line break. -/
def AllUnbroken (ls : List String) : Prop := ∀ l ∈ ls, Unbroken l.toList

instance (ls : List String) : Decidable (AllUnbroken ls) := List.decidableBAll _ ls

theorem allUnbroken_append {ls ms : List String} :
    AllUnbroken (ls ++ ms) ↔ AllUnbroken ls ∧ AllUnbroken ms :=
  List.forall_mem_append

theorem allUnbroken_map {α : Type} {line : α → String} (h : ∀ x, Unbroken (line x).toList)
    (xs : List α) : AllUnbroken (xs.map line) :=
  List.forall_mem_map.2 fun x _ => h x

theorem AllUnbroken.indent {ls : List String} (h : AllUnbroken ls) : AllUnbroken (indent ls) := by
  refine List.forall_mem_map.2 fun l hl => ?_
  rw [String.toList_append, unbroken_append]
  exact ⟨by decide, h l hl⟩

theorem allUnbroken_flagLines (f : ScanFlags) : AllUnbroken (flagLines f) := by
  simp only [AllUnbroken, flagLines, List.forall_mem_cons, String.toList_append, unbroken_append,
    unbroken_boolText, and_true]
  decide

namespace EngineData

theorem allUnbroken_lines (d : EngineData) : AllUnbroken d.lines := by
  have hrules := (allUnbroken_map unbroken_ruleLine d.numberedRules).indent
  have hconditions := (allUnbroken_map unbroken_conditionLine d.conditions).indent
  have hflags := (allUnbroken_flagLines d.flags).indent
  refine allUnbroken_append.2 ⟨allUnbroken_append.2 ⟨by decide, .indent ?_⟩, by decide⟩
  simp only [allUnbroken_append, hrules, hconditions, hflags, and_true]
  decide

theorem length_lines (d : EngineData) :
    d.lines.length = d.rules.length + d.conditions.length + 12 := by
  simp only [lines, indent, numberedRules, flagLines, List.length_append, List.length_map,
    List.length_zipIdx, List.length_cons, List.length_nil]
  omega

theorem toList_expression (margin : String) (d : EngineData) : (d.expression margin).toList =
    ('\n' :: margin.toList).intercalate (d.lines.map String.toList) := by
  rw [expression, String.toList_intercalate, String.toList_append]
  rfl

theorem lines_expression (d : EngineData) :
    Text.lines (d.expression "").toList = d.lines.map String.toList := by
  rw [toList_expression]
  exact Text.lines_intercalate (List.cons_ne_nil _ _) (List.forall_mem_map.2 d.allUnbroken_lines)

end EngineData

/-- A text whose lines have a margin, but for the first one. -/
def withMargin (margin text : String) : String :=
  String.ofList (Text.replaceAll ['\n'] ('\n' :: margin.toList) text.toList)

theorem EngineData.withMargin_expression (margin : String) (d : EngineData) :
    withMargin margin (d.expression "") = d.expression margin := by
  have hlines := List.forall_mem_map.2 d.allUnbroken_lines
  rw [← String.toList_inj, withMargin, String.toList_ofList, toList_expression, toList_expression]
  exact Text.replaceAll_intercalate _ hlines

/-! ## Around the tables -/

/-- The text of complete lines. -/
def unlines (lines : List String) : String := String.join (lines.map (· ++ "\n"))

namespace Wrapping

/-- What stands before the tables. -/
def opening (w : Wrapping) (moduleName : String) : String :=
  let name := identifier moduleName
  let upper := String.ofList (Text.uppercase name.toList)
  match w with
  | .bare => unlines header
  | .named =>
    unlines (header ++ ["use scanlex::\x7bEngineData, ScanOptions\x7d;", ""]) ++
      "pub static " ++ upper ++ ": EngineData<'static> = "
  | .module =>
    unlines (header ++ ["pub mod " ++ name ++ " \x7b",
      "    use scanlex::\x7bCompiledEngine, EngineData, Lexer, ScanOptions, Token\x7d;", ""]) ++
      "    pub static ENGINE: EngineData<'static> = "
  | .factory =>
    unlines (header ++ ["use scanlex::\x7bCompiledEngine, EngineData, Lexer, ScanOptions, Token\x7d;",
      "", "pub fn " ++ name ++ "() -> scanlex::Result<CompiledEngine> \x7b"]) ++
      "    static ENGINE: EngineData<'static> = "

/-- What stands after the tables, up to the epilogue. -/
def closing (w : Wrapping) (moduleName : String) : String :=
  unlines <| match w with
    | .bare => [""]
    | .named => [";"]
    | .module =>
      [";", "",
        "    pub fn lexer() -> scanlex::Result<CompiledEngine> \x7b",
        "        CompiledEngine::try_from(&ENGINE)",
        "    \x7d",
        ""] ++
      indent (entryPoint "lexer") ++ ["\x7d"]
    | .factory =>
      [";", "    CompiledEngine::try_from(&ENGINE)", "\x7d", ""] ++
      entryPoint (identifier moduleName)

/-- The tables as they stand in a wrapping. -/
def tables (w : Wrapping) (expression : String) : String :=
  match w with
  | .bare | .named => expression
  | .module | .factory => withMargin indentation expression

end Wrapping

/-- The epilogue, with an empty line before it. -/
def epilogueText (epilogue : String) : String :=
  if epilogue.isEmpty then "" else "\n" ++ epilogue ++ "\n"

theorem unlines_nil : unlines [] = "" := rfl

theorem unlines_cons (l : String) (ls : List String) :
    unlines (l :: ls) = l ++ "\n" ++ unlines ls := by
  rw [unlines, List.map_cons, String.join_cons]
  rfl

theorem unlines_append (ls ms : List String) : unlines (ls ++ ms) = unlines ls ++ unlines ms := by
  rw [unlines, List.map_append, String.join_append]
  rfl

theorem exists_of_unlines {ls : List String} (hne : ls ≠ []) :
    ∃ text, unlines ls = text ++ "\n" := by
  refine ⟨unlines ls.dropLast ++ ls.getLast hne, ?_⟩
  conv_lhs => rw [← List.dropLast_append_getLast hne]
  rw [unlines_append, unlines_cons, unlines_nil, String.append_empty, String.append_assoc]

namespace Wrapping

theorem unlines_lines (w : Wrapping) (name : String) (d : EngineData) :
    unlines header ++ unlines (w.lines name d) =
      w.opening name ++ w.tables (d.expression "") ++ w.closing name := by
  cases w <;> simp only [lines, opening, closing, tables, d.withMargin_expression,
    unlines_append, unlines_cons, unlines_nil, String.append_assoc, String.append_empty,
    String.empty_append, List.cons_append, List.nil_append]

theorem exists_of_opening {w : Wrapping} (h : w ≠ .bare) (name : String) :
    ∃ front, w.opening name = front ++ ": EngineData<'static> = " := by
  have hmodule : "    pub static ENGINE: EngineData<'static> = " =
      "    pub static ENGINE" ++ ": EngineData<'static> = " := rfl
  have hfactory : "    static ENGINE: EngineData<'static> = " =
      "    static ENGINE" ++ ": EngineData<'static> = " := rfl
  cases w with
  | bare => exact absurd rfl h
  | named => exact ⟨_, rfl⟩
  | module =>
    rw [opening, hmodule, ← String.append_assoc]
    exact ⟨_, rfl⟩
  | factory =>
    rw [opening, hfactory, ← String.append_assoc]
    exact ⟨_, rfl⟩

theorem exists_of_closing {w : Wrapping} (h : w ≠ .bare) (name : String) :
    ∃ back, w.closing name = ";\n" ++ back := by
  cases w with
  | bare => exact absurd rfl h
  | _ => exact ⟨_, unlines_cons _ _⟩

theorem exists_of_closing_end (w : Wrapping) (name : String) :
    ∃ text, w.closing name = text ++ "\n" := by
  refine exists_of_unlines ?_
  cases w <;> simp

end Wrapping

namespace Engine

theorem source_eq (e : Engine) : e.source =
    e.wrapping.opening e.moduleName ++ e.wrapping.tables (e.data.expression "") ++
      e.wrapping.closing e.moduleName ++ epilogueText e.epilogue := by
  rw [← e.wrapping.unlines_lines, source, sourceLines, ← unlines, unlines_append, unlines_append,
    epilogueText]
  split_ifs
  · rfl
  · simp only [unlines_cons, unlines_nil, String.append_empty, String.empty_append,
      String.append_assoc]

/-- All wrappings write the same tables, and the lines of the tables do not depend on what patterns,
actions and conditions say. After the tables and after the epilogue a line ends, and between them
there is an empty line. -/
theorem source_withModule (e : Engine) (name epilogue : String) :
    (∀ w : Wrapping, (e.withModule w name epilogue).source =
      w.opening name ++ w.tables (e.data.expression "") ++ w.closing name ++
        epilogueText epilogue) ∧
    (∀ w : Wrapping, w ≠ .bare → (∃ front, w.opening name = front ++ ": EngineData<'static> = ") ∧
      ∃ back, w.closing name = ";\n" ++ back) ∧
    Wrapping.opening .bare name = "// Generated by scanlex 0.1.0\n\n" ∧
    Wrapping.closing .bare name = "\n" ∧
    (∀ w : Wrapping, ∃ text, w.closing name = text ++ "\n") ∧
    AllUnbroken e.data.lines ∧
    Text.lines (e.data.expression "").toList = e.data.lines.map String.toList ∧
    e.data.lines.length = e.data.rules.length + e.data.conditions.length + 12 :=
  ⟨fun w => (e.withModule w name epilogue).source_eq,
    fun _ hw => ⟨Wrapping.exists_of_opening hw name, Wrapping.exists_of_closing hw name⟩, rfl, rfl,
    fun w => w.exists_of_closing_end name, e.data.allUnbroken_lines, e.data.lines_expression,
    e.data.length_lines⟩

end Engine
end LexGen
