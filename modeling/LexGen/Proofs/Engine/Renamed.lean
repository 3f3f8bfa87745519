import LexGen.Proofs.Engine.Restore
import LexGen.Proofs.Scanner.Step

/-!
# Token tables rename tokens

A token table is read when actions are read, and all it does is rename: an action is read with the
table as it is read without it, but for the tokens that it gives (`Action.read_some`). So compiling
with a table succeeds and fails as compiling without it, and the engine that it gives is the other
one renamed (`RuleSet.compile_some`).

An engine scans under any names alike. Steps (`Engine.nextMatch_renamed`), searches for a token and
token streams give what they give without the table, renamed, and lead to the same sessions, as long
as no handler hands in tokens of its own (`RuleSet.run_renamed`).
-/

namespace LexGen

/-! ## Renaming -/

namespace TokenTable

/-- The tables that are put together from codes and symbols. -/
inductive Declared : TokenTable → Prop
  | ofCodes (codes : List (UInt64 × String)) : Declared (ofCodes codes)
  | code {t : TokenTable} (name : String) (code : UInt64) :
    Declared t → Declared (t.declareCode name code)
  | symbol {t : TokenTable} (name symbol : String) :
    Declared t → Declared (t.declareSymbol name symbol)

theorem declared_foldl : ∀ (codes : List (UInt64 × String)) {t : TokenTable},
    (∀ name, t.find? name ≠ some .eof) →
      ∀ name, (codes.foldl (fun t c => t.declareCode c.2 c.1) t).find? name ≠ some .eof
  | [], _, h => h
  | c :: codes, t, h => by
    refine declared_foldl codes fun name => ?_
    unfold declareCode
    rw [Table.find?_insert]
    split_ifs
    · simp
    · exact h name

/-- No name stands for the end of the input. -/
theorem Declared.find?_ne_eof {t : TokenTable} (h : t.Declared) :
    ∀ name, t.find? name ≠ some .eof := by
  induction h with
  | ofCodes codes => exact declared_foldl codes (by simp)
  | code name code _ ih =>
    intro other
    unfold declareCode
    rw [Table.find?_insert]
    split_ifs
    · simp
    · exact ih other
  | symbol name symbol _ ih =>
    intro other
    unfold declareSymbol
    rw [Table.find?_insert]
    split_ifs
    · simp
    · exact ih other

end TokenTable

/-- What a token becomes where names stand for what a table says. -/
def Token.renamed (t : TokenTable) : Token → Token
  | .name s => t.resolve s
  | token => token

theorem Token.renamed_eq_eof_iff {t : TokenTable} (h : t.Declared) {token : Token} :
    token.renamed t = .eof ↔ token = .eof := by
  rcases token with _ | n | s
  · simp [renamed]
  · simp [renamed]
  · rcases hs : t.find? s with _ | token
    · simp [renamed, TokenTable.resolve, hs]
    · have hne := h.find?_ne_eof s
      simp_all [renamed, TokenTable.resolve]

def Command.renamed (t : TokenTable) : Command → Command
  | .give token => .give (token.renamed t)
  | c => c

def Action.renamed (t : TokenTable) (a : Action) : Action := ⟨a.commands.map (.renamed t)⟩

/-- The engine whose actions give what a table says. -/
def Engine.renamed (t : TokenTable) (e : Engine) : Engine :=
  { e with actions := e.actions.map (.renamed t) }

/-- The same token, perhaps, under the names of a table. -/
abbrev renamedStep (t : TokenTable) (r : Except Error (Option Token)) : Except Error (Option Token) :=
  r.map (Option.map (.renamed t))

def Attempt.renamed (t : TokenTable) : Attempt → Attempt
  | token given => token (given.renamed t)
  | a => a

def Match.renamed (t : TokenTable) (m : Match) : Match := { m with token := m.token.renamed t }

def Answer.renamed (t : TokenTable) : Answer → Answer
  | step r => step (renamedStep t r)
  | token r => token (r.map (.renamed t))
  | items found => items (found.map (Except.map (.renamed t)))
  | a => a

/-! ## Reading actions -/

theorem readReturn_some (t : TokenTable) (value : List Char) :
    readReturn (some t) value = (readReturn none value).map (Command.renamed t) := by
  unfold readReturn
  split_ifs
  · rfl
  · rfl
  · rcases Text.Quoted.decode? value with _ | name
    · rcases Text.number? value with _ | n <;> rfl
    · rfl

/-- What is read as a call gives no token. -/
theorem readCall_renamed (t : TokenTable) (name args : List Char) :
    (readCall name args).map (Command.renamed t) = readCall name args := by
  have hplain (c : Command) (hc : c.renamed t = c) :
      (if args.isEmpty then Except.ok c else .error "unexpected arguments").map (Command.renamed t) =
        if args.isEmpty then Except.ok c else .error "unexpected arguments" := by
    split_ifs
    · exact congrArg Except.ok hc
    · rfl
  unfold readCall
  dsimp only
  split
  · rcases Text.Quoted.decode? args with _ | s <;> rfl
  · rcases Text.Quoted.decode? args with _ | s <;> rfl
  · rcases Text.Quoted.decode? args with _ | s <;> rfl
  · rcases Text.number? args with _ | n <;> rfl
  · exact hplain .pop rfl
  · exact hplain .more rfl
  · exact hplain .reject rfl
  · exact hplain .input rfl
  · rfl

theorem readStatement_some (t : TokenTable) (statement : List Char) :
    readStatement (some t) statement = (readStatement none statement).map (Command.renamed t) := by
  unfold readStatement
  split_ifs with hecho
  · rfl
  · rcases returnValue? statement with _ | value
    · dsimp only
      split_ifs
      · rcases Text.cut? '(' _ with _ | ⟨name, args⟩
        · rfl
        · exact (readCall_renamed t _ _).symm
      · rfl
    · exact readReturn_some t value

theorem readStatements_some (rule : Nat) (t : TokenTable) : ∀ texts : List (List Char),
    readStatements rule (some t) texts =
      (readStatements rule none texts).map (List.map (Command.renamed t))
  | [] => rfl
  | text :: texts => by
    rw [readStatements, readStatements, readStatement_some, readStatements_some rule t texts]
    rcases readStatement none text with reason | c
    · rfl
    · rcases readStatements rule none texts with error | cs <;> rfl

/-- With a table an action is read as it is without it, but for the tokens. -/
theorem Action.read_some (rule : Nat) (text : String) (t : TokenTable) :
    read rule text (some t) = (read rule text none).map (renamed t) := by
  rw [read, read, readStatements_some]
  rcases readStatements rule none (statements (stripWrappers text.toList)) with error | cs <;> rfl

theorem Action.readAll_some (t : TokenTable) : ∀ (n : Nat) (texts : List String),
    readAll (some t) n texts = (readAll none n texts).map (List.map (renamed t))
  | _, [] => rfl
  | n, text :: texts => by
    rw [readAll, readAll, read_some, readAll_some t (n + 1) texts]
    rcases read n text none with error | a
    · rfl
    · rcases readAll none (n + 1) texts with error | as <;> rfl

/-! ## Compiling -/

namespace Engine

theorem unknownTarget?_renamed (conditions : ConditionTable) (t : TokenTable)
    (actions : List Action) :
    unknownTarget? conditions (actions.map (.renamed t)) = unknownTarget? conditions actions := by
  have hcommands : (actions.map (.renamed t)).flatMap Action.commands =
      (actions.flatMap Action.commands).map (.renamed t) := by
    rw [List.flatMap_map, List.map_flatMap]
    rfl
  unfold unknownTarget?
  rw [hcommands, List.findSome?_map]
  congr 1
  funext c
  cases c <;> rfl

theorem assemble_renamed (rules : List CompiledRule) (conditions : ConditionTable)
    (t : TokenTable) (actions : List Action) (flags : ScanFlags) :
    assemble rules conditions (actions.map (.renamed t)) flags =
      (assemble rules conditions actions flags).map (renamed t) := by
  rw [assemble, assemble, unknownTarget?_renamed]
  rcases unknownTarget? conditions actions with _ | name <;> rfl

end Engine

/-- With a table compiling gives what it gives without it, renamed. -/
theorem RuleSet.compile_some (s : RuleSet) (t : TokenTable) :
    s.compile (some t) = (s.compile none).map (Engine.renamed t) := by
  have hread := Action.readAll_some t 0 (s.allRules.map (·.action))
  have hassemble (rules conditions actions) :=
    Engine.assemble_renamed rules conditions t actions s.options.flags
  change _ = List.map (Action.renamed t) <$> Action.readAll none 0 _ at hread
  change ∀ rules conditions actions, _ = Engine.renamed t <$> _ at hassemble
  show _ = Engine.renamed t <$> s.compile none
  unfold compile
  simp only [hread, hassemble, map_bind, bind_map_left, map_pure]
  rfl

/-! ## Actions -/

/-- A session whose context has no handler. -/
def Session.Unhandled (s : Session) : Prop := s.context.handler = none

theorem Session.reject_renamed {s : Session} (h : s.Unhandled) (t : TokenTable) :
    renamedStep t s.reject.1 = s.reject.1 := by
  have hhandler : s.context.handler = none := h
  unfold reject Context.report
  split_ifs
  · rfl
  · simp [hhandler, Except.map]

namespace Action

theorem runCommands_renamed (t : TokenTable) : ∀ {cs : List Command} {s : Session}, s.Unhandled →
    runCommands (cs.map (.renamed t)) s =
      Prod.map (renamedStep t) id (runCommands cs s)
  | [], _, _ => rfl
  | c :: cs, s, h => by
    have hrest {u : Session} (hu : u.Unhandled) : runCommands (cs.map (.renamed t)) u =
      Prod.map (renamedStep t) id (runCommands cs u) := runCommands_renamed t hu
    cases c with
    | give token => rfl
    | skip => rfl
    | reject =>
      have hrename := s.reject_renamed h t
      have hhandler : s.reject.2.Unhandled := (s.handler_reject).trans h
      show runCommands (.reject :: cs.map (.renamed t)) s = _
      rw [runCommands, runCommands]
      rcases hr : s.reject with ⟨error | _ | token, u⟩ <;> rw [hr] at hrename hhandler
      · rfl
      · exact hrest hhandler
      · exact Prod.ext hrename.symm rfl
    | echo => exact hrest h
    | _ => exact hrest h

theorem dispatch_renamed (t : TokenTable) (actions : List Action) (rule : Nat) {s : Session}
    (h : s.Unhandled) : dispatch (actions.map (.renamed t)) rule s =
      Prod.map (renamedStep t) id (dispatch actions rule s) := by
  unfold dispatch
  rw [List.getElem?_map]
  rcases actions[rule]? with _ | a
  · rfl
  · exact runCommands_renamed t h

end Action

/-! ## Steps -/

namespace Engine

variable (t : TokenTable) (e : Engine)

theorem attempt_renamed (m : Candidate) {s : Session} (h : s.Unhandled) :
    (e.renamed t).scanner.attempt m s =
      Prod.map (Except.map (.renamed t)) id (e.scanner.attempt m s) := by
  have hflags : (e.renamed t).scanner.engine.flags = e.scanner.engine.flags := rfl
  have hdispatch : (e.renamed t).scanner.dispatch m.rule (s.mapState (·.commit m.length)) =
      Prod.map (renamedStep t) id (e.scanner.dispatch m.rule (s.mapState (·.commit m.length))) :=
    Action.dispatch_renamed t e.actions m.rule (s := s.mapState (·.commit m.length)) h
  unfold Scanner.attempt
  rw [hflags, hdispatch]
  rcases e.scanner.dispatch m.rule (s.mapState (·.commit m.length)) with ⟨error | _ | token, u⟩
  · rfl
  · show (if u.state.rejected && _ then _ else _) = Prod.map _ id (if _ then _ else _)
    rcases u.state.rejected && e.scanner.engine.flags.backtracking with _ | _ <;> rfl
  · rfl

theorem tryInTurn_renamed : ∀ (rules : List Nat) {s : Session}, s.Unhandled →
    (e.renamed t).scanner.tryInTurn rules s =
      Prod.map (Except.map (Option.map (Option.map (.renamed t)))) id
        (e.scanner.tryInTurn rules s)
  | [], _, _ => rfl
  | rule :: rules, s, h => by
    have hmatch : (e.renamed t).scanner.engine.matchLength? rule s.state.remaining =
      e.scanner.engine.matchLength? rule s.state.remaining := rfl
    rw [Scanner.tryInTurn, Scanner.tryInTurn, hmatch]
    rcases e.scanner.engine.matchLength? rule s.state.remaining with _ | n
    · exact tryInTurn_renamed rules h
    · have hleft : (e.scanner.attempt ⟨rule, n⟩ s).2.Unhandled :=
        (Scanner.handler_attempt e ⟨rule, n⟩ s).trans h
      dsimp only
      rw [attempt_renamed t e _ h]
      rcases ha : e.scanner.attempt ⟨rule, n⟩ s with ⟨error | token | _ | _, u⟩ <;> rw [ha] at hleft
      · rfl
      · rfl
      · rfl
      · exact tryInTurn_renamed rules hleft

theorem unhandled_tryInTurn : ∀ (rules : List Nat) {s : Session}, s.Unhandled →
    (e.scanner.tryInTurn rules s).2.Unhandled
  | [], _, h => h
  | rule :: rules, s, h => by
    rw [Scanner.tryInTurn]
    rcases e.scanner.engine.matchLength? rule s.state.remaining with _ | n
    · exact unhandled_tryInTurn rules h
    · have hleft : (e.scanner.attempt ⟨rule, n⟩ s).2.Unhandled :=
        (Scanner.handler_attempt e ⟨rule, n⟩ s).trans h
      dsimp only
      rcases ha : e.scanner.attempt ⟨rule, n⟩ s with ⟨error | token | _ | _, u⟩ <;> rw [ha] at hleft
      · exact hleft
      · exact hleft
      · exact hleft
      · exact unhandled_tryInTurn rules hleft

theorem noMatch_renamed {s : Session} (h : s.Unhandled) :
    renamedStep t (Scanner.noMatch s).1 = (Scanner.noMatch s).1 := by
  have hhandler : s.context.handler = none := h
  unfold Scanner.noMatch Context.report
  split_ifs
  · rfl
  · simp [hhandler, Except.map]

theorem takeMatch_renamed (m : Candidate) {s : Session} (h : s.Unhandled) :
    (e.renamed t).scanner.takeMatch m s =
      Prod.map (renamedStep t) id (e.scanner.takeMatch m s) := by
  unfold Scanner.takeMatch
  dsimp only
  rw [attempt_renamed t e m (s := ⟨s.state, s.context.trace _⟩) h]
  rcases e.scanner.attempt m _ with ⟨error | token | _ | _, u⟩ <;> rfl

theorem firstMatch?_renamed (text : List Char) :
    ∀ rules : List Nat, (e.renamed t).firstMatch? text rules = e.firstMatch? text rules
  | [] => rfl
  | rule :: rules => by
    rw [firstMatch?, firstMatch?, firstMatch?_renamed text rules]
    rfl

theorem longestMatch?_renamed (text : List Char) :
    ∀ (rules : List Nat) (best : Option Candidate),
      (e.renamed t).longestMatch? text rules best = e.longestMatch? text rules best
  | [], _ => rfl
  | rule :: rules, best => by
    simp only [longestMatch?, longestMatch?_renamed text rules]
    rfl

theorem select?_renamed (text : List Char) (rules : List Nat) :
    (e.renamed t).select? text rules = e.select? text rules := by
  rw [select?, select?, firstMatch?_renamed, longestMatch?_renamed]
  rfl

theorem takeFrom_renamed (rules : List Nat) {s : Session} (h : s.Unhandled) :
    (e.renamed t).scanner.takeFrom rules s =
      Prod.map (renamedStep t) id (e.scanner.takeFrom rules s) := by
  have hflags : (e.renamed t).scanner.engine.flags = e.scanner.engine.flags := rfl
  have hselect : (e.renamed t).scanner.engine.select? s.state.remaining rules =
    e.scanner.engine.select? s.state.remaining rules := select?_renamed t e _ _
  unfold Scanner.takeFrom
  rw [hflags, hselect]
  rcases e.scanner.engine.flags.backtracking with _ | _
  · rcases e.scanner.engine.select? s.state.remaining rules with _ | m
    · exact Prod.ext (noMatch_renamed t h).symm rfl
    · exact takeMatch_renamed t e m h
  · have hleft := unhandled_tryInTurn e rules h
    rw [tryInTurn_renamed t e rules h]
    rcases hr : e.scanner.tryInTurn rules s with ⟨error | _ | result, u⟩ <;> rw [hr] at hleft
    · rfl
    · exact Prod.ext (noMatch_renamed t hleft).symm rfl
    · rfl

/-- A step gives under the names of a table what it gives without it, and leads to the same
session. -/
theorem nextMatch_renamed {s : Session} (h : s.Unhandled) :
    (e.renamed t).scanner.nextMatch s =
      Prod.map (renamedStep t) id (e.scanner.nextMatch s) := by
  have hactive : ∀ name, (e.renamed t).scanner.engine.activeRules name =
    e.scanner.engine.activeRules name := fun _ => rfl
  unfold Scanner.nextMatch
  dsimp only
  rw [hactive]
  split_ifs
  · rfl
  · rcases e.scanner.engine.activeRules _ with error | rules
    · rfl
    · exact takeFrom_renamed t e rules h

/-! ## Searches and streams -/

theorem unhandled_nextMatch {s : Session} (h : s.Unhandled) :
    (e.scanner.nextMatch s).2.Unhandled :=
  (Scanner.handler_nextMatch e s).trans h

theorem lexWithin_renamed : ∀ (n : Nat) {s : Session}, s.Unhandled →
    (e.renamed t).scanner.lexWithin n s =
      (e.scanner.lexWithin n s).map (Prod.map (Except.map (.renamed t)) id)
  | 0, _, _ => rfl
  | n + 1, s, h => by
    have hleft := unhandled_nextMatch e h
    rw [Scanner.lexWithin, Scanner.lexWithin, nextMatch_renamed t e h]
    rcases hn : e.scanner.nextMatch s with ⟨error | _ | token, u⟩ <;> rw [hn] at hleft
    · rfl
    · show (if !u.state.done && u.state.progress == _ then _ else _) =
        Option.map _ (if _ then _ else _)
      rcases !u.state.done && u.state.progress == s.state.progress with _ | _
      · exact lexWithin_renamed n hleft
      · rfl
    · rfl

section Declared

variable {t} (ht : t.Declared)

include ht

theorem next_renamed (n : Nat) {i : TokenStream} (h : i.session.Unhandled) :
    i.next (e.renamed t).scanner n =
      (i.next e.scanner n).map (Prod.map (Option.map (Except.map (.renamed t))) id) := by
  unfold TokenStream.next
  rw [lexWithin_renamed t e n h]
  rcases i.finished with _ | _
  · rcases e.scanner.lexWithin n i.session with _ | ⟨error | _ | code | name, u⟩
    · rfl
    · rfl
    · rfl
    · rfl
    · have hname : (Token.name name).renamed t ≠ .eof := by simp [Token.renamed_eq_eof_iff ht]
      rcases hr : (Token.name name).renamed t with _ | code | symbol
      · exact absurd hr hname
      · simp [hr, Except.map, Match.renamed, Match.ofState]
      · simp [hr, Except.map, Match.renamed, Match.ofState]
  · rfl

theorem take_renamed (n : Nat) : ∀ (count : Nat) {i : TokenStream}, i.session.Unhandled →
    TokenStream.take (e.renamed t).scanner n count i =
      (TokenStream.take e.scanner n count i).map
        (Prod.map (List.map (Except.map (.renamed t))) id)
  | 0, _, _ => rfl
  | count + 1, i, h => by
    rw [TokenStream.take, TokenStream.take, next_renamed e ht n h]
    rcases hi : i.next e.scanner n with _ | ⟨_ | item, j⟩
    · rfl
    · rfl
    · have hleft : j.session.Unhandled :=
        Scanner.kept_next (fun _ hs => unhandled_nextMatch e hs) hi h
      show Option.map _ (TokenStream.take _ n count j) = Option.map _ (Option.map _ _)
      rw [take_renamed n count hleft, Option.map_map, Option.map_map]
      rfl

theorem answer?_renamed (n : Nat) {c : Call} (hc : c.Scans) {s : Session} (h : s.Unhandled) :
    (e.renamed t).scanner.answer? n c s =
      (e.scanner.answer? n c s).map (Prod.map (.renamed t) id) := by
  cases c with
  | nextMatch =>
    rw [Scanner.answer?, Scanner.answer?, nextMatch_renamed t e h]
    rfl
  | lex =>
    rw [Scanner.answer?, Scanner.answer?, lexWithin_renamed t e n h, Option.map_map, Option.map_map]
    rfl
  | tokens count =>
    rw [Scanner.answer?, Scanner.answer?, take_renamed e ht n count h, Option.map_map,
      Option.map_map]
    rfl
  | _ => exact hc.elim

theorem run_renamed (n : Nat) : ∀ {calls : List Call} {s : Session}, (∀ c ∈ calls, c.Scans) →
    s.Unhandled → (e.renamed t).scanner.run n calls s =
      (e.scanner.run n calls s).map (Prod.map (List.map (.renamed t)) id)
  | [], _, _, _ => rfl
  | c :: calls, s, hcalls, h => by
    have hc := hcalls c List.mem_cons_self
    rw [Scanner.run, Scanner.run, answer?_renamed e ht n hc h]
    rcases ha : e.scanner.answer? n c s with _ | ⟨a, u⟩
    · rfl
    · have hleft : u.Unhandled :=
        Scanner.kept_of_scans (fun _ hs => unhandled_nextMatch e hs) hc ha h
      show Option.map _ (Scanner.run _ n calls u) = Option.map _ (Option.map _ _)
      rw [run_renamed n (fun d hd => hcalls d (List.mem_cons_of_mem c hd)) hleft, Option.map_map,
        Option.map_map]
      rfl

end Declared

end Engine

deriving instance DecidableEq for Answer

/-! ## Rule sets -/

namespace RuleSet

/-- Compiling with a token table fails as compiling without it, and where it does not, the engine
scans like the one without it, only that it gives the tokens that the table says. So the end of the
input comes at the same place. -/
theorem run_with_tokens (s : RuleSet) {t : TokenTable} (ht : t.Declared) :
    (∀ error, s.compile (some t) = .error error ↔ s.compile none = .error error) ∧
    ∀ e, s.compile none = .ok e → ∃ f, s.compile (some t) = .ok f ∧
      (∀ token : Token, token.renamed t = .eof ↔ token = .eof) ∧
      ∀ (context : Context), context.handler = none →
        ∀ (input : List Char) (n : Nat) (calls : List Call), (∀ c ∈ calls, c.Scans) →
          f.scanner.run n calls (f.scanner.start context input) =
            (e.scanner.run n calls (e.scanner.start context input)).map
              (Prod.map (List.map (.renamed t)) id) := by
  rw [compile_some]
  refine ⟨fun error => ?_, fun e he => ?_⟩
  · rcases s.compile none with other | e
    · simp [Except.map]
    · simp [Except.map]
  · rw [he]
    refine ⟨e.renamed t, rfl, fun _ => Token.renamed_eq_eof_iff ht, fun context hc input n calls => ?_⟩
    exact fun hcalls => Engine.run_renamed e ht n hcalls hc

/-- Two names, one of which the table numbers, and a name that reads like the end of the input. -/
def namedWords : RuleSet where
  rules := [
    { pattern := .text "[a-z]+", action := "return 'WORD'" },
    { pattern := .text "[0-9]+", action := "return 'EOF'" },
    { pattern := .text "!", action := "return this.EOF" }]

/-- The table of these names: one becomes a number, the other one takes its place. -/
def wordTable : TokenTable := (TokenTable.ofCodes [(7, "EOF")]).declareSymbol "WORD" "EOF"

/-- Neither a name that reads like the end of the input nor one that comes to read like it ends a
scan. -/
theorem run_with_tokens_words : ∃ e f u,
    wordTable.Declared ∧ ({} : Context).handler = none ∧
    namedWords.compile none = .ok e ∧ namedWords.compile (some wordTable) = .ok f ∧
    e.scanner.run 1 [.lex, .lex, .lex] (e.scanner.start {} ['a', '1', '!']) =
      some ([.token (.ok (.name "WORD")), .token (.ok (.name "EOF")), .token (.ok .eof)], u) ∧
    f.scanner.run 1 [.lex, .lex, .lex] (f.scanner.start {} ['a', '1', '!']) =
      some ([.token (.ok (.name "EOF")), .token (.ok (.code 7)), .token (.ok .eof)], u) := by
  have ht : wordTable.Declared := .symbol _ _ (.ofCodes _)
  generalize hcompiled : namedWords.compile none = compiled
  have hrun : (compiled.toOption.bind fun e =>
      (e.scanner.run 1 [.lex, .lex, .lex] (e.scanner.start {} ['a', '1', '!'])).map (·.1)) =
      some [.token (.ok (.name "WORD")), .token (.ok (.name "EOF")), .token (.ok .eof)] := by
    rw [← hcompiled]
    decide +kernel
  rcases compiled with error | e
  · cases hrun
  obtain ⟨⟨answers, u⟩, hu, rfl⟩ := Option.map_eq_some_iff.1 hrun
  obtain ⟨f, hf, -, hscan⟩ := (namedWords.run_with_tokens ht).2 e hcompiled
  have hrenamed := hscan {} rfl ['a', '1', '!'] 1 [.lex, .lex, .lex] (by simp [Call.Scans])
  refine ⟨e, f, u, ht, rfl, rfl, hf, hu, ?_⟩
  rw [hrenamed, hu]
  have hword : wordTable.find? "WORD" = some (.name "EOF") := by decide +kernel
  have hend : wordTable.find? "EOF" = some (.code 7) := by decide +kernel
  simp [Answer.renamed, Token.renamed, TokenTable.resolve, hword, hend, Except.map]

end RuleSet
end LexGen
