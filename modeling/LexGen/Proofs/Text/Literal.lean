import LexGen.Text.Blank
import LexGen.Text.Number
import LexGen.Text.Quoted
import Mathlib.Data.List.TakeWhile
import Mathlib.Tactic.SplitIfs

/-!
# Literals are read back

What stands between quotes is read back whatever it holds (`decode?_encode`), and so are the decimal
digits of a number (`number?_toDigits`).

A text that neither begins nor ends with a blank is tight. Trimming leaves it as it is, and blanks
that are put around a text make no difference to what trimming leaves (`trim_append_left`,
`trim_append_right`).
-/

namespace LexGen.Text

/-! ## Blanks -/

/-- There is no blank at either end. -/
def Tight (cs : List Char) : Prop :=
  (∀ c ∈ cs.head?, isBlank c = false) ∧ ∀ c ∈ cs.getLast?, isBlank c = false

theorem tight_of_ends {cs : List Char}
    (h : (cs.head?.all (!isBlank ·) && cs.getLast?.all (!isBlank ·)) = true) : Tight cs := by
  rw [Bool.and_eq_true, Option.all_eq_true, Option.all_eq_true] at h
  exact ⟨fun c hc => by simpa using h.1 c hc, fun c hc => by simpa using h.2 c hc⟩

theorem trimStart_append {l : List Char} (hl : ∀ c ∈ l, isBlank c = true) (cs : List Char) :
    trimStart (l ++ cs) = trimStart cs :=
  List.dropWhile_append_of_pos hl

theorem trimEnd_append {r : List Char} (hr : ∀ c ∈ r, isBlank c = true) (cs : List Char) :
    trimEnd (cs ++ r) = trimEnd cs := by
  unfold trimEnd
  rw [List.reverse_append, List.dropWhile_append_of_pos (by simpa using hr)]

theorem trimStart_of_head {cs : List Char} (h : ∀ c ∈ cs.head?, isBlank c = false) :
    trimStart cs = cs := by
  rcases cs with _ | ⟨c, cs⟩
  · rfl
  · exact List.dropWhile_cons_of_neg (by simp [h c rfl])

theorem trimEnd_of_getLast {cs : List Char} (h : ∀ c ∈ cs.getLast?, isBlank c = false) :
    trimEnd cs = cs := by
  have hr : trimStart cs.reverse = cs.reverse := trimStart_of_head (by simpa using h)
  unfold trimStart at hr
  unfold trimEnd
  rw [hr, List.reverse_reverse]

theorem trim_of_tight {cs : List Char} (h : Tight cs) : trim cs = cs := by
  rw [trim, trimStart_of_head h.1, trimEnd_of_getLast h.2]

theorem trim_append_left {l : List Char} (hl : ∀ c ∈ l, isBlank c = true) (cs : List Char) :
    trim (l ++ cs) = trim cs := by
  rw [trim, trimStart_append hl, trim]

theorem trim_append_right {r : List Char} (hr : ∀ c ∈ r, isBlank c = true) (cs : List Char) :
    trim (cs ++ r) = trim cs := by
  have hr' : trimStart r = [] := by simpa [trimStart] using trimStart_append hr []
  have happ : trimStart (cs ++ r) = if (trimStart cs).isEmpty then trimStart r
      else trimStart cs ++ r := List.dropWhile_append
  rw [trim, trim, happ]
  split_ifs with h
  · rw [List.isEmpty_iff.1 h, hr']
  · exact trimEnd_append hr _

/-- Trimming takes blanks off both ends. -/
theorem exists_trim (cs : List Char) : ∃ l r, (∀ c ∈ l, isBlank c = true) ∧
    (∀ c ∈ r, isBlank c = true) ∧ cs = l ++ trim cs ++ r := by
  have hblank : ∀ {c : Char} {ds : List Char}, c ∈ ds.takeWhile isBlank → isBlank c = true :=
    fun hc => List.mem_takeWhile_imp hc
  refine ⟨cs.takeWhile isBlank, ((trimStart cs).reverse.takeWhile isBlank).reverse,
    fun c hc => hblank hc, fun c hc => hblank (List.mem_reverse.1 hc), ?_⟩
  have hend : trim cs ++ ((trimStart cs).reverse.takeWhile isBlank).reverse = trimStart cs := by
    rw [trim, trimEnd, ← List.reverse_append, List.takeWhile_append_dropWhile, List.reverse_reverse]
  rw [List.append_assoc, hend, trimStart, List.takeWhile_append_dropWhile]

theorem length_trim_le (cs : List Char) : (trim cs).length ≤ cs.length := by
  obtain ⟨l, r, -, -, hcs⟩ := exists_trim cs
  have hlen := congrArg List.length hcs
  simp only [List.length_append] at hlen
  omega

/-! ## Quotes -/

namespace Quoted

theorem decodeRest?_plain {quote c : Char} (hc : c ≠ '\\') (hq : c ≠ quote) (rest : List Char) :
    decodeRest? quote (c :: rest) = (decodeRest? quote rest).map (c :: ·) := by
  rw [decodeRest?, if_neg hc, if_neg hq]
  simp [hc]

/-- One character is read back, whatever comes after it. -/
theorem decodeRest?_encodeChar (c : Char) (rest : List Char) :
    decodeRest? '\'' (encodeChar c ++ rest) = (decodeRest? '\'' rest).map (c :: ·) := by
  unfold encodeChar
  split_ifs with h h1 h2 h3
  · rcases h with rfl | rfl <;> rfl
  · subst h1; rfl
  · subst h2; rfl
  · subst h3; rfl
  · exact decodeRest?_plain (fun hc => h (.inr hc)) (fun hc => h (.inl hc)) rest

theorem decodeRest?_encode : ∀ cs : List Char,
    decodeRest? '\'' (cs.flatMap encodeChar ++ ['\'']) = some cs
  | [] => rfl
  | c :: cs => by
    rw [List.flatMap_cons, List.append_assoc, decodeRest?_encodeChar, decodeRest?_encode cs]
    rfl

/-- What is written between quotes is read back. -/
theorem decode?_encode (cs : List Char) : decode? (encode cs) = some cs := by
  rw [encode, List.cons_append, decode?, if_pos (by decide)]
  exact decodeRest?_encode cs

theorem tight_encode (cs : List Char) : Tight (encode cs) := by
  constructor
  · intro c hc
    obtain rfl : '\'' = c := by simpa [encode] using hc
    decide
  · intro c hc
    obtain rfl : '\'' = c := by simpa [encode, List.getLast?_cons] using hc
    decide

end Quoted

/-! ## Numbers -/

theorem isBlank_of_isDigit {c : Char} (h : c.isDigit = true) : isBlank c = false := by
  simp only [Char.isDigit, Bool.and_eq_true, decide_eq_true_eq, UInt32.le_iff_toNat_le] at h
  have h1 : 48 ≤ c.toNat := h.1
  have h2 : c.toNat ≤ 57 := h.2
  simp only [isBlank, CharSet.contains, CharSet.holds, CharSet.blank, List.any_cons, List.any_nil,
    Bool.or_false, Bool.or_eq_false_iff, Bool.and_eq_false_iff, decide_eq_false_iff_not]
  omega

theorem digitsValue?_toDigits (n : Nat) : digitsValue? (Nat.toDigits 10 n) = some n := by
  have hd : (Nat.toDigits 10 n).all Char.isDigit = true :=
    List.all_eq_true.2 fun c hc => Nat.isDigit_of_mem_toDigits (by decide) (by decide) hc
  have hne : (Nat.toDigits 10 n).isEmpty = false := by simp [Nat.toDigits_ne_nil]
  rw [digitsValue?, hd, hne]
  exact congrArg some (Nat.ofDigitChars_toDigits (by decide) (by decide))

/-- The digits of a number are read as the number. -/
theorem number?_toDigits (n : UInt64) : number? (Nat.toDigits 10 n.toNat) = some n := by
  have hplus : ∀ rest, Nat.toDigits 10 n.toNat ≠ '+' :: rest := by
    intro rest h
    have := Nat.isDigit_of_mem_toDigits (b := 10) (n := n.toNat) (c := '+') (by decide) (by decide)
      (by rw [h]; exact List.mem_cons_self)
    exact absurd this (by decide)
  have hlt : n.toNat < UInt64.size := n.toNat_lt_size
  unfold number?
  split
  · exact absurd ‹_› (hplus _)
  · simp only [digitsValue?_toDigits, if_pos hlt]
    exact congrArg some n.ofNat_toNat

theorem tight_toDigits (n : Nat) : Tight (Nat.toDigits 10 n) := by
  have hd : ∀ c ∈ Nat.toDigits 10 n, isBlank c = false := fun c hc =>
    isBlank_of_isDigit (Nat.isDigit_of_mem_toDigits (by decide) (by decide) hc)
  exact ⟨fun c hc => hd c (List.mem_of_mem_head? hc), fun c hc => hd c (List.mem_of_getLast? hc)⟩

end LexGen.Text
