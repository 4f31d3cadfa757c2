import Mathlib.Algebra.Group.Nat.Defs
import Mathlib.Data.List.Basic
import Mathlib.Data.List.TakeWhile
import Mathlib.Data.List.Induction
import Masthead.Proofs.Text.Symbol
import Masthead.Segment.Interpretation
import Masthead.Segment.Language

/-!
# Reading and writing years

A year is four decimal digits of any script.  Every such text is read as a number, so interpreting
what a year segment has read never fails.  A number of four digits is written as a year, and
reading that year gives the number back.
-/

namespace Masthead

/-- The zeros of all scripts, the Latin one first. -/
def decimalZeros : List Nat := 0x30 :: scriptZeros

/-- Every decimal is one of the ten digits that begin at some zero. -/
theorem exists_decimalZero {c : Char} (decimal : isDecimal c = true) :
    ∃ start ∈ decimalZeros, ∃ offset < 10, c.toNat = start + offset := by
  rw [isDecimal, digitValue?] at decimal
  split at decimal
  · split at decimal
    · rename_i digit
      have bounds : 0x30 ≤ c.toNat ∧ c.toNat ≤ 0x39 := Char.isDigit_iff_toNat.1 digit
      exact ⟨0x30, List.mem_cons_self, c.toNat - 0x30, by omega, by omega⟩
    · simp at decimal
  · rw [Option.isSome_map, Option.isSome_iff_exists] at decimal
    rcases decimal with ⟨start, found⟩
    have inside := List.find?_some found
    simp only [Bool.and_eq_true, decide_eq_true_eq] at inside
    have listed := List.mem_cons_of_mem 0x30 (List.mem_of_find?_eq_some found)
    exact ⟨start, listed, c.toNat - start, by omega, by omega⟩

/-- Whether a character has no part in the notation of numbers and ranges other than as a digit:
it neither pads, joins, signs nor separates. -/
def isInert (c : Char) : Bool :=
  !isBlank c && !CharSet.isDash c && c != '+' && c != '_'

theorem isInert_of_isDecimal {c : Char} (decimal : isDecimal c = true) : isInert c = true := by
  have tabled :
      decimalZeros.all (fun start =>
        (List.range 10).all fun offset => isInert (Char.ofNat (start + offset))) = true := by
    decide +kernel
  rcases exists_decimalZero decimal with ⟨start, listed, offset, small, position⟩
  have row := List.all_eq_true.1 tabled start listed
  have inert := List.all_eq_true.1 row offset (List.mem_range.2 small)
  rwa [← position, Char.ofNat_toNat] at inert

theorem isInert_iff {c : Char} :
    isInert c = true ↔
      isBlank c = false ∧ CharSet.isDash c = false ∧ c ≠ '+' ∧ c ≠ '_' := by
  simp [isInert, and_assoc]

theorem not_isBlank_of_isDecimal {c : Char} (decimal : isDecimal c = true) :
    isBlank c = false :=
  (isInert_iff.1 (isInert_of_isDecimal decimal)).1

theorem not_isDash_of_isDecimal {c : Char} (decimal : isDecimal c = true) :
    CharSet.isDash c = false :=
  (isInert_iff.1 (isInert_of_isDecimal decimal)).2.1

namespace Integer

theorem separatesDigits_of_within
    {text : Text}
    (decimals : text.Within isDecimal)
    (afterDigit : Bool) :
    separatesDigits afterDigit text = (afterDigit || !text.isEmpty) := by
  induction text generalizing afterDigit with
  | nil => simp [separatesDigits]
  | cons c rest ih =>
    have plain := (isInert_iff.1 (isInert_of_isDecimal (decimals c List.mem_cons_self))).2.2.2
    have others : Text.Within isDecimal rest :=
      fun d member => decimals d (List.mem_cons_of_mem c member)
    simp [separatesDigits, plain, ih others]

/-- A text of decimal digits, not too long, is read as their value. -/
theorem read_of_within
    {text : Text}
    (occupied : text ≠ [])
    (decimals : text.Within isDecimal)
    (short : text.length ≤ maxDigits) :
    read text = .ok (decimalValue text) := by
  have inRun : ∀ c ∈ text, inRun c = true := by
    intro c member
    simp [Integer.inRun, decimals c member]
  have taken : text.takeWhile Integer.inRun = text := List.takeWhile_eq_self_iff.2 inRun
  have nothingLeft : text.dropWhile Integer.inRun = [] := List.dropWhile_eq_nil_iff.2 inRun
  have separated : separatesDigits false text = true := by
    rw [separatesDigits_of_within decimals]
    simpa using occupied
  have counted : text.countP isDecimal = text.length := List.countP_eq_length.2 decimals
  cases text with
  | nil => exact absurd rfl occupied
  | cons c rest =>
    rcases isInert_iff.1 (isInert_of_isDecimal (decimals c List.mem_cons_self)) with
      ⟨shown, noDash, noPlus, -⟩
    have unpadded : (c :: rest).dropWhile isPadding = c :: rest := by
      simp [isPadding, shown]
    have noMinus : c ≠ '-' := by
      rintro rfl
      simp [CharSet.isDash] at noDash
    have unsigned : splitSign (c :: rest) = (1, c :: rest) := by
      rw [splitSign]
      · rintro _ ⟨rfl, -⟩
        exact noMinus rfl
      · rintro _ ⟨rfl, -⟩
        exact noPlus rfl
    have readable : ¬ maxDigits < (c :: rest).length := Nat.not_lt.2 short
    simp only [read, unpadded, unsigned, taken, nothingLeft, separated, counted, if_neg readable]
    simp

end Integer

theorem decimalValue_append_singleton_le (digits : Text) (c : Char) :
    decimalValue (digits ++ [c]) ≤ decimalValue digits * 10 + 9 := by
  simp only [decimalValue, List.foldl_append, List.foldl_cons, List.foldl_nil]
  split
  · rename_i value read
    have small := digitValue?_lt read
    omega
  · omega

theorem decimalValue_lt (digits : Text) : decimalValue digits < 10 ^ digits.length := by
  induction digits using List.reverseRecOn with
  | nil => simp [decimalValue]
  | append_singleton digits c ih =>
    have step := decimalValue_append_singleton_le digits c
    rw [List.length_append, List.length_singleton, Nat.pow_succ]
    omega

/-- The value of Latin digits is the number that they write. -/
theorem decimalValue_eq_ofDigitChars
    {digits : Text}
    (latin : ∀ c ∈ digits, c.isDigit = true) :
    decimalValue digits = Nat.ofDigitChars 10 digits 0 := by
  rw [decimalValue, Nat.ofDigitChars_eq_foldl]
  apply List.foldl_ext
  intro total c member
  have digit := latin c member
  have bounds : 0x30 ≤ c.toNat ∧ c.toNat ≤ 0x39 := Char.isDigit_iff_toNat.1 digit
  have low : c.toNat < 0x80 := by omega
  simp only [digitValue?, low, digit, if_true]
  rw [Nat.mul_comm]
  rfl

namespace Segment

/-- Every year is read as its value, which has at most four digits. -/
theorem readYear_of_isYear {text : Text} (year : text.IsYear) :
    readYear text = .ok (decimalValue text) ∧ decimalValue text ≤ 9999 := by
  rcases year with ⟨length, decimals⟩
  constructor
  · have occupied : text ≠ [] := by
      rintro rfl
      simp at length
    have short : text.length ≤ Integer.maxDigits := by
      rw [length]
      decide
    rw [readYear, Integer.read_of_within occupied decimals short]
    rfl
  · have bound := decimalValue_lt text
    rw [length] at bound
    omega

end Segment

theorem numeral_natCast (value : Nat) : numeral (value : Int) = Nat.toDigits 10 value := by
  show value.repr.toList = Nat.toDigits 10 value
  exact Nat.toList_repr

/-- A number of four digits is written as a year. -/
theorem isYear_numeral
    {value : Nat}
    (least : 1000 ≤ value)
    (greatest : value ≤ 9999) :
    (numeral (value : Int)).IsYear := by
  rw [numeral_natCast]
  constructor
  · have atMost : (Nat.toDigits 10 value).length ≤ 4 :=
      (Nat.length_toDigits_le_iff (by decide) (by decide)).2 (by omega)
    have moreThan : ¬ (Nat.toDigits 10 value).length ≤ 3 := by
      rw [Nat.length_toDigits_le_iff (by decide) (by decide)]
      omega
    omega
  · intro c member
    exact isDecimal_of_isDigit (Nat.isDigit_of_mem_toDigits (by decide) (by decide) member)

/-- Reading a written number gives it back. -/
theorem decimalValue_numeral (value : Nat) : decimalValue (numeral (value : Int)) = value := by
  rw [numeral_natCast, decimalValue_eq_ofDigitChars, Nat.ofDigitChars_ten_toDigits]
  intro c member
  exact Nat.isDigit_of_mem_toDigits (by decide) (by decide) member

end Masthead
