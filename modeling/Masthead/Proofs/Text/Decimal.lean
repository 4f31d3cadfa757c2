import Masthead.Proofs.Text.Numeral

/-!
# Decimal digits have no case

No case table mentions a decimal digit of any script.  So a letter matches a digit only if both are
digits, and a text of digits is its own lower case.  A text of Latin digits is determined by its
length and its value, so the only year in Latin digits with a given value is its numeral.
-/

namespace Masthead

/-- Stretches of characters without case, between which the decimal digits are spread. -/
def digitStretches : List CodeRange :=
  [⟨0x30, 0x39⟩, ⟨0x660, 0x1099⟩, ⟨0x17E0, 0x1C59⟩, ⟨0xA620, 0xA629⟩, ⟨0xA8D0, 0xAA59⟩,
   ⟨0xABF0, 0xABF9⟩, ⟨0xFF10, 0xFF19⟩, ⟨0x104A0, 0x104A9⟩, ⟨0x10D30, 0x11739⟩,
   ⟨0x118E0, 0x16B59⟩, ⟨0x1D7CE, 0x1D7FF⟩, ⟨0x1E140, 0x1E2F9⟩, ⟨0x1E950, 0x1E959⟩,
   ⟨0x1FBF0, 0x1FBF9⟩]

theorem digitStretches_isCaseless : digitStretches.all isCaseless = true := by
  decide +kernel

theorem hasNoCase_of_isDecimal {c : Char} (decimal : isDecimal c = true) : HasNoCase c := by
  have covered : decimalZeros.all (fun start =>
      digitStretches.any fun range => range.first ≤ start && start + 9 ≤ range.last) = true := by
    decide +kernel
  rcases exists_decimalZero decimal with ⟨start, listed, offset, small, position⟩
  rcases List.any_eq_true.1 (List.all_eq_true.1 covered start listed) with ⟨range, inTable, around⟩
  simp only [Bool.and_eq_true, decide_eq_true_eq] at around
  refine ⟨range, List.all_eq_true.1 digitStretches_isCaseless range inTable, ?_⟩
  rw [CodeRange.contains_iff]
  omega

/-- A digit is the same letter as itself alone. -/
theorem eq_of_sameLetter_of_isDecimal
    {c d : Char}
    (decimal : isDecimal d = true)
    (same : sameLetter c d = true) :
    c = d :=
  (hasNoCase_of_isDecimal decimal).eq_of_sameLetter same

/-- Letters that are the same are both digits or both not. -/
theorem isDecimal_eq_of_sameLetter {c d : Char} (same : sameLetter c d = true) :
    isDecimal c = isDecimal d := by
  apply Bool.eq_iff_iff.2
  constructor
  · intro decimal
    rwa [eq_of_sameLetter_of_isDecimal decimal (sameLetter_symm same)]
  · intro decimal
    rwa [eq_of_sameLetter_of_isDecimal decimal same]

/-- A text of digits is its own lower case. -/
theorem Text.lower_of_within_isDecimal {text : Text} (decimals : text.Within isDecimal) :
    text.lower = text :=
  lower_of_hasNoCase fun c member => hasNoCase_of_isDecimal (decimals c member)

/-! ## Latin digits -/

theorem decimalValue_append_singleton
    {c : Char}
    (digit : c.isDigit = true)
    (digits : Text) :
    decimalValue (digits ++ [c]) = decimalValue digits * 10 + (c.toNat - 0x30) := by
  have bounds : 0x30 ≤ c.toNat ∧ c.toNat ≤ 0x39 := Char.isDigit_iff_toNat.1 digit
  have low : c.toNat < 0x80 := by omega
  simp [decimalValue, digitValue?, low, digit]

/-- Latin digits of one length are told apart by their value. -/
theorem eq_of_decimalValue_eq
    {first second : Text}
    (latin : first.Within Char.isDigit)
    (latinToo : second.Within Char.isDigit)
    (length : first.length = second.length)
    (value : decimalValue first = decimalValue second) :
    first = second := by
  induction first using List.reverseRecOn generalizing second with
  | nil => exact (List.length_eq_zero_iff.1 length.symm).symm
  | append_singleton digits c ih =>
    rcases List.eq_nil_or_concat second with rfl | ⟨others, d, rfl⟩
    · simp at length
    · rw [List.concat_eq_append] at latinToo length value ⊢
      have digit := latin c (by simp)
      have digitToo := latinToo d (by simp)
      have bounds : 0x30 ≤ c.toNat ∧ c.toNat ≤ 0x39 := Char.isDigit_iff_toNat.1 digit
      have boundsToo : 0x30 ≤ d.toNat ∧ d.toNat ≤ 0x39 := Char.isDigit_iff_toNat.1 digitToo
      rw [decimalValue_append_singleton digit, decimalValue_append_singleton digitToo] at value
      have sameLast : c = d := by
        rw [← Char.ofNat_toNat c, ← Char.ofNat_toNat d]
        congr 1
        omega
      have sameOthers : digits = others := by
        apply ih (fun e member => latin e (List.mem_append_left _ member))
          (fun e member => latinToo e (List.mem_append_left _ member))
        · simpa using length
        · omega
      rw [sameLast, sameOthers]

theorem within_isDigit_numeral (value : Nat) : (numeral (value : Int)).Within Char.isDigit := by
  rw [numeral_natCast]
  intro c member
  exact Nat.isDigit_of_mem_toDigits (by decide) (by decide) member

theorem exists_cons_numeral (value : Nat) :
    ∃ c rest, numeral (value : Int) = c :: rest ∧ c.isDigit = true := by
  have occupied : numeral (value : Int) ≠ [] := by
    rw [numeral_natCast]
    exact Nat.toDigits_ne_nil
  rcases List.exists_cons_of_ne_nil occupied with ⟨c, rest, shape⟩
  have latin := within_isDigit_numeral value
  rw [shape] at latin
  exact ⟨c, rest, shape, latin c List.mem_cons_self⟩

/-- A year in Latin digits with the value of a number of four digits is its numeral. -/
theorem eq_numeral_of_isYear
    {year : Text} {value : Nat}
    (isYear : year.IsYear)
    (latin : year.Within Char.isDigit)
    (least : 1000 ≤ value)
    (greatest : value ≤ 9999)
    (read : decimalValue year = value) :
    year = numeral value := by
  apply eq_of_decimalValue_eq latin (within_isDigit_numeral value)
  · rw [isYear.1, (isYear_numeral least greatest).1]
  · rw [read, decimalValue_numeral]

end Masthead
