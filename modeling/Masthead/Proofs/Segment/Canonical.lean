import Masthead.Proofs.Segment.Rereading
import Masthead.Proofs.Template.Search
import Masthead.Proofs.Text.Decimal

/-!
# The canonical spelling of a year range

A range may be spelled with any dashes among any blanks and with the digits of any script.  What is
read from it is its first year and its last, which are one and the same if there is only one.  It is
exact in a single spelling, character for character: the one in which these two years are written.
No character of a range has a case, so comparing lower cases compares the texts themselves.

Two numbers of four digits are read back from this spelling, so it is always exact.
-/

namespace Masthead

namespace Segment

/-- The number that the first four characters of a range write. -/
def firstYear (text : Text) : Nat := decimalValue (text.take 4)

/-- The number that the last four characters of a range write: those of its second year, or of its
only one. -/
def lastYear (text : Text) : Nat := decimalValue (text.drop (text.length - 4))

/-- What a range from one year to another means that is spelled as a text: the first year is kept,
and the last is compared with the first and with the current year, in this order. -/
structure MeansRange (current : CurrentYear) (text : Text) (first last : Nat)
    (result : SegmentResult) : Prop where
  kept : result.kept = .startYear first
  isInexact : result.isInexact = true ↔ text ≠ formatYearRange first last
  faults : result.faults =
    (if last < first then [.endBeforeStart last first] else []) ++
      (if current.value < last then [.futureYear last current] else [])
  notices : result.notices = if last < current.value then [.staleYear current] else []

/-! ## Characters without case -/

theorem hasNoCase_of_spells_yearRange
    {text : Text}
    (spelled : yearRange.Spells text) :
    ∀ c ∈ text, HasNoCase c := by
  have blanks : ∀ {part : Text}, part.Within isBlank → ∀ c ∈ part, HasNoCase c :=
    fun blank c member => hasNoCase_of_isSymbol (isSymbol_of_isBlank (blank c member))
  have years : ∀ {part : Text}, part.IsYear → ∀ c ∈ part, HasNoCase c :=
    fun isYear c member => hasNoCase_of_isDecimal (isYear.2 c member)
  rcases spelled with ⟨start, tail, rfl, isStart, isTail | rfl⟩
  · rcases isTail with ⟨before, dashes, after, stop, rfl, blankBefore, ⟨-, areDashes⟩, blankAfter,
      isStop⟩
    simp only [List.forall_mem_append]
    exact ⟨years isStart, blanks blankBefore,
      fun c member => hasNoCase_of_isSymbol (isSymbol_of_isDash (areDashes c member)),
      blanks blankAfter, years isStop⟩
  · rw [List.append_nil]
    exact years isStart

theorem hasNoCase_of_mem_formatYearRange
    (first last : Nat) :
    ∀ c ∈ formatYearRange first last, HasNoCase c := by
  have numerals : ∀ value : Nat, ∀ c ∈ numeral (value : Int), HasNoCase c :=
    fun value c member =>
      hasNoCase_of_isDecimal (isDecimal_of_isDigit (within_isDigit_numeral value c member))
  rw [formatYearRange]
  split
  · exact numerals first
  · rw [List.forall_mem_append, List.forall_mem_cons]
    exact ⟨numerals first, hasNoCase_of_isSymbol (by decide), numerals last⟩

/-- A range differs from a canonical spelling unless it is that spelling. -/
theorem differs_formatYearRange_iff
    {text : Text}
    (spelled : yearRange.Spells text)
    (first last : Nat) :
    differs (formatYearRange first last) text = true ↔ text ≠ formatYearRange first last := by
  rw [← Bool.not_eq_false, differs_eq_false_iff,
    Text.lower_of_hasNoCase (hasNoCase_of_spells_yearRange spelled),
    Text.lower_of_hasNoCase (hasNoCase_of_mem_formatYearRange first last)]
  apply not_congr
  constructor
  · exact And.right
  · intro same
    exact ⟨congrArg List.length same, same⟩

/-! ## What is read -/

theorem meansRange_interpretRange
    {text : Text}
    (spelled : yearRange.Spells text)
    (current : CurrentYear) (first last : Nat) :
    MeansRange current text first last (interpretRange current text first last) where
  kept := rfl
  isInexact := differs_formatYearRange_iff spelled first last
  faults := by simp only [interpretRange, futurity, Int.ofNat_lt]
  notices := by simp only [interpretRange, staleness, Int.ofNat_lt]

/-- Reading a whole range captures its years. -/
theorem exists_readWhole_yearRange
    {text : Text}
    (spelled : yearRange.Spells text) :
    ∃ captures,
      Piece.readWhole [yearRange.pattern] text = some [⟨text, captures⟩] ∧
        yearRangePattern.Reads text captures := by
  have present : (Piece.readWhole ([yearRange].map pattern) text).isSome = true :=
    Piece.readWhole_isSome_iff.2 ⟨text, [], (List.append_nil text).symm, spelled, rfl⟩
  rcases Option.isSome_iff_exists.1 present with ⟨pieces, read⟩
  rcases Piece.readAll_eq_some read with ⟨rest, place, nothing, pairs⟩
  cases pairs with
  | @cons _ piece _ _ reads others =>
    cases others
    rw [List.isEmpty_iff.1 nothing, List.append_nil, Piece.joined_cons, Piece.joined_nil,
      List.append_nil] at place
    subst place
    exact ⟨piece.captures, read, reads⟩

/-- The meaning of a range is that of its first and its last year. -/
theorem interpret_of_reads_yearRange
    {text : Text} {captures : List Text}
    (reads : yearRangePattern.Reads text captures)
    (current : CurrentYear)
    (length : Int) :
    yearRange.interpret current text length captures =
      .ok (interpretRange current text (firstYear text) (lastYear text)) := by
  rcases captures_of_reads_yearRange reads with
    ⟨start, tail, rfl, isStart, ⟨rfl, rfl⟩ | ⟨-, stop, isStop, ⟨between, rfl⟩, rfl⟩⟩
  · have first : firstYear (start ++ []) = decimalValue start := by
      rw [firstYear, List.append_nil, List.take_of_length_le isStart.1.le]
    have last : lastYear (start ++ []) = decimalValue start := by
      rw [lastYear, List.append_nil, isStart.1]
      rfl
    rw [interpret, (readYear_of_isYear isStart).1, first, last]
    rfl
  · have first : firstYear (start ++ (between ++ stop)) = decimalValue start := by
      rw [firstYear, List.take_left' isStart.1]
    have last : lastYear (start ++ (between ++ stop)) = decimalValue stop := by
      have shorter : (start ++ (between ++ stop)).length - 4 = (start ++ between).length := by
        simp only [List.length_append, isStop.1]
        omega
      rw [lastYear, shorter, ← List.append_assoc, List.drop_left]
    rw [interpret, (readYear_of_isYear isStart).1, (readYear_of_isYear isStop).1, first, last]
    rfl

/-! ## What is written -/

/-- The years of the canonical spelling of two numbers of four digits are these numbers. -/
theorem years_formatYearRange
    {first last : Nat}
    (isFirst : (numeral (first : Int)).IsYear)
    (isLast : (numeral (last : Int)).IsYear) :
    yearRange.Spells (formatYearRange first last) ∧
      firstYear (formatYearRange first last) = first ∧
        lastYear (formatYearRange first last) = last := by
  by_cases single : first = last
  · subst single
    rw [formatYearRange, if_pos (beq_self_eq_true _)]
    refine ⟨⟨_, [], (List.append_nil _).symm, isFirst, Or.inr rfl⟩, ?_, ?_⟩
    · rw [firstYear, List.take_of_length_le isFirst.1.le, decimalValue_numeral]
    · rw [lastYear, isFirst.1, Nat.sub_self, List.drop_zero, decimalValue_numeral]
  · rw [formatYearRange, if_neg (by simpa using Int.ofNat_inj.not.2 single)]
    refine ⟨⟨_, _, rfl, isFirst, Or.inl (isRangeTail_cons isLast)⟩, ?_, ?_⟩
    · rw [firstYear, List.take_left' isFirst.1, decimalValue_numeral]
    · have shorter : (numeral (first : Int) ++ '–' :: numeral (last : Int)).length - 4 =
          (numeral (first : Int)).length + 1 := by
        simp only [List.length_append, List.length_cons, isLast.1]
        omega
      rw [lastYear, shorter, List.drop_length_add_append, List.drop_succ_cons, List.drop_zero,
        decimalValue_numeral]

/-- A text is read whole as a range exactly if it spells one, and then it means the range from its
first to its last year: it is exact in one spelling only.  Two numbers of four digits are read back
from their canonical spelling, which is exact. -/
theorem exact_iff_canonical (current : CurrentYear) :
    (∀ text,
      ((Piece.readWhole [yearRange.pattern] text).isSome = true ↔ yearRange.Spells text) ∧
        (yearRange.Spells text →
          ∃ captures result,
            Piece.readWhole [yearRange.pattern] text = some [⟨text, captures⟩] ∧
              yearRange.interpret current text text.length captures = .ok result ∧
                MeansRange current text (firstYear text) (lastYear text) result)) ∧
      ∀ first last : Nat, 1000 ≤ first → first ≤ 9999 → 1000 ≤ last → last ≤ 9999 →
        ∃ captures result,
          Piece.readWhole [yearRange.pattern] (formatYearRange first last) =
              some [⟨formatYearRange first last, captures⟩] ∧
            yearRange.interpret current (formatYearRange first last)
                (formatYearRange first last).length captures = .ok result ∧
              MeansRange current (formatYearRange first last) first last result ∧
                result.isInexact = false := by
  have means : ∀ text, yearRange.Spells text → ∃ captures result,
      Piece.readWhole [yearRange.pattern] text = some [⟨text, captures⟩] ∧
        yearRange.interpret current text text.length captures = .ok result ∧
          MeansRange current text (firstYear text) (lastYear text) result := by
    intro text spelled
    rcases exists_readWhole_yearRange spelled with ⟨captures, read, reads⟩
    exact ⟨captures, _, read, interpret_of_reads_yearRange reads current _,
      meansRange_interpretRange spelled current _ _⟩
  refine ⟨fun text => ⟨?_, means text⟩, ?_⟩
  · have whole : (Piece.readWhole ([yearRange].map pattern) text).isSome = true ↔
        SpellsAll [yearRange] text :=
      Piece.readWhole_isSome_iff
    exact whole.trans spellsAll_singleton_iff
  · intro first last leastFirst greatestFirst leastLast greatestLast
    have isFirst := isYear_numeral leastFirst greatestFirst
    have isLast := isYear_numeral leastLast greatestLast
    rcases years_formatYearRange isFirst isLast with ⟨spelled, firstRead, lastRead⟩
    rcases means _ spelled with ⟨captures, result, read, interpreted, meaning⟩
    rw [firstRead, lastRead] at meaning
    refine ⟨captures, result, read, interpreted, meaning, ?_⟩
    rw [← Bool.not_eq_true, meaning.isInexact]
    simp

/-- A range with Arabic digits that ends too soon and yet too late, and a canonical one. -/
theorem exact_iff_canonical_sample :
    (∃ captures result,
      Piece.readWhole [yearRange.pattern] "٢٠٢٣ — 2019".toList =
          some [⟨"٢٠٢٣ — 2019".toList, captures⟩] ∧
        yearRange.interpret ⟨2018, by decide, by decide⟩ "٢٠٢٣ — 2019".toList 11 captures =
            .ok result ∧
          result = ⟨true, [.endBeforeStart 2019 2023,
            .futureYear 2019 ⟨2018, by decide, by decide⟩], [], .startYear 2023⟩) ∧
      ∃ captures result,
        Piece.readWhole [yearRange.pattern] "2019–2023".toList =
            some [⟨"2019–2023".toList, captures⟩] ∧
          yearRange.interpret ⟨2018, by decide, by decide⟩ "2019–2023".toList 9 captures =
              .ok result ∧
            result.isInexact = false := by
  have spelled : yearRange.Spells "٢٠٢٣ — 2019".toList :=
    ⟨"٢٠٢٣".toList, " — 2019".toList, rfl, by decide, Or.inl ⟨[' '], ['—'], [' '], "2019".toList,
      rfl, by decide, by decide, by decide, by decide⟩⟩
  have first : firstYear "٢٠٢٣ — 2019".toList = 2023 := by decide
  have last : lastYear "٢٠٢٣ — 2019".toList = 2019 := by decide
  rcases exact_iff_canonical ⟨2018, by decide, by decide⟩ with ⟨reads, writes⟩
  rcases (reads _).2 spelled with ⟨captures, result, read, interpreted, meaning⟩
  rcases writes 2019 2023 (by decide) (by decide) (by decide) (by decide) with
    ⟨capturesToo, resultToo, readToo, interpretedToo, -, exact⟩
  refine ⟨⟨captures, result, read, interpreted, ?_⟩, capturesToo, resultToo, readToo,
    interpretedToo, exact⟩
  rw [first, last] at meaning
  have inexact : result.isInexact = true := meaning.isInexact.2 (by decide)
  have faults := meaning.faults
  have notices := meaning.notices
  have kept := meaning.kept
  cases result
  simp_all

end Segment

end Masthead
