import Masthead.Proofs.Segment.Agreement
import Masthead.Proofs.Template.Regeneration

/-!
# A header that is written anew is recognised again

A header is written anew from the start years that were found in the earlier one.  It is recognised
as itself and keeps these years, provided that each of them has four digits as a number and that the
ranges are kept apart.  The first condition is no matter of course: a start year such as `0019` is
found, but it is written as `19`, and no year is read there any more.

Where each range is closed by a text that opens plainly, a reading of the new header takes from each
range just what was written, so that the first condition is all that matters.
-/

namespace Masthead

namespace Segment

variable {segments : List Segment} {kept : List Kept} {written : CurrentYear}

/-! ## One range -/

/-- A year is read from a numeral before an en dash only if the numeral has four digits. -/
theorem le_of_isYear_of_numeral
    {start : Nat} {year rest others : Text}
    (isYear : year.IsYear)
    (same : year ++ rest = numeral (start : Int) ++ '–' :: others) :
    1000 ≤ start := by
  by_contra small
  have short : (numeral (start : Int)).length ≤ 3 := by
    rw [numeral_natCast, Nat.length_toDigits_le_iff (by decide) (by decide)]
    omega
  have four := isYear.1
  rcases List.append_eq_append_iff.1 same with ⟨surplus, place, -⟩ | ⟨surplus, rfl, place⟩
  · rw [place, List.length_append] at short
    omega
  · cases surplus with
    | nil =>
      rw [List.append_nil] at four
      omega
    | cons c surplus =>
      rw [List.cons_append, List.cons.injEq] at place
      have decimal := isYear.2 c (by simp)
      rw [← place.1] at decimal
      exact absurd decimal (by decide)

/-- Where a range has been written, and what follows opens plainly, no other range is read, and the
start year has four digits. -/
theorem eq_of_spells_yearRange
    {start : Nat} {range rest others : Text}
    (greatest : start ≤ 9999)
    (spelled : yearRange.Spells range)
    (plain : rest.opensPlainly = true)
    (plainToo : others.opensPlainly = true)
    (same : range ++ rest = formatYearRange start written.value ++ others) :
    1000 ≤ start ∧ rest = others := by
  rcases spelled with ⟨first, tail, rfl, isFirst, ending⟩
  rw [List.append_assoc] at same
  by_cases single : (start : Int) = written.value
  · rw [formatYearRange, if_pos (beq_iff_eq.2 single), single] at same
    have isStart := isYear_current written
    have follows := (List.append_inj same (isFirst.1.trans isStart.1.symm)).2
    have least := written.least_le
    exact ⟨by omega, eq_of_closed ending (Or.inr rfl) plain plainToo follows⟩
  · rw [formatYearRange, if_neg (by simpa using single), List.append_assoc,
      List.cons_append] at same
    have least := le_of_isYear_of_numeral isFirst same
    have isStart := isYear_numeral least greatest
    have isTail := isRangeTail_cons (isYear_current written)
    have follows := (List.append_inj same (isFirst.1.trans isStart.1.symm)).2
    exact ⟨least, eq_of_closed ending (Or.inl isTail) plain plainToo follows⟩

theorem trimLeft_of_spells_yearRange
    {range : Text}
    (spelled : yearRange.Spells range)
    (rest : Text) :
    (range ++ rest).trimLeft = range ++ rest := by
  rcases spelled with ⟨first, tail, rfl, isFirst, -⟩
  rw [List.append_assoc]
  exact trimLeft_of_isYear isFirst (tail ++ rest)

theorem trimLeft_formatYearRange
    (start : Nat)
    (stop : Int)
    (rest : Text) :
    (formatYearRange start stop ++ rest).trimLeft = formatYearRange start stop ++ rest := by
  rcases exists_cons_numeral start with ⟨c, digits, shape, digit⟩
  have shown := not_isBlank_of_isDecimal (isDecimal_of_isDigit digit)
  rw [formatYearRange, shape]
  split
  · exact Text.trimLeft_of_shown shown _
  · exact Text.trimLeft_of_shown shown _

/-! ## All segments -/

/-- Ranges that are closed are kept apart. -/
theorem rangesApart_of_closesRanges
    (closes : closesRanges segments = true)
    (keeps : List.Forall₂ Keeps segments kept)
    (written : CurrentYear) :
    RangesApart written segments kept := by
  induction keeps with
  | nil => trivial
  | @cons segment one segments kept keepsOne others ih =>
    refine ⟨?_, ih (closesRanges_of_cons closes)⟩
    intro single
    cases segment with
    | yearRange =>
      rcases exists_text_of_closesRanges closes with ⟨literal, rest, rfl, plain⟩
      left
      apply Text.not_continuesRange_of_opensPlainly
      exact Text.opensPlainly_append plain _
    | text literal =>
      cases keepsOne
      cases single
    | year =>
      cases keepsOne
      cases single
    | name placeholder =>
      rcases keepsOne with ⟨trimmed, rfl⟩
      cases single

/-- If a header whose ranges are closed is read where it has been written anew, all start years have
four digits. -/
theorem fourDigits_of_spellsAll
    {header : Text}
    (unnamed : ∀ placeholder, .name placeholder ∉ segments)
    (closes : closesRanges segments = true)
    (keeps : List.Forall₂ Keeps segments kept)
    (spelled : SpellsAll segments header)
    (same : header.trimLeft = (renderAll written segments kept).trimLeft) :
    ∀ start ∈ kept.filterMap Kept.startYear?, 1000 ≤ start := by
  induction keeps generalizing header with
  | nil => simp
  | @cons segment one segments kept keepsOne others ih =>
    have unnamedRest := unnamed_of_cons unnamed
    have closesRest := closesRanges_of_cons closes
    rcases spelled with ⟨front, back, rfl, spelledFront, spelledBack⟩
    rw [renderAll, List.head?_cons, Option.getD_some, List.tail_cons] at same
    rw [Kept.forall_startYear_cons]
    cases segment with
    | text literal =>
      cases keepsOne
      have written := Token.spellsAll_of_cutsInto (Token.cutsInto_ofLiteral literal)
      have left := Token.trimLeft_eq_of_spellsAll spelledFront written same
      exact ⟨by simp [Kept.startYear?], ih unnamedRest closesRest spelledBack left⟩
    | year =>
      cases keepsOne
      have left := (append_inj_of_isYear spelledFront (isYear_current written) same).2
      exact ⟨by simp [Kept.startYear?],
        ih unnamedRest closesRest spelledBack (congrArg Text.trimLeft left)⟩
    | yearRange =>
      rcases keepsOne with ⟨start, rfl, greatest⟩
      rcases exists_text_of_closesRanges closes with ⟨literal, rest, rfl, plain⟩
      have plainBack := opensPlainly_of_spellsAll plain spelledBack
      have plainWritten : (renderAll written (.text literal :: rest) kept).opensPlainly = true :=
        Text.opensPlainly_append plain _
      rw [trimLeft_of_spells_yearRange spelledFront, render, trimLeft_formatYearRange] at same
      rcases eq_of_spells_yearRange greatest spelledFront plainBack plainWritten same with
        ⟨least, left⟩
      refine ⟨?_, ih unnamedRest closesRest spelledBack (congrArg Text.trimLeft left)⟩
      rintro _ ⟨⟩
      exact Int.ofNat_le.2 least
    | name placeholder => exact absurd List.mem_cons_self (unnamed placeholder)

end Segment

namespace Template

variable {source : Text} {template : Template} {current : CurrentYear} {text : Text} {found : Match}

/-- The header that is written anew from one that was found in a text is recognised where it stands
alone: it is found over its whole length, and it keeps what was kept before. -/
def RecognisesRenewed
    (template : Template) (current : CurrentYear) (text : Text) (found : Match) : Prop :=
  ∃ header again,
    template.evaluate current (some text) = .ok header ∧
      template.match? current header.text = .ok (some again) ∧
        again.start = 0 ∧ again.length = header.text.length ∧ again.kept = found.kept

theorem recognisesRenewed_of_rangesApart
    (alternating : Segment.alternates template.segments = true)
    (searched : template.match? current text = .ok (some found))
    (fourDigits : ∀ start ∈ found.startYears, 1000 ≤ start)
    (apart : template.RangesApart current found.kept) :
    template.RecognisesRenewed current text found := by
  have rewritable : template.Rewritable found.kept :=
    Segment.rewritable_of_keeps alternating (keeps_of_match? searched) fourDigits
  have recognised := match?_render_alone alternating apart rewritable current
  exact ⟨_, _, evaluate_of_match? searched, recognised, rfl, rfl,
    kept_rereading rewritable current current⟩

/-- If the whole of a text is found, it belongs to the language of the template. -/
theorem spellsAll_of_match?
    (searched : template.match? current text = .ok (some found))
    (start : found.start = 0)
    (length : found.length = text.length) :
    Segment.SpellsAll template.segments text := by
  rcases exists_match? template current text with ⟨outcome, computed, meaning⟩
  cases searched.symm.trans computed
  rcases meaning.1 with ⟨before, header, after, rfl, above, whole, spelled⟩
  rw [start] at above
  rw [length, List.length_append, List.length_append] at whole
  have nothingAbove : before = [] := List.eq_nil_of_length_eq_zero above
  have nothingBelow : after = [] := List.eq_nil_of_length_eq_zero (by omega)
  rwa [nothingAbove, nothingBelow, List.nil_append, List.append_nil]

theorem fourDigits_of_recognisesRenewed
    (alternating : Segment.alternates template.segments = true)
    (closes : template.closesRanges = true)
    (searched : template.match? current text = .ok (some found))
    (recognised : template.RecognisesRenewed current text found) :
    ∀ start ∈ found.startYears, 1000 ≤ start := by
  rcases recognised with ⟨header, again, evaluated, searchedAgain, start, length, -⟩
  cases (evaluate_of_match? searched).symm.trans evaluated
  exact Segment.fourDigits_of_spellsAll (Segment.unnamed_of_alternates alternating) closes
    (keeps_of_match? searched) (spellsAll_of_match? searchedAgain start length) rfl

/-- A header that is written anew is recognised, with the start years that it had, if these have
four digits and its ranges are kept apart.  Where each range is closed, it is recognised exactly if
the start years have four digits. -/
theorem match?_evaluate
    (parsed : parse source = .ok template)
    (searched : template.match? current text = .ok (some found)) :
    ((∀ start ∈ found.startYears, 1000 ≤ start) →
        template.RangesApart current found.kept →
        template.RecognisesRenewed current text found) ∧
      (template.closesRanges = true →
        (template.RecognisesRenewed current text found ↔
          ∀ start ∈ found.startYears, 1000 ≤ start)) := by
  have alternating := alternates_of_parse parsed
  constructor
  · exact recognisesRenewed_of_rangesApart alternating searched
  · intro closes
    constructor
    · exact fourDigits_of_recognisesRenewed alternating closes searched
    · intro fourDigits
      have apart : template.RangesApart current found.kept :=
        Segment.rangesApart_of_closesRanges closes (keeps_of_match? searched) current
      exact recognisesRenewed_of_rangesApart alternating searched fourDigits apart

/-- What is found where two ranges with a dash between them stand below something else. -/
def dashedMatch : Match where
  start := 1
  length := 14
  results :=
    [⟨false, [], [.staleYear sampleYear], .startYear 2019⟩, ⟨false, [], [], .nothing⟩,
      ⟨false, [], [.staleYear sampleYear], .startYear 2020⟩]

theorem match?_evaluate_sample :
    parse "\x7bYearRange\x7d–\x7bYearRange\x7d".toList = .ok dashedSample ∧
      dashedSample.match? sampleYear "x2019–2021–2020".toList = .ok (some dashedMatch) ∧
      dashedSample.RecognisesRenewed sampleYear "x2019–2021–2020".toList dashedMatch := by
  have parsed : parse "\x7bYearRange\x7d–\x7bYearRange\x7d".toList = .ok dashedSample := by
    decide +kernel
  have searched :
      dashedSample.match? sampleYear "x2019–2021–2020".toList = .ok (some dashedMatch) := by
    decide +kernel
  have apart : dashedSample.RangesApart sampleYear dashedMatch.kept :=
    ⟨fun single => absurd single (by decide), fun single => absurd single (by decide),
      fun single => absurd single (by decide), trivial⟩
  exact ⟨parsed, searched, (match?_evaluate parsed searched).1 (by decide) apart⟩

/-- A start year below 1000 loses its zeros and is no year any more; and a range that is written as
a single year takes the start year of the range after it for its end. -/
theorem match?_evaluate_loses :
    (parse "# \x7bYearRange\x7d A\n".toList = .ok sample ∧
      (sample.match? sampleYear "# 0019 A\n".toList).map (·.map Match.startYears) =
        .ok (some [19]) ∧
      sample.evaluate sampleYear (some "# 0019 A\n".toList) =
        .ok ⟨"# 19–2024 A\n".toList, some (0, 9)⟩ ∧
      sample.match? sampleYear "# 19–2024 A\n".toList = .ok none) ∧
    parse "\x7bYearRange\x7d–\x7bYearRange\x7d".toList = .ok dashedSample ∧
      (dashedSample.match? sampleYear "2024–2024–2020".toList).map (·.map Match.startYears) =
        .ok (some [2024, 2020]) ∧
      dashedSample.evaluate sampleYear (some "2024–2024–2020".toList) =
        .ok ⟨"2024–2020–2024".toList, some (0, 14)⟩ ∧
      (dashedSample.match? sampleYear "2024–2020–2024".toList).map (·.map Match.startYears) =
        .ok (some [2024, 2024]) := by
  decide +kernel

end Template

end Masthead
