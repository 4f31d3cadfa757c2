import Masthead.Proofs.Segment.Digits
import Masthead.Proofs.Template.CarriageReturn

/-!
# What the correction gives back

A header is cut back where its last text reads more than its literal, provided that the shorter
header is read as well.  It need not be read in the same way: a range may end earlier in it, and the
last text may stand where the second half of the range stood before.  All that tells the two
readings apart are years, so their last texts begin at the same place unless a whole year is given
back, and then what is given back are blanks.
-/

namespace Masthead

namespace Text

/-- Beyond the last digit of a text there are no more digits. -/
theorem eq_nil_of_countP_isDecimal
    {front more : Text}
    (ends : ∀ c, (front ++ more).getLast? = some c → isDecimal c = true)
    (none : more.countP isDecimal = 0) :
    more = [] := by
  by_contra occupied
  have final := List.getLast?_eq_some_getLast occupied
  have digit := ends _ (by rw [List.getLast?_append, final, Option.some_or])
  exact List.countP_eq_zero.1 none _ (List.getLast_mem occupied) digit

/-- Two fronts of one text that end in digits are the same if they have as many. -/
theorem append_inj_of_countP_isDecimal
    {first second r s : Text}
    (ends : ∀ c, first.getLast? = some c → isDecimal c = true)
    (endsToo : ∀ c, second.getLast? = some c → isDecimal c = true)
    (alike : first.countP isDecimal = second.countP isDecimal)
    (same : first ++ r = second ++ s) :
    first = second ∧ r = s := by
  rcases List.append_eq_append_iff.1 same with ⟨more, rfl, rfl⟩ | ⟨more, rfl, rfl⟩
  · rw [List.countP_append] at alike
    rw [eq_nil_of_countP_isDecimal endsToo (by omega)]
    simp
  · rw [List.countP_append] at alike
    rw [eq_nil_of_countP_isDecimal ends (by omega)]
    simp

end Text

namespace Segment

variable {init : List Segment} {literal header cut : Text}

/-- What spells the segments before a last text ends in a digit. -/
theorem isDecimal_getLast?_of_spellsAll
    {spelling : Text}
    (alternating : alternates (init ++ [.text literal]) = true)
    (spelled : SpellsAll init spelling) {c : Char}
    (final : spelling.getLast? = some c) :
    isDecimal c = true := by
  rcases eq_nil_or_exists_isYear_of_spellsAll alternating spelled with
    rfl | ⟨before, year, rfl, isYear⟩
  · cases final
  · rcases exists_cons_of_isYear isYear with ⟨d, digits, rfl, -⟩
    rw [List.getLast?_append, List.getLast?_eq_some_getLast (List.cons_ne_nil d digits),
      Option.some_or] at final
    cases final
    exact isYear.2 _ (List.getLast_mem _)

/-- What two readings from one place differ by is blank unless it has the digits of a year. -/
theorem within_isBlank_iff_of_spellsAll
    (alternating : alternates (init ++ [.text literal]) = true)
    (longer : SpellsAll (init ++ [.text literal]) (header ++ cut))
    (shorter : SpellsAll (init ++ [.text literal]) header) :
    cut.Within isBlank ↔ cut.countP isDecimal < 4 := by
  constructor
  · intro blank
    rw [Text.countP_isDecimal_of_within_isBlank blank]
    exact Nat.zero_lt_succ 3
  · intro few
    have alike := countP_isDecimal_mod_of_spellsAll (unnamed_of_alternates alternating) longer
      shorter
    rw [List.countP_append] at alike
    have undigited : cut.countP isDecimal = 0 := by omega
    rcases spellsAll_append_iff.1 longer with ⟨front, last, place, spelledFront, spelledLast⟩
    rcases spellsAll_append_iff.1 shorter with
      ⟨front', last', rfl, spelledFront', spelledLast'⟩
    rw [spellsAll_singleton_iff] at spelledLast spelledLast'
    have lasts := Token.countP_isDecimal_eq_of_spellsAll spelledLast spelledLast'
    have fronts : front'.countP isDecimal = front.countP isDecimal := by
      have counts := congrArg (List.countP isDecimal) place
      simp only [List.countP_append] at counts
      omega
    -- Both last texts begin after the same digit, and there they show the same.
    rw [List.append_assoc] at place
    rcases Text.append_inj_of_countP_isDecimal
      (fun c => isDecimal_getLast?_of_spellsAll alternating spelledFront')
      (fun c => isDecimal_getLast?_of_spellsAll alternating spelledFront) fronts place with
      ⟨-, lastsPlace⟩
    have shownAlike : (last' ++ cut).trimLeft = (last ++ []).trimLeft := by
      rw [lastsPlace, List.append_nil]
    have nothing := Token.trimLeft_eq_of_spellsAll spelledLast' spelledLast shownAlike
    exact List.dropWhile_eq_nil_iff.1 nothing

end Segment

namespace Found

/-- What the correction gives back: nothing, or a part of what a last text reads, without which the
header is read too. -/
theorem exists_cut
    {segments : List Segment} {whole : Found}
    (pairs : List.Forall₂ Piece.ReadBy (segments.map Segment.pattern) whole.pieces) :
    ∃ cut,
      Piece.joined whole.pieces =
        Piece.joined (correct segments (segments.map Segment.pattern) whole).pieces ++ cut ∧
      (cut = [] ∨ ∃ init literal, segments = init ++ [.text literal] ∧
        Segment.SpellsAll segments
          (Piece.joined (correct segments (segments.map Segment.pattern) whole).pieces) ∧
        cut.countP isDecimal ≤ literal.countP isDecimal) := by
  rcases correct_eq_or segments (segments.map Segment.pattern) whole with
    unchanged | ⟨literal, last, atEnd, lastPiece, -, readShorter, shorter⟩
  · rw [unchanged]
    exact ⟨[], by rw [List.append_nil], Or.inl rfl⟩
  · rcases List.getLast?_eq_some_iff.1 atEnd with ⟨init, rfl⟩
    rw [shorter]
    refine ⟨last.text.drop literal.length, joined_cutLast lastPiece literal.length,
      Or.inr ⟨init, literal, rfl, Piece.readWhole_isSome_iff.1 readShorter, ?_⟩⟩
    rcases List.getLast?_eq_some_iff.1 lastPiece with ⟨others, pieces⟩
    rw [pieces, List.map_append, List.map_singleton, forall₂_concat] at pairs
    have spelled := Token.accepts_concat_iff.1 (pairs.2.accepts)
    rw [← Token.countP_isDecimal_eq_of_spellsAll spelled
      (Token.spellsAll_of_cutsInto (Token.cutsInto_ofLiteral literal))]
    exact (List.drop_sublist literal.length last.text).countP_le

end Found

namespace Template

variable {source text : Text} {template : Template} {current : CurrentYear} {found : Match}

/-- A parsed template is sure to give back blanks only: each of its ranges is closed, or its last
text has not enough digits to be taken for a year. -/
def GivesBackBlanks (template : Template) : Prop :=
  template.closesRanges = true ∨
    ∀ literal, template.segments.getLast? = some (.text literal) → literal.countP isDecimal < 4

/-- What is given back is blank unless it has the digits of a year, and it has not if the template
gives back blanks only. -/
theorem within_isBlank_of_cut
    {init : List Segment} {literal header cut : Text}
    (parsed : parse source = .ok template)
    (shape : template.segments = init ++ [.text literal])
    (longer : Segment.SpellsAll template.segments (header ++ cut))
    (shorter : Segment.SpellsAll template.segments header)
    (fewer : cut.countP isDecimal ≤ literal.countP isDecimal) :
    (cut.Within isBlank ↔ cut.countP isDecimal < 4) ∧
      (template.GivesBackBlanks → cut.Within isBlank) := by
  have alternating := alternates_of_parse parsed
  have blankIff : cut.Within isBlank ↔ cut.countP isDecimal < 4 := by
    rw [shape] at alternating longer shorter
    exact Segment.within_isBlank_iff_of_spellsAll alternating longer shorter
  refine ⟨blankIff, ?_⟩
  rintro (closes | few)
  · have shownAlike : (header ++ cut ++ []).trimLeft = (header ++ cut).trimLeft := by
      rw [List.append_nil]
    have nothing := Segment.trimLeft_eq_of_spellsAll
      (Segment.unnamed_of_alternates alternating) closes longer shorter shownAlike
    exact List.dropWhile_eq_nil_iff.1 nothing.symm
  · have final : template.segments.getLast? = some (.text literal) := by
      rw [shape, List.getLast?_concat]
    exact blankIff.2 (Nat.lt_of_le_of_lt fewer (few literal final))

/-- Whatever is reported on a header, a fix writes it anew above the text without it. -/
theorem exists_fix?_of_match?
    (searched : template.match? current text = .ok (some found)) :
    ∃ analysis outcome,
      template.analyze current text = .ok analysis ∧
      template.fix? current text analysis.diagnostics = .ok outcome ∧
      ∀ fix ∈ outcome, fix.text = template.render current found.kept ++ text.without (some found) := by
  refine ⟨.ofOutcome text (some found), ?_⟩
  by_cases clean : (Analysis.ofOutcome text (some found)).diagnostics = []
  · refine ⟨none, analyze_of_match? searched, fix?_of_clean clean, ?_⟩
    intro fix nothing
    cases nothing
  · refine ⟨_, analyze_of_match? searched, fix?_of_reported searched clean, ?_⟩
    rintro _ ⟨⟩
    rfl

/-- The header that is reported begins where the patterns begin to read, and what they read beyond
its end is given back to the text.  That is blank exactly if it has fewer digits than a year, and so
for every text if the template gives back blanks only.  A fix leaves what is above the header, what
is given back and what is below, in this order. -/
theorem match?_gives_back
    (parsed : parse source = .ok template)
    (searched : template.match? current text = .ok (some found)) :
    ∃ whole above header cut below analysis outcome,
      Found.searchFrom template.patterns 0 text = some whole ∧
      whole.start = found.start ∧
      Piece.joined whole.pieces = header ++ cut ∧
      text = above ++ (header ++ (cut ++ below)) ∧
      above.length = found.start ∧
      header.length = found.length ∧
      (cut.Within isBlank ↔ cut.countP isDecimal < 4) ∧
      (template.GivesBackBlanks → cut.Within isBlank) ∧
      template.analyze current text = .ok analysis ∧
      template.fix? current text analysis.diagnostics = .ok outcome ∧
      ∀ fix ∈ outcome,
        fix.text = template.render current found.kept ++ (above ++ (cut ++ below)) := by
  rcases exists_find?_of_match? searched with ⟨pieces, present, length, -⟩
  rw [find?, Option.map_eq_some_iff] at present
  rcases present with ⟨whole, read, corrected⟩
  rcases Found.searchFrom_eq_some read with ⟨above, after, rfl, start, front, -⟩
  rcases Piece.readAll_eq_some front with ⟨below, rfl, -, pairs⟩
  rcases Found.exists_joined_correct template.segments template.patterns whole with ⟨sameStart, -⟩
  rcases Found.exists_cut pairs with ⟨cut, joined, ending⟩
  rw [← patterns, corrected] at joined ending
  rw [corrected] at sameStart
  have blank : (cut.Within isBlank ↔ cut.countP isDecimal < 4) ∧
      (template.GivesBackBlanks → cut.Within isBlank) := by
    rcases ending with rfl | ⟨init, literal, shape, shorter, fewer⟩
    · simp [Text.Within]
    · have longer := Piece.spellsAll_joined pairs
      rw [joined] at longer
      exact within_isBlank_of_cut parsed shape longer shorter fewer
  have aboveLength : above.length = found.start := by
    rw [Nat.zero_add] at start
    exact start.symm.trans sameStart.symm
  have place : above ++ (Piece.joined whole.pieces ++ below) =
      above ++ (Piece.joined pieces ++ (cut ++ below)) := by
    rw [joined, List.append_assoc]
  have remainder : Text.without (above ++ (Piece.joined pieces ++ (cut ++ below))) (some found) =
      above ++ (cut ++ below) := by
    rw [Text.without, Match.stop, ← aboveLength, ← length, List.take_left, ← List.drop_drop,
      List.drop_left, List.drop_left]
  rcases exists_fix?_of_match? searched with ⟨analysis, outcome, analyzed, fixed, texts⟩
  refine ⟨whole, above, Piece.joined pieces, cut, below, analysis, outcome, read, sameStart.symm,
    joined, place, aboveLength, length, blank.1, blank.2, analyzed, fixed, ?_⟩
  intro fix member
  rw [texts fix member, place, remainder]

theorem match?_gives_back_sample :
    ∃ (found : Match) (cut below : Text),
      spacedSample.match? sampleYear "// x\r\n\r\ncode".toList = .ok (some found) ∧
      found.length = 6 ∧
      cut ++ below = "\r\ncode".toList ∧
      cut ≠ [] ∧
      cut.Within isBlank := by
  have parsed : parse "// x\n\n".toList = .ok spacedSample := by
    decide +kernel
  have searched : spacedSample.match? sampleYear "// x\r\n\r\ncode".toList =
      .ok (some ⟨0, 6, [⟨true, [], [], .nothing⟩]⟩) := by
    decide +kernel
  have closes : spacedSample.GivesBackBlanks := Or.inl (by decide)
  have wholeRead : (Found.searchFrom spacedSample.patterns 0
      "// x\r\n\r\ncode".toList).map (fun whole =>
        (Piece.joined whole.pieces).length) = some 8 := by
    decide +kernel
  rcases match?_gives_back parsed searched with
    ⟨whole, above, header, cut, below, _, _, read, -, joined, place, atTop, length, -, blank, -⟩
  have nothing : above = [] := List.length_eq_zero_iff.1 atTop
  rw [nothing, List.nil_append] at place
  rw [read, Option.map_some, joined, List.length_append, length] at wholeRead
  have remainder : cut ++ below = "\r\ncode".toList := by
    have rest := congrArg (List.drop header.length) place
    rw [List.drop_left, length] at rest
    exact rest.symm
  refine ⟨_, cut, below, searched, rfl, remainder, ?_, blank closes⟩
  rintro rfl
  simp at wholeRead

/-- A template whose last text may be taken for the second half of its range. -/
def rangedSample : Template where
  segments := [.yearRange, .text [' ', '-', ' ', '2', '0', '2', '4', '\n']]
  occupied := by simp

/-- A text in which the patterns read a whole range before the last text, with blanks inside. -/
def rangedText : Text :=
  "2020 - 2024       \n - 2024\n".toList

/-- The shorter header is read with the second half of the range as the last text, and a dash and a
year are given back. -/
theorem match?_gives_back_year :
    parse "\x7bYearRange\x7d - 2024\n".toList = .ok rangedSample ∧
      (Found.searchFrom rangedSample.patterns 0 rangedText).map (fun whole =>
        (whole.start, Piece.joined whole.pieces)) = some (0, rangedText) ∧
      (rangedSample.match? sampleYear rangedText).map (·.map fun found =>
        (found.start, found.length)) = .ok (some (0, 19)) ∧
      rangedText.drop 19 = " - 2024\n".toList ∧
      ¬ Text.Within isBlank (rangedText.drop 19) ∧
      ((rangedSample.analyze sampleYear rangedText).bind fun analysis =>
        (rangedSample.fix? sampleYear rangedText analysis.diagnostics).map (·.map (·.text))) =
          .ok (some "2020–2024 - 2024\n - 2024\n".toList) := by
  decide +kernel

end Template

end Masthead
