import Masthead.Proofs.Fix
import Masthead.Proofs.Segment.Digits

/-!
# A header that stands alone

A header that a template has written is read again by itself, with nothing below.  Its texts stop
where the next year begins or where the header ends, and a range of two years is read whole.  Only
a range that is written as a single year may be read too far, if what follows it looks like the
second half of a range.  It is not when every later range is a single year too, since then too few
digits would be left.

So a fresh header is always recognised as itself, whatever the template.
-/

namespace Masthead

/-- A text begins with the second half of a range. -/
def Text.ContinuesRange (text : Text) : Prop :=
  ∃ front back : Text, text = front ++ back ∧ front.IsRangeTail

theorem Text.not_continuesRange_of_opensPlainly
    {text : Text}
    (plain : text.opensPlainly = true) :
    ¬ text.ContinuesRange := by
  rintro ⟨front, back, rfl, isTail⟩
  exact not_isRangeTail_of_opensPlainly plain isTail

namespace Segment

variable {segments : List Segment} {kept : List Kept} {written : CurrentYear}

/-! ## Ranges that are kept apart -/

/-- Each range that is written as a single year is kept apart from what follows: no second half of a
range follows it, or all later ranges are written as single years too. -/
def RangesApart (written : CurrentYear) : List Segment → List Kept → Prop
  | _ :: segments, one :: kept =>
      (one.startYear? = some (written.value : Int) →
        ¬ (renderAll written segments kept).ContinuesRange ∨
          ∀ later ∈ kept.filterMap Kept.startYear?, later = written.value) ∧
        RangesApart written segments kept
  | _, _ => True

/-- Ranges that are all written as single years are kept apart. -/
theorem rangesApart_of_single
    (singles : ∀ start ∈ kept.filterMap Kept.startYear?, start = written.value) :
    RangesApart written segments kept := by
  induction kept generalizing segments with
  | nil => cases segments <;> trivial
  | cons one kept ih =>
    rcases Kept.forall_startYear_cons.1 singles with ⟨-, others⟩
    cases segments with
    | nil => trivial
    | cons segment segments => exact ⟨fun _ => Or.inr others, ih others⟩

/-! ## Reading all segments -/

/-- Ranges that are all written as single years are spelled by single years. -/
theorem spellsAll_single_renderAll
    (rewritable : List.Forall₂ Rewritable segments kept)
    (singles : ∀ start ∈ kept.filterMap Kept.startYear?, start = written.value) :
    SpellsAll (segments.map single) (renderAll written segments kept) := by
  induction rewritable with
  | nil => rfl
  | @cons segment one segments kept first _ ih =>
    rcases Kept.forall_startYear_cons.1 singles with ⟨ofFirst, others⟩
    refine ⟨segment.render written one, renderAll written segments kept, rfl, ?_, ih others⟩
    cases segment with
    | text literal => exact Token.spellsAll_of_cutsInto (Token.cutsInto_ofLiteral literal)
    | year => exact isYear_current written
    | yearRange =>
      rcases first with ⟨start, rfl, -, -⟩
      have same : (start : Int) = written.value := ofFirst start rfl
      rw [render, formatYearRange, if_pos (beq_iff_eq.2 same), same]
      exact isYear_current written
    | name placeholder => cases first

/-- Ranges are written as single years afresh. -/
theorem spellsAll_single_renderAll_fresh
    (unnamed : ∀ placeholder, .name placeholder ∉ segments)
    (current : CurrentYear) :
    SpellsAll (segments.map single) (renderAll current segments []) := by
  rw [← renderAll_initial]
  exact spellsAll_single_renderAll (Template.rewritable_initial_of_unnamed unnamed current)
    fun _ => Template.startYear_of_mem_initial

/-- A text stops where a year begins and where the header ends. -/
theorem stopsBefore_renderAll_of_text
    {literal : Text}
    (alternating : alternates (.text literal :: segments) = true)
    (rewritable : List.Forall₂ Rewritable segments kept)
    (written : CurrentYear) :
    literal.StopsBefore (renderAll written segments kept) := by
  intro _ _
  right
  cases rewritable with
  | nil =>
    rintro _ ⟨⟩
  | @cons next one _ _ first _ =>
    have isYear : next = .year ∨ next = .yearRange := by
      cases next <;> simp_all [alternates]
    rcases exists_cons_render_of_year isYear first written with ⟨c, rest, shape, decimal⟩
    simp only [renderAll, List.head?_cons, Option.getD_some, shape]
    rintro _ ⟨⟩
    exact not_isBlank_of_isDecimal decimal

/-- A range reads a single year if the others read nothing after the second half of a range. -/
theorem readFront_yearRange_of_refused
    {start rest : Text} {pieces : List Piece}
    (isStart : start.IsYear)
    (refused : ∀ tail left, rest = tail ++ left → tail.IsRangeTail →
      Piece.readFront (segments.map pattern) left = none)
    (read : Piece.readFront (segments.map pattern) rest = some pieces) :
    Piece.readFront ((.yearRange :: segments).map pattern) (start ++ rest) =
      some (⟨start, [start]⟩ :: pieces) := by
  have first := (prefers_year isStart rest).group
  rw [Piece.readFront] at read
  rw [List.map_cons, Piece.readFront, Piece.readAll, pattern, yearRangePattern_eq, Pattern.run,
    first]
  all_goals
    rw [Pattern.run_optional_of_refused]
    · simp [read]
    · intro tail left captures place accepted
      have unread := refused tail left place (accepts_rangeTailPattern_iff.1 accepted)
      rw [Piece.readFront] at unread
      rw [unread]
      rfl

/-- Single years leave too few digits after the second half of a range. -/
theorem readFront_eq_none_of_isRangeTail
    {whole tail left : Text}
    (unnamed : ∀ placeholder, .name placeholder ∉ segments)
    (singles : SpellsAll (segments.map single) whole)
    (place : whole = tail ++ left)
    (isTail : tail.IsRangeTail) :
    Piece.readFront (segments.map pattern) left = none := by
  rw [← Option.not_isSome_iff_eq_none, Piece.readFront_isSome_iff]
  rintro ⟨front, after, rfl, spelled⟩
  exact not_spellsAll_of_isRangeTail unnamed singles place isTail spelled

/-- A range reads what it has written, if it is kept apart from what follows. -/
theorem readFront_yearRange_renderAll
    {start : Nat} {pieces : List Piece}
    (unnamed : ∀ placeholder, .name placeholder ∉ segments)
    (apart : RangesApart written (.yearRange :: segments) (.startYear start :: kept))
    (isStart : (numeral (start : Int)).IsYear)
    (rewritable : List.Forall₂ Rewritable segments kept)
    (read : Piece.readFront (segments.map pattern) (renderAll written segments kept) =
      some pieces) :
    Piece.readFront ((.yearRange :: segments).map pattern)
        (render .yearRange written (.startYear start) ++ renderAll written segments kept) =
      some (writtenPiece written .yearRange (.startYear start) :: pieces) := by
  by_cases same : (start : Int) = written.value
  · have single : ((start : Int) == (written.value : Int)) = true := beq_iff_eq.2 same
    simp only [writtenPiece, render, captured, formatYearRange, single, if_true]
    apply readFront_yearRange_of_refused isStart _ read
    intro tail left place isTail
    rcases apart.1 (congrArg some same) with ends | singles
    · exact absurd ⟨tail, left, place, isTail⟩ ends
    · exact readFront_eq_none_of_isRangeTail unnamed
        (spellsAll_single_renderAll rewritable singles) place isTail
  · rcases exists_prefers_yearRange_of_ne isStart same (renderAll written segments kept) with
      ⟨captures, prefers, captured⟩
    exact readFront_cons_of_prefers prefers captured read

/-- The segments read all of what they have written, if its ranges are kept apart. -/
theorem readFront_renderAll_of_rangesApart
    (alternating : alternates segments = true)
    (apart : RangesApart written segments kept)
    (rewritable : List.Forall₂ Rewritable segments kept) :
    Piece.readFront (segments.map pattern) (renderAll written segments kept) =
      some (segments.zipWith (writtenPiece written) kept) := by
  induction rewritable with
  | nil => rfl
  | @cons segment one segments kept first others ih =>
    have alternatingRest := alternates_of_cons alternating
    have read := ih alternatingRest apart.2
    rw [List.zipWith_cons_cons, renderAll, List.head?_cons, Option.getD_some, List.tail_cons]
    cases segment with
    | text literal =>
      have stops := stopsBefore_renderAll_of_text alternating others written
      rcases exists_prefers_render first written stops with ⟨captures, prefers, captured⟩
      exact readFront_cons_of_prefers prefers captured read
    | year =>
      rcases exists_prefers_render first written trivial with ⟨captures, prefers, captured⟩
      exact readFront_cons_of_prefers prefers captured read
    | yearRange =>
      rcases first with ⟨start, rfl, least, greatest⟩
      exact readFront_yearRange_renderAll (unnamed_of_alternates alternatingRest) apart
        (isYear_numeral least greatest) others read
    | name placeholder => cases first

end Segment

namespace Template

variable {source : Text} {template : Template} {kept : List Kept} {written : CurrentYear}

/-- Each range that is written as a single year is kept apart from what follows it in the header. -/
def RangesApart (template : Template) (written : CurrentYear) (kept : List Kept) : Prop :=
  Segment.RangesApart written template.segments kept

/-- A template finds the header that it has written where this stands alone. -/
theorem match?_render_alone
    (alternating : Segment.alternates template.segments = true)
    (apart : template.RangesApart written kept)
    (rewritable : template.Rewritable kept)
    (now : CurrentYear) :
    template.match? now (template.render written kept) =
      .ok (some (template.rereading now written kept)) := by
  apply match?_of_readFront rewritable
  exact Segment.readFront_renderAll_of_rangesApart alternating apart rewritable

/-- A fresh header is recognised as itself: it is found at the top, over its whole length, exact,
without fault and up to date, and every range keeps the current year as its start. -/
theorem match?_renderFresh
    (parsed : parse source = .ok template)
    (current : CurrentYear) :
    ∃ found,
      template.match? current (template.renderFresh current) = .ok (some found) ∧
      found.start = 0 ∧
      found.length = (template.renderFresh current).length ∧
      found.isInexact = false ∧
      found.faults = [] ∧
      found.notices = [] ∧
      found.kept = template.segments.map (Segment.initial current) := by
  have alternating := alternates_of_parse parsed
  have rewritable : template.Rewritable (template.segments.map (Segment.initial current)) :=
    rewritable_initial alternating current
  have apart : template.RangesApart current (template.segments.map (Segment.initial current)) :=
    Segment.rangesApart_of_single fun _ => startYear_of_mem_initial
  have written : template.render current (template.segments.map (Segment.initial current)) =
      template.renderFresh current :=
    Segment.renderAll_initial template.segments current
  have found := match?_render_alone alternating apart rewritable current
  rw [written] at found
  refine ⟨_, found, rfl, congrArg List.length written, isInexact_rereading current current, ?_,
    notices_rereading current, kept_rereading rewritable current current⟩
  rw [faults_rereading_eq_nil_iff rewritable]
  intro start member
  exact Int.le_of_eq (startYear_of_mem_initial member)

/-- A template in which a range is followed by a dash and another range. -/
def dashedSample : Template where
  segments := [.yearRange, .text ['–'], .yearRange]
  occupied := by simp

theorem match?_renderFresh_sample :
    ∃ found,
      parse "\x7bYearRange\x7d–\x7bYearRange\x7d".toList = .ok dashedSample ∧
      dashedSample.match? sampleYear ['2', '0', '2', '4', '–', '2', '0', '2', '4'] =
        .ok (some found) ∧
      found.length = 9 ∧
      found.faults = [] ∧
      found.kept = [.startYear 2024, .nothing, .startYear 2024] := by
  have parsed : parse "\x7bYearRange\x7d–\x7bYearRange\x7d".toList = .ok dashedSample := by
    decide +kernel
  rcases match?_renderFresh parsed sampleYear with
    ⟨found, searched, -, length, -, faultless, -, kept⟩
  exact ⟨found, parsed, searched, length, faultless, kept⟩

end Template

end Masthead
