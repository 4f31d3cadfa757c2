import Masthead.Proofs.Segment.Literal
import Masthead.Proofs.Text.Numeral
import Masthead.Segment.Render

/-!
# A segment reads what it has written

The pattern of a text, a year or a range prefers to read what the segment has written, provided that
what follows lets the reading stop there: a text must end a line or be followed by something shown,
and a range must be followed by something shown other than a dash.  The meaning of the reading is
exact and keeps what the segment was written from.
-/

namespace Masthead

namespace Text

/-- A text that opens plainly does not begin with the second half of a range. -/
theorem not_isRangeTail_of_opensPlainly
    {front rest : Text}
    (plain : opensPlainly (front ++ rest) = true) :
    ¬ front.IsRangeTail := by
  rintro ⟨before, dashes, after, year, rfl, blankBefore, ⟨occupied, areDashes⟩, -⟩
  cases dashes with
  | nil => exact occupied rfl
  | cons c dashes =>
    have dash := areDashes c List.mem_cons_self
    rw [List.append_assoc, List.cons_append, List.cons_append, opensPlainly,
      trimLeft_append_of_within blankBefore,
      trimLeft_of_shown (not_isBlank_of_isDash dash)] at plain
    simp [dash] at plain

end Text

namespace Kept

/-- The start year that is kept, if any. -/
def startYear? : Kept → Option Int
  | startYear year => some year
  | _ => none

theorem forall_startYear_cons
    {holds : Int → Prop} {one : Kept} {kept : List Kept} :
    (∀ start ∈ (one :: kept).filterMap startYear?, holds start) ↔
      (∀ start ∈ one.startYear?, holds start) ∧
        ∀ start ∈ kept.filterMap startYear?, holds start := by
  cases year : one.startYear? with
  | none => simp [year]
  | some start => simp [year]

end Kept

namespace Segment

/-! ## Writing and reading one segment -/

/-- What a segment can write and read again: a start year of four digits for a range, and nothing
for a text or a year.  Names are left out. -/
def Rewritable : Segment → Kept → Prop
  | .yearRange, kept => ∃ start : Nat, kept = .startYear start ∧ 1000 ≤ start ∧ start ≤ 9999
  | .name _, _ => False
  | _, kept => kept = .nothing

/-- What a segment captures from what it has written in a year. -/
def captured (segment : Segment) (written : CurrentYear) (kept : Kept) : List Text :=
  match segment, kept with
  | .yearRange, .startYear start =>
      if start == written.value then [numeral start] else [numeral start, numeral written.value]
  | _, _ => []

/-- The piece that a segment reads from what it has written in a year. -/
def writtenPiece (written : CurrentYear) (segment : Segment) (kept : Kept) : Piece :=
  ⟨segment.render written kept, segment.captured written kept⟩

/-- The outcome of reading in one year what a segment has written in another. -/
def rereading (now written : CurrentYear) (segment : Segment) (kept : Kept) : SegmentResult :=
  match segment, kept with
  | .year, _ => ⟨false, futurity written.value now, staleness written.value now, .nothing⟩
  | .yearRange, .startYear start =>
      interpretRange now (formatYearRange start written.value) start written.value
  | _, _ => ⟨false, [], [], kept⟩

attribute [local simp] captured rereading

/-- Where reading a segment stops before a rest. -/
def StopsBefore (segment : Segment) (rest : Text) : Prop :=
  match segment with
  | .text literal => literal.StopsBefore rest
  | .yearRange => rest.opensPlainly = true
  | _ => True

theorem prefers_year
    {text : Text}
    (isYear : text.IsYear)
    (rest : Text) :
    yearPattern.Prefers (text ++ rest) [] rest := by
  rcases isYear with ⟨length, decimals⟩
  have prefers := Pattern.prefers_times .decimal decimals rest
  rwa [length] at prefers

theorem isYear_current (current : CurrentYear) : (numeral current.value).IsYear :=
  isYear_numeral current.least_le current.le_greatest

theorem notMem_numeral {c : Char} (other : isDecimal c = false) (current : CurrentYear) :
    c ∉ numeral current.value := by
  intro member
  rw [(isYear_current current).2 c member] at other
  cases other

theorem exists_cons_of_isYear {text : Text} (isYear : text.IsYear) :
    ∃ c rest, text = c :: rest ∧ isDecimal c = true := by
  rcases isYear with ⟨length, decimals⟩
  cases text with
  | nil => cases length
  | cons c rest => exact ⟨c, rest, rfl, decimals c List.mem_cons_self⟩

/-- A range prefers to read a single year if no second half can follow. -/
theorem prefers_yearRange_single
    {start rest : Text}
    (isStart : start.IsYear)
    (plain : rest.opensPlainly = true) :
    yearRangePattern.Prefers (start ++ rest) [⟨start ++ rest, rest⟩] rest := by
  apply Pattern.Prefers.sequence (prefers_year isStart rest).group
  apply Pattern.prefers_optional_absent
  rintro front back rfl ⟨before, _, rfl, blankBefore, dashes, _, rfl, areDashes, after, year, rfl,
    blankAfter, isYear⟩
  exact Text.not_isRangeTail_of_opensPlainly plain
    ⟨before, dashes, after, year, rfl, blankBefore, areDashes, blankAfter, isYear⟩

/-- An en dash and a year are the second half of a range. -/
theorem isRangeTail_cons
    {year : Text}
    (isYear : year.IsYear) :
    Text.IsRangeTail ('–' :: year) := by
  refine ⟨[], ['–'], [], year, rfl, by simp [Text.Within], ⟨by simp, ?_⟩, by simp [Text.Within],
    isYear⟩
  rintro _ (_ | ⟨_, ⟨⟩⟩)
  rfl

/-- A range prefers to read two years with a dash between them, whatever follows. -/
theorem prefers_yearRange_both
    {start stop : Text}
    (isStart : start.IsYear)
    (isStop : stop.IsYear)
    (rest : Text) :
    yearRangePattern.Prefers (start ++ ('–' :: stop ++ rest))
      [⟨start ++ ('–' :: stop ++ rest), '–' :: stop ++ rest⟩, ⟨stop ++ rest, rest⟩] rest := by
  rcases exists_cons_of_isYear isStop with ⟨c, digits, shape, decimal⟩
  have dash : (Pattern.plus .dash).Prefers (['–'] ++ (stop ++ rest)) [] (stop ++ rest) := by
    apply Pattern.prefers_plus .dash (by simp)
    · simp [CharSet.accepts, CharSet.isDash]
    · rw [shape]
      rintro _ ⟨⟩
      exact not_isDash_of_isDecimal decimal
  refine (prefers_year isStart _).group.sequence (Pattern.Prefers.optional_present ?_)
  apply Pattern.Prefers.silent_sequence (Pattern.prefers_star_absent .blank ?_)
  · apply dash.silent_sequence
    apply Pattern.Prefers.silent_sequence (Pattern.prefers_star_absent .blank ?_)
    · exact (prefers_year isStop rest).group
    · rw [shape]
      rintro _ ⟨⟩
      exact not_isBlank_of_isDecimal decimal
  · rintro _ ⟨⟩
    rfl

/-- A range that is written as two years is read as these, whatever follows. -/
theorem exists_prefers_yearRange_of_ne
    {start : Nat} {written : CurrentYear}
    (isStart : (numeral (start : Int)).IsYear)
    (different : (start : Int) ≠ written.value)
    (rest : Text) :
    ∃ captures,
      yearRangePattern.Prefers (render .yearRange written (.startYear start) ++ rest) captures
          rest ∧
        captures.map Stretch.text = captured .yearRange written (.startYear start) := by
  rw [render, captured, formatYearRange, if_neg (by simpa using different),
    if_neg (by simpa using different), List.append_assoc]
  refine ⟨_, prefers_yearRange_both isStart (isYear_current written) rest, ?_⟩
  simp

/-- A segment prefers to read what it has written, if reading it stops before what follows. -/
theorem exists_prefers_render
    {segment : Segment} {kept : Kept} {rest : Text}
    (rewritable : segment.Rewritable kept)
    (written : CurrentYear)
    (stops : segment.StopsBefore rest) :
    ∃ captures,
      segment.pattern.Prefers (segment.render written kept ++ rest) captures rest ∧
        captures.map Stretch.text = segment.captured written kept := by
  cases segment with
  | text literal => exact ⟨[], Token.prefers_ofLiteral stops, rfl⟩
  | year => exact ⟨[], prefers_year (isYear_current written) rest, rfl⟩
  | yearRange =>
    rcases rewritable with ⟨start, rfl, least, greatest⟩
    have isStart := isYear_numeral least greatest
    by_cases same : (start : Int) = written.value
    · rw [render, captured, formatYearRange, if_pos (beq_iff_eq.2 same),
        if_pos (beq_iff_eq.2 same)]
      exact ⟨_, prefers_yearRange_single isStart stops, by simp⟩
    · exact exists_prefers_yearRange_of_ne isStart same rest
  | name placeholder => cases rewritable

/-! ## What the reading means -/

theorem differs_eq_false_iff {expected actual : Text} :
    differs expected actual = false ↔
      actual.length = expected.length ∧ actual.lower = expected.lower := by
  simp [differs, @eq_comm _ actual.length, @eq_comm _ actual.lower]

theorem differs_self (text : Text) : differs text text = false := by
  simp [differs]

theorem readYear_numeral
    {value : Nat}
    (least : 1000 ≤ value)
    (greatest : value ≤ 9999) :
    readYear (numeral value) = .ok value := by
  rw [(readYear_of_isYear (isYear_numeral least greatest)).1, decimalValue_numeral]

/-- What a segment has written means what it was written from. -/
theorem interpret_writtenPiece
    {segment : Segment} {kept : Kept}
    (rewritable : segment.Rewritable kept)
    (now written : CurrentYear)
    (length : Int) :
    segment.interpret now (segment.render written kept) length (segment.captured written kept) =
      .ok (segment.rereading now written kept) := by
  have current := readYear_numeral written.least_le written.le_greatest
  cases segment with
  | text literal =>
    cases rewritable
    rw [interpret, render, differs_self]
    rfl
  | year =>
    rw [interpret, render, current]
    rfl
  | yearRange =>
    rcases rewritable with ⟨start, rfl, least, greatest⟩
    have first := readYear_numeral least greatest
    rw [render, captured]
    by_cases same : (start : Int) = written.value
    · rw [if_pos (beq_iff_eq.2 same)]
      simp only [interpret, rereading, first, ← same]
      rfl
    · rw [if_neg (by simpa using same)]
      simp only [interpret, rereading, first, current]
      rfl
  | name placeholder => cases rewritable

theorem kept_rereading
    {segment : Segment} {kept : Kept}
    (rewritable : segment.Rewritable kept)
    (now written : CurrentYear) :
    (segment.rereading now written kept).kept = kept := by
  cases segment with
  | text literal => rfl
  | year => exact rewritable.symm
  | yearRange =>
    rcases rewritable with ⟨start, rfl, -, -⟩
    rfl
  | name placeholder => cases rewritable

theorem isInexact_rereading
    (now written : CurrentYear) (segment : Segment) (kept : Kept) :
    (segment.rereading now written kept).isInexact = false := by
  unfold rereading
  split
  · rfl
  · exact differs_self _
  · rfl

/-- What has been written in the same year is not out of date. -/
theorem notices_rereading (now : CurrentYear) (segment : Segment) (kept : Kept) :
    (segment.rereading now now kept).notices = [] := by
  unfold rereading
  split
  · simp [staleness]
  · simp [interpretRange, staleness]
  · rfl

/-- What has been written in the same year is at fault exactly if a range starts later. -/
theorem faults_rereading_eq_nil_iff
    {segment : Segment} {kept : Kept}
    (rewritable : segment.Rewritable kept)
    (now : CurrentYear) :
    (segment.rereading now now kept).faults = [] ↔
      ∀ start ∈ kept.startYear?, start ≤ now.value := by
  cases segment with
  | text literal =>
    cases rewritable
    simp [Kept.startYear?]
  | year =>
    cases rewritable
    simp [futurity, Kept.startYear?]
  | yearRange =>
    rcases rewritable with ⟨start, rfl, -, -⟩
    simp [interpretRange, futurity, Kept.startYear?]
  | name placeholder => cases rewritable

end Segment

end Masthead
