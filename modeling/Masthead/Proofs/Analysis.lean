import Masthead.Proofs.Fix
import Masthead.Proofs.Text.Decimal

/-!
# What a clean analysis says

If nothing is reported on a text, its header stands at the top and is what would be written anew,
segment by segment, but for the case of letters.  Only a year may differ in more: it is read as a
number and never compared with what would be written, so that it may have the digits of any script.
-/

namespace Masthead

namespace SegmentResult

/-- A segment is in order: exact, without fault and up to date. -/
def IsInOrder (result : SegmentResult) : Prop :=
  result.isInexact = false ∧ result.faults = [] ∧ result.notices = []

end SegmentResult

namespace Match

/-- Every segment of a header that is in order is in order. -/
theorem IsInOrder.of_mem
    {found : Match} {result : SegmentResult}
    (inOrder : found.IsInOrder)
    (member : result ∈ found.results) :
    result.IsInOrder := by
  rcases inOrder with ⟨exact, faultless, upToDate⟩
  rw [isInexact, List.any_eq_false] at exact
  rw [faults, List.flatMap_eq_nil_iff] at faultless
  rw [notices, List.flatMap_eq_nil_iff] at upToDate
  exact ⟨by simpa using exact result member, faultless result member, upToDate result member⟩

end Match

namespace Segment

/-! ## One segment -/

/-- What stands in a header for a segment is what the segment would write, up to the case of
letters; but a year only needs to be the current one, and it is what would be written exactly if its
digits are Latin. -/
def IsUpToDate (segment : Segment) (current : CurrentYear) (kept : Kept) (text : Text) : Prop :=
  text.length = (segment.render current kept).length ∧
    match segment with
    | .year =>
        text.IsYear ∧ decimalValue text = current.value ∧
          (text.lower = (segment.render current kept).lower ↔ text.Within Char.isDigit)
    | _ => text.lower = (segment.render current kept).lower

theorem eq_current_of_isInOrder
    {year : Int} {current : CurrentYear}
    (noFault : futurity year current = [])
    (noNotice : staleness year current = []) :
    year = current.value := by
  have notAfter : ¬ (current.value : Int) < year := by simpa [futurity] using noFault
  have notBefore : ¬ year < current.value := by simpa [staleness] using noNotice
  omega

/-- A current year is spelled as it would be written, up to the case of letters, exactly if its
digits are Latin. -/
theorem lower_eq_numeral_iff
    {year : Text} {current : CurrentYear}
    (isYear : year.IsYear)
    (read : decimalValue year = current.value) :
    year.lower = (numeral current.value).lower ↔ year.Within Char.isDigit := by
  rw [Text.lower_of_within_isDecimal isYear.2,
    Text.lower_of_within_isDecimal (isYear_current current).2]
  constructor
  · intro same
    rw [same]
    exact within_isDigit_numeral current.value
  · intro latin
    exact eq_numeral_of_isYear isYear latin current.least_le current.le_greatest read

/-- A piece is what a segment reads; but the piece of a text may have been cut. -/
def ReadsUncut (segment : Segment) (piece : Piece) : Prop :=
  (∀ literal, segment ≠ .text literal) → Piece.ReadBy segment.pattern piece

theorem isUpToDate_of_interpretRange
    {start stop : Int} {current : CurrentYear} {text : Text}
    (inOrder : (interpretRange current text start stop).IsInOrder) :
    yearRange.IsUpToDate current (.startYear start) text := by
  rcases inOrder with ⟨exact, faultless, upToDate⟩
  have ending := eq_current_of_isInOrder (List.append_eq_nil_iff.1 faultless).2 upToDate
  rw [interpretRange, ending] at exact
  exact differs_eq_false_iff.1 exact

/-- Whatever a segment reads is up to date if it is in order. -/
theorem isUpToDate_of_interpret
    {segment : Segment} {piece : Piece} {current : CurrentYear} {length : Int}
    {result : SegmentResult}
    (unnamed : ∀ placeholder, segment ≠ .name placeholder)
    (reads : segment.ReadsUncut piece)
    (interpreted : segment.interpret current piece.text length piece.captures = .ok result)
    (inOrder : result.IsInOrder) :
    segment.IsUpToDate current result.kept piece.text := by
  cases segment with
  | text literal =>
    cases interpreted
    exact differs_eq_false_iff.1 inOrder.1
  | year =>
    have isYear : piece.text.IsYear := (reads (by simp)).accepts
    rw [interpret, (readYear_of_isYear isYear).1] at interpreted
    cases interpreted
    have value := Int.ofNat_inj.1 (eq_current_of_isInOrder inOrder.2.1 inOrder.2.2)
    refine ⟨?_, isYear, value, lower_eq_numeral_iff isYear value⟩
    exact isYear.1.trans (isYear_current current).1.symm
  | yearRange =>
    rcases captures_of_reads_yearRange (reads (by simp)) with
      ⟨start, tail, -, isStart, ⟨-, captured⟩ | ⟨-, stop, isStop, -, captured⟩⟩
    · rw [captured, interpret, (readYear_of_isYear isStart).1] at interpreted
      cases interpreted
      exact isUpToDate_of_interpretRange inOrder
    · rw [captured, interpret, (readYear_of_isYear isStart).1, (readYear_of_isYear isStop).1]
        at interpreted
      cases interpreted
      exact isUpToDate_of_interpretRange inOrder
  | name placeholder => exact absurd rfl (unnamed placeholder)

/-! ## All segments -/

/-- Every piece of a header is up to date for its segment and what is kept from it. -/
def AllUpToDate (current : CurrentYear) : List Segment → List Kept → List Piece → Prop
  | segment :: segments, one :: kept, piece :: pieces =>
      segment.IsUpToDate current one piece.text ∧ AllUpToDate current segments kept pieces
  | [], [], [] => True
  | _, _, _ => False

variable {segments : List Segment} {pieces : List Piece} {current : CurrentYear}

theorem allUpToDate_of_interpretAll
    {results : List SegmentResult}
    (unnamed : ∀ placeholder, .name placeholder ∉ segments)
    (reads : List.Forall₂ ReadsUncut segments pieces)
    (interpreted : Found.interpretAll current segments pieces = .ok results)
    (inOrder : ∀ result ∈ results, result.IsInOrder) :
    AllUpToDate current segments (results.map (·.kept)) pieces := by
  induction reads generalizing results with
  | nil =>
    cases interpreted
    trivial
  | @cons segment piece segments pieces read _ ih =>
    have unnamedFirst := ne_name_of_unnamed unnamed
    have unnamedRest := unnamed_of_cons unnamed
    rcases Found.exists_of_interpretAll_cons interpreted with ⟨result, rest, first, others, rfl⟩
    have inOrderRest : ∀ later ∈ rest, later.IsInOrder :=
      fun later member => inOrder later (List.mem_cons_of_mem result member)
    constructor
    · exact isUpToDate_of_interpret unnamedFirst read first (inOrder result List.mem_cons_self)
    · exact ih unnamedRest others inOrderRest

/-- A header that is up to date is as long as the one that would be written. -/
theorem length_of_allUpToDate
    {kept : List Kept}
    (upToDate : AllUpToDate current segments kept pieces) :
    (renderAll current segments kept).length = (Piece.joined pieces).length := by
  fun_induction AllUpToDate current segments kept pieces with
  | case1 segment segments one kept piece pieces ih =>
    rw [renderAll, List.head?_cons, Option.getD_some, List.tail_cons, Piece.joined_cons,
      List.length_append, List.length_append, ih upToDate.2, upToDate.1.1]
  | case2 => rfl
  | case3 => cases upToDate

end Segment

namespace Template

variable {template : Template} {current : CurrentYear} {text : Text} {analysis : Analysis}

/-- Where a header was found, its pieces stand in the text, and the segments read them, but for a
text whose piece may have been cut. -/
theorem exists_readsUncut_of_find?
    {found : Found}
    (present : template.find? text = some found) :
    ∃ above below : Text,
      text = above ++ (Piece.joined found.pieces ++ below) ∧ above.length = found.start ∧
        List.Forall₂ Segment.ReadsUncut template.segments found.pieces := by
  rcases exists_whole_of_find? present with
    ⟨whole, above, below, corrected, pairs, place, start, -⟩
  refine ⟨above, below, place, start, ?_⟩
  rw [patterns, List.forall₂_map_left_iff] at pairs
  have uncut : List.Forall₂ Segment.ReadsUncut template.segments whole.pieces := by
    apply pairs.imp
    intro segment piece read _
    exact read
  rw [corrected]
  exact Found.forall₂_correct (fun literal piece noText => absurd rfl (noText literal)) uncut
    template.patterns

/-- If nothing is reported on a text, a header stands at the top of it that is as long as the one
that would be written anew, and up to date in every segment. -/
theorem analyze_clean
    (unnamed : ∀ placeholder, .name placeholder ∉ template.segments)
    (analyzed : template.analyze current text = .ok analysis)
    (clean : analysis.diagnostics = []) :
    ∃ found pieces below,
      template.match? current text = .ok (some found) ∧
      found.start = 0 ∧
      template.find? text = some ⟨0, pieces⟩ ∧
      text = Piece.joined pieces ++ below ∧
      found.length = (Piece.joined pieces).length ∧
      template.evaluate current (some text) =
        .ok ⟨Segment.renderAll current template.segments found.kept, some (0, found.length)⟩ ∧
      (Segment.renderAll current template.segments found.kept).length = found.length ∧
      Segment.AllUpToDate current template.segments found.kept pieces := by
  rcases exists_match? template current text with ⟨outcome, searched, -⟩
  cases (analyze_of_match? searched).symm.trans analyzed
  cases outcome with
  | none => cases clean
  | some found =>
    rcases Analysis.diagnosticsOf_eq_nil_iff.1 clean with ⟨atTop, inOrder⟩
    rcases exists_find?_of_match? searched with ⟨pieces, present, length, interpreted⟩
    rcases exists_readsUncut_of_find? present with ⟨above, below, place, start, reads⟩
    have nothingAbove : above = [] := List.eq_nil_of_length_eq_zero (start.trans atTop)
    rw [nothingAbove, List.nil_append] at place
    have upToDate : Segment.AllUpToDate current template.segments found.kept pieces :=
      Segment.allUpToDate_of_interpretAll unnamed reads interpreted
        fun result member => Match.IsInOrder.of_mem inOrder member
    have written := Segment.length_of_allUpToDate upToDate
    refine ⟨found, pieces, below, searched, atTop, ?_, place, length.symm, ?_,
      written.trans length, upToDate⟩
    · rwa [atTop] at present
    · rw [evaluate_of_match? searched, Option.map_some, atTop]
      rfl

/-- The analysis of a text whose header is in order, though not in the case of the template. -/
def cleanSample : Analysis where
  state := .headerMatchedExact
  diagnostics := []
  found := some ⟨0, 14,
    [⟨false, [], [], .nothing⟩, ⟨false, [], [], .startYear 2019⟩, ⟨false, [], [], .nothing⟩]⟩

theorem analyze_clean_sample :
    ∃ found pieces,
      sample.analyze sampleYear "# 2019–2024 a\nx".toList = .ok cleanSample ∧
      sample.match? sampleYear "# 2019–2024 a\nx".toList = .ok (some found) ∧
      sample.find? "# 2019–2024 a\nx".toList = some ⟨0, pieces⟩ ∧
      Segment.AllUpToDate sampleYear sample.segments found.kept pieces := by
  have analyzed : sample.analyze sampleYear "# 2019–2024 a\nx".toList = .ok cleanSample := by
    decide +kernel
  rcases analyze_clean (by simp [sample]) analyzed rfl with
    ⟨found, pieces, below, searched, -, present, -, -, -, -, upToDate⟩
  exact ⟨found, pieces, analyzed, searched, present, upToDate⟩

/-- A template whose header is one line with the current year. -/
def yearSample : Template where
  segments := [.text ['#', ' '], .year, .text ['\n']]
  occupied := by simp

/-- A current year in Arabic digits is clean, though it is not what would be written. -/
theorem analyze_clean_other_digits :
    (yearSample.analyze sampleYear "# ٢٠٢٤\n".toList).map (·.diagnostics) = .ok [] ∧
      yearSample.find? "# ٢٠٢٤\n".toList =
        some ⟨0, [⟨"# ".toList, []⟩, ⟨"٢٠٢٤".toList, []⟩, ⟨"\n".toList, []⟩]⟩ ∧
      yearSample.evaluate sampleYear (some "# ٢٠٢٤\n".toList) =
        .ok ⟨"# 2024\n".toList, some (0, 7)⟩ ∧
      Text.lower "٢٠٢٤".toList ≠ Text.lower "2024".toList := by
  decide +kernel

end Template

end Masthead
