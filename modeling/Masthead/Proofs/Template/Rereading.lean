import Masthead.Proofs.Segment.Rereading
import Masthead.Proofs.Template.Parsed
import Masthead.Proofs.Template.Search
import Masthead.Template.Render

/-!
# A template finds the header it has written

A template whose texts, years and ranges alternate, whose ranges are each closed by a text that
opens plainly, and whose last text ends a line, reads a header that it has written as exactly that
header, whatever stands below.  So the header is found at the top of the text, it is left as it is
by the correction, and its meaning keeps what it was written from.
-/

namespace Masthead

namespace Segment

/-! ## Conditions on segments -/

/-- Whether each range is followed by a text that opens plainly. -/
def closesRanges : List Segment → Bool
  | [] => true
  | .yearRange :: .text literal :: rest =>
      literal.opensPlainly && closesRanges (.text literal :: rest)
  | .yearRange :: _ => false
  | _ :: rest => closesRanges rest

/-- Whether the last segment is a text that ends in a line feed. -/
def endsLine (segments : List Segment) : Bool :=
  match segments.getLast? with
  | some (.text literal) => literal.getLast? == some '\n'
  | _ => false

theorem closesRanges_of_cons
    {segment : Segment} {rest : List Segment}
    (closes : closesRanges (segment :: rest) = true) :
    closesRanges rest = true := by
  unfold closesRanges at closes
  split at closes <;> simp_all

/-- What follows a range that is closed is a text that opens plainly. -/
theorem exists_text_of_closesRanges
    {segments : List Segment}
    (closes : closesRanges (.yearRange :: segments) = true) :
    ∃ literal others, segments = .text literal :: others ∧ literal.opensPlainly = true := by
  cases segments with
  | nil => cases closes
  | cons segment others =>
    cases segment with
    | text literal =>
      rw [closesRanges, Bool.and_eq_true] at closes
      exact ⟨literal, others, rfl, closes.1⟩
    | year => cases closes
    | yearRange => cases closes
    | name placeholder => cases closes

/-- What is kept from a header without names can be written and read again, if its start years have
four digits. -/
theorem rewritable_of_keeps
    {segments : List Segment} {kept : List Kept}
    (alternating : alternates segments = true)
    (keeps : List.Forall₂ Keeps segments kept)
    (fourDigits : ∀ start ∈ kept.filterMap Kept.startYear?, 1000 ≤ start) :
    List.Forall₂ Rewritable segments kept := by
  induction keeps with
  | nil => exact .nil
  | @cons segment one segments kept keepsOne _ ih =>
    rcases Kept.forall_startYear_cons.1 fourDigits with ⟨first, others⟩
    refine .cons ?_ (ih (alternates_of_cons alternating) others)
    cases segment with
    | text literal => exact keepsOne
    | year => exact keepsOne
    | yearRange =>
      rcases keepsOne with ⟨start, rfl, greatest⟩
      have least : (1000 : Int) ≤ start := first start rfl
      exact ⟨start, rfl, by omega, greatest⟩
    | name placeholder => simp [alternates] at alternating

/-! ## Reading all segments -/

variable {segments : List Segment} {kept : List Kept} {written : CurrentYear}

theorem exists_cons_render_of_year
    {segment : Segment} {one : Kept}
    (isYear : segment = .year ∨ segment = .yearRange)
    (rewritable : segment.Rewritable one)
    (written : CurrentYear) :
    ∃ c rest, segment.render written one = c :: rest ∧ isDecimal c = true := by
  rcases isYear with rfl | rfl
  · exact exists_cons_of_isYear (isYear_current written)
  · rcases rewritable with ⟨start, rfl, least, greatest⟩
    rcases exists_cons_of_isYear (isYear_numeral least greatest) with ⟨c, rest, shape, decimal⟩
    rw [render, formatYearRange, shape]
    split
    · exact ⟨c, rest, rfl, decimal⟩
    · exact ⟨c, _, rfl, decimal⟩

/-- Reading a segment stops where the next segment has written something. -/
theorem stopsBefore_renderAll
    {segment : Segment}
    (alternating : alternates (segment :: segments) = true)
    (closes : closesRanges (segment :: segments) = true)
    (ends : ∀ literal, (segment :: segments).getLast? = some (.text literal) →
      literal.getLast? = some '\n')
    (rewritable : List.Forall₂ Rewritable segments kept)
    (written : CurrentYear)
    (below : Text) :
    segment.StopsBefore (renderAll written segments kept ++ below) := by
  cases segment with
  | text literal =>
    cases rewritable with
    | nil =>
      intro c last
      rw [ends literal rfl] at last
      exact Or.inl (Option.some.inj last).symm
    | @cons next one _ _ first _ =>
      have isYear : next = .year ∨ next = .yearRange := by
        cases next <;> simp_all [alternates]
      rcases exists_cons_render_of_year isYear first written with ⟨c, rest, shape, decimal⟩
      intro _ _
      right
      simp only [renderAll, List.head?_cons, Option.getD_some, shape]
      rintro _ ⟨⟩
      exact not_isBlank_of_isDecimal decimal
  | year => trivial
  | yearRange =>
    rcases exists_text_of_closesRanges closes with ⟨literal, others, rfl, plain⟩
    rw [renderAll, List.append_assoc]
    exact Text.opensPlainly_append plain _
  | name placeholder => trivial

/-- A segment reads what it has written, and the others read on. -/
theorem readFront_cons_of_prefers
    {segment : Segment} {one : Kept} {rest : Text} {captures : List Stretch} {pieces : List Piece}
    (prefers : segment.pattern.Prefers (segment.render written one ++ rest) captures rest)
    (captured : captures.map Stretch.text = segment.captured written one)
    (read : Piece.readFront (segments.map pattern) rest = some pieces) :
    Piece.readFront ((segment :: segments).map pattern) (segment.render written one ++ rest) =
      some (writtenPiece written segment one :: pieces) := by
  rw [List.map_cons, Piece.readFront, Piece.readAll_of_prefers prefers read, captured]
  rfl

/-- The segments read at the front of a text what they have written there. -/
theorem readFront_renderAll
    (alternating : alternates segments = true)
    (closes : closesRanges segments = true)
    (ends : ∀ literal, segments.getLast? = some (.text literal) → literal.getLast? = some '\n')
    (rewritable : List.Forall₂ Rewritable segments kept)
    (written : CurrentYear)
    (below : Text) :
    Piece.readFront (segments.map pattern) (renderAll written segments kept ++ below) =
      some (segments.zipWith (writtenPiece written) kept) := by
  induction rewritable with
  | nil => rfl
  | @cons segment one segments kept first others ih =>
    have stops := stopsBefore_renderAll alternating closes ends others written below
    have endsOthers : ∀ literal, segments.getLast? = some (.text literal) →
        literal.getLast? = some '\n' := by
      intro literal last
      apply ends literal
      rw [List.getLast?_cons, last]
      rfl
    have read := ih (alternates_of_cons alternating) (closesRanges_of_cons closes) endsOthers
    rcases exists_prefers_render first written stops with ⟨captures, prefers, captured⟩
    rw [renderAll, List.head?_cons, Option.getD_some, List.tail_cons, List.append_assoc]
    exact readFront_cons_of_prefers prefers captured read

theorem joined_writtenPieces
    (rewritable : List.Forall₂ Rewritable segments kept)
    (written : CurrentYear) :
    Piece.joined (segments.zipWith (writtenPiece written) kept) =
      renderAll written segments kept := by
  induction rewritable with
  | nil => rfl
  | cons _ _ ih =>
    rw [List.zipWith_cons_cons, Piece.joined_cons, ih]
    rfl

/-- A text at the end reads just its literal. -/
theorem text_of_getLast?_writtenPieces
    {literal : Text} {last : Piece}
    (rewritable : List.Forall₂ Rewritable segments kept)
    (atEnd : segments.getLast? = some (.text literal))
    (lastPiece : (segments.zipWith (writtenPiece written) kept).getLast? = some last) :
    last.text = literal := by
  induction rewritable with
  | nil => cases atEnd
  | @cons segment one segments kept first others ih =>
    cases others with
    | nil =>
      cases atEnd
      cases lastPiece
      rfl
    | cons =>
      rw [List.getLast?_cons_cons] at atEnd
      rw [List.zipWith_cons_cons, List.zipWith_cons_cons, List.getLast?_cons_cons] at lastPiece
      exact ih atEnd lastPiece

theorem interpretAll_writtenPieces
    (rewritable : List.Forall₂ Rewritable segments kept)
    (now written : CurrentYear) :
    Found.interpretAll now segments (segments.zipWith (writtenPiece written) kept) =
      .ok (segments.zipWith (rereading now written) kept) := by
  induction rewritable with
  | nil => rfl
  | cons first _ ih =>
    rw [List.zipWith_cons_cons, Found.interpretAll, writtenPiece, interpret_writtenPiece first, ih]
    rfl

end Segment

namespace Found

theorem searchFrom_of_readFront
    {patterns : List Pattern} {text : Text} {pieces : List Piece}
    (read : Piece.readFront patterns text = some pieces)
    (skipped : Nat) :
    searchFrom patterns skipped text = some ⟨skipped, pieces⟩ := by
  cases text with
  | nil => rw [searchFrom, read, Option.map_some]
  | cons c rest => rw [searchFrom, read]

/-- A header whose last text reads no more than its literal is left as it is. -/
theorem correct_eq_self
    {segments : List Segment} {found : Found}
    (short : ∀ literal last, segments.getLast? = some (.text literal) →
      found.pieces.getLast? = some last → last.text.length ≤ literal.length)
    (patterns : List Pattern) :
    correct segments patterns found = found := by
  rw [correct]
  split
  · rename_i literal last atEnd lastPiece
    dsimp only
    rw [if_pos]
    simp [short literal last atEnd lastPiece]
  · rfl

end Found

namespace Template

variable {template : Template} {kept : List Kept} {written : CurrentYear}

/-- Whether each range of a template is followed by a text that shows something, and no dash first:
so it can be told where the range ends. -/
def closesRanges (template : Template) : Bool := Segment.closesRanges template.segments

/-- Whether a template ends in a text that ends in a line feed. -/
def endsLine (template : Template) : Bool := Segment.endsLine template.segments

/-- What a header keeps is enough to write it and to read it again. -/
def Rewritable (template : Template) (kept : List Kept) : Prop :=
  List.Forall₂ Segment.Rewritable template.segments kept

/-- The outcome of reading in one year a header that has been written in another. -/
def rereading (template : Template) (now written : CurrentYear) (kept : List Kept) : Match where
  start := 0
  length := (template.render written kept).length
  results := template.segments.zipWith (Segment.rereading now written) kept

/-- A template that reads at the top of a text what it has written finds just that. -/
theorem match?_of_readFront
    {text : Text}
    (rewritable : template.Rewritable kept)
    (read : Piece.readFront template.patterns text =
      some (template.segments.zipWith (Segment.writtenPiece written) kept))
    (now : CurrentYear) :
    template.match? now text = .ok (some (template.rereading now written kept)) := by
  have uncorrected :
      Found.correct template.segments template.patterns
          ⟨0, template.segments.zipWith (Segment.writtenPiece written) kept⟩ =
        ⟨0, template.segments.zipWith (Segment.writtenPiece written) kept⟩ := by
    apply Found.correct_eq_self
    intro literal last atEnd lastPiece
    rw [Segment.text_of_getLast?_writtenPieces rewritable atEnd lastPiece]
  have searched : template.find? text =
      some ⟨0, template.segments.zipWith (Segment.writtenPiece written) kept⟩ := by
    rw [find?]
    simp only [Found.searchFrom_of_readFront read, Option.map_some, uncorrected]
  rw [match?_of_find? searched (Segment.interpretAll_writtenPieces rewritable now written),
    Segment.joined_writtenPieces rewritable written]
  rfl

/-- A template finds at the top of a text the header that it has written there. -/
theorem match?_render
    (alternating : Segment.alternates template.segments = true)
    (closes : template.closesRanges = true)
    (ends : template.endsLine = true)
    (rewritable : template.Rewritable kept)
    (now written : CurrentYear)
    (below : Text) :
    template.match? now (template.render written kept ++ below) =
      .ok (some (template.rereading now written kept)) := by
  have endsTexts : ∀ literal, template.segments.getLast? = some (.text literal) →
      literal.getLast? = some '\n' := by
    intro literal last
    rw [endsLine, Segment.endsLine, last] at ends
    simpa using ends
  apply match?_of_readFront rewritable
  exact Segment.readFront_renderAll alternating closes endsTexts rewritable written below

/-! ## The header that is found again -/

theorem kept_rereading
    (rewritable : template.Rewritable kept)
    (now written : CurrentYear) :
    (template.rereading now written kept).kept = kept := by
  show (template.segments.zipWith (Segment.rereading now written) kept).map (·.kept) = kept
  rw [Rewritable] at rewritable
  generalize template.segments = segments at rewritable ⊢
  induction rewritable with
  | nil => rfl
  | cons first _ ih =>
    rw [List.zipWith_cons_cons, List.map_cons, ih, Segment.kept_rereading first]

theorem exists_of_mem_rereading
    {now written : CurrentYear} {result : SegmentResult}
    (member : result ∈ (template.rereading now written kept).results) :
    ∃ segment one, result = Segment.rereading now written segment one := by
  rcases List.getElem_of_mem member with ⟨i, bound, rfl⟩
  exact ⟨_, _, List.getElem_zipWith⟩

/-- A header that a template has written is exact. -/
theorem isInexact_rereading (now written : CurrentYear) :
    (template.rereading now written kept).isInexact = false := by
  rw [Match.isInexact, List.any_eq_false]
  intro result member
  rcases exists_of_mem_rereading member with ⟨segment, one, rfl⟩
  simp [Segment.isInexact_rereading]

/-- A header is up to date in the year it has been written in. -/
theorem notices_rereading (now : CurrentYear) :
    (template.rereading now now kept).notices = [] := by
  rw [Match.notices, List.flatMap_eq_nil_iff]
  intro result member
  rcases exists_of_mem_rereading member with ⟨segment, one, rfl⟩
  exact Segment.notices_rereading now segment one

/-- A header is without fault in the year it has been written in unless a range starts later. -/
theorem faults_rereading_eq_nil_iff
    (rewritable : template.Rewritable kept)
    (now : CurrentYear) :
    (template.rereading now now kept).faults = [] ↔
      ∀ start ∈ kept.filterMap Kept.startYear?, start ≤ now.value := by
  show (template.segments.zipWith (Segment.rereading now now) kept).flatMap (·.faults) = [] ↔ _
  rw [Rewritable] at rewritable
  generalize template.segments = segments at rewritable ⊢
  induction rewritable with
  | nil => simp
  | @cons segment one segments kept first _ ih =>
    rw [List.zipWith_cons_cons, List.flatMap_cons, List.append_eq_nil_iff, ih,
      Segment.faults_rereading_eq_nil_iff first, Kept.forall_startYear_cons]

end Template

end Masthead
