import Masthead.Proofs.Fix.Total
import Masthead.Proofs.Segment.LetterCase

/-!
# Headers in either case

The analysis of a text by a template without names does not depend on the case of Latin letters,
neither in the text nor in the literals of the template.  Making all capitals small leaves the
search, the correction, the meaning and the diagnostics as they are, once in the literals and once
in the text; so two recased inputs, which are the same without capitals, are analysed alike.
-/

namespace Masthead

theorem Piece.joined_withoutCapitals (pieces : List Piece) :
    joined (pieces.map withoutCapitals) = Text.withoutCapitals (joined pieces) := by
  induction pieces with
  | nil => rfl
  | cons piece pieces ih =>
    rw [List.map_cons, joined_cons, joined_cons, ih, Text.withoutCapitals_append]
    rfl

namespace Found

/-! ## Capitals in a literal -/

section Literals

variable {patterns others : List Pattern}

theorem searchFrom_of_runsLike
    (alike : List.Forall₂ Pattern.RunsLike patterns others)
    (skipped : Nat) (text : Text) :
    searchFrom patterns skipped text = searchFrom others skipped text := by
  induction text generalizing skipped with
  | nil =>
    rw [searchFrom, searchFrom, Piece.readFront, Piece.readFront, Piece.readAll_of_runsLike alike]
  | cons c rest ih =>
    rw [searchFrom, searchFrom, Piece.readFront, Piece.readFront, Piece.readAll_of_runsLike alike,
      ih]

theorem correct_withoutCapitals_literals
    (alike : List.Forall₂ Pattern.RunsLike patterns others)
    (segments : List Segment) (found : Found) :
    correct (segments.map Segment.withoutCapitals) patterns found =
      correct segments others found := by
  rw [correct, correct, List.getLast?_map]
  cases segments.getLast? with
  | none => rfl
  | some segment =>
    cases segment with
    | text literal =>
      cases found.pieces.getLast? with
      | none => rfl
      | some last =>
        dsimp only [Option.map_some, Segment.withoutCapitals]
        rw [Text.length_withoutCapitals, Piece.readWhole, Piece.readWhole,
          Piece.readAll_of_runsLike alike]
    | year | yearRange | name => rfl

theorem interpretAll_withoutCapitals_literals
    (current : CurrentYear) (segments : List Segment) (pieces : List Piece) :
    interpretAll current (segments.map Segment.withoutCapitals) pieces =
      interpretAll current segments pieces := by
  induction segments generalizing pieces with
  | nil => rfl
  | cons segment segments ih =>
    cases pieces with
    | nil => rfl
    | cons piece pieces =>
      rw [List.map_cons, interpretAll, interpretAll, ih,
        Segment.interpret_withoutCapitals_literal]

end Literals

/-! ## Capitals in the text -/

/-- What is found in a text without its Latin capitals. -/
def withoutCapitals (found : Found) : Found :=
  ⟨found.start, found.pieces.map Piece.withoutCapitals⟩

theorem searchFrom_withoutCapitals (patterns : List Pattern) (skipped : Nat) (text : Text) :
    searchFrom patterns skipped text.withoutCapitals =
      (searchFrom patterns skipped text).map withoutCapitals := by
  induction text generalizing skipped with
  | nil =>
    show (Piece.readFront patterns (Text.withoutCapitals [])).map _ = _
    rw [Piece.readFront_withoutCapitals, searchFrom, Option.map_map, Option.map_map]
    rfl
  | cons c rest ih =>
    have read := Piece.readFront_withoutCapitals patterns (c :: rest)
    rw [Text.withoutCapitals_cons] at read ⊢
    rw [searchFrom, searchFrom, read]
    cases Piece.readFront patterns (c :: rest) with
    | none => exact ih (skipped + 1)
    | some pieces => rfl

theorem tearsBreak_withoutCapitals (text : Text) (position : Nat) :
    tearsBreak text.withoutCapitals position = tearsBreak text position := by
  have kept : ∀ {d : Char}, isSymbol d = true → ∀ c : Option Char,
      (c.map Char.toLower == some d) = (c == some d) := by
    intro d symbol c
    rw [Bool.eq_iff_iff, beq_iff_eq, beq_iff_eq]
    cases c with
    | none => simp
    | some c => simp [(hasNoCase_of_isSymbol symbol).toLower_eq_iff]
  rw [tearsBreak, tearsBreak, ← Text.withoutCapitals_take, Text.withoutCapitals,
    Text.withoutCapitals, List.getLast?_map, List.getElem?_map, kept rfl, kept rfl]

/-- The correction cuts a header without Latin capitals where it cuts the header. -/
theorem correct_withoutCapitals
    (segments : List Segment) (patterns : List Pattern) (found : Found) :
    correct segments patterns found.withoutCapitals =
      (correct segments patterns found).withoutCapitals := by
  have lastToo : found.withoutCapitals.pieces.getLast? =
      found.pieces.getLast?.map Piece.withoutCapitals := List.getLast?_map
  have cut : ∀ last length, found.withoutCapitals.cutLast last.withoutCapitals length =
      (found.cutLast last length).withoutCapitals := by
    intro last length
    simp [cutLast, withoutCapitals, Piece.withoutCapitals, List.map_dropLast]
  have joined : ∀ other : Found, Piece.joined other.withoutCapitals.pieces =
      Text.withoutCapitals (Piece.joined other.pieces) :=
    fun other => Piece.joined_withoutCapitals other.pieces
  rw [correct, correct, lastToo]
  cases segments.getLast? with
  | none => rfl
  | some segment =>
    cases segment with
    | text literal =>
      cases found.pieces.getLast? with
      | none => rfl
      | some last =>
        have length : last.withoutCapitals.text.length = last.text.length :=
          Text.length_withoutCapitals last.text
        have torn : tearsBreak last.withoutCapitals.text literal.length =
            tearsBreak last.text literal.length :=
          tearsBreak_withoutCapitals last.text literal.length
        simp only [Option.map_some, cut, joined, Piece.readWhole_withoutCapitals, Option.isSome_map,
          length, torn, apply_ite withoutCapitals]
    | year | yearRange | name => rfl

theorem interpretAll_withoutCapitals
    {segments : List Segment} {pieces : List Piece}
    (unnamed : ∀ placeholder, .name placeholder ∉ segments)
    (reads : List.Forall₂ Segment.ReadsUncut segments pieces)
    (current : CurrentYear) :
    interpretAll current segments (pieces.map Piece.withoutCapitals) =
      interpretAll current segments pieces := by
  induction reads with
  | nil => rfl
  | @cons segment piece segments pieces read _ ih =>
    have length : piece.withoutCapitals.text.length = piece.text.length :=
      Text.length_withoutCapitals piece.text
    rw [List.map_cons, interpretAll, interpretAll, length, ih (Segment.unnamed_of_cons unnamed),
      Segment.interpret_withoutCapitals (Segment.ne_name_of_unnamed unnamed) read]

end Found

theorem topLineFrom_withoutCapitals (skipped : Nat) (lines : List Line) :
    topLineFrom skipped (lines.map Line.withoutCapitals) = topLineFrom skipped lines := by
  induction lines generalizing skipped with
  | nil => rfl
  | cons line lines ih =>
    have blank : line.withoutCapitals.content.isAllBlank = line.content.isAllBlank :=
      Text.all_withoutCapitals isBlank_toLower line.content
    have length : line.withoutCapitals.content.length = line.content.length :=
      Text.length_withoutCapitals line.content
    rw [List.map_cons, topLineFrom, topLineFrom, blank, length, ih]
    rfl

theorem topLineLength_withoutCapitals (text : Text) :
    topLineLength text.withoutCapitals = topLineLength text := by
  rw [topLineLength, topLineLength, Text.lines_withoutCapitals, topLineFrom_withoutCapitals,
    Text.length_withoutCapitals]

namespace Template

variable {template : Template} {current : CurrentYear}

/-- A template whose literals are without their Latin capitals. -/
def withoutCapitals (template : Template) : Template where
  segments := template.segments.map Segment.withoutCapitals
  occupied := by simpa using template.occupied

/-- The literals of a template differ at most in the case of Latin letters. -/
def Recased (template other : Template) : Prop :=
  List.Forall₂ Segment.Recased template.segments other.segments

theorem Recased.withoutCapitals_eq
    {other : Template}
    (recased : template.Recased other) :
    other.withoutCapitals = template.withoutCapitals := by
  have segments : other.segments.map Segment.withoutCapitals =
      template.segments.map Segment.withoutCapitals := by
    rw [← List.forall₂_eq_eq_eq, List.forall₂_map_left_iff, List.forall₂_map_right_iff]
    exact recased.flip.imp fun _ _ same => same.withoutCapitals_eq
  simp only [withoutCapitals, segments]

theorem runsLike_patterns_withoutCapitals (template : Template) :
    List.Forall₂ Pattern.RunsLike template.withoutCapitals.patterns template.patterns := by
  rw [patterns, patterns, withoutCapitals, List.map_map, List.forall₂_map_left_iff,
    List.forall₂_map_right_iff, List.forall₂_same]
  exact fun segment _ => segment.runsLike_pattern_withoutCapitals

theorem find?_withoutCapitals_literals (template : Template) (text : Text) :
    template.withoutCapitals.find? text = template.find? text := by
  have alike := template.runsLike_patterns_withoutCapitals
  rw [find?, find?, Found.searchFrom_of_runsLike alike]
  congr 1
  exact funext fun found => Found.correct_withoutCapitals_literals alike _ found

theorem match?_withoutCapitals_literals (template : Template) (current : CurrentYear)
    (text : Text) :
    template.withoutCapitals.match? current text = template.match? current text := by
  rw [match?, match?, find?_withoutCapitals_literals]
  cases template.find? text with
  | none => rfl
  | some found => simp only [withoutCapitals, Found.interpretAll_withoutCapitals_literals]

/-- Capitals in the literals of a template do not change how a text is analysed. -/
theorem analyze_withoutCapitals_literals (template : Template) (current : CurrentYear)
    (text : Text) :
    template.withoutCapitals.analyze current text = template.analyze current text := by
  rw [analyze, analyze, match?_withoutCapitals_literals]

theorem find?_withoutCapitals_text (template : Template) (text : Text) :
    template.find? text.withoutCapitals = (template.find? text).map Found.withoutCapitals := by
  rw [find?, find?, Found.searchFrom_withoutCapitals, Option.map_map, Option.map_map]
  congr 1
  exact funext fun found => Found.correct_withoutCapitals _ _ found

theorem match?_withoutCapitals_text
    (unnamed : ∀ placeholder, .name placeholder ∉ template.segments)
    (current : CurrentYear) (text : Text) :
    template.match? current text.withoutCapitals = template.match? current text := by
  rw [match?, match?, find?_withoutCapitals_text]
  cases present : template.find? text with
  | none => rfl
  | some found =>
    -- The meanings stay as they are because the years that were read have no capitals.
    rcases exists_readsUncut_of_find? present with ⟨_, _, -, -, reads⟩
    simp only [Option.map_some, Found.withoutCapitals, Piece.joined_withoutCapitals,
      Text.length_withoutCapitals, Found.interpretAll_withoutCapitals unnamed reads]

/-- Capitals in a text do not change how it is analysed by a template without names. -/
theorem analyze_withoutCapitals_text
    (unnamed : ∀ placeholder, .name placeholder ∉ template.segments)
    (current : CurrentYear) (text : Text) :
    template.analyze current text.withoutCapitals = template.analyze current text := by
  rw [analyze, analyze, match?_withoutCapitals_text unnamed]
  simp only [Analysis.ofAbsence, topLineLength_withoutCapitals]

/-- A template without names analyses a text as one whose literals are in another case analyses the
text in another case. -/
theorem analyze_recased
    {other : Template} {text changed : Text}
    (unnamed : ∀ placeholder, .name placeholder ∉ template.segments)
    (literals : template.Recased other)
    (letters : text.Recased changed)
    (current : CurrentYear) :
    ∃ analysis,
      template.analyze current text = .ok analysis ∧
        other.analyze current changed = .ok analysis := by
  rcases exists_analyze template current text with ⟨analysis, analyzed⟩
  refine ⟨analysis, analyzed, ?_⟩
  calc other.analyze current changed
      = template.analyze current changed := by
        rw [← other.analyze_withoutCapitals_literals, literals.withoutCapitals_eq,
          template.analyze_withoutCapitals_literals]
    _ = template.analyze current text := by
        rw [← analyze_withoutCapitals_text unnamed, letters.withoutCapitals_eq,
          analyze_withoutCapitals_text unnamed]
    _ = .ok analysis := analyzed

/-- A displaced header of the sample, in capitals and in small letters. -/
theorem analyze_recased_sample :
    ∃ analysis,
      sample.analyze sampleYear sampleText = .ok analysis ∧
      sample.withoutCapitals.analyze sampleYear "X# 2019-2020 a\n".toList = .ok analysis ∧
      sample.withoutCapitals ≠ sample ∧
      analysis.state = .headerMatchedInexact ∧
      analysis.diagnostics.length = 3 := by
  have literals : sample.Recased sample.withoutCapitals :=
    .cons (.text (by decide)) (.cons .yearRange (.cons (.text (by decide)) .nil))
  have letters : Text.Recased sampleText "X# 2019-2020 a\n".toList := by
    decide
  have reported : (sample.analyze sampleYear sampleText).map
      (fun analysis => (analysis.state, analysis.diagnostics.length)) =
        .ok (.headerMatchedInexact, 3) := by
    decide +kernel
  have unnamed : ∀ placeholder, .name placeholder ∉ sample.segments := by
    simp [sample]
  rcases analyze_recased unnamed literals letters sampleYear with ⟨analysis, analyzed, again⟩
  rw [analyzed] at reported
  have outcome := Prod.mk.inj (Except.ok.inj reported)
  exact ⟨analysis, analyzed, again, by decide, outcome.1, outcome.2⟩

end Template

end Masthead
