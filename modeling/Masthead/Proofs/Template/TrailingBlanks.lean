import Mathlib.Data.List.Chain
import Masthead.Proofs.Template.CarriageReturn
import Masthead.Proofs.Template.Regeneration

/-!
# Fresh headers before blanks

A template of texts and years, with no two texts side by side, writes a header afresh, and anything
may stand below it.  A text before a year stops at the year's first digit.  A last text that ends in
a horizontal blank reads on over the blanks below, and the correction then cuts it back to its own
length; no other text reads on.  So the header is found exactly, however many blanks follow it.
-/

namespace Masthead

namespace Segment

/-- The piece that a segment reads from a header that has been written afresh. -/
def freshPiece (current : CurrentYear) (segment : Segment) : Piece :=
  writtenPiece current segment (segment.initial current)

section TextsAndYears

variable {segments : List Segment} {current : CurrentYear}

theorem zipWith_writtenPiece_initial (segments : List Segment) (current : CurrentYear) :
    segments.zipWith (writtenPiece current) (segments.map (initial current)) =
      segments.map (freshPiece current) := by
  rw [List.zipWith_map_right, List.zipWith_self]
  rfl

theorem unnamed_of_textsAndYears
    (kinds : ∀ segment ∈ segments, segment = .year ∨ ∃ literal, segment = .text literal)
    (placeholder : Placeholder) :
    .name placeholder ∉ segments := by
  intro member
  rcases kinds _ member with isYear | ⟨literal, isText⟩
  · cases isYear
  · cases isText

theorem joined_freshPieces
    (unnamed : ∀ placeholder, .name placeholder ∉ segments)
    (current : CurrentYear) :
    Piece.joined (segments.map (freshPiece current)) = renderAll current segments [] := by
  rw [← zipWith_writtenPiece_initial,
    joined_writtenPieces (Template.rewritable_initial_of_unnamed unnamed current) current,
    renderAll_initial]

/-- A fresh header is one of the headers that its segments may stand for. -/
theorem spellsAll_renderAll_fresh
    (unnamed : ∀ placeholder, .name placeholder ∉ segments)
    (current : CurrentYear) :
    SpellsAll segments (renderAll current segments []) :=
  spellsAll_of_single (spellsAll_single_renderAll_fresh unnamed current)

/-- Texts that are each followed by a year, and years, read what they have written afresh before
anything that the others read. -/
theorem readFront_freshPieces
    {others : List Segment} {text : Text} {pieces : List Piece}
    (kinds : ∀ segment ∈ segments, segment = .year ∨ ∃ literal, segment = .text literal)
    (apart : segments.IsChain fun first second => first = .year ∨ second = .year)
    (closed : ∀ literal, segments.getLast? ≠ some (.text literal))
    (read : Piece.readFront (others.map pattern) text = some pieces) :
    Piece.readFront ((segments ++ others).map pattern)
        (Piece.joined (segments.map (freshPiece current)) ++ text) =
      some (segments.map (freshPiece current) ++ pieces) := by
  induction segments with
  | nil => exact read
  | cons segment segments ih =>
    have kindsRest := fun next member => kinds next (List.mem_cons_of_mem segment member)
    have closedRest : ∀ literal, segments.getLast? ≠ some (.text literal) := by
      intro literal last
      exact closed literal (by rw [List.getLast?_cons, last]; rfl)
    have readRest := ih kindsRest apart.tail closedRest
    rw [List.map_cons, List.cons_append, Piece.joined_cons, List.append_assoc]
    rcases kinds segment List.mem_cons_self with rfl | ⟨literal, rfl⟩
    · exact readFront_cons_of_prefers (prefers_year (isYear_current current) _) rfl readRest
    · -- A text is followed by a year here, and stops at its first digit.
      cases segments with
      | nil => exact absurd rfl (closed literal)
      | cons next rest =>
        have isYear : next = .year := by simpa using apart.rel
        subst isYear
        rcases exists_cons_of_isYear (isYear_current current) with ⟨c, digits, shape, decimal⟩
        have stops : literal.StopsBefore
            (Piece.joined ((.year :: rest).map (freshPiece current)) ++ text) := by
          intro _ _
          right
          simp only [List.map_cons, Piece.joined_cons, freshPiece, writtenPiece, render, shape]
          rintro _ ⟨⟩
          exact not_isBlank_of_isDecimal decimal
        exact readFront_cons_of_prefers (Token.prefers_ofLiteral stops) rfl readRest

theorem map_freshPiece_concat_text (init : List Segment) (literal : Text) (current : CurrentYear) :
    (init ++ [Segment.text literal]).map (freshPiece current) =
      init.map (freshPiece current) ++ [⟨literal, []⟩] := by
  rw [List.map_append]
  rfl

/-- A text at the end reads what it has written, and perhaps blanks below, after the others have
read what they have written. -/
theorem exists_readFront_freshPieces_text
    {literal rest : Text}
    (kinds : ∀ segment ∈ segments, segment = .year ∨ ∃ literal, segment = .text literal)
    (apart : (segments ++ [Segment.text literal]).IsChain fun first second =>
      first = Segment.year ∨ second = Segment.year)
    (untorn : literal.getLast? = some '\r' → rest.head? ≠ some '\n')
    (current : CurrentYear) :
    ∃ extra,
      (extra ≠ [] → ∃ c, literal.getLast? = some c ∧ isHorizontalBlank c = true) ∧
      Piece.readFront ((segments ++ [Segment.text literal]).map pattern)
          (Piece.joined ((segments ++ [Segment.text literal]).map (freshPiece current)) ++ rest) =
        some (segments.map (freshPiece current) ++ [⟨literal ++ extra, []⟩]) := by
  rcases Token.readsOver_ofLiteral untorn with ⟨extra, below, rfl, -, ends, prefers⟩
  rcases List.isChain_append.1 apart with ⟨apartOthers, -, neighbours⟩
  have closed : ∀ other, segments.getLast? ≠ some (.text other) := by
    intro other final
    have side := neighbours _ final _ rfl
    simp at side
  have readLast : Piece.readFront ([Segment.text literal].map pattern)
      (literal ++ (extra ++ below)) = some [⟨literal ++ extra, []⟩] := by
    rw [← List.append_assoc] at prefers ⊢
    exact Piece.readAll_of_prefers prefers rfl
  refine ⟨extra, ends, ?_⟩
  rw [map_freshPiece_concat_text, Piece.joined_append, Piece.joined_cons, Piece.joined_nil,
    List.append_nil, List.append_assoc]
  exact readFront_freshPieces kinds apartOthers closed readLast

end TextsAndYears

end Segment

namespace Found

/-- The correction takes back the blanks that a last text reads beyond a fresh header. -/
theorem correct_freshPieces
    {init : List Segment} {literal extra : Text} {current : CurrentYear}
    (unnamed : ∀ placeholder, .name placeholder ∉ init ++ [.text literal])
    (ends : extra ≠ [] → ∃ c, literal.getLast? = some c ∧ isHorizontalBlank c = true) :
    correct (init ++ [.text literal]) ((init ++ [Segment.text literal]).map Segment.pattern)
        ⟨0, init.map (Segment.freshPiece current) ++ [⟨literal ++ extra, []⟩]⟩ =
      ⟨0, (init ++ [Segment.text literal]).map (Segment.freshPiece current)⟩ := by
  have own := Segment.map_freshPiece_concat_text init literal current
  have atEnd : (init ++ [Segment.text literal]).getLast? = some (.text literal) :=
    List.getLast?_concat
  have front : (literal ++ extra).take literal.length = literal := by simp
  cases extra with
  | nil =>
    rw [own, List.append_nil]
    apply correct_eq_self
    intro other last isLast lastPiece
    rw [atEnd] at isLast
    rw [List.getLast?_concat] at lastPiece
    cases isLast
    cases lastPiece
    exact Nat.le_refl _
  | cons d extra =>
    rcases ends (List.cons_ne_nil d extra) with ⟨c, final, horizontal⟩
    have untorn : tearsBreak (literal ++ d :: extra) literal.length = false := by
      rw [← Bool.not_eq_true, tearsBreak_iff, front, final]
      rintro ⟨isReturn, -⟩
      cases isReturn
      exact absurd horizontal (by decide)
    have spelled := Segment.spellsAll_renderAll_fresh unnamed current
    rw [← Segment.joined_freshPieces unnamed, own, Piece.joined_append, Piece.joined_cons,
      Piece.joined_nil, List.append_nil] at spelled
    rw [own]
    rw [correct_of_spellsAll atEnd (by simp) untorn (by rwa [front]), front]

end Found

namespace Template

variable {template : Template} {current : CurrentYear} {rest : Text}

/-- The pieces of a fresh header are found at the top of a text, whatever stands below. -/
theorem find?_renderFresh_append
    (kinds : ∀ segment ∈ template.segments,
      segment = .year ∨ ∃ literal, segment = .text literal)
    (apart : template.segments.IsChain fun first second => first = .year ∨ second = .year)
    (untorn : (template.renderFresh current).getLast? = some '\r' → rest.head? ≠ some '\n') :
    template.find? (template.renderFresh current ++ rest) =
      some ⟨0, template.segments.map (Segment.freshPiece current)⟩ := by
  have unnamed := Segment.unnamed_of_textsAndYears kinds
  rw [renderFresh, render, ← Segment.joined_freshPieces unnamed] at untorn ⊢
  rw [find?, patterns]
  rcases List.eq_nil_or_concat' template.segments with nothing | ⟨init, last, shape⟩
  · exact absurd nothing template.occupied
  rw [shape] at kinds apart untorn unnamed ⊢
  rcases kinds last (by simp) with rfl | ⟨literal, rfl⟩
  · -- A year at the end reads no more than itself.
    have read : Piece.readFront ((init ++ [Segment.year] ++ []).map Segment.pattern)
        (Piece.joined ((init ++ [Segment.year]).map (Segment.freshPiece current)) ++ rest) =
          some ((init ++ [Segment.year]).map (Segment.freshPiece current) ++ []) :=
      Segment.readFront_freshPieces kinds apart (by simp) rfl
    rw [List.append_nil, List.append_nil] at read
    simp only [Found.searchFrom_of_readFront read, Option.map_some]
    rw [Found.correct_eq_self]
    intro literal last isLast
    rw [List.getLast?_concat] at isLast
    cases isLast
  · have untornLiteral : literal.getLast? = some '\r' → rest.head? ≠ some '\n' := by
      intro final
      apply untorn
      rw [Segment.map_freshPiece_concat_text, Piece.joined_append, Piece.joined_cons,
        Piece.joined_nil, List.append_nil, List.getLast?_append, final, Option.some_or]
    have kindsInit := fun segment member => kinds segment (List.mem_append_left _ member)
    rcases Segment.exists_readFront_freshPieces_text kindsInit apart untornLiteral current
      with ⟨extra, ends, read⟩
    simp only [Found.searchFrom_of_readFront read, Option.map_some,
      Found.correct_freshPieces unnamed ends]

/-- The fresh header of a template of texts and years, with no two texts side by side, is found
exactly at the top of a text, whatever stands below, unless its end and what is below make one
break: over just its own length, without anything inexact and without a message. -/
theorem match?_renderFresh_append
    (kinds : ∀ segment ∈ template.segments,
      segment = .year ∨ ∃ literal, segment = .text literal)
    (apart : template.segments.IsChain fun first second => first = .year ∨ second = .year)
    (untorn : (template.renderFresh current).getLast? = some '\r' → rest.head? ≠ some '\n') :
    ∃ found,
      template.match? current (template.renderFresh current ++ rest) = .ok (some found) ∧
      found.start = 0 ∧
      found.length = (template.renderFresh current).length ∧
      found.isInexact = false ∧
      found.faults = [] ∧
      found.notices = [] := by
  have unnamed := Segment.unnamed_of_textsAndYears kinds
  have rewritable : template.Rewritable (template.segments.map (Segment.initial current)) :=
    rewritable_initial_of_unnamed unnamed current
  have found := find?_renderFresh_append kinds apart untorn
  rw [← Segment.zipWith_writtenPiece_initial] at found
  refine ⟨template.rereading current current (template.segments.map (Segment.initial current)),
    ?_, rfl, ?_, isInexact_rereading current current, ?_, notices_rereading current⟩
  · rw [match?_of_find? found
      (Segment.interpretAll_writtenPieces rewritable current current),
      Segment.joined_writtenPieces rewritable current]
    rfl
  · exact congrArg List.length (Segment.renderAll_initial template.segments current)
  · rw [faults_rereading_eq_nil_iff rewritable]
    intro start member
    exact Int.le_of_eq (startYear_of_mem_initial member)

/-- A template of two texts around a year, the last of which ends in a break and a space. -/
def trailingSample : Template where
  segments := [.text ['#', ' '], .year, .text ['\n', ' ']]
  occupied := by simp

theorem match?_renderFresh_append_sample :
    ∃ found,
      trailingSample.match? sampleYear
          (['#', ' ', '2', '0', '2', '4', '\n', ' '] ++ ['\r', '\n', '\t', 'x']) =
        .ok (some found) ∧
      found.length = 8 ∧
      found.isInexact = false := by
  have kinds : ∀ segment ∈ trailingSample.segments,
      segment = .year ∨ ∃ literal, segment = .text literal := by
    simp [trailingSample]
  have apart : trailingSample.segments.IsChain fun first second =>
      first = .year ∨ second = .year := by
    simp [trailingSample]
  have untorn : (trailingSample.renderFresh sampleYear).getLast? = some '\r' →
      ['\r', '\n', '\t', 'x'].head? ≠ some '\n' := by
    decide
  rcases match?_renderFresh_append kinds apart untorn with
    ⟨found, searched, -, length, exact, -⟩
  exact ⟨found, searched, length, exact⟩

end Template

end Masthead
