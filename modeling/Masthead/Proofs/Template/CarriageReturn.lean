import Masthead.Proofs.Fix
import Masthead.Proofs.Segment.Recount

/-!
# Headers with carriage returns

The header that a template writes afresh is given carriage returns, as an editor on another platform
would do, and looked for again.  Its patterns read all of it, and then the correction of the last
literal compares lengths that no longer agree.  The header is recognised whole unless the shorter
header is read as well, which happens exactly when the last literal recounts its breaks; then the
correction leaves the end of the old header behind.
-/

namespace Masthead

namespace Text

theorem opensPlainly_withReturns (text : Text) :
    text.withReturns.opensPlainly = text.opensPlainly := by
  rw [opensPlainly, opensPlainly, trimLeft_withReturns]
  cases trimmed : text.trimLeft with
  | nil => rfl
  | cons c rest =>
    have plain : c ≠ '\n' := by
      rintro rfl
      cases not_isBlank_of_trimLeft trimmed
    rw [withReturns_cons plain]

theorem withReturns_eq_nil_iff {text : Text} : text.withReturns = [] ↔ text = [] := by
  constructor
  · intro nothing
    have length := congrArg List.length nothing
    rw [length_withReturns, List.length_nil] at length
    exact List.length_eq_zero_iff.1 (by omega)
  · rintro rfl
    rfl

end Text

namespace Segment

/-- A segment whose literal has carriage returns. -/
def withReturns : Segment → Segment
  | .text literal => .text literal.withReturns
  | other => other

/-- The piece that a segment reads from a fresh header with carriage returns. -/
def returnedPiece (current : CurrentYear) (segment : Segment) : Piece :=
  writtenPiece current segment.withReturns (segment.initial current)

/-- No literal among some segments has a carriage return. -/
def Plain (segments : List Segment) : Prop :=
  ∀ literal, .text literal ∈ segments → '\r' ∉ literal

theorem Plain.tail
    {segment : Segment} {segments : List Segment}
    (plain : Plain (segment :: segments)) :
    Plain segments :=
  fun literal member => plain literal (List.mem_cons_of_mem segment member)

theorem alternates_withReturns
    {segments : List Segment}
    (alternating : alternates segments = true) :
    alternates (segments.map withReturns) = true := by
  induction segments with
  | nil => rfl
  | cons segment segments ih =>
    have others := ih (alternates_of_cons alternating)
    cases segment with
    | text literal =>
      rcases alternates_text_cons_iff.1 alternating with ⟨occupied, followed, -⟩
      refine alternates_text_cons_iff.2 ⟨?_, ?_, others⟩
      · rwa [Ne, Text.withReturns_eq_nil_iff]
      · intro other rest shape
        rcases List.map_eq_cons_iff.1 shape with ⟨next, tail, rfl, same, -⟩
        cases next with
        | text literal => exact followed literal tail rfl
        | year => cases same
        | yearRange => cases same
        | name placeholder => cases same
    | year => exact others
    | yearRange => exact others
    | name placeholder => simp [alternates] at alternating

theorem closesRanges_withReturns
    {segments : List Segment}
    (closes : closesRanges segments = true) :
    closesRanges (segments.map withReturns) = true := by
  induction segments with
  | nil => rfl
  | cons segment segments ih =>
    have others := ih (closesRanges_of_cons closes)
    cases segment with
    | text literal => exact others
    | year => exact others
    | name placeholder => exact others
    | yearRange =>
      cases segments with
      | nil => cases closes
      | cons next segments =>
        cases next with
        | text literal =>
          rw [closesRanges, Bool.and_eq_true] at closes
          simp only [List.map_cons, withReturns, closesRanges, Text.opensPlainly_withReturns,
            closes.1, Bool.true_and]
          exact others
        | year => cases closes
        | yearRange => cases closes
        | name placeholder => cases closes

/-- Carriage returns do not change what a template's patterns are. -/
theorem patterns_withReturns
    {segments : List Segment}
    (plain : Plain segments) :
    (segments.map withReturns).map pattern = segments.map pattern := by
  rw [List.map_map, List.map_inj_left]
  intro segment member
  cases segment with
  | text literal =>
    simp only [Function.comp_apply, withReturns, pattern]
    rw [Token.ofLiteral_withReturns (plain literal member)]
  | year => rfl
  | yearRange => rfl
  | name placeholder => rfl

theorem render_withReturns
    {segment : Segment}
    (unnamed : ∀ placeholder, segment ≠ .name placeholder)
    (current : CurrentYear) :
    segment.withReturns.render current (segment.initial current) =
      Text.withReturns (segment.render current .nothing) := by
  have year := Text.withReturns_eq_self (notMem_numeral rfl current)
  cases segment with
  | text literal => rfl
  | year => exact year.symm
  | yearRange =>
    simp only [withReturns, render_initial]
    exact year.symm
  | name placeholder => exact absurd rfl (unnamed placeholder)

theorem initial_withReturns (current : CurrentYear) (segment : Segment) :
    segment.withReturns.initial current = segment.initial current := by
  cases segment <;> rfl

/-- What the pieces make up is the fresh header with carriage returns. -/
theorem joined_returnedPieces
    {segments : List Segment}
    (unnamed : ∀ placeholder, .name placeholder ∉ segments)
    (current : CurrentYear) :
    Piece.joined (segments.map (returnedPiece current)) =
      Text.withReturns (renderAll current segments []) := by
  induction segments with
  | nil => rfl
  | cons segment segments ih =>
    have first := ne_name_of_unnamed unnamed
    have others := ih (unnamed_of_cons unnamed)
    rw [List.map_cons, Piece.joined_cons, others, returnedPiece, writtenPiece,
      render_withReturns first, renderAll, Text.withReturns_append]
    rfl

/-- The fresh header with carriage returns has single years only. -/
theorem spellsAll_joined_returnedPieces
    {segments : List Segment}
    (unnamed : ∀ placeholder, .name placeholder ∉ segments)
    (plain : Plain segments)
    (current : CurrentYear) :
    SpellsAll (segments.map single) (Piece.joined (segments.map (returnedPiece current))) := by
  induction segments with
  | nil => rfl
  | cons segment segments ih =>
    have others := ih (unnamed_of_cons unnamed) plain.tail
    refine ⟨(returnedPiece current segment).text, _, Piece.joined_cons _ _, ?_, others⟩
    cases segment with
    | text literal => exact Token.spellsAll_withReturns (plain literal List.mem_cons_self)
    | year => exact isYear_current current
    | yearRange =>
      show Text.IsYear (render .yearRange current (initial current .yearRange))
      rw [render_initial]
      exact isYear_current current
    | name placeholder => exact absurd List.mem_cons_self (unnamed placeholder)

/-- The patterns read all of a fresh header with carriage returns. -/
theorem readFront_withReturns
    {segments : List Segment}
    (alternating : alternates segments = true)
    (closes : closesRanges segments = true)
    (ends : ∀ literal, segments.getLast? = some (.text literal) → literal.getLast? = some '\n')
    (plain : Plain segments)
    (current : CurrentYear)
    (below : Text) :
    Piece.readFront (segments.map pattern)
        (Text.withReturns (renderAll current segments []) ++ below) =
      some (segments.map (returnedPiece current)) := by
  have alternatingToo := alternates_withReturns alternating
  have kept :
      (segments.map withReturns).map (initial current) = segments.map (initial current) := by
    rw [List.map_map]
    exact List.map_congr_left fun segment _ => initial_withReturns current segment
  have pieces : (segments.map withReturns).zipWith (writtenPiece current)
      ((segments.map withReturns).map (initial current)) =
        segments.map (returnedPiece current) := by
    rw [kept, List.zipWith_map, List.zipWith_self]
    rfl
  have endsToo : ∀ literal, (segments.map withReturns).getLast? = some (.text literal) →
      literal.getLast? = some '\n' := by
    intro literal last
    rw [List.getLast?_map, Option.map_eq_some_iff] at last
    rcases last with ⟨segment, last, same⟩
    cases segment with
    | text other =>
      cases same
      rw [Text.getLast?_withReturns]
      exact ends other last
    | year => cases same
    | yearRange => cases same
    | name placeholder => cases same
  have rewritable := Template.rewritable_initial alternatingToo current
  have read := readFront_renderAll alternatingToo (closesRanges_withReturns closes) endsToo
    rewritable current below
  rw [patterns_withReturns plain, pieces, ← joined_writtenPieces rewritable, pieces,
    joined_returnedPieces (unnamed_of_alternates alternating)] at read
  exact read

end Segment

namespace Found

theorem tearsBreak_iff {text : Text} {position : Nat} :
    tearsBreak text position = true ↔
      (text.take position).getLast? = some '\r' ∧ (text.drop position).head? = some '\n' := by
  simp [tearsBreak, List.head?_drop]

section Correction

variable {segments : List Segment} {literal : Text} {pieces : List Piece} {last : Piece}
  {start : Nat}

/-- A last piece that is too long is cut where no break is torn and the segments spell the rest. -/
theorem correct_of_spellsAll
    (atEnd : segments.getLast? = some (.text literal))
    (longer : literal.length < last.text.length)
    (untorn : tearsBreak last.text literal.length = false)
    (spelled : Segment.SpellsAll segments
      (Piece.joined pieces ++ last.text.take literal.length)) :
    correct segments (segments.map Segment.pattern) ⟨start, pieces ++ [last]⟩ =
      ⟨start, pieces ++ [⟨last.text.take literal.length, last.captures⟩]⟩ := by
  have shorter : cutLast ⟨start, pieces ++ [last]⟩ last literal.length =
      ⟨start, pieces ++ [⟨last.text.take literal.length, last.captures⟩]⟩ := by
    simp [cutLast]
  have read : (Piece.readWhole (segments.map Segment.pattern)
      (Piece.joined (pieces ++ [⟨last.text.take literal.length, last.captures⟩]))).isSome =
        true := by
    rw [Piece.readWhole_isSome_iff, Piece.joined_append]
    simpa using spelled
  rw [correct, atEnd, List.getLast?_concat]
  dsimp only
  rw [if_neg (by simp [untorn]; omega), shorter, if_pos read]

/-- A last piece stays as it is where it is not too long, a break would be torn or the segments do
not spell the rest. -/
theorem correct_of_not_spellsAll
    (atEnd : segments.getLast? = some (.text literal))
    (unspelled : literal.length < last.text.length →
      tearsBreak last.text literal.length = false →
        ¬ Segment.SpellsAll segments (Piece.joined pieces ++ last.text.take literal.length)) :
    correct segments (segments.map Segment.pattern) ⟨start, pieces ++ [last]⟩ =
      ⟨start, pieces ++ [last]⟩ := by
  rw [correct, atEnd, List.getLast?_concat]
  dsimp only
  split
  · rfl
  · rename_i cuttable
    simp only [Bool.or_eq_true, decide_eq_true_eq, not_or, Nat.not_le, Bool.not_eq_true] at cuttable
    rw [if_neg]
    intro read
    apply unspelled cuttable.1 cuttable.2
    rw [Piece.readWhole_isSome_iff, cutLast, List.dropLast_concat, Piece.joined_append] at read
    simpa using read

end Correction

/-- The correction cuts a fresh header with carriage returns exactly when the last literal recounts
its breaks. -/
theorem correct_returnedPieces
    {segments init : List Segment} {literal : Text}
    (shape : segments = init ++ [.text literal])
    (alternating : Segment.alternates segments = true)
    (closes : Segment.closesRanges segments = true)
    (plain : Segment.Plain segments)
    (ends : literal.getLast? = some '\n')
    (current : CurrentYear) :
    ∃ last,
      correct segments (segments.map Segment.pattern)
          ⟨0, segments.map (Segment.returnedPiece current)⟩ =
        ⟨0, init.map (Segment.returnedPiece current) ++ [last]⟩ ∧
      (literal.Recounts ∧ last.text.length = literal.length ∨
        ¬ literal.Recounts ∧ last.text = literal.withReturns) := by
  subst shape
  have unnamed := Segment.unnamed_of_alternates alternating
  have plainLiteral : '\r' ∉ literal := plain literal (by simp)
  have singles := Segment.spellsAll_joined_returnedPieces
    (fun placeholder member => unnamed placeholder (List.mem_append_left _ member))
    (fun other member => plain other (List.mem_append_left _ member)) current
  have place := (literal.withReturns.take_append_drop literal.length).symm
  have longer : literal.length < literal.withReturns.length := by
    have feeds : 0 < literal.count '\n' := List.count_pos_iff.2 (List.mem_of_getLast? ends)
    rw [Text.length_withReturns]
    omega
  have length : (literal.withReturns.take literal.length).length = literal.length := by
    rw [List.length_take]
    omega
  have atEnd : (init ++ [Segment.text literal]).getLast? = some (.text literal) :=
    List.getLast?_concat
  have pieces : (init ++ [Segment.text literal]).map (Segment.returnedPiece current) =
      init.map (Segment.returnedPiece current) ++ [⟨literal.withReturns, []⟩] := by
    rw [List.map_append]
    rfl
  rw [pieces]
  by_cases recounts : literal.Recounts
  · rcases Segment.spellsAll_of_recounts plainLiteral ends singles place length recounts with
      ⟨untorn, spelled⟩
    rw [← tearsBreak_iff, Bool.not_eq_true] at untorn
    exact ⟨_, correct_of_spellsAll atEnd longer untorn spelled, Or.inl ⟨recounts, length⟩⟩
  · refine ⟨_, correct_of_not_spellsAll atEnd fun _ untorn spelled => ?_, Or.inr ⟨recounts, rfl⟩⟩
    apply recounts
    apply Segment.recounts_of_spellsAll alternating closes plainLiteral ends singles place length
    · rw [← tearsBreak_iff, Bool.not_eq_true]
      exact untorn
    · exact spelled

/-- What is read from a fresh header with carriage returns keeps the current year, even if the last
literal is cut. -/
theorem exists_interpretAll_returnedPieces
    {init : List Segment}
    (unnamed : ∀ placeholder, .name placeholder ∉ init)
    (literal : Text)
    (current : CurrentYear)
    (last : Piece) :
    ∃ results,
      interpretAll current (init ++ [.text literal])
          (init.map (Segment.returnedPiece current) ++ [last]) = .ok results ∧
        results.map (·.kept) = List.map (Segment.initial current) (init ++ [.text literal]) := by
  have meant : List.Forall₂
      (fun segment piece => ∃ result,
        Segment.interpret segment current piece.text piece.text.length piece.captures =
            .ok result ∧
          result.kept = Segment.initial current segment)
      (init ++ [.text literal]) (init.map (Segment.returnedPiece current) ++ [last]) := by
    rw [forall₂_concat, List.forall₂_map_right_iff, List.forall₂_same]
    refine ⟨?_, _, rfl, rfl⟩
    intro segment member
    cases segment with
    | text other => exact ⟨_, rfl, rfl⟩
    | year =>
      have rewritable : Segment.Rewritable .year .nothing := rfl
      exact ⟨_, Segment.interpret_writtenPiece rewritable current current _, rfl⟩
    | yearRange =>
      have rewritable : Segment.Rewritable .yearRange (.startYear current.value) :=
        ⟨current.value, rfl, current.least_le, current.le_greatest⟩
      exact ⟨_, Segment.interpret_writtenPiece rewritable current current _, rfl⟩
    | name placeholder => exact absurd member (unnamed placeholder)
  rcases exists_interpretAll meant with ⟨results, interpreted, keeps⟩
  refine ⟨results, interpreted, ?_⟩
  rw [← List.forall₂_eq_eq_eq, List.forall₂_map_left_iff, List.forall₂_map_right_iff]
  exact keeps.flip

end Found

namespace Template

variable {source literal : Text} {template : Template}

/-- The fresh header of a template, with carriage returns and followed by anything, is found at the
top of the text and keeps the current year; it is found whole unless the last literal of the
template recounts its breaks. -/
theorem exists_match?_withReturns
    (parsed : parse source = .ok template)
    (plain : '\r' ∉ source)
    (final : template.segments.getLast? = some (.text literal))
    (closes : template.closesRanges = true)
    (current : CurrentYear)
    (rest : Text) :
    ∃ found,
      template.match? current ((template.renderFresh current).withReturns ++ rest) =
        .ok (some found) ∧
      found.start = 0 ∧
      found.kept = template.segments.map (Segment.initial current) ∧
      (literal.Recounts ∧
          found.length + literal.count '\n' = (template.renderFresh current).withReturns.length ∨
        ¬ literal.Recounts ∧ found.length = (template.renderFresh current).withReturns.length) := by
  have alternating := alternates_of_parse parsed
  have plainTexts : Segment.Plain template.segments := fun _ => plain_of_parse parsed plain
  have unnamed := Segment.unnamed_of_alternates alternating
  have read := Segment.readFront_withReturns alternating closes
    (fun _ => getLast?_of_parse parsed plain) plainTexts current rest
  rcases List.getLast?_eq_some_iff.1 final with ⟨init, shape⟩
  have header : (template.renderFresh current).withReturns =
      Piece.joined (init.map (Segment.returnedPiece current)) ++ literal.withReturns := by
    rw [renderFresh, render, ← Segment.joined_returnedPieces unnamed, shape, List.map_append,
      Piece.joined_append]
    simp [Segment.returnedPiece, Segment.writtenPiece, Segment.withReturns, Segment.render]
  rcases Found.correct_returnedPieces shape alternating closes plainTexts
    (getLast?_of_parse parsed plain final) current with ⟨last, corrected, length⟩
  have found : template.find? ((template.renderFresh current).withReturns ++ rest) =
      some ⟨0, init.map (Segment.returnedPiece current) ++ [last]⟩ := by
    rw [find?, renderFresh, render, patterns]
    simp only [Found.searchFrom_of_readFront read, Option.map_some, corrected]
  have unnamedInit : ∀ placeholder, .name placeholder ∉ init := fun placeholder member =>
    unnamed placeholder (shape ▸ List.mem_append_left _ member)
  rcases Found.exists_interpretAll_returnedPieces unnamedInit literal current last with
    ⟨results, interpreted, keeps⟩
  rw [← shape] at interpreted keeps
  refine ⟨_, match?_of_find? found interpreted, rfl, keeps, ?_⟩
  rw [header, Piece.joined_append, Piece.joined_cons, Piece.joined_nil, List.append_nil]
  simp only [List.length_append, Text.length_withReturns]
  rcases length with ⟨recounts, short⟩ | ⟨recounts, whole⟩
  · exact Or.inl ⟨recounts, by omega⟩
  · exact Or.inr ⟨recounts, by rw [whole, Text.length_withReturns]⟩

/-- The fresh header of a template, with carriage returns and followed by anything, is found at the
top of the text.  It is recognised whole exactly when the last literal of the template does not
recount its breaks; otherwise its end is missed by as many characters as the literal has line feeds.
If anything is reported on it there is a fix, and the fix replaces it whole in the same case. -/
theorem match?_withReturns_whole_iff
    (parsed : parse source = .ok template)
    (plain : '\r' ∉ source)
    (final : template.segments.getLast? = some (.text literal))
    (closes : template.closesRanges = true)
    (current : CurrentYear)
    (rest : Text) :
    ∃ found analysis outcome,
      template.match? current ((template.renderFresh current).withReturns ++ rest) =
        .ok (some found) ∧
      found.start = 0 ∧
      (found.length = (template.renderFresh current).withReturns.length ↔ ¬ literal.Recounts) ∧
      (literal.Recounts →
        found.length + literal.count '\n' = (template.renderFresh current).withReturns.length) ∧
      template.analyze current ((template.renderFresh current).withReturns ++ rest) =
        .ok analysis ∧
      template.fix? current ((template.renderFresh current).withReturns ++ rest)
        analysis.diagnostics = .ok outcome ∧
      (analysis.diagnostics ≠ [] →
        ∃ fix, outcome = some fix ∧
          (fix.text = template.renderFresh current ++ rest ↔ ¬ literal.Recounts)) := by
  rcases exists_match?_withReturns parsed plain final closes current rest with
    ⟨found, searched, start, kept, length⟩
  have feeds : 0 < literal.count '\n' :=
    List.count_pos_iff.2 (List.mem_of_getLast? (getLast?_of_parse parsed plain final))
  have shorter : found.length ≤ (template.renderFresh current).withReturns.length := by
    rcases length with ⟨-, short⟩ | ⟨-, whole⟩ <;> omega
  have whole : found.length = (template.renderFresh current).withReturns.length ↔
      ¬ literal.Recounts := by
    rcases length with ⟨recounts, short⟩ | ⟨recounts, whole⟩
    · simp only [recounts, not_true_eq_false, iff_false]
      omega
    · simp [recounts, whole]
  have short : literal.Recounts →
      found.length + literal.count '\n' = (template.renderFresh current).withReturns.length := by
    intro recounts
    rcases length with ⟨-, short⟩ | ⟨otherwise, -⟩
    · exact short
    · exact absurd recounts otherwise
  by_cases clean : (Analysis.ofOutcome ((template.renderFresh current).withReturns ++ rest)
      (some found)).diagnostics = []
  · refine ⟨found, _, _, searched, start, whole, short, analyze_of_match? searched,
      fix?_of_clean clean, ?_⟩
    intro reported
    exact absurd clean reported
  · refine ⟨found, _, _, searched, start, whole, short, analyze_of_match? searched,
      fix?_of_reported searched clean, fun _ => ⟨_, rfl, ?_⟩⟩
    have rendered : template.render current (template.carried current (some found)) =
        template.renderFresh current := by
      rw [carried, kept, renderFresh, render, render, Segment.renderAll_initial]
    have remainder :
        Text.without ((template.renderFresh current).withReturns ++ rest) (some found) =
          ((template.renderFresh current).withReturns ++ rest).drop found.length := by
      simp [Text.without, Match.stop, start]
    rw [← whole, rendered, remainder]
    constructor
    · intro same
      have lengths := congrArg List.length same
      simp only [List.length_append, List.length_drop] at lengths
      omega
    · intro same
      rw [same, List.drop_left]

theorem match?_withReturns_whole_sample :
    ∃ found,
      sample.match? sampleYear ((sample.renderFresh sampleYear).withReturns ++ ['x']) =
        .ok (some found) ∧
      found.length = (sample.renderFresh sampleYear).withReturns.length := by
  have parsed : parse "# \x7bYearRange\x7d A\n".toList = .ok sample := by
    decide +kernel
  have whole : ¬ Text.Recounts [' ', 'A', '\n'] :=
    Text.not_recounts_of_endsShown (Text.endsShown_concat [' '] rfl)
  rcases match?_withReturns_whole_iff parsed (by decide) rfl (by decide) sampleYear ['x'] with
    ⟨found, _, _, searched, -, length, -⟩
  exact ⟨found, searched, length.2 whole⟩

/-- A template whose header is one line and an empty one. -/
def spacedSample : Template where
  segments := [.text "// x\n\n".toList]
  occupied := by simp

/-- The halves of the only break that is left are read as the two breaks of the literal. -/
theorem match?_withReturns_misses_break :
    parse "// x\n\n".toList = .ok spacedSample ∧
      spacedSample.renderFresh sampleYear = "// x\n\n".toList ∧
      Text.withReturns "// x\n\n".toList = "// x\r\n\r\n".toList ∧
      spacedSample.match? sampleYear "// x\r\n\r\ncode".toList =
        .ok (some ⟨0, 6, [⟨true, [], [], .nothing⟩]⟩) ∧
      "// x\r\n\r\n".toList.length = 8 ∧
      (spacedSample.fix? sampleYear "// x\r\n\r\ncode".toList
          (Analysis.ofMatch ⟨0, 6, [⟨true, [], [], .nothing⟩]⟩).diagnostics).map (·.map (·.text)) =
        .ok (some "// x\n\n\r\ncode".toList) := by
  decide +kernel

end Template

end Masthead
