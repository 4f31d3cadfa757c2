import Masthead.Proofs.Segment.Neighbours
import Masthead.Proofs.Template.CarriageReturn

/-!
# A header that has drifted is found whole

A header that has drifted from what its template writes is found at the top of the text over its
whole length, and its start years are kept.  Nothing else is read: other readings of the text show
the same, so they go as far as the last character that the header shows, and a single line break is
left to read below.  That break is read as a whole where the header stands, and the correction does
not cut it, since nothing but half of a break could be cut off.

The last text of the template has to end in exactly one line break for this.  With more of them, the
halves of a break could be read as two breaks.
-/

namespace Masthead

namespace Text

/-- What follows the last character that a text shows has exactly one line break. -/
def BreaksOnce (text : Text) : Prop :=
  ∃ shown before ending after : Text, text = shown ++ (before ++ (ending ++ after)) ∧
    shown.EndsShown ∧ before.Within isHorizontalBlank ∧ ending.IsBreak ∧
      after.Within isHorizontalBlank

/-- A text that ends a line and breaks once below what it shows ends in a line break. -/
theorem exists_of_breaksOnce
    {text : Text} {c : Char}
    (once : text.BreaksOnce)
    (last : text.getLast? = some c)
    (isEnd : isLineEnd c = true) :
    ∃ shown before ending : Text, text = shown ++ (before ++ ending) ∧ shown.EndsShown ∧
      before.Within isHorizontalBlank ∧ ending.IsBreak := by
  rcases once with
    ⟨shown, before, ending, after, rfl, endsShown, horizontal, isBreak, horizontalToo⟩
  cases after using List.reverseRecOn with
  | nil =>
    rw [List.append_nil] at last ⊢
    exact ⟨shown, before, ending, rfl, endsShown, horizontal, isBreak⟩
  | append_singleton after d _ =>
    have final : d = c := by
      simpa [← List.append_assoc] using last
    have blank := horizontalToo d (by simp)
    simp [isHorizontalBlank, final, isEnd] at blank

end Text

namespace Token

variable {tokens : List Token} {upper lower below cut rest : Text}

/-- If less of a line break is still a line break, what is left out is the line feed after a
carriage return. -/
theorem eq_feed_of_spells_lineBreak
    (spelled : lineBreak.Spells lower)
    (spelledToo : lineBreak.Spells (lower ++ cut))
    (occupied : cut ≠ []) :
    lower.getLast? = some '\r' ∧ cut = ['\n'] := by
  have final : ∃ c, lower.getLast? = some c ∧ isLineEnd c = true := by
    rcases spelled with ⟨blanks, ending, rfl, -, rfl | rfl | rfl⟩ <;> simp [isLineEnd]
  rcases final with ⟨c, final, ends⟩
  rcases eq_feed_of_getLast? final ends occupied spelledToo with ⟨rfl, feed⟩
  exact ⟨final, feed⟩

/-- A literal that ends in a line break reads that break whole after what the other tokens read. -/
theorem exists_upper_of_readAll
    {middle : Text} {piece : Piece}
    (read : Piece.readAll (fun _ => true)
      [Pattern.concat ((tokens ++ [lineBreak]).map pattern)] middle = some [piece]) :
    ∃ upper lower, middle = upper ++ lower ∧ SpellsAll tokens upper ∧
      ∀ below rest, lower = below ++ rest → lineBreak.Spells below →
        (below.getLast? = some '\r' → rest.head? ≠ some '\n') → piece.text = upper ++ below := by
  rw [Piece.readAll, List.map_append] at read
  rcases Pattern.exists_of_run_concat read with ⟨upper, captures, lower, rfl, accepted, lastRead⟩
  refine ⟨upper, lower, rfl, accepts_concat_iff.1 accepted, ?_⟩
  rintro _ rest rfl ⟨blanks, ending, rfl, horizontal, isBreak⟩ whole
  have wholeBreak : ending = ['\r'] → rest.head? ≠ some '\n' := by
    rintro rfl
    exact whole (by simp)
  have prefers := prefers_lineBreakPattern horizontal isBreak wholeBreak
  rw [List.append_assoc blanks, prefers] at lastRead
  · simp only [Piece.readAll, if_true, Option.map_some, Option.some.injEq, List.cons.injEq,
      and_true] at lastRead
    rw [← lastRead, ← List.append_assoc blanks, ← List.append_assoc upper, Stretch.text_append]
  · simp [Piece.readAll]

/-- What follows something shown and has one break below it is cut into that break. -/
theorem ofLiteral_append_break
    {shown before ending : Text}
    (endsShown : shown.EndsShown)
    (horizontal : before.Within isHorizontalBlank)
    (isBreak : ending.IsBreak) :
    ofLiteral (shown ++ (before ++ ending)) = ofLiteral shown ++ [lineBreak] := by
  have cut : CutsInto (before ++ (ending ++ [])) [lineBreak] :=
    .lineBreak horizontal isBreak (by simp) .nothing
  rw [List.append_nil] at cut
  have within : (before ++ ending).Within isBlank :=
    within_isBlank_of_spells_lineBreak ⟨before, ending, rfl, horizontal, isBreak⟩
  exact ((cutsInto_ofLiteral shown).append_of_within endsShown cut within).ofLiteral_eq

end Token

namespace Segment

variable {init : List Segment} {literal shown header rest : Text}

/-- What segments spell that end in one line break is divided before that break. -/
theorem exists_upper_of_spellsAll
    (tokens : Token.ofLiteral literal = Token.ofLiteral shown ++ [.lineBreak])
    (spelled : SpellsAll (init ++ [.text literal]) header) :
    ∃ upper below, header = upper ++ below ∧ SpellsAll (init ++ [.text shown]) upper ∧
      Token.lineBreak.Spells below := by
  rcases spellsAll_append_iff.1 spelled with ⟨before, text, rfl, spelledInit, spelledText⟩
  rw [spellsAll_singleton_iff, Spells, tokens, Token.spellsAll_append_iff] at spelledText
  rcases spelledText with ⟨front, _, rfl, spelledFront, below, _, rfl, spelledBelow, rfl⟩
  refine ⟨before ++ front, below, by simp, ?_, spelledBelow⟩
  exact spellsAll_append_iff.2
    ⟨before, front, rfl, spelledInit, spellsAll_singleton_iff.2 spelledFront⟩

/-- A header that ends in one line break is read whole. -/
theorem exists_pieces_of_readFront
    {pieces : List Piece}
    (alternating : alternates (init ++ [.text literal]) = true)
    (closes : closesRanges (init ++ [.text shown]) = true)
    (endsShown : shown.EndsShown)
    (tokens : Token.ofLiteral literal = Token.ofLiteral shown ++ [.lineBreak])
    (spelled : SpellsAll (init ++ [.text literal]) header)
    (whole : header.getLast? = some '\r' → rest.head? ≠ some '\n')
    (read : Piece.readFront (List.map pattern (init ++ [.text literal])) (header ++ rest) =
      some pieces) :
    ∃ others last, pieces = others ++ [last] ∧ Piece.joined pieces = header := by
  rw [Piece.readFront, List.map_append, List.map_singleton, pattern, tokens] at read
  rcases Piece.exists_of_readAll_concat read with
    ⟨others, last, middle, rfl, place, pairs, lastRead⟩
  rcases Token.exists_upper_of_readAll lastRead with ⟨upper, lower, rfl, spelledUpper, readsBreak⟩
  rcases exists_upper_of_spellsAll tokens spelled with ⟨visible, below, rfl, spelledVisible,
    spelledBelow⟩
  -- Both the header and what is read are divided where the last text shows something for the last
  -- time, and they agree up to there.
  have reading : SpellsAll (init ++ [.text shown]) (Piece.joined others ++ upper) :=
    spellsAll_append_iff.2 ⟨_, upper, rfl, Piece.spellsAll_joined pairs,
      spellsAll_singleton_iff.2 spelledUpper⟩
  rw [List.append_assoc, ← List.append_assoc (Piece.joined others)] at place
  rcases append_inj_of_spellsAll alternating closes endsShown spelledVisible reading place with
    ⟨sameShown, follows⟩
  refine ⟨others, last, rfl, ?_⟩
  have text := readsBreak below rest follows.symm spelledBelow fun final => whole (by
    rw [List.getLast?_append, final]
    rfl)
  rw [Piece.joined_append, Piece.joined_cons, Piece.joined_nil, List.append_nil, text, sameShown,
    List.append_assoc]

end Segment

namespace Found

/-- A header that ends in one line break is not cut. -/
theorem correct_eq_self_of_spellsAll
    {init : List Segment} {literal shown : Text} {others : List Piece} {last : Piece}
    (alternating : Segment.alternates (init ++ [.text literal]) = true)
    (closes : Segment.closesRanges (init ++ [.text shown]) = true)
    (endsShown : shown.EndsShown)
    (tokens : Token.ofLiteral literal = Token.ofLiteral shown ++ [.lineBreak])
    (spelled : Segment.SpellsAll (init ++ [.text literal]) (Piece.joined (others ++ [last])))
    (start : Nat) :
    correct (init ++ [.text literal]) (List.map Segment.pattern (init ++ [.text literal]))
      ⟨start, others ++ [last]⟩ = ⟨start, others ++ [last]⟩ := by
  apply correct_of_not_spellsAll List.getLast?_concat
  intro longer untorn spelledShort
  rcases Segment.exists_upper_of_spellsAll tokens spelled with ⟨visible, below, place,
    spelledVisible, spelledBelow⟩
  rcases Segment.exists_upper_of_spellsAll tokens spelledShort with ⟨upper, lower, shortPlace,
    spelledUpper, spelledLower⟩
  -- A shorter header would show the same, so only a part of the line break could be missing.
  have whole : upper ++ (lower ++ last.text.drop literal.length) = visible ++ below := by
    rw [← place, ← List.append_assoc, ← shortPlace]
    simp [Piece.joined_append]
  have follows := (Segment.append_inj_of_spellsAll alternating closes endsShown spelledUpper
    spelledVisible whole).2
  rw [← follows] at spelledBelow
  have left : last.text.drop literal.length ≠ [] := by
    rw [Ne, List.drop_eq_nil_iff]
    omega
  rcases Token.eq_feed_of_spells_lineBreak spelledLower spelledBelow left with ⟨final, feed⟩
  have kept : last.text.take literal.length ≠ [] := by
    have occupied : literal ≠ [] := by
      rintro rfl
      rw [Token.CutsInto.nothing.ofLiteral_eq] at tokens
      simp at tokens
    have length := List.length_pos_of_ne_nil occupied
    apply List.ne_nil_of_length_pos
    rw [List.length_take]
    omega
  have torn : tearsBreak last.text literal.length = true := by
    rw [tearsBreak_iff, feed]
    refine ⟨?_, rfl⟩
    have ends := congrArg List.getLast? shortPlace
    rw [List.getLast?_append, List.getLast?_append, final,
      List.getLast?_eq_some_getLast kept] at ends
    rw [List.getLast?_eq_some_getLast kept]
    exact ends
  rw [torn] at untorn
  cases untorn

end Found

namespace Template

variable {source literal header rest : Text} {template : Template} {kept : List Kept}

/-- What is read at the top of a text where a drifted header stands is just that header, and it is
not corrected. -/
theorem exists_find?_of_spellsAll
    (parsed : parse source = .ok template)
    (final : template.segments.getLast? = some (.text literal))
    (once : literal.BreaksOnce)
    (closes : template.closesRanges = true)
    (spelled : Segment.SpellsAll template.segments header)
    (whole : header.getLast? = some '\r' → rest.head? ≠ some '\n') :
    ∃ pieces, template.find? (header ++ rest) = some ⟨0, pieces⟩ ∧
      List.Forall₂ Piece.ReadBy template.patterns pieces ∧ Piece.joined pieces = header := by
  have alternating := alternates_of_parse parsed
  rcases exists_isLineEnd_of_parse parsed final with ⟨c, last, isEnd⟩
  rcases Text.exists_of_breaksOnce once last isEnd with ⟨shown, before, ending, rfl, endsShown,
    horizontal, isBreak⟩
  have tokens := Token.ofLiteral_append_break endsShown horizontal isBreak
  have within : (before ++ ending).Within isBlank :=
    Token.within_isBlank_of_spells_lineBreak ⟨before, ending, rfl, horizontal, isBreak⟩
  rcases Option.isSome_iff_exists.1 (Piece.readFront_isSome_iff.2 ⟨header, rest, rfl, spelled⟩) with
    ⟨pieces, read⟩
  rcases Piece.readAll_eq_some read with ⟨_, -, -, pairs⟩
  rcases List.getLast?_eq_some_iff.1 final with ⟨init, shape⟩
  have shorterCloses : Segment.closesRanges (init ++ [.text shown]) = true := by
    rw [closesRanges, shape] at closes
    exact Segment.closesRanges_concat (Text.opensPlainly_append_of_within within shown) closes
  have found := Found.searchFrom_of_readFront read 0
  rw [shape] at alternating spelled read
  rcases Segment.exists_pieces_of_readFront alternating shorterCloses endsShown tokens spelled whole
    read with ⟨others, lastPiece, rfl, joined⟩
  rw [← joined] at spelled
  have uncorrected := Found.correct_eq_self_of_spellsAll alternating shorterCloses endsShown tokens
    spelled 0
  rw [← shape] at uncorrected
  refine ⟨others ++ [lastPiece], ?_, pairs, joined⟩
  rw [find?, patterns, found, Option.map_some, uncorrected]

/-- A drifted header is found at the top and over its whole length, and its start years are kept. -/
theorem exists_match?_of_driftAllTo
    (parsed : parse source = .ok template)
    (final : template.segments.getLast? = some (.text literal))
    (once : literal.BreaksOnce)
    (closes : template.closesRanges = true)
    (drifts : Segment.DriftAllTo template.segments kept header)
    (whole : header.getLast? = some '\r' → rest.head? ≠ some '\n')
    (current : CurrentYear) :
    ∃ found,
      template.match? current (header ++ rest) = .ok (some found) ∧
      found.start = 0 ∧
      found.length = header.length ∧
      found.kept = kept := by
  have unnamed := Segment.unnamed_of_alternates (alternates_of_parse parsed)
  rcases exists_find?_of_spellsAll parsed final once closes drifts.spellsAll whole with
    ⟨pieces, found, pairs, joined⟩
  rcases Found.exists_interpretAll_of_readBy pairs current with ⟨results, interpreted, driftsToo⟩
  rw [joined] at driftsToo
  have same : results.map (·.kept) = kept :=
    (Segment.eq_and_trimLeft_eq_of_driftAllTo unnamed closes driftsToo drifts
      (rfl : (header ++ []).trimLeft = _)).1
  exact ⟨_, match?_of_find? found interpreted, rfl, congrArg List.length joined, same⟩

/-- A header that has drifted is recognised and put right.  It is found at the top of the text and
over its whole length, whatever follows, and its start years are kept.  Written anew it has just
these start years, and it replaces the drifted one: if anything is reported there is a fix, which
puts the new header in front of what follows. -/
theorem match?_drifted
    (parsed : parse source = .ok template)
    (final : template.segments.getLast? = some (.text literal))
    (once : literal.BreaksOnce)
    (closes : template.closesRanges = true)
    (drifts : Segment.DriftAllTo template.segments kept header)
    (whole : header.getLast? = some '\r' → rest.head? ≠ some '\n')
    (current : CurrentYear) :
    ∃ found analysis outcome,
      template.match? current (header ++ rest) = .ok (some found) ∧
      found.start = 0 ∧
      found.length = header.length ∧
      found.kept = kept ∧
      template.evaluate current (some (header ++ rest)) =
        .ok ⟨template.render current kept, some (0, header.length)⟩ ∧
      template.analyze current (header ++ rest) = .ok analysis ∧
      template.fix? current (header ++ rest) analysis.diagnostics = .ok outcome ∧
      (analysis.diagnostics ≠ [] →
        ∃ fix, outcome = some fix ∧ fix.text = template.render current kept ++ rest) := by
  rcases exists_match?_of_driftAllTo parsed final once closes drifts whole current with
    ⟨found, searched, start, length, same⟩
  have evaluated : template.evaluate current (some (header ++ rest)) =
      .ok ⟨template.render current kept, some (0, header.length)⟩ := by
    rw [evaluate_of_match? searched, carried, same, Option.map_some, start, length]
  have remainder : Text.without (header ++ rest) (some found) = rest := by
    simp [Text.without, Match.stop, start, length]
  by_cases clean : (Analysis.ofOutcome (header ++ rest) (some found)).diagnostics = []
  · exact ⟨found, _, none, searched, start, length, same, evaluated, analyze_of_match? searched,
      fix?_of_clean clean, fun reported => absurd clean reported⟩
  · refine ⟨found, _, _, searched, start, length, same, evaluated, analyze_of_match? searched,
      fix?_of_reported searched clean, fun _ => ⟨_, rfl, ?_⟩⟩
    rw [remainder, carried, same]

/-- A template with a copyright sign. -/
def signedSample : Template where
  segments := [.text ['©', ' '], .yearRange, .text [' ', 'A', '\n']]
  occupied := by simp

/-- A header of the template in which everything has drifted. -/
def driftedSample : Text := "(C)\t\n2019 -- 2021  a \r\n".toList

theorem driftAllTo_driftedSample :
    Segment.DriftAllTo signedSample.segments [.nothing, .startYear 2019, .nothing]
      driftedSample := by
  have sign : Token.copyright.Spells ['©'] := Or.inr ⟨'©', rfl, rfl⟩
  have bracketed : Token.copyright.Spells ['(', 'C', ')'] :=
    Or.inl ⟨'(', [], 'C', [], ')', rfl, rfl, by decide, rfl, by decide, rfl⟩
  have front : Text.DriftsTo ['©', ' '] ['(', 'C', ')', '\t', '\n'] :=
    .copyright sign bracketed
      (.blanks (List.cons_ne_nil ' ' []) (by decide) (by simp) (List.cons_ne_nil '\t' ['\n'])
        (by decide) .nothing)
  have isTail : Text.IsRangeTail " -- 2021".toList :=
    ⟨[' '], ['-', '-'], [' '], "2021".toList, rfl, by decide, by decide, by decide, by decide⟩
  have range : Segment.yearRange.DriftsTo (.startYear 2019) "2019 -- 2021".toList :=
    ⟨"2019".toList, " -- 2021".toList, rfl, by decide, Or.inl isTail, rfl⟩
  have lineBreak : Text.DriftsTo ([] ++ (['\n'] ++ [])) ([' '] ++ (['\r', '\n'] ++ [])) :=
    .lineBreak (by decide) (Or.inr (Or.inr rfl)) (by simp) (by decide) (Or.inl rfl) .nothing
  have unsigned : ∀ sign rest, ['A', '\n'] = sign ++ rest → ¬ Token.copyright.Spells sign :=
    Token.afterCopyright?_eq_none_iff.1 rfl
  have boundary : ∀ c, List.head? ['A', '\n'] = some c → isBlank c = false := by
    rintro _ ⟨⟩
    rfl
  have back : Text.DriftsTo [' ', 'A', '\n'] "  a \r\n".toList :=
    .blanks (List.cons_ne_nil ' ' []) (by decide) boundary (List.cons_ne_nil ' ' [' '])
      (by decide) (.letter rfl unsigned rfl lineBreak)
  exact ⟨_, _, rfl, ⟨front, rfl⟩, _, _, rfl, range, _, [], rfl, ⟨back, rfl⟩, rfl⟩

theorem match?_drifted_sample :
    ∃ found analysis fix,
      parse "© \x7bYearRange\x7d A".toList = .ok signedSample ∧
      signedSample.match? sampleYear (driftedSample ++ ['x']) = .ok (some found) ∧
      found.length = driftedSample.length ∧
      found.kept = [.nothing, .startYear 2019, .nothing] ∧
      signedSample.analyze sampleYear (driftedSample ++ ['x']) = .ok analysis ∧
      signedSample.fix? sampleYear (driftedSample ++ ['x']) analysis.diagnostics =
        .ok (some fix) ∧
      fix.text = "© 2019–2024 A\nx".toList := by
  have parsed : parse "© \x7bYearRange\x7d A".toList = .ok signedSample := by
    decide +kernel
  have once : Text.BreaksOnce [' ', 'A', '\n'] :=
    ⟨[' ', 'A'], [], ['\n'], [], rfl, Text.endsShown_concat [' '] rfl, by decide,
      Or.inr (Or.inr rfl), by decide⟩
  have whole : driftedSample.getLast? = some '\r' → List.head? ['x'] ≠ some '\n' := by
    decide
  have reported : (signedSample.analyze sampleYear (driftedSample ++ ['x'])).map
      (·.diagnostics.isEmpty) = .ok false := by
    decide +kernel
  have rendered : signedSample.render sampleYear [.nothing, .startYear 2019, .nothing] ++ ['x'] =
      "© 2019–2024 A\nx".toList := by
    decide +kernel
  rcases match?_drifted parsed rfl once (by decide) driftAllTo_driftedSample whole sampleYear with
    ⟨found, analysis, outcome, searched, -, length, kept, -, analyzed, fixed, fixes⟩
  rw [analyzed] at reported
  have diagnosed : analysis.diagnostics ≠ [] := by
    intro nothing
    rw [Except.map, nothing] at reported
    cases reported
  rcases fixes diagnosed with ⟨fix, rfl, text⟩
  exact ⟨found, analysis, fix, parsed, searched, length, kept, analyzed, fixed,
    text.trans rendered⟩

end Template

end Masthead
