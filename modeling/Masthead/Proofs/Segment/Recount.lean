import Masthead.Proofs.Segment.Breaks

/-!
# Reading a literal from too little

With carriage returns a literal is spelled by more characters than it has itself, and a part of
that spelling that is just as long as the literal may spell it as well.  This happens exactly when
what is left over shows nothing and has no more breaks than the breaks before it have carriage
returns to spare: then the two halves of some breaks are read as two.
-/

namespace Masthead

namespace Text

/-- With carriage returns, a literal is spelled by as many characters as it has itself: the blanks
at its end are as many as the line feeds before them, and have no more line feeds than the breaks
right before them. -/
def Recounts (literal : Text) : Prop :=
  ∃ shown breaks cut : Text,
    literal = shown ++ (breaks ++ cut) ∧
    breaks.Within isBlank ∧
    cut.Within isBlank ∧
    breaks.getLast? = some '\n' ∧
    cut.length = (shown ++ breaks).count '\n' ∧
    cut.count '\n' ≤ breaks.count '\n'

/-- A literal with a single line break right after what it shows does not recount. -/
theorem not_recounts_of_endsShown
    {shown : Text}
    (endsShown : shown.EndsShown) :
    ¬ Recounts (shown ++ ['\n']) := by
  rintro ⟨visible, breaks, cut, place, within, withinCut, final, sameLength, -⟩
  rcases visible.exists_endsShown_append with ⟨front, blanks, rfl, endsFront, withinBlanks⟩
  have feed : '\n' ∈ breaks := List.mem_of_getLast? final
  have feeds : 0 < (front ++ blanks ++ breaks).count '\n' :=
    List.count_pos_iff.2 (List.mem_append_right _ feed)
  have occupied : 0 < breaks.length := List.length_pos_of_mem feed
  have withinBreak : Within isBlank ['\n'] := by
    rintro _ (_ | ⟨_, ⟨⟩⟩)
    rfl
  rw [List.append_assoc] at place
  have lower := (endsShown.append_inj endsFront withinBreak
    (withinBlanks.append (within.append withinCut)) place).2
  have lengths := congrArg List.length lower
  simp only [List.length_append, List.length_singleton] at lengths
  omega

end Text

namespace Token

/-- What spells a literal that ends in something shown does so too. -/
theorem endsShown_of_spellsAll
    {literal spelling : Text} {tokens : List Token}
    (cut : CutsInto literal tokens)
    (shown : literal.EndsShown)
    (spelled : SpellsAll tokens spelling) :
    spelling.EndsShown ∧ (spelling = [] → literal = []) := by
  induction cut generalizing spelling with
  | nothing =>
    cases spelled
    exact ⟨shown, fun _ => rfl⟩
  | @lineBreak blanks ending after tokens horizontal isBreak whole _ ih =>
    have within : (blanks ++ ending).Within isBlank :=
      within_isBlank_of_spells_lineBreak ⟨blanks, ending, rfl, horizontal, isBreak⟩
    rw [← List.append_assoc] at shown
    rcases spelled with ⟨front, back, rfl, -, others⟩
    rcases ih (shown.of_append _) others with ⟨shownBack, empty⟩
    have occupied : back ≠ [] := by
      intro nothing
      rw [empty nothing, List.append_nil] at shown
      have gone := shown.eq_nil_of_within within
      rcases isBreak with rfl | rfl | rfl <;> simp at gone
    exact ⟨shownBack.append_of_ne_nil occupied front, by simp [occupied]⟩
  | @blanks run after tokens inhabited horizontal boundary _ ih =>
    rcases spelled with ⟨front, back, rfl, -, others⟩
    rcases ih (shown.of_append _) others with ⟨shownBack, empty⟩
    have occupied : back ≠ [] := by
      intro nothing
      rw [empty nothing, List.append_nil] at shown
      exact inhabited (shown.eq_nil_of_within fun c member =>
        isBlank_of_isHorizontalBlank (horizontal c member))
    exact ⟨shownBack.append_of_ne_nil occupied front, by simp [occupied]⟩
  | @copyright sign after tokens _ signed _ ih =>
    rcases spelled with ⟨front, back, rfl, spelledFront, others⟩
    rcases exists_concat_of_spells_copyright spelledFront with ⟨init, c, rfl, shownLast⟩
    have shownFront := Text.endsShown_concat init shownLast
    exact ⟨shownFront.append (ih (shown.of_append _) others).1, by simp⟩
  | @letter c after tokens shownLetter unsigned _ ih =>
    rcases spelled with ⟨_, back, rfl, ⟨d, rfl, same⟩, others⟩
    have shownFront := Text.endsShown_concat [] (isBlank_eq_of_sameLetter same ▸ shownLetter)
    exact ⟨shownFront.append (ih (shown.of_append [c]) others).1, by simp⟩

/-- Line breaks end in a line end. -/
theorem exists_getLast?_of_spellsAll
    {count : Nat} {text : Text}
    (occupied : 0 < count)
    (spelled : SpellsAll (List.replicate count .lineBreak) text) :
    ∃ c, text.getLast? = some c ∧ isLineEnd c = true := by
  rcases Nat.exists_eq_succ_of_ne_zero occupied.ne' with ⟨others, rfl⟩
  rw [Nat.succ_eq_add_one, List.replicate_succ', spellsAll_append_iff] at spelled
  rcases spelled with ⟨front, _, rfl, -, _, _, rfl, ⟨blanks, ending, rfl, -, isBreak⟩, rfl⟩
  rw [List.append_nil, List.getLast?_append, List.getLast?_append]
  rcases isBreak with rfl | rfl | rfl
  all_goals exact ⟨_, rfl, rfl⟩

end Token

namespace Segment

/-- Single years are a special case. -/
theorem spellsAll_of_single
    {segments : List Segment} {text : Text}
    (spelled : SpellsAll (segments.map single) text) :
    SpellsAll segments text := by
  induction segments generalizing text with
  | nil => exact spelled
  | cons segment segments ih =>
    rcases spelled with ⟨front, back, rfl, spelledFront, others⟩
    refine ⟨front, back, rfl, ?_, ih others⟩
    cases segment with
    | yearRange => exact ⟨front, [], by simp, spelledFront, Or.inr rfl⟩
    | text literal => exact spelledFront
    | year => exact spelledFront
    | name placeholder => exact spelledFront

theorem isYear_of_alternates_concat
    {init : List Segment} {segment : Segment} {literal : Text}
    (alternating : alternates (init ++ [segment, .text literal]) = true) :
    segment = .year ∨ segment = .yearRange := by
  induction init with
  | nil => cases segment <;> simp_all [alternates]
  | cons other init ih => exact ih (alternates_of_cons alternating)

/-- What spells a year or a range ends in a year. -/
theorem exists_isYear_of_spells
    {segment : Segment} {spelling : Text}
    (isYear : segment = .year ∨ segment = .yearRange)
    (spelled : segment.Spells spelling) :
    ∃ before year : Text, spelling = before ++ year ∧ year.IsYear := by
  rcases isYear with rfl | rfl
  · exact ⟨[], spelling, rfl, spelled⟩
  · rcases spelled with ⟨start, tail, rfl, isStart,
      ⟨before, dashes, after, stop, rfl, -, -, -, isStop⟩ | rfl⟩
    · exact ⟨start ++ before ++ dashes ++ after, stop, by simp, isStop⟩
    · exact ⟨[], start, by simp, isStart⟩

/-- What spells the segments before a last text is nothing or ends in a year. -/
theorem eq_nil_or_exists_isYear_of_spellsAll
    {init : List Segment} {literal spelling : Text}
    (alternating : alternates (init ++ [.text literal]) = true)
    (spelled : SpellsAll init spelling) :
    spelling = [] ∨ ∃ before year : Text, spelling = before ++ year ∧ year.IsYear := by
  rcases List.eq_nil_or_concat' init with rfl | ⟨others, segment, rfl⟩
  · exact Or.inl spelled
  · rw [List.append_assoc] at alternating
    rcases spellsAll_append_iff.1 spelled with ⟨before, last, rfl, -, spelledLast⟩
    rcases exists_isYear_of_spells (isYear_of_alternates_concat alternating)
      (spellsAll_singleton_iff.1 spelledLast) with ⟨middle, year, rfl, isYear⟩
    exact Or.inr ⟨before ++ middle, year, by simp, isYear⟩

/-- What spells segments before a last text ends in something shown. -/
theorem endsShown_of_spellsAll
    {init : List Segment} {literal shown spelling : Text}
    (alternating : alternates (init ++ [.text literal]) = true)
    (ends : shown.EndsShown)
    (spelled : SpellsAll (init ++ [.text shown]) spelling) :
    spelling.EndsShown := by
  rcases spellsAll_append_iff.1 spelled with ⟨front, back, rfl, spelledFront, spelledBack⟩
  have atEnd := (Token.endsShown_of_spellsAll (Token.cutsInto_ofLiteral shown) ends
    (spellsAll_singleton_iff.1 spelledBack)).1
  apply Text.EndsShown.append _ atEnd
  rcases eq_nil_or_exists_isYear_of_spellsAll alternating spelledFront with
    rfl | ⟨before, year, rfl, length, decimals⟩
  · simp [Text.EndsShown]
  · have occupied : year ≠ [] := by
      rintro rfl
      cases length
    have shownYear : year.EndsShown := fun c last =>
      not_isBlank_of_isDecimal (decimals c (List.mem_of_getLast? last))
    exact shownYear.append_of_ne_nil occupied before

/-- Whether ranges are closed depends on how a last text opens. -/
theorem closesRanges_concat
    {init : List Segment} {first second : Text}
    (alike : first.opensPlainly = second.opensPlainly)
    (closes : closesRanges (init ++ [.text first]) = true) :
    closesRanges (init ++ [.text second]) = true := by
  induction init with
  | nil => rfl
  | cons segment init ih =>
    have others := ih (closesRanges_of_cons closes)
    cases segment with
    | text literal => exact others
    | year => exact others
    | name placeholder => exact others
    | yearRange =>
      cases init with
      | nil =>
        rw [List.cons_append, List.nil_append, closesRanges, Bool.and_eq_true, alike] at closes
        rw [List.cons_append, List.nil_append, closesRanges, closes.1]
        rfl
      | cons next init =>
        cases next with
        | text literal =>
          rw [List.cons_append, List.cons_append, closesRanges, Bool.and_eq_true] at closes
          rw [List.cons_append, List.cons_append, closesRanges, closes.1]
          exact others
        | year => cases closes
        | yearRange => cases closes
        | name placeholder => cases closes

/-- The tokens of a literal are those of what it shows and a line break for each line feed below. -/
theorem ofLiteral_append_breaks
    {shown blanks : Text}
    (endsShown : shown.EndsShown)
    (within : blanks.Within isBlank)
    (plain : '\r' ∉ blanks)
    (ends : ∀ c, blanks.getLast? = some c → c = '\n') :
    Token.ofLiteral (shown ++ blanks) =
      Token.ofLiteral shown ++ List.replicate (blanks.count '\n') .lineBreak :=
  ((Token.cutsInto_ofLiteral shown).append_of_within endsShown
    (Token.cutsInto_of_isBreaks (Text.isBreaks_of_within within plain ends)) within).ofLiteral_eq

theorem unnamed_concat
    {init : List Segment} {literal shown : Text}
    (alternating : alternates (init ++ [.text literal]) = true)
    (placeholder : Placeholder) :
    .name placeholder ∉ init ++ [.text shown] := by
  have unnamed := unnamed_of_alternates alternating placeholder
  simpa using unnamed

variable {init : List Segment} {literal above front back : Text}

/-- Two readings of one text show the same before what follows the last literal. -/
theorem append_inj_of_spellsAll
    {shown u v r s : Text}
    (alternating : alternates (init ++ [.text literal]) = true)
    (closes : closesRanges (init ++ [.text shown]) = true)
    (endsShown : shown.EndsShown)
    (first : SpellsAll (init ++ [.text shown]) u)
    (second : SpellsAll (init ++ [.text shown]) v)
    (same : u ++ r = v ++ s) :
    u = v ∧ r = s := by
  have alike := trimLeft_eq_of_spellsAll (unnamed_concat alternating) closes first second
    (congrArg Text.trimLeft same)
  exact (endsShown_of_spellsAll alternating endsShown first).append_inj_of_trimLeft_eq
    (endsShown_of_spellsAll alternating endsShown second) alike same

/-- A part of the spelling with carriage returns that spells the literal goes as far as what the
literal shows, and what follows there spells the line breaks below. -/
theorem exists_below_of_spellsAll
    {shown blanks : Text}
    (alternating : alternates (init ++ [.text (shown ++ blanks)]) = true)
    (closes : closesRanges (init ++ [.text (shown ++ blanks)]) = true)
    (plain : '\r' ∉ shown ++ blanks)
    (endsShown : shown.EndsShown)
    (within : blanks.Within isBlank)
    (endsBlanks : ∀ c, blanks.getLast? = some c → c = '\n')
    (singles : SpellsAll (init.map single) above)
    (place : (shown ++ blanks).withReturns = front ++ back)
    (spelled : SpellsAll (init ++ [.text (shown ++ blanks)]) (above ++ front)) :
    ∃ lower, front = shown.withReturns ++ lower ∧ blanks.withReturns = lower ++ back ∧
      Token.SpellsAll (List.replicate (blanks.count '\n') .lineBreak) lower := by
  simp only [List.mem_append, not_or] at plain
  have singlesToo : SpellsAll (List.map single (init ++ [.text shown]))
      (above ++ shown.withReturns) := by
    rw [List.map_append, spellsAll_append_iff]
    exact ⟨above, _, rfl, singles, spellsAll_singleton_iff.2 (Token.spellsAll_withReturns plain.1)⟩
  -- The reading of the shorter text is cut where the literal shows something for the last time.
  rcases spellsAll_append_iff.1 spelled with ⟨before, text, together, spelledBefore, spelledText⟩
  rw [spellsAll_singleton_iff, Spells,
    ofLiteral_append_breaks endsShown within plain.2 endsBlanks,
    Token.spellsAll_append_iff] at spelledText
  rcases spelledText with ⟨upper, lower, rfl, spelledUpper, spelledLower⟩
  have reading : SpellsAll (init ++ [.text shown]) (before ++ upper) :=
    spellsAll_append_iff.2
      ⟨before, upper, rfl, spelledBefore, spellsAll_singleton_iff.2 spelledUpper⟩
  have same : (before ++ upper) ++ (lower ++ back) =
      (above ++ shown.withReturns) ++ blanks.withReturns := by
    rw [List.append_assoc above, ← Text.withReturns_append, place, ← List.append_assoc above,
      together]
    simp
  rcases append_inj_of_spellsAll alternating
    (closesRanges_concat (Text.opensPlainly_append_of_within within shown) closes) endsShown reading
    (spellsAll_of_single singlesToo) same with ⟨sameShown, sameBlanks⟩
  rw [← List.append_assoc, sameShown, List.append_assoc] at together
  exact ⟨lower, List.append_cancel_left together, sameBlanks.symm, spelledLower⟩

/-- If the breaks with carriage returns spell as many line breaks as there are line feeds, also in
what is cut off, the literal recounts: each of the line breaks takes one of the line ends, of which
each line feed has two. -/
theorem recounts_of_spellsAll_breaks
    {shown breaks cut : Text}
    (endsShown : shown.EndsShown)
    (within : (breaks ++ cut).Within isBlank)
    (plain : '\r' ∉ breaks)
    (ends : (shown ++ (breaks ++ cut)).getLast? = some '\n')
    (length : (shown.withReturns ++ breaks.withReturns).length =
      (shown ++ (breaks ++ cut)).length)
    (spelled : Token.SpellsAll (List.replicate ((breaks ++ cut).count '\n') .lineBreak)
      breaks.withReturns) :
    Text.Recounts (shown ++ (breaks ++ cut)) := by
  have enough := Token.le_countP_of_spellsAll spelled
  rw [Text.countP_isLineEnd_withReturns plain, List.count_append] at enough
  rw [List.length_append, List.length_append, List.length_append, Text.length_withReturns,
    Text.length_withReturns] at length
  have feed : 0 < (breaks ++ cut).count '\n' := by
    rw [List.getLast?_append] at ends
    rw [List.count_pos_iff]
    cases last : (breaks ++ cut).getLast? with
    | none =>
      rw [last] at ends
      exact absurd (endsShown '\n' ends) (by decide)
    | some c =>
      rw [last] at ends
      cases ends
      exact List.mem_of_getLast? last
  have final : breaks.getLast? = some '\n' := by
    rcases Token.exists_getLast?_of_spellsAll feed spelled with ⟨c, last, isEnd⟩
    rw [Text.getLast?_withReturns] at last
    simp only [isLineEnd, Bool.or_eq_true, beq_iff_eq] at isEnd
    rcases isEnd with rfl | rfl
    · exact absurd (List.mem_of_getLast? last) plain
    · exact last
  refine ⟨shown, breaks, cut, rfl, within.of_append.1, within.of_append.2, final, ?_, by omega⟩
  rw [List.count_append]
  omega

/-- If a part of the spelling with carriage returns that is as long as the literal spells it, it
does so by counting breaks twice. -/
theorem recounts_of_spellsAll
    (alternating : alternates (init ++ [.text literal]) = true)
    (closes : closesRanges (init ++ [.text literal]) = true)
    (plain : '\r' ∉ literal)
    (ends : literal.getLast? = some '\n')
    (singles : SpellsAll (init.map single) above)
    (place : literal.withReturns = front ++ back)
    (length : front.length = literal.length)
    (untorn : ¬ (front.getLast? = some '\r' ∧ back.head? = some '\n'))
    (spelled : SpellsAll (init ++ [.text literal]) (above ++ front)) :
    literal.Recounts := by
  rcases literal.exists_endsShown_append with ⟨shown, blanks, rfl, endsShown, within⟩
  have endsBlanks : ∀ c, blanks.getLast? = some c → c = '\n' := by
    intro c last
    rw [List.getLast?_append, last] at ends
    exact Option.some.inj ends
  rcases exists_below_of_spellsAll alternating closes plain endsShown within endsBlanks singles
    place spelled with ⟨lower, rfl, below, spelledLower⟩
  have untornLower : ¬ (lower.getLast? = some '\r' ∧ back.head? = some '\n') := by
    rintro ⟨last, next⟩
    rw [List.getLast?_append, last] at untorn
    exact untorn ⟨rfl, next⟩
  rcases Text.exists_append_of_withReturns below untornLower with ⟨breaks, cut, rfl, rfl, rfl⟩
  simp only [List.mem_append, not_or] at plain
  exact recounts_of_spellsAll_breaks endsShown within plain.2.1 ends length spelledLower

/-- Counting breaks twice, a part of the spelling with carriage returns that is as long as the
literal spells it. -/
theorem spellsAll_of_recounts
    (plain : '\r' ∉ literal)
    (ends : literal.getLast? = some '\n')
    (singles : SpellsAll (init.map single) above)
    (place : literal.withReturns = front ++ back)
    (length : front.length = literal.length)
    (recounts : literal.Recounts) :
    ¬ (front.getLast? = some '\r' ∧ back.head? = some '\n') ∧
      SpellsAll (init ++ [.text literal]) (above ++ front) := by
  rcases recounts with ⟨visible, breaks, cut, rfl, within, withinCut, final, sameLength, fewer⟩
  have frontPlace : front = (visible ++ breaks).withReturns := by
    rw [← List.append_assoc, Text.withReturns_append] at place
    apply (List.append_inj_left place _).symm
    rw [length, Text.length_withReturns, ← sameLength]
    simp [Nat.add_assoc]
  constructor
  · rintro ⟨last, -⟩
    rw [frontPlace, Text.getLast?_withReturns, List.getLast?_append, final] at last
    cases last
  · rcases visible.exists_endsShown_append with ⟨shown, blanks, rfl, endsShown, withinBlanks⟩
    have shape : shown ++ blanks ++ (breaks ++ cut) = shown ++ (blanks ++ breaks ++ cut) := by
      simp
    rw [shape] at plain ends ⊢
    simp only [List.mem_append, not_or] at plain
    have withinBreaks : (blanks ++ breaks).Within isBlank := withinBlanks.append within
    have kept : (blanks ++ breaks).IsBreaks ((blanks ++ breaks).count '\n') := by
      apply Text.isBreaks_of_within withinBreaks
      · simpa using plain.2.1
      · intro c last
        rw [List.getLast?_append, final] at last
        exact (Option.some.inj last).symm
    have tokens := ofLiteral_append_breaks endsShown (withinBreaks.append withinCut)
      (by simpa [and_assoc] using plain.2) (fun c last => by
        rw [List.getLast?_append, last] at ends
        exact Option.some.inj ends)
    rw [spellsAll_append_iff]
    refine ⟨above, front, rfl, spellsAll_of_single singles, spellsAll_singleton_iff.2 ?_⟩
    rw [Spells, tokens, Token.spellsAll_append_iff, frontPlace, List.append_assoc,
      Text.withReturns_append]
    refine ⟨_, _, rfl, Token.spellsAll_withReturns plain.1, Token.spellsAll_of_isBreaks kept ?_ ?_⟩
    · simp only [List.count_append]
      omega
    · simp only [List.count_append]
      omega

end Segment

end Masthead
