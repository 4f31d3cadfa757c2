import Masthead.Proofs.Template.Rereading

/-!
# Two readings of one text agree

A literal may be spelled in many ways, but what its tokens read from one text is determined up to
blanks: if they spell the fronts of two texts that show the same, they leave rests that show the
same.  Segments agree in this way too, and keep the same start years, provided that each range is
closed by a text that opens plainly.
-/

namespace Masthead

namespace Token

variable {u v r s : Text}

theorem trimLeft_eq_of_letter
    {expected c d : Char}
    (first : sameLetter expected c = true)
    (second : sameLetter expected d = true)
    (same : Text.trimLeft (c :: r) = Text.trimLeft (d :: s)) :
    r.trimLeft = s.trimLeft := by
  have alike : isBlank c = isBlank d :=
    isBlank_eq_of_sameLetter (sameLetter_trans (sameLetter_symm first) second)
  cases shown : isBlank c with
  | false =>
    rw [Text.trimLeft_of_shown shown, Text.trimLeft_of_shown (alike ▸ shown),
      List.cons.injEq] at same
    rw [same.2]
  | true =>
    have dropped : ∀ {e : Char} (rest : Text), isBlank e = true →
        Text.trimLeft (e :: rest) = rest.trimLeft :=
      fun rest blank => List.dropWhile_cons_of_pos blank
    rwa [dropped r shown, dropped s (alike ▸ shown)] at same

theorem trimLeft_eq_of_bracketedC
    (first : u.IsBracketedC)
    (second : v.IsBracketedC)
    (same : (u ++ r).trimLeft = (v ++ s).trimLeft) :
    r.trimLeft = s.trimLeft := by
  rcases first with ⟨opening, before, letter, after, closing, rfl, opens, blankBefore, isLetter,
    blankAfter, closes⟩
  rcases second with ⟨opening', before', letter', after', closing', rfl, opens', blankBefore',
    isLetter', blankAfter', closes'⟩
  simp only [List.cons_append, List.append_assoc, List.nil_append] at same
  have inside := trimLeft_eq_of_letter opens opens' same
  rw [Text.trimLeft_append_of_within blankBefore, Text.trimLeft_append_of_within blankBefore']
    at inside
  have between := trimLeft_eq_of_letter isLetter isLetter' inside
  rw [Text.trimLeft_append_of_within blankAfter, Text.trimLeft_append_of_within blankAfter']
    at between
  exact trimLeft_eq_of_letter closes closes' between

theorem not_bracketedC_of_sign
    {c : Char}
    (sign : sameLetter '©' c = true)
    (bracketed : v.IsBracketedC) :
    Text.trimLeft (c :: r) ≠ (v ++ s).trimLeft := by
  rcases bracketed with ⟨opening, before, letter, after, closing, rfl, opens, -⟩
  intro same
  have shown : isBlank c = false := isBlank_eq_of_sameLetter (sameLetter_symm sign)
  have shownToo : isBlank opening = false := isBlank_eq_of_sameLetter (sameLetter_symm opens)
  rw [List.cons_append, Text.trimLeft_of_shown shown, Text.trimLeft_of_shown shownToo,
    List.cons.injEq] at same
  rw [same.1] at sign
  exact absurd (sameLetter_trans sign (sameLetter_symm opens)) (by decide)

theorem within_isBlank_of_spells_lineBreak
    (spelled : lineBreak.Spells u) :
    u.Within isBlank := by
  rcases spelled with ⟨blanks, ending, rfl, horizontal, isBreak⟩
  apply Text.Within.append
  · exact fun c member => isBlank_of_isHorizontalBlank (horizontal c member)
  · exact fun c member => isBlank_of_isLineEnd (Text.within_isLineEnd_of_isBreak isBreak c member)

/-- Two spellings of a token at the fronts of texts that show the same leave rests that do. -/
theorem trimLeft_eq_of_spells
    {token : Token}
    (first : token.Spells u)
    (second : token.Spells v)
    (same : (u ++ r).trimLeft = (v ++ s).trimLeft) :
    r.trimLeft = s.trimLeft := by
  cases token with
  | lineBreak =>
    rwa [Text.trimLeft_append_of_within (within_isBlank_of_spells_lineBreak first),
      Text.trimLeft_append_of_within (within_isBlank_of_spells_lineBreak second)] at same
  | blanks =>
    rwa [Text.trimLeft_append_of_within first.2, Text.trimLeft_append_of_within second.2] at same
  | copyright =>
    rcases first with bracketed | ⟨c, rfl, sign⟩
    · rcases second with bracketedToo | ⟨d, rfl, signToo⟩
      · exact trimLeft_eq_of_bracketedC bracketed bracketedToo same
      · exact absurd same.symm (not_bracketedC_of_sign signToo bracketed)
    · rcases second with bracketedToo | ⟨d, rfl, signToo⟩
      · exact absurd same (not_bracketedC_of_sign sign bracketedToo)
      · exact trimLeft_eq_of_letter sign signToo same
  | letter expected =>
    rcases first with ⟨c, rfl, isLetter⟩
    rcases second with ⟨d, rfl, isLetterToo⟩
    exact trimLeft_eq_of_letter isLetter isLetterToo same

theorem trimLeft_eq_of_spellsAll
    {tokens : List Token}
    (first : SpellsAll tokens u)
    (second : SpellsAll tokens v)
    (same : (u ++ r).trimLeft = (v ++ s).trimLeft) :
    r.trimLeft = s.trimLeft := by
  induction tokens generalizing u v with
  | nil =>
    cases first
    cases second
    exact same
  | cons token tokens ih =>
    rcases first with ⟨front, back, rfl, spelled, others⟩
    rcases second with ⟨front', back', rfl, spelledToo, othersToo⟩
    rw [List.append_assoc, List.append_assoc] at same
    exact ih others othersToo (trimLeft_eq_of_spells spelled spelledToo same)

/-- A spelling of a literal that opens plainly opens plainly too. -/
theorem opensPlainly_of_spellsAll
    {literal : Text} {tokens : List Token}
    (cut : CutsInto literal tokens)
    (plain : literal.opensPlainly = true)
    (spelled : SpellsAll tokens v) :
    v.opensPlainly = true := by
  have skip : ∀ {blanks rest : Text}, blanks.Within isBlank →
      (blanks ++ rest).opensPlainly = rest.opensPlainly := by
    intro blanks rest blank
    rw [Text.opensPlainly, Text.opensPlainly, Text.trimLeft_append_of_within blank]
  have opens : ∀ {c : Char} {rest : Text}, isBlank c = false →
      Text.opensPlainly (c :: rest) = !CharSet.isDash c := by
    intro c rest shown
    rw [Text.opensPlainly, Text.trimLeft_of_shown shown]
  induction cut generalizing v with
  | nothing => cases plain
  | @lineBreak blanks ending after tokens horizontal isBreak whole _ ih =>
    rcases spelled with ⟨front, back, rfl, spelledFront, others⟩
    have blank := within_isBlank_of_spells_lineBreak
      (u := blanks ++ ending) ⟨blanks, ending, rfl, horizontal, isBreak⟩
    rw [← List.append_assoc, skip blank] at plain
    rw [skip (within_isBlank_of_spells_lineBreak spelledFront)]
    exact ih plain others
  | @blanks run after tokens occupied horizontal boundary _ ih =>
    rcases spelled with ⟨front, back, rfl, spelledFront, others⟩
    rw [skip fun c member => isBlank_of_isHorizontalBlank (horizontal c member)] at plain
    rw [skip spelledFront.2]
    exact ih plain others
  | @copyright sign after tokens _ signed _ ih =>
    rcases spelled with ⟨front, back, rfl, ⟨opening, before, letter, after, closing, rfl, same, -⟩ |
      ⟨c, rfl, same⟩, others⟩
    · rw [List.cons_append, opens (isBlank_eq_of_sameLetter (sameLetter_symm same))]
      rw [isDash_eq_of_sameLetter (sameLetter_symm same)]
      rfl
    · rw [List.cons_append, opens (isBlank_eq_of_sameLetter (sameLetter_symm same))]
      rw [isDash_eq_of_sameLetter (sameLetter_symm same)]
      rfl
  | @letter c after tokens shown unsigned _ ih =>
    rcases spelled with ⟨_, back, rfl, ⟨d, rfl, same⟩, others⟩
    rw [opens shown] at plain
    rw [List.cons_append, opens (isBlank_eq_of_sameLetter (sameLetter_symm same) ▸ shown)]
    rw [isDash_eq_of_sameLetter (sameLetter_symm same)]
    exact plain

end Token

namespace Segment

/-- A segment that stands for single years only. -/
def single : Segment → Segment
  | .yearRange => .year
  | other => other

theorem trimLeft_of_isYear
    {year : Text}
    (isYear : year.IsYear)
    (rest : Text) :
    (year ++ rest).trimLeft = year ++ rest := by
  rcases exists_cons_of_isYear isYear with ⟨c, digits, rfl, decimal⟩
  exact Text.trimLeft_of_shown (not_isBlank_of_isDecimal decimal) _

/-- Two years at the fronts of texts that show the same are the same. -/
theorem append_inj_of_isYear
    {first second r s : Text}
    (isFirst : first.IsYear)
    (isSecond : second.IsYear)
    (same : (first ++ r).trimLeft = (second ++ s).trimLeft) :
    first = second ∧ r = s := by
  rw [trimLeft_of_isYear isFirst, trimLeft_of_isYear isSecond] at same
  exact List.append_inj same (isFirst.1.trans isSecond.1.symm)

/-- Two second halves of ranges at the front of one text are the same: neither the blanks in them
nor the dashes could be more or fewer. -/
theorem eq_of_isRangeTail
    {first second r s : Text}
    (isTail : first.IsRangeTail)
    (isTailToo : second.IsRangeTail)
    (same : first ++ r = second ++ s) :
    r = s := by
  have dashNext : ∀ {dashes rest : Text}, dashes ≠ [] → dashes.Within CharSet.isDash →
      ∀ c, (dashes ++ rest).head? = some c → isBlank c = false :=
    fun occupied areDashes _ first => not_isBlank_of_isDash (areDashes.of_head? occupied first)
  have yearNext : ∀ {year rest : Text}, year.IsYear →
      ∀ c, (year ++ rest).head? = some c → isDecimal c = true := by
    intro year rest isYear c first
    rcases exists_cons_of_isYear isYear with ⟨d, digits, rfl, -⟩
    exact isYear.2.of_head? (List.cons_ne_nil d digits) first
  have blankNext : ∀ {after year rest : Text}, after.Within isBlank → year.IsYear →
      ∀ c, (after ++ (year ++ rest)).head? = some c → CharSet.isDash c = false := by
    intro after year rest blank isYear c first
    cases after with
    | nil => exact not_isDash_of_isDecimal (yearNext isYear c first)
    | cons d after =>
      by_contra dash
      have shown := not_isBlank_of_isDash (Bool.not_eq_false _ ▸ dash)
      rw [blank.of_head? (List.cons_ne_nil d after) first] at shown
      cases shown
  rcases isTail with ⟨before, dashes, after, stop, rfl, blankBefore, ⟨occupied, areDashes⟩,
    blankAfter, isStop⟩
  rcases isTailToo with ⟨before', dashes', after', stop', rfl, blankBefore',
    ⟨occupied', areDashes'⟩, blankAfter', isStop'⟩
  simp only [List.append_assoc] at same
  have fromDashes := (blankBefore.append_inj blankBefore' (dashNext occupied areDashes)
    (dashNext occupied' areDashes') same).2
  have fromAfter := (areDashes.append_inj areDashes' (blankNext blankAfter isStop)
    (blankNext blankAfter' isStop') fromDashes).2
  have fromStop := (blankAfter.append_inj blankAfter'
    (fun c first => not_isBlank_of_isDecimal (yearNext isStop c first))
    (fun c first => not_isBlank_of_isDecimal (yearNext isStop' c first)) fromAfter).2
  exact (append_inj_of_isYear isStop isStop' (congrArg Text.trimLeft fromStop)).2

/-- Where a range is closed, its second half is there in both of two readings or in neither. -/
theorem eq_of_closed
    {first second r s : Text}
    (ending : first.IsRangeTail ∨ first = [])
    (endingToo : second.IsRangeTail ∨ second = [])
    (plain : r.opensPlainly = true)
    (plainToo : s.opensPlainly = true)
    (same : first ++ r = second ++ s) :
    r = s := by
  rcases ending with isTail | rfl
  · rcases endingToo with isTailToo | rfl
    · exact eq_of_isRangeTail isTail isTailToo same
    · rw [List.nil_append] at same
      rw [← same] at plainToo
      exact absurd isTail (Text.not_isRangeTail_of_opensPlainly plainToo)
  · rcases endingToo with isTailToo | rfl
    · rw [List.nil_append] at same
      rw [same] at plain
      exact absurd isTailToo (Text.not_isRangeTail_of_opensPlainly plain)
    · exact same

theorem opensPlainly_of_spellsAll
    {literal v : Text} {others : List Segment}
    (plain : literal.opensPlainly = true)
    (spelled : SpellsAll (.text literal :: others) v) :
    v.opensPlainly = true := by
  rcases spelled with ⟨front, back, rfl, spelledFront, -⟩
  have plainFront := Token.opensPlainly_of_spellsAll (Token.cutsInto_ofLiteral literal) plain
    spelledFront
  exact Text.opensPlainly_append plainFront back

variable {segments : List Segment} {u v r s : Text}

/-- Two readings of texts that show the same keep the same and leave rests that show the same, if
each range is closed. -/
theorem eq_and_trimLeft_eq_of_driftAllTo
    {kept keptToo : List Kept}
    (unnamed : ∀ placeholder, .name placeholder ∉ segments)
    (closes : closesRanges segments = true)
    (first : DriftAllTo segments kept u)
    (second : DriftAllTo segments keptToo v)
    (same : (u ++ r).trimLeft = (v ++ s).trimLeft) :
    kept = keptToo ∧ r.trimLeft = s.trimLeft := by
  induction segments generalizing u v kept keptToo with
  | nil =>
    rcases driftAllTo_nil_iff.1 first with ⟨rfl, rfl⟩
    rcases driftAllTo_nil_iff.1 second with ⟨rfl, rfl⟩
    exact ⟨rfl, same⟩
  | cons segment segments ih =>
    rcases driftAllTo_cons_iff.1 first with ⟨one, kept, front, back, rfl, rfl, drifts, rest⟩
    rcases driftAllTo_cons_iff.1 second with ⟨two, keptToo, front', back', rfl, rfl, driftsToo,
      restToo⟩
    rw [List.append_assoc, List.append_assoc] at same
    have agree : one = two ∧ (back ++ r).trimLeft = (back' ++ s).trimLeft := by
      cases segment with
      | text literal =>
        refine ⟨drifts.2.trans driftsToo.2.symm, ?_⟩
        exact Token.trimLeft_eq_of_spellsAll drifts.spells driftsToo.spells same
      | year =>
        refine ⟨drifts.2.trans driftsToo.2.symm, ?_⟩
        rw [(append_inj_of_isYear drifts.1 driftsToo.1 same).2]
      | yearRange =>
        rcases drifts with ⟨start, tail, rfl, isStart, ending, rfl⟩
        rcases driftsToo with ⟨start', tail', rfl, isStart', ending', rfl⟩
        rw [List.append_assoc, List.append_assoc] at same
        rcases append_inj_of_isYear isStart isStart' same with ⟨rfl, follows⟩
        -- The texts that close the range begin where its second half would, if there is one.
        rcases exists_text_of_closesRanges closes with ⟨literal, others, rfl, plain⟩
        have plainBack := opensPlainly_of_spellsAll plain rest.spellsAll
        have plainBackToo := opensPlainly_of_spellsAll plain restToo.spellsAll
        rw [eq_of_closed ending ending' (Text.opensPlainly_append plainBack r)
          (Text.opensPlainly_append plainBackToo s) follows]
        exact ⟨rfl, rfl⟩
      | name placeholder => exact absurd List.mem_cons_self (unnamed placeholder)
    rcases ih (unnamed_of_cons unnamed) (closesRanges_of_cons closes) rest restToo agree.2 with
      ⟨rfl, left⟩
    exact ⟨by rw [agree.1], left⟩

theorem trimLeft_eq_of_spellsAll
    (unnamed : ∀ placeholder, .name placeholder ∉ segments)
    (closes : closesRanges segments = true)
    (first : SpellsAll segments u)
    (second : SpellsAll segments v)
    (same : (u ++ r).trimLeft = (v ++ s).trimLeft) :
    r.trimLeft = s.trimLeft := by
  rcases exists_driftAllTo_iff.2 first with ⟨kept, drifts⟩
  rcases exists_driftAllTo_iff.2 second with ⟨keptToo, driftsToo⟩
  exact (eq_and_trimLeft_eq_of_driftAllTo unnamed closes drifts driftsToo same).2

end Segment

end Masthead
