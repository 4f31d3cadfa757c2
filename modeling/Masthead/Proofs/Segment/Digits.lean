import Masthead.Proofs.Segment.Breaks
import Masthead.Proofs.Text.Decimal

/-!
# The digits of a header

However leniently a literal is spelled, it keeps the digits that it has: blanks and copyright signs
have none, and a digit matches itself alone.  A year has four digits and a range four or eight.  So
among all texts that segments may stand for, those in which every range is a single year have the
fewest digits, and a text with no more digits cannot be read with the second half of a range in it.
-/

namespace Masthead

namespace Text

theorem countP_isDecimal_of_within_isBlank {text : Text} (blank : text.Within isBlank) :
    text.countP isDecimal = 0 := by
  rw [List.countP_eq_zero]
  intro c member decimal
  have shown := not_isBlank_of_isDecimal decimal
  rw [blank c member] at shown
  cases shown

theorem countP_isDecimal_of_isYear {text : Text} (isYear : text.IsYear) :
    text.countP isDecimal = 4 := by
  rw [List.countP_eq_length.2 isYear.2, isYear.1]

theorem countP_isDecimal_of_within_isDash {text : Text} (dashes : text.Within CharSet.isDash) :
    text.countP isDecimal = 0 := by
  rw [List.countP_eq_zero]
  intro c member decimal
  have noDash := not_isDash_of_isDecimal decimal
  rw [dashes c member] at noDash
  cases noDash

/-- The second half of a range has the digits of a year. -/
theorem countP_isDecimal_of_isRangeTail {tail : Text} (isTail : tail.IsRangeTail) :
    tail.countP isDecimal = 4 := by
  rcases isTail with ⟨before, dashes, after, year, rfl, blankBefore, ⟨-, areDashes⟩, blankAfter,
    isYear⟩
  simp only [List.countP_append, countP_isDecimal_of_within_isBlank blankBefore,
    countP_isDecimal_of_within_isDash areDashes, countP_isDecimal_of_within_isBlank blankAfter,
    countP_isDecimal_of_isYear isYear]

theorem not_isDecimal_of_sameLetter
    {expected c : Char}
    (plain : isDecimal expected = false)
    (same : sameLetter expected c = true) :
    ¬ isDecimal c = true := by
  rw [← isDecimal_eq_of_sameLetter same, plain]
  exact Bool.false_ne_true

theorem countP_isDecimal_of_isBracketedC {text : Text} (bracketed : text.IsBracketedC) :
    text.countP isDecimal = 0 := by
  rcases bracketed with
    ⟨opening, before, letter, after, closing, rfl, opens, blankBefore, isLetter, blankAfter, closes⟩
  have noOpening := not_isDecimal_of_sameLetter (by decide) opens
  have noLetter := not_isDecimal_of_sameLetter (by decide) isLetter
  have noClosing := not_isDecimal_of_sameLetter (by decide) closes
  simp only [List.countP_cons_of_neg noOpening, List.countP_append,
    List.countP_cons_of_neg noLetter, List.countP_cons_of_neg noClosing,
    countP_isDecimal_of_within_isBlank blankBefore,
    countP_isDecimal_of_within_isBlank blankAfter, List.countP_nil, Nat.add_zero]

end Text

namespace Token

variable {u v : Text}

theorem countP_isDecimal_of_spells_copyright (spelled : copyright.Spells u) :
    u.countP isDecimal = 0 := by
  rcases spelled with bracketed | ⟨c, rfl, isSign⟩
  · exact Text.countP_isDecimal_of_isBracketedC bracketed
  · rw [List.countP_cons_of_neg (Text.not_isDecimal_of_sameLetter (by decide) isSign),
      List.countP_nil]

/-- Two spellings of a token have as many digits. -/
theorem countP_isDecimal_eq_of_spells
    {token : Token}
    (first : token.Spells u)
    (second : token.Spells v) :
    u.countP isDecimal = v.countP isDecimal := by
  cases token with
  | lineBreak =>
    rw [Text.countP_isDecimal_of_within_isBlank (within_isBlank_of_spells_lineBreak first),
      Text.countP_isDecimal_of_within_isBlank (within_isBlank_of_spells_lineBreak second)]
  | blanks =>
    rw [Text.countP_isDecimal_of_within_isBlank first.2,
      Text.countP_isDecimal_of_within_isBlank second.2]
  | copyright =>
    rw [countP_isDecimal_of_spells_copyright first, countP_isDecimal_of_spells_copyright second]
  | letter expected =>
    rcases first with ⟨c, rfl, isLetter⟩
    rcases second with ⟨d, rfl, isLetterToo⟩
    rw [List.countP_singleton, List.countP_singleton, ← isDecimal_eq_of_sameLetter isLetter,
      ← isDecimal_eq_of_sameLetter isLetterToo]

theorem countP_isDecimal_eq_of_spellsAll
    {tokens : List Token}
    (first : SpellsAll tokens u)
    (second : SpellsAll tokens v) :
    u.countP isDecimal = v.countP isDecimal := by
  induction tokens generalizing u v with
  | nil =>
    cases first
    cases second
    rfl
  | cons token tokens ih =>
    rcases first with ⟨front, back, rfl, spelled, others⟩
    rcases second with ⟨front', back', rfl, spelledToo, othersToo⟩
    rw [List.countP_append, List.countP_append, countP_isDecimal_eq_of_spells spelled spelledToo,
      ih others othersToo]

end Token

namespace Segment

/-- Single years have the fewest digits. -/
theorem countP_isDecimal_le_of_spellsAll
    {segments : List Segment} {u v : Text}
    (unnamed : ∀ placeholder, .name placeholder ∉ segments)
    (first : SpellsAll (segments.map single) u)
    (second : SpellsAll segments v) :
    u.countP isDecimal ≤ v.countP isDecimal := by
  induction segments generalizing u v with
  | nil =>
    cases first
    cases second
    exact Nat.le_refl _
  | cons segment segments ih =>
    have unnamedRest := unnamed_of_cons unnamed
    rcases first with ⟨front, back, rfl, spelled, others⟩
    rcases second with ⟨front', back', rfl, spelledToo, othersToo⟩
    rw [List.countP_append, List.countP_append]
    apply Nat.add_le_add _ (ih unnamedRest others othersToo)
    cases segment with
    | text literal => exact (Token.countP_isDecimal_eq_of_spellsAll spelled spelledToo).le
    | year =>
      rw [Text.countP_isDecimal_of_isYear spelled, Text.countP_isDecimal_of_isYear spelledToo]
    | yearRange =>
      rcases spelledToo with ⟨start, tail, rfl, isStart, -⟩
      rw [Text.countP_isDecimal_of_isYear spelled, List.countP_append,
        Text.countP_isDecimal_of_isYear isStart]
      exact Nat.le_add_right 4 _
    | name placeholder => exact absurd List.mem_cons_self (unnamed placeholder)

/-- Two readings differ by the digits of whole years: those of the second halves of ranges. -/
theorem countP_isDecimal_mod_of_spellsAll
    {segments : List Segment} {u v : Text}
    (unnamed : ∀ placeholder, .name placeholder ∉ segments)
    (first : SpellsAll segments u)
    (second : SpellsAll segments v) :
    u.countP isDecimal % 4 = v.countP isDecimal % 4 := by
  have range : ∀ {text : Text}, Spells .yearRange text → text.countP isDecimal % 4 = 0 := by
    rintro _ ⟨start, tail, rfl, isStart, isTail | rfl⟩
    · rw [List.countP_append, Text.countP_isDecimal_of_isYear isStart,
        Text.countP_isDecimal_of_isRangeTail isTail]
    · rw [List.append_nil, Text.countP_isDecimal_of_isYear isStart]
  induction segments generalizing u v with
  | nil =>
    cases first
    cases second
    rfl
  | cons segment segments ih =>
    rcases first with ⟨front, back, rfl, spelled, others⟩
    rcases second with ⟨front', back', rfl, spelledToo, othersToo⟩
    have alike : front.countP isDecimal % 4 = front'.countP isDecimal % 4 := by
      cases segment with
      | text literal => rw [Token.countP_isDecimal_eq_of_spellsAll spelled spelledToo]
      | year =>
        rw [Text.countP_isDecimal_of_isYear spelled, Text.countP_isDecimal_of_isYear spelledToo]
      | yearRange => rw [range spelled, range spelledToo]
      | name placeholder => exact absurd List.mem_cons_self (unnamed placeholder)
    have alikeRest := ih (unnamed_of_cons unnamed) others othersToo
    rw [List.countP_append, List.countP_append]
    omega

/-- If the second half of a range is taken from the front of single years, too few digits are left
for them. -/
theorem not_spellsAll_of_isRangeTail
    {segments : List Segment} {whole tail front after : Text}
    (unnamed : ∀ placeholder, .name placeholder ∉ segments)
    (singles : SpellsAll (segments.map single) whole)
    (place : whole = tail ++ (front ++ after))
    (isTail : tail.IsRangeTail) :
    ¬ SpellsAll segments front := by
  intro spelled
  have fewest := countP_isDecimal_le_of_spellsAll unnamed singles spelled
  have taken := Text.countP_isDecimal_of_isRangeTail isTail
  rw [place, List.countP_append, List.countP_append] at fewest
  omega

end Segment

end Masthead
