import Masthead.Pattern.Language
import Masthead.Segment.Pattern

/-!
# The language of a segment

The texts that a segment may stand for, said without patterns: a year is any four digits, a range
is one or two years with dashes between them, a name is anything on one line, and a literal is any
lenient spelling of its tokens.  The main statement is that a segment's pattern accepts exactly
these texts.
-/

namespace Masthead

/-- Every character of a text passes a test. -/
def Text.Within (test : Char → Bool) (text : Text) : Prop := ∀ c ∈ text, test c = true

instance (test : Char → Bool) (text : Text) : Decidable (text.Within test) :=
  List.decidableBAll (fun c => test c = true) text

/-- A text is a line break in one of its three spellings. -/
def Text.IsBreak (text : Text) : Prop := text = ['\r', '\n'] ∨ text = ['\r'] ∨ text = ['\n']

/-- A text is a year: four decimal digits. -/
def Text.IsYear (text : Text) : Prop := text.length = 4 ∧ text.Within isDecimal

instance (text : Text) : Decidable text.IsYear :=
  inferInstanceAs (Decidable (text.length = 4 ∧ text.Within isDecimal))

/-- A text is the second half of a year range: dashes among blanks, and a year. -/
def Text.IsRangeTail (text : Text) : Prop :=
  ∃ before dashes after year : Text, text = before ++ (dashes ++ (after ++ year)) ∧
    before.Within isBlank ∧ (dashes ≠ [] ∧ dashes.Within CharSet.isDash) ∧
      after.Within isBlank ∧ year.IsYear

/-- A text is a letter C between parentheses, with blanks around the letter. -/
def Text.IsBracketedC (text : Text) : Prop :=
  ∃ (opening : Char) (before : Text) (letter : Char) (after : Text) (closing : Char),
    text = opening :: (before ++ letter :: (after ++ [closing])) ∧
      sameLetter '(' opening = true ∧ before.Within isBlank ∧ sameLetter 'c' letter = true ∧
        after.Within isBlank ∧ sameLetter ')' closing = true

namespace Token

/-- The spellings of a token. -/
def Spells : Token → Text → Prop
  | lineBreak, text =>
      ∃ blanks ending : Text,
        text = blanks ++ ending ∧ blanks.Within isHorizontalBlank ∧ ending.IsBreak
  | blanks, text => text ≠ [] ∧ text.Within isBlank
  | copyright, text => text.IsBracketedC ∨ ∃ c, text = [c] ∧ sameLetter '©' c = true
  | letter expected, text => ∃ c, text = [c] ∧ sameLetter expected c = true

/-- The spellings of some tokens, one after the other. -/
def SpellsAll : List Token → Text → Prop
  | [], text => text = []
  | token :: rest, text =>
      ∃ front back, text = front ++ back ∧ token.Spells front ∧ SpellsAll rest back

theorem accepts_copyrightPattern_iff {text : Text} :
    copyrightPattern.Accepts text ↔ copyright.Spells text := by
  constructor
  · rintro (⟨_, _, rfl, ⟨opening, rfl, opens⟩, before, _, rfl, blankBefore, _, _, rfl,
      ⟨letter, rfl, isLetter⟩, after, _, rfl, blankAfter, closing, rfl, closes⟩ | sign)
    · exact Or.inl ⟨opening, before, letter, after, closing, rfl, opens, blankBefore, isLetter,
        blankAfter, closes⟩
    · exact Or.inr sign
  · rintro (⟨opening, before, letter, after, closing, rfl, opens, blankBefore, isLetter,
      blankAfter, closes⟩ | sign)
    · exact Or.inl ⟨[opening], _, rfl, ⟨opening, rfl, opens⟩, before, _, rfl, blankBefore,
        [letter], _, rfl, ⟨letter, rfl, isLetter⟩, after, _, rfl, blankAfter, closing, rfl,
        closes⟩
    · exact Or.inr sign

/-- The pattern of a token accepts exactly its spellings. -/
theorem accepts_pattern_iff {token : Token} {text : Text} :
    token.pattern.Accepts text ↔ token.Spells text := by
  cases token with
  | lineBreak => exact Iff.rfl
  | blanks => exact Iff.rfl
  | copyright => exact accepts_copyrightPattern_iff
  | letter c => exact Iff.rfl

theorem accepts_concat_iff {tokens : List Token} {text : Text} :
    (Pattern.concat (tokens.map pattern)).Accepts text ↔ SpellsAll tokens text := by
  induction tokens generalizing text with
  | nil => exact Iff.rfl
  | cons token rest ih =>
    constructor
    · rintro ⟨front, back, rfl, accepted, others⟩
      exact ⟨front, back, rfl, accepts_pattern_iff.1 accepted, ih.1 others⟩
    · rintro ⟨front, back, rfl, spelled, others⟩
      exact ⟨front, back, rfl, accepts_pattern_iff.2 spelled, ih.2 others⟩

end Token

namespace Segment

/-- The texts that a segment may stand for. -/
def Spells : Segment → Text → Prop
  | .text literal, found => Token.SpellsAll (Token.ofLiteral literal) found
  | year, found => found.IsYear
  | yearRange, found =>
      ∃ start tail : Text, found = start ++ tail ∧ start.IsYear ∧ (tail.IsRangeTail ∨ tail = [])
  | name _, found => found.Within (· != '\n')

/-- The texts that some segments may stand for, one after the other. -/
def SpellsAll : List Segment → Text → Prop
  | [], found => found = []
  | segment :: rest, found =>
      ∃ front back, found = front ++ back ∧ segment.Spells front ∧ SpellsAll rest back

theorem spellsAll_append_iff
    {first second : List Segment} {text : Text} :
    SpellsAll (first ++ second) text ↔
      ∃ front back, text = front ++ back ∧ SpellsAll first front ∧ SpellsAll second back := by
  induction first generalizing text with
  | nil =>
    constructor
    · intro spelled
      exact ⟨[], text, rfl, rfl, spelled⟩
    · rintro ⟨_, back, rfl, rfl, spelled⟩
      exact spelled
  | cons segment first ih =>
    constructor
    · rintro ⟨front, back, rfl, spelled, others⟩
      rcases ih.1 others with ⟨middle, rest, rfl, spelledMiddle, spelledRest⟩
      exact ⟨front ++ middle, rest, by simp, ⟨front, middle, rfl, spelled, spelledMiddle⟩,
        spelledRest⟩
    · rintro ⟨_, rest, rfl, ⟨front, middle, rfl, spelled, spelledMiddle⟩, spelledRest⟩
      exact ⟨front, middle ++ rest, by simp, spelled, ih.2 ⟨middle, rest, rfl, spelledMiddle,
        spelledRest⟩⟩

theorem spellsAll_singleton_iff
    {segment : Segment} {text : Text} :
    SpellsAll [segment] text ↔ segment.Spells text := by
  constructor
  · rintro ⟨front, _, rfl, spelled, rfl⟩
    rwa [List.append_nil]
  · intro spelled
    exact ⟨text, [], by simp, spelled, rfl⟩

/-- The pattern of the second half of a year range. -/
def rangeTailPattern : Pattern :=
  .sequence (.star .blank)
    (.sequence (.plus .dash) (.sequence (.star .blank) (.group yearPattern)))

theorem yearRangePattern_eq :
    yearRangePattern = .sequence (.group yearPattern) (.optional rangeTailPattern) := rfl

theorem accepts_rangeTailPattern_iff {tail : Text} :
    rangeTailPattern.Accepts tail ↔ tail.IsRangeTail := by
  constructor
  · rintro ⟨before, _, rfl, blankBefore, dashes, _, rfl, areDashes, after, stop, rfl, blankAfter,
      isStop⟩
    exact ⟨before, dashes, after, stop, rfl, blankBefore, areDashes, blankAfter, isStop⟩
  · rintro ⟨before, dashes, after, stop, rfl, blankBefore, areDashes, blankAfter, isStop⟩
    exact ⟨before, _, rfl, blankBefore, dashes, _, rfl, areDashes, after, stop, rfl, blankAfter,
      isStop⟩

theorem accepts_yearRangePattern_iff {found : Text} :
    yearRangePattern.Accepts found ↔ yearRange.Spells found := by
  constructor
  · rintro ⟨start, tail, rfl, isStart, ending⟩
    exact ⟨start, tail, rfl, isStart, ending.imp_left accepts_rangeTailPattern_iff.1⟩
  · rintro ⟨start, tail, rfl, isStart, ending⟩
    exact ⟨start, tail, rfl, isStart, ending.imp_left accepts_rangeTailPattern_iff.2⟩

/-- The pattern of a segment accepts exactly the texts that the segment may stand for. -/
theorem accepts_pattern_iff {segment : Segment} {found : Text} :
    segment.pattern.Accepts found ↔ segment.Spells found := by
  cases segment with
  | text literal => exact Token.accepts_concat_iff
  | year => exact Iff.rfl
  | yearRange => exact accepts_yearRangePattern_iff
  | name placeholder => exact Iff.rfl

end Segment

end Masthead
