import Masthead.Proofs.Analysis
import Masthead.Proofs.Pattern.LetterCase

/-!
# Segments in either case

A literal without its Latin capitals is cut into the same tokens, with small letters, so its pattern
reads every text as before.  What a segment makes of the text that it reads does not depend on
capitals either: a literal is compared in lower case, and the text of a year has no capitals.
-/

namespace Masthead

namespace Token

/-- A token of a literal without its Latin capitals. -/
def withoutCapitals : Token → Token
  | .letter c => .letter c.toLower
  | other => other

theorem runsLike_pattern_withoutCapitals (token : Token) :
    token.withoutCapitals.pattern.RunsLike token.pattern := by
  cases token with
  | letter c => exact Pattern.runsLike_one_letter c
  | lineBreak | blanks | copyright => exact Pattern.RunsLike.refl _

theorem spells_withoutCapitals_iff {token : Token} {text : Text} :
    token.Spells text.withoutCapitals ↔ token.Spells text := by
  rw [← accepts_pattern_iff, ← accepts_pattern_iff]
  exact Pattern.accepts_withoutCapitals_iff

/-- Capitals neither make nor spoil a copyright sign. -/
theorem afterCopyright?_withoutCapitals (text : Text) :
    afterCopyright? text.withoutCapitals =
      (afterCopyright? text).map Text.withoutCapitals := by
  cases signed : afterCopyright? text with
  | none =>
    rw [afterCopyright?_eq_none_iff] at signed
    refine afterCopyright?_eq_none_iff.2 fun small rest place spelled => ?_
    rcases List.map_eq_append_iff.1 place with ⟨sign, after, rfl, rfl, -⟩
    exact signed sign after rfl (spells_withoutCapitals_iff.1 spelled)
  | some after =>
    rcases spells_of_afterCopyright? signed with ⟨sign, rfl, spelled⟩
    rw [Text.withoutCapitals_append, Option.map_some]
    exact afterCopyright?_of_spells (spells_withoutCapitals_iff.2 spelled) _

theorem CutsInto.withoutCapitals
    {literal : Text} {tokens : List Token}
    (cut : CutsInto literal tokens) :
    CutsInto literal.withoutCapitals (tokens.map Token.withoutCapitals) := by
  induction cut with
  | nothing => exact .nothing
  | @lineBreak blanks ending after tokens horizontal isBreak whole _ ih =>
    rw [Text.withoutCapitals_append, Text.withoutCapitals_append,
      Text.withoutCapitals_of_isBreak isBreak]
    refine .lineBreak (Text.within_withoutCapitals isHorizontalBlank_toLower horizontal) isBreak
      ?_ ih
    intro single
    rw [Ne, Text.head?_withoutCapitals_eq_feed_iff]
    exact whole single
  | @blanks run after tokens occupied horizontal boundary _ ih =>
    rw [Text.withoutCapitals_append]
    refine .blanks ?_ (Text.within_withoutCapitals isHorizontalBlank_toLower horizontal) ?_ ih
    · simpa [Text.withoutCapitals] using occupied
    · intro c first
      rw [Text.head?_withoutCapitals, Option.map_eq_some_iff] at first
      rcases first with ⟨d, first, rfl⟩
      rw [isBlank_toLower]
      exact boundary d first
  | @copyright sign after tokens spelled signed _ ih =>
    have spelledToo := spells_withoutCapitals_iff.2 spelled
    rw [Text.withoutCapitals_append]
    exact .copyright spelledToo (afterCopyright?_of_spells spelledToo _) ih
  | @letter c after tokens shown unsigned _ ih =>
    rw [Text.withoutCapitals_cons]
    refine .letter (by rwa [isBlank_toLower]) ?_ ih
    rw [← Text.withoutCapitals_cons, afterCopyright?_withoutCapitals, unsigned]
    rfl

theorem ofLiteral_withoutCapitals (literal : Text) :
    ofLiteral literal.withoutCapitals = (ofLiteral literal).map withoutCapitals :=
  (cutsInto_ofLiteral literal).withoutCapitals.ofLiteral_eq

end Token

namespace Segment

/-- A segment whose literal is without its Latin capitals. -/
def withoutCapitals : Segment → Segment
  | .text literal => .text literal.withoutCapitals
  | other => other

/-- The literal of a segment differs at most in the case of Latin letters. -/
inductive Recased : Segment → Segment → Prop
  | text {literal changed : Text} (recased : literal.Recased changed) :
      Recased (.text literal) (.text changed)
  | year : Recased .year .year
  | yearRange : Recased .yearRange .yearRange
  | name (placeholder : Placeholder) : Recased (.name placeholder) (.name placeholder)

theorem Recased.withoutCapitals_eq
    {segment other : Segment}
    (recased : segment.Recased other) :
    other.withoutCapitals = segment.withoutCapitals := by
  cases recased with
  | text recased => exact congrArg Segment.text recased.withoutCapitals_eq
  | year | yearRange | name => rfl

/-- The pattern of a segment does not depend on capitals in its literal. -/
theorem runsLike_pattern_withoutCapitals (segment : Segment) :
    segment.withoutCapitals.pattern.RunsLike segment.pattern := by
  cases segment with
  | text literal =>
    show (Pattern.concat ((Token.ofLiteral literal.withoutCapitals).map Token.pattern)).RunsLike
      (Pattern.concat ((Token.ofLiteral literal).map Token.pattern))
    rw [Token.ofLiteral_withoutCapitals, List.map_map]
    apply Pattern.RunsLike.concat
    rw [List.forall₂_map_left_iff, List.forall₂_map_right_iff, List.forall₂_same]
    exact fun token _ => token.runsLike_pattern_withoutCapitals
  | year | yearRange | name => exact Pattern.RunsLike.refl _

variable {current : CurrentYear}

theorem differs_withoutCapitals_left (expected actual : Text) :
    differs expected.withoutCapitals actual = differs expected actual := by
  rw [differs, differs, Text.lower_withoutCapitals, Text.length_withoutCapitals]

theorem differs_withoutCapitals_right (expected actual : Text) :
    differs expected actual.withoutCapitals = differs expected actual := by
  rw [differs, differs, Text.lower_withoutCapitals, Text.length_withoutCapitals]

/-- The meaning of what a segment reads does not depend on capitals in its literal. -/
theorem interpret_withoutCapitals_literal
    (segment : Segment) (text : Text) (length : Int) (captures : List Text) :
    segment.withoutCapitals.interpret current text length captures =
      segment.interpret current text length captures := by
  cases segment with
  | text literal => rw [withoutCapitals, interpret, interpret, differs_withoutCapitals_left]
  | year | yearRange | name => rfl

theorem withoutCapitals_of_isYear {year : Text} (isYear : year.IsYear) :
    year.withoutCapitals = year :=
  Text.withoutCapitals_of_hasNoCase fun c member => hasNoCase_of_isDecimal (isYear.2 c member)

/-- The meaning of what a segment reads does not depend on capitals in it, unless it is a name. -/
theorem interpret_withoutCapitals
    {segment : Segment} {piece : Piece}
    (unnamed : ∀ placeholder, segment ≠ .name placeholder)
    (reads : segment.ReadsUncut piece)
    (length : Int) :
    segment.interpret current piece.withoutCapitals.text length piece.withoutCapitals.captures =
      segment.interpret current piece.text length piece.captures := by
  cases segment with
  | text literal =>
    rw [interpret, interpret, Piece.withoutCapitals, differs_withoutCapitals_right]
  | year =>
    have isYear : piece.text.IsYear := (reads (by simp)).accepts
    rw [interpret, interpret, Piece.withoutCapitals, withoutCapitals_of_isYear isYear]
  | yearRange =>
    have kept : piece.captures.map Text.withoutCapitals = piece.captures := by
      have years := isYear_of_mem_captures (reads (by simp))
      rw [List.map_congr_left fun year member => withoutCapitals_of_isYear (years year member),
        List.map_id']
    simp only [interpret, Piece.withoutCapitals, kept, interpretRange,
      differs_withoutCapitals_right]
  | name placeholder => exact absurd rfl (unnamed placeholder)

end Segment

end Masthead
