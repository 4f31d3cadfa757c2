import Masthead.Pattern.Basic
import Masthead.Segment.Basic
import Masthead.Text.LineBreak

/-!
# The pattern of a segment

A literal is read leniently.  It is cut into tokens: a line break with the horizontal blanks
before it, another run of horizontal blanks, a spelling of the copyright sign, or a single
character.  Each token has a pattern that takes every spelling of it.
-/

namespace Masthead

/-- One token of a literal. -/
inductive Token
  | lineBreak
  | blanks
  | copyright
  | letter (c : Char)
  deriving DecidableEq

namespace Token

/-- What follows the copyright sign at the front of a text: the sign itself, or a letter C between
parentheses with blanks around it. -/
def afterCopyright? : Text → Option Text
  | '©' :: rest => some rest
  | '(' :: rest =>
      match rest.dropWhile isBlank with
      | c :: rest =>
          if sameLetter 'c' c then
            match rest.dropWhile isBlank with
            | ')' :: rest => some rest
            | _ => none
          else none
      | [] => none
  | _ => none

theorem length_of_afterCopyright? {text rest : Text} (h : afterCopyright? text = some rest) :
    rest.length < text.length := by
  unfold afterCopyright? at h
  split at h
  · simp only [Option.some.injEq] at h
    subst h
    simp
  · rename_i inner
    have opened := (List.dropWhile_sublist (l := inner) isBlank).length_le
    split at h
    · rename_i c afterLetter atLetter
      have closed := (List.dropWhile_sublist (l := afterLetter) isBlank).length_le
      rw [atLetter, List.length_cons] at opened
      split at h
      · split at h
        · rename_i atClose
          simp only [Option.some.injEq] at h
          subst h
          rw [atClose, List.length_cons] at closed
          rw [List.length_cons]
          omega
        · simp at h
      · simp at h
    · simp at h
  · simp at h

/-- The tokens of a literal. -/
def ofLiteral : Text → List Token
  | [] => []
  | c :: rest =>
      match _broken : Text.leadingBreak? ((c :: rest).dropWhile isHorizontalBlank) with
      | some (_, after) => .lineBreak :: ofLiteral after
      | none =>
          if isHorizontalBlank c then
            .blanks :: ofLiteral (rest.dropWhile isHorizontalBlank)
          else
            match _signed : afterCopyright? (c :: rest) with
            | some after => .copyright :: ofLiteral after
            | none => .letter c :: ofLiteral rest
termination_by literal => literal.length
decreasing_by
  · have shorter := Text.length_of_leadingBreak? _broken
    have dropped := (List.dropWhile_sublist (l := c :: rest) isHorizontalBlank).length_le
    omega
  · have dropped := (List.dropWhile_sublist (l := rest) isHorizontalBlank).length_le
    rw [List.length_cons]
    omega
  · exact length_of_afterCopyright? _signed
  · simp

def copyrightPattern : Pattern :=
  .either
    (.sequence (.one (.letter '('))
      (.sequence (.star .blank)
        (.sequence (.one (.letter 'c'))
          (.sequence (.star .blank) (.one (.letter ')'))))))
    (.one (.letter '©'))

def pattern : Token → Pattern
  | lineBreak => .sequence (.star .horizontalBlank) .lineBreak
  | blanks => .plus .blank
  | copyright => copyrightPattern
  | letter c => .one (.letter c)

end Token

namespace Segment

/-- The pattern of a year: four digits. -/
def yearPattern : Pattern := .times 4 .decimal

/-- The pattern of a year range: a year, captured, and optionally dashes and another year,
captured too. -/
def yearRangePattern : Pattern :=
  .sequence (.group yearPattern)
    (.optional
      (.sequence (.star .blank)
        (.sequence (.plus .dash)
          (.sequence (.star .blank) (.group yearPattern)))))

def pattern : Segment → Pattern
  | text literal => Pattern.concat ((Token.ofLiteral literal).map Token.pattern)
  | year => yearPattern
  | yearRange => yearRangePattern
  | name _ => .lazyStar .inLine

end Segment

end Masthead
