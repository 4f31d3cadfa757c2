import Masthead.Text.Blank

/-!
# Segments

A template is a sequence of segments of four kinds: literal text, the current year, a range of
years, and a name that the user fills in.  A name is rendered as its placeholder until a header
provides one; the placeholder is trimmed and never empty, which its type guarantees.
-/

namespace Masthead

/-- The text a name shows before it is filled in: trimmed, and not empty. -/
structure Placeholder where
  text : Text
  trimmed : text.trim = text
  occupied : text ≠ []
  deriving DecidableEq

namespace Placeholder

/-- The text of the standard placeholder, which also marks a name as not filled in. -/
def standardText : Text :=
  ['\x7b', 'N', 'a', 'm', 'e', '\x7d']

def standard : Placeholder where
  text := standardText
  trimmed := by decide
  occupied := by decide

/-- The placeholder a caller asks for: the given text trimmed, or the standard one when nothing
is left of it. -/
def ofGiven : Option Text → Placeholder
  | none => standard
  | some given =>
      if occupied : given.trim = [] then standard
      else ⟨given.trim, Text.trim_trim given, occupied⟩

end Placeholder

/-- One piece of a template. -/
inductive Segment
  | text (literal : Text)
  | year
  | yearRange
  | name (placeholder : Placeholder)
  deriving DecidableEq

/-- Why a description of a segment is refused: a text without its literal, or a kind that is
none of the four. -/
inductive SegmentError
  | missingLiteral
  | unknownKind
  deriving DecidableEq

namespace SegmentError

def message : SegmentError → String
  | missingLiteral => "TextSegment literal must be a string"
  | unknownKind => "Unknown template segment type: object"

end SegmentError

namespace Segment

/-- The text segment of a literal that may be missing. -/
def ofLiteral : Option Text → Except SegmentError Segment
  | none => .error .missingLiteral
  | some literal => .ok (.text literal)

/-- The name segment with the placeholder a caller asks for. -/
def ofDefault (given : Option Text) : Segment := .name (.ofGiven given)

end Segment

end Masthead
