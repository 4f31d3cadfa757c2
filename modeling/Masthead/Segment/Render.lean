import Masthead.Segment.Interpretation

/-!
# Writing a segment

A segment is written from the current year and from what an earlier header kept.
-/

namespace Masthead

namespace Segment

/-- The text a segment writes in a year, with what an earlier header kept in its place. -/
def render (segment : Segment) (current : CurrentYear) (kept : Kept) : Text :=
  match segment with
  | .text literal => literal
  | .year => numeral current.value
  | .yearRange =>
      match kept with
      | .startYear start => formatYearRange start current.value
      | _ => numeral current.value
  | .name placeholder =>
      match kept with
      | .name trimmed => trimmed
      | _ => placeholder.text

/-- The text that segments write one after the other; what an earlier header kept is given in the
same order and may be short or long. -/
def renderAll (current : CurrentYear) : List Segment → List Kept → Text
  | [], _ => []
  | segment :: rest, kept =>
      segment.render current (kept.head?.getD .nothing) ++ renderAll current rest kept.tail

end Segment

end Masthead
