import Masthead.Segment.Render
import Masthead.Template.Match

/-!
# Writing a header

A header is written fresh, or anew from an earlier one whose start years and names it keeps.
-/

namespace Masthead

/-- A header written for a year, and the start and length of the header it replaces. -/
structure Evaluation where
  text : Text
  previousSpan : Option (Nat × Nat)
  deriving DecidableEq

namespace Template

def render (template : Template) (current : CurrentYear) (kept : List Kept) : Text :=
  Segment.renderAll current template.segments kept

def renderFresh (template : Template) (current : CurrentYear) : Text :=
  template.render current []

/-- The header of a template in a year, written anew from the one found in a previous text. -/
def evaluate (template : Template) (current : CurrentYear) (previous : Option Text) :
    Except InterpretationError Evaluation := do
  let found ← match previous with
    | none => .ok none
    | some text => template.match? current text
  match found with
  | none => .ok ⟨template.renderFresh current, none⟩
  | some earlier =>
      .ok ⟨template.render current earlier.kept, some (earlier.start, earlier.length)⟩

end Template

end Masthead
