import Masthead.Segment.Basic

/-!
# Templates

A template is a sequence of at least one segment.
-/

namespace Masthead

/-- A header template: its segments, at least one. -/
structure Template where
  segments : List Segment
  occupied : segments ≠ []
  deriving DecidableEq

/-- Why a sequence of segments is no template. -/
inductive TemplateError
  | noSegments
  deriving DecidableEq

namespace TemplateError

def message : TemplateError → String
  | noSegments => "A header template needs at least one segment"

end TemplateError

namespace Template

def ofSegments (segments : List Segment) : Except TemplateError Template :=
  if occupied : segments = [] then .error .noSegments else .ok ⟨segments, occupied⟩

end Template

end Masthead
