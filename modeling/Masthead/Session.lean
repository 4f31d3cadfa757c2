import Masthead.Fix

/-!
# Sessions

A session keeps one template and one text while a user checks and fixes the text.  It runs through
any number of checks and fixes, each in a year of its own.
-/

namespace Masthead

/-- The template and the text that a session is about. -/
structure Session where
  template : Template
  text : Text
  deriving DecidableEq

/-- What fixing a session's text reports: the rules broken before, and the title of the fix. -/
structure FixReport where
  broken : List Rule
  title : Option String
  deriving DecidableEq

namespace Session

def check (session : Session) (current : CurrentYear) : Except InterpretationError Analysis :=
  session.template.analyze current session.text

def fix (session : Session) (current : CurrentYear) :
    Except InterpretationError (FixReport × Session) := do
  let analysis ← session.check current
  let fix ← session.template.fix? current session.text analysis.diagnostics
  .ok (⟨analysis.diagnostics.map (·.rule), fix.map (·.title)⟩,
    { session with text := (fix.map (·.text)).getD session.text })

/-- A step of a session: a check or a fix, in a year. -/
inductive Step
  | check (current : CurrentYear)
  | fix (current : CurrentYear)
  deriving DecidableEq

/-- The session after a step. -/
def after (session : Session) : Step → Except InterpretationError Session
  | .check current => (session.check current).map fun _ => session
  | .fix current => (session.fix current).map (·.2)

def run (session : Session) (steps : List Step) : Except InterpretationError Session :=
  steps.foldlM after session

end Session

end Masthead
