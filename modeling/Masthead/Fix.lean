import Masthead.Analysis
import Masthead.Template.Render

/-!
# Fixing a header

A fix replaces a whole text.  It inserts a header where none was found, moves a displaced header
to the top, writes a header anew in place, or does the last two together.  Its title says which.
-/

namespace Masthead

/-- A new text, and a title for what changes. -/
structure Fix where
  title : String
  text : Text
  deriving DecidableEq

namespace Fix

/-- Whether a diagnostic reports that something precedes the header. -/
def isDisplacement (diagnostic : Diagnostic) : Bool := diagnostic.rule == .misplacedHeader

def titleOf (diagnostics : List Diagnostic) : String :=
  if diagnostics.all (·.isInsertOnly) then "Insert header"
  else if diagnostics.all isDisplacement then "Move below header"
  else if diagnostics.any isDisplacement then "Update and move header"
  else "Update header"

def fixable (diagnostics : List Diagnostic) : List Diagnostic :=
  diagnostics.filter (·.rule.isFixable)

def replaceSpan (text : Text) (start length : Int) (replacement : Text) : Text :=
  text.upTo start ++ replacement ++ text.startingAt (start + length)

def moveToTop (text header : Text) (start length : Int) : Text :=
  header ++ text.upTo start ++ text.startingAt (start + length)

/-- The span that a fix of some diagnostics replaces: the first that is not insert-only, or the
empty span at the top. -/
def replacedSpan (diagnostics : List Diagnostic) : Int × Int :=
  ((diagnostics.find? (!·.isInsertOnly)).map fun diagnostic =>
    (diagnostic.start, diagnostic.length)).getD (0, 0)

/-- The text that a fix of some diagnostics makes of a text and its evaluation. -/
def apply (text : Text) (diagnostics : List Diagnostic) (evaluation : Evaluation) : Text :=
  match diagnostics.any isDisplacement, evaluation.previousSpan with
  | true, some (start, length) => moveToTop text evaluation.text start length
  | _, _ =>
      let (start, length) := replacedSpan diagnostics
      replaceSpan text start length evaluation.text

end Fix

/-- Fix the header of a text, if some of the diagnostics reported on it can be resolved. -/
def Template.fix? (template : Template) (current : CurrentYear) (text : Text)
    (diagnostics : List Diagnostic) : Except InterpretationError (Option Fix) :=
  let fixable := Fix.fixable diagnostics
  if fixable.isEmpty then .ok none
  else do
    let evaluation ← template.evaluate current (some text)
    .ok (some ⟨Fix.titleOf fixable, Fix.apply text fixable evaluation⟩)

/-- Check a text and compute its fix, if its template was found and something is reported. -/
def TemplateLoad.check (load : TemplateLoad) (current : CurrentYear) (text : Text) :
    Except InterpretationError (Analysis × Option Fix) := do
  let analysis ← load.analyze current text
  match load.lookup with
  | .template template =>
      if analysis.diagnostics.isEmpty then .ok (analysis, none)
      else do
        let fix ← template.fix? current text analysis.diagnostics
        .ok (analysis, fix)
  | _ => .ok (analysis, none)

end Masthead
