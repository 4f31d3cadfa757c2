import Masthead.Template.Load
import Masthead.Template.Match

/-!
# Analysing a file

The header found in a text, or its absence, is turned into diagnostics: an absent header is
reported on the first line that shows something, a displaced one on the text before it, and
inexactness, faults and notices on the header itself, in this order.
-/

namespace Masthead

/-- Where a file ends up in the check of its header. -/
inductive HeaderState
  | noTemplateConfigured
  | templateInvalid
  | checkDisabled
  | headerAbsent
  | headerMatchedExact
  | headerMatchedInexact
  deriving DecidableEq

def HeaderState.name : HeaderState → String
  | noTemplateConfigured => "no_template_configured"
  | templateInvalid => "template_invalid"
  | checkDisabled => "check_disabled"
  | headerAbsent => "header_absent"
  | headerMatchedExact => "header_matched_exact"
  | headerMatchedInexact => "header_matched_inexact"

/-- The outcome of analysing a text. -/
structure Analysis where
  state : HeaderState
  diagnostics : List Diagnostic
  found : Option Match
  deriving DecidableEq

/-- Where the first line that shows something ends, after some characters. -/
def topLineFrom (skipped : Nat) : List Line → Option Nat
  | [] => none
  | line :: rest =>
      if line.content.isAllBlank then
        topLineFrom (skipped + line.content.length + line.ending.length) rest
      else some (skipped + line.content.length)

/-- The length of a text up to the end of its first line that shows something, or of the whole
text when every line is blank. -/
def topLineLength (text : Text) : Nat := (topLineFrom 0 text.lines).getD text.length

namespace Analysis

def hasErrors (analysis : Analysis) : Bool := analysis.diagnostics.any (·.isError)

def ofAbsence (text : Text) : Analysis where
  state := .headerAbsent
  diagnostics :=
    [.create .incorrectHeader 0 (topLineLength text) none [(Diagnostic.insertOnlyKey, "True")]]
  found := none

def diagnosticsOf (found : Match) : List Diagnostic :=
  (if found.start = 0 then [] else [.plain .misplacedHeader 0 found.start]) ++
    (if found.isInexact then [.plain .incorrectHeader found.start found.length] else []) ++
    found.faults.map (fun fault => .saying .invalidHeader found.start found.length fault.message) ++
    found.notices.map fun notice =>
      .saying .outdatedHeader found.start found.length notice.message

/-- The analysis of a text in which a header was found. -/
def ofMatch (found : Match) : Analysis where
  state := if found.isInexact then .headerMatchedInexact else .headerMatchedExact
  diagnostics := diagnosticsOf found
  found := some found

/-- The state that a diagnostic about the template puts every file in. -/
def stateOf (diagnostic : Diagnostic) : HeaderState :=
  if diagnostic.rule == .missingTemplate then .noTemplateConfigured else .templateInvalid

/-- The analysis of a text whose template has a problem, reported on the text's first line that
shows something. -/
def ofProblem (text : Text) (diagnostic : Diagnostic) : Analysis where
  state := stateOf diagnostic
  diagnostics := [{ diagnostic with start := 0, length := topLineLength text }]
  found := none

end Analysis

def Template.analyze (template : Template) (current : CurrentYear) (text : Text) :
    Except InterpretationError Analysis := do
  match ← template.match? current text with
  | none => .ok (.ofAbsence text)
  | some found => .ok (.ofMatch found)

/-- Check the header of a text given the outcome of looking up the template. -/
def TemplateLoad.analyze (load : TemplateLoad) (current : CurrentYear) (text : Text) :
    Except InterpretationError Analysis :=
  match load.lookup with
  | .problem diagnostic => .ok (.ofProblem text diagnostic)
  | .disabled => .ok ⟨.checkDisabled, [], none⟩
  | .template template => template.analyze current text

end Masthead
