import Masthead.Fix
import Masthead.Settings

/-!
# The service

Four endpoints answer over HTTP: one validates a template, one checks and one fixes a text against
a template, and one lists the rules.  Each of them is a function from the request that it is given
to its answer, or to the reason why there is none.  The framework that the endpoints run in takes
requests to them, reads what is asked for from the bodies of requests, refuses bodies that cannot
be read, and writes answers down.  None of this is described here.
-/

namespace Masthead

namespace Http

/-- A text to check or fix, its template, and the year to do it in, unless it is the one that the
clock shows. -/
structure HeaderRequest where
  template : Text
  text : Text
  year : Option CurrentYear
  deriving DecidableEq

/-- Why an endpoint gives no answer: it refuses the request, with a status and a remark, or it runs
into an error that it does not handle. -/
inductive Failure
  | refused (status : Nat) (detail : String)
  | year (error : YearError)
  | interpretation (error : InterpretationError)
  deriving DecidableEq

/-! ## Answers -/

/-- What an answer shows of a segment: the name of its kind, and its text, if it has one. -/
structure SegmentSummary where
  kind : String
  text : Option Text
  deriving DecidableEq

def SegmentSummary.ofSegment : Segment → SegmentSummary
  | .text literal => ⟨"text", some literal⟩
  | .year => ⟨"year", none⟩
  | .yearRange => ⟨"year_range", none⟩
  | .name placeholder => ⟨"name", some placeholder.text⟩

/-- What an answer shows of a template that is valid. -/
structure TemplateSummary where
  isValid : Bool
  segments : List SegmentSummary
  rendered : Text
  deriving DecidableEq

structure DiagnosticSummary where
  id : String
  severity : String
  message : String
  start : Int
  length : Int
  deriving DecidableEq

def DiagnosticSummary.ofDiagnostic (diagnostic : Diagnostic) : DiagnosticSummary where
  id := diagnostic.rule.id
  severity := diagnostic.rule.severity.name
  message := diagnostic.message
  start := diagnostic.start
  length := diagnostic.length

structure MatchSummary where
  start : Nat
  length : Nat
  isInexact : Bool
  faults : List String
  notices : List String
  deriving DecidableEq

def MatchSummary.ofMatch (found : Match) : MatchSummary where
  start := found.start
  length := found.length
  isInexact := found.isInexact
  faults := found.faults.map (·.message)
  notices := found.notices.map (·.message)

/-- What an answer shows of the check of a text in a year. -/
structure CheckSummary where
  state : String
  year : Nat
  diagnostics : List DiagnosticSummary
  found : Option MatchSummary
  deriving DecidableEq

def CheckSummary.ofAnalysis (current : CurrentYear) (analysis : Analysis) : CheckSummary where
  state := analysis.state.name
  year := current.value
  diagnostics := analysis.diagnostics.map .ofDiagnostic
  found := analysis.found.map .ofMatch

/-- What an answer shows of the fix of a text: its title, if there is anything to fix, the text
that it leaves, and whether this is another one. -/
structure FixSummary where
  title : Option String
  text : Text
  isChanged : Bool
  deriving DecidableEq

def FixSummary.ofFix (text : Text) : Option Fix → FixSummary
  | none => ⟨none, text, false⟩
  | some fix => ⟨some fix.title, fix.text, fix.text != text⟩

structure RuleSummary where
  id : String
  title : String
  severity : String
  deriving DecidableEq

def RuleSummary.ofRule (rule : Rule) : RuleSummary := ⟨rule.id, rule.title, rule.severity.name⟩

/-! ## Endpoints -/

/-- The template of a source; a source that is refused makes the request a bad one. -/
def parseTemplate (source : Text) : Except Failure Template :=
  (Template.parse source).mapError fun error => .refused 400 error.message

/-- The year of a request: its own, or the one that the clock shows. -/
def currentYear (environment : Environment) (clock : Clock) (given : Option CurrentYear) :
    Except Failure CurrentYear :=
  (Settings.currentYear environment clock (given.map fun year => year.value)).mapError .year

def validateTemplate (environment : Environment) (clock : Clock) (source : Text) :
    Except Failure TemplateSummary := do
  let template ← parseTemplate source
  let current ← currentYear environment clock none
  .ok ⟨true, template.segments.map .ofSegment, template.renderFresh current⟩

def checkHeader (environment : Environment) (clock : Clock) (request : HeaderRequest) :
    Except Failure CheckSummary := do
  let template ← parseTemplate request.template
  let current ← currentYear environment clock request.year
  let analysis ← (template.analyze current request.text).mapError .interpretation
  .ok (.ofAnalysis current analysis)

def fixHeader (environment : Environment) (clock : Clock) (request : HeaderRequest) :
    Except Failure FixSummary := do
  let template ← parseTemplate request.template
  let current ← currentYear environment clock request.year
  let analysis ← (template.analyze current request.text).mapError .interpretation
  let fix ← (template.fix? current request.text analysis.diagnostics).mapError .interpretation
  .ok (.ofFix request.text fix)

def listRules : List RuleSummary := Rule.all.map .ofRule

end Http

end Masthead
