import Masthead.Http.Service
import Masthead.Proofs.Fix.Total
import Masthead.Proofs.Template.Load

/-!
# A request is answered as a file is reported on

A request to check or to fix a text brings its template along, and a file is checked against the
template of its project.  The two go different ways.  A request parses the template by itself and
is refused with every template that is, an empty one too, while a file is checked against a load,
which keeps the refusal as a diagnostic and turns checking off for an empty template.  And a
request leaves it to the fixer to find that nothing can be resolved, while the text of a file is
not given to the fixer when nothing is reported.  They agree on every template, text and year.
-/

namespace Masthead

namespace Http

variable {environment : Environment} {clock : Clock} {request : HeaderRequest}
  {current : CurrentYear}

/-! ## What answers show -/

/-- A diagnostic is shown with everything that a caller may go by. -/
structure ShowsDiagnostic (diagnostic : Diagnostic) (shown : DiagnosticSummary) : Prop where
  id : shown.id = diagnostic.rule.id
  severity : shown.severity = diagnostic.rule.severity.name
  message : shown.message = diagnostic.message
  start : shown.start = diagnostic.start
  length : shown.length = diagnostic.length

structure ShowsMatch (found : Match) (shown : MatchSummary) : Prop where
  start : shown.start = found.start
  length : shown.length = found.length
  isInexact : shown.isInexact = found.isInexact
  faults : shown.faults = found.faults.map fun fault => fault.message
  notices : shown.notices = found.notices.map fun notice => notice.message

/-- An analysis in a year is shown: its state, its diagnostics one by one, and its match or that
there is none. -/
structure ShowsAnalysis (current : CurrentYear) (analysis : Analysis) (shown : CheckSummary) :
    Prop where
  state : shown.state = analysis.state.name
  year : shown.year = current.value
  diagnostics : List.Forall₂ ShowsDiagnostic analysis.diagnostics shown.diagnostics
  found : Option.Rel ShowsMatch analysis.found shown.found

/-- A fix of a text is shown by its title, the text that it leaves, and whether this is another
one; that there is none is shown by no title and the same text. -/
structure ShowsFix (text : Text) (fix : Option Fix) (shown : FixSummary) : Prop where
  title : shown.title = fix.map fun given => given.title
  left : shown.text = (fix.map fun given => given.text).getD text
  changed : shown.isChanged = true ↔ shown.text ≠ text

theorem showsDiagnostic_ofDiagnostic (diagnostic : Diagnostic) :
    ShowsDiagnostic diagnostic (.ofDiagnostic diagnostic) :=
  ⟨rfl, rfl, rfl, rfl, rfl⟩

theorem showsMatch_ofMatch (found : Match) : ShowsMatch found (.ofMatch found) :=
  ⟨rfl, rfl, rfl, rfl, rfl⟩

theorem showsAnalysis_ofAnalysis (current : CurrentYear) (analysis : Analysis) :
    ShowsAnalysis current analysis (.ofAnalysis current analysis) where
  state := rfl
  year := rfl
  diagnostics := by
    rw [CheckSummary.ofAnalysis, List.forall₂_map_right_iff, List.forall₂_same]
    intro diagnostic _
    exact showsDiagnostic_ofDiagnostic diagnostic
  found := by
    rw [CheckSummary.ofAnalysis]
    cases analysis.found with
    | none => exact .none
    | some found => exact .some (showsMatch_ofMatch found)

theorem showsFix_ofFix (text : Text) (fix : Option Fix) :
    ShowsFix text fix (.ofFix text fix) := by
  cases fix with
  | none => exact ⟨rfl, rfl, by simp [FixSummary.ofFix]⟩
  | some given => exact ⟨rfl, rfl, by simp [FixSummary.ofFix]⟩

/-! ## Requests -/

/-- A request is about a year: the one that it gives, or else the one that the clock shows. -/
def HeaderRequest.IsAbout (environment : Environment) (clock : Clock) (request : HeaderRequest)
    (current : CurrentYear) : Prop :=
  request.year = some current ∨
    request.year = none ∧ Settings.currentYear environment clock none = .ok current

/-- A year that has been accepted is accepted again. -/
theorem ofInt_current (current : CurrentYear) :
    CurrentYear.ofInt current.value = .ok current := by
  have bounds : 1000 ≤ (current.value : Int) ∧ (current.value : Int) ≤ 9999 := by
    have least := current.least_le
    have greatest := current.le_greatest
    omega
  rw [CurrentYear.ofInt, dif_pos bounds]
  rfl

theorem currentYear_of_isAbout (about : request.IsAbout environment clock current) :
    currentYear environment clock request.year = .ok current := by
  rcases about with given | ⟨nothing, shown⟩
  · rw [given, currentYear, Settings.currentYear, Option.map_some, Option.getD_some, ofInt_current]
    rfl
  · rw [nothing, currentYear, Option.map_none, shown]
    rfl

/-- Both endpoints refuse a request with a remark, as a bad one. -/
structure Refuse (environment : Environment) (clock : Clock) (request : HeaderRequest)
    (detail : String) : Prop where
  check : checkHeader environment clock request = .error (.refused 400 detail)
  fix : fixHeader environment clock request = .error (.refused 400 detail)

/-- The endpoints answer a request with an analysis and a fix in a year. -/
structure Answer (environment : Environment) (clock : Clock) (request : HeaderRequest)
    (current : CurrentYear) (analysis : Analysis) (fix : Option Fix) : Prop where
  check : ∃ shown, checkHeader environment clock request = .ok shown ∧
    ShowsAnalysis current analysis shown
  fix : ∃ shown, fixHeader environment clock request = .ok shown ∧
    ShowsFix request.text fix shown

/-- A request whose template is refused is refused for the same reason. -/
theorem refuse_of_refused
    {error : ParseError}
    (refused : Template.parse request.template = .error error) :
    Refuse environment clock request error.message := by
  have parsed : parseTemplate request.template = .error (.refused 400 error.message) := by
    rw [parseTemplate, refused]
    rfl
  constructor
  · rw [checkHeader, parsed]
    rfl
  · rw [fixHeader, parsed]
    rfl

/-- With a template one endpoint shows the analysis of a text, and the other the fix for what the
analysis reports. -/
theorem answer_of_parse
    {template : Template} {analysis : Analysis} {fix : Option Fix}
    (about : request.IsAbout environment clock current)
    (parsed : Template.parse request.template = .ok template)
    (analyzed : template.analyze current request.text = .ok analysis)
    (fixed : template.fix? current request.text analysis.diagnostics = .ok fix) :
    Answer environment clock request current analysis fix := by
  have dated := currentYear_of_isAbout about
  have parsedToo : parseTemplate request.template = .ok template := by
    rw [parseTemplate, parsed]
    rfl
  constructor
  · refine ⟨_, ?_, showsAnalysis_ofAnalysis current analysis⟩
    simp only [checkHeader, parsedToo, dated, analyzed, bind, Except.bind, Except.mapError]
  · refine ⟨_, ?_, showsFix_ofFix request.text fix⟩
    simp only [fixHeader, parsedToo, dated, analyzed, fixed, bind, Except.bind, Except.mapError]

/-! ## Agreement -/

/-- A request about a text is answered with what the text is reported with when it is checked
against the load of its template.  With a template that parses, the analysis and the fix are shown.
With one that is refused, so is the request, for the reason that the report gives; with an empty
one, which turns checking off, it is refused too. -/
theorem endpoints_agree
    (environment : Environment) (clock : Clock) (request : HeaderRequest) (current : CurrentYear)
    (about : request.IsAbout environment clock current) :
    ∃ analysis fix,
      (TemplateLoad.ofText request.template TemplateLoad.unnamed).check current request.text =
        .ok (analysis, fix) ∧
      ((request.template ≠ [] ∧ (∃ template, Template.parse request.template = .ok template) ∧
          Answer environment clock request current analysis fix) ∨
        ∃ error, Template.parse request.template = .error error ∧
          Refuse environment clock request error.message ∧
          fix = none ∧
          if request.template = [] then
            analysis.state = .checkDisabled ∧ analysis.diagnostics = []
          else
            analysis.state = .templateInvalid ∧
              ∃ diagnostic, analysis.diagnostics = [diagnostic] ∧
                diagnostic.rule.id = "SHA0001" ∧
                diagnostic.message = "Error in <template>: " ++ error.message) := by
  rcases TemplateLoad.ofText_cases request.template with
    ⟨empty, loads⟩ | ⟨template, occupied, parsed, loads⟩ | ⟨error, occupied, refused, loads⟩
  · have refused := Template.parse_nil
    rw [← empty] at refused
    refine ⟨_, _, TemplateLoad.check_of_disabled (congrArg _ (loads _)),
      Or.inr ⟨_, refused, refuse_of_refused refused, rfl, ?_⟩⟩
    rw [if_pos empty]
    exact ⟨rfl, rfl⟩
  · rcases template.exists_analyze current request.text with ⟨analysis, analyzed⟩
    rcases template.exists_fix? current request.text analysis.diagnostics with ⟨fix, fixed⟩
    exact ⟨analysis, fix, TemplateLoad.check_of_template (congrArg _ (loads _)) analyzed fixed,
      Or.inl ⟨occupied, ⟨template, parsed⟩, answer_of_parse about parsed analyzed fixed⟩⟩
  · refine ⟨_, _, TemplateLoad.check_of_problem (congrArg _ (loads _)),
      Or.inr ⟨error, refused, refuse_of_refused refused, rfl, ?_⟩⟩
    rw [if_neg occupied]
    exact ⟨rfl, _, rfl, rfl, TemplateLoad.message_saying_misconfigured 0 0 _⟩

/-- Noon of the last day of 2024 in universal time; the only zone that is known is thirteen hours
ahead. -/
def eveClock : Clock where
  now := ⟨1735646400⟩
  zone? := fun name => if name = "Pacific/Auckland" then some ⟨name, fun _ => 46800⟩ else none

def eveEnvironment : Environment := [(Settings.zoneVariable, "Pacific/Auckland")]

/-- The year after the one that universal time shows. -/
def eveYear : CurrentYear := ⟨2025, by decide, by decide⟩

/-- A text with a header of the year before, to be checked in the year that the clock shows. -/
def eveRequest : HeaderRequest where
  template := "# {Year}\n".toList
  text := "# 2024\nx".toList
  year := none

theorem endpoints_agree_sample :
    eveRequest.IsAbout eveEnvironment eveClock eveYear ∧
      ∃ analysis fix,
        (TemplateLoad.ofText eveRequest.template TemplateLoad.unnamed).check eveYear
            eveRequest.text = .ok (analysis, fix) ∧
          Answer eveEnvironment eveClock eveRequest eveYear analysis fix := by
  have about : eveRequest.IsAbout eveEnvironment eveClock eveYear :=
    Or.inr ⟨rfl, by decide +kernel⟩
  refine ⟨about, ?_⟩
  rcases endpoints_agree eveEnvironment eveClock eveRequest eveYear about with
    ⟨analysis, fix, checked, ⟨-, -, answers⟩ | ⟨error, refused, -⟩⟩
  · exact ⟨analysis, fix, checked, answers⟩
  · have parses : (Template.parse eveRequest.template).isOk = true := by decide +kernel
    rw [refused] at parses
    cases parses

end Http

end Masthead
