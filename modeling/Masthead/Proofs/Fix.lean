import Masthead.Fix
import Masthead.Proofs.Template.Rereading

/-!
# What a fix makes of a text

A fix writes the header anew and puts it above the text without the header that was found, however
the fix is titled: inserting, moving and updating are one operation.  If a template finds again what
it has written, the fixed text is clean, except that a range may start in the future.
-/

namespace Masthead

namespace Match

/-- The start years of the ranges in a header. -/
def startYears (found : Match) : List Int := found.kept.filterMap Kept.startYear?

/-- A header is in order: exact, without fault and up to date. -/
def IsInOrder (found : Match) : Prop :=
  found.isInexact = false ∧ found.faults = [] ∧ found.notices = []

instance (found : Match) : Decidable found.IsInOrder :=
  inferInstanceAs (Decidable (_ ∧ _ ∧ _))

end Match

namespace Analysis

/-- The analysis of a text whose header has been looked for. -/
def ofOutcome (text : Text) : Option Match → Analysis
  | none => ofAbsence text
  | some found => ofMatch found

theorem mem_diagnosticsOf
    {found : Match} {diagnostic : Diagnostic}
    (member : diagnostic ∈ diagnosticsOf found) :
    diagnostic.rule.isFixable = true ∧ diagnostic.isInsertOnly = false ∧
      (diagnostic.rule = .misplacedHeader → found.start ≠ 0) ∧
        (diagnostic.rule ≠ .misplacedHeader →
          diagnostic.start = found.start ∧ diagnostic.length = found.length) := by
  simp only [diagnosticsOf, List.mem_append, List.mem_map] at member
  rcases member with ((displaced | inexact) | ⟨fault, -, rfl⟩) | ⟨notice, -, rfl⟩
  · split at displaced
    · cases displaced
    · rename_i below
      cases List.mem_singleton.1 displaced
      exact ⟨rfl, rfl, fun _ => below, fun other => absurd rfl other⟩
  · split at inexact
    · cases List.mem_singleton.1 inexact
      exact ⟨rfl, rfl, by simp [Diagnostic.plain, Diagnostic.create], fun _ => ⟨rfl, rfl⟩⟩
    · cases inexact
  · exact ⟨rfl, rfl, by simp [Diagnostic.saying, Diagnostic.create], fun _ => ⟨rfl, rfl⟩⟩
  · exact ⟨rfl, rfl, by simp [Diagnostic.saying, Diagnostic.create], fun _ => ⟨rfl, rfl⟩⟩

/-- A header at the top that is exact, faultless and up to date is all right. -/
theorem diagnosticsOf_eq_nil_iff {found : Match} :
    diagnosticsOf found = [] ↔
      found.start = 0 ∧ found.isInexact = false ∧ found.faults = [] ∧ found.notices = [] := by
  simp [diagnosticsOf]

end Analysis

namespace Fix

theorem fixable_diagnosticsOf (found : Match) :
    fixable (Analysis.diagnosticsOf found) = Analysis.diagnosticsOf found := by
  rw [fixable, List.filter_eq_self]
  intro diagnostic member
  exact (Analysis.mem_diagnosticsOf member).1

/-- The header is displaced exactly when something is above it. -/
theorem any_isDisplacement_diagnosticsOf (found : Match) :
    (Analysis.diagnosticsOf found).any isDisplacement = true ↔ found.start ≠ 0 := by
  constructor
  · intro displaced
    rcases List.any_eq_true.1 displaced with ⟨diagnostic, member, misplaced⟩
    exact (Analysis.mem_diagnosticsOf member).2.2.1 (beq_iff_eq.1 misplaced)
  · intro below
    simp [Analysis.diagnosticsOf, below, isDisplacement, Diagnostic.plain, Diagnostic.create]

/-- What is reported on a header at the top is reported on its span. -/
theorem replacedSpan_diagnosticsOf
    {found : Match}
    (atTop : found.start = 0)
    (reported : Analysis.diagnosticsOf found ≠ []) :
    replacedSpan (Analysis.diagnosticsOf found) = ((found.start : Int), (found.length : Int)) := by
  have facts := fun diagnostic (member : diagnostic ∈ Analysis.diagnosticsOf found) =>
    Analysis.mem_diagnosticsOf member
  cases listed : Analysis.diagnosticsOf found with
  | nil => exact absurd listed reported
  | cons first others =>
    rw [listed] at facts
    rcases facts first List.mem_cons_self with ⟨-, replaces, displaced, span⟩
    rcases span (fun misplaced => displaced misplaced atTop) with ⟨start, length⟩
    rw [replacedSpan, List.find?_cons_of_pos (by simp [replaces]), Option.map_some,
      Option.getD_some, start, length]

/-- Whatever is reported on a header, its fix is the new header above the text without the old. -/
theorem apply_diagnosticsOf
    {found : Match}
    (reported : Analysis.diagnosticsOf found ≠ [])
    (text header : Text) :
    apply text (Analysis.diagnosticsOf found) ⟨header, some (found.start, found.length)⟩ =
      header ++ (text.take found.start ++ text.drop found.stop) := by
  rw [apply]
  by_cases atTop : found.start = 0
  · have unmoved : (Analysis.diagnosticsOf found).any isDisplacement = false := by
      rw [← Bool.not_eq_true, any_isDisplacement_diagnosticsOf]
      simp [atTop]
    simp only [unmoved, replacedSpan_diagnosticsOf atTop reported, replaceSpan, Text.upTo_ofNat,
      ← Int.natCast_add, Text.startingAt_ofNat, Match.stop]
    rw [atTop, List.take_zero, List.nil_append, List.nil_append]
  · simp only [any_isDisplacement_diagnosticsOf found |>.2 atTop, moveToTop, Text.upTo_ofNat,
      ← Int.natCast_add, Text.startingAt_ofNat, Match.stop, List.append_assoc]

/-- Where no header was found, the fix is the new header above the text. -/
theorem apply_ofAbsence (text header : Text) :
    apply text (Analysis.ofAbsence text).diagnostics ⟨header, none⟩ = header ++ text := by
  show text.upTo (0 : Nat) ++ header ++ text.startingAt (0 : Nat) = header ++ text
  rw [Text.upTo_ofNat, Text.startingAt_ofNat, List.take_zero, List.drop_zero, List.nil_append]

end Fix

namespace Segment

/-- What a segment that is written afresh in a year would keep. -/
def initial (current : CurrentYear) : Segment → Kept
  | .yearRange => .startYear current.value
  | _ => .nothing

theorem render_initial (segment : Segment) (current : CurrentYear) :
    segment.render current (segment.initial current) = segment.render current .nothing := by
  cases segment with
  | yearRange => simp [render, initial, formatYearRange]
  | text literal => rfl
  | year => rfl
  | name placeholder => rfl

theorem renderAll_initial (segments : List Segment) (current : CurrentYear) :
    renderAll current segments (segments.map (initial current)) =
      renderAll current segments [] := by
  induction segments with
  | nil => rfl
  | cons segment segments ih =>
    simp only [renderAll, List.map_cons, List.head?_cons, List.tail_cons, List.head?_nil,
      List.tail_nil, Option.getD_some, Option.getD_none, ih, render_initial]

end Segment

namespace Template

/-- What is kept for writing the header anew: what the header that was found keeps, or the year
itself where there was none. -/
def carried (template : Template) (current : CurrentYear) : Option Match → List Kept
  | none => template.segments.map (Segment.initial current)
  | some found => found.kept

end Template

/-- A text without the header that was found in it. -/
def Text.without (text : Text) : Option Match → Text
  | none => text
  | some found => text.take found.start ++ text.drop found.stop

namespace Template

variable {template : Template} {current : CurrentYear} {text : Text} {found : Option Match}

theorem analyze_of_match?
    (searched : template.match? current text = .ok found) :
    template.analyze current text = .ok (.ofOutcome text found) := by
  rw [analyze, searched]
  cases found <;> rfl

theorem evaluate_of_match?
    (searched : template.match? current text = .ok found) :
    template.evaluate current (some text) =
      .ok ⟨template.render current (template.carried current found),
        found.map fun earlier => (earlier.start, earlier.length)⟩ := by
  rw [evaluate]
  simp only [searched]
  cases found with
  | none =>
    rw [carried, render, Segment.renderAll_initial]
    rfl
  | some earlier => rfl

theorem fix?_of_clean
    (clean : (Analysis.ofOutcome text found).diagnostics = []) :
    template.fix? current text (Analysis.ofOutcome text found).diagnostics = .ok none := by
  rw [clean]
  rfl

/-- A fix puts the new header above the text without the old one. -/
theorem fix?_of_reported
    (searched : template.match? current text = .ok found)
    (reported : (Analysis.ofOutcome text found).diagnostics ≠ []) :
    template.fix? current text (Analysis.ofOutcome text found).diagnostics =
      .ok (some ⟨Fix.titleOf (Analysis.ofOutcome text found).diagnostics,
        template.render current (template.carried current found) ++ text.without found⟩) := by
  have fixable : Fix.fixable (Analysis.ofOutcome text found).diagnostics =
      (Analysis.ofOutcome text found).diagnostics := by
    cases found with
    | none => rfl
    | some earlier => exact Fix.fixable_diagnosticsOf earlier
  rw [fix?]
  simp only [fixable, List.isEmpty_iff, if_neg reported, evaluate_of_match? searched]
  cases found with
  | none =>
    show Except.ok (some (Fix.mk _ (Fix.apply text _ ⟨_, none⟩))) = _
    rw [Analysis.ofOutcome, Fix.apply_ofAbsence]
    rfl
  | some earlier =>
    show Except.ok (some (Fix.mk _ (Fix.apply text _ ⟨_, some _⟩))) = _
    rw [Analysis.ofOutcome, Analysis.ofMatch, Fix.apply_diagnosticsOf reported]
    rfl

/-! ## The fixed text -/

theorem rewritable_initial_of_unnamed
    {segments : List Segment}
    (unnamed : ∀ placeholder, .name placeholder ∉ segments)
    (current : CurrentYear) :
    List.Forall₂ Segment.Rewritable segments (segments.map (Segment.initial current)) := by
  induction segments with
  | nil => exact .nil
  | cons segment segments ih =>
    refine .cons ?_ (ih (Segment.unnamed_of_cons unnamed))
    cases segment with
    | text literal => rfl
    | year => rfl
    | yearRange => exact ⟨current.value, rfl, current.least_le, current.le_greatest⟩
    | name placeholder => exact absurd List.mem_cons_self (unnamed placeholder)

theorem rewritable_initial
    {segments : List Segment}
    (alternating : Segment.alternates segments = true)
    (current : CurrentYear) :
    List.Forall₂ Segment.Rewritable segments (segments.map (Segment.initial current)) :=
  rewritable_initial_of_unnamed (Segment.unnamed_of_alternates alternating) current

/-- What is carried over is enough to write the header and to read it again, if the start years that
were found have four digits. -/
theorem rewritable_carried
    (alternating : Segment.alternates template.segments = true)
    (searched : template.match? current text = .ok found)
    (fourDigits : ∀ earlier ∈ found, ∀ start ∈ earlier.startYears, 1000 ≤ start) :
    template.Rewritable (template.carried current found) := by
  cases found with
  | none => exact rewritable_initial alternating current
  | some earlier =>
    exact Segment.rewritable_of_keeps alternating (keeps_of_match? searched)
      (fourDigits earlier rfl)

theorem startYear_of_mem_initial
    {segments : List Segment} {current : CurrentYear} {start : Int}
    (member : start ∈ (segments.map (Segment.initial current)).filterMap Kept.startYear?) :
    start = current.value := by
  rcases List.mem_filterMap.1 member with ⟨one, listed, year⟩
  rcases List.mem_map.1 listed with ⟨segment, -, rfl⟩
  cases segment with
  | yearRange => exact (Option.some.inj year).symm
  | text literal => cases year
  | year => cases year
  | name placeholder => cases year

/-- Ranges that are written afresh do not start later than now. -/
theorem startYears_carried
    (template : Template) (current : CurrentYear) (found : Option Match) :
    (∀ start ∈ (template.carried current found).filterMap Kept.startYear?,
        start ≤ current.value) ↔
      ∀ earlier ∈ found, ∀ start ∈ earlier.startYears, start ≤ current.value := by
  cases found with
  | none =>
    simp only [Option.mem_def, reduceCtorEq, false_implies, implies_true, iff_true]
    intro start member
    exact Int.le_of_eq (startYear_of_mem_initial member)
  | some earlier => simp [carried, Match.startYears]

/-- Fixing cleans a header.  There is a fix exactly when something is reported.  In the fixed text
the header that has been written stands above the text without the old one; it is found at the top,
over exactly its length, exact and up to date; and nothing at all is reported on it exactly when no
range of the old header starts in the future. -/
theorem fix?_cleans
    {source : Text} {template : Template}
    (parsed : parse source = .ok template)
    (closes : template.closesRanges = true)
    (ends : template.endsLine = true)
    (current : CurrentYear)
    (text : Text) :
    ∃ found analysis outcome,
      template.match? current text = .ok found ∧
      template.analyze current text = .ok analysis ∧
      template.fix? current text analysis.diagnostics = .ok outcome ∧
      (outcome = none ↔ analysis.diagnostics = []) ∧
      ∀ fix ∈ outcome,
        (∀ earlier ∈ found, ∀ start ∈ earlier.startYears, 1000 ≤ start) →
        ∃ header again renewed,
          template.evaluate current (some text) = .ok header ∧
          fix.text = header.text ++ text.without found ∧
          template.analyze current fix.text = .ok again ∧
          again.found = some renewed ∧
          renewed.start = 0 ∧
          renewed.length = header.text.length ∧
          renewed.isInexact = false ∧
          renewed.notices = [] ∧
          (again.diagnostics = [] ↔
            ∀ earlier ∈ found, ∀ start ∈ earlier.startYears, start ≤ current.value) := by
  have alternating := alternates_of_parse parsed
  rcases exists_match? template current text with ⟨found, searched, -⟩
  have analyzed := analyze_of_match? searched
  by_cases clean : (Analysis.ofOutcome text found).diagnostics = []
  · refine ⟨found, _, _, searched, analyzed, fix?_of_clean clean, by simp [clean], ?_⟩
    intro fix nothing
    cases nothing
  · refine ⟨found, _, _, searched, analyzed, fix?_of_reported searched clean, by simp [clean], ?_⟩
    rintro _ ⟨⟩ fourDigits
    have rewritable := rewritable_carried alternating searched fourDigits
    have foundAgain := match?_render alternating closes ends rewritable current current
      (text.without found)
    refine ⟨_, _, _, evaluate_of_match? searched, rfl, analyze_of_match? foundAgain, rfl, rfl, rfl,
      isInexact_rereading current current, notices_rereading current, ?_⟩
    rw [← startYears_carried template, ← faults_rereading_eq_nil_iff rewritable]
    show Analysis.diagnosticsOf _ = [] ↔ _
    rw [Analysis.diagnosticsOf_eq_nil_iff, isInexact_rereading, notices_rereading]
    simp [rereading]

/-- A template whose header is one line with a range of years. -/
def sample : Template where
  segments := [.text ['#', ' '], .yearRange, .text [' ', 'A', '\n']]
  occupied := by simp

/-- A text with a header of the sample that is displaced and out of date. -/
def sampleText : Text :=
  ['x', '#', ' ', '2', '0', '1', '9', '-', '2', '0', '2', '0', ' ', 'A', '\n']

/-- A year in which to look at the sample. -/
def sampleYear : CurrentYear := ⟨2024, by decide, by decide⟩

theorem fix?_cleans_sample :
    ∃ analysis fix again,
      parse "# \x7bYearRange\x7d A\n".toList = .ok sample ∧
      sample.analyze sampleYear sampleText = .ok analysis ∧
      sample.fix? sampleYear sampleText analysis.diagnostics = .ok (some fix) ∧
      sample.analyze sampleYear fix.text = .ok again ∧
      again.diagnostics = [] := by
  have parsed : parse "# \x7bYearRange\x7d A\n".toList = .ok sample := by
    decide +kernel
  have years : (sample.match? sampleYear sampleText).map (·.map Match.startYears) =
      .ok (some [2019]) := by
    decide +kernel
  have fixes : (sample.analyze sampleYear sampleText).bind (fun analysis =>
      (sample.fix? sampleYear sampleText analysis.diagnostics).map (·.isSome)) = .ok true := by
    decide +kernel
  rcases fix?_cleans parsed (by decide) (by decide) sampleYear sampleText with
    ⟨found, analysis, outcome, searched, analyzed, fixed, -, cleans⟩
  rw [searched] at years
  rw [analyzed] at fixes
  simp only [Except.bind, fixed, Except.map] at fixes years
  cases outcome with
  | none => cases fixes
  | some fix =>
    cases found with
    | none => cases years
    | some earlier =>
      have start : earlier.startYears = [2019] := by simpa using years
      rcases cleans fix rfl (by simp [start]) with
        ⟨header, again, renewed, -, -, analyzedAgain, -, -, -, -, -, clean⟩
      refine ⟨analysis, fix, again, parsed, analyzed, fixed, analyzedAgain, clean.2 ?_⟩
      simp [start, sampleYear]

end Template

end Masthead
