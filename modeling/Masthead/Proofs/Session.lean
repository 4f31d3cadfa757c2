import Masthead.Proofs.Fix
import Masthead.Session

/-!
# A session never loses anything

Once a step of a session has produced a fix, the text is the header written by the template above
the rest of the text, and it stays so: every later fix rewrites that header for its own year, from
the same start years, and leaves the rest alone.  The years of the steps may go backwards, so that a
header may be at fault in between.
-/

namespace Masthead

namespace Session

/-- The year of a step that produces a fix. -/
def fixYear? (session : Session) : Step → Except InterpretationError (Option CurrentYear)
  | .check _ => .ok none
  | .fix current =>
      (session.fix current).map fun outcome => outcome.1.title.map fun _ => current

/-- The years of the steps that produce a fix, in order. -/
def fixYears (session : Session) : List Step → Except InterpretationError (List CurrentYear)
  | [] => .ok []
  | step :: steps => do
      let year? ← session.fixYear? step
      let next ← session.after step
      let years ← next.fixYears steps
      .ok (year?.toList ++ years)

/-- The session after a fix: the header that was found is written anew, above the rest. -/
def renewed (session : Session) (current : CurrentYear) (found : Option Match) : Session where
  template := session.template
  text := session.template.render current (session.template.carried current found) ++
    session.text.without found

variable {session : Session} {current : CurrentYear} {found : Option Match}

theorem run_cons (session : Session) (step : Step) (steps : List Step) :
    session.run (step :: steps) = (session.after step).bind (·.run steps) := by
  rw [run, List.foldlM_cons]
  rfl

theorem fixYears_cons
    {step : Step} {next : Session} {year? : Option CurrentYear} {steps : List Step}
    {years : List CurrentYear}
    (fixes : session.fixYear? step = .ok year?)
    (moves : session.after step = .ok next)
    (others : next.fixYears steps = .ok years) :
    session.fixYears (step :: steps) = .ok (year?.toList ++ years) := by
  rw [fixYears, fixes, moves]
  simp only [bind, Except.bind, others]

/-! ## One step -/

theorem fix_of_clean
    (searched : session.template.match? current session.text = .ok found)
    (clean : (Analysis.ofOutcome session.text found).diagnostics = []) :
    ∃ report, session.fix current = .ok (report, session) ∧ report.title = none := by
  rw [fix, check, Template.analyze_of_match? searched]
  simp only [bind, Except.bind, Template.fix?_of_clean clean]
  exact ⟨_, rfl, rfl⟩

theorem fix_of_reported
    (searched : session.template.match? current session.text = .ok found)
    (reported : (Analysis.ofOutcome session.text found).diagnostics ≠ []) :
    ∃ report title,
      session.fix current = .ok (report, session.renewed current found) ∧
        report.title = some title := by
  rw [fix, check, Template.analyze_of_match? searched]
  simp only [bind, Except.bind, Template.fix?_of_reported searched reported]
  exact ⟨_, _, rfl, rfl⟩

/-- A step changes nothing, or it produces a fix and the header is written anew. -/
theorem exists_after (session : Session) (step : Step) :
    session.fixYear? step = .ok none ∧ session.after step = .ok session ∨
      ∃ current found,
        session.fixYear? step = .ok (some current) ∧
        session.template.match? current session.text = .ok found ∧
        session.after step = .ok (session.renewed current found) := by
  cases step with
  | check current =>
    rcases Template.exists_match? session.template current session.text with ⟨found, searched, -⟩
    left
    rw [after, check, Template.analyze_of_match? searched]
    exact ⟨rfl, rfl⟩
  | fix current =>
    rcases Template.exists_match? session.template current session.text with ⟨found, searched, -⟩
    by_cases clean : (Analysis.ofOutcome session.text found).diagnostics = []
    · rcases fix_of_clean searched clean with ⟨report, fixed, untitled⟩
      left
      rw [fixYear?, after, fixed]
      simp [Except.map, untitled]
    · rcases fix_of_reported searched clean with ⟨report, title, fixed, titled⟩
      right
      refine ⟨current, found, ?_, searched, ?_⟩
      · simp [fixYear?, fixed, Except.map, titled]
      · simp [after, fixed, Except.map]

/-! ## Steps from a header that the template has written -/

/-- What a session needs to find its own header again. -/
structure Settled (session : Session) (kept : List Kept) (below : Text)
    (written : CurrentYear) : Prop where
  alternating : Segment.alternates session.template.segments = true
  closes : session.template.closesRanges = true
  ends : session.template.endsLine = true
  rewritable : session.template.Rewritable kept
  text : session.text = session.template.render written kept ++ below

/-- A step from a header that the template has written leaves it, or writes it for another year. -/
theorem Settled.exists_after
    {kept : List Kept} {below : Text} {written : CurrentYear}
    (settled : session.Settled kept below written)
    (step : Step) :
    ∃ year? next, session.fixYear? step = .ok year? ∧ session.after step = .ok next ∧
      next.template = session.template ∧ next.Settled kept below (year?.getD written) := by
  rcases session.exists_after step with
    ⟨unfixed, unmoved⟩ | ⟨current, found, fixed, searched, moved⟩
  · exact ⟨none, session, unfixed, unmoved, rfl, settled⟩
  · have foundAgain := Template.match?_render settled.alternating settled.closes settled.ends
      settled.rewritable current written below
    rw [← settled.text, searched] at foundAgain
    cases foundAgain
    have same : session.template.carried current
        (some (session.template.rereading current written kept)) = kept :=
      Template.kept_rereading settled.rewritable current written
    have rest : session.text.without
        (some (session.template.rereading current written kept)) = below := by
      rw [settled.text]
      simp [Text.without, Match.stop, Template.rereading]
    rw [renewed, same, rest] at moved
    exact ⟨some current, _, fixed, moved, rfl, settled.alternating, settled.closes, settled.ends,
      settled.rewritable, rfl⟩

/-- Any steps from a header that the template has written end with that header, written for the year
of the last fix. -/
theorem Settled.exists_run
    {kept : List Kept} {below : Text} {written : CurrentYear}
    (settled : session.Settled kept below written)
    (steps : List Step) :
    ∃ years final, session.fixYears steps = .ok years ∧ session.run steps = .ok final ∧
      final.template = session.template ∧
        final.Settled kept below (years.getLast?.getD written) := by
  induction steps generalizing session written with
  | nil => exact ⟨[], session, rfl, rfl, rfl, settled⟩
  | cons step steps ih =>
    rcases settled.exists_after step with ⟨year?, next, fixes, moves, same, settledNext⟩
    rcases ih settledNext with ⟨years, final, others, runs, sameFinal, settledFinal⟩
    refine ⟨_, final, fixYears_cons fixes moves others, ?_, sameFinal.trans same, ?_⟩
    · rw [run_cons, moves]
      exact runs
    · cases year? with
      | none => exact settledFinal
      | some current =>
        rw [Option.toList_some, List.singleton_append, List.getLast?_cons]
        exact settledFinal

/-! ## Any steps -/

/-- No step of a session ever fails. -/
theorem exists_run (session : Session) (steps : List Step) :
    ∃ years final, session.fixYears steps = .ok years ∧ session.run steps = .ok final := by
  induction steps generalizing session with
  | nil => exact ⟨[], session, rfl, rfl⟩
  | cons step steps ih =>
    have moves : ∃ year? next,
        session.fixYear? step = .ok year? ∧ session.after step = .ok next := by
      rcases session.exists_after step with ⟨unfixed, unmoved⟩ | ⟨current, found, fixed, -, moved⟩
      · exact ⟨_, _, unfixed, unmoved⟩
      · exact ⟨_, _, fixed, moved⟩
    rcases moves with ⟨year?, next, fixes, moves⟩
    rcases ih next with ⟨years, final, others, runs⟩
    refine ⟨_, final, fixYears_cons fixes moves others, ?_⟩
    rw [run_cons, moves]
    exact runs

/-- The text of a session is safe.  As long as no step has produced a fix, the text is the one that
the session began with.  From the first fix on, whatever steps follow, it is the header above the
text without the header that was found at first; the header is written from the start years found at
first, or from the year of the first fix where no header was found, and for the year of the last
fix. -/
theorem run_keeps
    {source : Text} {session : Session}
    (parsed : Template.parse source = .ok session.template)
    (closes : session.template.closesRanges = true)
    (ends : session.template.endsLine = true)
    (steps : List Step) :
    ∃ years final,
      session.fixYears steps = .ok years ∧
      session.run steps = .ok final ∧
      (years = [] → final = session) ∧
      ∀ first others, years = first :: others →
        ∃ found,
          session.template.match? first session.text = .ok found ∧
          ((∀ earlier ∈ found, ∀ start ∈ earlier.startYears, 1000 ≤ start) →
            final.template = session.template ∧
            final.text =
              session.template.render (others.getLast?.getD first)
                  (session.template.carried first found) ++
                session.text.without found) := by
  have alternating := Template.alternates_of_parse parsed
  induction steps with
  | nil => exact ⟨[], session, rfl, rfl, fun _ => rfl, by simp⟩
  | cons step steps ih =>
    rcases session.exists_after step with
      ⟨unfixed, unmoved⟩ | ⟨current, found, fixed, searched, moved⟩
    · rcases ih with ⟨years, final, fixes, runs, unchanged, rewritten⟩
      refine ⟨years, final, fixYears_cons unfixed unmoved fixes, ?_, unchanged, rewritten⟩
      rw [run_cons, unmoved]
      exact runs
    · rcases exists_run (session.renewed current found) steps with ⟨years, final, fixes, runs⟩
      refine ⟨current :: years, final, fixYears_cons fixed moved fixes, ?_, by simp, ?_⟩
      · rw [run_cons, moved]
        exact runs
      · rintro first others ⟨⟩
        refine ⟨found, searched, fun fourDigits => ?_⟩
        have rewritable := Template.rewritable_carried alternating searched fourDigits
        have settled : (session.renewed current found).Settled
            (session.template.carried current found) (session.text.without found) current :=
          ⟨alternating, closes, ends, rewritable, rfl⟩
        rcases settled.exists_run steps with ⟨_, _, sameYears, sameFinal, same, settledFinal⟩
        cases fixes.symm.trans sameYears
        cases runs.symm.trans sameFinal
        have text := settledFinal.text
        rw [same] at text
        exact ⟨same, text⟩

/-- A session with the sample. -/
def sample : Session := ⟨Template.sample, Template.sampleText⟩

/-- Steps in which the year goes backwards and forwards again. -/
def sampleSteps : List Step :=
  [.check Template.sampleYear, .fix Template.sampleYear,
    .fix ⟨2018, by decide, by decide⟩, .check ⟨2018, by decide, by decide⟩,
    .fix ⟨2026, by decide, by decide⟩]

theorem run_keeps_sample :
    ∃ final, sample.run sampleSteps = .ok final ∧
      final.text =
        ['#', ' ', '2', '0', '1', '9', '–', '2', '0', '2', '6', ' ', 'A', '\n', 'x'] := by
  have parsed : Template.parse "# \x7bYearRange\x7d A\n".toList = .ok sample.template := by
    decide +kernel
  have fixes : sample.fixYears sampleSteps =
      .ok [⟨2024, by decide, by decide⟩, ⟨2018, by decide, by decide⟩,
        ⟨2026, by decide, by decide⟩] := by
    decide +kernel
  have years : (sample.template.match? ⟨2024, by decide, by decide⟩ sample.text).map
      (·.map Match.startYears) = .ok (some [2019]) := by
    decide +kernel
  have written : (sample.template.match? ⟨2024, by decide, by decide⟩ sample.text).map (fun found =>
      sample.template.render ⟨2026, by decide, by decide⟩
          (sample.template.carried ⟨2024, by decide, by decide⟩ found) ++
        sample.text.without found) =
      .ok ['#', ' ', '2', '0', '1', '9', '–', '2', '0', '2', '6', ' ', 'A', '\n', 'x'] := by
    decide +kernel
  rcases run_keeps parsed (by decide) (by decide) sampleSteps with
    ⟨_, final, fixed, runs, -, rewritten⟩
  cases fixed.symm.trans fixes
  rcases rewritten _ _ rfl with ⟨found, searched, kept⟩
  rw [searched] at years written
  refine ⟨final, runs, (kept ?_).2.trans (Except.ok.inj written)⟩
  rintro earlier ⟨⟩ start member
  have starts : earlier.startYears = [2019] := by simpa [Except.map] using years
  rw [starts, List.mem_singleton] at member
  omega

end Session

end Masthead
