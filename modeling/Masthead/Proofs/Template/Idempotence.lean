import Masthead.Proofs.Template.Regeneration

/-!
# Writing a header twice

A template with a single range may write it as one year in front of a text that looks like the end
of a range, or at the very end.  Still no other division of the header is read, since it would leave
too few digits for the rest of the template.  So a header that has been written once is found again
over its whole length, and writing it anew changes nothing.
-/

namespace Masthead

namespace Segment

variable {segments : List Segment} {kept : List Kept}

/-- Only a range keeps a start year. -/
theorem startYear?_eq_none
    {segment : Segment} {one : Kept}
    (rewritable : segment.Rewritable one)
    (other : segment ≠ .yearRange) :
    one.startYear? = none := by
  cases segment with
  | text literal =>
    cases rewritable
    rfl
  | year =>
    cases rewritable
    rfl
  | yearRange => exact absurd rfl other
  | name placeholder => cases rewritable

theorem startYears_eq_nil
    (rewritable : List.Forall₂ Rewritable segments kept)
    (rangeless : .yearRange ∉ segments) :
    kept.filterMap Kept.startYear? = [] := by
  induction rewritable with
  | nil => rfl
  | @cons segment one segments kept first _ ih =>
    rw [List.mem_cons, not_or] at rangeless
    rw [List.filterMap_cons_none (startYear?_eq_none first (Ne.symm rangeless.1)),
      ih rangeless.2]

/-- A single range is kept apart from what follows, whatever that is. -/
theorem rangesApart_of_count_le_one
    (rewritable : List.Forall₂ Rewritable segments kept)
    (single : segments.count .yearRange ≤ 1)
    (written : CurrentYear) :
    RangesApart written segments kept := by
  induction rewritable with
  | nil => trivial
  | @cons segment one segments kept first others ih =>
    have fewer : segments.count .yearRange ≤ (segment :: segments).count .yearRange :=
      (List.sublist_cons_self segment segments).count_le _
    refine ⟨fun start => Or.inr ?_, ih (fewer.trans single)⟩
    by_cases isRange : segment = .yearRange
    · rw [isRange, List.count_cons_self] at single
      have rangeless : .yearRange ∉ segments := List.count_eq_zero.1 (by omega)
      simp [startYears_eq_nil others rangeless]
    · rw [startYear?_eq_none first isRange] at start
      cases start

end Segment

namespace Template

variable {source : Text} {template : Template}

/-- The header that a template finds in a previous text, if there is such a text. -/
def earlier? (template : Template) (current : CurrentYear) :
    Option Text → Except InterpretationError (Option Match)
  | none => .ok none
  | some text => template.match? current text

/-- The header that is written carries over what the earlier one keeps, and replaces it. -/
theorem evaluate_of_earlier?
    {current : CurrentYear} {previous : Option Text} {found : Option Match}
    (searched : template.earlier? current previous = .ok found) :
    template.evaluate current previous =
      .ok ⟨template.render current (template.carried current found),
        found.map fun earlier => (earlier.start, earlier.length)⟩ := by
  cases previous with
  | none =>
    cases searched
    rw [carried, render, Segment.renderAll_initial]
    rfl
  | some text => exact evaluate_of_match? searched

theorem exists_earlier?
    (template : Template)
    (current : CurrentYear)
    (previous : Option Text) :
    ∃ found, template.earlier? current previous = .ok found := by
  cases previous with
  | none => exact ⟨none, rfl⟩
  | some text =>
    rcases exists_match? template current text with ⟨found, searched, -⟩
    exact ⟨found, searched⟩

theorem rewritable_carried_earlier
    {current : CurrentYear} {previous : Option Text} {found : Option Match}
    (alternating : Segment.alternates template.segments = true)
    (searched : template.earlier? current previous = .ok found)
    (fourDigits : ∀ earlier ∈ found, ∀ start ∈ earlier.startYears, 1000 ≤ start) :
    template.Rewritable (template.carried current found) := by
  cases previous with
  | none =>
    cases searched
    exact rewritable_initial alternating current
  | some text => exact rewritable_carried alternating searched fourDigits

/-- Writing a header is idempotent for a template with at most one range.  If the earlier header
starts in a year of four digits, or there is none, then the new header is found again at the top and
over its whole length, exact and up to date.  It keeps the same start year, or the current one if
there was none, and when it is written anew it replaces itself. -/
theorem evaluate_idempotent
    (parsed : parse source = .ok template)
    (single : template.segments.count .yearRange ≤ 1)
    (current : CurrentYear)
    (previous : Option Text) :
    ∃ found header,
      template.earlier? current previous = .ok found ∧
      template.evaluate current previous = .ok header ∧
      ((∀ earlier ∈ found, ∀ start ∈ earlier.startYears, 1000 ≤ start) →
        ∃ again,
          template.match? current header.text = .ok (some again) ∧
          again.start = 0 ∧
          again.length = header.text.length ∧
          again.isInexact = false ∧
          again.notices = [] ∧
          again.kept = template.carried current found ∧
          template.evaluate current (some header.text) =
            .ok ⟨header.text, some (0, header.text.length)⟩) := by
  have alternating := alternates_of_parse parsed
  rcases exists_earlier? template current previous with ⟨found, searched⟩
  refine ⟨found, _, searched, evaluate_of_earlier? searched, ?_⟩
  intro fourDigits
  have rewritable := rewritable_carried_earlier alternating searched fourDigits
  have apart : template.RangesApart current (template.carried current found) :=
    Segment.rangesApart_of_count_le_one rewritable single current
  have searchedAgain := match?_render_alone alternating apart rewritable current
  have kept := kept_rereading rewritable current current
  refine ⟨_, searchedAgain, rfl, rfl, isInexact_rereading current current,
    notices_rereading current, kept, ?_⟩
  rw [evaluate_of_match? searchedAgain, carried, kept]
  rfl

/-- A template whose range is followed by a dash and four digits. -/
def continuedSample : Template where
  segments := [.yearRange, .text ['–', '2', '0', '3', '0', '\n']]
  occupied := by simp

theorem evaluate_idempotent_sample :
    ∃ found header again,
      parse "\x7bYearRange\x7d–2030".toList = .ok continuedSample ∧
      continuedSample.match? sampleYear "2024-2023–2030\n".toList = .ok (some found) ∧
      continuedSample.evaluate sampleYear (some "2024-2023–2030\n".toList) = .ok header ∧
      header.text = "2024–2030\n".toList ∧
      continuedSample.match? sampleYear header.text = .ok (some again) ∧
      again.kept = found.kept := by
  have parsed : parse "\x7bYearRange\x7d–2030".toList = .ok continuedSample := by
    decide +kernel
  have years : (continuedSample.match? sampleYear "2024-2023–2030\n".toList).map
      (·.map Match.startYears) = .ok (some [2024]) := by
    decide +kernel
  have text : (continuedSample.evaluate sampleYear (some "2024-2023–2030\n".toList)).map
      Evaluation.text = .ok "2024–2030\n".toList := by
    decide +kernel
  rcases evaluate_idempotent parsed (by decide) sampleYear (some "2024-2023–2030\n".toList) with
    ⟨found, header, searched, evaluated, clean⟩
  rw [earlier?] at searched
  rw [searched] at years
  rw [evaluated] at text
  cases found with
  | none => cases years
  | some earlier =>
    have start : earlier.startYears = [2024] := Option.some.inj (Except.ok.inj years)
    rcases clean (by simp [start]) with ⟨again, searchedAgain, -, -, -, -, kept, -⟩
    exact ⟨earlier, header, again, parsed, searched, evaluated, Except.ok.inj text, searchedAgain,
      kept⟩

end Template

end Masthead
