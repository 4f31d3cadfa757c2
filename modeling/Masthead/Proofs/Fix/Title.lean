import Masthead.Proofs.Fix

/-!
# What a fix does and what it is called

Whatever was found in a text and whatever is reported on it, a fix puts the new header above the
text without the old one, and loses nothing else.  The title is computed from the diagnostics, but
it can be read off the header that was found: from the place where it stands, and from whether it
was in order.
-/

namespace Masthead

namespace Fix

variable {found : Match}

/-- Nothing but its place is reported on a header exactly when it is in order. -/
theorem all_isDisplacement_diagnosticsOf (found : Match) :
    (Analysis.diagnosticsOf found).all isDisplacement = true ↔ found.IsInOrder := by
  have onPlace : (if found.start = 0 then []
      else [Diagnostic.plain .misplacedHeader 0 found.start]).all isDisplacement = true := by
    split <;> rfl
  have onSpelling : (if found.isInexact
      then [Diagnostic.plain .incorrectHeader found.start found.length]
      else []).all isDisplacement = !found.isInexact := by
    cases found.isInexact <;> rfl
  have onFaults : (found.faults.map fun fault =>
      Diagnostic.saying .invalidHeader found.start found.length fault.message).all isDisplacement =
        found.faults.isEmpty := by
    cases found.faults <;> rfl
  have onNotices : (found.notices.map fun notice =>
      Diagnostic.saying .outdatedHeader found.start found.length notice.message).all
        isDisplacement = found.notices.isEmpty := by
    cases found.notices <;> rfl
  rw [Analysis.diagnosticsOf, List.all_append, List.all_append, List.all_append, onPlace,
    onSpelling, onFaults, onNotices]
  simp [Match.IsInOrder, and_assoc]

theorem all_isInsertOnly_diagnosticsOf (reported : Analysis.diagnosticsOf found ≠ []) :
    (Analysis.diagnosticsOf found).all (·.isInsertOnly) = false := by
  rcases List.exists_mem_of_ne_nil _ reported with ⟨diagnostic, member⟩
  rw [List.all_eq_false]
  refine ⟨diagnostic, member, ?_⟩
  rw [(Analysis.mem_diagnosticsOf member).2.1]
  exact Bool.false_ne_true

/-- The title that is computed from what is reported on a header says where the header stands and
whether it is in order. -/
theorem titleOf_diagnosticsOf (reported : Analysis.diagnosticsOf found ≠ []) :
    titleOf (Analysis.diagnosticsOf found) =
      if found.start = 0 then "Update header"
      else if found.IsInOrder then "Move below header"
      else "Update and move header" := by
  simp only [titleOf, all_isInsertOnly_diagnosticsOf reported, Bool.false_eq_true, if_false,
    all_isDisplacement_diagnosticsOf, any_isDisplacement_diagnosticsOf]
  by_cases atTop : found.start = 0
  · have disordered : ¬ found.IsInOrder := fun inOrder =>
      reported (Analysis.diagnosticsOf_eq_nil_iff.2 ⟨atTop, inOrder⟩)
    simp [atTop, disordered]
  · simp [atTop]

end Fix

namespace Template

variable {template : Template} {current : CurrentYear} {text : Text}

/-- A fix loses nothing but the old header, and its title says what it does.  There is a fix exactly
when something is reported; its text is the header that is written anew, above the text without the
header that was found.  It inserts where nothing was found and updates at the top; a header further
down is moved if it was in order, and otherwise updated and moved. -/
theorem fix?_keeps_body (template : Template) (current : CurrentYear) (text : Text) :
    ∃ found analysis outcome,
      template.match? current text = .ok found ∧
      template.analyze current text = .ok analysis ∧
      template.fix? current text analysis.diagnostics = .ok outcome ∧
      (outcome = none ↔ analysis.diagnostics = []) ∧
      (∀ earlier ∈ found, earlier.stop ≤ text.length) ∧
      ∀ fix ∈ outcome, ∃ header,
        template.evaluate current (some text) = .ok header ∧
        fix.text = header.text ++ text.without found ∧
        (fix.title = "Insert header" ↔ found = none) ∧
        (fix.title = "Move below header" ↔
          ∃ earlier ∈ found, earlier.start ≠ 0 ∧ earlier.IsInOrder) ∧
        (fix.title = "Update and move header" ↔
          ∃ earlier ∈ found, earlier.start ≠ 0 ∧ ¬ earlier.IsInOrder) ∧
        (fix.title = "Update header" ↔ ∃ earlier ∈ found, earlier.start = 0) := by
  rcases exists_match? template current text with ⟨found, searched, meaning⟩
  have analyzed := analyze_of_match? searched
  have inside : ∀ earlier ∈ found, earlier.stop ≤ text.length := by
    rintro earlier ⟨⟩
    rcases meaning.1 with ⟨above, old, below, rfl, start, length, -⟩
    rw [Match.stop, ← start, ← length, List.length_append, List.length_append]
    omega
  by_cases clean : (Analysis.ofOutcome text found).diagnostics = []
  · refine ⟨found, _, _, searched, analyzed, fix?_of_clean clean, by simp [clean], inside, ?_⟩
    rintro _ ⟨⟩
  · refine ⟨found, _, _, searched, analyzed, fix?_of_reported searched clean, by simp [clean],
      inside, ?_⟩
    rintro _ ⟨⟩
    refine ⟨_, evaluate_of_match? searched, rfl, ?_⟩
    cases found with
    | none =>
      have title : Fix.titleOf (Analysis.ofOutcome text none).diagnostics = "Insert header" := rfl
      simp [title]
    | some earlier =>
      have title := Fix.titleOf_diagnosticsOf clean
      simp only [Analysis.ofOutcome, Analysis.ofMatch, title]
      by_cases atTop : earlier.start = 0
      · simp [atTop]
      · by_cases inOrder : earlier.IsInOrder
        · simp [atTop, inOrder]
        · simp [atTop, inOrder]

end Template

end Masthead
