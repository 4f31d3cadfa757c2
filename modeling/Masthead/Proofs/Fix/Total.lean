import Masthead.Proofs.Fix
import Masthead.Proofs.Template.Captures

/-!
# Every text can be checked and fixed

Some parts of a template could fail by themselves: a range has no meaning without its start year,
and a year has none unless it is a number.  Searching a text never gets there.  Every segment is
given what its own groups captured, which has a meaning, and every outcome is used for the segment
at the same index.  So every text can be searched, analysed, written anew and fixed, whatever is
reported on it.
-/

namespace Masthead

namespace Found

/-- The meaning of a piece stands at the index of the piece and of its segment. -/
theorem exists_getElem?_of_interpretAll
    {current : CurrentYear} {segments : List Segment} {pieces : List Piece}
    {results : List SegmentResult} {index : Nat} {segment : Segment} {piece : Piece}
    (interpreted : interpretAll current segments pieces = .ok results)
    (ofSegment : segments[index]? = some segment)
    (ofPiece : pieces[index]? = some piece) :
    ∃ result, results[index]? = some result ∧
      segment.interpret current piece.text piece.text.length piece.captures = .ok result := by
  induction segments generalizing pieces results index with
  | nil => cases ofSegment
  | cons first segments ih =>
    cases pieces with
    | nil => cases ofPiece
    | cons firstPiece pieces =>
      rcases exists_of_interpretAll_cons interpreted with ⟨result, others, meant, further, rfl⟩
      cases index with
      | zero =>
        cases ofSegment
        cases ofPiece
        exact ⟨result, rfl, meant⟩
      | succ index =>
        rw [List.getElem?_cons_succ] at ofSegment ofPiece
        have later := ih further ofSegment ofPiece
        rwa [← List.getElem?_cons_succ] at later

end Found

namespace Segment

/-- Segments are written one by one from what the outcomes at the same indices keep. -/
theorem renderAll_eq_flatten_zipWith
    {current : CurrentYear} {segments : List Segment} {results : List SegmentResult}
    (parallel : results.length = segments.length) :
    renderAll current segments (results.map (·.kept)) =
      (List.zipWith (fun segment result => segment.render current result.kept)
        segments results).flatten := by
  induction segments generalizing results with
  | nil =>
    rw [renderAll, List.zipWith_nil_left]
    rfl
  | cons segment segments ih =>
    cases results with
    | nil => cases parallel
    | cons result results =>
      rw [List.zipWith_cons_cons, List.flatten_cons, ← ih (Nat.succ.inj parallel)]
      rfl

end Segment

namespace Template

variable {template : Template} {current : CurrentYear} {text : Text}

/-- The outcomes for the segments are parallel to the pieces that the segments read: each is the
meaning of the piece at its index, and keeps what the segment there is written from. -/
def Interprets (template : Template) (current : CurrentYear) (pieces : List Piece)
    (results : List SegmentResult) : Prop :=
  pieces.length = template.segments.length ∧ results.length = template.segments.length ∧
    ∀ (index : Nat) segment piece, template.segments[index]? = some segment →
      pieces[index]? = some piece →
        ∃ result, results[index]? = some result ∧
          segment.interpret current piece.text piece.text.length piece.captures = .ok result ∧
            segment.Keeps result.kept

theorem interprets_of_find?
    {found : Match} {pieces : List Piece}
    (searched : template.match? current text = .ok (some found))
    (place : template.find? text = some ⟨found.start, pieces⟩)
    (interpreted : Found.interpretAll current template.segments pieces = .ok found.results) :
    template.Interprets current pieces found.results := by
  have keeps := keeps_of_match? searched
  rw [Match.kept, List.forall₂_map_right_iff] at keeps
  rcases exists_whole_of_find? place with ⟨whole, _, _, corrected, pairs, -⟩
  have parallel :
      List.Forall₂ (fun (_ : Segment) (_ : Piece) => True) template.segments pieces := by
    rw [patterns, List.forall₂_map_left_iff] at pairs
    have kept := Found.forall₂_correct (fun _ _ => trivial)
      (pairs.imp fun _ _ _ => trivial) template.patterns
    rwa [← corrected] at kept
  refine ⟨parallel.length_eq.symm, keeps.length_eq.symm, ?_⟩
  intro index segment piece ofSegment ofPiece
  rcases Found.exists_getElem?_of_interpretAll interpreted ofSegment ofPiece with
    ⟨result, listed, meant⟩
  rcases List.getElem?_eq_some_iff.1 ofSegment with ⟨inside, rfl⟩
  rcases List.getElem?_eq_some_iff.1 listed with ⟨insideToo, rfl⟩
  exact ⟨_, listed, meant, (List.forall₂_iff_get.1 keeps).2 index inside insideToo⟩

/-- A header can be written after any text, and after none. -/
theorem exists_evaluate (template : Template) (current : CurrentYear) (previous : Option Text) :
    ∃ header, template.evaluate current previous = .ok header := by
  cases previous with
  | none => exact ⟨_, rfl⟩
  | some text =>
    rcases exists_match? template current text with ⟨outcome, searched, -⟩
    exact ⟨_, evaluate_of_match? searched⟩

theorem exists_analyze (template : Template) (current : CurrentYear) (text : Text) :
    ∃ analysis, template.analyze current text = .ok analysis := by
  rcases exists_match? template current text with ⟨outcome, searched, -⟩
  exact ⟨_, analyze_of_match? searched⟩

theorem exists_fix? (template : Template) (current : CurrentYear) (text : Text)
    (diagnostics : List Diagnostic) :
    ∃ fix, template.fix? current text diagnostics = .ok fix := by
  rw [fix?]
  split
  · exact ⟨none, rfl⟩
  · rcases exists_evaluate template current (some text) with ⟨header, written⟩
    rw [written]
    exact ⟨_, rfl⟩

/-- No text makes a template fail.  Every group that a year is looked up in has captured one, and
the search gives every segment what its own groups captured.  So a text has an outcome, whose
results stand at the indices of their segments and are used there for writing the header anew; and
so a header can be written after any text, and the text can be analysed and fixed, whatever is
reported. -/
theorem never_fails (template : Template) (current : CurrentYear) (text : Text) :
    (∀ captured ∈ template.capture? text,
      List.Forall₂ (Segment.IsSupplied captured.groups)
        template.segments template.groupNumbers) ∧
    (template.find? text = (template.capture? text).map fun captured =>
      (captured.found template.groupNumbers).correct template.segments template.patterns) ∧
    (∃ outcome, template.match? current text = .ok outcome ∧
      ∀ found ∈ outcome, ∃ pieces,
        template.find? text = some ⟨found.start, pieces⟩ ∧
        template.Interprets current pieces found.results ∧
        template.evaluate current (some text) =
          .ok ⟨(List.zipWith (fun segment result => segment.render current result.kept)
            template.segments found.results).flatten, some (found.start, found.length)⟩) ∧
    (∀ previous, ∃ header, template.evaluate current previous = .ok header) ∧
    (∃ analysis, template.analyze current text = .ok analysis) ∧
    ∀ diagnostics, ∃ fix, template.fix? current text diagnostics = .ok fix := by
  refine ⟨fun _ => forall₂_isSupplied_of_capture?, find?_eq_captured template text, ?_, ?_, ?_, ?_⟩
  · rcases exists_match? template current text with ⟨outcome, searched, -⟩
    refine ⟨outcome, searched, ?_⟩
    rintro found ⟨⟩
    rcases exists_find?_of_match? searched with ⟨pieces, place, -, interpreted⟩
    have interprets := interprets_of_find? searched place interpreted
    refine ⟨pieces, place, interprets, ?_⟩
    rw [evaluate_of_match? searched, carried, render, Match.kept,
      Segment.renderAll_eq_flatten_zipWith interprets.2.1]
    rfl
  · intro previous
    exact exists_evaluate template current previous
  · exact exists_analyze template current text
  · exact exists_fix? template current text

end Template

namespace TemplateLoad

variable {load : TemplateLoad} {template : Template} {current : CurrentYear} {text : Text}

theorem check_of_disabled (found : load.lookup = .disabled) :
    load.check current text = .ok (⟨.checkDisabled, [], none⟩, none) := by
  simp only [check, analyze, found]
  rfl

theorem check_of_problem {diagnostic : Diagnostic} (found : load.lookup = .problem diagnostic) :
    load.check current text = .ok (.ofProblem text diagnostic, none) := by
  simp only [check, analyze, found]
  rfl

/-- With a template the fix is the one for what the analysis reports; that there is none where
nothing is reported makes no difference. -/
theorem check_of_template
    {analysis : Analysis} {fix : Option Fix}
    (found : load.lookup = .template template)
    (analyzed : template.analyze current text = .ok analysis)
    (fixed : template.fix? current text analysis.diagnostics = .ok fix) :
    load.check current text = .ok (analysis, fix) := by
  simp only [check, analyze, found, analyzed]
  show (if analysis.diagnostics.isEmpty then _ else _) = _
  split
  · rename_i clean
    rw [List.isEmpty_iff.1 clean] at fixed
    cases fixed
    rfl
  · rw [fixed]
    rfl

/-- Every text can be checked against whatever was found where a template is looked for. -/
theorem exists_check (load : TemplateLoad) (current : CurrentYear) (text : Text) :
    ∃ analysis fix, load.check current text = .ok (analysis, fix) := by
  cases found : load.lookup with
  | disabled => exact ⟨_, _, check_of_disabled found⟩
  | problem diagnostic => exact ⟨_, _, check_of_problem found⟩
  | template template =>
    rcases template.exists_analyze current text with ⟨analysis, analyzed⟩
    rcases template.exists_fix? current text analysis.diagnostics with ⟨fix, fixed⟩
    exact ⟨analysis, fix, check_of_template found analyzed fixed⟩

end TemplateLoad

end Masthead
