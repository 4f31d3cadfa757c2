import Masthead.Proofs.Segment.ReadBack
import Masthead.Proofs.Template.Regeneration

/-!
# Writing a fresh header anew

Writing a fresh header anew changes nothing if the header is read back as it was written.  The main
theorem says exactly when that is: no name is cut short and no range reads on.  Without names it is
always so.  A name at the end of a template is always cut short, since nothing has to follow it, and
so is a name that goes on after something that looks like the text after it; then the user loses a
part of the name.
-/

namespace Masthead

namespace Found

variable {segments : List Segment} {current : CurrentYear}

/-- What the meanings of some pieces keep, if each keeps what its segment does. -/
theorem map_kept_of_interpretAll
    {pieces : List Piece} {results : List SegmentResult}
    (meant : List.Forall₂
      (fun segment piece => ∀ result,
        segment.interpret current piece.text piece.text.length piece.captures = .ok result →
          result.kept = segment.keep piece.text)
      segments pieces)
    (interpreted : interpretAll current segments pieces = .ok results) :
    results.map (·.kept) =
      segments.zipWith (fun segment piece => segment.keep piece.text) pieces := by
  induction meant generalizing results with
  | nil =>
    cases interpreted
    rfl
  | cons one _ ih =>
    rcases exists_of_interpretAll_cons interpreted with ⟨result, rest, first, others, rfl⟩
    rw [List.map_cons, List.zipWith_cons_cons, one result first, ih others]

/-- The correction does not change what is kept: it cuts a text, which keeps nothing. -/
theorem zipWith_keep_correct
    {found : Found}
    (parallel : segments.length = found.pieces.length)
    (patterns : List Pattern) :
    segments.zipWith (fun segment piece => segment.keep piece.text)
        (correct segments patterns found).pieces =
      segments.zipWith (fun segment piece => segment.keep piece.text) found.pieces := by
  rcases correct_eq_or segments patterns found with
    unchanged | ⟨literal, last, atEnd, lastPiece, -, -, shorter⟩
  · rw [unchanged]
  · rcases List.getLast?_eq_some_iff.1 atEnd with ⟨others, rfl⟩
    rcases List.getLast?_eq_some_iff.1 lastPiece with ⟨init, pieces⟩
    have parallelInit : others.length = init.length := by
      simpa [pieces] using parallel
    rw [shorter, cutLast, pieces, List.dropLast_concat, List.zipWith_append parallelInit,
      List.zipWith_append parallelInit]
    rfl

/-- The meanings of a corrected header keep what the segments keep of what they read. -/
theorem map_kept_of_readFront
    {text : Text} {pieces : List Piece} {results : List SegmentResult} {start : Nat}
    (read : Piece.readFront (segments.map Segment.pattern) text = some pieces)
    (interpreted : interpretAll current segments
      (correct segments (segments.map Segment.pattern) ⟨start, pieces⟩).pieces = .ok results) :
    Segment.readKept segments text = some (results.map (·.kept)) := by
  rcases Piece.readAll_eq_some read with ⟨-, -, -, pairs⟩
  rw [List.forall₂_map_left_iff] at pairs
  have meant : List.Forall₂
      (fun segment (piece : Piece) => ∀ result,
        Segment.interpret segment current piece.text piece.text.length piece.captures = .ok result →
          result.kept = segment.keep piece.text)
      segments (Found.mk start pieces).pieces := by
    refine pairs.imp ?_
    intro segment piece reads result value
    rcases Segment.exists_interpret_of_readBy reads current with ⟨other, valueToo, drifts⟩
    cases value.symm.trans valueToo
    exact drifts.eq_keep
  have corrected := forall₂_correct (by rintro literal piece _ ⟨⟩; rfl) meant
    (segments.map Segment.pattern)
  rw [map_kept_of_interpretAll corrected interpreted, zipWith_keep_correct pairs.length_eq,
    Segment.readKept, read, Option.map_some]

end Found

namespace Segment

variable {segments : List Segment} {current : CurrentYear} {kept : List Kept}

/-! ## Few names -/

def isName : Segment → Bool
  | .name _ => true
  | _ => false

theorem not_readsOn_of_unnamed
    (unnamed : ∀ placeholder, .name placeholder ∉ segments) :
    ¬ ReadsOn current segments := by
  rintro ⟨tail, left, place, isTail, front, rest, rfl, spelled⟩
  have singles := spellsAll_single_renderAll_fresh unnamed current
  exact not_spellsAll_of_isRangeTail unnamed singles place isTail spelled

/-- Without names there is nothing to keep apart. -/
theorem keptApart_of_unnamed
    (unnamed : ∀ placeholder, .name placeholder ∉ segments)
    (current : CurrentYear) (held : Text) :
    KeptApart current held segments := by
  induction segments with
  | nil => trivial
  | cons segment segments ih =>
    have others := ih (unnamed_of_cons unnamed)
    cases segment with
    | text literal => exact others
    | year => exact others
    | yearRange => exact ⟨not_readsOn_of_unnamed (unnamed_of_cons unnamed), others⟩
    | name placeholder => exact absurd List.mem_cons_self (unnamed placeholder)

/-- A name at the end is cut short. -/
theorem not_keptApart_concat_name
    (init : List Segment) (placeholder : Placeholder) (current : CurrentYear) (held : Text) :
    ¬ KeptApart current held (init ++ [.name placeholder]) := by
  induction init generalizing held with
  | nil =>
    rintro ⟨apart, -⟩
    exact apart ⟨[], held ++ placeholder.text, rfl, by simp [placeholder.occupied], [], _, rfl, rfl⟩
  | cons segment init ih =>
    rw [List.cons_append]
    cases segment with
    | text literal => exact ih held
    | year => exact ih held
    | yearRange => exact fun apart => ih held apart.2
    | name other =>
      rw [KeptApart]
      split
      · exact ih _
      · exact fun apart => ih [] apart.2

theorem meetsName_of_unnamed
    (unnamed : ∀ placeholder, .name placeholder ∉ segments) :
    meetsName segments = false := by
  induction segments with
  | nil => rfl
  | cons segment segments ih =>
    cases segment with
    | text literal =>
      cases literal with
      | nil => exact ih (unnamed_of_cons unnamed)
      | cons c literal => rfl
    | year => rfl
    | yearRange => rfl
    | name placeholder => exact absurd List.mem_cons_self (unnamed placeholder)

/-- Texts and years write the same whatever is kept. -/
theorem renderAll_of_keeps
    (keeps : List.Forall₂ Keeps segments kept)
    (unnamed : ∀ placeholder, .name placeholder ∉ segments)
    (rangeless : .yearRange ∉ segments) :
    renderAll current segments kept = renderAll current segments [] := by
  induction keeps with
  | nil => rfl
  | @cons segment one segments kept first _ ih =>
    rw [List.mem_cons, not_or] at rangeless
    have others := ih (unnamed_of_cons unnamed) rangeless.2
    rw [renderAll_cons_fresh, renderAll, List.head?_cons, List.tail_cons, others]
    cases segment with
    | text literal => rfl
    | year => rfl
    | yearRange => exact absurd rfl rangeless.1
    | name placeholder => exact absurd List.mem_cons_self (unnamed placeholder)

/-- Texts, years and one name write the same as afresh only if the name is kept. -/
theorem eq_readBack_of_renderAll_eq
    (keeps : List.Forall₂ Keeps segments kept)
    (single : segments.countP isName ≤ 1)
    (rangeless : .yearRange ∉ segments)
    (same : renderAll current segments kept = renderAll current segments []) :
    kept = readBack current [] segments := by
  induction keeps with
  | nil => rfl
  | @cons segment one segments kept first others ih =>
    rw [List.mem_cons, not_or] at rangeless
    rw [renderAll_cons_fresh, renderAll, List.head?_cons, List.tail_cons, Option.getD_some] at same
    cases segment with
    | text literal =>
      have singleRest : segments.countP isName ≤ 1 := by simpa [isName] using single
      rw [readBack, ← ih singleRest rangeless.2 (List.append_cancel_left same), first]
    | year =>
      have singleRest : segments.countP isName ≤ 1 := by simpa [isName] using single
      rw [readBack, ← ih singleRest rangeless.2 (List.append_cancel_left same), first]
    | yearRange => exact absurd rfl rangeless.1
    | name placeholder =>
      rcases first with ⟨trimmed, rfl⟩
      have none : segments.countP isName = 0 := by
        rw [List.countP_cons_of_pos rfl] at single
        omega
      have unnamed : ∀ placeholder, .name placeholder ∉ segments := fun other member =>
        List.countP_eq_zero.1 none _ member rfl
      have written : renderAll current segments kept = renderAll current segments [] :=
        renderAll_of_keeps others unnamed rangeless.2
      rw [written] at same
      have sameName : trimmed = placeholder.text := List.append_cancel_right same
      have sameRest := ih (by omega) rangeless.2 written
      rw [readBack, meetsName_of_unnamed unnamed, ← sameRest, sameName]
      rfl

end Segment

namespace Template

variable {template : Template} {current : CurrentYear} {text : Text} {kept : List Kept}

/-- What a header keeps is kept from where it begins. -/
theorem readKept_of_match?
    {found : Match}
    (searched : template.match? current text = .ok (some found)) :
    ∃ above below, text = above ++ below ∧ above.length = found.start ∧
      Segment.readKept template.segments below = some found.kept := by
  rcases exists_find?_of_match? searched with ⟨pieces, present, -, interpreted⟩
  rw [find?, Option.map_eq_some_iff] at present
  rcases present with ⟨whole, place, corrected⟩
  rcases Found.searchFrom_eq_some place with ⟨above, below, rfl, start, read, -⟩
  have sameStart := (Found.exists_joined_correct template.segments template.patterns whole).1
  rw [corrected, start, Nat.zero_add] at sameStart
  refine ⟨above, below, rfl, sameStart.symm, ?_⟩
  apply @Found.map_kept_of_readFront _ current below whole.pieces found.results whole.start read
  rw [← interpreted]
  exact congrArg (fun found : Found => Found.interpretAll current template.segments found.pieces)
    corrected

/-- A header is found at the top and keeps something exactly if that is kept from the front of the
text. -/
theorem match?_top_iff :
    (∃ found, template.match? current text = .ok (some found) ∧ found.start = 0 ∧
        found.kept = kept) ↔
      Segment.readKept template.segments text = some kept := by
  constructor
  · rintro ⟨found, searched, top, rfl⟩
    rcases readKept_of_match? searched with ⟨above, below, rfl, start, read⟩
    rw [top, List.length_eq_zero_iff] at start
    rwa [start]
  · intro read
    rcases Option.map_eq_some_iff.1 read with ⟨pieces, readFront, -⟩
    have present : template.find? text =
        some (Found.correct template.segments template.patterns ⟨0, pieces⟩) := by
      rw [find?]
      simp only [patterns, Found.searchFrom_of_readFront readFront, Option.map_some]
    rcases (find?_eq_some present).2.2 current with ⟨results, interpreted, -⟩
    have start := (Found.exists_joined_correct template.segments template.patterns ⟨0, pieces⟩).1
    refine ⟨_, match?_of_find? present interpreted, start, ?_⟩
    have own := Found.map_kept_of_readFront readFront interpreted
    exact Option.some.inj (own.symm.trans read)

/-- What the segments of a fresh header keep if it is read back as it was written. -/
def readBack (template : Template) (current : CurrentYear) : List Kept :=
  Segment.readBack current [] template.segments

/-- The segments of a template can be told apart in what it writes afresh: its names stand on one
line, no name is cut short, and no range reads on. -/
def KeepsApart (template : Template) (current : CurrentYear) : Prop :=
  Segment.NamesInLine template.segments ∧ Segment.KeptApart current [] template.segments

theorem readKept_renderFresh_iff :
    Segment.readKept template.segments (template.renderFresh current) =
        some (template.readBack current) ↔
      template.KeepsApart current := by
  have apart : Segment.NamesInLine template.segments →
      (Segment.readKept template.segments (template.renderFresh current) =
          some (template.readBack current) ↔
        Segment.KeptApart current [] template.segments) := fun inLine =>
    @Segment.run_readKept_eq_readBack_iff template.segments current [] [] [] inLine List.not_mem_nil
      (by simp) (Segment.waits_nil _) rfl
  constructor
  · intro read
    have inLine := (Segment.namesInLine_of_readKept read).1
    exact ⟨inLine, (apart inLine).1 read⟩
  · rintro ⟨inLine, kept⟩
    exact (apart inLine).2 kept

theorem render_readBack (template : Template) (current : CurrentYear) :
    template.render current (template.readBack current) = template.renderFresh current :=
  Segment.renderAll_readBack (Segment.waits_nil _)

/-- If a fresh header with one name and no range is the same when it is written anew, it is read
back as it was written. -/
theorem keepsApart_of_evaluate
    {span : Nat × Nat}
    (single : template.segments.countP Segment.isName ≤ 1)
    (rangeless : .yearRange ∉ template.segments)
    (evaluated : template.evaluate current (some (template.renderFresh current)) =
      .ok ⟨template.renderFresh current, some span⟩) :
    template.KeepsApart current := by
  rcases exists_match? template current (template.renderFresh current) with
    ⟨outcome, searched, meaning⟩
  rw [evaluate_of_match? searched] at evaluated
  cases outcome with
  | none => simp at evaluated
  | some found =>
    rcases meaning with ⟨-, leftmost, keeps⟩
    simp only [Except.ok.injEq, Evaluation.mk.injEq] at evaluated
    have kept : found.kept = template.readBack current :=
      Segment.eq_readBack_of_renderAll_eq keeps single rangeless evaluated.1
    rcases readKept_of_match? searched with ⟨above, below, place, start, read⟩
    rw [kept] at read
    have inLine := (Segment.namesInLine_of_readKept read).1
    have spelled := Segment.spellsAll_renderAll_held current inLine List.not_mem_nil
      (Segment.waits_nil _)
    have top := leftmost 0 _ ⟨[], template.renderFresh current, [], by simp, rfl, rfl, spelled⟩
    rw [← start, Nat.le_zero, List.length_eq_zero_iff] at top
    rw [← readKept_renderFresh_iff, place, top]
    exact read

/-- A fresh header is read back as it was written exactly if its segments can be told apart, and
then writing it anew changes nothing, as where no header is found in it at all.  Segments without
names can always be told apart, those that end in a name never.  With one name and no range, a
header that is found and is the same when it is written anew has segments that can be told apart. -/
theorem evaluate_renderFresh (template : Template) (current : CurrentYear) :
    (template.KeepsApart current ↔
      ∃ found,
        template.match? current (template.renderFresh current) = .ok (some found) ∧
        found.start = 0 ∧
        found.kept = template.readBack current) ∧
    (template.KeepsApart current →
      ∃ length, template.evaluate current (some (template.renderFresh current)) =
        .ok ⟨template.renderFresh current, some (0, length)⟩) ∧
    ((∀ start length, ¬ template.StandsAt (template.renderFresh current) start length) →
      template.evaluate current (some (template.renderFresh current)) =
        .ok ⟨template.renderFresh current, none⟩) ∧
    ((∀ placeholder, .name placeholder ∉ template.segments) → template.KeepsApart current) ∧
    (∀ placeholder, template.segments.getLast? = some (.name placeholder) →
      ¬ template.KeepsApart current) ∧
    (template.segments.countP Segment.isName ≤ 1 → .yearRange ∉ template.segments →
      ∀ span, template.evaluate current (some (template.renderFresh current)) =
        .ok ⟨template.renderFresh current, some span⟩ → template.KeepsApart current) := by
  have exact_iff : template.KeepsApart current ↔
      ∃ found,
        template.match? current (template.renderFresh current) = .ok (some found) ∧
        found.start = 0 ∧
        found.kept = template.readBack current :=
    readKept_renderFresh_iff.symm.trans match?_top_iff.symm
  refine ⟨exact_iff, ?_, ?_, ?_, ?_, ?_⟩
  · intro apart
    rcases exact_iff.1 apart with ⟨found, searched, top, kept⟩
    refine ⟨found.length, ?_⟩
    rw [evaluate_of_match? searched, carried, kept, render_readBack, Option.map_some, top]
  · intro nowhere
    rcases exists_match? template current (template.renderFresh current) with
      ⟨outcome, searched, meaning⟩
    cases outcome with
    | none =>
      rw [evaluate_of_match? searched, carried, render, Segment.renderAll_initial]
      rfl
    | some found => exact absurd meaning.1 (nowhere found.start found.length)
  · intro unnamed
    have inLine : Segment.NamesInLine template.segments := fun placeholder member =>
      absurd member (unnamed placeholder)
    exact ⟨inLine, Segment.keptApart_of_unnamed unnamed current []⟩
  · rintro placeholder last ⟨-, apart⟩
    rcases List.getLast?_eq_some_iff.1 last with ⟨init, shape⟩
    rw [shape] at apart
    exact Segment.not_keptApart_concat_name init placeholder current [] apart
  · exact fun single rangeless span => keepsApart_of_evaluate single rangeless

/-- A name with a text before it and one after it. -/
def janeSample : Template where
  segments := [.text "// By ".toList, .name ⟨"Jane".toList, by decide, by decide⟩, .text ['\n']]
  occupied := by simp

theorem evaluate_renderFresh_sample :
    janeSample.renderFresh sampleYear = "// By Jane\n".toList ∧
      janeSample.KeepsApart sampleYear ∧
      ∃ length, janeSample.evaluate sampleYear (some "// By Jane\n".toList) =
        .ok ⟨"// By Jane\n".toList, some (0, length)⟩ := by
  have fresh : janeSample.renderFresh sampleYear = "// By Jane\n".toList := by
    decide +kernel
  have apart : janeSample.KeepsApart sampleYear := by
    apply readKept_renderFresh_iff.1
    decide +kernel
  rcases evaluate_renderFresh janeSample sampleYear with ⟨-, keeps, -⟩
  rw [fresh] at keeps
  exact ⟨fresh, apart, keeps apart⟩

/-- A name at the end, with nothing after it. -/
def byJaneSample : Template where
  segments := [.text "// By ".toList, .name ⟨"Jane".toList, by decide, by decide⟩]
  occupied := by simp

/-- A name that goes on after something that looks like the text after it. -/
def cutNameSample : Template where
  segments := [.name ⟨"a b".toList, by decide, by decide⟩, .text " b".toList]
  occupied := by simp

/-- A fresh header can lose its name, or a part of it, when it is written anew. -/
theorem evaluate_renderFresh_loses :
    byJaneSample.renderFresh sampleYear = "// By Jane".toList ∧
      byJaneSample.evaluate sampleYear (some "// By Jane".toList) =
        .ok ⟨"// By ".toList, some (0, 6)⟩ ∧
      cutNameSample.renderFresh sampleYear = "a b b".toList ∧
      cutNameSample.evaluate sampleYear (some "a b b".toList) =
        .ok ⟨"a b".toList, some (0, 3)⟩ := by
  decide +kernel

end Template

end Masthead
