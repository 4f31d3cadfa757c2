import Masthead.Proofs.Fix

/-!
# A header below something else

What stands above a header does not change how it is read.  If nothing that begins above can be read
as a header, the search goes on to where the header begins, and from there everything is as if
nothing stood above, except for the positions.  So a header at the top that gets something above it
is reported as displaced, and else as before.
-/

namespace Masthead

namespace Found

/-- What is found when some characters are put above a text. -/
def after (skipped : Nat) (found : Found) : Found := ⟨skipped + found.start, found.pieces⟩

variable {patterns : List Pattern}

/-- The search counts from where it begins. -/
theorem searchFrom_add (skipped more : Nat) (text : Text) :
    searchFrom patterns (skipped + more) text =
      (searchFrom patterns more text).map (after skipped) := by
  induction text generalizing more with
  | nil =>
    rw [searchFrom, searchFrom, Option.map_map]
    rfl
  | cons c rest ih =>
    rw [searchFrom, searchFrom]
    split
    · rfl
    · exact ih (more + 1)

/-- The search passes over characters from which nothing is read. -/
theorem searchFrom_append
    {above text : Text}
    (unread : ∀ before after, above = before ++ after → after ≠ [] →
      Piece.readFront patterns (after ++ text) = none)
    (skipped : Nat) :
    searchFrom patterns skipped (above ++ text) =
      searchFrom patterns (skipped + above.length) text := by
  induction above generalizing skipped with
  | nil => rfl
  | cons c above ih =>
    have here := unread [] (c :: above) rfl (List.cons_ne_nil c above)
    rw [List.cons_append] at here ⊢
    rw [searchFrom, here]
    dsimp only
    rw [ih fun before after place => unread (c :: before) after (by rw [place, List.cons_append]),
      List.length_cons, Nat.add_assoc, Nat.add_comm 1]

/-- The correction does not depend on where the header begins. -/
theorem correct_after
    (segments : List Segment) (patterns : List Pattern) (skipped : Nat) (found : Found) :
    correct segments patterns (found.after skipped) =
      (correct segments patterns found).after skipped := by
  have pieces : ∀ other : Found, (other.after skipped).pieces = other.pieces := fun _ => rfl
  have cut : ∀ last length,
      (found.after skipped).cutLast last length = (found.cutLast last length).after skipped :=
    fun _ _ => rfl
  simp only [correct, pieces, cut]
  split
  · rw [apply_ite (after skipped), apply_ite (after skipped)]
  · rfl

end Found

/-- A header that is found below some more characters. -/
def Match.after (skipped : Nat) (found : Match) : Match :=
  { found with start := skipped + found.start }

/-- A diagnostic about what stands below some more characters. -/
def Diagnostic.after (skipped : Nat) (diagnostic : Diagnostic) : Diagnostic :=
  { diagnostic with start := skipped + diagnostic.start }

theorem Diagnostic.after_create
    (skipped start : Nat) (rule : Rule) (length : Int) (argument : Option String)
    (properties : List (String × String)) :
    (create rule start length argument properties).after skipped =
      create rule (skipped + start : Nat) length argument properties := by
  simp [create, after]

/-- A header that is displaced from the top is reported as such, and else as before. -/
theorem Analysis.diagnosticsOf_after
    {found : Match} {skipped : Nat}
    (top : found.start = 0)
    (displaced : skipped ≠ 0) :
    diagnosticsOf (found.after skipped) =
      .plain .misplacedHeader 0 skipped :: (diagnosticsOf found).map (.after skipped) := by
  have below : (found.after skipped).start = skipped := by simp [Match.after, top]
  have inexact :
      (if found.isInexact then [Diagnostic.plain .incorrectHeader skipped found.length] else []) =
        (if found.isInexact then [.plain .incorrectHeader found.start found.length] else []).map
          (.after skipped) := by
    cases found.isInexact with
    | false => rfl
    | true =>
      simp only [if_true, List.map_cons, List.map_nil, Diagnostic.plain, Diagnostic.after_create,
        top, Nat.add_zero]
  have saying : ∀ rule message, .saying rule skipped found.length message =
      (Diagnostic.saying rule found.start found.length message).after skipped := by
    intro rule message
    simp only [Diagnostic.saying, Diagnostic.after_create, top, Nat.add_zero]
  rw [diagnosticsOf, diagnosticsOf, if_pos top, if_neg (by rwa [below]), below]
  simp only [List.nil_append, List.map_append, List.map_map, Function.comp_def, ← saying,
    ← inexact]
  rfl

namespace Template

variable {template : Template} {above text : Text}

/-- From a place where no header begins nothing is read. -/
theorem readFront_eq_none_of_not_standsAt
    {before after : Text}
    (nowhere : ∀ length, ¬ template.StandsAt (before ++ after) before.length length) :
    Piece.readFront template.patterns after = none := by
  rw [← Option.not_isSome_iff_eq_none, patterns, Piece.readFront_isSome_iff]
  rintro ⟨header, rest, rfl, spelled⟩
  exact nowhere header.length ⟨before, header, rest, rfl, rfl, rfl, spelled⟩

theorem find?_append
    (unread : ∀ start length, start < above.length →
      ¬ template.StandsAt (above ++ text) start length) :
    template.find? (above ++ text) = (template.find? text).map (.after above.length) := by
  have passed : ∀ before after, above = before ++ after → after ≠ [] →
      Piece.readFront template.patterns (after ++ text) = none := by
    rintro before after rfl occupied
    have sooner : before.length < (before ++ after).length := by
      have := List.length_pos_iff.2 occupied
      rw [List.length_append]
      omega
    have nowhere : ∀ length,
        ¬ template.StandsAt (before ++ (after ++ text)) before.length length := by
      intro length
      rw [← List.append_assoc]
      exact unread before.length length sooner
    exact readFront_eq_none_of_not_standsAt nowhere
  have started : Found.searchFrom template.patterns above.length text =
      (Found.searchFrom template.patterns 0 text).map (.after above.length) :=
    Found.searchFrom_add above.length 0 text
  rw [find?, find?, Found.searchFrom_append passed, Nat.zero_add, started, Option.map_map,
    Option.map_map]
  congr 1
  exact funext fun found => Found.correct_after _ _ _ found

/-- A header that is found in a text is found in the same way below something in which none begins,
only further down.  If it stands at the top, it is then reported as displaced, and else as before.
-/
theorem match?_append
    (unread : ∀ start length, start < above.length →
      ¬ template.StandsAt (above ++ text) start length)
    (current : CurrentYear) :
    template.match? current (above ++ text) =
        (template.match? current text).map (Option.map (.after above.length)) ∧
      ∀ found, template.match? current text = .ok (some found) → found.start = 0 → above ≠ [] →
        ∃ analysis,
          template.analyze current text = .ok analysis ∧
          template.analyze current (above ++ text) =
            .ok ⟨analysis.state,
              .plain .misplacedHeader 0 above.length ::
                analysis.diagnostics.map (.after above.length),
              some (found.after above.length)⟩ := by
  have moved : template.match? current (above ++ text) =
      (template.match? current text).map (Option.map (.after above.length)) := by
    rw [match?, match?, find?_append unread]
    cases template.find? text with
    | none => rfl
    | some found =>
      simp only [Option.map_some, Found.after]
      cases Found.interpretAll current template.segments found.pieces <;> rfl
  refine ⟨moved, ?_⟩
  intro found searched top occupied
  rw [searched] at moved
  have displaced : above.length ≠ 0 := by simpa using occupied
  refine ⟨_, analyze_of_match? searched, ?_⟩
  rw [analyze_of_match? moved, Option.map_some]
  simp only [Analysis.ofOutcome, Analysis.ofMatch, Analysis.diagnosticsOf_after top displaced]
  rfl

/-- A line for the shell above a header that is out of date. -/
theorem match?_append_sample :
    ∃ found analysis,
      sample.match? sampleYear "# 2019-2020 A\n".toList = .ok (some found) ∧
      sample.match? sampleYear ("#!/bin/sh\n".toList ++ "# 2019-2020 A\n".toList) =
        .ok (some (found.after 10)) ∧
      sample.analyze sampleYear "# 2019-2020 A\n".toList = .ok analysis ∧
      analysis.diagnostics.length = 2 ∧
      sample.analyze sampleYear ("#!/bin/sh\n".toList ++ "# 2019-2020 A\n".toList) =
        .ok ⟨analysis.state,
          .plain .misplacedHeader 0 10 :: analysis.diagnostics.map (.after 10),
          some (found.after 10)⟩ := by
  have present : (sample.find? ("#!/bin/sh\n".toList ++ "# 2019-2020 A\n".toList)).map
      (·.start) = some 10 := by
    decide +kernel
  have top : (sample.match? sampleYear "# 2019-2020 A\n".toList).map (·.map (·.start)) =
      .ok (some 0) := by
    decide +kernel
  have reported : (sample.analyze sampleYear "# 2019-2020 A\n".toList).map
      (·.diagnostics.length) = .ok 2 := by
    decide +kernel
  have unread : ∀ start length, start < "#!/bin/sh\n".toList.length →
      ¬ sample.StandsAt ("#!/bin/sh\n".toList ++ "# 2019-2020 A\n".toList) start length := by
    intro start length sooner stands
    rcases Option.map_eq_some_iff.1 present with ⟨found, searched, place⟩
    have first := (find?_eq_some searched).2.1 start length stands
    rw [place] at first
    exact absurd sooner (Nat.not_lt.2 first)
  rcases match?_append unread sampleYear with ⟨moved, displaced⟩
  rcases exists_match? sample sampleYear "# 2019-2020 A\n".toList with ⟨outcome, searched, -⟩
  rw [searched] at top moved
  cases outcome with
  | none => cases top
  | some found =>
    have atTop : found.start = 0 := Option.some.inj (Except.ok.inj top)
    rcases displaced found searched atTop (by decide) with ⟨analysis, analyzed, analyzedBelow⟩
    rw [analyzed] at reported
    exact ⟨found, analysis, searched, moved, analyzed, Except.ok.inj reported, analyzedBelow⟩

end Template

end Masthead
