import Mathlib.Data.List.Forall2
import Masthead.Proofs.Segment.Drift
import Masthead.Proofs.Text.Numeral
import Masthead.Template.Match

/-!
# Searching for a header

The search of a template is compared with the language of its segments, which knows no order of
trying.  Reading the front of a text succeeds exactly when some text of the language stands there,
and what is read is cut into pieces that the segments read one by one.  The search takes the first
place where this succeeds, the correction of a last literal stays within the language, and every
piece has a meaning.

The main theorem says that a header is reported exactly when some part of the text belongs to the
language, that it is reported at the leftmost such place, and that the reported part belongs to the
language itself.
-/

namespace Masthead

namespace Piece

/-- A piece is a text that a pattern reads, with what the pattern captures from it. -/
def ReadBy (pattern : Pattern) (piece : Piece) : Prop :=
  pattern.Reads piece.text piece.captures

@[simp]
theorem joined_nil : joined [] = [] := rfl

@[simp]
theorem joined_cons (piece : Piece) (pieces : List Piece) :
    joined (piece :: pieces) = piece.text ++ joined pieces := by
  simp [joined]

theorem joined_append (first second : List Piece) :
    joined (first ++ second) = joined first ++ joined second := by
  simp [joined]

variable {stop : Text → Bool}

/-- What is read stands at the front, piece by piece, before a rest that is accepted. -/
theorem readAll_eq_some
    {patterns : List Pattern} {text : Text} {pieces : List Piece}
    (h : readAll stop patterns text = some pieces) :
    ∃ rest, text = joined pieces ++ rest ∧ stop rest = true ∧
      List.Forall₂ ReadBy patterns pieces := by
  induction patterns generalizing text pieces with
  | nil =>
    rw [readAll] at h
    split at h
    · rename_i accepted
      cases h
      exact ⟨text, rfl, accepted, .nil⟩
    · simp at h
  | cons pattern others ih =>
    rw [readAll] at h
    rcases Pattern.exists_reads_of_run h with ⟨front, captures, rest, rfl, reads, taken⟩
    rcases Option.map_eq_some_iff.1 taken with ⟨pieces, further, rfl⟩
    rcases ih further with ⟨left, rfl, accepted, pairs⟩
    refine ⟨left, by simp, accepted, .cons ?_ pairs⟩
    simpa [ReadBy] using reads

/-- The last of some patterns reads what the others leave. -/
theorem exists_of_readAll_concat
    {patterns : List Pattern} {last : Pattern} {text : Text} {pieces : List Piece}
    (h : readAll stop (patterns ++ [last]) text = some pieces) :
    ∃ init piece middle, pieces = init ++ [piece] ∧ text = joined init ++ middle ∧
      List.Forall₂ ReadBy patterns init ∧ readAll stop [last] middle = some [piece] := by
  induction patterns generalizing text pieces with
  | nil =>
    rcases readAll_eq_some h with ⟨_, -, -, pairs⟩
    cases pairs with
    | @cons _ piece _ _ _ others =>
      cases others
      exact ⟨[], piece, text, rfl, rfl, .nil, h⟩
  | cons pattern patterns ih =>
    rw [List.cons_append, readAll] at h
    rcases Pattern.exists_reads_of_run h with ⟨front, captures, rest, rfl, reads, taken⟩
    rcases Option.map_eq_some_iff.1 taken with ⟨others, further, rfl⟩
    rcases ih further with ⟨init, piece, middle, rfl, rfl, pairs, lastRead⟩
    refine ⟨_ :: init, piece, middle, rfl, by simp, .cons ?_ pairs, lastRead⟩
    simpa [ReadBy] using reads

/-- If some text of the language stands at the front before a rest that is accepted, it is read. -/
theorem readAll_isSome
    {segments : List Segment} {front rest : Text}
    (spelled : Segment.SpellsAll segments front)
    (accepted : stop rest = true) :
    (readAll stop (segments.map Segment.pattern) (front ++ rest)).isSome = true := by
  induction segments generalizing front with
  | nil =>
    cases spelled
    simp [readAll, accepted]
  | cons segment others ih =>
    rcases spelled with ⟨text, back, rfl, reads, spelledBack⟩
    rw [List.map_cons, readAll, List.append_assoc]
    apply Pattern.run_isSome (Segment.accepts_pattern_iff.2 reads)
    intro captures
    rw [Option.isSome_map]
    exact ih spelledBack

/-- Pieces that the segments read make up a text of the language. -/
theorem spellsAll_joined
    {segments : List Segment} {pieces : List Piece}
    (pairs : List.Forall₂ ReadBy (segments.map Segment.pattern) pieces) :
    Segment.SpellsAll segments (joined pieces) := by
  rw [List.forall₂_map_left_iff] at pairs
  induction pairs with
  | nil => rfl
  | @cons segment piece segments pieces reads _ ih =>
    exact ⟨piece.text, joined pieces, joined_cons piece pieces,
      Segment.accepts_pattern_iff.1 reads.accepts, ih⟩

theorem readFront_isSome_iff {segments : List Segment} {text : Text} :
    (readFront (segments.map Segment.pattern) text).isSome = true ↔
      ∃ front rest, text = front ++ rest ∧ Segment.SpellsAll segments front := by
  constructor
  · intro present
    rcases Option.isSome_iff_exists.1 present with ⟨pieces, read⟩
    rcases readAll_eq_some read with ⟨rest, rfl, -, pairs⟩
    exact ⟨joined pieces, rest, rfl, spellsAll_joined pairs⟩
  · rintro ⟨front, rest, rfl, spelled⟩
    exact readAll_isSome spelled rfl

theorem readWhole_isSome_iff {segments : List Segment} {text : Text} :
    (readWhole (segments.map Segment.pattern) text).isSome = true ↔
      Segment.SpellsAll segments text := by
  constructor
  · intro present
    rcases Option.isSome_iff_exists.1 present with ⟨pieces, read⟩
    rcases readAll_eq_some read with ⟨rest, whole, nothing, pairs⟩
    rw [List.isEmpty_iff] at nothing
    rw [whole, nothing, List.append_nil]
    exact spellsAll_joined pairs
  · intro spelled
    have read : (readAll List.isEmpty (segments.map Segment.pattern) (text ++ [])).isSome = true :=
      readAll_isSome spelled rfl
    rwa [List.append_nil] at read

end Piece

namespace Found

variable {patterns : List Pattern}

theorem searchFrom_eq_none
    {skipped : Nat} {text : Text}
    (absent : searchFrom patterns skipped text = none)
    {before after : Text}
    (place : text = before ++ after) :
    Piece.readFront patterns after = none := by
  induction text generalizing skipped before with
  | nil =>
    rcases List.append_eq_nil_iff.1 place.symm with ⟨rfl, rfl⟩
    rw [searchFrom, Option.map_eq_none_iff] at absent
    exact absent
  | cons c rest ih =>
    rw [searchFrom] at absent
    split at absent
    · simp at absent
    · rename_i unread
      cases before with
      | nil =>
        rw [← List.nil_append after, ← place]
        exact unread
      | cons d before =>
        rw [List.cons_append, List.cons.injEq] at place
        exact ih absent place.2

/-- The search takes the first place where the patterns read something. -/
theorem searchFrom_eq_some
    {skipped : Nat} {text : Text} {found : Found}
    (present : searchFrom patterns skipped text = some found) :
    ∃ before after, text = before ++ after ∧ found.start = skipped + before.length ∧
      Piece.readFront patterns after = some found.pieces ∧
        ∀ earlier later, text = earlier ++ later → earlier.length < before.length →
          Piece.readFront patterns later = none := by
  induction text generalizing skipped with
  | nil =>
    rw [searchFrom, Option.map_eq_some_iff] at present
    rcases present with ⟨pieces, read, rfl⟩
    exact ⟨[], [], rfl, rfl, read, by simp⟩
  | cons c rest ih =>
    rw [searchFrom] at present
    split at present
    · rename_i pieces read
      cases present
      exact ⟨[], c :: rest, rfl, rfl, read, by simp⟩
    · rename_i unread
      rcases ih present with ⟨before, after, rfl, start, read, first⟩
      refine ⟨c :: before, after, rfl, by rw [start, List.length_cons]; omega, read, ?_⟩
      intro earlier later place sooner
      cases earlier with
      | nil =>
        rw [← List.nil_append later, ← place]
        exact unread
      | cons d earlier =>
        rw [List.cons_append, List.cons.injEq] at place
        rw [List.length_cons, List.length_cons] at sooner
        exact first earlier later place.2 (by omega)

/-- The correction leaves a header as it is, or cuts the piece of a last literal to the length of
the literal, and then the shorter header is read as a whole. -/
theorem correct_eq_or (segments : List Segment) (patterns : List Pattern) (found : Found) :
    correct segments patterns found = found ∨
      ∃ literal last,
        segments.getLast? = some (.text literal) ∧ found.pieces.getLast? = some last ∧
          literal.length ≤ last.text.length ∧
            (Piece.readWhole patterns
              (Piece.joined (found.cutLast last literal.length).pieces)).isSome = true ∧
              correct segments patterns found = found.cutLast last literal.length := by
  rw [correct]
  split
  · rename_i literal last atEnd lastPiece
    dsimp only
    split
    · exact Or.inl rfl
    · rename_i longer
      split
      · rename_i read
        simp only [Bool.or_eq_true, decide_eq_true_eq, not_or] at longer
        exact Or.inr ⟨literal, last, atEnd, lastPiece, by omega, read, rfl⟩
      · exact Or.inl rfl
  · exact Or.inl rfl

theorem joined_cutLast
    {found : Found} {last : Piece}
    (lastPiece : found.pieces.getLast? = some last)
    (length : Nat) :
    Piece.joined found.pieces =
      Piece.joined (found.cutLast last length).pieces ++ last.text.drop length := by
  rcases List.getLast?_eq_some_iff.1 lastPiece with ⟨others, pieces⟩
  simp [cutLast, pieces, Piece.joined_append]

/-- A corrected header begins where it was found, and what is cut off follows it. -/
theorem exists_joined_correct (segments : List Segment) (patterns : List Pattern) (found : Found) :
    (correct segments patterns found).start = found.start ∧
      ∃ cut, Piece.joined found.pieces =
        Piece.joined (correct segments patterns found).pieces ++ cut := by
  rcases correct_eq_or segments patterns found with
    unchanged | ⟨literal, last, -, lastPiece, -, -, shorter⟩
  · rw [unchanged]
    exact ⟨rfl, [], by rw [List.append_nil]⟩
  · rw [shorter]
    exact ⟨rfl, last.text.drop literal.length, joined_cutLast lastPiece literal.length⟩

end Found

namespace Segment

/-- A range captures its start year, and its end year when there is one. -/
theorem captures_of_reads_yearRange
    {text : Text} {captures : List Text}
    (h : yearRangePattern.Reads text captures) :
    ∃ start tail : Text, text = start ++ tail ∧ start.IsYear ∧
      (tail = [] ∧ captures = [start] ∨
        tail.IsRangeTail ∧
          ∃ stop : Text, stop.IsYear ∧ stop <:+ tail ∧ captures = [start, stop]) := by
  rcases h with ⟨start, tail, inStart, inTail, rfl, rfl, ⟨inner, ⟨isStart, rfl⟩, rfl⟩, ending⟩
  refine ⟨start, tail, rfl, isStart, ?_⟩
  rcases ending with present | ⟨rfl, rfl⟩
  · right
    rcases present with ⟨before, _, _, _, rfl, rfl, ⟨blankBefore, rfl⟩, dashes, _, _, _, rfl, rfl,
      ⟨areDashes, rfl⟩, after, stop, _, _, rfl, rfl, ⟨blankAfter, rfl⟩, inner, ⟨isStop, rfl⟩, rfl⟩
    exact ⟨⟨before, dashes, after, stop, rfl, blankBefore, areDashes, blankAfter, isStop⟩, stop,
      isStop, ⟨before ++ dashes ++ after, by simp⟩, rfl⟩
  · exact Or.inl ⟨rfl, rfl⟩

theorem isYear_of_mem_captures
    {text : Text} {captures : List Text}
    (read : yearRangePattern.Reads text captures) :
    ∀ year ∈ captures, year.IsYear := by
  rcases captures_of_reads_yearRange read with
    ⟨start, tail, -, isStart, ⟨-, rfl⟩ | ⟨-, stop, isStop, -, rfl⟩⟩
  · simpa using isStart
  · simpa using ⟨isStart, isStop⟩

/-- What is kept from reading a segment: a start year of at most four digits from a range, a name
from a name, and nothing from the others. -/
def Keeps : Segment → Kept → Prop
  | .yearRange, kept => ∃ start : Nat, kept = .startYear start ∧ start ≤ 9999
  | .name _, kept => ∃ trimmed, kept = .name trimmed
  | _, kept => kept = .nothing

/-- Whatever a segment reads has a meaning, which keeps what the segment drifted to. -/
theorem exists_interpret_of_readBy
    {segment : Segment} {piece : Piece}
    (read : Piece.ReadBy segment.pattern piece)
    (current : CurrentYear) :
    ∃ result,
      segment.interpret current piece.text piece.text.length piece.captures = .ok result ∧
        segment.DriftsTo result.kept piece.text := by
  cases segment with
  | text literal =>
    have spelled := Token.accepts_concat_iff.1 read.accepts
    exact ⟨_, rfl, Token.spellsAll_ofLiteral_iff.1 spelled, rfl⟩
  | year =>
    rw [interpret, (readYear_of_isYear read.accepts).1]
    exact ⟨_, rfl, read.accepts, rfl⟩
  | yearRange =>
    rcases captures_of_reads_yearRange read with
      ⟨start, tail, place, isStart, ⟨nothing, captured⟩ | ⟨isTail, stop, isStop, -, captured⟩⟩
    · rw [captured, interpret, (readYear_of_isYear isStart).1]
      exact ⟨_, rfl, start, tail, place, isStart, Or.inr nothing, rfl⟩
    · rw [captured, interpret, (readYear_of_isYear isStart).1, (readYear_of_isYear isStop).1]
      exact ⟨_, rfl, start, tail, place, isStart, Or.inl isTail, rfl⟩
  | name placeholder => exact ⟨_, rfl, read.accepts, rfl⟩

theorem DriftsTo.keeps
    {segment : Segment} {kept : Kept} {found : Text}
    (drifts : segment.DriftsTo kept found) :
    segment.Keeps kept := by
  cases segment with
  | text literal => exact drifts.2
  | year => exact drifts.2
  | yearRange =>
    rcases drifts with ⟨start, tail, -, isStart, -, kept⟩
    exact ⟨_, kept, (readYear_of_isYear isStart).2⟩
  | name placeholder => exact ⟨_, drifts.2⟩

end Segment

namespace Found

/-- Pieces that all have a meaning are interpreted one by one. -/
theorem exists_interpretAll
    {current : CurrentYear} {segments : List Segment} {pieces : List Piece}
    {holds : Segment → SegmentResult → Prop}
    (meant : List.Forall₂
      (fun segment piece => ∃ result,
        segment.interpret current piece.text piece.text.length piece.captures = .ok result ∧
          holds segment result)
      segments pieces) :
    ∃ results, interpretAll current segments pieces = .ok results ∧
      List.Forall₂ holds segments results := by
  induction meant with
  | nil => exact ⟨[], rfl, .nil⟩
  | cons one _ ih =>
    rcases one with ⟨result, interpreted, fact⟩
    rcases ih with ⟨results, others, facts⟩
    refine ⟨result :: results, ?_, .cons fact facts⟩
    rw [interpretAll, interpreted, others]
    rfl

/-- The meanings of what the segments read keep what the header drifted to. -/
theorem exists_interpretAll_of_readBy
    {segments : List Segment} {pieces : List Piece}
    (pairs : List.Forall₂ Piece.ReadBy (segments.map Segment.pattern) pieces)
    (current : CurrentYear) :
    ∃ results, interpretAll current segments pieces = .ok results ∧
      Segment.DriftAllTo segments (results.map (·.kept)) (Piece.joined pieces) := by
  rw [List.forall₂_map_left_iff] at pairs
  induction pairs with
  | nil => exact ⟨[], rfl, rfl⟩
  | @cons segment piece segments pieces read _ ih =>
    rcases Segment.exists_interpret_of_readBy read current with ⟨result, interpreted, drifts⟩
    rcases ih with ⟨results, others, driftsRest⟩
    refine ⟨result :: results, ?_, piece.text, _, Piece.joined_cons piece pieces, drifts,
      driftsRest⟩
    rw [interpretAll, interpreted, others]
    rfl

theorem exists_of_interpretAll_cons
    {current : CurrentYear} {segment : Segment} {segments : List Segment} {piece : Piece}
    {pieces : List Piece} {results : List SegmentResult}
    (interpreted : interpretAll current (segment :: segments) (piece :: pieces) = .ok results) :
    ∃ result rest,
      segment.interpret current piece.text piece.text.length piece.captures = .ok result ∧
        interpretAll current segments pieces = .ok rest ∧ results = result :: rest := by
  rw [interpretAll] at interpreted
  cases first : segment.interpret current piece.text piece.text.length piece.captures with
  | error error =>
    rw [first] at interpreted
    cases interpreted
  | ok result =>
    cases others : interpretAll current segments pieces with
    | error error =>
      rw [first, others] at interpreted
      cases interpreted
    | ok rest =>
      rw [first, others] at interpreted
      cases interpreted
      exact ⟨result, rest, rfl, rfl, rfl⟩

theorem forall₂_concat
    {α β : Type} {related : α → β → Prop} {first : List α} {second : List β} {x : α} {y : β} :
    List.Forall₂ related (first ++ [x]) (second ++ [y]) ↔
      List.Forall₂ related first second ∧ related x y := by
  rw [← List.forall₂_reverse_iff]
  simp [and_comm]

/-- What holds of the pieces that were found holds of them after the correction too, if it holds of
any piece for a text. -/
theorem forall₂_correct
    {holds : Segment → Piece → Prop} {segments : List Segment} {found : Found}
    (texts : ∀ literal piece, holds (.text literal) piece)
    (pairs : List.Forall₂ holds segments found.pieces)
    (patterns : List Pattern) :
    List.Forall₂ holds segments (correct segments patterns found).pieces := by
  rcases correct_eq_or segments patterns found with
    unchanged | ⟨literal, last, atEnd, lastPiece, -, -, shorter⟩
  · rwa [unchanged]
  · rcases List.getLast?_eq_some_iff.1 atEnd with ⟨others, rfl⟩
    rcases List.getLast?_eq_some_iff.1 lastPiece with ⟨init, pieces⟩
    rw [pieces, forall₂_concat] at pairs
    rw [shorter, cutLast, pieces, List.dropLast_concat, forall₂_concat]
    exact ⟨pairs.1, texts literal _⟩

/-- Whatever the patterns of a template read has a meaning, also after the correction. -/
theorem exists_interpretAll_correct
    {segments : List Segment} {found : Found}
    (pairs : List.Forall₂ Piece.ReadBy (segments.map Segment.pattern) found.pieces)
    (patterns : List Pattern) (current : CurrentYear) :
    ∃ results,
      interpretAll current segments (correct segments patterns found).pieces = .ok results ∧
        List.Forall₂ (fun segment result => segment.Keeps result.kept) segments results := by
  apply exists_interpretAll
  rw [List.forall₂_map_left_iff] at pairs
  refine forall₂_correct (fun literal piece => ⟨_, rfl, rfl⟩) (pairs.imp ?_) patterns
  intro segment piece read
  rcases Segment.exists_interpret_of_readBy read current with ⟨result, interpreted, drifts⟩
  exact ⟨result, interpreted, drifts.keeps⟩

end Found

namespace Template

/-- A header of the template stands in a text at a place and over a length. -/
def StandsAt (template : Template) (text : Text) (start length : Nat) : Prop :=
  ∃ before header after : Text, text = before ++ (header ++ after) ∧ before.length = start ∧
    header.length = length ∧ Segment.SpellsAll template.segments header

theorem find?_eq_none
    {template : Template} {text : Text}
    (absent : template.find? text = none)
    (start length : Nat) :
    ¬ template.StandsAt text start length := by
  rintro ⟨before, header, after, place, -, -, spelled⟩
  rw [find?, Option.map_eq_none_iff] at absent
  have unread := Found.searchFrom_eq_none absent place
  have read := Piece.readFront_isSome_iff.2 ⟨header, after, rfl, spelled⟩
  rw [← patterns, unread] at read
  simp at read

/-- What is found has been read at the first place where the patterns read something, and has then
been corrected. -/
theorem exists_whole_of_find?
    {template : Template} {text : Text} {found : Found}
    (present : template.find? text = some found) :
    ∃ (whole : Found) (before below : Text),
      found = whole.correct template.segments template.patterns ∧
        List.Forall₂ Piece.ReadBy template.patterns whole.pieces ∧
          text = before ++ (Piece.joined found.pieces ++ below) ∧ before.length = found.start ∧
            ∀ earlier later, text = earlier ++ later → earlier.length < before.length →
              Piece.readFront template.patterns later = none := by
  rw [find?, Option.map_eq_some_iff] at present
  rcases present with ⟨whole, searched, rfl⟩
  rcases Found.searchFrom_eq_some searched with ⟨before, after, rfl, start, read, first⟩
  rcases Piece.readAll_eq_some read with ⟨rest, rfl, -, pairs⟩
  rcases Found.exists_joined_correct template.segments template.patterns whole with
    ⟨sameStart, cut, joined⟩
  rw [Nat.zero_add] at start
  exact ⟨whole, before, cut ++ rest, rfl, pairs, by simp [joined], by rw [sameStart, start], first⟩

/-- A header that is found stands where it is said to, no header stands before it, and its pieces
have a meaning in every year. -/
theorem find?_eq_some
    {template : Template} {text : Text} {found : Found}
    (present : template.find? text = some found) :
    template.StandsAt text found.start (Piece.joined found.pieces).length ∧
      (∀ start length, template.StandsAt text start length → found.start ≤ start) ∧
        ∀ current, ∃ results,
          Found.interpretAll current template.segments found.pieces = .ok results ∧
            List.Forall₂ (fun segment result => segment.Keeps result.kept)
              template.segments results := by
  rcases exists_whole_of_find? present with
    ⟨whole, before, below, corrected, pairs, place, start, first⟩
  refine ⟨⟨before, Piece.joined found.pieces, below, place, start, rfl, ?_⟩, ?_, ?_⟩
  · rcases Found.correct_eq_or template.segments template.patterns whole with
      unchanged | ⟨literal, last, -, -, -, readShorter, shorter⟩
    · rw [corrected, unchanged]
      exact Piece.spellsAll_joined pairs
    · rw [corrected, shorter]
      exact Piece.readWhole_isSome_iff.1 readShorter
  · rintro _ _ ⟨earlier, header, later, placeToo, rfl, -, spelled⟩
    rw [← start]
    by_contra sooner
    have unread := first earlier (header ++ later) placeToo (by omega)
    have readable := Piece.readFront_isSome_iff.2 ⟨header, later, rfl, spelled⟩
    rw [← patterns, unread] at readable
    simp at readable
  · rw [corrected]
    exact Found.exists_interpretAll_correct pairs template.patterns

/-- What was found is reported with the meanings of its pieces. -/
theorem match?_of_find?
    {template : Template} {current : CurrentYear} {text : Text} {found : Found}
    {results : List SegmentResult}
    (present : template.find? text = some found)
    (interpreted : Found.interpretAll current template.segments found.pieces = .ok results) :
    template.match? current text =
      .ok (some ⟨found.start, (Piece.joined found.pieces).length, results⟩) := by
  rw [match?, present]
  simp only [interpreted]
  rfl

/-- Looking for a header never fails; what the segments keep is parallel to the segments. -/
theorem exists_match? (template : Template) (current : CurrentYear) (text : Text) :
    ∃ outcome, template.match? current text = .ok outcome ∧
      match outcome with
      | none => ∀ start length, ¬ template.StandsAt text start length
      | some found =>
          template.StandsAt text found.start found.length ∧
            (∀ start length, template.StandsAt text start length → found.start ≤ start) ∧
              List.Forall₂ Segment.Keeps template.segments found.kept := by
  cases searched : template.find? text with
  | none =>
    refine ⟨none, ?_, find?_eq_none searched⟩
    rw [match?, searched]
  | some found =>
    rcases find?_eq_some searched with ⟨stands, first, meant⟩
    rcases meant current with ⟨results, interpreted, keeps⟩
    refine ⟨_, match?_of_find? searched interpreted, stands, first, ?_⟩
    rw [Match.kept, List.forall₂_map_right_iff]
    exact keeps

/-- A header that is reported is what was found, with the meanings of its pieces. -/
theorem exists_find?_of_match?
    {template : Template} {current : CurrentYear} {text : Text} {found : Match}
    (searched : template.match? current text = .ok (some found)) :
    ∃ pieces,
      template.find? text = some ⟨found.start, pieces⟩ ∧
        (Piece.joined pieces).length = found.length ∧
          Found.interpretAll current template.segments pieces = .ok found.results := by
  rw [match?] at searched
  split at searched
  · cases searched
  · rename_i place present
    cases meant : Found.interpretAll current template.segments place.pieces with
    | error error =>
      rw [meant] at searched
      cases searched
    | ok results =>
      rw [meant] at searched
      cases searched
      exact ⟨place.pieces, present, rfl, meant⟩

theorem keeps_of_match?
    {template : Template} {current : CurrentYear} {text : Text} {found : Match}
    (searched : template.match? current text = .ok (some found)) :
    List.Forall₂ Segment.Keeps template.segments found.kept := by
  rcases exists_match? template current text with ⟨outcome, computed, meaning⟩
  cases searched.symm.trans computed
  exact meaning.2.2

/-- A header is reported exactly when some part of the text belongs to the language of the template;
it is reported at the leftmost such place, and the reported part belongs to the language. -/
theorem match?_leftmost (template : Template) (current : CurrentYear) (text : Text) :
    ∃ outcome, template.match? current text = .ok outcome ∧
      (outcome = none ↔ ∀ start length, ¬ template.StandsAt text start length) ∧
        ∀ found, outcome = some found →
          template.StandsAt text found.start found.length ∧
            ∀ start length, template.StandsAt text start length → found.start ≤ start := by
  rcases exists_match? template current text with ⟨outcome, computed, meaning⟩
  refine ⟨outcome, computed, ?_⟩
  cases outcome with
  | none => exact ⟨⟨fun _ => meaning, fun _ => rfl⟩, fun found absent => by cases absent⟩
  | some found =>
    rcases meaning with ⟨stands, first, -⟩
    constructor
    · constructor
      · intro absent
        cases absent
      · intro nowhere
        exact absurd stands (nowhere found.start found.length)
    · rintro _ ⟨⟩
      exact ⟨stands, first⟩

end Template

end Masthead
