import Masthead.Proofs.Fix
import Masthead.Proofs.Pattern.Numbered
import Masthead.Proofs.Segment.Digits
import Masthead.Proofs.Segment.Neighbours

/-!
# What segments keep of what they have written

Segments that have been written afresh are read again, and what they keep is compared with what they
were written from.  There are two ways for it to differ.  A range reads on over what looks like the
second half of a range, and a name stops as soon as what follows it can be read.  Texts and years
are read as they were written, however texts next to each other divide their blanks.

A name that is followed by another name stops at once, so the last name of a row captures them all.
Names are therefore compared with what they capture if nothing is cut short: the last one of a row
with the whole row, the others with nothing.  The main theorem says that this is what is kept
exactly when no row of names can be cut short and no range can read on.
-/

namespace Masthead

namespace Segment

/-- What a segment keeps of the text that it reads. -/
def keep : Segment → Text → Kept
  | .yearRange, found => .startYear (decimalValue (found.take 4))
  | .name _, found => .name found.trim
  | _, _ => .nothing

theorem DriftsTo.eq_keep
    {segment : Segment} {kept : Kept} {found : Text}
    (drifts : segment.DriftsTo kept found) :
    kept = segment.keep found := by
  cases segment with
  | text literal => exact drifts.2
  | year => exact drifts.2
  | yearRange =>
    rcases drifts with ⟨start, tail, rfl, isStart, -, rfl⟩
    rw [keep, List.take_left' isStart.1]
  | name placeholder => exact drifts.2

/-- What some segments keep from the front of a text, if they can be read there. -/
def readKept (segments : List Segment) (text : Text) : Option (List Kept) :=
  (Piece.readFront (segments.map pattern) text).map
    (segments.zipWith fun segment piece => segment.keep piece.text)

/-- Something that segments may stand for stands first in a text. -/
def StandFirst (segments : List Segment) (text : Text) : Prop :=
  ∃ front rest, text = front ++ rest ∧ SpellsAll segments front

section Reading

variable {segments : List Segment} {text : Text}

theorem readKept_cons (segment : Segment) (segments : List Segment) (text : Text) :
    readKept (segment :: segments) text =
      segment.pattern.run text fun _ left =>
        (readKept segments left).map (segment.keep (Stretch.text ⟨text, left⟩) :: ·) := by
  rw [readKept, List.map_cons, Piece.readFront, Piece.readAll, Pattern.map_run]
  simp only [readKept, Piece.readFront, Option.map_map]
  rfl

theorem isSome_readKept_iff :
    (readKept segments text).isSome = true ↔ StandFirst segments text := by
  rw [readKept, Option.isSome_map, Piece.readFront_isSome_iff, StandFirst]

theorem readKept_eq_none_iff : readKept segments text = none ↔ ¬ StandFirst segments text := by
  rw [← isSome_readKept_iff, Option.not_isSome_iff_eq_none]

/-- Where segments are read, each keeps something from a part of its own. -/
theorem exists_of_readKept_cons
    {segment : Segment} {one : Kept} {kept : List Kept}
    (read : readKept (segment :: segments) text = some (one :: kept)) :
    ∃ front left, text = front ++ left ∧ segment.Spells front ∧ segment.keep front = one ∧
      readKept segments left = some kept := by
  rw [readKept_cons] at read
  rcases Pattern.exists_reads_of_run read with ⟨front, captures, left, rfl, reads, taken⟩
  rcases Option.map_eq_some_iff.1 taken with ⟨others, further, same⟩
  rw [Stretch.text_append, List.cons.injEq] at same
  rcases same with ⟨rfl, rfl⟩
  exact ⟨front, left, rfl, accepts_pattern_iff.1 reads.accepts, rfl, further⟩

end Reading

/-! ## What is expected -/

/-- Whether the next thing that segments write is a name. -/
def meetsName : List Segment → Bool
  | .name _ :: _ => true
  | .text [] :: rest => meetsName rest
  | _ => false

/-- What segments that have been written afresh keep when nothing is cut short: the last name of a
row captures the row, so what names before have left is held for it. -/
def readBack (current : CurrentYear) : (held : Text) → List Segment → List Kept
  | _, [] => []
  | held, .name placeholder :: rest =>
      if meetsName rest then .name [] :: readBack current (held ++ placeholder.text) rest
      else .name (held ++ placeholder.text) :: readBack current [] rest
  | held, .yearRange :: rest => .startYear current.value :: readBack current held rest
  | held, .text _ :: rest | held, .year :: rest => .nothing :: readBack current held rest

/-- A name is cut short in front of some segments if these can be read before it is over. -/
def CutsShort (current : CurrentYear) (name : Text) (rest : List Segment) : Prop :=
  ∃ shown hidden, name = shown ++ hidden ∧ hidden ≠ [] ∧
    StandFirst rest (hidden ++ renderAll current rest [])

/-- A range reads on in front of some segments if these can be read after what looks like the second
half of a range. -/
def ReadsOn (current : CurrentYear) (rest : List Segment) : Prop :=
  ∃ tail left, renderAll current rest [] = tail ++ left ∧ tail.IsRangeTail ∧ StandFirst rest left

/-- No row of names is cut short and no range reads on; a name may be held from before. -/
def KeptApart (current : CurrentYear) : (held : Text) → List Segment → Prop
  | _, [] => True
  | held, .name placeholder :: rest =>
      if meetsName rest then KeptApart current (held ++ placeholder.text) rest
      else ¬ CutsShort current (held ++ placeholder.text) rest ∧ KeptApart current [] rest
  | held, .yearRange :: rest => ¬ ReadsOn current rest ∧ KeptApart current held rest
  | held, .text _ :: rest | held, .year :: rest => KeptApart current held rest

variable {segments : List Segment} {current : CurrentYear} {held text : Text}

/-- A text is held only in front of a name. -/
def Waits (held : Text) (segments : List Segment) : Prop :=
  held ≠ [] → meetsName segments = true

theorem waits_nil (segments : List Segment) : Waits [] segments :=
  fun occupied => absurd rfl occupied

theorem Waits.eq_nil
    (waits : Waits held segments)
    (other : meetsName segments = false) :
    held = [] := by
  by_contra occupied
  rw [waits occupied] at other
  cases other

/-- In front of a text something is held only if the text is empty. -/
theorem Waits.of_text
    {literal : Text}
    (waits : Waits held (.text literal :: segments)) :
    Waits held segments ∧ (held = [] ∨ literal = []) := by
  cases literal with
  | nil => exact ⟨waits, Or.inr rfl⟩
  | cons c literal =>
    obtain rfl := waits.eq_nil rfl
    exact ⟨waits_nil segments, Or.inl rfl⟩

theorem renderAll_cons_fresh (segment : Segment) (segments : List Segment) (current : CurrentYear) :
    renderAll current (segment :: segments) [] =
      segment.render current .nothing ++ renderAll current segments [] := rfl

/-- Names that keep what is expected of them write the same as afresh, with what is held. -/
theorem renderAll_readBack (waits : Waits held segments) :
    renderAll current segments (readBack current held segments) =
      held ++ renderAll current segments [] := by
  induction segments generalizing held with
  | nil =>
    rw [waits.eq_nil rfl]
    rfl
  | cons segment segments ih =>
    rw [renderAll_cons_fresh]
    cases segment with
    | text literal =>
      rcases waits.of_text with ⟨waitsRest, alone⟩
      rw [readBack, renderAll, List.head?_cons, List.tail_cons, ih waitsRest]
      rcases alone with rfl | rfl
      · rfl
      · rfl
    | year =>
      obtain rfl := waits.eq_nil rfl
      rw [readBack, renderAll, List.head?_cons, List.tail_cons, ih (waits_nil segments)]
      rfl
    | yearRange =>
      obtain rfl := waits.eq_nil rfl
      rw [readBack, renderAll, List.head?_cons, List.tail_cons, ih (waits_nil segments),
        Option.getD_some, ← render_initial]
      rfl
    | name placeholder =>
      rw [readBack]
      split
      · rename_i meets
        rw [renderAll, List.head?_cons, List.tail_cons, ih fun _ => meets]
        simp [render]
      · rw [renderAll, List.head?_cons, List.tail_cons, ih (waits_nil segments)]
        simp [render]

/-! ## One segment -/

theorem readKept_year (present : (readKept segments text).isSome = true) :
    readKept (.year :: segments) (numeral current.value ++ text) =
      (readKept segments text).map (.nothing :: ·) := by
  rw [readKept_cons]
  exact prefers_year (isYear_current current) text _ (by rwa [Option.isSome_map])

theorem keep_yearRange (current : CurrentYear) (tail : Text) :
    keep .yearRange (numeral current.value ++ tail) = .startYear current.value := by
  rw [keep, List.take_left' (isYear_current current).1, decimalValue_numeral]

/-- A range reads its first year, then its second half if it can. -/
theorem run_yearRangePattern
    {α : Type} {next : Text → Option α} {start rest : Text}
    (isStart : start.IsYear)
    (present : (next rest).isSome = true) :
    yearRangePattern.run (start ++ rest) (fun _ => next) =
      (Pattern.optional rangeTailPattern).run rest fun _ => next := by
  have first := (prefers_year isStart rest).group
  have absent : (Pattern.optional rangeTailPattern).Accepts [] := Or.inr rfl
  rw [yearRangePattern_eq, Pattern.run, first]
  exact Pattern.run_isSome absent fun _ => present

/-- A range that does not read on keeps the current year. -/
theorem readKept_yearRange
    (present : (readKept segments (renderAll current segments [])).isSome = true)
    (apart : ¬ ReadsOn current segments) :
    readKept (.yearRange :: segments) (numeral current.value ++ renderAll current segments []) =
      (readKept segments (renderAll current segments [])).map (.startYear current.value :: ·) := by
  have single := keep_yearRange current []
  rw [List.append_nil] at single
  rw [readKept_cons, pattern, run_yearRangePattern (isYear_current current)
    (by rwa [Option.isSome_map]), Pattern.run_optional_of_refused, Stretch.text_append, single]
  intro tail left _ place accepted
  have unread : readKept segments left = none := by
    rw [readKept_eq_none_iff]
    intro stands
    exact apart ⟨tail, left, place, accepts_rangeTailPattern_iff.1 accepted, stands⟩
  rw [unread, Option.map_none]

/-- A range that can read on does so. -/
theorem exists_of_readsOn
    {one : Kept} {kept : List Kept}
    (present : (readKept segments (renderAll current segments [])).isSome = true)
    (readsOn : ReadsOn current segments)
    (read : readKept (.yearRange :: segments)
      (numeral current.value ++ renderAll current segments []) = some (one :: kept)) :
    ∃ tail left, renderAll current segments [] = tail ++ left ∧ tail.IsRangeTail ∧
      readKept segments left = some kept := by
  rcases readsOn with ⟨tail, left, place, isTail, stands⟩
  rw [readKept_cons, pattern, run_yearRangePattern (isYear_current current)
    (by rwa [Option.isSome_map]), Pattern.run, Pattern.orElse_of_isSome] at read
  · rcases Pattern.exists_reads_of_run read with ⟨tailToo, _, leftToo, placeToo, reads, taken⟩
    rcases Option.map_eq_some_iff.1 taken with ⟨others, further, same⟩
    cases same
    exact ⟨tailToo, leftToo, placeToo, accepts_rangeTailPattern_iff.1 reads.accepts, further⟩
  · rw [place]
    apply Pattern.run_isSome (accepts_rangeTailPattern_iff.2 isTail)
    intro _
    rw [Option.isSome_map]
    exact isSome_readKept_iff.2 stands

theorem accepts_inLine {name : Text} (inLine : '\n' ∉ name) :
    ∀ c ∈ name, CharSet.inLine.accepts c = true := by
  intro c member
  rw [CharSet.accepts, bne_iff_ne]
  rintro rfl
  exact inLine member

/-- A name that is not cut short is kept. -/
theorem readKept_name
    {name : Text}
    (placeholder : Placeholder)
    (inLine : '\n' ∉ name)
    (present : (readKept segments text).isSome = true)
    (whole : ∀ shown hidden, name = shown ++ hidden → hidden ≠ [] →
      ¬ StandFirst segments (hidden ++ text)) :
    readKept (.name placeholder :: segments) (name ++ text) =
      (readKept segments text).map (.name name.trim :: ·) := by
  have refused : ∀ shown hidden, name = shown ++ hidden → hidden ≠ [] →
      Piece.readFront (segments.map pattern) (hidden ++ text) = none := by
    intro shown hidden place occupied
    have unread := readKept_eq_none_iff.2 (whole shown hidden place occupied)
    rwa [readKept, Option.map_eq_none_iff] at unread
  rw [readKept, Option.isSome_map] at present
  rcases Option.isSome_iff_exists.1 present with ⟨pieces, read⟩
  have readName := Piece.readAll_of_refused (accepts_inLine inLine) refused read
  rw [readKept, readKept, read, List.map_cons, pattern, Piece.readFront, readName]
  rfl

/-- A name keeps nothing where the segments after it can be read at once. -/
theorem readKept_name_of_isSome
    (placeholder : Placeholder)
    (present : (readKept segments text).isSome = true) :
    readKept (.name placeholder :: segments) text =
      (readKept segments text).map (.name [] :: ·) := by
  apply @readKept_name segments text [] placeholder (by simp) present
  intro shown hidden place occupied
  exact absurd (List.append_eq_nil_iff.1 place.symm).2 occupied

/-- A name that can be cut short keeps less than it is. -/
theorem ne_name_of_cutsShort
    {name : Text} {one : Kept} {kept : List Kept}
    (placeholder : Placeholder)
    (inLine : '\n' ∉ name)
    (cut : CutsShort current name segments)
    (read : readKept (.name placeholder :: segments) (name ++ renderAll current segments []) =
      some (one :: kept)) :
    one ≠ .name name := by
  rcases cut with ⟨shown, hidden, rfl, occupied, stands⟩
  rw [List.mem_append, not_or] at inLine
  rw [readKept_cons, pattern, List.append_assoc] at read
  have accepted : ((readKept segments (hidden ++ renderAll current segments [])).map
      (keep (.name placeholder)
        (Stretch.text ⟨shown ++ (hidden ++ renderAll current segments []),
          hidden ++ renderAll current segments []⟩) :: ·)).isSome = true := by
    rw [Option.isSome_map]
    exact isSome_readKept_iff.2 stands
  rcases Pattern.exists_of_run_lazyStar (accepts_inLine inLine.1) accepted read with
    ⟨front, more, rfl, taken⟩
  rcases Option.map_eq_some_iff.1 taken with ⟨others, -, same⟩
  rw [List.append_assoc, Stretch.text_append, List.cons.injEq] at same
  rcases same with ⟨rfl, -⟩
  intro whole
  have lengths := congrArg List.length (Kept.name.inj whole)
  have shorter := (Text.trim_sublist front).length_le
  have hiddenMore := List.length_pos_of_ne_nil occupied
  simp only [List.length_append] at lengths
  omega

theorem map_cons_eq_some_iff {one : Kept} {outcome : Option (List Kept)} {kept : List Kept} :
    outcome.map (one :: ·) = some (one :: kept) ↔ outcome = some kept := by
  cases outcome <;> simp

/-! ## All segments -/

/-- Every name of some segments stands on one line. -/
def NamesInLine (segments : List Segment) : Prop :=
  ∀ placeholder, .name placeholder ∈ segments → '\n' ∉ placeholder.text

theorem NamesInLine.of_cons
    {segment : Segment}
    (inLine : NamesInLine (segment :: segments)) :
    NamesInLine segments :=
  fun placeholder member => inLine placeholder (List.mem_cons_of_mem segment member)

/-- Segments may stand for what they have written afresh, and the first name of a row for what is
held as well. -/
theorem spellsAll_renderAll_held
    (current : CurrentYear)
    (inLine : NamesInLine segments)
    (inLineHeld : '\n' ∉ held)
    (waits : Waits held segments) :
    SpellsAll segments (held ++ renderAll current segments []) := by
  induction segments generalizing held with
  | nil =>
    rw [waits.eq_nil rfl]
    rfl
  | cons segment segments ih =>
    rw [renderAll_cons_fresh]
    have others := ih inLine.of_cons List.not_mem_nil (waits_nil segments)
    cases segment with
    | text literal =>
      rcases waits.of_text with ⟨waitsRest, alone⟩
      have spelled := Token.spellsAll_of_cutsInto (Token.cutsInto_ofLiteral literal)
      refine ⟨literal, _, ?_, spelled, ih inLine.of_cons inLineHeld waitsRest⟩
      rcases alone with rfl | rfl
      · rfl
      · rfl
    | year =>
      obtain rfl := waits.eq_nil rfl
      exact ⟨numeral current.value, _, rfl, isYear_current current, others⟩
    | yearRange =>
      obtain rfl := waits.eq_nil rfl
      have single : Spells .yearRange (numeral current.value) :=
        ⟨_, [], (List.append_nil _).symm, isYear_current current, Or.inr rfl⟩
      exact ⟨numeral current.value, _, rfl, single, others⟩
    | name placeholder =>
      have inLineBoth : '\n' ∉ held ++ placeholder.text := by
        rw [List.mem_append, not_or]
        exact ⟨inLineHeld, inLine placeholder List.mem_cons_self⟩
      exact ⟨held ++ placeholder.text, _, (List.append_assoc _ _ _).symm, accepts_inLine inLineBoth,
        others⟩

theorem isSome_readKept_renderAll
    (current : CurrentYear)
    (inLine : NamesInLine segments)
    (inLineHeld : '\n' ∉ held)
    (waits : Waits held segments) :
    (readKept segments (held ++ renderAll current segments [])).isSome = true :=
  isSome_readKept_iff.2
    ⟨_, [], (List.append_nil _).symm, spellsAll_renderAll_held current inLine inLineHeld waits⟩

/-- Segments that are read back have been read from at least as many digits as they have written. -/
theorem countP_isDecimal_le_of_readKept
    (waits : Waits held segments)
    (read : readKept segments text = some (readBack current held segments)) :
    (held ++ renderAll current segments []).countP isDecimal ≤ text.countP isDecimal := by
  induction segments generalizing held text with
  | nil =>
    rw [waits.eq_nil rfl]
    exact Nat.zero_le _
  | cons segment segments ih =>
    rw [renderAll_cons_fresh]
    cases segment with
    | text literal =>
      rcases exists_of_readKept_cons read with ⟨front, left, rfl, spelled, -, others⟩
      have further := ih waits.of_text.1 others
      have same := Token.countP_isDecimal_eq_of_spellsAll spelled
        (Token.spellsAll_of_cutsInto (Token.cutsInto_ofLiteral literal))
      simp only [List.countP_append, render] at further ⊢
      omega
    | year =>
      obtain rfl := waits.eq_nil rfl
      rcases exists_of_readKept_cons read with ⟨front, left, rfl, isYear, -, others⟩
      have further := ih (waits_nil segments) others
      have own := Text.countP_isDecimal_of_isYear (isYear_current current)
      have same := Text.countP_isDecimal_of_isYear isYear
      simp only [List.nil_append, List.countP_append, render] at further ⊢
      omega
    | yearRange =>
      obtain rfl := waits.eq_nil rfl
      rcases exists_of_readKept_cons read with
        ⟨_, left, rfl, ⟨start, tail, rfl, isYear, -⟩, -, others⟩
      have further := ih (waits_nil segments) others
      have own := Text.countP_isDecimal_of_isYear (isYear_current current)
      have same := Text.countP_isDecimal_of_isYear isYear
      simp only [List.nil_append, List.countP_append, render] at further ⊢
      omega
    | name placeholder =>
      rw [readBack] at read
      split at read
      · rename_i meets
        rcases exists_of_readKept_cons read with ⟨front, left, rfl, -, -, others⟩
        have further := ih (fun _ => meets) others
        simp only [List.countP_append, render] at further ⊢
        omega
      · rcases exists_of_readKept_cons read with ⟨front, left, rfl, -, name, others⟩
        have further := ih (waits_nil segments) others
        have fewer := (Text.trim_sublist front).countP_le (p := isDecimal)
        rw [Kept.name.inj name] at fewer
        simp only [List.nil_append, List.countP_append, render] at further fewer ⊢
        omega

/-- Names that are read back stand on one line. -/
theorem namesInLine_of_readKept
    (read : readKept segments text = some (readBack current held segments)) :
    NamesInLine segments ∧ (meetsName segments = true → '\n' ∉ held) := by
  induction segments generalizing held text with
  | nil => exact ⟨fun _ member => absurd member List.not_mem_nil, by simp [meetsName]⟩
  | cons segment segments ih =>
    cases segment with
    | text literal =>
      rcases exists_of_readKept_cons read with ⟨-, left, -, -, -, others⟩
      rcases ih others with ⟨inLine, inLineHeld⟩
      refine ⟨fun placeholder member => inLine placeholder (by simpa using member), ?_⟩
      cases literal with
      | nil => exact inLineHeld
      | cons c literal => simp [meetsName]
    | year =>
      rcases exists_of_readKept_cons read with ⟨-, left, -, -, -, others⟩
      exact ⟨fun placeholder member => (ih others).1 placeholder (by simpa using member),
        by simp [meetsName]⟩
    | yearRange =>
      rcases exists_of_readKept_cons read with ⟨-, left, -, -, -, others⟩
      exact ⟨fun placeholder member => (ih others).1 placeholder (by simpa using member),
        by simp [meetsName]⟩
    | name placeholder =>
      have both : NamesInLine segments ∧ '\n' ∉ held ++ placeholder.text := by
        rw [readBack] at read
        split at read
        · rename_i meets
          rcases exists_of_readKept_cons read with ⟨-, left, -, -, -, others⟩
          exact ⟨(ih others).1, (ih others).2 meets⟩
        · rcases exists_of_readKept_cons read with ⟨front, left, -, inLine, name, others⟩
          refine ⟨(ih others).1, ?_⟩
          rw [← Kept.name.inj name]
          intro member
          have passed := inLine '\n' ((Text.trim_sublist front).subset member)
          simp at passed
      rw [List.mem_append, not_or] at both
      refine ⟨?_, fun _ => both.2.1⟩
      intro other member
      rcases List.mem_cons.1 member with same | inRest
      · cases same
        exact both.2.2
      · exact both.1 other inRest

theorem isBlank_head_numeral_append (current : CurrentYear) (rest : Text) :
    ∀ c, (numeral current.value ++ rest).head? = some c → isBlank c = false := by
  rcases exists_cons_of_isYear (isYear_current current) with ⟨d, digits, shape, decimal⟩
  rw [shape]
  rintro _ ⟨⟩
  exact not_isBlank_of_isDecimal decimal

/-- A range keeps the current year, and the others what is expected, exactly if it does not read on:
else too few digits are left to the others. -/
theorem readKept_yearRange_eq_some_iff
    (present : (readKept segments (renderAll current segments [])).isSome = true) :
    readKept (.yearRange :: segments) (numeral current.value ++ renderAll current segments []) =
        some (.startYear current.value :: readBack current [] segments) ↔
      ¬ ReadsOn current segments ∧
        readKept segments (renderAll current segments []) =
          some (readBack current [] segments) := by
  constructor
  · intro read
    have apart : ¬ ReadsOn current segments := by
      intro readsOn
      rcases exists_of_readsOn present readsOn read with ⟨tail, left, place, isTail, further⟩
      have digits := countP_isDecimal_le_of_readKept (waits_nil segments) further
      have fewer := Text.countP_isDecimal_of_isRangeTail isTail
      rw [List.nil_append, place, List.countP_append] at digits
      omega
    rw [readKept_yearRange present apart, map_cons_eq_some_iff] at read
    exact ⟨apart, read⟩
  · rintro ⟨apart, read⟩
    rw [readKept_yearRange present apart, map_cons_eq_some_iff]
    exact read

/-- A trimmed name is kept exactly if it is not cut short. -/
theorem readKept_name_eq_some_iff
    {name : Text} {kept : List Kept}
    (placeholder : Placeholder)
    (inLine : '\n' ∉ name)
    (trimmed : name.trim = name)
    (present : (readKept segments (renderAll current segments [])).isSome = true) :
    readKept (.name placeholder :: segments) (name ++ renderAll current segments []) =
        some (.name name :: kept) ↔
      ¬ CutsShort current name segments ∧
        readKept segments (renderAll current segments []) = some kept := by
  have whole : ¬ CutsShort current name segments →
      readKept (.name placeholder :: segments) (name ++ renderAll current segments []) =
        (readKept segments (renderAll current segments [])).map (.name name :: ·) := by
    intro apart
    rw [readKept_name placeholder inLine present, trimmed]
    intro shown hidden place more stands
    exact apart ⟨shown, hidden, place, more, stands⟩
  constructor
  · intro read
    have apart : ¬ CutsShort current name segments :=
      fun cut => ne_name_of_cutsShort placeholder inLine cut read rfl
    rw [whole apart, map_cons_eq_some_iff] at read
    exact ⟨apart, read⟩
  · rintro ⟨apart, read⟩
    rw [whole apart, map_cons_eq_some_iff]
    exact read

/-- What is held ends with a name, so with that name it is trimmed. -/
theorem trim_held
    (placeholder : Placeholder)
    (firstShown : ∀ c, held.head? = some c → isBlank c = false) :
    (held ++ placeholder.text).trim = held ++ placeholder.text := by
  rcases Text.trim_eq_self_iff.1 placeholder.trimmed with ⟨ownFirst, ownLast⟩
  refine Text.trim_eq_self_iff.2 ⟨?_, ownLast.append_of_ne_nil placeholder.occupied held⟩
  cases held with
  | nil => exact ownFirst
  | cons c held => exact firstShown

/-- The tokens of a text are read after those of the texts before it. -/
theorem run_readKept_text (tokens : List Token) (literal text : Text) (segments : List Segment) :
    (Pattern.concat (tokens.map Token.pattern)).run text
        (fun _ => readKept (.text literal :: segments)) =
      ((Pattern.concat ((tokens ++ Token.ofLiteral literal).map Token.pattern)).run text
        fun _ => readKept segments).map (.nothing :: ·) := by
  rw [List.map_append, Pattern.run_concat_append, Pattern.map_run]
  congr 1
  funext _ rest
  rw [readKept_cons, Pattern.map_run]
  rfl

/-- Segments that have been written afresh keep what is expected exactly if they are kept apart.
The tokens of the texts just before them are still to be read, and what the names just before them
have left is held. -/
theorem run_readKept_eq_readBack_iff
    {tokens : List Token} {front : Text}
    (inLine : NamesInLine segments)
    (inLineHeld : '\n' ∉ held)
    (firstShown : ∀ c, held.head? = some c → isBlank c = false)
    (waits : Waits held segments)
    (spelled : Token.SpellsAll tokens front) :
    (Pattern.concat (tokens.map Token.pattern)).run
        (front ++ (held ++ renderAll current segments [])) (fun _ => readKept segments) =
        some (readBack current held segments) ↔
      KeptApart current held segments := by
  -- A text only adds its tokens to those that are still to be read.  They are read all at once in
  -- front of the next year or name, or at the end, where nothing blank follows.
  induction segments generalizing tokens front held with
  | nil =>
    obtain rfl := waits.eq_nil rfl
    have read := @Token.prefers_concat_of_spellsAll tokens front [] spelled (by simp) _
      (fun _ => readKept []) rfl
    exact ⟨fun _ => trivial, fun _ => read⟩
  | cons segment segments ih =>
    have present := isSome_readKept_renderAll current inLine inLineHeld waits
    have presentRest := isSome_readKept_renderAll current inLine.of_cons List.not_mem_nil
      (waits_nil segments)
    rw [List.nil_append] at presentRest
    have others : readKept segments (renderAll current segments []) =
        some (readBack current [] segments) ↔ KeptApart current [] segments :=
      @ih [] [] [] inLine.of_cons List.not_mem_nil (by simp) (waits_nil segments) rfl
    have pending : (∀ c, (held ++ renderAll current (segment :: segments) []).head? = some c →
        isBlank c = false) →
        (Pattern.concat (tokens.map Token.pattern)).run
            (front ++ (held ++ renderAll current (segment :: segments) []))
            (fun _ => readKept (segment :: segments)) =
          readKept (segment :: segments) (held ++ renderAll current (segment :: segments) []) :=
      fun boundary => Token.prefers_concat_of_spellsAll spelled boundary _ present
    cases segment with
    | text literal =>
      rcases waits.of_text with ⟨waitsRest, alone⟩
      have place : front ++ (held ++ renderAll current (.text literal :: segments) []) =
          (front ++ literal) ++ (held ++ renderAll current segments []) := by
        rw [renderAll_cons_fresh, render]
        rcases alone with rfl | rfl <;> simp
      have longer : Token.SpellsAll (tokens ++ Token.ofLiteral literal) (front ++ literal) :=
        Token.spellsAll_append_iff.2 ⟨front, literal, rfl, spelled,
          Token.spellsAll_of_cutsInto (Token.cutsInto_ofLiteral literal)⟩
      rw [run_readKept_text, place, readBack, map_cons_eq_some_iff, KeptApart]
      exact ih inLine.of_cons inLineHeld firstShown waitsRest longer
    | year =>
      obtain rfl := waits.eq_nil rfl
      have own : renderAll current (.year :: segments) [] =
          numeral current.value ++ renderAll current segments [] := rfl
      rw [pending (isBlank_head_numeral_append current _), List.nil_append, own, readBack,
        KeptApart, readKept_year presentRest, map_cons_eq_some_iff]
      exact others
    | yearRange =>
      obtain rfl := waits.eq_nil rfl
      have own : renderAll current (.yearRange :: segments) [] =
          numeral current.value ++ renderAll current segments [] := rfl
      rw [pending (isBlank_head_numeral_append current _), List.nil_append, own, readBack,
        KeptApart, readKept_yearRange_eq_some_iff presentRest, others]
    | name placeholder =>
      have trimmed := trim_held placeholder firstShown
      have shown := (Text.trim_eq_self_iff.1 trimmed).1
      have occupied : held ++ placeholder.text ≠ [] := by simp [placeholder.occupied]
      have inLineBoth : '\n' ∉ held ++ placeholder.text := by
        rw [List.mem_append, not_or]
        exact ⟨inLineHeld, inLine placeholder List.mem_cons_self⟩
      have whole : held ++ renderAll current (.name placeholder :: segments) [] =
          (held ++ placeholder.text) ++ renderAll current segments [] :=
        (List.append_assoc _ _ _).symm
      rw [whole] at pending ⊢
      rw [pending fun c first => shown c (by rwa [List.head?_append_of_ne_nil _ occupied] at first)]
      by_cases meets : meetsName segments = true
      · have presentHeld :=
          isSome_readKept_renderAll current inLine.of_cons inLineBoth fun _ => meets
        rw [readKept_name_of_isSome placeholder presentHeld, readBack, if_pos meets,
          map_cons_eq_some_iff, KeptApart, if_pos meets]
        exact @ih _ [] [] inLine.of_cons inLineBoth shown (fun _ => meets) rfl
      · rw [readBack, if_neg meets, KeptApart, if_neg meets,
          readKept_name_eq_some_iff placeholder inLineBoth trimmed presentRest, others]

end Segment

end Masthead
