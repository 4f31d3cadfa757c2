import Masthead.Proofs.Template.Source

/-!
# Writing templates back

The segments of a template can be written as a source again: a text with every brace doubled, a year
and a range by their names.  Segments in normal form are read back as they are, and what is read
from any source is in normal form.
-/

namespace Masthead

namespace Item

variable {registry : Registry}

/-! ## The items of what is written -/

theorem SpellsAll.append
    {items others : List Item} {front back : Text}
    (written : SpellsAll registry items front)
    (writtenToo : SpellsAll registry others back) :
    SpellsAll registry (items ++ others) (front ++ back) := by
  induction items generalizing front with
  | nil =>
    obtain rfl := written
    exact writtenToo
  | cons item items ih =>
    rcases written with ⟨piece, rest, rfl, first, further⟩
    exact ⟨piece, rest ++ back, List.append_assoc .., first, ih further⟩

/-- Doubled braces stand for single ones. -/
theorem spellsAll_doubleBraces (literal : Text) :
    SpellsAll registry (literal.map .literal) (Segment.doubleBraces literal) := by
  induction literal with
  | nil => rfl
  | cons c literal ih =>
    refine ⟨if isBrace c then [c, c] else [c], Segment.doubleBraces literal, rfl, ?_, ih⟩
    rw [Spells]
    split
    all_goals rfl

end Item

namespace Segment

/-- The items that a segment is written from. -/
def items : Segment → List Item
  | text literal => literal.map .literal
  | year => [.special .year]
  | yearRange => [.special .yearRange]
  | name placeholder => [.special (.name placeholder)]

/-- Whether segments could have been read from a source: they alternate, and a text at the end of
them ends a line. -/
structure Normal (segments : List Segment) : Prop where
  occupied : segments ≠ []
  alternating : alternates segments = true
  ended : ∀ literal, segments.getLast? = some (.text literal) →
    ∃ c, literal.getLast? = some c ∧ isLineEnd c = true

theorem spellsAll_source
    {segment : Segment}
    (unnamed : ∀ placeholder, segment ≠ .name placeholder) :
    Item.SpellsAll Registry.standard segment.items segment.source := by
  cases segment with
  | text literal => exact Item.spellsAll_doubleBraces literal
  | year =>
    refine ⟨source year, [], by simp, ?_, rfl⟩
    refine ⟨_, Registry.yearDefinition, rfl, ?_, by decide, by decide +kernel, rfl⟩
    simp [Registry.yearDefinition]
  | yearRange =>
    refine ⟨source yearRange, [], by simp, ?_, rfl⟩
    refine ⟨_, Registry.yearRangeDefinition, rfl, ?_, by decide, by decide +kernel, rfl⟩
    simp [Registry.yearRangeDefinition]
  | name placeholder => exact absurd rfl (unnamed placeholder)

theorem spellsAll_sourceAll
    {segments : List Segment}
    (unnamed : ∀ placeholder, .name placeholder ∉ segments) :
    Item.SpellsAll Registry.standard (segments.flatMap items) (sourceAll segments) := by
  induction segments with
  | nil => rfl
  | cons segment segments ih =>
    have first := spellsAll_source fun placeholder same =>
      unnamed placeholder (same ▸ List.mem_cons_self)
    exact first.append (ih (unnamed_of_cons unnamed))

/-- Segments that alternate are formed from their items. -/
theorem forms_items
    {segments : List Segment}
    (alternating : alternates segments = true) :
    Item.Forms (segments.flatMap items) segments := by
  induction segments with
  | nil => exact .nothing
  | cons segment segments ih =>
    have others := ih (alternates_of_cons alternating)
    rw [List.flatMap_cons]
    cases segment with
    | text literal =>
      rcases alternates_text_cons_iff.1 alternating with ⟨occupied, noText, -⟩
      refine .run occupied ?_ others
      cases segments with
      | nil => simp
      | cons next segments =>
        cases next with
        | text other => exact absurd rfl (noText other segments)
        | _ => simp [items]
    | year => exact .special .year others
    | yearRange => exact .special .yearRange others
    | name placeholder => cases alternating

theorem endLine_of_ended
    {segments : List Segment}
    (ended : ∀ literal, segments.getLast? = some (.text literal) →
      ∃ c, literal.getLast? = some c ∧ isLineEnd c = true)
    (lineBreak : Text) :
    endLine lineBreak segments = segments := by
  rw [endLine]
  split
  · rename_i literal final
    rcases ended literal final with ⟨c, last, isEnd⟩
    simp [last, isEnd]
  · rfl

end Segment

namespace Template

/-! ## Reading back -/

/-- Segments in normal form are read back. -/
theorem parse_sourceAll
    {template : Template}
    (normal : Segment.Normal template.segments) :
    parse (Segment.sourceAll template.segments) = .ok template := by
  have written := Segment.spellsAll_sourceAll (Segment.unnamed_of_alternates normal.alternating)
  have forms := Segment.forms_items normal.alternating
  refine parse_eq_ok_iff.2 ⟨_, written, ?_⟩
  rw [forms.segments_endLine written, Segment.endLine_of_ended normal.ended]

theorem normal_of_parse
    {source : Text} {template : Template}
    (parsed : parse source = .ok template) :
    Segment.Normal template.segments where
  occupied := template.occupied
  alternating := alternates_of_parse parsed
  ended := fun _ final => exists_isLineEnd_of_parse parsed final

/-- Writing and reading are inverse: segments in normal form are read from what they are written as,
and what is read from a source is in normal form. -/
theorem parse_sourceAll_inverse :
    (∀ segments, Segment.Normal segments →
      ∃ template, parse (Segment.sourceAll segments) = .ok template ∧
        template.segments = segments) ∧
      ∀ source template, parse source = .ok template →
        Segment.Normal template.segments ∧
          parse (Segment.sourceAll template.segments) = .ok template := by
  constructor
  · intro segments normal
    let template : Template := ⟨segments, normal.occupied⟩
    have read : parse (Segment.sourceAll template.segments) = .ok template :=
      parse_sourceAll normal
    exact ⟨template, read, rfl⟩
  · intro source template parsed
    have normal := normal_of_parse parsed
    exact ⟨normal, parse_sourceAll normal⟩

/-- Texts with braces around a range and a year, the last one with a line end. -/
def bracedSegments : List Segment :=
  [.text "// \x7b".toList, .yearRange, .text "\x7d \x7b".toList, .year, .text "\x7d\r".toList]

/-- A source that ends no line and has other letters than usual in the name of its range. -/
def looseSource : Text := "# \x7byearRANGE\x7d\x7b\x7b A".toList

theorem parse_sourceAll_inverse_sample :
    Segment.Normal bracedSegments ∧
      (∃ template, parse (Segment.sourceAll bracedSegments) = .ok template ∧
        template.segments = bracedSegments) ∧
      ∃ template, parse looseSource = .ok template ∧
        Segment.Normal template.segments ∧
          parse (Segment.sourceAll template.segments) = .ok template := by
  have normal : Segment.Normal bracedSegments := by
    refine ⟨by simp [bracedSegments], rfl, ?_⟩
    rintro literal ⟨⟩
    exact ⟨'\r', rfl, rfl⟩
  have parsed : parse looseSource =
      .ok ⟨[.text "# ".toList, .yearRange, .text "\x7b A\n".toList], by decide⟩ := by
    decide +kernel
  exact ⟨normal, parse_sourceAll_inverse.1 _ normal, _, parsed,
    parse_sourceAll_inverse.2 _ _ parsed⟩

end Template

end Masthead
