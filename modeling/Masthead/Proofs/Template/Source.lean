import Masthead.Proofs.Template.Parsed

/-!
# What a template source stands for

A source is read item by item, and reading stops at the end of the longest part of it that is
written in this way.  A source is accepted exactly when that is all of it and it is not empty.  Its
segments are then the longest runs of characters and the special segments between them, and a text
at the end gets the first line break of the source unless it ends a line already.  Otherwise the
error stands where the longest part ends, and it says what follows there.
-/

namespace Masthead

namespace Item

variable {registry : Registry} {position : Nat} {source : Text} {error : ParseError}

/-! ## Where reading stops -/

/-- What is said of a text that does not begin with an item: a closing brace stands alone, an
opening brace is never closed, or the name between two braces is unknown. -/
inductive Refused : Text → String → Prop
  | strayBrace (after : Text) :
      Refused ('\x7d' :: after) "Unescaped '\x7d' without opening '\x7b'"
  | unclosedBrace {after : Text} (unclosed : '\x7d' ∉ after) :
      Refused ('\x7b' :: after) "Unescaped '\x7b' without closing '\x7d'"
  | unknownSegment {name : Text} (inside : '\x7d' ∉ name) (after : Text) :
      Refused ('\x7b' :: (name ++ '\x7d' :: after))
        ("Unrecognized special segment '" ++ name.toString ++ "'")

/-- Reading a source that begins at a position stops after some items, at the place that the error
names and for the reason that it gives. -/
def StopsWith (registry : Registry) (position : Nat) (source : Text) (error : ParseError) : Prop :=
  ∃ (front back : Text) (items : List Item), source = front ++ back ∧
    SpellsAll registry items front ∧ error.position? = some (position + front.length) ∧
      Refused back error.message

theorem StopsWith.of_refused
    (placed : error.position? = some position)
    (refused : Refused source error.message) :
    StopsWith registry position source error :=
  ⟨[], source, [], rfl, rfl, placed, refused⟩

theorem StopsWith.cons
    {item : Item} {piece : Text}
    (written : item.Spells registry piece)
    (stops : StopsWith registry (position + piece.length) source error) :
    StopsWith registry position (piece ++ source) error := by
  rcases stops with ⟨front, back, items, rfl, writtenAll, placed, refused⟩
  refine ⟨piece ++ front, back, item :: items, by simp, ⟨piece, front, rfl, written, writtenAll⟩,
    ?_, refused⟩
  rw [placed, List.length_append, Nat.add_assoc]

theorem map_eq_error_iff
    {α β ε : Type} {outcome : Except ε α} {f : α → β} {error : ε} :
    outcome.map f = .error error ↔ outcome = .error error := by
  cases outcome <;> simp [Except.map]

theorem notMem_of_dropWhile_eq_nil
    {text : Text} {c : Char}
    (nothing : text.dropWhile (· != c) = []) :
    c ∉ text := by
  intro member
  have passes := List.dropWhile_eq_nil_iff.1 nothing c member
  simp at passes

/-- Reading a source fails with the first error in it. -/
theorem stopsWith_of_readAt
    (failed : readAt registry position source = .error error) :
    StopsWith registry position source error := by
  fun_induction readAt registry position source with
  | case1 => cases failed
  | case2 position rest ih =>
    have written : (Item.literal '\x7b').Spells registry ['\x7b', '\x7b'] := rfl
    exact (ih (map_eq_error_iff.1 failed)).cons written
  | case3 position rest ih =>
    have written : (Item.literal '\x7d').Spells registry ['\x7d', '\x7d'] := rfl
    exact (ih (map_eq_error_iff.1 failed)).cons written
  | case4 position rest _ =>
    cases failed
    exact .of_refused rfl (.strayBrace rest)
  | case5 position rest _ unclosed =>
    cases failed
    exact .of_refused rfl (.unclosedBrace (notMem_of_dropWhile_eq_nil unclosed))
  | case6 position rest _ name closing after broken unknown =>
    cases failed
    rcases closed_of_dropWhile broken with ⟨whole, inside⟩
    refine .of_refused rfl ?_
    rw [whole]
    exact .unknownSegment (fun member => inside _ member rfl) after
  | case7 position rest single name closing after broken definition known =>
    rename_i ih
    rcases closed_of_dropWhile broken with ⟨whole, inside⟩
    have written := spells_special single whole inside known
    have further : StopsWith registry (position + ('\x7b' :: (name ++ ['\x7d'])).length) after
        error := by
      have length : ('\x7b' :: (name ++ ['\x7d'])).length = name.length + 2 := by simp
      rw [length, ← Nat.add_assoc]
      exact ih (map_eq_error_iff.1 failed)
    have stops := further.cons written
    rwa [List.cons_append, List.append_assoc, List.singleton_append, ← whole] at stops
  | case8 position c rest _ _ close opening ih =>
    have plain : isBrace c = false := by
      simp only [isBrace, Bool.or_eq_false_iff, beq_eq_false_iff_ne, ne_eq]
      exact ⟨opening, close⟩
    have written : (Item.literal c).Spells registry [c] := by simp [Spells, plain]
    exact (ih (map_eq_error_iff.1 failed)).cons written

/-- Nothing that is written item by item at the front of a source reaches beyond its first error. -/
theorem length_le_of_readAt
    {front longer rest : Text} {items : List Item}
    (failed : readAt registry 0 source = .error error)
    (place : source = longer ++ rest)
    (written : SpellsAll registry items longer)
    (placed : error.position? = some front.length) :
    longer.length ≤ front.length := by
  rw [place, readAt_append_of_spellsAll written, map_eq_error_iff] at failed
  rcases stopsWith_of_readAt failed with ⟨further, _, _, -, -, placedToo, -⟩
  rw [placed, Option.some.injEq] at placedToo
  omega

end Item

/-! ## The line break at the end -/

namespace Segment

/-- Segments with a line break at their end, if they end in a text that does not end a line. -/
def endLine (lineBreak : Text) (segments : List Segment) : List Segment :=
  match segments.getLast? with
  | some (.text literal) =>
      if literal.getLast?.any isLineEnd then segments
      else segments.dropLast ++ [.text (literal ++ lineBreak)]
  | _ => segments

theorem endLine_cons
    {segments : List Segment}
    (occupied : segments ≠ [])
    (lineBreak : Text)
    (segment : Segment) :
    endLine lineBreak (segment :: segments) = segment :: endLine lineBreak segments := by
  cases segments with
  | nil => exact absurd rfl occupied
  | cons next segments =>
    rw [endLine, endLine, List.getLast?_cons_cons]
    split
    · split
      · rfl
      · rfl
    · rfl

theorem endLine_singleton
    (lineBreak literal : Text)
    {c : Char}
    (last : literal.getLast? = some c) :
    endLine lineBreak [.text literal] =
      [.text (if isLineEnd c then literal else literal ++ lineBreak)] := by
  simp only [endLine, List.getLast?_singleton, last, Option.any_some]
  split
  all_goals rfl

end Segment

namespace Item

theorem endLine_append
    {items : List Item}
    (occupied : items ≠ [])
    (lineBreak : Text)
    (front : List Item) :
    endLine lineBreak (front ++ items) = front ++ endLine lineBreak items := by
  have last : (front ++ items).getLast? = items.getLast? := by
    simp [List.getLast?_append, List.getLast?_eq_some_getLast occupied]
  rw [endLine, endLine, last]
  split
  · split
    · rfl
    · rw [List.append_assoc]
  · rfl

theorem head?_endLine
    {items : List Item}
    (occupied : items ≠ [])
    (lineBreak : Text) :
    (endLine lineBreak items).head? = items.head? := by
  rw [endLine]
  split
  · split
    · rfl
    · simp [List.head?_append, List.head?_eq_some_head occupied]
  · rfl

theorem endLine_map
    (lineBreak literal : Text)
    {c : Char}
    (last : literal.getLast? = some c) :
    endLine lineBreak (literal.map .literal) =
      (if isLineEnd c then literal else literal ++ lineBreak).map .literal := by
  simp only [endLine, List.getLast?_map, last, Option.map_some]
  split
  · rfl
  · rw [List.map_append]

/-- Completing the items completes the segments that are formed from them.  A text among the special
items would be completed as a segment but not as an item, so there must be none. -/
theorem Forms.endLine
    {items : List Item} {formed : List Segment}
    (forms : Forms items formed)
    (noText : ∀ literal, .special (.text literal) ∉ items)
    (lineBreak : Text) :
    Forms (Item.endLine lineBreak items) (Segment.endLine lineBreak formed) := by
  induction forms with
  | nothing => exact .nothing
  | @special items formed segment others ih =>
    by_cases final : items = []
    · obtain rfl := others.eq_nil_iff.2 final
      subst final
      have unchanged : Segment.endLine lineBreak [segment] = [segment] := by
        cases segment with
        | text literal => exact absurd List.mem_cons_self (noText literal)
        | _ => rfl
      rw [unchanged]
      exact .special segment .nothing
    · have more := others.eq_nil_iff.not.2 final
      rw [Segment.endLine_cons more, ← List.singleton_append, endLine_append final]
      exact .special segment
        (ih fun literal member => noText literal (List.mem_cons_of_mem _ member))
  | @run literal items formed occupied ended others ih =>
    by_cases final : items = []
    · obtain rfl := others.eq_nil_iff.2 final
      subst final
      have last := List.getLast?_eq_some_getLast occupied
      rw [List.append_nil, endLine_map lineBreak literal last,
        Segment.endLine_singleton lineBreak literal last]
      have completed : (if isLineEnd (literal.getLast occupied) then literal
          else literal ++ lineBreak) ≠ [] := by
        split
        · exact occupied
        · simp [occupied]
      simpa using Forms.run completed ended .nothing
    · have more := others.eq_nil_iff.not.2 final
      rw [Segment.endLine_cons more, endLine_append final]
      refine .run occupied ?_
        (ih fun literal member => noText literal (List.mem_append_right _ member))
      rwa [head?_endLine final]

theorem noText_of_spellsAll
    {items : List Item}
    (written : SpellsAll Registry.standard items source)
    (literal : Text) :
    .special (.text literal) ∉ items := by
  intro member
  have kind := allOf_of_spellsAll written _ member
  simp at kind

/-- The segments of a source are those of its items, with the line break at their end. -/
theorem Forms.segments_endLine
    {items : List Item} {formed : List Segment}
    (forms : Forms items formed)
    (written : SpellsAll Registry.standard items source)
    (lineBreak : Text) :
    segments (Item.endLine lineBreak items) = Segment.endLine lineBreak formed :=
  (forms.endLine (noText_of_spellsAll written) lineBreak).segments_eq

theorem SpellsAll.eq_nil_iff
    {items : List Item}
    (written : SpellsAll registry items source) :
    source = [] ↔ items = [] := by
  cases items with
  | nil => simpa [SpellsAll] using written
  | cons item items =>
    rcases written with ⟨front, back, rfl, first, -⟩
    have occupied : front ≠ [] := by
      rintro rfl
      cases item with
      | literal c =>
        rw [Spells] at first
        split at first
        all_goals cases first
      | special segment =>
        rcases first with ⟨_, _, ⟨⟩, _⟩
    simp [occupied]

/-- A source is written in one way only. -/
theorem SpellsAll.unique
    {items others : List Item}
    (written : SpellsAll registry items source)
    (writtenToo : SpellsAll registry others source) :
    items = others := by
  have read : readAt registry 0 source = .ok items := readAt_of_spellsAll written
  rw [readAt_of_spellsAll writtenToo] at read
  exact (Except.ok.inj read).symm

end Item

namespace Template

/-! ## Accepted and refused sources -/

theorem parse_nil : parse [] = .error .emptySource := by
  rw [parse, Item.readAt]
  rfl

/-- Every source that is written from items gives a template, unless it is empty. -/
theorem exists_parse_of_spellsAll
    {source : Text} {items : List Item}
    (occupied : source ≠ [])
    (written : Item.SpellsAll Registry.standard items source) :
    ∃ template, parse source = .ok template := by
  have completed : Item.segments (Item.endLine (lineBreakOf source) items) ≠ [] := by
    rw [(Item.forms_segments _).eq_nil_iff.ne]
    have more := written.eq_nil_iff.not.1 occupied
    rw [Item.endLine]
    split
    · split
      · exact more
      · simp [more]
    · exact more
  exact ⟨⟨_, completed⟩, parse_eq_ok_iff.2 ⟨items, written, rfl⟩⟩

/-- A source is refused for the error that reading it stops with, or for being empty. -/
theorem readAt_of_parse_eq_error
    {source : Text} {error : ParseError}
    (occupied : source ≠ [])
    (refused : parse source = .error error) :
    Item.readAt Registry.standard 0 source = .error error := by
  cases read : Item.readAt Registry.standard 0 source with
  | error other =>
    rw [parse, read] at refused
    cases refused
    rfl
  | ok items =>
    have written := Item.readAt_eq_ok_iff.1 read
    rcases exists_parse_of_spellsAll occupied written with ⟨template, parsed⟩
    rw [parsed] at refused
    cases refused

/-- A source gives a template exactly when it is not empty and written item by item.  The segments
are then formed from its items, and a text at the end of them ends a line.  A refused source that is
not empty begins with a longest part that is written in this way: the error stands at the end of it
and says what follows there. -/
theorem parse_grammar (source : Text) :
    ((∃ template, parse source = .ok template) ↔
        source ≠ [] ∧ ∃ items, Item.SpellsAll Registry.standard items source) ∧
      (∀ template items, parse source = .ok template →
        Item.SpellsAll Registry.standard items source →
          ∃ (formed : List Segment) (lineBreak : Text), Item.Forms items formed ∧
            lineBreak.IsBreakOf source ∧
              template.segments = Segment.endLine lineBreak formed) ∧
      (parse source = .error .emptySource ↔ source = []) ∧
      ∀ error, parse source = .error error → source ≠ [] →
        ∃ (front back : Text) (items : List Item), source = front ++ back ∧
          Item.SpellsAll Registry.standard items front ∧
            (∀ (longer rest : Text) (others : List Item), source = longer ++ rest →
              Item.SpellsAll Registry.standard others longer → longer.length ≤ front.length) ∧
              error.position? = some front.length ∧ Item.Refused back error.message := by
  refine ⟨⟨?accepted, ?accepts⟩, ?segments, ⟨?empty, ?nothing⟩, ?refused⟩
  case accepted =>
    rintro ⟨template, parsed⟩
    rcases parse_eq_ok_iff.1 parsed with ⟨items, written, segments⟩
    refine ⟨?_, items, written⟩
    rintro rfl
    obtain rfl := written.eq_nil_iff.1 rfl
    exact template.occupied segments
  case accepts =>
    rintro ⟨occupied, items, written⟩
    exact exists_parse_of_spellsAll occupied written
  case segments =>
    intro template items parsed written
    rcases parse_eq_ok_iff.1 parsed with ⟨others, writtenToo, segments⟩
    obtain rfl := written.unique writtenToo
    have forms := Item.forms_segments items
    refine ⟨_, lineBreakOf source, forms, Text.isBreakOf_lineBreakOf source, ?_⟩
    rw [segments]
    exact forms.segments_endLine written (lineBreakOf source)
  case empty =>
    intro refused
    by_contra occupied
    have read := readAt_of_parse_eq_error occupied refused
    rcases Item.stopsWith_of_readAt read with ⟨_, _, _, -, -, placed, -⟩
    cases placed
  case nothing =>
    rintro rfl
    exact parse_nil
  case refused =>
    intro error refused occupied
    have read := readAt_of_parse_eq_error occupied refused
    rcases Item.stopsWith_of_readAt read with ⟨front, back, items, whole, written, placed, reason⟩
    rw [Nat.zero_add] at placed
    refine ⟨front, back, items, whole, written, ?_, placed, reason⟩
    intro longer rest others place further
    exact Item.length_le_of_readAt read place further placed

/-- Braces are paired from the left, also where three of them meet. -/
example :
    (parse "\x7b\x7b\x7bYear\x7d\x7d\x7d".toList).map Template.segments =
      .ok [.text ['\x7b'], .year, .text ['\x7d', '\n']] := by
  decide +kernel

end Template

end Masthead
