import Masthead.Proofs.Segment.Token
import Masthead.Template.Grammar

/-!
# The segments of a parsed template

Reading a template source yields texts, years and ranges of years only.  A text is a longest run of
characters among the items of the source, so texts are never empty and never stand next to each
other.  Every character of a text comes from the source or from the line break that is added to it,
and a text at the end of the template ends a line.
-/

namespace Masthead

namespace Segment

/-- Whether the segments of a list are texts, years and ranges, where no text is empty and no two
texts are adjacent. -/
def alternates : List Segment → Bool
  | [] => true
  | .text _ :: .text _ :: _ => false
  | .text literal :: rest => !literal.isEmpty && alternates rest
  | .name _ :: _ => false
  | _ :: rest => alternates rest

/-- A text is followed by none. -/
theorem alternates_text_cons_iff
    {literal : Text} {segments : List Segment} :
    alternates (.text literal :: segments) = true ↔
      literal ≠ [] ∧ (∀ other rest, segments ≠ .text other :: rest) ∧
        alternates segments = true := by
  cases segments with
  | nil => simp [alternates]
  | cons next segments =>
    cases next with
    | text other => simp [alternates]
    | name placeholder => simp [alternates]
    | year | yearRange =>
      rw [alternates, Bool.and_eq_true, Bool.not_eq_true', List.isEmpty_eq_false_iff]
      · simp
      · simp

theorem alternates_of_cons
    {segment : Segment} {rest : List Segment}
    (alternating : alternates (segment :: rest) = true) :
    alternates rest = true := by
  unfold alternates at alternating
  split at alternating <;> simp_all

theorem unnamed_of_cons
    {segment : Segment} {rest : List Segment}
    (unnamed : ∀ placeholder, .name placeholder ∉ segment :: rest)
    (placeholder : Placeholder) :
    .name placeholder ∉ rest :=
  fun member => unnamed placeholder (List.mem_cons_of_mem segment member)

theorem ne_name_of_unnamed
    {segment : Segment} {rest : List Segment}
    (unnamed : ∀ placeholder, .name placeholder ∉ segment :: rest)
    (placeholder : Placeholder) :
    segment ≠ .name placeholder := by
  rintro rfl
  exact unnamed placeholder List.mem_cons_self

theorem unnamed_of_alternates
    {segments : List Segment}
    (alternating : alternates segments = true)
    (placeholder : Placeholder) :
    .name placeholder ∉ segments := by
  induction segments with
  | nil => simp
  | cons segment segments ih =>
    rintro (_ | ⟨_, member⟩)
    · simp [alternates] at alternating
    · exact ih (alternates_of_cons alternating) member

end Segment

namespace Text

/-! ## The line break of a source -/

/-- A text is the first line break of a source, and no part of a longer one. -/
def IsFirstBreakOf (ending source : Text) : Prop :=
  ∃ before after : Text, source = before ++ (ending ++ after) ∧
    (∀ c ∈ before, isLineEnd c = false) ∧ ending.IsBreak ∧
      (ending = ['\r'] → after.head? ≠ some '\n')

/-- A text is the line break that a source uses: its first one, or a line feed if it has none. -/
def IsBreakOf (ending source : Text) : Prop :=
  ending.IsFirstBreakOf source ∨ ending = ['\n'] ∧ ∀ c ∈ source, isLineEnd c = false

theorem isFirstBreakOf_of_firstBreak?
    {source ending : Text}
    (first : source.firstBreak? = some ending) :
    ending.IsFirstBreakOf source := by
  induction source with
  | nil => cases first
  | cons c rest ih =>
    rw [firstBreak?] at first
    split at first
    · rename_i found after broken
      cases first
      rcases isBreak_of_leadingBreak? broken with ⟨isBreak, whole⟩
      refine ⟨[], after, ?_, by simp, isBreak, whole⟩
      rw [List.nil_append]
      exact eq_append_of_leadingBreak? broken
    · rename_i unbroken
      rcases ih first with ⟨before, after, rfl, plain, isBreak, whole⟩
      refine ⟨c :: before, after, rfl, ?_, isBreak, whole⟩
      rintro d (_ | ⟨_, member⟩)
      · exact not_isLineEnd_of_leadingBreak? unbroken rfl
      · exact plain d member

theorem not_isLineEnd_of_firstBreak?_eq_none
    {source : Text}
    (unbroken : source.firstBreak? = none) :
    ∀ c ∈ source, isLineEnd c = false := by
  induction source with
  | nil => simp
  | cons c rest ih =>
    rw [firstBreak?] at unbroken
    split at unbroken
    · cases unbroken
    · rename_i plain
      rintro d (_ | ⟨_, member⟩)
      · exact not_isLineEnd_of_leadingBreak? plain rfl
      · exact ih unbroken d member

theorem isBreakOf_lineBreakOf (source : Text) : (Template.lineBreakOf source).IsBreakOf source := by
  rw [Template.lineBreakOf]
  cases first : source.firstBreak? with
  | none => exact Or.inr ⟨rfl, not_isLineEnd_of_firstBreak?_eq_none first⟩
  | some ending => exact Or.inl (isFirstBreakOf_of_firstBreak? first)

end Text

namespace Registry

theorem segment_of_standard
    {name : Text} {definition : Definition}
    (known : standard.get? name = some definition) :
    definition.segment = .year ∨ definition.segment = .yearRange := by
  rcases List.lookup_eq_some_iff.1 known with ⟨before, after, entries, -⟩
  have listed : definition ∈ standard.definitions := by
    simp [definitions, entries]
  have all : standard.definitions = [yearDefinition, yearRangeDefinition] := by
    decide
  simp only [all, List.mem_cons, List.not_mem_nil, or_false] at listed
  rcases listed with rfl | rfl
  · exact Or.inl rfl
  · exact Or.inr rfl

end Registry

namespace Item

/-! ## The items of a source -/

/-- Some items are characters of a set of texts, or years and ranges. -/
def AllOf (allowed : Char → Prop) (items : List Item) : Prop :=
  ∀ item ∈ items,
    match item with
    | .literal c => allowed c
    | .special segment => segment = .year ∨ segment = .yearRange

theorem AllOf.tail
    {allowed : Char → Prop} {item : Item} {items : List Item}
    (all : AllOf allowed (item :: items)) :
    AllOf allowed items :=
  fun other member => all other (List.mem_cons_of_mem item member)

theorem AllOf.of_append
    {allowed : Char → Prop} {front items : List Item}
    (all : AllOf allowed (front ++ items)) :
    AllOf allowed items :=
  fun item member => all item (List.mem_append_right front member)

/-- A source is read as its own characters, years and ranges. -/
theorem allOf_of_spellsAll
    {items : List Item} {source : Text}
    (written : SpellsAll Registry.standard items source) :
    AllOf (· ∈ source) items := by
  induction items generalizing source with
  | nil => simp [AllOf]
  | cons item items ih =>
    rcases written with ⟨front, back, rfl, first, others⟩
    rintro other (_ | ⟨_, member⟩)
    · cases item with
      | literal c =>
        rw [Spells] at first
        split at first
        all_goals simp [first]
      | special segment =>
        rcases first with ⟨name, definition, -, -, -, known, rfl⟩
        exact Registry.segment_of_standard known
    · have inside := ih others other member
      cases other with
      | literal c => exact List.mem_append_right front inside
      | special segment => exact inside

/-- The line break that is added consists of further characters. -/
theorem AllOf.endLine
    {allowed : Char → Prop} {items : List Item}
    (all : AllOf allowed items)
    (lineBreak : Text) :
    AllOf (fun c => allowed c ∨ c ∈ lineBreak) (endLine lineBreak items) := by
  have weaker : AllOf (fun c => allowed c ∨ c ∈ lineBreak) items := by
    intro item member
    have inside := all item member
    cases item with
    | literal c => exact Or.inl inside
    | special segment => exact inside
  rw [Item.endLine]
  split
  · split
    · exact weaker
    · intro item member
      rcases List.mem_append.1 member with old | new
      · exact weaker item old
      · rcases List.mem_map.1 new with ⟨c, added, rfl⟩
        exact Or.inr added
  · exact weaker

/-- Items that end in a character end in a line end once the line break has been added. -/
theorem isLineEnd_of_getLast?_endLine
    {lineBreak : Text} {items : List Item} {c : Char}
    (isBreak : lineBreak.IsBreak)
    (final : (endLine lineBreak items).getLast? = some (.literal c)) :
    isLineEnd c = true := by
  rw [endLine] at final
  split at final
  · rename_i d last
    split at final
    · rename_i isEnd
      rw [last] at final
      cases final
      exact isEnd
    · rw [List.getLast?_append, List.getLast?_map] at final
      rcases isBreak with rfl | rfl | rfl
      all_goals
        cases final
        rfl
  · rename_i other
    exact absurd final (other c)

/-! ## The segments of some items -/

/-- Segments are formed from items: every longest run of characters is a text, and a special item is
its segment. -/
inductive Forms : List Item → List Segment → Prop
  | nothing : Forms [] []
  | special
      {items : List Item} {segments : List Segment}
      (segment : Segment)
      (others : Forms items segments) :
      Forms (.special segment :: items) (segment :: segments)
  | run
      {literal : Text} {items : List Item} {segments : List Segment}
      (occupied : literal ≠ [])
      (ended : ∀ c, items.head? ≠ some (.literal c))
      (others : Forms items segments) :
      Forms (literal.map .literal ++ items) (.text literal :: segments)

theorem Forms.closeRun_append
    {items : List Item} {segments : List Segment}
    (others : Forms items segments)
    (ended : ∀ c, items.head? ≠ some (.literal c))
    (run : Text) :
    Forms (run.reverse.map .literal ++ items) (closeRun run ++ segments) := by
  cases run with
  | nil => exact others
  | cons c run => exact .run (by simp) ended others

theorem forms_segmentsAfter
    (run : Text)
    (items : List Item) :
    Forms (run.reverse.map .literal ++ items) (segmentsAfter run items) := by
  induction items generalizing run with
  | nil =>
    simpa [segmentsAfter] using Forms.nothing.closeRun_append (by simp) run
  | cons item items ih =>
    cases item with
    | literal c => simpa [segmentsAfter] using ih (c :: run)
    | special segment =>
      have others : Forms items (segmentsAfter [] items) := ih []
      exact (Forms.special segment others).closeRun_append (by simp) run

/-- The segments of a template are formed from its items. -/
theorem forms_segments (items : List Item) : Forms items (segments items) :=
  forms_segmentsAfter [] items

theorem segmentsAfter_map_append
    (run literal : Text)
    (items : List Item) :
    segmentsAfter run (literal.map .literal ++ items) =
      segmentsAfter (literal.reverse ++ run) items := by
  induction literal generalizing run with
  | nil => rfl
  | cons c literal ih =>
    rw [List.map_cons, List.cons_append, segmentsAfter, ih]
    simp

/-- No other segments are formed from the items. -/
theorem Forms.segments_eq
    {items : List Item} {formed : List Segment}
    (forms : Forms items formed) :
    segments items = formed := by
  induction forms with
  | nothing => rfl
  | special segment _ ih =>
    rw [← ih]
    rfl
  | @run literal items formed occupied ended _ ih =>
    have whole : closeRun literal.reverse = [.text literal] := by simp [closeRun, occupied]
    rw [segments, segmentsAfter_map_append, List.append_nil, ← ih]
    cases items with
    | nil => exact whole
    | cons item items =>
      cases item with
      | literal c => exact absurd rfl (ended c)
      | special segment =>
        rw [segmentsAfter, whole]
        rfl

theorem Forms.eq_nil_iff
    {items : List Item} {formed : List Segment}
    (forms : Forms items formed) :
    formed = [] ↔ items = [] := by
  cases forms with
  | nothing => simp
  | special segment others => simp
  | run occupied ended others => simp [occupied]

/-! ## What the segments of a source are like -/

variable {allowed : Char → Prop} {items : List Item} {formed : List Segment}

theorem Forms.not_text
    (forms : Forms items formed)
    (all : AllOf allowed items)
    (ended : ∀ c, items.head? ≠ some (.literal c))
    (literal : Text)
    (rest : List Segment) :
    formed ≠ .text literal :: rest := by
  rintro rfl
  cases forms with
  | special segment others =>
    have kind := all _ List.mem_cons_self
    simp at kind
  | @run _ items _ occupied _ others =>
    rcases List.exists_cons_of_ne_nil occupied with ⟨c, tail, rfl⟩
    exact ended c rfl

theorem Forms.alternates
    (forms : Forms items formed)
    (all : AllOf allowed items) :
    Segment.alternates formed = true := by
  induction forms with
  | nothing => rfl
  | special segment others ih =>
    have alternating := ih all.tail
    rcases all (.special segment) List.mem_cons_self with rfl | rfl
    · exact alternating
    · exact alternating
  | run occupied ended others ih =>
    have allOthers := all.of_append
    exact Segment.alternates_text_cons_iff.2
      ⟨occupied, others.not_text allOthers ended, ih allOthers⟩

/-- The characters of a text are among the items that it is formed from. -/
theorem Forms.forall_mem
    {literal : Text}
    (forms : Forms items formed)
    (all : AllOf allowed items)
    (member : .text literal ∈ formed) :
    ∀ c ∈ literal, allowed c := by
  induction forms with
  | nothing => cases member
  | special segment others ih =>
    rcases List.mem_cons.1 member with rfl | later
    · have kind := all _ List.mem_cons_self
      simp at kind
    · exact ih all.tail later
  | run occupied ended others ih =>
    rcases List.mem_cons.1 member with same | later
    · cases same
      intro c inside
      exact all (.literal c) (List.mem_append_left _ (List.mem_map_of_mem inside))
    · exact ih all.of_append later

/-- A text at the end of the segments ends in the character that the items end in. -/
theorem Forms.getLast?_eq
    {literal : Text}
    (forms : Forms items formed)
    (all : AllOf allowed items)
    (final : formed.getLast? = some (.text literal)) :
    ∃ c, literal.getLast? = some c ∧ items.getLast? = some (.literal c) := by
  induction forms with
  | nothing => cases final
  | @special items formed segment others ih =>
    cases last : formed.getLast? with
    | none =>
      have kind := all _ List.mem_cons_self
      rw [List.getLast?_cons, last] at final
      cases final
      simp at kind
    | some other =>
      rw [List.getLast?_cons, last] at final
      cases final
      rcases ih all.tail last with ⟨c, inLiteral, inItems⟩
      refine ⟨c, inLiteral, ?_⟩
      rw [List.getLast?_cons, inItems]
      rfl
  | @run run items formed occupied ended others ih =>
    cases last : formed.getLast? with
    | none =>
      have nothing := others.eq_nil_iff.1 (List.getLast?_eq_none_iff.1 last)
      rw [List.getLast?_cons, last] at final
      cases final
      refine ⟨_, List.getLast?_eq_some_getLast occupied, ?_⟩
      rw [nothing, List.append_nil, List.getLast?_map, List.getLast?_eq_some_getLast occupied]
      rfl
    | some other =>
      rw [List.getLast?_cons, last] at final
      cases final
      rcases ih all.of_append last with ⟨c, inLiteral, inItems⟩
      refine ⟨c, inLiteral, ?_⟩
      rw [List.getLast?_append, inItems]
      rfl

end Item

namespace Template

/-! ## The segments of a source -/

theorem isBreak_lineBreakOf (source : Text) : (lineBreakOf source).IsBreak := by
  rcases Text.isBreakOf_lineBreakOf source with ⟨_, _, -, -, isBreak, -⟩ | ⟨feed, -⟩
  · exact isBreak
  · exact Or.inr (Or.inr feed)

/-- A source without carriage returns uses the line feed. -/
theorem lineBreakOf_of_notMem
    {source : Text}
    (plain : '\r' ∉ source) :
    lineBreakOf source = ['\n'] := by
  rcases Text.isBreakOf_lineBreakOf source with ⟨before, after, whole, -, isBreak, -⟩ | ⟨feed, -⟩
  · have within : ∀ c ∈ lineBreakOf source, c ∈ source := by
      intro c member
      rw [whole]
      exact List.mem_append_right before (List.mem_append_left after member)
    rcases isBreak with both | return_ | feed
    · exact absurd (within '\r' (by simp [both])) plain
    · exact absurd (within '\r' (by simp [return_])) plain
    · exact feed
  · exact feed

/-- A source gives a template exactly when it is written from items that make the segments of the
template. -/
theorem parse_eq_ok_iff {source : Text} {template : Template} :
    parse source = .ok template ↔
      ∃ items, Item.SpellsAll Registry.standard items source ∧
        template.segments = Item.segments (Item.endLine (lineBreakOf source) items) := by
  rw [parse]
  cases read : Item.readAt Registry.standard 0 source with
  | error refusal =>
    constructor
    · rintro ⟨⟩
    · rintro ⟨items, written, -⟩
      rw [Item.readAt_of_spellsAll written] at read
      cases read
  | ok items =>
    have written := Item.readAt_eq_ok_iff.1 read
    dsimp only [bind, Except.bind]
    constructor
    · intro parsed
      split at parsed
      · cases parsed
      · cases parsed
        exact ⟨items, written, rfl⟩
    · rintro ⟨others, writtenToo, whole⟩
      have same : Except.ok others = Except.ok items :=
        (Item.readAt_of_spellsAll writtenToo).symm.trans read
      cases same
      rcases template with ⟨segments, occupied⟩
      cases whole
      exact dif_neg occupied

/-- The segments of a parsed template are made from the characters of its source and of one line
break, from years and from ranges. -/
theorem exists_items_of_parse
    {source : Text} {template : Template}
    (parsed : parse source = .ok template) :
    ∃ items, template.segments = Item.segments (Item.endLine (lineBreakOf source) items) ∧
      Item.AllOf (fun c => c ∈ source ∨ c ∈ lineBreakOf source)
        (Item.endLine (lineBreakOf source) items) := by
  rcases parse_eq_ok_iff.1 parsed with ⟨items, written, segments⟩
  exact ⟨items, segments, (Item.allOf_of_spellsAll written).endLine (lineBreakOf source)⟩

/-- A parsed template is made of texts, years and ranges in alternation. -/
theorem alternates_of_parse
    {source : Text} {template : Template}
    (parsed : parse source = .ok template) :
    Segment.alternates template.segments = true := by
  rcases exists_items_of_parse parsed with ⟨items, segments, all⟩
  rw [segments]
  exact (Item.forms_segments _).alternates all

/-- The characters of a template's texts come from its source or from the line break. -/
theorem mem_of_parse
    {source literal : Text} {template : Template}
    (parsed : parse source = .ok template)
    (member : .text literal ∈ template.segments) :
    ∀ c ∈ literal, c ∈ source ∨ c ∈ lineBreakOf source := by
  rcases exists_items_of_parse parsed with ⟨items, segments, all⟩
  rw [segments] at member
  exact (Item.forms_segments _).forall_mem all member

/-- A source without carriage returns gives texts without them. -/
theorem plain_of_parse
    {source literal : Text} {template : Template}
    (parsed : parse source = .ok template)
    (plain : '\r' ∉ source)
    (member : .text literal ∈ template.segments) :
    '\r' ∉ literal := by
  intro inside
  rcases mem_of_parse parsed member '\r' inside with inSource | inBreak
  · exact plain inSource
  · rw [lineBreakOf_of_notMem plain] at inBreak
    cases List.mem_singleton.1 inBreak

/-- A text at the end of a parsed template ends a line. -/
theorem exists_isLineEnd_of_parse
    {source literal : Text} {template : Template}
    (parsed : parse source = .ok template)
    (final : template.segments.getLast? = some (.text literal)) :
    ∃ c, literal.getLast? = some c ∧ isLineEnd c = true := by
  rcases exists_items_of_parse parsed with ⟨items, segments, all⟩
  rw [segments] at final
  rcases (Item.forms_segments _).getLast?_eq all final with ⟨c, inLiteral, inItems⟩
  exact ⟨c, inLiteral, Item.isLineEnd_of_getLast?_endLine (isBreak_lineBreakOf source) inItems⟩

theorem getLast?_of_parse
    {source literal : Text} {template : Template}
    (parsed : parse source = .ok template)
    (plain : '\r' ∉ source)
    (final : template.segments.getLast? = some (.text literal)) :
    literal.getLast? = some '\n' := by
  rcases exists_isLineEnd_of_parse parsed final with ⟨c, last, isEnd⟩
  have plainLiteral := plain_of_parse parsed plain (List.mem_of_getLast? final)
  simp only [isLineEnd, Bool.or_eq_true, beq_iff_eq] at isEnd
  rcases isEnd with rfl | rfl
  · exact absurd (List.mem_of_getLast? last) plainLiteral
  · exact last

end Template

end Masthead
