import Masthead.Proofs.Template.Source
import Masthead.Proofs.Text.UnifiedBreaks

/-!
# Templates with unified line breaks

Unifying the line breaks of a source before it is read does to the template what unifying the line
breaks of its texts would do.  Names of special segments hold no line break, so the source is cut
into items at the same places; a break that is added at the end is a line feed then.  A source that
is refused is still refused for the same reason, with the breaks unified in a name that is quoted.
-/

namespace Masthead

namespace Registry

theorem keys_standard :
    standard.entries.map Prod.fst =
      [['y', 'e', 'a', 'r'], ['y', 'e', 'a', 'r', 'r', 'a', 'n', 'g', 'e']] := by
  decide +kernel

/-- No known name holds a line end. -/
theorem not_isLineEnd_of_standard
    {name : Text} {definition : Definition}
    (known : standard.get? name = some definition) :
    ∀ c ∈ name, isLineEnd c = false := by
  rcases List.lookup_eq_some_iff.1 known with ⟨before, after, entries, -⟩
  have listed : name.fold ∈ standard.entries.map Prod.fst := by simp [entries]
  have plain : ∀ c ∈ name.fold, isLineEnd c = false := by
    rw [keys_standard, List.mem_cons, List.mem_singleton] at listed
    rcases listed with same | same
    all_goals
      rw [same]
      simp [isLineEnd]
  intro c member
  by_contra isEnd
  rw [Bool.not_eq_false] at isEnd
  have folded : c ∈ name.fold := by
    refine List.mem_flatMap.2 ⟨c, member, ?_⟩
    simp only [isLineEnd, Bool.or_eq_true, beq_iff_eq] at isEnd
    rcases isEnd with rfl | rfl
    all_goals decide
  rw [plain c folded] at isEnd
  cases isEnd

end Registry

namespace Item

/-- Items with every line break among them spelled as a line feed. -/
def unifyBreaks : List Item → List Item
  | [] => []
  | .literal '\r' :: rest =>
      if rest.head? = some (.literal '\n') then unifyBreaks rest
      else .literal '\n' :: unifyBreaks rest
  | item :: rest => item :: unifyBreaks rest

theorem unifyBreaks_cons
    {item : Item}
    (plain : item ≠ .literal '\r')
    (rest : List Item) :
    unifyBreaks (item :: rest) = item :: unifyBreaks rest := by
  rw [unifyBreaks]
  exact plain

theorem head?_eq_feed_iff
    {registry : Registry} {items : List Item} {source : Text}
    (written : SpellsAll registry items source) :
    items.head? = some (.literal '\n') ↔ source.head? = some '\n' := by
  cases items with
  | nil =>
    obtain rfl := written
    simp
  | cons item items =>
    rcases written with ⟨front, back, rfl, first, -⟩
    cases item with
    | literal c =>
      rw [Spells] at first
      split at first
      all_goals
        subst first
        simp
    | special segment =>
      rcases first with ⟨name, _, rfl, -⟩
      simp

/-- Unifying the breaks of a source unifies those of its items. -/
theorem SpellsAll.unifyBreaks
    {items : List Item} {source : Text}
    (written : SpellsAll Registry.standard items source) :
    SpellsAll Registry.standard (Item.unifyBreaks items) source.unifyBreaks := by
  induction items generalizing source with
  | nil =>
    obtain rfl := written
    rfl
  | cons item items ih =>
    rcases written with ⟨front, back, rfl, first, others⟩
    by_cases return_ : item = .literal '\r'
    · subst return_
      obtain rfl : front = ['\r'] := first
      rw [List.singleton_append, Item.unifyBreaks]
      by_cases feed : items.head? = some (.literal '\n')
      · rw [if_pos feed, Text.unifyBreaks_return_feed ((head?_eq_feed_iff others).1 feed)]
        exact ih others
      · rw [if_neg feed, Text.unifyBreaks_return ((head?_eq_feed_iff others).not.1 feed)]
        exact ⟨['\n'], _, rfl, rfl, ih others⟩
    · have plain : '\r' ∉ front := by
        cases item with
        | literal c =>
          have other : '\r' ≠ c := by
            rintro rfl
            exact return_ rfl
          rw [Spells] at first
          split at first
          all_goals
            subst first
            simpa using other
        | special segment =>
          rcases first with ⟨name, definition, rfl, -, -, known, -⟩
          have within := Registry.not_isLineEnd_of_standard known '\r'
          simp only [List.mem_cons, List.mem_append, List.not_mem_nil, or_false]
          rintro (opening | inside | closing)
          · cases opening
          · cases within inside
          · cases closing
      rw [Text.unifyBreaks_append_of_notMem plain, unifyBreaks_cons return_]
      exact ⟨front, _, rfl, first, ih others⟩

theorem unifyBreaks_map_append
    {items : List Item}
    (ended : ∀ c, items.head? ≠ some (.literal c))
    (literal : Text) :
    unifyBreaks (literal.map .literal ++ items) =
      literal.unifyBreaks.map .literal ++ unifyBreaks items := by
  induction literal with
  | nil => rfl
  | cons c literal ih =>
    have heads : (literal.map Item.literal ++ items).head? = some (.literal '\n') ↔
        literal.head? = some '\n' := by
      cases literal with
      | nil => simp [ended '\n']
      | cons d literal => simp
    rw [List.map_cons, List.cons_append]
    by_cases return_ : c = '\r'
    · subst return_
      rw [unifyBreaks]
      by_cases feed : literal.head? = some '\n'
      · rw [if_pos (heads.2 feed), Text.unifyBreaks_return_feed feed, ih]
      · rw [if_neg (heads.not.2 feed), Text.unifyBreaks_return feed, ih]
        rfl
    · have plain : Item.literal c ≠ .literal '\r' := by simpa using return_
      rw [unifyBreaks_cons plain, Text.unifyBreaks_cons return_, ih]
      rfl

end Item

/-! ## Segments -/

namespace Segment

/-- A segment whose literal has its line breaks unified. -/
def unifyBreaks : Segment → Segment
  | text literal => text literal.unifyBreaks
  | other => other

/-- Completing the last line and unifying the breaks can be done in either order. -/
theorem endLine_unifyBreaks
    {lineBreak : Text}
    (isBreak : lineBreak.IsBreak)
    (segments : List Segment) :
    endLine ['\n'] (segments.map unifyBreaks) = (endLine lineBreak segments).map unifyBreaks := by
  rw [endLine, endLine, List.getLast?_map]
  cases segments.getLast? with
  | none => rfl
  | some segment =>
    cases segment with
    | text literal =>
      simp only [Option.map_some, unifyBreaks, Text.any_isLineEnd_getLast?_unifyBreaks]
      split
      · rfl
      · rename_i unended
        have apart : literal.getLast? = some '\r' → lineBreak.head? ≠ some '\n' := by
          intro last
          simp [last, isLineEnd] at unended
        have feed : lineBreak.unifyBreaks = ['\n'] := by
          rcases isBreak with rfl | rfl | rfl
          all_goals rfl
        rw [List.map_append, List.map_dropLast, List.map_singleton, unifyBreaks,
          Text.unifyBreaks_append apart, feed]
    | year => rfl
    | yearRange => rfl
    | name placeholder => rfl

end Segment

namespace Item

/-- Unifying the breaks of items unifies those of the texts that are formed from them. -/
theorem Forms.unifyBreaks
    {items : List Item} {formed : List Segment}
    (forms : Forms items formed)
    (noText : ∀ literal, .special (.text literal) ∉ items) :
    Forms (Item.unifyBreaks items) (formed.map Segment.unifyBreaks) := by
  induction forms with
  | nothing => exact .nothing
  | @special items formed segment others ih =>
    have same : segment.unifyBreaks = segment := by
      cases segment with
      | text literal => exact absurd List.mem_cons_self (noText literal)
      | _ => rfl
    rw [List.map_cons, same, unifyBreaks_cons (by simp)]
    exact .special segment
      (ih fun literal member => noText literal (List.mem_cons_of_mem _ member))
  | @run literal items formed occupied ended others ih =>
    have occupiedToo : literal.unifyBreaks ≠ [] := by rwa [Ne, Text.unifyBreaks_eq_nil_iff]
    have endedToo : ∀ c, (Item.unifyBreaks items).head? ≠ some (.literal c) := by
      cases items with
      | nil => simp [Item.unifyBreaks]
      | cons item items =>
        cases item with
        | literal c => exact absurd rfl (ended c)
        | special segment => simp [Item.unifyBreaks]
    rw [unifyBreaks_map_append ended]
    exact .run occupiedToo endedToo
      (ih fun literal member => noText literal (List.mem_append_right _ member))

end Item

namespace Template

/-! ## Accepted sources -/

/-- A template whose texts have their line breaks unified. -/
def unifyBreaks (template : Template) : Template where
  segments := template.segments.map Segment.unifyBreaks
  occupied := by simpa using template.occupied

/-- Unifying the breaks of a source unifies those of the template that it gives. -/
theorem parse_unifyBreaks
    {source : Text} {template : Template}
    (parsed : parse source = .ok template) :
    parse source.unifyBreaks = .ok template.unifyBreaks := by
  rcases parse_eq_ok_iff.1 parsed with ⟨items, written, segments⟩
  have forms := Item.forms_segments items
  have unified := forms.unifyBreaks (Item.noText_of_spellsAll written)
  refine parse_eq_ok_iff.2 ⟨_, written.unifyBreaks, ?_⟩
  rw [lineBreakOf_of_notMem (Text.notMem_unifyBreaks source),
    unified.segments_endLine written.unifyBreaks,
    Segment.endLine_unifyBreaks (isBreak_lineBreakOf source), ← forms.segments_endLine written,
    ← segments]
  rfl

end Template

/-! ## Refused sources -/

namespace ParseError

/-- An error in which the name that is quoted, if any, has its line breaks unified. -/
def unifyBreaks : ParseError → ParseError
  | unknownSegment name position => unknownSegment name.unifyBreaks position
  | other => other

end ParseError

namespace Registry

/-- An unknown name does not become known. -/
theorem get?_unifyBreaks
    {name : Text}
    (unknown : standard.get? name = none) :
    standard.get? name.unifyBreaks = none := by
  cases known : standard.get? name.unifyBreaks with
  | none => rfl
  | some definition =>
    have noFeed : '\n' ∉ name.unifyBreaks := fun member =>
      absurd (not_isLineEnd_of_standard known '\n' member) (by decide)
    rw [Text.unifyBreaks_eq_self (Text.notMem_of_feed_notMem_unifyBreaks noFeed),
      unknown] at known
    cases known

end Registry

namespace Item

/-- Reading a source is refused with a message, wherever the source begins. -/
def Refuses (message : String) (source : Text) : Prop :=
  ∀ position, ∃ error, readAt Registry.standard position source = .error error ∧
    error.message = message

theorem Refuses.cons
    {message : String} {item : Item} {front back : Text}
    (written : item.Spells Registry.standard front)
    (refuses : Refuses message back) :
    Refuses message (front ++ back) := by
  intro position
  rcases refuses (position + front.length) with ⟨error, refused, same⟩
  refine ⟨error, ?_, same⟩
  rw [readAt_append_of_spells written, refused]
  rfl

theorem refuses_strayBrace
    {rest : Text}
    (single : rest.head? ≠ some '\x7d') :
    Refuses (ParseError.strayBrace 0).message ('\x7d' :: rest) := by
  intro position
  refine ⟨.strayBrace position, ?_, rfl⟩
  rw [readAt]
  rintro tail rfl
  exact single rfl

theorem refuses_unclosedBrace
    {rest : Text}
    (unclosed : '\x7d' ∉ rest)
    (single : rest.head? ≠ some '\x7b') :
    Refuses (ParseError.unclosedBrace 0).message ('\x7b' :: rest) := by
  intro position
  refine ⟨.unclosedBrace position, ?_, rfl⟩
  have opened : ∀ tail, rest ≠ '\x7b' :: tail := by
    rintro tail rfl
    exact single rfl
  have nothing : rest.dropWhile (· != '\x7d') = [] := by
    rw [List.dropWhile_eq_nil_iff]
    intro c member
    rw [bne_iff_ne]
    rintro rfl
    exact unclosed member
  rw [readAt.eq_5 _ _ _ opened]
  split
  · rfl
  · rename_i found
    rw [nothing] at found
    cases found

theorem refuses_unknownSegment
    {name : Text}
    (inside : '\x7d' ∉ name)
    (unknown : Registry.standard.get? name = none)
    (after : Text)
    (single : (name ++ '\x7d' :: after).head? ≠ some '\x7b') :
    Refuses (ParseError.unknownSegment name 0).message ('\x7b' :: (name ++ '\x7d' :: after)) := by
  intro position
  refine ⟨.unknownSegment name position, ?_, rfl⟩
  have opened : ∀ tail, name ++ '\x7d' :: after ≠ '\x7b' :: tail := by
    intro tail doubled
    rw [doubled] at single
    exact single rfl
  have passes : ∀ c ∈ name, (c != '\x7d') = true := by
    intro c member
    rw [bne_iff_ne]
    rintro rfl
    exact inside member
  have taken : (name ++ '\x7d' :: after).takeWhile (· != '\x7d') = name :=
    takeWhile_append_cons passes (by simp)
  have left : (name ++ '\x7d' :: after).dropWhile (· != '\x7d') = '\x7d' :: after :=
    dropWhile_append_cons passes (by simp)
  rw [readAt.eq_5 _ _ _ opened]
  split
  · rename_i nothing
    rw [left] at nothing
    cases nothing
  · rw [taken, unknown]

/-- A source with unified breaks is refused where the source is, and for the same reason. -/
theorem refuses_unifyBreaks
    {position : Nat} {source : Text} {error : ParseError}
    (refused : readAt Registry.standard position source = .error error) :
    Refuses error.unifyBreaks.message source.unifyBreaks := by
  fun_induction readAt Registry.standard position source with
  | case1 => cases refused
  | case2 position rest ih =>
    have written : (Item.literal '\x7b').Spells Registry.standard ['\x7b', '\x7b'] := rfl
    exact (ih (map_eq_error_iff.1 refused)).cons written
  | case3 position rest ih =>
    have written : (Item.literal '\x7d').Spells Registry.standard ['\x7d', '\x7d'] := rfl
    exact (ih (map_eq_error_iff.1 refused)).cons written
  | case4 position rest single =>
    cases refused
    have singleToo : rest.head? ≠ some '\x7d' := by
      simpa [List.head?_eq_some_iff] using single
    exact refuses_strayBrace (Text.head?_unifyBreaks_ne rfl singleToo)
  | case5 position rest single unclosed =>
    cases refused
    have singleToo : rest.head? ≠ some '\x7b' := by
      simpa [List.head?_eq_some_iff] using single
    refine refuses_unclosedBrace ?_ (Text.head?_unifyBreaks_ne rfl singleToo)
    rw [Text.mem_unifyBreaks_iff rfl]
    exact notMem_of_dropWhile_eq_nil unclosed
  | case6 position rest single name closing after broken unknown =>
    cases refused
    rcases closed_of_dropWhile broken with ⟨whole, inside⟩
    have singleToo : rest.head? ≠ some '\x7b' := by
      simpa [List.head?_eq_some_iff] using single
    have insideToo : '\x7d' ∉ Text.unifyBreaks name := by
      rw [Text.mem_unifyBreaks_iff rfl]
      exact fun member => inside _ member rfl
    have unified : Text.unifyBreaks rest =
        Text.unifyBreaks name ++ '\x7d' :: Text.unifyBreaks after := by
      rw [whole, Text.unifyBreaks_append (by simp), Text.unifyBreaks_cons (by decide)]
    have singleUnified := Text.head?_unifyBreaks_ne rfl singleToo
    rw [Text.unifyBreaks_cons (by decide), unified]
    rw [unified] at singleUnified
    exact refuses_unknownSegment insideToo (Registry.get?_unifyBreaks unknown) _ singleUnified
  | case7 position rest single name closing after broken definition known =>
    rename_i ih
    rcases closed_of_dropWhile broken with ⟨whole, inside⟩
    have written := spells_special single whole inside known
    have plain : '\r' ∉ '\x7b' :: (name ++ ['\x7d']) := by
      have within := Registry.not_isLineEnd_of_standard known '\r'
      simpa using fun member => absurd (within member) (by decide)
    have refuses := (ih (map_eq_error_iff.1 refused)).cons written
    rw [← Text.unifyBreaks_append_of_notMem plain] at refuses
    rwa [List.cons_append, List.append_assoc, List.singleton_append, ← whole] at refuses
  | case8 position c rest _ _ close opening ih =>
    have refuses := ih (map_eq_error_iff.1 refused)
    have plain : isBrace c = false := by
      simp only [isBrace, Bool.or_eq_false_iff, beq_eq_false_iff_ne, ne_eq]
      exact ⟨opening, close⟩
    by_cases return_ : c = '\r'
    · subst return_
      by_cases feed : rest.head? = some '\n'
      · rwa [Text.unifyBreaks_return_feed feed]
      · rw [Text.unifyBreaks_return feed]
        have written : (Item.literal '\n').Spells Registry.standard ['\n'] := rfl
        exact refuses.cons written
    · rw [Text.unifyBreaks_cons return_]
      have written : (Item.literal c).Spells Registry.standard [c] := by simp [Spells, plain]
      exact refuses.cons written

end Item

namespace Template

/-- A source is refused after its breaks are unified if it was before, and for the same reason. -/
theorem exists_parse_unifyBreaks_eq_error
    {source : Text} {error : ParseError}
    (refused : parse source = .error error) :
    ∃ other, parse source.unifyBreaks = .error other ∧
      other.message = error.unifyBreaks.message := by
  by_cases occupied : source = []
  · subst occupied
    rw [parse_nil] at refused
    cases refused
    exact ⟨.emptySource, parse_nil, rfl⟩
  · have read := readAt_of_parse_eq_error occupied refused
    rcases Item.refuses_unifyBreaks read 0 with ⟨other, failed, same⟩
    refine ⟨other, ?_, same⟩
    rw [parse, failed]
    rfl

end Template

/-! ## Where unifying changes something -/

namespace ParseError

-- Messages are compared by this equation: unfolding them would compare their wordings as strings.
theorem message_unknownSegment (name : Text) (position : Nat) :
    (unknownSegment name position).message =
      "Unrecognized special segment '" ++ name.toString ++ "'" := rfl

theorem message_unifyBreaks_eq_iff {error : ParseError} :
    error.unifyBreaks.message = error.message ↔ '\r' ∉ error.message.toList := by
  cases error with
  | unknownSegment name position =>
    have wording : '\r' ∉ "Unrecognized special segment '".toList := by decide +kernel
    have quote : '\r' ∉ "'".toList := by decide +kernel
    rw [unifyBreaks, message_unknownSegment, message_unknownSegment, ← String.toList_inj]
    simp only [String.toList_append, Text.toString, String.toList_ofList,
      List.append_cancel_left_eq, List.append_cancel_right_eq, List.mem_append, wording, quote,
      false_or, or_false]
    exact Text.unifyBreaks_eq_self_iff
  | unclosedBrace position =>
    have plain : '\r' ∉ (unclosedBrace 0).message.toList := by decide +kernel
    exact iff_of_true rfl plain
  | strayBrace position =>
    have plain : '\r' ∉ (strayBrace 0).message.toList := by decide +kernel
    exact iff_of_true rfl plain
  | emptySource =>
    have plain : '\r' ∉ emptySource.message.toList := by decide +kernel
    exact iff_of_true rfl plain

end ParseError

namespace Item

/-- The line ends of a source are items of it. -/
theorem literal_mem_of_spellsAll
    {items : List Item} {source : Text} {c : Char}
    (written : SpellsAll Registry.standard items source)
    (isEnd : isLineEnd c = true)
    (member : c ∈ source) :
    .literal c ∈ items := by
  induction items generalizing source with
  | nil =>
    obtain rfl := written
    cases member
  | cons item items ih =>
    rcases written with ⟨front, back, rfl, first, others⟩
    rcases List.mem_append.1 member with inFront | inBack
    · cases item with
      | literal d =>
        rw [Spells] at first
        split at first
        all_goals
          subst first
          obtain rfl : c = d := by simpa using inFront
          exact List.mem_cons_self
      | special segment =>
        rcases first with ⟨name, definition, rfl, -, -, known, -⟩
        simp only [List.mem_cons, List.mem_append, List.not_mem_nil, or_false] at inFront
        rcases inFront with rfl | inName | rfl
        · cases isEnd
        · rw [Registry.not_isLineEnd_of_standard known c inName] at isEnd
          cases isEnd
        · cases isEnd
    · exact List.mem_cons_of_mem item (ih others inBack)

theorem mem_endLine
    {item : Item} {items : List Item}
    (member : item ∈ items)
    (lineBreak : Text) :
    item ∈ endLine lineBreak items := by
  rw [endLine]
  split
  · split
    · exact member
    · exact List.mem_append_left _ member
  · exact member

/-- Every character among the items stands in a text that is formed from them. -/
theorem Forms.exists_text
    {items : List Item} {formed : List Segment} {c : Char}
    (forms : Forms items formed)
    (member : .literal c ∈ items) :
    ∃ literal, .text literal ∈ formed ∧ c ∈ literal := by
  induction forms with
  | nothing => cases member
  | special segment others ih =>
    rcases ih (by simpa using member) with ⟨literal, inFormed, inside⟩
    exact ⟨literal, List.mem_cons_of_mem _ inFormed, inside⟩
  | @run literal items formed occupied ended others ih =>
    rcases List.mem_append.1 member with inRun | later
    · exact ⟨literal, List.mem_cons_self, by simpa using inRun⟩
    · rcases ih later with ⟨other, inFormed, inside⟩
      exact ⟨other, List.mem_cons_of_mem _ inFormed, inside⟩

end Item

namespace Template

variable {source : Text} {template : Template}

/-- The line ends of a source stand in the texts of its template. -/
theorem exists_text_of_parse
    {c : Char}
    (parsed : parse source = .ok template)
    (isEnd : isLineEnd c = true)
    (member : c ∈ source) :
    ∃ literal, .text literal ∈ template.segments ∧ c ∈ literal := by
  rcases parse_eq_ok_iff.1 parsed with ⟨items, written, segments⟩
  have listed := Item.literal_mem_of_spellsAll written isEnd member
  rw [segments]
  exact (Item.forms_segments _).exists_text (Item.mem_endLine listed (lineBreakOf source))

/-- Unifying the breaks changes a template that is read from a source with a carriage return. -/
theorem unifyBreaks_eq_self_iff_of_parse (parsed : parse source = .ok template) :
    template.unifyBreaks = template ↔ '\r' ∉ source := by
  have unified := parse_unifyBreaks parsed
  constructor
  · intro same member
    rcases exists_text_of_parse parsed rfl member with ⟨literal, listed, inside⟩
    rw [same] at unified
    exact plain_of_parse unified (Text.notMem_unifyBreaks source) listed inside
  · intro plain
    rw [Text.unifyBreaks_eq_self plain, parsed] at unified
    exact (Except.ok.inj unified).symm

end Template

end Masthead
