import Masthead.Template.Parser

/-!
# The grammar of template sources

A source is written item by item: a character that is no brace as itself, a brace twice, and a
special segment as a name of it between braces.  The main statement is that reading a source
succeeds with some items exactly when the source is written from them in this way.  Segments can
also be written back as a source.
-/

namespace Masthead

/-- Whether a character is one of the two braces, which have a meaning of their own in a source. -/
def isBrace (c : Char) : Bool := c == '\x7b' || c == '\x7d'

namespace Item

/-- The ways to write an item. -/
def Spells (registry : Registry) : Item → Text → Prop
  | literal c, source => if isBrace c then source = [c, c] else source = [c]
  | special segment, source =>
      ∃ (name : Text) (definition : Definition), source = '\x7b' :: (name ++ ['\x7d']) ∧
        (∀ c ∈ name, c ≠ '\x7d') ∧ name.head? ≠ some '\x7b' ∧
          registry.get? name = some definition ∧ definition.segment = segment

/-- The ways to write some items, one after the other. -/
def SpellsAll (registry : Registry) : List Item → Text → Prop
  | [], source => source = []
  | item :: rest, source =>
      ∃ front back, source = front ++ back ∧ item.Spells registry front ∧
        SpellsAll registry rest back

theorem map_eq_ok_iff {α β ε : Type} {outcome : Except ε α} {f : α → β} {result : β} :
    outcome.map f = .ok result ↔ ∃ value, outcome = .ok value ∧ f value = result := by
  cases outcome <;> simp [Except.map]

theorem takeWhile_append_cons {test : Char → Bool} {front back : Text} {c : Char}
    (passes : ∀ d ∈ front, test d = true) (fails : test c = false) :
    (front ++ c :: back).takeWhile test = front := by
  rw [List.takeWhile_append_of_pos passes]
  simp [fails]

theorem dropWhile_append_cons {test : Char → Bool} {front back : Text} {c : Char}
    (passes : ∀ d ∈ front, test d = true) (fails : test c = false) :
    (front ++ c :: back).dropWhile test = c :: back := by
  rw [List.dropWhile_append_of_pos passes]
  simp [fails]

theorem head_of_dropWhile {test : Char → Bool} {text after : Text} {c : Char}
    (h : text.dropWhile test = c :: after) : test c = false := by
  have fails := List.head?_dropWhile_not test text
  rw [h] at fails
  simpa using fails

/-- What stands before the first closing brace of a text has none. -/
theorem closed_of_dropWhile {text after : Text} {closing : Char}
    (broken : text.dropWhile (· != '\x7d') = closing :: after) :
    text = text.takeWhile (· != '\x7d') ++ '\x7d' :: after ∧
      ∀ c ∈ text.takeWhile (· != '\x7d'), c ≠ '\x7d' := by
  have closes : closing = '\x7d' := by simpa using head_of_dropWhile broken
  subst closes
  constructor
  · rw [← broken]
    exact (List.takeWhile_append_dropWhile).symm
  · intro c member
    simpa using List.all_eq_true.1 List.all_takeWhile c member

/-- A known name between two single braces is written for its segment. -/
theorem spells_special {registry : Registry} {rest name after : Text} {definition : Definition}
    (single : ∀ tail, rest ≠ '\x7b' :: tail) (whole : rest = name ++ '\x7d' :: after)
    (inside : ∀ c ∈ name, c ≠ '\x7d') (known : registry.get? name = some definition) :
    (special definition.segment).Spells registry ('\x7b' :: (name ++ ['\x7d'])) := by
  refine ⟨name, definition, rfl, inside, ?_, known, rfl⟩
  intro doubled
  cases name with
  | nil => simp at doubled
  | cons d tail =>
    simp only [List.head?_cons, Option.some.injEq] at doubled
    subst doubled
    exact single _ whole

/-- A source that is read has been written from the items it is read as. -/
theorem spellsAll_of_readAt {registry : Registry} {position : Nat} {source : Text}
    {items : List Item} (h : readAt registry position source = .ok items) :
    SpellsAll registry items source := by
  fun_induction readAt registry position source generalizing items with
  | case1 position =>
    obtain rfl := Except.ok.inj h
    rfl
  | case2 position rest ih =>
    obtain ⟨others, read, rfl⟩ := map_eq_ok_iff.1 h
    exact ⟨['\x7b', '\x7b'], rest, rfl, rfl, ih read⟩
  | case3 position rest ih =>
    obtain ⟨others, read, rfl⟩ := map_eq_ok_iff.1 h
    exact ⟨['\x7d', '\x7d'], rest, rfl, rfl, ih read⟩
  | case4 => simp at h
  | case5 => simp at h
  | case6 => simp at h
  | case7 position rest single name closing after broken definition known =>
    rename_i ih
    obtain ⟨others, read, rfl⟩ := map_eq_ok_iff.1 h
    obtain ⟨whole, inside⟩ := closed_of_dropWhile broken
    refine ⟨'\x7b' :: (name ++ ['\x7d']), after, ?_, ?_, ih read⟩
    · rw [List.cons_append, List.append_assoc, List.singleton_append, ← whole]
    · exact spells_special single whole inside known
  | case8 position c rest _ _ close opening ih =>
    obtain ⟨others, read, rfl⟩ := map_eq_ok_iff.1 h
    have plain : isBrace c = false := by
      simp only [isBrace, Bool.or_eq_false_iff, beq_eq_false_iff_ne, ne_eq]
      exact ⟨opening, close⟩
    exact ⟨[c], rest, rfl, by simp [Spells, plain], ih read⟩

/-- An item is read where it is written, and the rest is read on. -/
theorem readAt_append_of_spells {registry : Registry} {position : Nat} {front back : Text}
    {item : Item} (written : item.Spells registry front) :
    readAt registry position (front ++ back) =
      (readAt registry (position + front.length) back).map (item :: ·) := by
  cases item with
  | literal c =>
    simp only [Spells] at written
    split at written
    · rename_i brace
      subst written
      simp only [isBrace, Bool.or_eq_true, beq_iff_eq] at brace
      rcases brace with rfl | rfl <;> simp [readAt]
    · rename_i plain
      subst written
      simp only [isBrace, Bool.or_eq_true, beq_iff_eq, not_or] at plain
      simp [readAt, plain.1, plain.2]
  | special segment =>
    obtain ⟨name, definition, rfl, inside, single, known, rfl⟩ := written
    have passes : ∀ c ∈ name, (c != '\x7d') = true := by simpa using inside
    have opened : ∀ tail, name ++ '\x7d' :: back ≠ '\x7b' :: tail := by
      intro tail doubled
      cases name with
      | nil => simp at doubled
      | cons c name =>
        simp only [List.cons_append, List.cons.injEq] at doubled
        exact single (by simp [doubled.1])
    have shape : '\x7b' :: (name ++ ['\x7d']) ++ back = '\x7b' :: (name ++ '\x7d' :: back) := by
      simp
    have length : position + ('\x7b' :: (name ++ ['\x7d'])).length =
        position + name.length + 2 := by
      simp
      omega
    have taken : (name ++ '\x7d' :: back).takeWhile (· != '\x7d') = name :=
      takeWhile_append_cons passes (by simp)
    have left : (name ++ '\x7d' :: back).dropWhile (· != '\x7d') = '\x7d' :: back :=
      dropWhile_append_cons passes (by simp)
    rw [shape, length, readAt.eq_5 registry position _ opened]
    split
    · rename_i nothing
      simp [left] at nothing
    · rename_i after found
      obtain ⟨_, rfl⟩ := List.cons.inj (left.symm.trans found)
      rw [taken, known]

/-- A part of a source that is written from some items is read as them, and the rest is read on. -/
theorem readAt_append_of_spellsAll {registry : Registry} {position : Nat} {front back : Text}
    {items : List Item} (h : SpellsAll registry items front) :
    readAt registry position (front ++ back) =
      (readAt registry (position + front.length) back).map (items ++ ·) := by
  induction items generalizing position front with
  | nil =>
    obtain rfl := h
    cases outcome : readAt registry position back <;> simp [Except.map, outcome]
  | cons item others ih =>
    obtain ⟨first, second, rfl, written, rest⟩ := h
    rw [List.append_assoc, readAt_append_of_spells written, ih rest, List.length_append,
      Nat.add_assoc]
    cases readAt registry (position + (first.length + second.length)) back <;> simp [Except.map]

/-- A source that is written from some items is read as them. -/
theorem readAt_of_spellsAll {registry : Registry} {position : Nat} {source : Text}
    {items : List Item} (h : SpellsAll registry items source) :
    readAt registry position source = .ok items := by
  have read : readAt registry position (source ++ []) =
      (readAt registry (position + source.length) []).map (items ++ ·) :=
    readAt_append_of_spellsAll h
  rw [List.append_nil, readAt] at read
  simpa [Except.map] using read

/-- A source is read as some items exactly when it is written from them. -/
theorem readAt_eq_ok_iff {registry : Registry} {position : Nat} {source : Text}
    {items : List Item} :
    readAt registry position source = .ok items ↔ SpellsAll registry items source :=
  ⟨spellsAll_of_readAt, readAt_of_spellsAll⟩

end Item

namespace Segment

/-- A literal as a source writes it, every brace twice. -/
def doubleBraces (literal : Text) : Text :=
  literal.flatMap fun c => if isBrace c then [c, c] else [c]

/-- A segment as a source writes it; a name is written as its standard placeholder. -/
def source : Segment → Text
  | text literal => doubleBraces literal
  | year => '\x7b' :: (Registry.yearDefinition.name ++ ['\x7d'])
  | yearRange => '\x7b' :: (Registry.yearRangeDefinition.name ++ ['\x7d'])
  | name _ => Placeholder.standardText

def sourceAll (segments : List Segment) : Text := segments.flatMap source

end Segment

end Masthead
