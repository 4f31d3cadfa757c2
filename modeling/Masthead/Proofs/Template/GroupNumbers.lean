import Masthead.Proofs.Pattern.PrintedGroup
import Masthead.Proofs.Template.Captures

/-!
# The numbers of a template's groups

The pattern of a template is printed segment by segment, each in a group that is named after the
place of the segment.  The group is found by its number, and so are the groups inside it, which the
years of a range are taken from.

The numbers are counted along the segments.  They can be told from the printed text as well: the
group of a segment is found by its name, and the numbers inside it are those up to the next named
group.

The main theorem ties the numbers to the printed text: counting the parentheses that open a group,
whatever the literals hold, gives every segment the number of the group with its name, and a year
range the numbers of the two groups inside.
-/

namespace Masthead

open PrintedGroup

namespace Pattern

/-- What names the group of the segment at an index in a printed pattern. -/
def nameTag (index : Nat) : Text :=
  ['?', 'P', '<', 's', 'e', 'g', 'm', 'e', 'n', 't'] ++ Nat.toDigits 10 index ++ ['>']

/-! ## One segment -/

theorem printNamed_eq (pattern : Pattern) (index : Nat) :
    pattern.printNamed index = '(' :: (nameTag index ++ pattern.print ++ [')']) := by
  have opening : "(?P<segment".toList =
      ['(', '?', 'P', '<', 's', 'e', 'g', 'm', 'e', 'n', 't'] := by decide
  have parts : pattern.printNamed index = "(?P<segment".toList ++ Nat.toDigits 10 index ++
      '>' :: pattern.print ++ [')'] := rfl
  rw [parts, opening, nameTag]
  simp only [List.append_assoc, List.cons_append, List.nil_append]

theorem isBalanced_nameTag (index : Nat) : IsBalanced (nameTag index) :=
  ((IsBalanced.of_all rfl).append (isBalanced_toDigits index)).append (.of_all rfl)

theorem openings_nameTag (index : Nat) : openings (nameTag index) = 0 := by
  have start : IsBalanced ['?', 'P', '<', 's', 'e', 'g', 'm', 'e', 'n', 't'] := .of_all rfl
  have digits := openings_digits_append (Nat.toDigits 10 index)
    (fun c member => Nat.isDigit_of_mem_toDigits (by decide) (by decide) member) ['>']
  rw [nameTag, List.append_assoc, start.openings_append, digits]
  rfl

theorem allFrom_nameTag_append (number start index : Nat) (text : Text) :
    allFrom number start (nameTag index ++ text) =
      allFrom number (start + (nameTag index).length) text := by
  have nothing : allFrom number start (nameTag index) = [] :=
    List.eq_nil_of_length_eq_zero ((length_allFrom _ _ _).trans (openings_nameTag index))
  rw [(isBalanced_nameTag index).allFrom_append, nothing, openings_nameTag, List.nil_append,
    Nat.add_zero]

theorem not_silent_nameTag (index : Nat) (rest : Text) :
    ¬ ['?', ':'] <+: nameTag index ++ rest := by
  rintro ⟨tail, same⟩
  cases same

theorem isBalanced_printNamed (pattern : Pattern) (index : Nat) :
    IsBalanced (pattern.printNamed index) := by
  rw [printNamed_eq]
  exact .capturing (not_silent_nameTag index pattern.print)
    ((isBalanced_nameTag index).append pattern.isBalanced_print) .nil

/-- The group of a segment encloses its name and its pattern, and the groups of the pattern come
next. -/
theorem allFrom_printNamed (pattern : Pattern) (index number start : Nat) :
    allFrom number start (pattern.printNamed index) =
      ⟨number, start, nameTag index ++ pattern.print⟩ ::
        allFrom (number + 1) (start + 1 + (nameTag index).length) pattern.print := by
  have inside := (isBalanced_nameTag index).append pattern.isBalanced_print
  have capturing := IsBalanced.not_silent_append_closing (not_silent_nameTag index pattern.print) []
  have atClosing : allFrom (number + 1 + pattern.groups)
      (start + 1 + (nameTag index).length + pattern.print.length) [')'] = [] := by
    rw [allFrom_plain (by decide) (by decide), allFrom]
  rw [printNamed_eq, allFrom_capturing capturing, inside.beforeClosing_closing, List.append_assoc,
    allFrom_nameTag_append, pattern.isBalanced_print.allFrom_append, openings_print, atClosing,
    List.append_nil]

theorem openings_printNamed (pattern : Pattern) (index : Nat) :
    openings (pattern.printNamed index) = pattern.groups + 1 := by
  rw [← length_allFrom 1 0, allFrom_printNamed, List.length_cons, length_allFrom, openings_print]

theorem length_printNamed (pattern : Pattern) (index : Nat) :
    (pattern.printNamed index).length = 1 + (nameTag index).length + pattern.print.length + 1 := by
  rw [printNamed_eq]
  simp only [List.length_cons, List.length_append, List.length_nil]
  omega

/-! ## All segments -/

theorem isBalanced_printFrom (index : Nat) (patterns : List Pattern) :
    IsBalanced (printFrom index patterns) := by
  induction patterns generalizing index with
  | nil => exact .nil
  | cons pattern patterns ih => exact (pattern.isBalanced_printNamed index).append (ih (index + 1))

theorem openings_printFrom_cons (index : Nat) (pattern : Pattern) (patterns : List Pattern) :
    openings (printFrom index (pattern :: patterns)) =
      pattern.groups + 1 + openings (printFrom (index + 1) patterns) := by
  rw [printFrom, (pattern.isBalanced_printNamed index).openings_append, openings_printNamed]

theorem printFrom_append (first : Nat) (patterns others : List Pattern) :
    printFrom first (patterns ++ others) =
      printFrom first patterns ++ printFrom (first + patterns.length) others := by
  induction patterns generalizing first with
  | nil => rfl
  | cons pattern patterns ih =>
    rw [List.cons_append, printFrom, ih (first + 1), printFrom, List.append_assoc,
      List.length_cons, Nat.add_assoc first 1, Nat.add_comm 1]

theorem length_numberFrom (next : Nat) (patterns : List Pattern) :
    (numberFrom next patterns).length = patterns.length := by
  induction patterns generalizing next with
  | nil => rfl
  | cons pattern patterns ih => rw [numberFrom, List.length_cons, ih, List.length_cons]

/-- The number of a segment comes after those of all groups that are printed before it, and the
numbers inside it come directly after that. -/
theorem getElem?_numberFrom
    {patterns : List Pattern} {pattern : Pattern} {index : Nat}
    (there : patterns[index]? = some pattern)
    (next first : Nat) :
    (numberFrom next patterns)[index]? =
      some (next + openings (printFrom first (patterns.take index)),
        List.range' (next + openings (printFrom first (patterns.take index)) + 1)
          pattern.groups) := by
  induction patterns generalizing next first index with
  | nil => cases there
  | cons other patterns ih =>
    cases index with
    | zero =>
      cases there
      rfl
    | succ index =>
      rw [numberFrom, List.getElem?_cons_succ, ih there _ (first + 1), List.take_succ_cons,
        openings_printFrom_cons, Nat.add_assoc next, Nat.add_assoc next]

/-! ## Names -/

/-- Whether a group is named after the place of the segment at an index. -/
def bearsName (index : Nat) (group : PrintedGroup) : Bool :=
  (nameTag index).isPrefixOf group.enclosed

/-- The number in a name ends where the name does, so no name begins with another one. -/
theorem eq_of_nameTag_append
    {first second : Nat} {rest others : Text}
    (same : nameTag first ++ rest = nameTag second ++ others) :
    first = second := by
  have digits : ∀ index, Text.Within Char.isDigit (Nat.toDigits 10 index) :=
    fun index c member => Nat.isDigit_of_mem_toDigits (by decide) (by decide) member
  have closes : ∀ (rest : Text) c, ('>' :: rest).head? = some c → c.isDigit = false := by
    rintro rest c ⟨⟩
    decide
  simp only [nameTag, List.append_assoc] at same
  have sameDigits : Nat.toDigits 10 first = Nat.toDigits 10 second :=
    ((digits first).append_inj (digits second) (closes rest) (closes others)
      (List.append_cancel_left same)).1
  calc
    first = Nat.ofDigitChars 10 (Nat.toDigits 10 first) 0 := Nat.ofDigitChars_ten_toDigits.symm
    _ = Nat.ofDigitChars 10 (Nat.toDigits 10 second) 0 := by rw [sameDigits]
    _ = second := Nat.ofDigitChars_ten_toDigits

theorem bearsName_iff {index other number start : Nat} {text : Text} :
    bearsName index ⟨number, start, nameTag other ++ text⟩ = true ↔ index = other := by
  rw [bearsName, List.isPrefixOf_iff_prefix]
  constructor
  · rintro ⟨rest, same⟩
    exact eq_of_nameTag_append same
  · rintro rfl
    exact List.prefix_append _ text

end Pattern

namespace Segment

/-- The numbers that a segment has are those of its groups in a printed pattern, where its own group
is printed after some text.  The group with its own number opens there and encloses its name and its
pattern.  The other numbers are those of the groups that open in its pattern, in their order; there
are two for a year range and none for any other segment. -/
structure HasNumbers (segment : Segment) (printed above : Text) (index : Nat)
    (numbers : Nat × List Nat) : Prop where
  stands : above ++ segment.pattern.printNamed index <+: printed
  own : ⟨numbers.1, above.length, Pattern.nameTag index ++ segment.pattern.print⟩ ∈
    PrintedGroup.all printed
  inner : numbers.2 =
    ((PrintedGroup.all printed).filter
      (opensIn (above.length + 1 + (Pattern.nameTag index).length)
        segment.pattern.print.length)).map (·.number)
  years : numbers.2 = if segment = .yearRange then [numbers.1 + 1, numbers.1 + 2] else []

theorem groups_pattern (segment : Segment) :
    segment.pattern.groups = if segment = .yearRange then 2 else 0 := by
  cases segment with
  | text literal => exact groups_concat_map_token (Token.ofLiteral literal)
  | year | yearRange | name => rfl

/-- A literal is printed without a group, whatever it holds. -/
theorem all_print_text (literal : Text) :
    PrintedGroup.all (Segment.text literal).pattern.print = [] := by
  apply List.eq_nil_of_length_eq_zero
  rw [PrintedGroup.all, length_allFrom, Pattern.openings_print, groups_pattern]
  rfl

theorem openings_printFrom (index : Nat) (segments : List Segment) :
    openings (Pattern.printFrom index (segments.map pattern)) =
      segments.length + 2 * segments.count .yearRange := by
  induction segments generalizing index with
  | nil => rfl
  | cons segment segments ih =>
    rw [List.map_cons, Pattern.openings_printFrom_cons, ih, groups_pattern, List.length_cons,
      List.count_cons]
    simp only [beq_iff_eq]
    split
    · omega
    · omega

/-- The groups inside a segment have no name. -/
theorem not_bearsName_of_mem
    {segment : Segment} {group : PrintedGroup} {number start : Nat}
    (member : group ∈ allFrom number start segment.pattern.print)
    (index : Nat) :
    ¬ Pattern.bearsName index group = true := by
  by_cases range : segment = .yearRange
  · subst range
    have nameless : (allFrom number start yearRange.pattern.print).all
        (fun group => !Pattern.bearsName index group) = true := rfl
    simpa using List.all_eq_true.1 nameless group member
  · have nothing : allFrom number start segment.pattern.print = [] := by
      apply List.eq_nil_of_length_eq_zero
      rw [length_allFrom, Pattern.openings_print, groups_pattern, if_neg range]
    rw [nothing] at member
    cases member

/-- Among the groups of consecutive segments only those of the segments have names, each that of
its own place. -/
theorem bounds_of_bearsName
    {segments : List Segment} {group : PrintedGroup} {first number start index : Nat}
    (member : group ∈ allFrom number start (Pattern.printFrom first (segments.map pattern)))
    (named : Pattern.bearsName index group = true) :
    first ≤ index ∧ index < first + segments.length := by
  induction segments generalizing first number start with
  | nil => cases member
  | cons segment segments ih =>
    rw [List.map_cons, Pattern.printFrom,
      (segment.pattern.isBalanced_printNamed first).allFrom_append, Pattern.allFrom_printNamed,
      List.mem_append, List.mem_cons] at member
    rw [List.length_cons]
    rcases member with (rfl | inner) | later
    · obtain rfl := Pattern.bearsName_iff.1 named
      omega
    · exact absurd named (not_bearsName_of_mem inner index)
    · have bounds := ih later
      omega

end Segment

namespace Template

variable {template : Template}

/-- What is printed before the group of the segment at an index. -/
def printedBefore (template : Template) (index : Nat) : Text :=
  Pattern.printFrom 0 (template.patterns.take index)

/-- The group that a segment's pattern is printed in, at an index. -/
def ownGroup (template : Template) (index : Nat) (pattern : Pattern) : PrintedGroup where
  number := 1 + openings (template.printedBefore index)
  start := (template.printedBefore index).length
  enclosed := Pattern.nameTag index ++ pattern.print

theorem getElem?_patterns
    {segment : Segment} {index : Nat}
    (there : template.segments[index]? = some segment) :
    template.patterns[index]? = some segment.pattern := by
  rw [patterns, List.getElem?_map, there, Option.map_some]

theorem isBalanced_printedBefore (template : Template) (index : Nat) :
    IsBalanced (template.printedBefore index) :=
  Pattern.isBalanced_printFrom 0 _

theorem printedBefore_length (template : Template) :
    template.printedBefore template.segments.length = template.printedPattern := by
  rw [printedBefore, ← List.length_map Segment.pattern, ← patterns, List.take_length,
    printedPattern]

theorem printedBefore_succ
    {pattern : Pattern} {index : Nat}
    (there : template.patterns[index]? = some pattern) :
    template.printedBefore (index + 1) =
      template.printedBefore index ++ pattern.printNamed index := by
  rcases List.getElem?_eq_some_iff.1 there with ⟨inside, rfl⟩
  rw [printedBefore, printedBefore, List.take_succ_eq_append_getElem inside,
    Pattern.printFrom_append, List.length_take_of_le inside.le, Nat.zero_add, Pattern.printFrom,
    Pattern.printFrom, List.append_nil]

/-- What is printed before a segment, for it, and after it. -/
theorem exists_printedPattern_eq
    {pattern : Pattern} {index : Nat}
    (there : template.patterns[index]? = some pattern) :
    ∃ below, template.printedPattern =
      template.printedBefore index ++ (pattern.printNamed index ++ below) := by
  refine ⟨Pattern.printFrom (index + 1) (template.patterns.drop (index + 1)), ?_⟩
  have inside : index < template.patterns.length := (List.getElem?_eq_some_iff.1 there).1
  have parts := Pattern.printFrom_append 0 (template.patterns.take (index + 1))
    (template.patterns.drop (index + 1))
  rw [List.take_append_drop, List.length_take_of_le inside, Nat.zero_add, ← printedBefore,
    printedBefore_succ there, List.append_assoc] at parts
  exact parts

/-- The groups before a segment, its own group, and the groups after that. -/
theorem exists_all_printedPattern_eq
    {pattern : Pattern} {index : Nat}
    (there : template.patterns[index]? = some pattern) :
    ∃ after, PrintedGroup.all template.printedPattern =
      allFrom 1 0 (template.printedBefore index) ++ template.ownGroup index pattern :: after := by
  rcases exists_printedPattern_eq there with ⟨below, printed⟩
  rw [printed, PrintedGroup.all, (template.isBalanced_printedBefore index).allFrom_append,
    (pattern.isBalanced_printNamed index).allFrom_append, Nat.zero_add, Pattern.allFrom_printNamed,
    List.cons_append]
  exact ⟨_, rfl⟩

theorem ownGroup_mem_all
    {pattern : Pattern} {index : Nat}
    (there : template.patterns[index]? = some pattern) :
    template.ownGroup index pattern ∈ PrintedGroup.all template.printedPattern := by
  rcases exists_all_printedPattern_eq there with ⟨after, parts⟩
  rw [parts]
  exact List.mem_append_right _ List.mem_cons_self

/-- The groups that open where a segment's pattern is printed are those of the pattern, numbered
after the segment's own group. -/
theorem filter_opensIn_printedPattern
    {pattern : Pattern} {index : Nat}
    (there : template.patterns[index]? = some pattern) :
    (PrintedGroup.all template.printedPattern).filter
        (opensIn ((template.ownGroup index pattern).start + 1 + (Pattern.nameTag index).length)
          pattern.print.length) =
      allFrom ((template.ownGroup index pattern).number + 1)
        ((template.ownGroup index pattern).start + 1 + (Pattern.nameTag index).length)
        pattern.print := by
  rcases exists_printedPattern_eq there with ⟨below, printed⟩
  have length := pattern.length_printNamed index
  have parts : allFrom (1 + openings (template.printedBefore index))
      (template.printedBefore index).length (pattern.printNamed index) =
        template.ownGroup index pattern ::
          allFrom ((template.ownGroup index pattern).number + 1)
            ((template.ownGroup index pattern).start + 1 + (Pattern.nameTag index).length)
            pattern.print :=
    pattern.allFrom_printNamed index _ _
  rw [printed, PrintedGroup.all,
    (template.isBalanced_printedBefore index).filter_opensIn_append
      (pattern.isBalanced_printNamed index) (by dsimp only [ownGroup]; omega)
      (by dsimp only [ownGroup]; omega),
    Nat.zero_add, parts, List.filter_cons_of_neg (not_opensIn_of_lt (by omega)),
    filter_opensIn_allFrom]

/-- The number of the group that is named after an index; after the last segment, the number after
those of all groups. -/
def boundary? (template : Template) (index : Nat) : Option Nat :=
  if index < template.segments.length then
    ((PrintedGroup.all template.printedPattern).find? (Pattern.bearsName index)).map (·.number)
  else
    some ((PrintedGroup.all template.printedPattern).length + 1)

/-- The numbers of the segment at an index as the names tell them: its own number is that of the
group with its name, and the numbers inside it are those up to the next named group. -/
def namedNumbers? (template : Template) (index : Nat) : Option (Nat × List Nat) := do
  let own ← template.boundary? index
  let next ← template.boundary? (index + 1)
  return (own, List.range' (own + 1) (next - (own + 1)))

theorem boundary?_eq {index : Nat} (inside : index ≤ template.segments.length) :
    template.boundary? index = some (1 + openings (template.printedBefore index)) := by
  rw [boundary?]
  split
  · rename_i early
    have there := getElem?_patterns (List.getElem?_eq_getElem early)
    have nothing : (allFrom 1 0 (template.printedBefore index)).find? (Pattern.bearsName index) =
        none := by
      rw [List.find?_eq_none]
      intro group member named
      rw [printedBefore, patterns, ← List.map_take] at member
      have bounds := Segment.bounds_of_bearsName member named
      rw [List.length_take_of_le inside] at bounds
      omega
    have own : Pattern.bearsName index
        (template.ownGroup index template.segments[index].pattern) = true :=
      Pattern.bearsName_iff.2 rfl
    rcases exists_all_printedPattern_eq there with ⟨after, parts⟩
    rw [parts, List.find?_append, nothing, Option.none_or, List.find?_cons_of_pos own]
    rfl
  · obtain rfl : index = template.segments.length := by omega
    rw [printedBefore_length, PrintedGroup.all, length_allFrom, Nat.add_comm]

/-- Counting the groups of the segments gives the numbers that the names tell. -/
theorem namedNumbers?_eq
    {segment : Segment} {index : Nat}
    (there : template.segments[index]? = some segment) :
    template.namedNumbers? index = template.groupNumbers[index]? := by
  have inside : index < template.segments.length := (List.getElem?_eq_some_iff.1 there).1
  have thereToo := getElem?_patterns there
  have next : openings (template.printedBefore (index + 1)) =
      openings (template.printedBefore index) + (segment.pattern.groups + 1) := by
    rw [printedBefore_succ thereToo, (template.isBalanced_printedBefore index).openings_append,
      Pattern.openings_printNamed]
  have counted : template.groupNumbers[index]? =
      some (1 + openings (template.printedBefore index),
        List.range' (1 + openings (template.printedBefore index) + 1) segment.pattern.groups) :=
    Pattern.getElem?_numberFrom thereToo 1 0
  have between : 1 + openings (template.printedBefore (index + 1)) -
      (1 + openings (template.printedBefore index) + 1) = segment.pattern.groups := by
    omega
  rw [namedNumbers?, boundary?_eq inside.le, boundary?_eq inside, counted]
  simp only [Option.bind_eq_bind, Option.bind_some, between]
  rfl

/-- The numbers of a segment are those of its groups, whatever segments stand around it. -/
theorem hasNumbers_of_getElem?
    {segment : Segment} {index : Nat}
    (there : template.segments[index]? = some segment) :
    ∃ numbers, template.groupNumbers[index]? = some numbers ∧
      segment.HasNumbers template.printedPattern (template.printedBefore index) index numbers := by
  have thereToo := getElem?_patterns there
  refine ⟨_, Pattern.getElem?_numberFrom thereToo 1 0, ?_, ownGroup_mem_all thereToo, ?_, ?_⟩
  · rcases exists_printedPattern_eq thereToo with ⟨below, printed⟩
    rw [printed, ← List.append_assoc]
    exact List.prefix_append _ below
  · have inner := congrArg (List.map (·.number)) (filter_opensIn_printedPattern thereToo)
    rw [map_number_allFrom, Pattern.openings_print] at inner
    exact inner.symm
  · rw [Segment.groups_pattern]
    split
    · rfl
    · rfl

/-- The printed pattern of a template has one group for each segment and two more for each year
range.  Whether it is counted or told by the names, the number of a segment is that of the group
which encloses its name and its pattern; with it go the numbers of the two groups inside for a year
range, in their order, and none for any other segment.  So no literal opens a group. -/
theorem groupNumbers_printedPattern (template : Template) :
    (PrintedGroup.all template.printedPattern).length =
        template.segments.length + 2 * template.segments.count .yearRange ∧
      template.groupNumbers.length = template.segments.length ∧
      (∀ index, ∀ segment : Segment, template.segments[index]? = some segment →
        ∃ numbers, template.groupNumbers[index]? = some numbers ∧
          template.namedNumbers? index = some numbers ∧
          segment.HasNumbers template.printedPattern (template.printedBefore index) index
            numbers) ∧
      ∀ literal, PrintedGroup.all (Segment.text literal).pattern.print = [] := by
  refine ⟨?_, ?_, fun index segment there => ?_, Segment.all_print_text⟩
  · rw [PrintedGroup.all, length_allFrom]
    exact Segment.openings_printFrom 0 template.segments
  · rw [groupNumbers, Pattern.length_numberFrom, patterns, List.length_map]
  · rcases hasNumbers_of_getElem? there with ⟨numbers, counted, has⟩
    exact ⟨numbers, counted, (namedNumbers?_eq there).trans counted, has⟩

/-- Two year ranges among literals with parentheses, backslashes, braces and copyright signs. -/
def bracketedSample : Template where
  segments := [.text "(c) \\( \x7b".toList, .yearRange, .text "©)(?:\\".toList, .year, .yearRange,
    .name .standard]
  occupied := by simp

theorem groupNumbers_printedPattern_sample :
    bracketedSample.segments[4]? = some .yearRange ∧
      ∃ numbers, bracketedSample.groupNumbers[4]? = some numbers ∧
        bracketedSample.namedNumbers? 4 = some numbers ∧
        Segment.yearRange.HasNumbers bracketedSample.printedPattern
          (bracketedSample.printedBefore 4) 4 numbers :=
  ⟨rfl, (groupNumbers_printedPattern bracketedSample).2.2.1 4 .yearRange rfl⟩

end Template

end Masthead
