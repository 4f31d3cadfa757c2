import Mathlib.Data.List.Induction
import Mathlib.Data.List.TakeWhile
import Masthead.Segment.Language

/-!
# What a text shows

The blanks before the first character that a text shows, and the blanks after the last one, are
determined by the text.  A text opens plainly if the first character that it shows is no dash, and
it ends shown if no blank follows the last one.
-/

namespace Masthead

namespace Text

theorem Within.of_append
    {test : Char → Bool} {front back : Text}
    (within : Within test (front ++ back)) :
    front.Within test ∧ back.Within test :=
  ⟨fun c member => within c (List.mem_append_left back member),
    fun c member => within c (List.mem_append_right front member)⟩

theorem Within.append
    {test : Char → Bool} {front back : Text}
    (within : front.Within test)
    (withinToo : back.Within test) :
    Within test (front ++ back) := by
  intro c member
  rcases List.mem_append.1 member with inFront | inBack
  · exact within c inFront
  · exact withinToo c inBack

theorem Within.of_head?
    {test : Char → Bool} {front rest : Text} {c : Char}
    (within : front.Within test)
    (occupied : front ≠ [])
    (first : (front ++ rest).head? = some c) :
    test c = true := by
  cases front with
  | nil => exact absurd rfl occupied
  | cons d front =>
    cases first
    exact within c List.mem_cons_self

/-- A longest run that passes a test and what follows it can be told apart. -/
theorem Within.append_inj
    {test : Char → Bool} {first second rest others : Text}
    (within : first.Within test)
    (withinToo : second.Within test)
    (ends : ∀ c, rest.head? = some c → test c = false)
    (endsToo : ∀ c, others.head? = some c → test c = false)
    (same : first ++ rest = second ++ others) :
    first = second ∧ rest = others := by
  rcases List.append_eq_append_iff.1 same with ⟨surplus, rfl, rfl⟩ | ⟨surplus, rfl, rfl⟩
  · cases surplus with
    | nil => simp
    | cons c surplus =>
      have fails := ends c rfl
      rw [withinToo c (by simp)] at fails
      cases fails
  · cases surplus with
    | nil => simp
    | cons c surplus =>
      have fails := endsToo c rfl
      rw [within c (by simp)] at fails
      cases fails

/-! ## The first character shown -/

theorem head?_dropWhile_fails {test : Char → Bool} {text : Text} {c : Char}
    (first : (text.dropWhile test).head? = some c) :
    test c = false := by
  have fails := List.head?_dropWhile_not test text
  rw [first] at fails
  simpa using fails

/-- What is dropped from the front of a text passes the test. -/
theorem exists_of_dropWhile_eq
    {test : Char → Bool} {text rest : Text}
    (dropped : text.dropWhile test = rest) :
    ∃ front, text = front ++ rest ∧ front.Within test := by
  refine ⟨text.takeWhile test, ?_, fun _ => List.mem_takeWhile_imp⟩
  rw [← dropped, List.takeWhile_append_dropWhile]

theorem dropWhile_eq_self_of_head?
    {test : Char → Bool} {text : Text}
    (boundary : ∀ c, text.head? = some c → test c = false) :
    text.dropWhile test = text := by
  cases text with
  | nil => rfl
  | cons c rest => simp [boundary c rfl]

/-- Whether the first character that a text shows exists and is no dash. -/
def opensPlainly (text : Text) : Bool :=
  match text.trimLeft with
  | [] => false
  | c :: _ => !CharSet.isDash c

theorem not_isBlank_of_trimLeft
    {text rest : Text} {c : Char}
    (trimmed : text.trimLeft = c :: rest) :
    isBlank c = false := by
  have first : (text.dropWhile isBlank).head? = some c := by
    rw [← trimLeft, trimmed]
    rfl
  exact head?_dropWhile_fails first

theorem exists_of_opensPlainly {text : Text} (plain : text.opensPlainly = true) :
    ∃ (blanks : Text) (c : Char) (rest : Text), text = blanks ++ c :: rest ∧
      blanks.Within isBlank ∧ isBlank c = false ∧ CharSet.isDash c = false := by
  rw [opensPlainly] at plain
  split at plain
  · cases plain
  · rename_i c rest trimmed
    rcases exists_of_dropWhile_eq trimmed with ⟨blanks, place, blank⟩
    exact ⟨blanks, c, rest, place, blank, not_isBlank_of_trimLeft trimmed, by simpa using plain⟩

theorem trimLeft_append_of_within
    {blanks : Text}
    (blank : blanks.Within isBlank)
    (rest : Text) :
    (blanks ++ rest).trimLeft = rest.trimLeft :=
  List.dropWhile_append_of_pos blank

theorem trimLeft_of_shown
    {c : Char}
    (shown : isBlank c = false)
    (rest : Text) :
    trimLeft (c :: rest) = c :: rest :=
  List.dropWhile_cons_of_neg (by simp [shown])

theorem opensPlainly_append
    {front : Text}
    (plain : front.opensPlainly = true)
    (rest : Text) :
    opensPlainly (front ++ rest) = true := by
  rcases exists_of_opensPlainly plain with ⟨blanks, c, tail, rfl, blank, shown, noDash⟩
  rw [List.append_assoc, List.cons_append, opensPlainly, trimLeft_append_of_within blank,
    trimLeft_of_shown shown]
  simp [noDash]

theorem opensPlainly_append_of_within
    {blanks : Text}
    (within : blanks.Within isBlank)
    (shown : Text) :
    opensPlainly (shown ++ blanks) = shown.opensPlainly := by
  have nothing : blanks.dropWhile isBlank = [] := List.dropWhile_eq_nil_iff.2 within
  rw [opensPlainly, opensPlainly, trimLeft, trimLeft, List.dropWhile_append, nothing]
  cases trimmed : shown.dropWhile isBlank with
  | nil => rfl
  | cons c rest => rfl

/-! ## The last character shown -/

/-- A text is empty or ends in something shown. -/
def EndsShown (text : Text) : Prop := ∀ c, text.getLast? = some c → isBlank c = false

theorem EndsShown.of_append
    (front : Text) {after : Text}
    (shown : EndsShown (front ++ after)) :
    EndsShown after := by
  intro c last
  apply shown c
  rw [List.getLast?_append, last]
  rfl

theorem EndsShown.eq_nil_of_within
    {text : Text}
    (shown : text.EndsShown)
    (blank : text.Within isBlank) :
    text = [] := by
  by_contra occupied
  have last := shown _ (List.getLast?_eq_some_getLast occupied)
  rw [blank _ (List.getLast_mem occupied)] at last
  cases last

theorem endsShown_concat
    (init : Text) {c : Char}
    (shown : isBlank c = false) :
    EndsShown (init ++ [c]) := by
  intro d last
  rw [List.getLast?_concat, Option.some.injEq] at last
  rwa [← last]

theorem exists_endsShown_append (text : Text) :
    ∃ shown blanks : Text, text = shown ++ blanks ∧ shown.EndsShown ∧ blanks.Within isBlank := by
  induction text using List.reverseRecOn with
  | nil => exact ⟨[], [], rfl, by simp [EndsShown], by simp [Within]⟩
  | append_singleton text c ih =>
    by_cases blank : isBlank c = true
    · rcases ih with ⟨shown, blanks, rfl, ends, within⟩
      refine ⟨shown, blanks ++ [c], by simp, ends, ?_⟩
      intro d member
      rcases List.mem_append.1 member with inside | last
      · exact within d inside
      · rw [List.mem_singleton.1 last]
        exact blank
    · exact ⟨text ++ [c], [], by simp, endsShown_concat text (by simpa using blank),
        by simp [Within]⟩

theorem EndsShown.append_of_ne_nil
    {back : Text}
    (shown : back.EndsShown)
    (occupied : back ≠ [])
    (front : Text) :
    EndsShown (front ++ back) := by
  intro c last
  rw [List.getLast?_append, List.getLast?_eq_some_getLast occupied, Option.some_or] at last
  exact shown c ((List.getLast?_eq_some_getLast occupied).trans last)

theorem EndsShown.append
    {front back : Text}
    (shown : front.EndsShown)
    (shownToo : back.EndsShown) :
    EndsShown (front ++ back) := by
  cases back with
  | nil => rwa [List.append_nil]
  | cons c back => exact shownToo.append_of_ne_nil (List.cons_ne_nil c back) front

theorem EndsShown.trimRight_eq {text : Text} (shown : text.EndsShown) : text.trimRight = text := by
  induction text with
  | nil => rfl
  | cons c rest ih =>
    rw [trimRight, ih (shown.of_append [c])]
    cases rest with
    | nil => rw [shown c rfl]; rfl
    | cons d rest => rfl

theorem endsShown_trimRight (text : Text) : text.trimRight.EndsShown := by
  induction text with
  | nil => simp [trimRight, EndsShown]
  | cons c rest ih =>
    rw [trimRight]
    split
    · split
      · simp [EndsShown]
      · rename_i shown
        exact endsShown_concat [] (by simpa using shown)
    · rename_i occupied
      exact ih.append_of_ne_nil occupied [c]

theorem trimRight_sublist (text : Text) : text.trimRight.Sublist text := by
  induction text with
  | nil => exact List.Sublist.refl _
  | cons c rest ih =>
    rw [trimRight]
    split
    · split
      · exact List.nil_sublist _
      · exact (List.nil_sublist rest).cons_cons c
    · exact ih.cons_cons c

theorem trim_sublist (text : Text) : text.trim.Sublist text :=
  (trimRight_sublist _).trans (List.dropWhile_sublist isBlank)

/-- A text is trimmed if it neither begins nor ends with a blank. -/
theorem trim_eq_self_iff {text : Text} :
    text.trim = text ↔ (∀ c, text.head? = some c → isBlank c = false) ∧ text.EndsShown := by
  constructor
  · intro trimmed
    have whole : text.trimLeft = text := by
      apply List.IsSuffix.eq_of_length (List.dropWhile_suffix isBlank)
      have shorter := (List.dropWhile_sublist (l := text) isBlank).length_le
      have longer := (trimRight_sublist text.trimLeft).length_le
      rw [← trim, trimmed] at longer
      exact Nat.le_antisymm shorter longer
    constructor
    · intro c first
      rw [← whole] at first
      exact head?_dropWhile_fails first
    · rw [← trimmed]
      exact endsShown_trimRight text.trimLeft
  · rintro ⟨first, last⟩
    rw [trim, trimLeft, dropWhile_eq_self_of_head? first, last.trimRight_eq]

/-- What is shown is not dropped with the blanks before a rest. -/
theorem EndsShown.eq_nil_of_trimLeft_eq
    {text rest : Text}
    (shown : text.EndsShown)
    (same : (text ++ rest).trimLeft = rest.trimLeft) :
    text = [] := by
  cases trimmed : text.trimLeft with
  | nil => exact shown.eq_nil_of_within (List.dropWhile_eq_nil_iff.1 trimmed)
  | cons c visible =>
    rw [trimLeft] at trimmed
    rw [trimLeft, trimLeft, List.dropWhile_append, trimmed] at same
    have lengths := congrArg List.length same
    have dropped := (List.dropWhile_sublist (l := rest) isBlank).length_le
    simp at lengths
    omega

/-- Where a text is divided after something shown in two ways, and what follows shows the same, it
is divided at one place. -/
theorem EndsShown.append_inj_of_trimLeft_eq
    {first second rest others : Text}
    (shown : first.EndsShown)
    (shownToo : second.EndsShown)
    (alike : rest.trimLeft = others.trimLeft)
    (same : first ++ rest = second ++ others) :
    first = second ∧ rest = others := by
  rcases List.append_eq_append_iff.1 same with ⟨surplus, rfl, rfl⟩ | ⟨surplus, rfl, rfl⟩
  · rw [(shownToo.of_append first).eq_nil_of_trimLeft_eq alike]
    simp
  · rw [(shown.of_append second).eq_nil_of_trimLeft_eq alike.symm]
    simp

/-- What is shown and the blanks after it can be told apart. -/
theorem EndsShown.append_inj
    {first second blanks others : Text}
    (shown : first.EndsShown)
    (shownToo : second.EndsShown)
    (within : blanks.Within isBlank)
    (withinToo : others.Within isBlank)
    (same : first ++ blanks = second ++ others) :
    first = second ∧ blanks = others := by
  apply shown.append_inj_of_trimLeft_eq shownToo _ same
  rw [trimLeft, List.dropWhile_eq_nil_iff.2 within, trimLeft, List.dropWhile_eq_nil_iff.2 withinToo]

end Text

end Masthead
