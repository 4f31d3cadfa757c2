import Masthead.Proofs.Segment.Token

/-!
# Latin letters in either case

Nothing that a header is read by tells a Latin capital from its small letter: neither the sets of
characters and the comparison of letters, nor the lower case of a whole text, where a final sigma
depends on its neighbours, nor the lines of a text.  Each of these is shown to be the same once all
Latin capitals are made small.  Texts that differ only in the case of Latin letters become equal by
that.
-/

namespace Masthead

/-! ## Characters -/

/-- One character is another, or the same Latin letter in the other case. -/
def Recased (c d : Char) : Prop := d = c ∨ d = c.toLower ∨ d = c.toUpper

instance (c d : Char) : Decidable (Recased c d) :=
  inferInstanceAs (Decidable (d = c ∨ d = c.toLower ∨ d = c.toUpper))

/-- What holds of every code point of the Latin core holds of every character there. -/
theorem forall_latin {P : Char → Prop} (holds : ∀ code < 0x80, P (Char.ofNat code)) {c : Char}
    (latin : c.toNat < 0x80) :
    P c := by
  have here := holds c.toNat latin
  rwa [Char.ofNat_toNat] at here

/-- What does not tell a character of the Latin core from its small letter tells none from its small
letter. -/
theorem observe_toLower {α : Type} (observe : Char → α)
    (same : ∀ code < 0x80, observe (Char.ofNat code).toLower = observe (Char.ofNat code))
    (c : Char) :
    observe c.toLower = observe c := by
  by_cases latin : c.toNat < 0x80
  · exact forall_latin (P := fun c => observe c.toLower = observe c) same latin
  · rw [toLower_of_not_capital (by omega)]

@[simp]
theorem isBlank_toLower (c : Char) : isBlank c.toLower = isBlank c :=
  observe_toLower isBlank (by decide +kernel) c

@[simp]
theorem isLineEnd_toLower (c : Char) : isLineEnd c.toLower = isLineEnd c :=
  observe_toLower isLineEnd (by decide +kernel) c

@[simp]
theorem isHorizontalBlank_toLower (c : Char) :
    isHorizontalBlank c.toLower = isHorizontalBlank c := by
  rw [isHorizontalBlank, isHorizontalBlank, isBlank_toLower, isLineEnd_toLower]

@[simp]
theorem isDecimal_toLower (c : Char) : isDecimal c.toLower = isDecimal c :=
  observe_toLower isDecimal (by decide +kernel) c

@[simp]
theorem isDash_toLower (c : Char) : CharSet.isDash c.toLower = CharSet.isDash c :=
  observe_toLower CharSet.isDash (by decide +kernel) c

@[simp]
theorem letterKey_toLower (c : Char) : letterKey c.toLower = letterKey c :=
  observe_toLower letterKey (by decide +kernel) c

@[simp]
theorem lowerChar_toLower (c : Char) : lowerChar c.toLower = lowerChar c :=
  observe_toLower lowerChar (by decide +kernel) c

/-- A Latin letter has a case, whichever case it is in. -/
@[simp]
theorem listed_casedRanges_toLower (c : Char) :
    CodeRange.listed casedRanges c.toLower = CodeRange.listed casedRanges c := by
  by_cases capital : 0x41 ≤ c.toNat ∧ c.toNat ≤ 0x5A
  · have cased : CodeRange.listed casedRanges c = true :=
      List.any_eq_true.2 ⟨⟨0x41, 0x5A⟩, .head _, CodeRange.contains_iff.2 capital⟩
    have casedToo : CodeRange.listed casedRanges c.toLower = true :=
      List.any_eq_true.2 ⟨⟨0x61, 0x7A⟩, .tail _ (.head _), contains_toLower_of_capital capital⟩
    rw [cased, casedToo]
  · rw [toLower_of_not_capital capital]

theorem listed_eq_false_of_isApart
    {ranges : List CodeRange} {range : CodeRange}
    (apart : ranges.all (·.isApart range) = true)
    {c : Char}
    (member : range.contains c.toNat = true) :
    CodeRange.listed ranges c = false := by
  rw [CodeRange.listed, List.any_eq_false]
  intro other inTable
  exact CodeRange.not_contains_of_isApart (List.all_eq_true.1 apart other inTable) member

/-- A Latin letter is never looked through, whichever case it is in. -/
@[simp]
theorem listed_caseIgnorableRanges_toLower (c : Char) :
    CodeRange.listed caseIgnorableRanges c.toLower =
      CodeRange.listed caseIgnorableRanges c := by
  by_cases capital : 0x41 ≤ c.toNat ∧ c.toNat ≤ 0x5A
  · have capitals : caseIgnorableRanges.all (·.isApart ⟨0x41, 0x5A⟩) = true := by
      decide +kernel
    have smalls : caseIgnorableRanges.all (·.isApart ⟨0x61, 0x7A⟩) = true := by
      decide +kernel
    rw [listed_eq_false_of_isApart capitals (CodeRange.contains_iff.2 capital),
      listed_eq_false_of_isApart smalls (contains_toLower_of_capital capital)]
  · rw [toLower_of_not_capital capital]

@[simp]
theorem toLower_toLower (c : Char) : c.toLower.toLower = c.toLower :=
  observe_toLower Char.toLower (by decide +kernel) c

theorem toLower_toUpper (c : Char) : c.toUpper.toLower = c.toLower := by
  by_cases latin : c.toNat < 0x80
  · exact forall_latin (P := fun c => c.toUpper.toLower = c.toLower) (by decide +kernel) latin
  · have unchanged : c.toUpper = c := by
      refine dif_neg ?_
      rintro ⟨-, greatest⟩
      have bound : c.toNat ≤ 0x7A := UInt32.le_iff_toNat_le.1 greatest
      omega
    rw [unchanged]

theorem toLower_eq_of_recased {c d : Char} (recased : Recased c d) : d.toLower = c.toLower := by
  rcases recased with rfl | rfl | rfl
  · rfl
  · exact toLower_toLower c
  · exact toLower_toUpper c

/-- A character without case is the small letter of itself alone. -/
theorem HasNoCase.toLower_eq_iff {c d : Char} (noCase : HasNoCase d) : c.toLower = d ↔ c = d := by
  rcases noCase with ⟨range, caseless, member⟩
  exact toLower_eq_iff_of_isCaseless caseless member

/-! ## Texts -/

namespace Text

/-- Two texts differ at most in the case of Latin letters. -/
def Recased (text changed : Text) : Prop := List.Forall₂ Masthead.Recased text changed

instance (text changed : Text) : Decidable (text.Recased changed) :=
  inferInstanceAs (Decidable (List.Forall₂ Masthead.Recased text changed))

/-- A text with its Latin capitals made small. -/
def withoutCapitals (text : Text) : Text := text.map Char.toLower

@[simp]
theorem withoutCapitals_nil : withoutCapitals [] = [] := rfl

@[simp]
theorem withoutCapitals_cons (c : Char) (rest : Text) :
    withoutCapitals (c :: rest) = c.toLower :: withoutCapitals rest := rfl

@[simp]
theorem withoutCapitals_append (front back : Text) :
    withoutCapitals (front ++ back) = withoutCapitals front ++ withoutCapitals back :=
  List.map_append

@[simp]
theorem length_withoutCapitals (text : Text) : text.withoutCapitals.length = text.length :=
  List.length_map Char.toLower

@[simp]
theorem head?_withoutCapitals (text : Text) :
    text.withoutCapitals.head? = text.head?.map Char.toLower :=
  List.head?_map

@[simp]
theorem withoutCapitals_take (count : Nat) (text : Text) :
    withoutCapitals (text.take count) = text.withoutCapitals.take count :=
  List.map_take

/-- Recased texts are the same without their capitals. -/
theorem Recased.withoutCapitals_eq
    {text changed : Text}
    (recased : text.Recased changed) :
    changed.withoutCapitals = text.withoutCapitals := by
  induction recased with
  | nil => rfl
  | cons same _ ih =>
    rw [withoutCapitals_cons, withoutCapitals_cons, toLower_eq_of_recased same, ih]

/-- A text without case has no capitals. -/
theorem withoutCapitals_of_hasNoCase
    {text : Text}
    (noCase : ∀ c ∈ text, HasNoCase c) :
    text.withoutCapitals = text := by
  have small : ∀ c ∈ text, c.toLower = c := fun c member => (noCase c member).toLower_eq_iff.2 rfl
  rw [withoutCapitals, List.map_congr_left small, List.map_id']

section Tests

variable {test : Char → Bool} (unchanged : ∀ c : Char, test c.toLower = test c)
include unchanged

theorem within_withoutCapitals {text : Text} (within : text.Within test) :
    text.withoutCapitals.Within test := by
  intro c member
  rcases List.mem_map.1 member with ⟨d, inText, rfl⟩
  rw [unchanged]
  exact within d inText

theorem dropWhile_withoutCapitals (text : Text) :
    text.withoutCapitals.dropWhile test = withoutCapitals (text.dropWhile test) := by
  have same : test ∘ Char.toLower = test := funext unchanged
  rw [withoutCapitals, List.dropWhile_map, same]
  rfl

theorem takeWhile_withoutCapitals (text : Text) :
    text.withoutCapitals.takeWhile test = withoutCapitals (text.takeWhile test) := by
  have same : test ∘ Char.toLower = test := funext unchanged
  rw [withoutCapitals, List.takeWhile_map, same]
  rfl

theorem all_withoutCapitals (text : Text) :
    text.withoutCapitals.all test = text.all test := by
  have same : test ∘ Char.toLower = test := funext unchanged
  rw [withoutCapitals, List.all_map, same]

end Tests

/-! ### The lower case of a text -/

theorem meetsCased_withoutCapitals (text : Text) :
    meetsCased text.withoutCapitals = meetsCased text := by
  rw [meetsCased, meetsCased, dropWhile_withoutCapitals listed_caseIgnorableRanges_toLower]
  cases text.dropWhile (CodeRange.listed caseIgnorableRanges) with
  | nil => rfl
  | cons c rest => exact listed_casedRanges_toLower c

theorem lowerBetween_withoutCapitals (before : Text) (c : Char) (after : Text) :
    lowerBetween before.withoutCapitals c.toLower after.withoutCapitals =
      lowerBetween before c after := by
  have sigma : (c.toLower == '\u03A3') = (c == '\u03A3') :=
    observe_toLower (· == '\u03A3') (by decide +kernel) c
  have dottedI : (c.toLower == '\u0130') = (c == '\u0130') :=
    observe_toLower (· == '\u0130') (by decide +kernel) c
  rw [lowerBetween, lowerBetween, sigma, dottedI, meetsCased_withoutCapitals,
    meetsCased_withoutCapitals, lowerChar_toLower]

theorem lowerAfter_withoutCapitals (before text : Text) :
    lowerAfter before.withoutCapitals text.withoutCapitals = lowerAfter before text := by
  induction text generalizing before with
  | nil => rfl
  | cons c rest ih =>
    rw [withoutCapitals_cons, lowerAfter, lowerAfter, lowerBetween_withoutCapitals,
      ← withoutCapitals_cons, ih]

theorem lower_withoutCapitals (text : Text) : text.withoutCapitals.lower = text.lower :=
  lowerAfter_withoutCapitals [] text

/-! ### The lines of a text -/

theorem withoutCapitals_of_isBreak {ending : Text} (isBreak : ending.IsBreak) :
    ending.withoutCapitals = ending := by
  rcases isBreak with rfl | rfl | rfl <;> rfl

theorem head?_withoutCapitals_eq_feed_iff {text : Text} :
    text.withoutCapitals.head? = some '\n' ↔ text.head? = some '\n' := by
  cases text with
  | nil => exact Iff.rfl
  | cons c rest =>
    have feed : HasNoCase '\n' := hasNoCase_of_isSymbol (by decide)
    simp [feed.toLower_eq_iff]

theorem leadingBreak?_withoutCapitals (text : Text) :
    leadingBreak? text.withoutCapitals =
      (leadingBreak? text).map fun (ending, rest) => (ending, rest.withoutCapitals) := by
  cases broken : leadingBreak? text with
  | none =>
    apply leadingBreak?_eq_none
    intro c first
    rw [head?_withoutCapitals, Option.map_eq_some_iff] at first
    rcases first with ⟨d, first, rfl⟩
    rw [isLineEnd_toLower]
    exact not_isLineEnd_of_leadingBreak? broken first
  | some found =>
    rcases found with ⟨ending, rest⟩
    rcases isBreak_of_leadingBreak? broken with ⟨isBreak, whole⟩
    rw [eq_append_of_leadingBreak? broken, withoutCapitals_append,
      withoutCapitals_of_isBreak isBreak, leadingBreak?_append isBreak]
    · rfl
    · intro single
      rw [Ne, head?_withoutCapitals_eq_feed_iff]
      exact whole single

end Text

/-- A line with its Latin capitals made small. -/
def Line.withoutCapitals (line : Line) : Line := ⟨line.content.withoutCapitals, line.ending⟩

namespace Text

theorem lines_of_leadingBreak?
    {text ending rest : Text}
    (broken : leadingBreak? (text.dropWhile (!isLineEnd ·)) = some (ending, rest)) :
    text.lines = ⟨text.takeWhile (!isLineEnd ·), ending⟩ :: rest.lines := by
  rw [lines.eq_def]
  split
  · rename_i nothing
    rw [List.isEmpty_iff.1 nothing] at broken
    cases broken
  · dsimp only
    split
    · rename_i again
      rw [broken] at again
      cases again
      rfl
    · rename_i unbroken
      rw [broken] at unbroken
      cases unbroken

theorem lines_of_unbroken
    {text : Text}
    (occupied : text ≠ [])
    (unbroken : leadingBreak? (text.dropWhile (!isLineEnd ·)) = none) :
    text.lines = [⟨text.takeWhile (!isLineEnd ·), []⟩] := by
  rw [lines.eq_def, if_neg (by simpa using occupied)]
  dsimp only
  split
  · rename_i broken
    rw [unbroken] at broken
    cases broken
  · rfl

theorem lines_withoutCapitals (text : Text) :
    text.withoutCapitals.lines = text.lines.map Line.withoutCapitals := by
  have shown : ∀ c : Char, (!isLineEnd c.toLower) = !isLineEnd c := by
    simp
  fun_induction lines text with
  | case1 text nothing =>
    rw [List.isEmpty_iff.1 nothing, withoutCapitals_nil, lines]
    rfl
  | case2 text _ content ending rest broken ih =>
    have brokenToo : leadingBreak? (text.withoutCapitals.dropWhile (!isLineEnd ·)) =
        some (ending, rest.withoutCapitals) := by
      rw [dropWhile_withoutCapitals shown, leadingBreak?_withoutCapitals, broken]
      rfl
    rw [lines_of_leadingBreak? brokenToo, takeWhile_withoutCapitals shown, ih]
    rfl
  | case3 text occupied content unbroken =>
    have unbrokenToo : leadingBreak? (text.withoutCapitals.dropWhile (!isLineEnd ·)) = none := by
      rw [dropWhile_withoutCapitals shown, leadingBreak?_withoutCapitals, unbroken]
      rfl
    rw [lines_of_unbroken (by simpa [withoutCapitals] using occupied) unbrokenToo,
      takeWhile_withoutCapitals shown]
    rfl

end Text

end Masthead
