import Masthead.Pattern.Basic

/-!
# Characters without case

Matching compares letters by their representatives.  A character that no case table mentions is its
own representative and nobody else's, so it matches itself alone, and it is its own lower case
wherever it stands.  The tables are compared with whole ranges of characters, which covers every
blank, every dash and the brackets of a copyright sign.  Decimal digits are neither blanks nor
dashes.
-/

namespace Masthead

namespace CodeRange

/-- Two ranges have no code point in common. -/
def isApart (first second : CodeRange) : Bool :=
  first.last < second.first || second.last < first.first

theorem contains_iff {range : CodeRange} {code : Nat} :
    range.contains code = true ↔ range.first ≤ code ∧ code ≤ range.last := by
  simp [contains]

theorem isApart_iff {first second : CodeRange} :
    first.isApart second = true ↔ first.last < second.first ∨ second.last < first.first := by
  simp [isApart]

theorem not_contains_of_isApart
    {first second : CodeRange}
    (apart : first.isApart second = true)
    {code : Nat}
    (member : second.contains code = true) :
    ¬ first.contains code = true := by
  rw [contains_iff] at member ⊢
  rw [isApart_iff] at apart
  omega

/-- The code points that stand for no character. -/
def surrogates : CodeRange := ⟨0xD800, 0xDFFF⟩

end CodeRange

namespace CodeRun

/-- The code points that a run may map. -/
def domain (run : CodeRun) : CodeRange := ⟨run.first, run.last⟩

/-- The code points that a run may map to. -/
def images (run : CodeRun) : CodeRange := ⟨run.image, run.image + (run.last - run.first)⟩

/-- Every image of a run is a character. -/
def mapsToCharacters (run : CodeRun) : Bool :=
  run.images.isApart CodeRange.surrogates && run.images.last < 0x110000

theorem toNat_ofNat_of_mapsToCharacters
    {run : CodeRun}
    (characters : run.mapsToCharacters = true)
    {code : Nat}
    (member : run.images.contains code = true) :
    (Char.ofNat code).toNat = code := by
  have valid : code.isValidChar := by
    rw [mapsToCharacters, Bool.and_eq_true, CodeRange.isApart_iff, decide_eq_true_eq] at characters
    rw [CodeRange.contains_iff] at member
    simp only [CodeRange.surrogates] at characters
    simp only [Nat.isValidChar]
    omega
  rw [Char.ofNat, dif_pos valid]
  rfl

theorem covers_iff {run : CodeRun} {code : Nat} :
    run.covers code = true ↔
      (run.first ≤ code ∧ code ≤ run.last) ∧ (code - run.first) % run.step = 0 := by
  simp [covers]

theorem contains_domain_of_covers
    {run : CodeRun} {code : Nat}
    (covered : run.covers code = true) :
    run.domain.contains code = true := by
  rw [CodeRange.contains_iff]
  exact (covers_iff.1 covered).1

theorem contains_images_of_covers
    {run : CodeRun} {code : Nat}
    (covered : run.covers code = true) :
    run.images.contains (run.image + (code - run.first)) = true := by
  have inside := (covers_iff.1 covered).1
  rw [CodeRange.contains_iff]
  simp only [images]
  omega

/-- The runs neither map a code point of a range nor map one into it. -/
def spare (runs : List CodeRun) (range : CodeRange) : Bool :=
  runs.all fun run => run.domain.isApart range && run.images.isApart range

/-- A character outside the domains has no image. -/
theorem image?_eq_none_of_spare
    {runs : List CodeRun} {range : CodeRange}
    (spared : spare runs range = true)
    {c : Char}
    (member : range.contains c.toNat = true) :
    image? runs c = none := by
  simp only [image?, Option.map_eq_none_iff, List.find?_eq_none]
  intro run inTable covered
  have apart := List.all_eq_true.1 spared run inTable
  rw [Bool.and_eq_true] at apart
  exact CodeRange.not_contains_of_isApart apart.1 member (contains_domain_of_covers covered)

/-- No character has an image in a range that the runs spare. -/
theorem image?_ne_some_of_spare
    {runs : List CodeRun} {range : CodeRange}
    (characters : runs.all mapsToCharacters = true)
    (spared : spare runs range = true)
    {c d : Char}
    (member : range.contains d.toNat = true) :
    image? runs c ≠ some d := by
  intro mapped
  simp only [image?, Option.map_eq_some_iff] at mapped
  rcases mapped with ⟨run, found, rfl⟩
  have inTable := List.mem_of_find?_eq_some found
  have covered := List.find?_some found
  have reached := contains_images_of_covers covered
  rw [toNat_ofNat_of_mapsToCharacters (List.all_eq_true.1 characters run inTable) reached] at member
  have apart := List.all_eq_true.1 spared run inTable
  rw [Bool.and_eq_true] at apart
  exact CodeRange.not_contains_of_isApart apart.2 member reached

end CodeRun

theorem lowerRuns_mapsToCharacters : lowerRuns.all CodeRun.mapsToCharacters = true := by
  decide +kernel

theorem foldRuns_mapsToCharacters : foldRuns.all CodeRun.mapsToCharacters = true := by
  decide +kernel

/-- A range that no case table mentions, neither for what it maps nor for what it maps to. -/
def isCaseless (range : CodeRange) : Bool :=
  CodeRun.spare lowerRuns range && CodeRun.spare foldRuns range &&
    CodeRange.isApart ⟨0x41, 0x5A⟩ range && CodeRange.isApart ⟨0x61, 0x7A⟩ range &&
    letterTwins.all fun (left, right) =>
      !range.contains left.toNat && !range.contains right.toNat

theorem toLower_of_capital {c : Char} (capital : 0x41 ≤ c.toNat ∧ c.toNat ≤ 0x5A) :
    c.toLower.toNat = c.toNat + 0x20 := by
  have upper : c.val ≥ 'A'.val ∧ c.val ≤ 'Z'.val := by
    constructor
    · exact UInt32.le_iff_toNat_le.2 capital.1
    · exact UInt32.le_iff_toNat_le.2 capital.2
  have small : (c.val + ('a'.val - 'A'.val)).toNat = c.val.toNat + 0x20 := by
    have bound : c.val.toNat ≤ 0x5A := capital.2
    rw [UInt32.toNat_add]
    exact Nat.mod_eq_of_lt (by simp; omega)
  exact (congrArg Char.toNat (dif_pos upper)).trans small

/-- The small letter of a capital is among the small letters. -/
theorem contains_toLower_of_capital {c : Char} (capital : 0x41 ≤ c.toNat ∧ c.toNat ≤ 0x5A) :
    CodeRange.contains ⟨0x61, 0x7A⟩ c.toLower.toNat = true := by
  rw [CodeRange.contains_iff, toLower_of_capital capital]
  simp only
  omega

theorem toLower_of_not_capital {c : Char} (plain : ¬ (0x41 ≤ c.toNat ∧ c.toNat ≤ 0x5A)) :
    c.toLower = c := by
  refine dif_neg ?_
  rintro ⟨least, greatest⟩
  exact plain ⟨UInt32.le_iff_toNat_le.1 least, UInt32.le_iff_toNat_le.1 greatest⟩

theorem isCaseless_iff {range : CodeRange} :
    isCaseless range = true ↔
      CodeRun.spare lowerRuns range = true ∧ CodeRun.spare foldRuns range = true ∧
        CodeRange.isApart ⟨0x41, 0x5A⟩ range = true ∧
          CodeRange.isApart ⟨0x61, 0x7A⟩ range = true ∧
            ∀ pair ∈ letterTwins, ¬ range.contains pair.1.toNat = true ∧
              ¬ range.contains pair.2.toNat = true := by
  simp [isCaseless, and_assoc]

section Caseless

variable {range : CodeRange} (caseless : isCaseless range = true)
include caseless

theorem toLower_eq_iff_of_isCaseless {c d : Char} (member : range.contains d.toNat = true) :
    c.toLower = d ↔ c = d := by
  rcases isCaseless_iff.1 caseless with ⟨-, -, capitals, smalls, -⟩
  by_cases capital : 0x41 ≤ c.toNat ∧ c.toNat ≤ 0x5A
  · constructor
    · rintro rfl
      exact absurd (contains_toLower_of_capital capital)
        (CodeRange.not_contains_of_isApart smalls member)
    · rintro rfl
      exact absurd (CodeRange.contains_iff.2 capital)
        (CodeRange.not_contains_of_isApart capitals member)
  · rw [toLower_of_not_capital capital]

theorem lowerChar_eq_iff_of_isCaseless {c d : Char} (member : range.contains d.toNat = true) :
    lowerChar c = d ↔ c = d := by
  rcases isCaseless_iff.1 caseless with ⟨spared, -⟩
  rw [lowerChar]
  split
  · exact toLower_eq_iff_of_isCaseless caseless member
  · constructor
    · intro same
      cases mapped : CodeRun.image? lowerRuns c with
      | none => simpa [mapped] using same
      | some image =>
        simp only [mapped, Option.getD_some] at same
        subst same
        exact absurd mapped
          (CodeRun.image?_ne_some_of_spare lowerRuns_mapsToCharacters spared member)
    · rintro rfl
      rw [CodeRun.image?_eq_none_of_spare spared member, Option.getD_none]

theorem foldChar_eq_iff_of_isCaseless {c d : Char} (member : range.contains d.toNat = true) :
    foldChar c = d ↔ c = d := by
  rcases isCaseless_iff.1 caseless with ⟨-, spared, -⟩
  rw [foldChar]
  split
  · exact toLower_eq_iff_of_isCaseless caseless member
  · constructor
    · intro same
      cases mapped : CodeRun.image? foldRuns c with
      | none =>
        rw [mapped, Option.getD_none] at same
        exact (lowerChar_eq_iff_of_isCaseless caseless member).1 same
      | some image =>
        simp only [mapped, Option.getD_some] at same
        subst same
        exact absurd mapped
          (CodeRun.image?_ne_some_of_spare foldRuns_mapsToCharacters spared member)
    · rintro rfl
      rw [CodeRun.image?_eq_none_of_spare spared member, Option.getD_none]
      exact (lowerChar_eq_iff_of_isCaseless caseless member).2 rfl

/-- A character of a caseless range represents itself alone. -/
theorem letterKey_eq_iff_of_isCaseless {c d : Char} (member : range.contains d.toNat = true) :
    letterKey c = d ↔ c = d := by
  rcases isCaseless_iff.1 caseless with ⟨-, -, -, -, twins⟩
  rw [letterKey]
  split
  · exact toLower_eq_iff_of_isCaseless caseless member
  · refine Iff.trans ?_ (foldChar_eq_iff_of_isCaseless caseless member)
    constructor
    · intro same
      cases twin : letterTwins.lookup (foldChar c) with
      | none => simpa [twin] using same
      | some image =>
        simp only [twin, Option.getD_some] at same
        subst same
        rcases List.lookup_eq_some_iff.1 twin with ⟨before, after, split, -⟩
        have listed : (foldChar c, image) ∈ letterTwins := by simp [split]
        exact absurd member (twins _ listed).2
    · intro same
      have untwinned : letterTwins.lookup d = none := by
        rw [List.lookup_eq_none_iff]
        intro pair listed
        rw [bne_iff_ne]
        rintro rfl
        exact (twins pair listed).1 member
      simp only [same, untwinned, Option.getD_none]

/-- A character of a caseless range is the same letter as itself alone. -/
theorem eq_of_sameLetter_of_isCaseless
    {c d : Char}
    (member : range.contains d.toNat = true)
    (same : sameLetter c d = true) :
    c = d := by
  rw [sameLetter, beq_iff_eq, (letterKey_eq_iff_of_isCaseless caseless member).2 rfl] at same
  exact (letterKey_eq_iff_of_isCaseless caseless member).1 same

end Caseless

/-- A character that no case table mentions. -/
def HasNoCase (c : Char) : Prop :=
  ∃ range : CodeRange, isCaseless range = true ∧ range.contains c.toNat = true

/-- A character without case is the same letter as itself alone. -/
theorem HasNoCase.eq_of_sameLetter
    {c d : Char}
    (noCase : HasNoCase d)
    (same : sameLetter c d = true) :
    c = d := by
  rcases noCase with ⟨range, caseless, member⟩
  exact eq_of_sameLetter_of_isCaseless caseless member same

/-- A character without case is its own lower case, between any neighbours. -/
theorem HasNoCase.lowerBetween_eq
    {c : Char}
    (noCase : HasNoCase c)
    (before after : Text) :
    lowerBetween before c after = [c] := by
  rcases noCase with ⟨range, caseless, member⟩
  have unmapped : CodeRun.image? lowerRuns c = none :=
    CodeRun.image?_eq_none_of_spare (isCaseless_iff.1 caseless).1 member
  have noSigma : c ≠ '\u03A3' := by
    rintro rfl
    exact absurd unmapped (by decide +kernel)
  have noDottedI : c ≠ '\u0130' := by
    rintro rfl
    exact absurd unmapped (by decide +kernel)
  have unchanged : lowerChar c = c := (lowerChar_eq_iff_of_isCaseless caseless member).2 rfl
  simp [lowerBetween, noSigma, noDottedI, unchanged]

theorem lowerAfter_of_hasNoCase
    {text : Text}
    (noCase : ∀ c ∈ text, HasNoCase c)
    (before : Text) :
    lowerAfter before text = text := by
  induction text generalizing before with
  | nil => rfl
  | cons c rest ih =>
    have others : ∀ d ∈ rest, HasNoCase d :=
      fun d member => noCase d (List.mem_cons_of_mem c member)
    rw [lowerAfter, (noCase c List.mem_cons_self).lowerBetween_eq, ih others]
    rfl

/-- A text without case is its own lower case. -/
theorem Text.lower_of_hasNoCase {text : Text} (noCase : ∀ c ∈ text, HasNoCase c) :
    text.lower = text :=
  lowerAfter_of_hasNoCase noCase []

/-- The ranges of the characters that structure a header: blanks, dashes and brackets, with their
neighbours that are no letters either. -/
def symbolRanges : List CodeRange :=
  [⟨0x0, 0x40⟩, ⟨0x5B, 0x60⟩, ⟨0x7B, 0xA9⟩, ⟨0x1680, 0x1680⟩, ⟨0x2000, 0x206F⟩, ⟨0x3000, 0x3000⟩]

theorem symbolRanges_isCaseless : symbolRanges.all isCaseless = true := by
  decide +kernel

/-- Whether a character lies in the ranges of symbols. -/
def isSymbol (c : Char) : Bool := CodeRange.listed symbolRanges c

theorem isSymbol_iff {c : Char} :
    isSymbol c = true ↔
      c.toNat ≤ 0x40 ∨ (0x5B ≤ c.toNat ∧ c.toNat ≤ 0x60) ∨ (0x7B ≤ c.toNat ∧ c.toNat ≤ 0xA9) ∨
        c.toNat = 0x1680 ∨ (0x2000 ≤ c.toNat ∧ c.toNat ≤ 0x206F) ∨ c.toNat = 0x3000 := by
  simp only [isSymbol, CodeRange.listed, symbolRanges, List.any_cons, List.any_nil, Bool.or_eq_true,
    CodeRange.contains_iff, Bool.false_eq_true, or_false]
  omega

theorem hasNoCase_of_isSymbol {c : Char} (symbol : isSymbol c = true) : HasNoCase c := by
  rcases List.any_eq_true.1 symbol with ⟨range, listed, member⟩
  exact ⟨range, List.all_eq_true.1 symbolRanges_isCaseless range listed, member⟩

/-- A symbol is the same letter as itself alone. -/
theorem eq_of_sameLetter_of_isSymbol
    {c d : Char}
    (symbol : isSymbol d = true)
    (same : sameLetter c d = true) :
    c = d :=
  (hasNoCase_of_isSymbol symbol).eq_of_sameLetter same

theorem isSymbol_of_isBlank {c : Char} (blank : isBlank c = true) : isSymbol c = true := by
  rw [isSymbol_iff]
  simp only [isBlank, Bool.or_eq_true, Bool.and_eq_true, decide_eq_true_eq, beq_iff_eq] at blank
  omega

theorem isSymbol_of_isDash {c : Char} (dash : CharSet.isDash c = true) : isSymbol c = true := by
  simp only [CharSet.isDash, Bool.or_eq_true, beq_iff_eq] at dash
  rcases dash with (rfl | rfl) | rfl <;> rfl

theorem not_isBlank_of_isDash {c : Char} (dash : CharSet.isDash c = true) : isBlank c = false := by
  simp only [CharSet.isDash, Bool.or_eq_true, beq_iff_eq] at dash
  rcases dash with (rfl | rfl) | rfl <;> rfl

/-- Letters that are the same are both blank or both not. -/
theorem isBlank_eq_of_sameLetter {c d : Char} (same : sameLetter c d = true) :
    isBlank c = isBlank d := by
  apply Bool.eq_iff_iff.2
  constructor
  · intro blank
    rwa [eq_of_sameLetter_of_isSymbol (isSymbol_of_isBlank blank) (sameLetter_symm same)]
  · intro blank
    rwa [eq_of_sameLetter_of_isSymbol (isSymbol_of_isBlank blank) same]

/-- Letters that are the same are both dashes or both not. -/
theorem isDash_eq_of_sameLetter {c d : Char} (same : sameLetter c d = true) :
    CharSet.isDash c = CharSet.isDash d := by
  apply Bool.eq_iff_iff.2
  constructor
  · intro dash
    rwa [eq_of_sameLetter_of_isSymbol (isSymbol_of_isDash dash) (sameLetter_symm same)]
  · intro dash
    rwa [eq_of_sameLetter_of_isSymbol (isSymbol_of_isDash dash) same]

end Masthead
