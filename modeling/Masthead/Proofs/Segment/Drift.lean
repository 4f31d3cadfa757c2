import Masthead.Proofs.Segment.Token
import Masthead.Segment.Interpretation

/-!
# Texts that have drifted

A header is still recognised when it has drifted from what its template would write.  Line breaks
may be spelled in another way, runs of blanks may be longer or shorter, copyright signs may be
written with parentheses or without, letters may change their case, and years may be any years.  The
texts that a literal drifts to are those that spell its tokens.
-/

namespace Masthead

/-- What a literal drifts to, from left to right.  A line break with the horizontal blanks before it
becomes any horizontal blanks and any line break; another run of blanks becomes blanks of any kind;
a copyright sign becomes any spelling of it; and any other letter keeps or changes its case. -/
inductive Text.DriftsTo : Text → Text → Prop
  | nothing : DriftsTo [] []
  | lineBreak
      {blanks ending after newBlanks newEnding further : Text}
      (horizontal : blanks.Within isHorizontalBlank)
      (isBreak : ending.IsBreak)
      (whole : ending = ['\r'] → after.head? ≠ some '\n')
      (horizontalToo : newBlanks.Within isHorizontalBlank)
      (isBreakToo : newEnding.IsBreak)
      (rest : DriftsTo after further) :
      DriftsTo (blanks ++ (ending ++ after)) (newBlanks ++ (newEnding ++ further))
  | blanks
      {run after newRun further : Text}
      (occupied : run ≠ [])
      (horizontal : run.Within isHorizontalBlank)
      (boundary : ∀ c, after.head? = some c → isBlank c = false)
      (occupiedToo : newRun ≠ [])
      (blank : newRun.Within isBlank)
      (rest : DriftsTo after further) :
      DriftsTo (run ++ after) (newRun ++ further)
  | copyright
      {sign after newSign further : Text}
      (signed : Token.copyright.Spells sign)
      (signedToo : Token.copyright.Spells newSign)
      (rest : DriftsTo after further) :
      DriftsTo (sign ++ after) (newSign ++ further)
  | letter
      {c d : Char} {after further : Text}
      (shown : isBlank c = false)
      (unsigned : ∀ sign rest, c :: after = sign ++ rest → ¬ Token.copyright.Spells sign)
      (same : sameLetter c d = true)
      (rest : DriftsTo after further) :
      DriftsTo (c :: after) (d :: further)

namespace Token

theorem afterCopyright?_eq_none_iff {text : Text} :
    afterCopyright? text = none ↔
      ∀ sign rest, text = sign ++ rest → ¬ copyright.Spells sign := by
  constructor
  · rintro unsigned sign rest rfl spelled
    rw [afterCopyright?_of_spells spelled] at unsigned
    cases unsigned
  · intro unsigned
    cases signed : afterCopyright? text with
    | none => rfl
    | some rest =>
      rcases spells_of_afterCopyright? signed with ⟨sign, place, spelled⟩
      exact absurd spelled (unsigned sign rest place)

theorem driftsTo_of_spellsAll
    {literal found : Text} {tokens : List Token}
    (cut : CutsInto literal tokens)
    (spelled : SpellsAll tokens found) :
    literal.DriftsTo found := by
  induction cut generalizing found with
  | nothing =>
    cases spelled
    exact .nothing
  | lineBreak horizontal isBreak whole _ ih =>
    rcases spelled with ⟨_, further, rfl, ⟨blanks, ending, rfl, horizontalToo, isBreakToo⟩, rest⟩
    rw [List.append_assoc]
    exact .lineBreak horizontal isBreak whole horizontalToo isBreakToo (ih rest)
  | blanks occupied horizontal boundary _ ih =>
    rcases spelled with ⟨run, further, rfl, ⟨occupiedToo, blank⟩, rest⟩
    exact .blanks occupied horizontal boundary occupiedToo blank (ih rest)
  | copyright signed _ _ ih =>
    rcases spelled with ⟨sign, further, rfl, signedToo, rest⟩
    exact .copyright signed signedToo (ih rest)
  | letter shown unsigned _ ih =>
    rcases spelled with ⟨_, further, rfl, ⟨d, rfl, same⟩, rest⟩
    exact .letter shown (afterCopyright?_eq_none_iff.1 unsigned) same (ih rest)

theorem exists_spellsAll_of_driftsTo
    {literal found : Text}
    (drifts : literal.DriftsTo found) :
    ∃ tokens, CutsInto literal tokens ∧ SpellsAll tokens found := by
  induction drifts with
  | nothing => exact ⟨[], .nothing, rfl⟩
  | lineBreak horizontal isBreak whole horizontalToo isBreakToo _ ih =>
    rcases ih with ⟨tokens, cut, spelled⟩
    exact ⟨.lineBreak :: tokens, .lineBreak horizontal isBreak whole cut, _, _,
      (List.append_assoc ..).symm, ⟨_, _, rfl, horizontalToo, isBreakToo⟩, spelled⟩
  | blanks occupied horizontal boundary occupiedToo blank _ ih =>
    rcases ih with ⟨tokens, cut, spelled⟩
    exact ⟨.blanks :: tokens, .blanks occupied horizontal boundary cut, _, _, rfl,
      ⟨occupiedToo, blank⟩, spelled⟩
  | copyright signed signedToo _ ih =>
    rcases ih with ⟨tokens, cut, spelled⟩
    exact ⟨.copyright :: tokens, .copyright signed (afterCopyright?_of_spells signed _) cut, _, _,
      rfl, signedToo, spelled⟩
  | @letter c d _ _ shown unsigned same _ ih =>
    rcases ih with ⟨tokens, cut, spelled⟩
    exact ⟨.letter c :: tokens, .letter shown (afterCopyright?_eq_none_iff.2 unsigned) cut, [d], _,
      rfl, ⟨d, rfl, same⟩, spelled⟩

/-- The spellings of a literal are the texts that it drifts to. -/
theorem spellsAll_ofLiteral_iff {literal found : Text} :
    SpellsAll (ofLiteral literal) found ↔ literal.DriftsTo found := by
  constructor
  · exact driftsTo_of_spellsAll (cutsInto_ofLiteral literal)
  · intro drifts
    rcases exists_spellsAll_of_driftsTo drifts with ⟨tokens, cut, spelled⟩
    rwa [cut.ofLiteral_eq]

end Token

namespace Segment

/-- What a segment drifts to if something is kept of it: any text of a literal, any year, a range of
years with the start year that is kept, or a name in its line. -/
def DriftsTo : Segment → Kept → Text → Prop
  | .text literal, kept, found => literal.DriftsTo found ∧ kept = .nothing
  | .year, kept, found => found.IsYear ∧ kept = .nothing
  | .yearRange, kept, found =>
      ∃ start tail : Text, found = start ++ tail ∧ start.IsYear ∧
        (tail.IsRangeTail ∨ tail = []) ∧ kept = .startYear (decimalValue start)
  | .name _, kept, found => found.Within (· != '\n') ∧ kept = .name found.trim

/-- What some segments drift to, one after the other. -/
def DriftAllTo : List Segment → List Kept → Text → Prop
  | [], [], found => found = []
  | segment :: segments, one :: kept, found =>
      ∃ front back, found = front ++ back ∧ segment.DriftsTo one front ∧
        DriftAllTo segments kept back
  | _, _, _ => False

theorem DriftsTo.spells
    {segment : Segment} {kept : Kept} {found : Text}
    (drifts : segment.DriftsTo kept found) :
    segment.Spells found := by
  cases segment with
  | text literal => exact Token.spellsAll_ofLiteral_iff.2 drifts.1
  | year => exact drifts.1
  | yearRange =>
    rcases drifts with ⟨start, tail, place, isStart, ending, -⟩
    exact ⟨start, tail, place, isStart, ending⟩
  | name placeholder => exact drifts.1

theorem exists_driftsTo_of_spells
    {segment : Segment} {found : Text}
    (spelled : segment.Spells found) :
    ∃ kept, segment.DriftsTo kept found := by
  cases segment with
  | text literal => exact ⟨.nothing, Token.spellsAll_ofLiteral_iff.1 spelled, rfl⟩
  | year => exact ⟨.nothing, spelled, rfl⟩
  | yearRange =>
    rcases spelled with ⟨start, tail, place, isStart, ending⟩
    exact ⟨_, start, tail, place, isStart, ending, rfl⟩
  | name placeholder => exact ⟨_, spelled, rfl⟩

theorem driftAllTo_nil_iff {kept : List Kept} {found : Text} :
    DriftAllTo [] kept found ↔ kept = [] ∧ found = [] := by
  cases kept with
  | nil => simp [DriftAllTo]
  | cons one kept => simp [DriftAllTo]

theorem driftAllTo_cons_iff
    {segment : Segment} {segments : List Segment} {kept : List Kept} {found : Text} :
    DriftAllTo (segment :: segments) kept found ↔
      ∃ one others front back, kept = one :: others ∧ found = front ++ back ∧
        segment.DriftsTo one front ∧ DriftAllTo segments others back := by
  cases kept with
  | nil => simp [DriftAllTo]
  | cons one others =>
    constructor
    · rintro ⟨front, back, place, first, rest⟩
      exact ⟨one, others, front, back, rfl, place, first, rest⟩
    · rintro ⟨_, _, front, back, ⟨rfl, rfl⟩, place, first, rest⟩
      exact ⟨front, back, place, first, rest⟩

/-- The spellings of some segments are the texts that they drift to. -/
theorem exists_driftAllTo_iff {segments : List Segment} {found : Text} :
    (∃ kept, DriftAllTo segments kept found) ↔ SpellsAll segments found := by
  induction segments generalizing found with
  | nil => simp [driftAllTo_nil_iff, SpellsAll]
  | cons segment segments ih =>
    constructor
    · rintro ⟨kept, drifts⟩
      rcases driftAllTo_cons_iff.1 drifts with ⟨one, others, front, back, -, place, first, rest⟩
      exact ⟨front, back, place, first.spells, ih.1 ⟨others, rest⟩⟩
    · rintro ⟨front, back, place, first, rest⟩
      rcases exists_driftsTo_of_spells first with ⟨one, drifts⟩
      rcases ih.2 rest with ⟨others, driftsRest⟩
      exact ⟨one :: others, front, back, place, drifts, driftsRest⟩

theorem DriftAllTo.spellsAll
    {segments : List Segment} {kept : List Kept} {found : Text}
    (drifts : DriftAllTo segments kept found) :
    SpellsAll segments found :=
  exists_driftAllTo_iff.1 ⟨kept, drifts⟩

end Segment

end Masthead
