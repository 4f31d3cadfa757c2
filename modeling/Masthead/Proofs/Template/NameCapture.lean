import Masthead.Proofs.Fix
import Masthead.Proofs.Template.Drift

/-!
# The name between two texts

A name reads as little as it can, so what it captures is decided by where the text after it can be
read for the first time.  If that text ends in the only line break of its own, its reading contains
a line break too, and so it cannot begin inside a name on one line: it would have to show, besides
all that the text shows, the rest of the name.  Blanks do not matter here, only what is shown is
counted.

So a name on one line is captured whole, whatever it has in common with the text after it, and it is
kept when the header is written anew.
-/

namespace Masthead

namespace Text

/-- How many characters a text shows. -/
def countShown (text : Text) : Nat := text.countP (!isBlank ·)

theorem countShown_append (front back : Text) :
    countShown (front ++ back) = front.countShown + back.countShown :=
  List.countP_append

theorem countShown_of_within {text : Text} (blank : text.Within isBlank) : text.countShown = 0 := by
  rw [countShown, List.countP_eq_zero]
  intro c member
  simp [blank c member]

theorem countShown_pos {text : Text} {c : Char} (member : c ∈ text) (shown : isBlank c = false) :
    0 < text.countShown := by
  rw [countShown, List.countP_pos_iff]
  exact ⟨c, member, by simp [shown]⟩

theorem countShown_le_one {text : Text} (short : text.length ≤ 1) : text.countShown ≤ 1 :=
  Nat.le_trans List.countP_le_length short

end Text

namespace Token

/-! ## What a spelling shows -/

variable {front after u : Text}

/-- Without an opening parenthesis a part of a spelling shows no more than another spelling: it has
no room for a letter C between parentheses. -/
theorem countShown_le_of_spells
    {token : Token}
    (plain : '(' ∉ front)
    (spelled : token.Spells (front ++ after))
    (spelledToo : token.Spells u) :
    front.countShown ≤ u.countShown := by
  cases token with
  | lineBreak =>
    have blank := (within_isBlank_of_spells_lineBreak spelled).of_append.1
    rw [Text.countShown_of_within blank]
    exact Nat.zero_le _
  | blanks =>
    rw [Text.countShown_of_within (Text.Within.of_append spelled.2).1]
    exact Nat.zero_le _
  | copyright =>
    rcases exists_concat_of_spells_copyright spelledToo with ⟨init, c, rfl, shown⟩
    have some_shown : 0 < Text.countShown (init ++ [c]) := Text.countShown_pos (by simp) shown
    have at_most_one : front.length ≤ 1 := by
      rcases spelled with ⟨opening, before, letter, rest, closing, place, opens, -⟩ | ⟨d, place, -⟩
      · cases front with
        | nil => exact Nat.zero_le 1
        | cons e front =>
          rw [List.cons_append, List.cons.injEq] at place
          have parenthesis := eq_of_sameLetter_symbol rfl opens
          rw [place.1, parenthesis] at plain
          exact absurd List.mem_cons_self plain
      · have lengths := congrArg List.length place
        simp only [List.length_append, List.length_singleton] at lengths
        omega
    have few := Text.countShown_le_one at_most_one
    omega
  | letter expected =>
    rcases spelled with ⟨c, place, same⟩
    rcases spelledToo with ⟨d, rfl, sameToo⟩
    cases front with
    | nil => exact Nat.zero_le _
    | cons e front =>
      simp only [List.cons_append, List.cons.injEq, List.append_eq_nil_iff] at place
      rcases place with ⟨rfl, rfl, -⟩
      have alike := isBlank_eq_of_sameLetter (sameLetter_trans (sameLetter_symm same) sameToo)
      simp [Text.countShown, alike]

theorem countShown_le_of_spellsAll
    {tokens : List Token}
    (plain : '(' ∉ front)
    (spelled : SpellsAll tokens (front ++ after))
    (spelledToo : SpellsAll tokens u) :
    front.countShown ≤ u.countShown := by
  induction tokens generalizing front u with
  | nil =>
    have nothing : front = [] := (List.append_eq_nil_iff.1 spelled).1
    rw [nothing]
    exact Nat.zero_le _
  | cons token rest ih =>
    rcases spelled with ⟨first, back, place, spelledFirst, others⟩
    rcases spelledToo with ⟨firstToo, backToo, rfl, spelledToo, othersToo⟩
    rw [Text.countShown_append]
    rcases List.append_eq_append_iff.1 place with ⟨surplus, rfl, rfl⟩ | ⟨surplus, rfl, rfl⟩
    · have inFirst := countShown_le_of_spells plain spelledFirst spelledToo
      omega
    · rw [List.mem_append, not_or] at plain
      have inFirst := countShown_le_of_spells plain.1 (by rwa [List.append_nil]) spelledToo
      have inOthers := ih plain.2 others othersToo
      rw [Text.countShown_append]
      omega

/-- A line break among the tokens is read from a line end. -/
theorem exists_isLineEnd_of_spellsAll
    {tokens : List Token}
    (breaks : lineBreak ∈ tokens)
    (spelled : SpellsAll tokens u) :
    ∃ c ∈ u, isLineEnd c = true := by
  rcases List.append_of_mem breaks with ⟨above, below, rfl⟩
  rcases spellsAll_append_iff.1 spelled with
    ⟨front, _, rfl, -, _, back, rfl, ⟨blanks, ending, rfl, -, isBreak⟩, -⟩
  have occupied : ending ≠ [] := by
    rcases isBreak with rfl | rfl | rfl <;> simp
  rcases List.exists_mem_of_ne_nil ending occupied with ⟨c, member⟩
  exact ⟨c, by simp [member], Text.within_isLineEnd_of_isBreak isBreak c member⟩

/-- A text that ends in its only line break has that break among its tokens. -/
theorem lineBreak_mem_ofLiteral
    {line ending : Text}
    (oneLine : line.Within (!isLineEnd ·))
    (isBreak : ending.IsBreak) :
    lineBreak ∈ ofLiteral (line ++ ending) := by
  rcases Text.exists_endsShown_append line with ⟨shown, blanks, rfl, endsShown, blank⟩
  have horizontal : blanks.Within isHorizontalBlank := by
    intro c member
    simp [isHorizontalBlank, blank c member, oneLine.of_append.2 c member]
  rw [List.append_assoc, ofLiteral_append_break endsShown horizontal isBreak]
  simp

/-- A text that ends in its only line break is not read from a line that shows more before it. -/
theorem not_spellsAll_of_shown
    {more line ending below header rest : Text}
    (oneLine : line.Within (!isLineEnd ·))
    (isBreak : ending.IsBreak)
    (oneLineToo : more.Within (!isLineEnd ·))
    (plain : '(' ∉ more ++ line)
    (shows : 0 < more.countShown)
    (place : more ++ ((line ++ ending) ++ below) = header ++ rest) :
    ¬ SpellsAll (ofLiteral (line ++ ending)) header := by
  intro spelled
  have own : SpellsAll (ofLiteral (line ++ ending)) (line ++ ending) :=
    spellsAll_of_cutsInto (cutsInto_ofLiteral _)
  have ended : (line ++ ending).countShown = line.countShown := by
    have blank : ending.Within isBlank := fun c member =>
      isBlank_of_isLineEnd (Text.within_isLineEnd_of_isBreak isBreak c member)
    rw [Text.countShown_append, Text.countShown_of_within blank, Nat.add_zero]
  have place' : (more ++ line) ++ (ending ++ below) = header ++ rest := by
    rw [← place]
    simp only [List.append_assoc]
  rcases List.append_eq_append_iff.1 place' with ⟨surplus, rfl, -⟩ | ⟨surplus, within, -⟩
  · have fewer := countShown_le_of_spellsAll plain spelled own
    rw [Text.countShown_append, ended] at fewer
    omega
  · rcases exists_isLineEnd_of_spellsAll (lineBreak_mem_ofLiteral oneLine isBreak) spelled with
      ⟨c, member, ends⟩
    have inLine := (oneLineToo.append oneLine) c (by simp [within, member])
    simp [ends] at inLine

end Token

namespace Token

/-- A text that ends in its only line break is read as it is before a rest, if that does not
complete the break. -/
theorem prefers_ofLiteral_break
    {line ending rest : Text}
    (isBreak : ending.IsBreak)
    (whole : ending = ['\r'] → rest.head? ≠ some '\n') :
    (Pattern.concat ((ofLiteral (line ++ ending)).map pattern)).Prefers
      ((line ++ ending) ++ rest) [] rest := by
  have final : ∃ c, (line ++ ending).getLast? = some c ∧ isLineEnd c = true ∧
      (c = '\r' → ending = ['\r']) := by
    rcases isBreak with rfl | rfl | rfl
    · exact ⟨'\n', by simp, rfl, by simp⟩
    · exact ⟨'\r', by simp, rfl, by simp⟩
    · exact ⟨'\n', by simp, rfl, by simp⟩
  rcases final with ⟨c, last, ends, single⟩
  have untorn : (line ++ ending).getLast? = some '\r' → rest.head? ≠ some '\n' := by
    rw [last, Option.some.injEq]
    exact fun isReturn => whole (single isReturn)
  rcases readsOver_ofLiteral untorn with ⟨extra, below, rfl, -, readsOn, prefers⟩
  cases extra with
  | nil => exact prefers
  | cons d extra =>
    rcases readsOn (List.cons_ne_nil d extra) with ⟨e, lastToo, horizontal⟩
    cases last.symm.trans lastToo
    simp [isHorizontalBlank, ends] at horizontal

end Token

namespace Template

/-- The template of a name between two texts. -/
def named (before : Text) (placeholder : Placeholder) (after : Text) : Template where
  segments := [.text before, .name placeholder, .text after]
  occupied := by simp

/-- The pieces of a header with a name. -/
def namedPieces (before name after : Text) : List Piece :=
  [⟨before, []⟩, ⟨name, []⟩, ⟨after, []⟩]

variable {before line ending name rest : Text}

/-- A name that shows something first and last is captured as it is, up to a text that ends in its
only line break. -/
theorem readFront_named
    (placeholder : Placeholder)
    (oneLine : line.Within (!isLineEnd ·))
    (isBreak : ending.IsBreak)
    (plain : '(' ∉ line)
    (occupied : name ≠ [])
    (trimmed : name.trim = name)
    (oneLineName : name.Within (!isLineEnd ·))
    (plainName : '(' ∉ name)
    (whole : ending = ['\r'] → rest.head? ≠ some '\n') :
    Piece.readFront (named before placeholder (line ++ ending)).patterns
        (before ++ (name ++ ((line ++ ending) ++ rest))) =
      some (namedPieces before name (line ++ ending)) := by
  rcases Text.trim_eq_self_iff.1 trimmed with ⟨firstShown, endsShown⟩
  have readAfter : Piece.readFront ([.text (line ++ ending)].map Segment.pattern)
      ((line ++ ending) ++ rest) = some [⟨line ++ ending, []⟩] :=
    Piece.readAll_of_prefers (Token.prefers_ofLiteral_break isBreak whole) rfl
  have refused : ∀ shorter longer, name = shorter ++ longer → longer ≠ [] →
      Piece.readFront ([.text (line ++ ending)].map Segment.pattern)
        (longer ++ ((line ++ ending) ++ rest)) = none := by
    rintro shorter longer rfl occupiedToo
    rw [List.mem_append, not_or] at plainName
    have last := List.getLast_mem occupiedToo
    have shown := endsShown.of_append shorter _ (List.getLast?_eq_some_getLast occupiedToo)
    rw [← Option.not_isSome_iff_eq_none, Piece.readFront_isSome_iff]
    rintro ⟨header, below, place, spelled⟩
    rw [Segment.spellsAll_singleton_iff] at spelled
    exact Token.not_spellsAll_of_shown oneLine isBreak oneLineName.of_append.2
      (by simp [plainName.2, plain]) (Text.countShown_pos last shown) place spelled
  have inLine : ∀ c ∈ name, CharSet.inLine.accepts c = true := by
    intro c member
    have noEnd := oneLineName c member
    simp only [isLineEnd, Bool.not_or, Bool.and_eq_true] at noEnd
    exact noEnd.2
  have readName : Piece.readFront ([.name placeholder, .text (line ++ ending)].map Segment.pattern)
      (name ++ ((line ++ ending) ++ rest)) = some [⟨name, []⟩, ⟨line ++ ending, []⟩] :=
    Piece.readAll_of_refused inLine refused readAfter
  have stops : before.StopsBefore (name ++ ((line ++ ending) ++ rest)) := by
    intro _ _
    right
    intro d first
    rw [List.head?_append_of_ne_nil _ occupied] at first
    exact firstShown d first
  exact Piece.readAll_of_prefers (Token.prefers_ofLiteral stops) readName

/-- A header with a name that is read is found as it is: its last text reads no more than itself. -/
theorem find?_named
    {placeholder : Placeholder} {after text : Text}
    (read : Piece.readFront (named before placeholder after).patterns text =
      some (namedPieces before name after)) :
    (named before placeholder after).find? text = some ⟨0, namedPieces before name after⟩ := by
  have uncorrected : Found.correct (named before placeholder after).segments
      (named before placeholder after).patterns ⟨0, namedPieces before name after⟩ =
        ⟨0, namedPieces before name after⟩ := by
    apply Found.correct_eq_self
    rintro literal last atEnd lastPiece
    cases atEnd
    cases lastPiece
    exact Nat.le_refl _
  rw [find?]
  simp only [Found.searchFrom_of_readFront read, Option.map_some, uncorrected]

/-- The meanings of the pieces of a header with a name. -/
def namedResults (name : Text) : List SegmentResult :=
  [⟨false, [], [], .nothing⟩,
    ⟨false, if name = Placeholder.standardText then [.blankName] else [], [], .name name⟩,
    ⟨false, [], [], .nothing⟩]

theorem interpretAll_namedPieces
    (placeholder : Placeholder)
    (occupied : name ≠ [])
    (trimmed : name.trim = name)
    (before after : Text) (current : CurrentYear) :
    Found.interpretAll current (named before placeholder after).segments
      (namedPieces before name after) = .ok (namedResults name) := by
  have meaning : Segment.interpretName name name.length =
      ⟨false, if name = Placeholder.standardText then [.blankName] else [], [], .name name⟩ := by
    simp [Segment.interpretName, trimmed, occupied]
  simp only [named, namedPieces, Found.interpretAll, Segment.interpret, Segment.differs_self,
    meaning]
  rfl

/-- The user's name is captured and kept exactly.  It is trimmed and on one line, and neither it nor
the line of the text after it has an opening parenthesis; else it may be anything, and so may what
follows.  The header is found at the top as the three texts one after the other, exact and up to
date; its one possible fault is a name that still is the standard placeholder.  Written anew it is
the same. -/
theorem match?_named
    (placeholder : Placeholder)
    (oneLine : line.Within (!isLineEnd ·))
    (isBreak : ending.IsBreak)
    (plain : '(' ∉ line)
    (occupied : name ≠ [])
    (trimmed : name.trim = name)
    (oneLineName : name.Within (!isLineEnd ·))
    (plainName : '(' ∉ name)
    (whole : ending = ['\r'] → rest.head? ≠ some '\n')
    (current : CurrentYear) :
    ∃ found,
      (named before placeholder (line ++ ending)).match? current
          (before ++ (name ++ ((line ++ ending) ++ rest))) = .ok (some found) ∧
      found.start = 0 ∧
      found.length = before.length + name.length + (line ++ ending).length ∧
      found.isInexact = false ∧
      found.notices = [] ∧
      found.faults = (if name = Placeholder.standardText then [.blankName] else []) ∧
      found.kept = [.nothing, .name name, .nothing] ∧
      (named before placeholder (line ++ ending)).evaluate current
          (some (before ++ (name ++ ((line ++ ending) ++ rest)))) =
        .ok ⟨before ++ (name ++ (line ++ ending)),
          some (0, before.length + name.length + (line ++ ending).length)⟩ := by
  have read := @readFront_named before line ending name rest placeholder oneLine isBreak plain
    occupied trimmed oneLineName plainName whole
  have interpreted :=
    interpretAll_namedPieces placeholder occupied trimmed before (line ++ ending) current
  have searched := match?_of_find? (find?_named read) interpreted
  have length : (Piece.joined (namedPieces before name (line ++ ending))).length =
      before.length + name.length + (line ++ ending).length := by
    simp [namedPieces, Nat.add_assoc]
  refine ⟨_, searched, rfl, length, rfl, rfl, ?_, rfl, ?_⟩
  · simp [Match.faults, namedResults]
  · rw [evaluate_of_match? searched, Option.map_some, length]
    simp [carried, Match.kept, namedResults, render, named, Segment.renderAll, Segment.render]

/-- A name that has the text after it inside, before more than that text. -/
theorem match?_named_sample :
    ∃ found,
      (named "// ".toList .standard " LLC\n".toList).match? sampleYear
        "// Jane LLC LLC\nLLC\n".toList = .ok (some found) ∧
      found.length = 16 ∧
      found.faults = [] ∧
      found.kept = [.nothing, .name "Jane LLC".toList, .nothing] := by
  have isBreak : Text.IsBreak ['\n'] := Or.inr (Or.inr rfl)
  rcases @match?_named "// ".toList " LLC".toList ['\n'] "Jane LLC".toList "LLC\n".toList .standard
    (by decide) isBreak (by decide) (by decide) (by decide) (by decide) (by decide) (by decide)
    sampleYear with
    ⟨found, searched, -, length, -, -, faultless, kept, -⟩
  exact ⟨found, searched, length, faultless, kept⟩

end Template

end Masthead
