import Masthead.Proofs.Segment.Agreement
import Masthead.Proofs.Text.CarriageReturn

/-!
# The line breaks of a literal

A literal without carriage returns is cut into the same tokens once its line feeds get them.  The
blanks at its end, if they end in a line feed, are cut into line breaks, one for each line feed.  As
many line breaks spell a text of blanks with carriage returns as the text has breaks, or more, up to
the number of its line ends: the two halves of a break may be read as two breaks.
-/

namespace Masthead

namespace Token

/-! ## Copyright signs -/

theorem trimLeft_eq_cons_withReturns
    {text rest : Text} {c : Char}
    (trimmed : text.trimLeft = c :: rest) :
    text.withReturns.trimLeft = c :: rest.withReturns := by
  have shown := Text.not_isBlank_of_trimLeft trimmed
  rw [Text.trimLeft_withReturns, trimmed, Text.withReturns_cons_of_shown shown]

/-- Carriage returns neither make nor spoil a copyright sign. -/
theorem afterCopyright?_withReturns (text : Text) :
    afterCopyright? text.withReturns = (afterCopyright? text).map Text.withReturns := by
  fun_cases afterCopyright? text with
  | case1 rest => rfl
  | case2 rest letter inner atLetter isLetter after atClose =>
    have first : (Text.withReturns rest).dropWhile isBlank = letter :: Text.withReturns inner :=
      trimLeft_eq_cons_withReturns atLetter
    have second : (Text.withReturns inner).dropWhile isBlank = ')' :: Text.withReturns after :=
      trimLeft_eq_cons_withReturns atClose
    rw [Text.withReturns_cons (by decide), afterCopyright?]
    simp only [first, isLetter, if_true, second, Option.map_some]
  | case3 rest letter inner atLetter isLetter unclosed =>
    have first : (Text.withReturns rest).dropWhile isBlank = letter :: Text.withReturns inner :=
      trimLeft_eq_cons_withReturns atLetter
    rw [Text.withReturns_cons (by decide), afterCopyright?]
    simp only [first, isLetter, if_true]
    split
    · rename_i closed
      cases trimmed : Text.trimLeft inner with
      | nil =>
        rw [← Text.trimLeft, Text.trimLeft_withReturns, trimmed] at closed
        cases closed
      | cons c after =>
        rw [← Text.trimLeft, trimLeft_eq_cons_withReturns trimmed] at closed
        cases closed
        exact absurd trimmed (unclosed after)
    · rfl
  | case4 rest letter inner atLetter isLetter =>
    have first : (Text.withReturns rest).dropWhile isBlank = letter :: Text.withReturns inner :=
      trimLeft_eq_cons_withReturns atLetter
    rw [Text.withReturns_cons (by decide), afterCopyright?]
    simp only [first, if_neg isLetter, Option.map_none]
  | case5 rest empty =>
    have nothing : (Text.withReturns rest).dropWhile isBlank = [] := by
      rw [← Text.trimLeft, Text.trimLeft_withReturns, Text.trimLeft, empty]
      rfl
    rw [Text.withReturns_cons (by decide), afterCopyright?]
    simp only [nothing, Option.map_none]
  | case6 _ noSign noParenthesis =>
    cases text with
    | nil => rfl
    | cons c rest =>
      by_cases feed : c = '\n'
      · subst feed
        rfl
      · rw [Text.withReturns_cons feed, afterCopyright?]
        · rfl
        · rintro _ ⟨⟩
          exact noSign _ rfl
        · rintro _ ⟨⟩
          exact noParenthesis _ rfl

/-! ## Tokens with carriage returns -/

theorem feed_notMem_of_isHorizontalBlank
    {blanks : Text}
    (horizontal : blanks.Within isHorizontalBlank) :
    '\n' ∉ blanks :=
  fun member => absurd (horizontal '\n' member) (by decide)

theorem spells_copyright_withReturns
    {sign : Text}
    (spelled : copyright.Spells sign) :
    copyright.Spells sign.withReturns := by
  have shown : ∀ {expected c : Char}, isBlank expected = false → sameLetter expected c = true →
      isBlank c = false := by
    intro expected c shownExpected same
    rw [← isBlank_eq_of_sameLetter same]
    exact shownExpected
  rcases spelled with
    ⟨opening, before, letter, after, closing, rfl, opens, blankBefore, isLetter, blankAfter, closes⟩
      | ⟨c, rfl, isSign⟩
  · left
    rw [Text.withReturns_cons_of_shown (shown rfl opens), Text.withReturns_append,
      Text.withReturns_cons_of_shown (shown rfl isLetter), Text.withReturns_append,
      Text.withReturns_cons_of_shown (shown rfl closes)]
    exact ⟨opening, _, letter, _, closing, rfl, opens, Text.within_withReturns rfl blankBefore,
      isLetter, Text.within_withReturns rfl blankAfter, closes⟩
  · right
    rw [Text.withReturns_cons_of_shown (shown rfl isSign)]
    exact ⟨c, rfl, isSign⟩

/-- A literal without carriage returns is cut in the same way once it has them. -/
theorem CutsInto.withReturns
    {literal : Text} {tokens : List Token}
    (cut : CutsInto literal tokens)
    (plain : '\r' ∉ literal) :
    CutsInto literal.withReturns tokens := by
  induction cut with
  | nothing => exact .nothing
  | @lineBreak blanks ending after tokens horizontal isBreak whole _ ih =>
    simp only [List.mem_append, not_or] at plain
    have feed : ending = ['\n'] := by
      rcases isBreak with rfl | rfl | rfl
      · exact absurd List.mem_cons_self plain.2.1
      · exact absurd List.mem_cons_self plain.2.1
      · rfl
    subst feed
    rw [Text.withReturns_append, Text.withReturns_append,
      Text.withReturns_eq_self (feed_notMem_of_isHorizontalBlank horizontal)]
    exact .lineBreak horizontal (Or.inl rfl) (by simp) (ih plain.2.2)
  | @blanks run after tokens occupied horizontal boundary _ ih =>
    simp only [List.mem_append, not_or] at plain
    rw [Text.withReturns_append,
      Text.withReturns_eq_self (feed_notMem_of_isHorizontalBlank horizontal)]
    refine .blanks occupied horizontal ?_ (ih plain.2)
    intro c first
    cases after with
    | nil => cases first
    | cons d after =>
      have shown := boundary d rfl
      rw [Text.withReturns_cons_of_shown shown] at first
      cases first
      exact shown
  | @copyright sign after tokens spelled signed _ ih =>
    simp only [List.mem_append, not_or] at plain
    rw [Text.withReturns_append]
    have spelledToo := spells_copyright_withReturns spelled
    exact .copyright spelledToo (afterCopyright?_of_spells spelledToo _) (ih plain.2)
  | @letter c after tokens shown unsigned _ ih =>
    simp only [List.mem_cons, not_or] at plain
    have unsignedToo := afterCopyright?_withReturns (c :: after)
    rw [unsigned, Text.withReturns_cons_of_shown shown] at unsignedToo
    rw [Text.withReturns_cons_of_shown shown]
    exact .letter shown unsignedToo (ih plain.2)

theorem ofLiteral_withReturns
    {literal : Text}
    (plain : '\r' ∉ literal) :
    ofLiteral literal.withReturns = ofLiteral literal :=
  ((cutsInto_ofLiteral literal).withReturns plain).ofLiteral_eq

/-- Every literal spells itself. -/
theorem spellsAll_of_cutsInto
    {literal : Text} {tokens : List Token}
    (cut : CutsInto literal tokens) :
    SpellsAll tokens literal := by
  induction cut with
  | nothing => rfl
  | @lineBreak blanks ending after tokens horizontal isBreak whole _ ih =>
    exact ⟨blanks ++ ending, after, by simp, ⟨blanks, ending, rfl, horizontal, isBreak⟩, ih⟩
  | @blanks run after tokens occupied horizontal boundary _ ih =>
    exact ⟨run, after, rfl,
      ⟨occupied, fun c member => isBlank_of_isHorizontalBlank (horizontal c member)⟩, ih⟩
  | @copyright sign after tokens spelled _ _ ih => exact ⟨sign, after, rfl, spelled, ih⟩
  | @letter c after tokens _ _ _ ih => exact ⟨[c], after, rfl, ⟨c, rfl, sameLetter_refl c⟩, ih⟩

theorem spellsAll_withReturns
    {literal : Text}
    (plain : '\r' ∉ literal) :
    SpellsAll (ofLiteral literal) literal.withReturns :=
  spellsAll_of_cutsInto ((cutsInto_ofLiteral literal).withReturns plain)

theorem spellsAll_append_iff
    {first second : List Token} {text : Text} :
    SpellsAll (first ++ second) text ↔
      ∃ front back, text = front ++ back ∧ SpellsAll first front ∧ SpellsAll second back := by
  induction first generalizing text with
  | nil =>
    constructor
    · intro spelled
      exact ⟨[], text, rfl, rfl, spelled⟩
    · rintro ⟨_, back, rfl, rfl, spelled⟩
      exact spelled
  | cons token first ih =>
    constructor
    · rintro ⟨front, back, rfl, spelled, others⟩
      rcases ih.1 others with ⟨middle, rest, rfl, spelledMiddle, spelledRest⟩
      exact ⟨front ++ middle, rest, by simp, ⟨front, middle, rfl, spelled, spelledMiddle⟩,
        spelledRest⟩
    · rintro ⟨_, rest, rfl, ⟨front, middle, rfl, spelled, spelledMiddle⟩, spelledRest⟩
      exact ⟨front, middle ++ rest, by simp, spelled, ih.2 ⟨middle, rest, rfl, spelledMiddle,
        spelledRest⟩⟩

end Token

/-! ## Breaks at the end -/

namespace Text

/-- A text of blanks that is divided into a number of lines, each ended by a line feed. -/
inductive IsBreaks : Text → Nat → Prop
  | nothing : IsBreaks [] 0
  | feed
      {blanks rest : Text} {count : Nat}
      (horizontal : blanks.Within isHorizontalBlank)
      (others : IsBreaks rest count) :
      IsBreaks (blanks ++ '\n' :: rest) (count + 1)

theorem IsBreaks.cons
    {c : Char} {text : Text} {count : Nat}
    (breaks : IsBreaks text count)
    (horizontal : isHorizontalBlank c = true)
    (occupied : text ≠ []) :
    IsBreaks (c :: text) count := by
  cases breaks with
  | nothing => exact absurd rfl occupied
  | @feed blanks rest count others within =>
    show IsBreaks ((c :: blanks) ++ '\n' :: rest) (count + 1)
    apply IsBreaks.feed _ within
    rintro d (_ | ⟨_, member⟩)
    · exact horizontal
    · exact others d member

theorem isBreaks_of_within
    {text : Text}
    (blank : text.Within isBlank)
    (plain : '\r' ∉ text)
    (ends : ∀ c, text.getLast? = some c → c = '\n') :
    text.IsBreaks (text.count '\n') := by
  induction text with
  | nil => exact .nothing
  | cons c rest ih =>
    rw [List.mem_cons, not_or] at plain
    have blankRest : Within isBlank rest := fun d member => blank d (List.mem_cons_of_mem c member)
    have endsRest : ∀ d, rest.getLast? = some d → d = '\n' := by
      intro d last
      apply ends d
      rw [List.getLast?_cons, last]
      rfl
    have others := ih blankRest plain.2 endsRest
    by_cases feed : c = '\n'
    · rw [feed, List.count_cons_self]
      have nothing : Within isHorizontalBlank [] := by simp [Within]
      exact .feed nothing others
    · rw [List.count_cons_of_ne feed]
      apply others.cons
      · simp [isHorizontalBlank, isLineEnd, blank c List.mem_cons_self, feed, Ne.symm plain.1]
      · rintro rfl
        exact feed (ends c rfl)

end Text

namespace Token

variable {text : Text} {count : Nat}

theorem cutsInto_of_isBreaks
    (breaks : text.IsBreaks count) :
    CutsInto text (List.replicate count .lineBreak) := by
  induction breaks with
  | nothing => exact .nothing
  | feed horizontal _ ih =>
    rw [List.replicate_succ]
    have isBreak : Text.IsBreak ['\n'] := Or.inr (Or.inr rfl)
    exact .lineBreak horizontal isBreak (by simp) ih

/-- A sign that begins before some blanks ends before them. -/
theorem afterCopyright?_append_eq_none
    {front : Text}
    (unsigned : afterCopyright? front = none)
    (blank : text.Within isBlank) :
    afterCopyright? (front ++ text) = none := by
  cases signed : afterCopyright? (front ++ text) with
  | none => rfl
  | some rest =>
    rcases spells_of_afterCopyright? signed with ⟨sign, place, spelled⟩
    rcases exists_concat_of_spells_copyright spelled with ⟨init, last, shape, shown⟩
    have inFront : ∃ after, front = sign ++ after := by
      rcases List.append_eq_append_iff.1 place with ⟨surplus, longer, within⟩ | ⟨after, longer, -⟩
      · cases surplus using List.reverseRecOn with
        | nil => exact ⟨[], by simp [longer]⟩
        | append_singleton surplus c _ =>
          rw [shape, ← List.append_assoc] at longer
          have lastBlank := blank c (by simp [within])
          rw [(List.append_inj' longer rfl).2 |> List.singleton_inj.1 |>.symm, shown] at lastBlank
          cases lastBlank
      · exact ⟨after, longer⟩
    rcases inFront with ⟨after, rfl⟩
    rw [afterCopyright?_of_spells spelled] at unsigned
    cases unsigned

/-- Blanks after something shown are cut by themselves. -/
theorem CutsInto.append_of_within
    {literal : Text} {tokens below : List Token}
    (cut : CutsInto literal tokens)
    (shown : literal.EndsShown)
    (cutBelow : CutsInto text below)
    (blank : text.Within isBlank) :
    CutsInto (literal ++ text) (tokens ++ below) := by
  induction cut with
  | nothing => exact cutBelow
  | @lineBreak blanks ending after tokens horizontal isBreak whole _ ih =>
    have within : (blanks ++ ending).Within isBlank :=
      within_isBlank_of_spells_lineBreak ⟨blanks, ending, rfl, horizontal, isBreak⟩
    rw [← List.append_assoc] at shown
    rw [List.append_assoc, List.append_assoc]
    refine .lineBreak horizontal isBreak ?_ (ih (shown.of_append _))
    cases after with
    | nil =>
      have nothing := shown.eq_nil_of_within (by rwa [List.append_nil])
      rcases isBreak with rfl | rfl | rfl <;> simp at nothing
    | cons c after => exact whole
  | @blanks run after tokens occupied horizontal boundary _ ih =>
    rw [List.append_assoc]
    refine .blanks occupied horizontal ?_ (ih (shown.of_append run))
    cases after with
    | nil =>
      have nothing := shown.eq_nil_of_within fun c member =>
        isBlank_of_isHorizontalBlank (horizontal c (by simpa using member))
      exact absurd (by simpa using nothing) occupied
    | cons c after => exact boundary
  | @copyright sign after tokens spelled signed _ ih =>
    rw [List.append_assoc]
    exact .copyright spelled (afterCopyright?_of_spells spelled _) (ih (shown.of_append sign))
  | @letter c after tokens shownLetter unsigned _ ih =>
    exact .letter shownLetter (afterCopyright?_append_eq_none unsigned blank)
      (ih (shown.of_append [c]))

/-! ## Spelling breaks with carriage returns -/

/-- Line breaks read at least one line end each. -/
theorem le_countP_of_spellsAll
    (spelled : SpellsAll (List.replicate count .lineBreak) text) :
    count ≤ text.countP isLineEnd := by
  induction count generalizing text with
  | zero => exact Nat.zero_le _
  | succ count ih =>
    rw [List.replicate_succ] at spelled
    rcases spelled with ⟨_, back, rfl, ⟨blanks, ending, rfl, -, isBreak⟩, others⟩
    have rest := ih others
    have one : 1 ≤ ending.countP isLineEnd := by
      rcases isBreak with rfl | rfl | rfl <;> decide
    simp only [List.countP_append]
    omega

/-- Breaks with carriage returns are spelled by any number of line breaks from the number of breaks
up to the number of line ends. -/
theorem spellsAll_of_isBreaks
    {lineBreaks : Nat}
    (breaks : text.IsBreaks count)
    (least : count ≤ lineBreaks)
    (greatest : lineBreaks ≤ 2 * count) :
    SpellsAll (List.replicate lineBreaks .lineBreak) text.withReturns := by
  induction breaks generalizing lineBreaks with
  | nothing =>
    obtain rfl : lineBreaks = 0 := by omega
    rfl
  | @feed blanks rest count horizontal _ ih =>
    rw [Text.withReturns_append, Text.withReturns_feed,
      Text.withReturns_eq_self (feed_notMem_of_isHorizontalBlank horizontal)]
    by_cases halved : lineBreaks = 2 * (count + 1)
    · have others : SpellsAll (List.replicate (2 * count) .lineBreak) rest.withReturns :=
        ih (by omega) (by omega)
      subst halved
      exact ⟨blanks ++ ['\r'], '\n' :: rest.withReturns, by simp,
        ⟨blanks, ['\r'], rfl, horizontal, Or.inr (Or.inl rfl)⟩, ['\n'], rest.withReturns, rfl,
        ⟨[], ['\n'], rfl, by simp [Text.Within], Or.inr (Or.inr rfl)⟩, others⟩
    · cases lineBreaks with
      | zero => omega
      | succ lineBreaks =>
        exact ⟨blanks ++ ['\r', '\n'], rest.withReturns, by simp,
          ⟨blanks, ['\r', '\n'], rfl, horizontal, Or.inl rfl⟩, ih (by omega) (by omega)⟩

end Token

end Masthead
