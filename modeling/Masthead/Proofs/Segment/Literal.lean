import Masthead.Proofs.Pattern.Preference
import Masthead.Proofs.Segment.Token

/-!
# A literal reads itself

The pattern of a literal prefers to read the literal itself where the literal stands.  A literal
that ends in a horizontal blank reads the blanks that follow along with it, and no other literal
reads on, as long as its end does not part a carriage return from its line feed.  So it reads just
itself if the text stops there: either it ends in a line feed, or what follows shows something.
-/

namespace Masthead

namespace Text

/-- Reading a literal stops before a rest: the literal ends in a line feed, or the rest does not
begin with a blank. -/
def StopsBefore (literal rest : Text) : Prop :=
  ∀ c, literal.getLast? = some c → c = '\n' ∨ ∀ d, rest.head? = some d → isBlank d = false

end Text

namespace Token

theorem prefers_letter
    {expected c : Char}
    (same : sameLetter expected c = true)
    (rest : Text) :
    (Pattern.one (.letter expected)).Prefers (c :: rest) [] rest :=
  Pattern.prefers_one (.letter expected) same rest

/-- A copyright sign is read as it is spelled, whatever follows. -/
theorem prefers_copyrightPattern
    {sign : Text}
    (spelled : copyright.Spells sign)
    (rest : Text) :
    copyrightPattern.Prefers (sign ++ rest) [] rest := by
  rcases spelled with
    ⟨opening, before, letter, after, closing, rfl, opens, blankBefore, isLetter, blankAfter, closes⟩
      | ⟨c, rfl, isSign⟩
  · have letterShown : isBlank letter = false := isBlank_eq_of_sameLetter (sameLetter_symm isLetter)
    have closingShown : isBlank closing = false := isBlank_eq_of_sameLetter (sameLetter_symm closes)
    apply Pattern.Prefers.either_left
    simp only [List.cons_append, List.append_assoc, List.nil_append]
    refine (prefers_letter opens _).sequence ?_
    refine (Pattern.prefers_star .blank blankBefore ?_).sequence ?_
    · rintro _ ⟨⟩
      exact letterShown
    refine (prefers_letter isLetter _).sequence ?_
    refine (Pattern.prefers_star .blank blankAfter ?_).sequence ?_
    · rintro _ ⟨⟩
      exact closingShown
    exact prefers_letter closes rest
  · apply Pattern.Prefers.either_right
    · rintro _ _ place ⟨_, back, rfl, ⟨d, rfl, opens⟩, -⟩
      cases place
      have impossible := sameLetter_trans isSign (sameLetter_symm opens)
      exact absurd impossible (by decide)
    · exact prefers_letter isSign rest

/-- A line break is read with the blanks before it, and as a whole. -/
theorem prefers_lineBreakPattern
    {blanks ending rest : Text}
    (horizontal : blanks.Within isHorizontalBlank)
    (isBreak : ending.IsBreak)
    (whole : ending = ['\r'] → rest.head? ≠ some '\n') :
    lineBreak.pattern.Prefers (blanks ++ (ending ++ rest)) [] rest := by
  apply Pattern.Prefers.silent_sequence
  · apply Pattern.prefers_star .horizontalBlank horizontal
    intro c first
    have ends := Text.isLineEnd_head_of_isBreak isBreak first
    simp [CharSet.accepts, isHorizontalBlank, ends]
  · exact Pattern.prefers_lineBreak isBreak whole

/-- A pattern prefers to read a literal before a rest, and no more of the rest than the blanks that
follow a literal that ends in a horizontal blank. -/
def ReadsOver (pattern : Pattern) (literal rest : Text) : Prop :=
  ∃ extra below : Text, rest = extra ++ below ∧ extra.Within isBlank ∧
    (extra ≠ [] → ∃ c, literal.getLast? = some c ∧ isHorizontalBlank c = true) ∧
      pattern.Prefers (literal ++ rest) [] below

/-- What a literal reads before it comes to its end does not change how far it reads. -/
theorem ReadsOver.cons
    {first second : Pattern} {front after rest : Text}
    (prefers : first.Prefers (front ++ (after ++ rest)) [] (after ++ rest))
    (others : ReadsOver second after rest) :
    ReadsOver (.sequence first second) (front ++ after) rest := by
  rcases others with ⟨extra, below, rfl, areBlank, ends, prefersRest⟩
  refine ⟨extra, below, rfl, areBlank, ?_, ?_⟩
  · intro more
    rcases ends more with ⟨c, final, horizontal⟩
    exact ⟨c, by rw [List.getLast?_append, final, Option.some_or], horizontal⟩
  · rw [List.append_assoc]
    exact prefers.silent_sequence prefersRest

/-- The pattern of a literal prefers to read the literal, and perhaps blanks that follow it, unless
a break stands across its end. -/
theorem readsOver_ofLiteral
    {literal rest : Text}
    (untorn : literal.getLast? = some '\r' → rest.head? ≠ some '\n') :
    ReadsOver (Pattern.concat ((ofLiteral literal).map pattern)) literal rest := by
  have cut := cutsInto_ofLiteral literal
  generalize ofLiteral literal = tokens at cut ⊢
  have untornAfter : ∀ {front after : Text},
      ((front ++ after).getLast? = some '\r' → rest.head? ≠ some '\n') →
        after.getLast? = some '\r' → rest.head? ≠ some '\n' := by
    intro front after untornBoth final
    exact untornBoth (by rw [List.getLast?_append, final, Option.some_or])
  -- Only blanks at the very end read on; every other token ends inside the literal or by itself.
  induction cut with
  | nothing => exact ⟨[], rest, rfl, by simp [Text.Within], by simp, Pattern.prefers_empty rest⟩
  | @lineBreak blanks ending after tokens horizontal isBreak whole _ ih =>
    rw [← List.append_assoc] at untorn ⊢
    refine ReadsOver.cons ?_ (ih (untornAfter untorn))
    rw [List.append_assoc]
    apply prefers_lineBreakPattern horizontal isBreak
    intro single first
    cases after with
    | cons c after => exact whole single first
    | nil => exact untorn (by simp [single]) first
  | @blanks run after tokens occupied horizontal boundary _ ih =>
    have blankRun : run.Within isBlank :=
      fun c member => isBlank_of_isHorizontalBlank (horizontal c member)
    cases after with
    | cons d after =>
      refine ReadsOver.cons ?_ (ih (untornAfter untorn))
      exact Pattern.prefers_plus .blank occupied blankRun fun c first => boundary c first
    | nil =>
      rename_i cut
      have none_left : tokens = [] := by
        rw [← cut.ofLiteral_eq, ofLiteral.eq_def]
      subst none_left
      have ends := horizontal _ (List.getLast_mem occupied)
      refine ⟨rest.takeWhile isBlank, rest.dropWhile isBlank,
        List.takeWhile_append_dropWhile.symm, fun c member => List.mem_takeWhile_imp member,
        fun _ => ⟨_, by rw [List.append_nil, List.getLast?_eq_some_getLast occupied], ends⟩, ?_⟩
      have readOn : (Pattern.plus .blank).Prefers
          ((run ++ rest.takeWhile isBlank) ++ rest.dropWhile isBlank) []
            (rest.dropWhile isBlank) := by
        apply Pattern.prefers_plus .blank (by simp [occupied])
        · intro c member
          rcases List.mem_append.1 member with inRun | inRest
          · exact blankRun c inRun
          · exact List.mem_takeWhile_imp inRest
        · intro c first
          exact Text.head?_dropWhile_fails first
      rw [List.append_assoc, List.takeWhile_append_dropWhile] at readOn
      rw [List.append_nil]
      exact readOn.silent_sequence (Pattern.prefers_empty _)
  | @copyright sign after tokens spelled signed _ ih =>
    exact ReadsOver.cons (prefers_copyrightPattern spelled _) (ih (untornAfter untorn))
  | @letter c after tokens shown unsigned _ ih =>
    have itself : (Pattern.one (.letter c)).Prefers ([c] ++ (after ++ rest)) [] (after ++ rest) :=
      prefers_letter (sameLetter_refl c) (after ++ rest)
    exact ReadsOver.cons itself (ih (untornAfter (List.singleton_append ▸ untorn)))

/-- The pattern of a literal prefers to read the literal itself if the text stops there. -/
theorem prefers_ofLiteral
    {literal rest : Text}
    (stops : literal.StopsBefore rest) :
    (Pattern.concat ((ofLiteral literal).map pattern)).Prefers (literal ++ rest) [] rest := by
  have untorn : literal.getLast? = some '\r' → rest.head? ≠ some '\n' := by
    intro final first
    rcases stops '\r' final with impossible | boundary
    · exact absurd impossible (by decide)
    · exact absurd (boundary '\n' first) (by decide)
  rcases readsOver_ofLiteral untorn with ⟨extra, below, rfl, areBlank, ends, prefers⟩
  cases extra with
  | nil => exact prefers
  | cons d extra =>
    rcases ends (List.cons_ne_nil d extra) with ⟨c, final, horizontal⟩
    rcases stops c final with rfl | boundary
    · exact absurd horizontal (by decide)
    · have shown := boundary d rfl
      rw [areBlank d List.mem_cons_self] at shown
      cases shown

end Token

end Masthead
