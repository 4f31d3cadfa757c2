import Masthead.Proofs.Segment.Agreement
import Masthead.Proofs.Segment.Breaks

/-!
# Texts next to each other

Where texts follow one another, the tokens of one may read blanks that were written for the next.
How the blanks are divided does not matter: what all the tokens read together ends in the same
place, as long as something is shown there.  For a token that reads too much either leaves too
little to the others, or what it leaves is spelled by the others as well.
-/

namespace Masthead

namespace Token

variable {tokens : List Token} {front back rest blanks : Text}

theorem ne_nil_of_spells
    {token : Token} {u : Text}
    (spelled : token.Spells u) :
    u ≠ [] := by
  cases token with
  | lineBreak =>
    rcases spelled with ⟨before, ending, rfl, -, rfl | rfl | rfl⟩ <;> simp
  | blanks => exact spelled.1
  | copyright =>
    rcases exists_concat_of_spells_copyright spelled with ⟨init, c, rfl, -⟩
    simp
  | letter expected =>
    rcases spelled with ⟨c, rfl, -⟩
    simp

/-- A token that spells blanks spells nothing else. -/
theorem within_isBlank_of_spells
    {token : Token} {u v : Text}
    (first : token.Spells u)
    (second : token.Spells v)
    (blank : u.Within isBlank) :
    v.Within isBlank := by
  cases token with
  | lineBreak => exact within_isBlank_of_spells_lineBreak second
  | blanks => exact second.2
  | copyright =>
    rcases exists_concat_of_spells_copyright first with ⟨init, c, rfl, shown⟩
    rw [blank c (by simp)] at shown
    cases shown
  | letter expected =>
    rcases first with ⟨c, rfl, same⟩
    rcases second with ⟨d, rfl, sameToo⟩
    intro e member
    rw [List.mem_singleton.1 member,
      ← isBlank_eq_of_sameLetter (sameLetter_trans (sameLetter_symm same) sameToo)]
    exact blank c List.mem_cons_self

/-- A line break that is read across a line end is a carriage return and a line feed on either side.
-/
theorem eq_feed_of_getLast?
    {c : Char}
    (final : front.getLast? = some c)
    (ends : isLineEnd c = true)
    (occupied : rest ≠ [])
    (spelled : lineBreak.Spells (front ++ rest)) :
    c = '\r' ∧ rest = ['\n'] := by
  rcases List.getLast?_eq_some_iff.1 final with ⟨init, rfl⟩
  rcases spelled with ⟨before, ending, place, horizontal, isBreak⟩
  have outside : c ∉ before := by
    intro member
    have inLine := horizontal c member
    simp [isHorizontalBlank, ends] at inLine
  rcases List.append_eq_append_iff.1 place with ⟨surplus, rfl, -⟩ | ⟨surplus, split, rfl⟩
  · exact absurd (by simp) outside
  · -- The line end lies behind the blanks, so it is the first half of the break.
    cases surplus using List.reverseRecOn with
    | nil =>
      rw [List.append_nil] at split
      rw [← split] at outside
      exact absurd (by simp) outside
    | append_singleton surplus d _ =>
      rw [← List.append_assoc] at split
      have same := List.singleton_inj.1 (List.append_inj' split rfl).2
      subst same
      rcases List.exists_cons_of_ne_nil occupied with ⟨e, more, rfl⟩
      cases surplus with
      | nil => rcases isBreak with both | single | single <;> simp_all
      | cons f surplus =>
        have lengths : ((f :: surplus ++ [c]) ++ e :: more).length ≤ 2 := by
          rcases isBreak with both | single | single <;> simp_all
        simp at lengths
        omega

/-- Where a token reads on from the end of its own spelling over some blanks, it spells both. -/
theorem spells_append_of_longer
    {token : Token} {last : Text} {c : Char}
    (spelled : token.Spells last)
    (spelledToo : token.Spells (front ++ blanks))
    (blank : blanks.Within isBlank)
    (occupied : blanks ≠ [])
    (final : last.getLast? = some c)
    (finalToo : front.getLast? = some c) :
    token.Spells (last ++ blanks) := by
  cases token with
  | blanks => exact ⟨by simp [occupied], spelled.2.append blank⟩
  | letter expected =>
    rcases spelledToo with ⟨d, place, -⟩
    have lengths := congrArg List.length place
    have more := List.length_pos_of_ne_nil occupied
    have less := List.length_pos_of_mem (List.mem_of_getLast? finalToo)
    simp only [List.length_append, List.length_singleton] at lengths
    omega
  | copyright =>
    rcases exists_concat_of_spells_copyright spelledToo with ⟨others, d, place, shown⟩
    have last := congrArg List.getLast? place
    rw [List.getLast?_append_of_ne_nil _ occupied, List.getLast?_concat] at last
    rw [blank d (List.mem_of_getLast? last)] at shown
    cases shown
  | lineBreak =>
    rcases spelled with ⟨before, ending, rfl, horizontal, isBreak⟩
    have ends : isLineEnd c = true ∧ (c = '\r' → ending = ['\r']) := by
      rcases isBreak with rfl | rfl | rfl <;> simp at final <;> subst final <;> simp [isLineEnd]
    rcases eq_feed_of_getLast? finalToo ends.1 occupied spelledToo with ⟨isReturn, rfl⟩
    rw [ends.2 isReturn]
    exact ⟨before, ['\r', '\n'], by simp, horizontal, Or.inl rfl⟩

/-- Blanks at the end of what some tokens spell are spelled along with any shorter part before them
that the tokens spell. -/
theorem spellsAll_append_of_longer
    {above text : Text}
    (longer : SpellsAll tokens (above ++ (text ++ blanks)))
    (spelled : SpellsAll tokens text)
    (blank : blanks.Within isBlank) :
    SpellsAll tokens (text ++ blanks) := by
  induction tokens using List.reverseRecOn generalizing above text blanks with
  | nil =>
    simp only [SpellsAll, List.append_eq_nil_iff] at longer ⊢
    exact longer.2
  | append_singleton tokens token ih =>
    rcases spellsAll_append_iff.1 spelled with
      ⟨front, _, rfl, spelledFront, last, _, rfl, spelledLast, rfl⟩
    rcases spellsAll_append_iff.1 longer with
      ⟨frontToo, _, place, spelledFrontToo, lastToo, _, rfl, spelledLastToo, rfl⟩
    simp only [List.append_nil] at place ⊢
    have withLast : token.Spells (last ++ blanks) → SpellsAll (tokens ++ [token])
        ((front ++ last) ++ blanks) := by
      intro spelledBoth
      rw [List.append_assoc]
      exact spellsAll_append_iff.2 ⟨front, _, rfl, spelledFront, last ++ blanks, [], by simp,
        spelledBoth, rfl⟩
    -- Where the last token is read from the blanks alone, its own spelling is blank as well.
    have inBlanks : ∀ more, frontToo = above ++ (front ++ last) ++ more → blanks = more ++ lastToo →
        SpellsAll (tokens ++ [token]) ((front ++ last) ++ blanks) := by
      rintro more rfl rfl
      rcases blank.of_append with ⟨blankMore, blankLast⟩
      have blankOwn := within_isBlank_of_spells spelledLastToo spelledLast blankLast
      simp only [List.append_assoc] at spelledFrontToo
      have others := ih spelledFrontToo spelledFront (blankOwn.append blankMore)
      exact spellsAll_append_iff.2 ⟨_, lastToo, by simp, others, lastToo, [], by simp,
        spelledLastToo, rfl⟩
    rw [← List.append_assoc above] at place
    rcases List.append_eq_append_iff.1 place with ⟨more, split, splitToo⟩ | ⟨more, split, rfl⟩
    · exact inBlanks more split splitToo
    · cases more using List.reverseRecOn with
      | nil => exact inBlanks [] (by simpa using split.symm) rfl
      | append_singleton more c _ =>
        by_cases occupied : blanks = []
        · rw [occupied] at withLast ⊢
          exact withLast (by rwa [List.append_nil])
        · have final := congrArg List.getLast? split
          rw [← List.append_assoc, List.getLast?_append_of_ne_nil _ (ne_nil_of_spells spelledLast),
            ← List.append_assoc, List.getLast?_concat] at final
          exact withLast (spells_append_of_longer spelledLast spelledLastToo blank occupied final
            List.getLast?_concat)

/-- A token is read as it is spelled if any further blanks that it might read lead to the same or to
nothing. -/
theorem run_pattern_of_longer
    {α : Type} {next : List Stretch → Text → Option α} {result : α}
    {token : Token}
    (spelled : token.Spells front)
    (taken : next [] rest = some result)
    (longer : ∀ more left, rest = more ++ left → more.Within isBlank →
      next [] left = none ∨ next [] left = some result) :
    token.pattern.run (front ++ rest) next = some result := by
  have accepted : (next [] rest).isSome = true := by
    rw [taken]
    rfl
  cases token with
  | letter expected =>
    rcases spelled with ⟨c, rfl, same⟩
    exact (prefers_letter same rest next accepted).trans taken
  | copyright => exact (prefers_copyrightPattern spelled rest next accepted).trans taken
  | blanks =>
    rcases List.exists_cons_of_ne_nil spelled.1 with ⟨c, front, rfl⟩
    have isBlank_c : CharSet.blank.accepts c = true := spelled.2 c List.mem_cons_self
    rw [List.cons_append, pattern, Pattern.run, if_pos isBlank_c]
    apply Pattern.runStar_of_longer _ taken
    · intro more left place blank
      exact longer more left place blank
    · exact fun d member => spelled.2 d (List.mem_cons_of_mem c member)
  | lineBreak =>
    rcases spelled with ⟨before, ending, rfl, horizontal, isBreak⟩
    have broken : Pattern.lineBreak.run (ending ++ rest) (fun more left => next ([] ++ more) left) =
        some result :=
      Pattern.runBreak_of_longer isBreak taken fun left place =>
        longer ['\n'] left place (by simp [Text.Within, isBlank])
    have boundary : ∀ c, (ending ++ rest).head? = some c →
        CharSet.horizontalBlank.accepts c = false := by
      intro c first
      simp [CharSet.accepts, isHorizontalBlank, Text.isLineEnd_head_of_isBreak isBreak first]
    rw [List.append_assoc, pattern, Pattern.run,
      Pattern.prefers_star .horizontalBlank horizontal boundary]
    · exact broken
    · rw [broken]
      rfl

/-- What some tokens spell before something shown is read as a whole, however the blanks in it are
divided. -/
theorem prefers_concat_of_spellsAll
    (spelled : SpellsAll tokens front)
    (boundary : ∀ c, rest.head? = some c → isBlank c = false) :
    (Pattern.concat (tokens.map pattern)).Prefers (front ++ rest) [] rest := by
  induction tokens generalizing front with
  | nil =>
    cases spelled
    exact Pattern.prefers_empty rest
  | cons token tokens ih =>
    rcases spelled with ⟨front, back, rfl, spelledFront, others⟩
    intro α next taken
    rcases Option.isSome_iff_exists.1 taken with ⟨result, value⟩
    rw [value, List.append_assoc, List.map_cons, Pattern.concat_cons, Pattern.run]
    have reads : ∀ {text : Text}, SpellsAll tokens text →
        (Pattern.concat (tokens.map pattern)).run (text ++ rest)
          (fun more left => next ([] ++ more) left) = some result := by
      intro text spelledText
      rw [ih spelledText, List.nil_append, value]
      rw [List.nil_append, value]
      rfl
    apply run_pattern_of_longer spelledFront (reads others)
    intro more left place blank
    cases outcome : (Pattern.concat (tokens.map pattern)).run left
        (fun more left => next ([] ++ more) left) with
    | none => exact Or.inl rfl
    | some other =>
      right
      rcases Pattern.exists_reads_of_run outcome with ⟨text, captures, below, rfl, read, -⟩
      have spelledText := accepts_concat_iff.1 read.accepts
      have alike : (back ++ rest).trimLeft = (text ++ below).trimLeft := by
        rw [place, Text.trimLeft_append_of_within blank]
      have shown := trimLeft_eq_of_spellsAll others spelledText alike
      rw [Text.trimLeft, Text.dropWhile_eq_self_of_head? boundary] at shown
      rcases Text.exists_of_dropWhile_eq shown.symm with ⟨blanks, rfl, blankToo⟩
      have whole : back ++ rest = (more ++ (text ++ blanks)) ++ rest := by
        rw [place]
        simp only [List.append_assoc]
      have parts := List.append_cancel_right whole
      rw [parts] at others
      rw [← outcome, ← List.append_assoc]
      exact reads (spellsAll_append_of_longer others spelledText blankToo)

end Token

end Masthead
