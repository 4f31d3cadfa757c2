import Masthead.Proofs.Text.Shown
import Masthead.Proofs.Text.Symbol

/-!
# How a literal is cut

A literal is cut into tokens from left to right.  The cut is restated as a relation that says of
each token which characters it stands for and what may follow them, so that facts about all
literals are proved token by token.  The relation holds of exactly one list of tokens.
-/

namespace Masthead

namespace Text

/-- A leading line break is as long as it can be. -/
theorem isBreak_of_leadingBreak?
    {text ending after : Text}
    (h : leadingBreak? text = some (ending, after)) :
    ending.IsBreak ∧ (ending = ['\r'] → after.head? ≠ some '\n') := by
  unfold leadingBreak? at h
  split at h
  · simp only [Option.some.injEq, Prod.mk.injEq] at h
    rcases h with ⟨rfl, rfl⟩
    exact ⟨Or.inl rfl, by simp⟩
  · rename_i rest single
    simp only [Option.some.injEq, Prod.mk.injEq] at h
    rcases h with ⟨rfl, rfl⟩
    refine ⟨Or.inr (Or.inl rfl), fun _ first => ?_⟩
    rcases List.head?_eq_some_iff.1 first with ⟨tail, rfl⟩
    exact single tail rfl
  · simp only [Option.some.injEq, Prod.mk.injEq] at h
    rcases h with ⟨rfl, rfl⟩
    exact ⟨Or.inr (Or.inr rfl), by simp⟩
  · simp at h

theorem within_isLineEnd_of_isBreak
    {ending : Text}
    (isBreak : ending.IsBreak) :
    ending.Within isLineEnd := by
  intro c member
  rcases isBreak with rfl | rfl | rfl
  · rcases List.mem_cons.1 member with rfl | last
    · rfl
    · rw [List.mem_singleton.1 last]
      rfl
  · rw [List.mem_singleton.1 member]
    rfl
  · rw [List.mem_singleton.1 member]
    rfl

theorem isLineEnd_head_of_isBreak
    {ending rest : Text} (isBreak : ending.IsBreak) {c : Char}
    (first : (ending ++ rest).head? = some c) :
    isLineEnd c = true := by
  rcases isBreak with rfl | rfl | rfl
  all_goals
    cases first
    rfl

theorem isLineEnd_head_of_leadingBreak?
    {text ending after : Text} (broken : leadingBreak? text = some (ending, after)) {c : Char}
    (first : text.head? = some c) :
    isLineEnd c = true := by
  rw [eq_append_of_leadingBreak? broken] at first
  exact isLineEnd_head_of_isBreak (isBreak_of_leadingBreak? broken).1 first

theorem leadingBreak?_append
    {ending after : Text}
    (isBreak : ending.IsBreak)
    (whole : ending = ['\r'] → after.head? ≠ some '\n') :
    leadingBreak? (ending ++ after) = some (ending, after) := by
  rcases isBreak with rfl | rfl | rfl
  · rfl
  · cases after with
    | nil => rfl
    | cons c after =>
      have plain : c ≠ '\n' := by
        rintro rfl
        exact whole rfl rfl
      simp [leadingBreak?, plain]
  · rfl

theorem leadingBreak?_eq_none
    {text : Text}
    (plain : ∀ c, text.head? = some c → isLineEnd c = false) :
    leadingBreak? text = none := by
  cases broken : leadingBreak? text with
  | none => rfl
  | some found =>
    cases text with
    | nil => simp [leadingBreak?] at broken
    | cons c rest =>
      have ends := isLineEnd_head_of_leadingBreak? broken rfl
      rw [plain c rfl] at ends
      cases ends

theorem not_isLineEnd_of_leadingBreak?
    {text : Text} (plain : leadingBreak? text = none) {c : Char}
    (first : text.head? = some c) :
    isLineEnd c = false := by
  rcases List.head?_eq_some_iff.1 first with ⟨rest, rfl⟩
  simp only [isLineEnd, Bool.or_eq_false_iff, beq_eq_false_iff_ne, ne_eq]
  constructor
  · rintro rfl
    unfold leadingBreak? at plain
    split at plain <;> simp_all
  · rintro rfl
    simp [leadingBreak?] at plain

end Text

namespace Token

theorem spells_of_afterCopyright?
    {text after : Text}
    (signed : afterCopyright? text = some after) :
    ∃ sign, text = sign ++ after ∧ copyright.Spells sign := by
  unfold afterCopyright? at signed
  split at signed
  · cases signed
    exact ⟨['©'], rfl, Or.inr ⟨'©', rfl, sameLetter_refl '©'⟩⟩
  · split at signed
    · rename_i letter _ atLetter
      rcases Text.exists_of_dropWhile_eq atLetter with ⟨blanks, rfl, blankBefore⟩
      split at signed
      · rename_i isLetter
        split at signed
        · rename_i atClose
          rcases Text.exists_of_dropWhile_eq atClose with ⟨others, rfl, blankAfter⟩
          cases signed
          refine ⟨'(' :: (blanks ++ letter :: (others ++ [')'])), by simp, Or.inl ?_⟩
          exact ⟨'(', blanks, letter, others, ')', rfl, sameLetter_refl '(', blankBefore, isLetter,
            blankAfter, sameLetter_refl ')'⟩
        · simp at signed
      · simp at signed
    · simp at signed
  · simp at signed

theorem eq_of_sameLetter_symbol
    {expected c : Char}
    (symbol : isSymbol expected = true)
    (same : sameLetter expected c = true) :
    c = expected :=
  eq_of_sameLetter_of_isSymbol symbol (sameLetter_symm same)

/-- What spells a copyright sign is recognised as one, whatever follows. -/
theorem afterCopyright?_of_spells
    {sign : Text}
    (spelled : copyright.Spells sign)
    (rest : Text) :
    afterCopyright? (sign ++ rest) = some rest := by
  rcases spelled with
    ⟨opening, before, letter, after, closing, rfl, opens, blankBefore, isLetter, blankAfter, closes⟩
      | ⟨c, rfl, isSign⟩
  · obtain rfl := eq_of_sameLetter_symbol rfl opens
    obtain rfl := eq_of_sameLetter_symbol rfl closes
    have letterShown : isBlank letter = false := isBlank_eq_of_sameLetter (sameLetter_symm isLetter)
    have first : (before ++ letter :: (after ++ ')' :: rest)).dropWhile isBlank =
        letter :: (after ++ ')' :: rest) := by
      rw [List.dropWhile_append_of_pos blankBefore,
        List.dropWhile_cons_of_neg (by simp [letterShown])]
    have second : (after ++ ')' :: rest).dropWhile isBlank = ')' :: rest := by
      rw [List.dropWhile_append_of_pos blankAfter, List.dropWhile_cons_of_neg (by decide)]
    simp only [List.cons_append, List.append_assoc, List.nil_append]
    rw [afterCopyright?]
    simp only [first, isLetter, if_true, second]
  · obtain rfl := eq_of_sameLetter_symbol rfl isSign
    rfl

/-- A copyright sign ends in something shown. -/
theorem exists_concat_of_spells_copyright {sign : Text} (spelled : copyright.Spells sign) :
    ∃ init c, sign = init ++ [c] ∧ isBlank c = false := by
  rcases spelled with
    ⟨opening, before, letter, after, closing, rfl, -, -, -, -, closes⟩ | ⟨c, rfl, isSign⟩
  · exact ⟨opening :: (before ++ letter :: after), closing, by simp,
      isBlank_eq_of_sameLetter (sameLetter_symm closes)⟩
  · exact ⟨[], c, rfl, isBlank_eq_of_sameLetter (sameLetter_symm isSign)⟩

/-- The tokens that a literal is cut into, said one token at a time. -/
inductive CutsInto : Text → List Token → Prop
  | nothing : CutsInto [] []
  | lineBreak
      {blanks ending after : Text} {tokens : List Token}
      (horizontal : blanks.Within isHorizontalBlank)
      (isBreak : ending.IsBreak)
      (whole : ending = ['\r'] → after.head? ≠ some '\n')
      (others : CutsInto after tokens) :
      CutsInto (blanks ++ (ending ++ after)) (.lineBreak :: tokens)
  | blanks
      {run after : Text} {tokens : List Token}
      (occupied : run ≠ [])
      (horizontal : run.Within isHorizontalBlank)
      (boundary : ∀ c, after.head? = some c → isBlank c = false)
      (others : CutsInto after tokens) :
      CutsInto (run ++ after) (.blanks :: tokens)
  | copyright
      {sign after : Text} {tokens : List Token}
      (spelled : Token.copyright.Spells sign)
      (signed : afterCopyright? (sign ++ after) = some after)
      (others : CutsInto after tokens) :
      CutsInto (sign ++ after) (.copyright :: tokens)
  | letter
      {c : Char} {after : Text} {tokens : List Token}
      (shown : isBlank c = false)
      (unsigned : afterCopyright? (c :: after) = none)
      (others : CutsInto after tokens) :
      CutsInto (c :: after) (.letter c :: tokens)

/-- A literal is cut into its tokens. -/
theorem cutsInto_ofLiteral (literal : Text) : CutsInto literal (ofLiteral literal) := by
  fun_induction ofLiteral literal with
  | case1 => exact .nothing
  | case2 c tail ending after broken ih =>
    rcases Text.exists_of_dropWhile_eq (rfl : (c :: tail).dropWhile isHorizontalBlank = _) with
      ⟨blanks, place, horizontal⟩
    rw [Text.eq_append_of_leadingBreak? broken] at place
    rcases Text.isBreak_of_leadingBreak? broken with ⟨isBreak, whole⟩
    rw [place]
    exact .lineBreak horizontal isBreak whole ih
  | case3 c tail unbroken horizontal ih =>
    rcases Text.exists_of_dropWhile_eq (rfl : tail.dropWhile isHorizontalBlank = _) with
      ⟨run, place, others⟩
    have whole : c :: tail = (c :: run) ++ tail.dropWhile isHorizontalBlank := by
      rw [List.cons_append, ← place]
    rw [whole]
    refine .blanks (List.cons_ne_nil c run) ?_ ?_ ih
    · rintro d (_ | ⟨_, member⟩)
      · exact horizontal
      · exact others d member
    · intro d first
      rw [List.dropWhile_cons_of_pos horizontal] at unbroken
      have noEnd := Text.not_isLineEnd_of_leadingBreak? unbroken first
      have noBlank := Text.head?_dropWhile_fails first
      simpa [isHorizontalBlank, noEnd] using noBlank
  | case4 c tail unbroken shown after signed ih =>
    rcases spells_of_afterCopyright? signed with ⟨sign, place, spelled⟩
    rw [place] at signed ⊢
    exact .copyright spelled signed ih
  | case5 c tail unbroken shown unsigned ih =>
    rw [List.dropWhile_cons_of_neg shown] at unbroken
    have noEnd := Text.not_isLineEnd_of_leadingBreak? unbroken rfl
    refine .letter ?_ unsigned ih
    simpa [isHorizontalBlank, noEnd] using shown

theorem ofLiteral_of_leadingBreak?
    {literal ending after : Text}
    (broken : Text.leadingBreak? (literal.dropWhile isHorizontalBlank) = some (ending, after)) :
    ofLiteral literal = .lineBreak :: ofLiteral after := by
  rw [ofLiteral.eq_def]
  split
  · simp [Text.leadingBreak?] at broken
  · split
    · rename_i again
      rw [broken] at again
      cases again
      rfl
    · rename_i unbroken
      rw [broken] at unbroken
      cases unbroken

theorem ofLiteral_of_blanks
    {c : Char} {tail : Text}
    (unbroken : Text.leadingBreak? (tail.dropWhile isHorizontalBlank) = none)
    (horizontal : isHorizontalBlank c = true) :
    ofLiteral (c :: tail) = .blanks :: ofLiteral (tail.dropWhile isHorizontalBlank) := by
  rw [ofLiteral.eq_def]
  dsimp only
  split
  · rename_i broken
    rw [List.dropWhile_cons_of_pos horizontal, unbroken] at broken
    cases broken
  · rw [if_pos horizontal]

theorem ofLiteral_of_shown
    {c : Char} {tail : Text}
    (shown : isBlank c = false) :
    ofLiteral (c :: tail) =
      match afterCopyright? (c :: tail) with
      | some after => .copyright :: ofLiteral after
      | none => .letter c :: ofLiteral tail := by
  have plain : ¬ isHorizontalBlank c = true := by
    simp [isHorizontalBlank, shown]
  rw [ofLiteral.eq_def]
  dsimp only
  split
  · rename_i broken
    rw [List.dropWhile_cons_of_neg plain] at broken
    have ends := Text.isLineEnd_head_of_leadingBreak? broken rfl
    rw [isBlank_of_isLineEnd ends] at shown
    cases shown
  · rw [if_neg plain]
    split <;> simp_all

theorem exists_cons_of_spells_copyright {sign : Text} (spelled : copyright.Spells sign) :
    ∃ c tail, sign = c :: tail ∧ isBlank c = false := by
  rcases spelled with ⟨opening, before, letter, after, closing, rfl, opens, -⟩ | ⟨c, rfl, isSign⟩
  · exact ⟨opening, _, rfl, isBlank_eq_of_sameLetter (sameLetter_symm opens)⟩
  · exact ⟨c, _, rfl, isBlank_eq_of_sameLetter (sameLetter_symm isSign)⟩

/-- A literal is cut into no other tokens. -/
theorem CutsInto.ofLiteral_eq
    {literal : Text} {tokens : List Token}
    (cut : CutsInto literal tokens) :
    ofLiteral literal = tokens := by
  induction cut with
  | nothing => rw [ofLiteral.eq_def]
  | @lineBreak blanks ending after tokens horizontal isBreak whole _ ih =>
    have boundary : ∀ c, (ending ++ after).head? = some c → isHorizontalBlank c = false := by
      intro c first
      simp [isHorizontalBlank, Text.isLineEnd_head_of_isBreak isBreak first]
    have broken :
        Text.leadingBreak? ((blanks ++ (ending ++ after)).dropWhile isHorizontalBlank) =
          some (ending, after) := by
      rw [List.dropWhile_append_of_pos horizontal, Text.dropWhile_eq_self_of_head? boundary]
      exact Text.leadingBreak?_append isBreak whole
    rw [ofLiteral_of_leadingBreak? broken, ih]
  | @blanks run after tokens occupied horizontal boundary _ ih =>
    cases run with
    | nil => exact absurd rfl occupied
    | cons c run =>
      have others : ∀ d ∈ run, isHorizontalBlank d = true :=
        fun d member => horizontal d (List.mem_cons_of_mem c member)
      have left : (run ++ after).dropWhile isHorizontalBlank = after := by
        rw [List.dropWhile_append_of_pos others]
        apply Text.dropWhile_eq_self_of_head?
        intro d first
        simp [isHorizontalBlank, boundary d first]
      have unbroken : Text.leadingBreak? ((run ++ after).dropWhile isHorizontalBlank) = none := by
        rw [left]
        apply Text.leadingBreak?_eq_none
        intro d first
        by_contra ends
        have blank := isBlank_of_isLineEnd (Bool.not_eq_false _ ▸ ends)
        rw [boundary d first] at blank
        cases blank
      rw [List.cons_append, ofLiteral_of_blanks unbroken (horizontal c List.mem_cons_self), left,
        ih]
  | @copyright sign after tokens spelled signed _ ih =>
    rcases exists_cons_of_spells_copyright spelled with ⟨c, tail, rfl, shown⟩
    rw [List.cons_append] at signed ⊢
    simp only [ofLiteral_of_shown shown, signed, ih]
  | @letter c after tokens shown unsigned _ ih =>
    simp only [ofLiteral_of_shown shown, unsigned, ih]

end Token

end Masthead
