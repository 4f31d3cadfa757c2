import Masthead.Pattern.Groups

/-!
# The groups of a printed pattern

The capturing groups of a printed text are found from left to right: each opens with a parenthesis
that no backslash precedes and no `?:` follows, has the next number, and encloses what stands before
the parenthesis that closes it.

A text is balanced if it closes every parenthesis it opens.  The groups of a balanced text do not
depend on what follows it, and what follows only numbers its groups after them.  Every pattern is
printed as a balanced text, so the groups of a pattern made of parts are those of its parts.
-/

namespace Masthead

/-- A capturing group of a printed text: its number, the index at which it opens, and what stands
between its parentheses. -/
structure PrintedGroup where
  number : Nat
  start : Nat
  enclosed : Text
  deriving DecidableEq

namespace PrintedGroup

/-- What a printed text holds up to the parenthesis that closes a group, while some others stand
open inside the group. -/
def beforeClosing : (inside : Nat) → Text → Text
  | _, [] => []
  | inside, '\\' :: c :: rest => '\\' :: c :: beforeClosing inside rest
  | inside, '(' :: rest => '(' :: beforeClosing (inside + 1) rest
  | 0, ')' :: _ => []
  | inside + 1, ')' :: rest => ')' :: beforeClosing inside rest
  | inside, c :: rest => c :: beforeClosing inside rest

/-- The capturing groups of a printed text that begins at an index, in the order in which they
open, numbered from a number on. -/
def allFrom (number index : Nat) : Text → List PrintedGroup
  | [] => []
  | '\\' :: _ :: rest => allFrom number (index + 2) rest
  | '(' :: '?' :: ':' :: rest => allFrom number (index + 3) rest
  | '(' :: rest => ⟨number, index, beforeClosing 0 rest⟩ :: allFrom (number + 1) (index + 1) rest
  | _ :: rest => allFrom number (index + 1) rest

/-- All capturing groups of a printed text, numbered from one. -/
def all (printed : Text) : List PrintedGroup := allFrom 1 0 printed

/-- Whether a group opens in a stretch of the printed text. -/
def opensIn (start length : Nat) (group : PrintedGroup) : Bool :=
  start ≤ group.start && group.start < start + length

/-! ## One character -/

theorem beforeClosing_escaped (inside : Nat) (c : Char) (rest : Text) :
    beforeClosing inside ('\\' :: c :: rest) = '\\' :: c :: beforeClosing inside rest := by
  rw [beforeClosing]

theorem beforeClosing_opening (inside : Nat) (rest : Text) :
    beforeClosing inside ('(' :: rest) = '(' :: beforeClosing (inside + 1) rest := by
  rw [beforeClosing]

theorem beforeClosing_plain
    {c : Char}
    (noBackslash : c ≠ '\\')
    (noOpening : c ≠ '(')
    (noClosing : c ≠ ')')
    (inside : Nat)
    (rest : Text) :
    beforeClosing inside (c :: rest) = c :: beforeClosing inside rest := by
  rw [beforeClosing] <;> simp_all

theorem allFrom_escaped (number index : Nat) (c : Char) (rest : Text) :
    allFrom number index ('\\' :: c :: rest) = allFrom number (index + 2) rest := by
  rw [allFrom]

theorem allFrom_silent (number index : Nat) (rest : Text) :
    allFrom number index ('(' :: '?' :: ':' :: rest) = allFrom number (index + 3) rest := by
  rw [allFrom]

theorem allFrom_capturing
    {rest : Text}
    (capturing : ¬ ['?', ':'] <+: rest)
    (number index : Nat) :
    allFrom number index ('(' :: rest) =
      ⟨number, index, beforeClosing 0 rest⟩ :: allFrom (number + 1) (index + 1) rest := by
  rw [allFrom]
  rintro tail rfl
  exact capturing ⟨tail, rfl⟩

theorem allFrom_plain
    {c : Char}
    (noBackslash : c ≠ '\\')
    (noOpening : c ≠ '(')
    (number index : Nat)
    (rest : Text) :
    allFrom number index (c :: rest) = allFrom number (index + 1) rest := by
  rw [allFrom] <;> simp_all

/-! ## A whole text -/

theorem length_allFrom (number index : Nat) (text : Text) :
    (allFrom number index text).length = openings text := by
  fun_induction allFrom number index text with
  | case1 => rfl
  | case2 number index c rest ih => rw [ih, openings_escaped]
  | case3 number index rest ih => rw [ih, openings]
  | case4 number index rest capturing ih =>
    rw [List.length_cons, ih, openings]
    exact capturing
  | case5 number index c rest noEscape noSilent noOpening ih =>
    rw [ih, openings]
    · exact noEscape
    · exact noSilent
    · exact noOpening

/-- Groups are numbered in the order in which they open. -/
theorem map_number_allFrom (number index : Nat) (text : Text) :
    (allFrom number index text).map (·.number) = List.range' number (openings text) := by
  rw [← length_allFrom number index text]
  fun_induction allFrom number index text with
  | case1 => rfl
  | case2 number index c rest ih | case3 number index rest ih => exact ih
  | case4 number index rest _ ih =>
    rw [List.map_cons, ih, List.length_cons, List.range'_succ]
  | case5 number index c rest _ _ _ ih => exact ih

/-- A parenthesis after a backslash opens no group, nor does one before a question mark and a
colon. -/
example : all "\\((?:(a)|(b\\)))".toList = [⟨1, 5, ['a']⟩, ⟨2, 9, ['b', '\\', ')']⟩] := by
  decide

/-- Groups open inside the text that has them. -/
theorem bounds_of_mem_allFrom
    {number index : Nat} {text : Text} {group : PrintedGroup}
    (member : group ∈ allFrom number index text) :
    index ≤ group.start ∧ group.start < index + text.length := by
  fun_induction allFrom number index text with
  | case1 => cases member
  | case2 _ _ _ _ ih | case3 _ _ _ ih | case5 _ _ _ _ _ _ _ ih =>
    have bounds := ih member
    simp only [List.length_cons]
    omega
  | case4 number index rest _ ih =>
    rw [List.length_cons]
    rcases List.mem_cons.1 member with rfl | later
    · exact ⟨Nat.le_refl index, by dsimp only; omega⟩
    · have bounds := ih later
      omega

theorem not_opensIn_of_lt
    {start length : Nat} {group : PrintedGroup}
    (early : group.start < start) :
    ¬ opensIn start length group = true := by
  simp only [opensIn, Bool.and_eq_true, decide_eq_true_eq]
  omega

theorem filter_opensIn_allFrom (number index : Nat) (text : Text) :
    (allFrom number index text).filter (opensIn index text.length) = allFrom number index text := by
  rw [List.filter_eq_self]
  intro group member
  simpa [opensIn] using bounds_of_mem_allFrom member

theorem filter_opensIn_of_apart
    {number index start length : Nat} {text : Text}
    (apart : index + text.length ≤ start ∨ start + length ≤ index) :
    (allFrom number index text).filter (opensIn start length) = [] := by
  rw [List.filter_eq_nil_iff]
  intro group member
  have bounds := bounds_of_mem_allFrom member
  simp only [opensIn, Bool.and_eq_true, decide_eq_true_eq]
  omega

end PrintedGroup

/-! ## Balanced texts -/

/-- Whether a character neither escapes the next one nor opens or closes a group. -/
def isUnmarked (c : Char) : Bool := c != '\\' && c != '(' && c != ')'

theorem isUnmarked_iff {c : Char} : isUnmarked c = true ↔ c ≠ '\\' ∧ c ≠ '(' ∧ c ≠ ')' := by
  simp [isUnmarked, and_assoc]

/-- A printed text that closes every parenthesis it opens; the character after a backslash counts
for nothing. -/
inductive IsBalanced : Text → Prop
  | nil : IsBalanced []
  | escaped (c : Char) {rest : Text} : IsBalanced rest → IsBalanced ('\\' :: c :: rest)
  | plain {c : Char} {rest : Text} :
      isUnmarked c = true → IsBalanced rest → IsBalanced (c :: rest)
  | silent {body rest : Text} :
      IsBalanced body → IsBalanced rest → IsBalanced ('(' :: '?' :: ':' :: (body ++ ')' :: rest))
  | capturing {body rest : Text} :
      ¬ ['?', ':'] <+: body → IsBalanced body → IsBalanced rest →
        IsBalanced ('(' :: (body ++ ')' :: rest))

namespace IsBalanced

open PrintedGroup

variable {front back : Text}

theorem append (balanced : IsBalanced front) (balancedToo : IsBalanced back) :
    IsBalanced (front ++ back) := by
  induction balanced with
  | nil => exact balancedToo
  | escaped c _ ih => exact .escaped c ih
  | plain unmarked _ ih => exact .plain unmarked ih
  | silent inside _ _ ih =>
    simpa only [List.cons_append, List.append_assoc] using IsBalanced.silent inside ih
  | capturing captures inside _ _ ih =>
    simpa only [List.cons_append, List.append_assoc] using IsBalanced.capturing captures inside ih

theorem of_all {text : Text} (unmarked : text.all isUnmarked = true) : IsBalanced text := by
  induction text with
  | nil => exact .nil
  | cons c rest ih =>
    rw [List.all_cons, Bool.and_eq_true] at unmarked
    exact .plain unmarked.1 (ih unmarked.2)

/-- A balanced text closes no group that opens before it. -/
theorem beforeClosing_append (balanced : IsBalanced front) (inside : Nat) (rest : Text) :
    beforeClosing inside (front ++ rest) = front ++ beforeClosing inside rest := by
  induction balanced generalizing inside rest with
  | nil => rfl
  | escaped c _ ih =>
    rw [List.cons_append, List.cons_append, beforeClosing_escaped, ih]
    rfl
  | plain unmarked _ ih =>
    rcases isUnmarked_iff.1 unmarked with ⟨noBackslash, noOpening, noClosing⟩
    rw [List.cons_append, beforeClosing_plain noBackslash noOpening noClosing, ih]
    rfl
  | silent _ _ ihBody ihRest =>
    simp only [List.cons_append, List.append_assoc]
    rw [beforeClosing_opening, beforeClosing_plain (by decide) (by decide) (by decide),
      beforeClosing_plain (by decide) (by decide) (by decide), ihBody, beforeClosing, ihRest]
  | capturing _ _ _ ihBody ihRest =>
    simp only [List.cons_append, List.append_assoc]
    rw [beforeClosing_opening, ihBody, beforeClosing, ihRest]

theorem beforeClosing_closing (balanced : IsBalanced front) (rest : Text) :
    beforeClosing 0 (front ++ ')' :: rest) = front := by
  rw [balanced.beforeClosing_append, beforeClosing, List.append_nil]

/-- Whether a group captures is seen before it is closed. -/
theorem not_silent_append_closing
    {body : Text}
    (captures : ¬ ['?', ':'] <+: body)
    (rest : Text) :
    ¬ ['?', ':'] <+: body ++ ')' :: rest := by
  rintro ⟨tail, same⟩
  cases body with
  | nil => cases same
  | cons c body =>
    cases body with
    | nil => cases same
    | cons d body =>
      cases same
      exact captures ⟨body, rfl⟩

/-- The groups of a balanced text are the same whatever follows it, and those that follow are
numbered after them. -/
theorem allFrom_append (balanced : IsBalanced front) (number index : Nat) (rest : Text) :
    allFrom number index (front ++ rest) =
      allFrom number index front ++
        allFrom (number + openings front) (index + front.length) rest := by
  have closing : ∀ number index rest,
      allFrom number index (')' :: rest) = allFrom number (index + 1) rest :=
    allFrom_plain (by decide) (by decide)
  -- The number of openings is the length of a list that the induction rewrites as well.
  rw [← length_allFrom number index front]
  induction balanced generalizing number index rest with
  | nil => rfl
  | escaped c _ ih =>
    simp only [List.cons_append, allFrom_escaped, List.length_cons]
    rw [ih]
    congr 2
    omega
  | plain unmarked _ ih =>
    rcases isUnmarked_iff.1 unmarked with ⟨noBackslash, noOpening, -⟩
    simp only [List.cons_append, allFrom_plain noBackslash noOpening, List.length_cons]
    rw [ih]
    congr 2
    omega
  | silent inside _ ihBody ihRest =>
    simp only [List.cons_append, List.append_assoc, allFrom_silent, ihBody, closing, ihRest,
      List.length_append, List.length_cons]
    congr 3
    all_goals omega
  | capturing captures inside _ ihBody ihRest =>
    simp only [List.cons_append, List.append_assoc]
    rw [allFrom_capturing (not_silent_append_closing captures _),
      allFrom_capturing (not_silent_append_closing captures _), inside.beforeClosing_closing,
      inside.beforeClosing_closing]
    simp only [ihBody, closing, ihRest, List.length_append, List.length_cons, List.append_assoc,
      List.cons_append]
    congr 4
    all_goals omega

theorem openings_append (balanced : IsBalanced front) (rest : Text) :
    openings (front ++ rest) = openings front + openings rest := by
  have lengths := congrArg List.length (balanced.allFrom_append 1 0 rest)
  simpa only [List.length_append, length_allFrom] using lengths

/-- Only the groups of a balanced part of a text open in it. -/
theorem filter_opensIn_append
    {part rest : Text} {number index start length : Nat}
    (balanced : IsBalanced front)
    (balancedToo : IsBalanced part)
    (fromPart : index + front.length ≤ start)
    (toPart : start + length ≤ index + front.length + part.length) :
    (allFrom number index (front ++ (part ++ rest))).filter (opensIn start length) =
      (allFrom (number + openings front) (index + front.length) part).filter
        (opensIn start length) := by
  rw [balanced.allFrom_append, balancedToo.allFrom_append, List.filter_append, List.filter_append,
    filter_opensIn_of_apart (Or.inl fromPart), filter_opensIn_of_apart (Or.inr toPart),
    List.nil_append, List.append_nil]

end IsBalanced

/-! ## Printed patterns -/

theorem CharSet.isBalanced_print (set : CharSet) : IsBalanced set.print := by
  cases set with
  | letter c =>
    rw [print]
    by_cases listed : c ∈ reserved
    · rw [escape_of_reserved listed]
      exact .escaped c .nil
    · have unmarked : isUnmarked c = true := by
        rw [isUnmarked_iff]
        refine ⟨?_, ?_, ?_⟩
        all_goals
          rintro rfl
          exact listed (by decide)
      rw [escape_of_not_reserved listed]
      exact .plain unmarked .nil
  | blank => exact .escaped 's' .nil
  | decimal => exact .escaped 'd' .nil
  | inLine | dash => exact .of_all rfl
  | horizontalBlank =>
    have opening : IsBalanced ['[', '^'] := .of_all rfl
    have closing : IsBalanced [']'] := .of_all rfl
    exact opening.append (.escaped 'S' (.escaped 'r' (.escaped 'n' closing)))

namespace Pattern

theorem isBalanced_toDigits (count : Nat) : IsBalanced (Nat.toDigits 10 count) := by
  refine .of_all (List.all_eq_true.2 fun c member => ?_)
  have digit : c.isDigit = true :=
    Nat.isDigit_of_mem_toDigits (by decide) (by decide) member
  rw [isUnmarked_iff]
  refine ⟨?_, ?_, ?_⟩
  all_goals
    rintro rfl
    cases digit

/-- A pattern is printed as a balanced text. -/
theorem isBalanced_print (pattern : Pattern) : IsBalanced pattern.print := by
  induction pattern with
  | empty => exact .nil
  | one set => exact set.isBalanced_print
  | times count set =>
    have closing : IsBalanced ['\x7d'] := .of_all rfl
    rw [print, List.append_assoc]
    exact set.isBalanced_print.append (.plain rfl ((isBalanced_toDigits count).append closing))
  | star set | plus set | lazyStar set => exact set.isBalanced_print.append (.of_all rfl)
  | lineBreak =>
    have single : IsBalanced ['|', '\\', 'r', '|', '\\', 'n'] :=
      .plain rfl (.escaped 'r' (.plain rfl (.escaped 'n' .nil)))
    exact .silent (.escaped 'r' (.escaped 'n' single)) .nil
  | sequence first second ihFirst ihSecond => exact ihFirst.append ihSecond
  | either first second ihFirst ihSecond =>
    have bar : IsBalanced ('|' :: second.print) := .plain rfl ihSecond
    simpa [print] using IsBalanced.silent (ihFirst.append bar) .nil
  | optional body ih =>
    have mark : IsBalanced ['?'] := .of_all rfl
    simpa [print] using IsBalanced.silent ih mark
  | group body ih =>
    have captures : ¬ ['?', ':'] <+: body.print := by
      rintro ⟨tail, same⟩
      have first : (body.print ++ [')']).head? ≠ some '?' := body.head_print_append (by decide)
      rw [← same] at first
      exact first rfl
    exact .capturing captures ih .nil

end Pattern

end Masthead
